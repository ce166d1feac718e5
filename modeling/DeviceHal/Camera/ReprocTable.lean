import DeviceHal.Lib.Lifetime
import DeviceHal.Lib.Run
import Mathlib.Data.List.Range

namespace DeviceHal.Camera

open DeviceHal.Lib DeviceHal.Lib.Lifetime

/-- The reprocess channels of the postprocessor, with all that happened to channels so far. -/
structure ReprocTable where
  mBInited : Bool
  mTotalNumReproc : Int := 0
  mPPChannels : Nat → Option Nat := fun _ => none
  nextChannel : Nat := 0
  log : List LifeEvent := []

/-- What `start` gets and what its calls answer, for each channel. -/
structure ReprocEnv where
  pSrcChannel : Bool := true
  needReprocess : Bool := true
  reprocCount : Int
  addReprocChannel : Nat → Bool
  startChannel : Nat → Bool

inductive ReprocOp where
  | start (env : ReprocEnv)
  | stop

namespace ReprocTable

def channels (s : ReprocTable) : List Nat :=
  (List.range s.mTotalNumReproc.toNat).filterMap s.mPPChannels

def logs (s : ReprocTable) (es : List LifeEvent) : ReprocTable := { s with log := s.log ++ es }

/-- Each channel is stopped and deleted. The entries of the table stay as they are. -/
def deleteChannels (s : ReprocTable) : ReprocTable := s.logs (deletes s.channels)

def setChannel (s : ReprocTable) (i : Nat) (ch : Option Nat) : ReprocTable :=
  { s with mPPChannels := Function.update s.mPPChannels i ch }

/-- A new channel in slot `i`. The channel in front of it is its input. -/
def newChannel (s : ReprocTable) (i : Nat) (input : Option Nat) : ReprocTable :=
  { s with
    mPPChannels := Function.update s.mPPChannels i (some s.nextChannel)
    nextChannel := s.nextChannel + 1
    log := s.log ++ (input.toList.map .used ++ [.created s.nextChannel, .used s.nextChannel]) }

/-- Creates and starts `n` channels from slot `i` on. -/
def createChannels (env : ReprocEnv) : Nat → Nat → Option Nat → ReprocTable → Bool × ReprocTable
  | 0, _, _, s => (true, s)
  | n + 1, i, input, s =>
    if !env.addReprocChannel i then
      (false, (s.logs (input.toList.map .used)).setChannel i none)
    else
      let ch := s.nextChannel
      let s := s.newChannel i input
      if !env.startChannel i then (false, (s.logs [.deleted ch]).setChannel i none)
      else createChannels env n (i + 1) (some ch) s

def start (s : ReprocTable) (env : ReprocEnv) : Bool × ReprocTable :=
  if !s.mBInited then (false, s)
  else if !env.pSrcChannel then (false, s)
  else if env.needReprocess then
    createChannels env env.reprocCount.toNat 0 none
      { s.deleteChannels with mTotalNumReproc := env.reprocCount }
  else (true, s)

def stop (s : ReprocTable) : ReprocTable := { s.deleteChannels with mTotalNumReproc := 0 }

def destroy (s : ReprocTable) : ReprocTable := { s.deleteChannels with mTotalNumReproc := 0 }

def reprocStep (s : ReprocTable) : ReprocOp → Option ReprocTable
  | .start env => some (s.start env).2
  | .stop => some s.stop

/-- Each entry in use denotes a live channel, and no two the same. -/
structure TableLive (s : ReprocTable) : Prop where
  live : ∀ (i : Nat) ch, (i : Int) < s.mTotalNumReproc → s.mPPChannels i = some ch → Live s.log ch
  distinct : ∀ (i j : Nat) ch, (i : Int) < s.mTotalNumReproc → (j : Int) < s.mTotalNumReproc →
    s.mPPChannels i = some ch → s.mPPChannels j = some ch → i = j

/-- Each channel was deleted once, with no use of it from then on. -/
structure DeletedOnce (s : ReprocTable) : Prop where
  once : ∀ ch, .created ch ∈ s.log → s.log.count (.deleted ch) = 1
  ordered : Ordered s.log

/-- The table is right after every call, and after the destructor all is deleted once. -/
def ReprocRight (s : ReprocTable) (ops : List ReprocOp) : Prop :=
  Always reprocStep TableLive s ops ∧
    ∀ t, runOps reprocStep s ops = some t → t.destroy.DeletedOnce

end ReprocTable

def ReprocEnv.FailsAt (env : ReprocEnv) (i : Nat) : Prop :=
  env.addReprocChannel i = false ∨ env.startChannel i = false

namespace ReprocTable

/-- A start that fails at a channel finds no entry left behind it, among those it is asked for. -/
def NoneBehind (s : ReprocTable) : ReprocOp → Prop
  | .start env =>
    s.mBInited = true → env.pSrcChannel = true → env.needReprocess = true →
      ∀ i j : Nat, (∀ k < i, ¬ env.FailsAt k) → env.FailsAt i → i < j →
        (j : Int) < env.reprocCount → s.mPPChannels j = none
  | .stop => True

variable {s t : ReprocTable} {n i : Nat} {input : Option Nat} {env : ReprocEnv}

/-- The live channels are those of the first `n` entries. -/
structure Owned (n : Nat) (s : ReprocTable) : Prop where
  live : ∀ i ch, i < n → s.mPPChannels i = some ch → Live s.log ch
  distinct : ∀ i j ch, i < n → j < n → s.mPPChannels i = some ch → s.mPPChannels j = some ch → i = j
  owner : ∀ ch, Live s.log ch → ∃ i < n, s.mPPChannels i = some ch
  ordered : Ordered s.log
  numbered : Numbered s.log s.nextChannel
  known : ∀ i ch, s.mPPChannels i = some ch → ch < s.nextChannel

theorem mem_channels {ch : Nat} :
    ch ∈ s.channels ↔ ∃ i < s.mTotalNumReproc.toNat, s.mPPChannels i = some ch := by
  simp [channels, List.mem_filterMap]

theorem Owned.nodup (hs : s.Owned s.mTotalNumReproc.toNat) : s.channels.Nodup := by
  unfold channels List.Nodup
  rw [List.pairwise_filterMap]
  refine List.Pairwise.imp_of_mem (fun hi hj hne ch hch ch' hch' heq => ?_)
    (List.nodup_range (n := s.mTotalNumReproc.toNat))
  subst heq
  exact hne (hs.distinct _ _ ch (List.mem_range.mp hi) (List.mem_range.mp hj) hch hch')

theorem Owned.deleted (hs : s.Owned s.mTotalNumReproc.toNat) (total : Int) :
    Owned 0 { s.deleteChannels with mTotalNumReproc := total } := by
  have hlive : ∀ ch ∈ s.channels, Live s.log ch := by
    intro ch hch
    obtain ⟨i, hi, hget⟩ := mem_channels.mp hch
    exact hs.live i ch hi hget
  have hcreated : ∀ ch, .created ch ∉ deletes s.channels := fun ch h => by
    simpa using (mem_deletes.mp h).2
  refine ⟨fun i ch hi => absurd hi (Nat.not_lt_zero i), fun i j ch hi => absurd hi (Nat.not_lt_zero i),
    fun ch hch => ?_, ?_, ?_, hs.known⟩
  · have hkept : .deleted ch ∉ deletes s.channels := fun h =>
      hch.2 (List.mem_append_right s.log h)
    obtain ⟨i, hi, hget⟩ := hs.owner ch ((live_append_iff (hcreated ch) hkept).mp hch)
    exact absurd (mem_deletes.mpr ⟨mem_channels.mpr ⟨i, hi, hget⟩, Or.inr rfl⟩ :
      .deleted ch ∈ deletes s.channels) hkept
  · exact hs.ordered.append (ordered_deletes hs.nodup) fun e he =>
      (hlive _ (mem_deletes.mp he).1).2
  · refine hs.numbered.append fun e he => ⟨?_, ?_⟩
    · exact (hs.numbered.live_iff.mp (hlive _ (mem_deletes.mp he).1)).1
    · rintro ch rfl
      exact hcreated ch he

theorem live_uses (s : ReprocTable) (input : Option Nat) {ch : Nat} :
    Live (s.logs (input.toList.map .used)).log ch ↔ Live s.log ch := by
  cases input <;> simp [logs, Live]

theorem Owned.uses (hs : s.Owned n) (hinput : ∀ ch ∈ input, Live s.log ch) :
    Owned n (s.logs (input.toList.map .used)) := by
  have hused : ∀ e ∈ input.toList.map LifeEvent.used, ∃ ch, Live s.log ch ∧ e = .used ch := by
    intro e he
    obtain ⟨ch, hch, rfl⟩ := List.mem_map.mp he
    exact ⟨ch, hinput ch (Option.mem_toList.mp hch), rfl⟩
  have hordered : Ordered (input.toList.map LifeEvent.used) := by
    cases input <;> simp [Ordered]
  refine ⟨fun i ch hi hget => (live_uses s input).mpr (hs.live i ch hi hget), hs.distinct,
    fun ch hch => hs.owner ch ((live_uses s input).mp hch), ?_, ?_, hs.known⟩
  · refine hs.ordered.append hordered fun e he => ?_
    obtain ⟨ch, hch, rfl⟩ := hused e he
    exact hch.2
  · refine hs.numbered.append fun e he => ?_
    obtain ⟨ch, hch, rfl⟩ := hused e he
    exact ⟨(hs.numbered.live_iff.mp hch).1, fun _ hdeleted => by cases hdeleted⟩

theorem Owned.clears (hs : s.Owned n) : Owned n (s.setChannel n none) := by
  have hget : ∀ i, i < n → (s.setChannel n none).mPPChannels i = s.mPPChannels i :=
    fun i hi => Function.update_of_ne (Nat.ne_of_lt hi) _ _
  refine ⟨fun i ch hi h => hs.live i ch hi (hget i hi ▸ h),
    fun i j ch hi hj h h' => hs.distinct i j ch hi hj (hget i hi ▸ h) (hget j hj ▸ h'),
    fun ch hch => ?_, hs.ordered, hs.numbered, fun i ch h => ?_⟩
  · obtain ⟨i, hi, h⟩ := hs.owner ch hch
    exact ⟨i, hi, (hget i hi).trans h⟩
  · by_cases hi : i = n
    · subst hi
      simp [setChannel] at h
    · exact hs.known i ch (by simpa [setChannel, hi] using h)

theorem newChannel_eq (s : ReprocTable) (i : Nat) (input : Option Nat) :
    s.newChannel i input = (s.logs (input.toList.map .used)).newChannel i none := by
  simp [newChannel, logs]

theorem live_newChannel (hs : Numbered s.log s.nextChannel) {ch : Nat} :
    Live (s.newChannel i none).log ch ↔ Live s.log ch ∨ ch = s.nextChannel := by
  have hfresh := hs.not_deleted
  simp only [Live, newChannel, Option.toList_none, List.map_nil, List.nil_append, List.mem_append,
    List.mem_cons, LifeEvent.created.injEq, reduceCtorEq, List.not_mem_nil, or_false]
  constructor
  · grind
  grind

theorem Owned.newChannel (hs : s.Owned n) : Owned (n + 1) (s.newChannel n none) := by
  have hself : (s.newChannel n none).mPPChannels n = some s.nextChannel := by
    simp [ReprocTable.newChannel]
  have hother : ∀ i, i ≠ n → (s.newChannel n none).mPPChannels i = s.mPPChannels i :=
    fun i hi => Function.update_of_ne hi _ _
  have hlive : ∀ ch, Live (s.newChannel n none).log ch ↔ Live s.log ch ∨ ch = s.nextChannel :=
    fun _ => live_newChannel hs.numbered
  have hfresh : ∀ i, s.mPPChannels i ≠ some s.nextChannel := fun i h =>
    Nat.lt_irrefl _ (hs.known i _ h)
  have hlog : (s.newChannel n none).log =
      s.log ++ [.created s.nextChannel] ++ [.used s.nextChannel] := by
    simp [ReprocTable.newChannel]
  refine ⟨fun i ch hi h => (hlive ch).mpr ?_, fun i j ch hi hj h h' => ?_, fun ch hch => ?_, ?_, ?_,
    fun i ch h => ?_⟩
  · by_cases hin : i = n
    · grind
    · exact Or.inl (hs.live i ch (by omega) (hother i hin ▸ h))
  · by_cases hin : i = n <;> by_cases hjn : j = n
    · rw [hin, hjn]
    · grind
    · grind
    · exact hs.distinct i j ch (by omega) (by omega) (hother i hin ▸ h) (hother j hjn ▸ h')
  · rcases (hlive ch).mp hch with hold | rfl
    · obtain ⟨i, hi, h⟩ := hs.owner ch hold
      grind
    · exact ⟨n, Nat.lt_succ_self n, hself⟩
  · rw [hlog]
    have hcreate : Ordered (s.log ++ [.created s.nextChannel]) :=
      hs.ordered.snoc hs.numbered.not_deleted
    refine hcreate.snoc fun h => ?_
    rcases List.mem_append.mp h with h | h
    · exact hs.numbered.not_deleted h
    · simp at h
  · rw [hlog]
    refine hs.numbered.create.append fun e he => ?_
    rw [List.mem_singleton.mp he]
    exact ⟨Nat.lt_succ_self _, fun _ => nofun⟩
  · by_cases hin : i = n
    · subst hin
      rw [hself] at h
      cases h
      exact Nat.lt_succ_self _
    · exact Nat.lt_succ_of_lt (hs.known i ch (hother i hin ▸ h))

theorem Owned.deleteNew (hs : s.Owned n) :
    Owned n (((s.newChannel n none).logs [.deleted s.nextChannel]).setChannel n none) := by
  have hnew := hs.newChannel
  have hget : ∀ i, i < n →
      (((s.newChannel n none).logs [.deleted s.nextChannel]).setChannel n none).mPPChannels i =
        s.mPPChannels i := by
    intro i hi
    have hne := Nat.ne_of_lt hi
    simp [setChannel, logs, ReprocTable.newChannel, hne]
  have hlive : ∀ ch, Live ((s.newChannel n none).log ++ [.deleted s.nextChannel]) ch ↔
      Live s.log ch := by
    intro ch
    by_cases hch : ch = s.nextChannel
    · subst hch
      refine iff_of_false (fun h => h.2 (by simp)) fun h => ?_
      exact Nat.lt_irrefl _ (hs.numbered.live_iff.mp h).1
    · rw [live_append_iff (by simp) (by simpa using hch), live_newChannel hs.numbered]
      exact or_iff_left hch
  refine ⟨fun i ch hi h => (hlive ch).mpr (hs.live i ch hi (hget i hi ▸ h)),
    fun i j ch hi hj h h' => hs.distinct i j ch hi hj (hget i hi ▸ h) (hget j hj ▸ h'),
    fun ch hch => ?_, ?_, ?_, fun i ch h => ?_⟩
  · obtain ⟨i, hi, h⟩ := hs.owner ch ((hlive ch).mp hch)
    exact ⟨i, hi, (hget i hi).trans h⟩
  · exact hnew.ordered.snoc ((live_newChannel hs.numbered).mpr (Or.inr rfl)).2
  · refine hnew.numbered.append fun e he => ?_
    rw [List.mem_singleton.mp he]
    exact ⟨Nat.lt_succ_self _, fun _ => nofun⟩
  · by_cases hin : i = n
    · subst hin
      simp [setChannel] at h
    · exact hnew.known i ch (by simpa [setChannel, hin, logs] using h)

/-- Creating up to slot `k`: behind it the table is as before, and if it was not to be the end the
slot is null. No channel of before comes to life. -/
structure CreatesTo (env : ReprocEnv) (s : ReprocTable) (i n k : Nat) (t : ReprocTable) : Prop where
  reached : i ≤ k ∧ k ≤ i + n
  started : ∀ j, i ≤ j → j < k → ¬ env.FailsAt j
  stopped : k < i + n → env.FailsAt k ∧ t.mPPChannels k = none
  owned : t.Owned k
  behind : ∀ j, k < j → t.mPPChannels j = s.mPPChannels j
  total : t.mTotalNumReproc = s.mTotalNumReproc
  inited : t.mBInited = s.mBInited
  old : ∀ ch, ch < s.nextChannel → Live t.log ch → Live s.log ch

theorem CreatesTo.zero (hs : s.Owned i) : CreatesTo env s i 0 i s where
  reached := ⟨Nat.le_refl i, Nat.le_refl i⟩
  started _ hij hji := absurd hji (Nat.not_lt.mpr hij)
  stopped h := absurd h (Nat.lt_irrefl i)
  owned := hs
  behind _ _ := rfl
  total := rfl
  inited := rfl
  old _ _ h := h

theorem CreatesTo.fails (hfail : env.FailsAt i) (howned : t.Owned i)
    (hnull : t.mPPChannels i = none) (hbehind : ∀ j, i < j → t.mPPChannels j = s.mPPChannels j)
    (htotal : t.mTotalNumReproc = s.mTotalNumReproc) (hinited : t.mBInited = s.mBInited)
    (hold : ∀ ch, ch < s.nextChannel → Live t.log ch → Live s.log ch) :
    CreatesTo env s i (n + 1) i t where
  reached := ⟨Nat.le_refl i, Nat.le_add_right i (n + 1)⟩
  started _ hij hji := absurd hji (Nat.not_lt.mpr hij)
  stopped _ := ⟨hfail, hnull⟩
  owned := howned
  behind := hbehind
  total := htotal
  inited := hinited
  old := hold

theorem CreatesTo.succ {s' : ReprocTable} {k : Nat} (hfine : ¬ env.FailsAt i)
    (hbehind : ∀ j, i < j → s'.mPPChannels j = s.mPPChannels j)
    (htotal : s'.mTotalNumReproc = s.mTotalNumReproc) (hinited : s'.mBInited = s.mBInited)
    (hnext : s.nextChannel ≤ s'.nextChannel)
    (hold : ∀ ch, ch < s.nextChannel → Live s'.log ch → Live s.log ch)
    (h : CreatesTo env s' (i + 1) n k t) : CreatesTo env s i (n + 1) k t where
  reached := by
    obtain ⟨hik, hkn⟩ := h.reached
    omega
  started j hij hjk := by
    rcases Nat.eq_or_lt_of_le hij with rfl | hlt
    · exact hfine
    · exact h.started j hlt hjk
  stopped hk := h.stopped (by omega)
  owned := h.owned
  behind j hj := by
    obtain ⟨hik, -⟩ := h.reached
    rw [h.behind j hj, hbehind j (by omega)]
  total := h.total.trans htotal
  inited := h.inited.trans hinited
  old ch hch hlive := hold ch hch (h.old ch (Nat.lt_of_lt_of_le hch hnext) hlive)

theorem createChannels_spec (hs : s.Owned i) (hinput : ∀ ch ∈ input, Live s.log ch) :
    ∃ k, CreatesTo env s i n k (createChannels env n i input s).2 := by
  induction n generalizing i input s with
  | zero => exact ⟨i, .zero hs⟩
  | succ n ih =>
    have hused := hs.uses hinput
    have hnewLive : ∀ ch, ch < s.nextChannel → Live (s.newChannel i input).log ch →
        Live s.log ch := by
      intro ch hch hlive
      rw [newChannel_eq, live_newChannel hused.numbered, live_uses] at hlive
      exact hlive.resolve_right (Nat.ne_of_lt hch)
    have hbehind : ∀ j, i < j → (s.newChannel i input).mPPChannels j = s.mPPChannels j :=
      fun j hj => Function.update_of_ne (Nat.ne_of_gt hj) _ _
    unfold createChannels
    by_cases hadd : env.addReprocChannel i = true
    case neg =>
      rw [if_pos (by simpa using hadd)]
      refine ⟨i, .fails (Or.inl (by simpa using hadd)) hused.clears (Function.update_self _ _ _)
        (fun j hj => Function.update_of_ne (Nat.ne_of_gt hj) _ _) rfl rfl fun ch _ hlive => ?_⟩
      exact (live_uses s input).mp hlive
    rw [if_neg (by simpa using hadd)]
    by_cases hstart : env.startChannel i = true
    case neg =>
      simp only
      rw [if_pos (by simpa using hstart)]
      have howned := hused.deleteNew
      rw [← newChannel_eq] at howned
      refine ⟨i, .fails (Or.inr (by simpa using hstart)) howned (Function.update_self _ _ _)
        (fun j hj => ?_) rfl rfl fun ch hch hlive => ?_⟩
      · exact (Function.update_of_ne (Nat.ne_of_gt hj) _ _).trans (hbehind j hj)
      · refine hnewLive ch hch ((live_append_iff (by simp) ?_).mp hlive)
        simpa using Nat.ne_of_lt hch
    simp only
    rw [if_neg (by simpa using hstart)]
    have hfine : ¬ env.FailsAt i := by simp [ReprocEnv.FailsAt, hadd, hstart]
    have howned := hused.newChannel
    rw [← newChannel_eq] at howned
    have hlive : ∀ ch ∈ some s.nextChannel, Live (s.newChannel i input).log ch := by
      intro ch hch
      cases hch
      rw [newChannel_eq]
      exact (live_newChannel hused.numbered).mpr (Or.inr rfl)
    obtain ⟨k, hk⟩ := ih howned hlive
    exact ⟨k, hk.succ hfine hbehind rfl rfl (Nat.le_succ _) hnewLive⟩

/-- The invariant of a run without a dangling entry. -/
def OwnedInv (s : ReprocTable) : Prop := s.Owned s.mTotalNumReproc.toNat

theorem Owned.widen (hs : s.Owned n) {m : Nat} (hnm : n ≤ m)
    (hnull : ∀ j, n ≤ j → j < m → s.mPPChannels j = none) : s.Owned m where
  live i ch hi h := by
    rcases Nat.lt_or_ge i n with hin | hin
    · exact hs.live i ch hin h
    · rw [hnull i hin hi] at h
      cases h
  distinct i j ch hi hj h h' := by
    rcases Nat.lt_or_ge i n with hin | hin
    · rcases Nat.lt_or_ge j n with hjn | hjn
      · exact hs.distinct i j ch hin hjn h h'
      · rw [hnull j hjn hj] at h'
        cases h'
    · rw [hnull i hin hi] at h
      cases h
  owner ch hch := by
    obtain ⟨i, hi, h⟩ := hs.owner ch hch
    exact ⟨i, Nat.lt_of_lt_of_le hi hnm, h⟩
  ordered := hs.ordered
  numbered := hs.numbered
  known := hs.known

theorem OwnedInv.tableLive (hs : s.OwnedInv) : s.TableLive where
  live i ch hi h := hs.live i ch (by omega) h
  distinct i j ch hi hj h h' := hs.distinct i j ch (by omega) (by omega) h h'

theorem OwnedInv.destroy (hs : s.OwnedInv) : s.destroy.DeletedOnce := by
  have hend : Owned 0 s.destroy := hs.deleted 0
  refine ⟨fun ch hch => ?_, hend.ordered⟩
  have hdeleted : .deleted ch ∈ s.destroy.log := by
    by_contra hkept
    obtain ⟨i, hi, -⟩ := hend.owner ch ⟨hch, hkept⟩
    exact Nat.not_lt_zero i hi
  have hcount := hend.ordered.count_deleted_le ch
  have hpos := List.count_pos_iff.mpr hdeleted
  omega

theorem start_eq (hs : s.mBInited = true) (hsrc : env.pSrcChannel = true)
    (hneed : env.needReprocess = true) :
    (s.start env).2 = (createChannels env env.reprocCount.toNat 0 none
      { s.deleteChannels with mTotalNumReproc := env.reprocCount }).2 := by
  simp [start, hs, hsrc, hneed]

theorem start_same
    (h : ¬ (s.mBInited = true ∧ env.pSrcChannel = true ∧ env.needReprocess = true)) :
    (s.start env).2 = s := by
  unfold start
  split
  · rfl
  split
  · rfl
  split
  · simp_all
  · rfl

theorem OwnedInv.creates (hs : s.OwnedInv) (env : ReprocEnv) :
    ∃ k, CreatesTo env { s.deleteChannels with mTotalNumReproc := env.reprocCount } 0
      env.reprocCount.toNat k (createChannels env env.reprocCount.toNat 0 none
        { s.deleteChannels with mTotalNumReproc := env.reprocCount }).2 :=
  createChannels_spec (hs.deleted env.reprocCount) fun _ h => nomatch h

theorem OwnedInv.step (hs : s.OwnedInv) {op : ReprocOp} (hgood : s.NoneBehind op)
    (h : s.reprocStep op = some t) : t.OwnedInv := by
  cases op with
  | stop =>
    cases h
    exact hs.deleted 0
  | start env =>
    cases h
    by_cases hgo : s.mBInited = true ∧ env.pSrcChannel = true ∧ env.needReprocess = true
    case neg => rwa [start_same hgo]
    obtain ⟨hinited, hsrc, hneed⟩ := hgo
    rw [start_eq hinited hsrc hneed]
    obtain ⟨k, hk⟩ := hs.creates env
    unfold OwnedInv
    rw [hk.total]
    refine hk.owned.widen (by simpa using hk.reached.2) fun j hkj hj => ?_
    have hcount : j < env.reprocCount.toNat := hj
    obtain ⟨hfail, hnull⟩ := hk.stopped (by omega)
    rcases Nat.eq_or_lt_of_le hkj with rfl | hlt
    · exact hnull
    · rw [hk.behind j hlt]
      exact hgood hinited hsrc hneed k j (fun l hl => hk.started l (Nat.zero_le l) hl) hfail hlt
        (by omega)

theorem OwnedInv.breaks (hs : s.OwnedInv) {op : ReprocOp} (hbad : ¬ s.NoneBehind op) :
    ∃ t, s.reprocStep op = some t ∧ ¬ t.TableLive := by
  cases op with
  | stop => exact absurd trivial hbad
  | start env =>
    refine ⟨_, rfl, fun hlive => hbad fun hinited hsrc hneed i j hfine hfail hij hj => ?_⟩
    rw [start_eq hinited hsrc hneed] at hlive
    obtain ⟨k, hk⟩ := hs.creates env
    have hki : k = i := by
      rcases Nat.lt_trichotomy k i with hlt | heq | hgt
      · exact absurd (hk.stopped (by omega)).1 (hfine k hlt)
      · exact heq
      · exact absurd hfail (hk.started i (Nat.zero_le i) hgt)
    subst hki
    cases hget : s.mPPChannels j with
    | none => rfl
    | some ch =>
      have hentry := (hk.behind j hij).trans hget
      have hch := hlive.live j ch (by rwa [hk.total]) hentry
      -- the entry is of before, and nothing of before is live
      obtain ⟨l, hl, -⟩ := (hs.deleted env.reprocCount).owner ch (hk.old ch (hs.known j ch hget) hch)
      exact absurd hl (Nat.not_lt_zero l)

theorem initial_owned (mBInited : Bool) : OwnedInv { mBInited } where
  live i _ hi := absurd hi (Nat.not_lt_zero i)
  distinct i _ _ hi := absurd hi (Nat.not_lt_zero i)
  owner _ hch := nomatch hch.1
  ordered := ordered_nil
  numbered := numbered_nil
  known _ _ h := nomatch h

theorem reprocRight_iff (mBInited : Bool) (ops : List ReprocOp) :
    ReprocRight { mBInited } ops ↔ OpsMeet reprocStep NoneBehind { mBInited } ops := by
  have hiff : Always reprocStep TableLive { mBInited } ops ↔
      OpsMeet reprocStep NoneBehind { mBInited } ops :=
    always_iff_of_keeps (fun _ (hs : OwnedInv _) => hs.tableLive)
      (fun _ _ _ hs _ hgood hstep => hs.step hgood hstep) (fun _ _ hs _ hbad => hs.breaks hbad)
      (initial_owned mBInited) (opsMeet_true _ ops)
  constructor
  · exact fun h => hiff.mp h.1
  · intro h
    refine ⟨hiff.mpr h, fun t hrun => ?_⟩
    exact (run_invariant (fun _ _ _ hs hgood hstep => OwnedInv.step hs hgood hstep)
      (initial_owned mBInited) h hrun).destroy

/-- A second start whose first channel is not created, after one that created both. The second entry
still holds the channel of the first start, and it is deleted again. -/
theorem failed_start_leaves_dangling_entry :
    ¬ ReprocRight { mBInited := true }
      [.start { reprocCount := 2, addReprocChannel := fun _ => true, startChannel := fun _ => true },
        .start { reprocCount := 2, addReprocChannel := fun _ => false,
                 startChannel := fun _ => true }] := by
  rintro ⟨-, hend⟩
  exact absurd ((hend _ rfl).once 1 (by decide)) (by decide)

end ReprocTable

end DeviceHal.Camera
