import DeviceHal.Ipacm.ClientView

namespace DeviceHal.Ipacm

open Lib

/-- History: the clients whose latest event since their interface last went down is an add. -/
structure BridgeHistory where
  lan : LanToLan := {}
  live : List (Nat × MacAddr) := []

namespace BridgeHistory

def liveStep (live : List (Nat × MacAddr)) : BridgeEvent → List (Nat × MacAddr)
  | .ifaceUp _ _ => live
  | .ifaceDown i => live.filter fun e => e.1 ≠ i
  | .clientAdd i mac => if (i, mac) ∈ live then live else (i, mac) :: live
  | .clientDel i mac => live.filter fun e => e ≠ (i, mac)

def step (props : Nat → LanProps) (s : BridgeHistory) (evt : BridgeEvent) : Option BridgeHistory :=
  some ⟨s.lan.eventCallback props evt, liveStep s.live evt⟩

/-- The clients of each interface are those that are there. -/
def Follows (s : BridgeHistory) : Prop :=
  ∀ i ∈ s.lan.mIface, ∀ mac, mac ∈ (s.lan.node i).macs ↔ (i, mac) ∈ s.live

/-- The new client is within the bounds: those of its interface, and those of the cache while the
interface is not known. -/
def WithinBounds (s : BridgeHistory) : BridgeEvent → Prop
  | .clientAdd i mac => (i, mac) ∉ s.live →
    (s.live.filter fun e => e.1 = i).length < maxNumClient ∧
      (i ∉ s.lan.mIface →
        (s.live.filter fun e => e.1 ∉ s.lan.mIface).length < maxNumCachedClientAddEvent)
  | _ => True

instance (s : BridgeHistory) (evt : BridgeEvent) : Decidable (s.WithinBounds evt) :=
  match evt with
  | .clientAdd i mac => inferInstanceAs (Decidable ((i, mac) ∉ s.live → _ ∧ (i ∉ s.lan.mIface → _)))
  | .ifaceUp .. | .ifaceDown _ | .clientDel .. => isTrue trivial

/-- While an interface is not known, no client whose add is cached is deleted, and repeated adds do
not fill the cache. -/
def EarlySafe (s : BridgeHistory) : BridgeEvent → Prop
  | .clientDel i mac => i ∉ s.lan.mIface → (i, mac) ∉ s.lan.cachedClientAddEvent
  | .clientAdd i mac => i ∉ s.lan.mIface →
    s.lan.cachedClientAddEvent.length < maxNumCachedClientAddEvent ∨
      (i, mac) ∈ s.lan.cachedClientAddEvent
  | _ => True

instance (s : BridgeHistory) (evt : BridgeEvent) : Decidable (s.EarlySafe evt) :=
  match evt with
  | .clientDel i mac =>
    inferInstanceAs (Decidable (i ∉ s.lan.mIface → (i, mac) ∉ s.lan.cachedClientAddEvent))
  | .clientAdd i _ => inferInstanceAs (Decidable (i ∉ s.lan.mIface → _ ∨ _))
  | .ifaceUp .. | .ifaceDown _ => isTrue trivial

end BridgeHistory

namespace ClientView

variable {props : Nat → LanProps} {v : ClientView} {live : List (Nat × MacAddr)} {i : Nat}
  {mac : MacAddr}

/-- The clients and the cache hold what is there, within the bounds. -/
structure Tracks (v : ClientView) (live : List (Nat × MacAddr)) : Prop where
  known : ∀ i ∈ v.mIface, ∀ mac, mac ∈ v.macs i ↔ (i, mac) ∈ live
  early : ∀ i, i ∉ v.mIface → ∀ mac, (i, mac) ∈ v.cached ↔ (i, mac) ∈ live
  none_cached : ∀ i ∈ v.mIface, ∀ mac, (i, mac) ∉ v.cached
  nodup : ∀ i ∈ v.mIface, (v.macs i).Nodup
  live_nodup : live.Nodup
  bound : ∀ i, (live.filter fun e => e.1 = i).length ≤ maxNumClient

theorem length_lt_of_mem {macs : List MacAddr} (hnodup : macs.Nodup)
    (hsub : ∀ m ∈ macs, (i, m) ∈ live) (hnew : mac ∉ macs) (hlive : (i, mac) ∈ live) :
    macs.length < (live.filter fun e => e.1 = i).length := by
  have hall : ((mac :: macs).map (Prod.mk i)).Subperm (live.filter fun e => e.1 = i) := by
    refine List.Nodup.subperm ?_ fun e he => ?_
    · refine List.Nodup.map (fun a b hab => ?_) (List.nodup_cons.mpr ⟨hnew, hnodup⟩)
      exact congrArg Prod.snd hab
    · grind
  have hle := hall.length_le
  simp only [List.length_map, List.length_cons] at hle
  omega

/-- The clients of one interface are there, and no more than fit. -/
structure Fits (i : Nat) (live : List (Nat × MacAddr)) (macs : List MacAddr) : Prop where
  nodup : macs.Nodup
  mem_live : ∀ m ∈ macs, (i, m) ∈ live
  bound : (live.filter fun e => e.1 = i).length ≤ maxNumClient

theorem ifaceAdd_of_fits (h : Fits i live (v.macs i)) (hlive : (i, mac) ∈ live) :
    ∃ macs, v.ifaceAdd i mac = v.setMacs i macs ∧ Fits i live macs ∧
      ∀ m, m ∈ macs ↔ m ∈ v.macs i ∨ m = mac := by
  unfold ifaceAdd
  split
  next hmem =>
    refine ⟨v.macs i, ?_, h, fun m => ⟨Or.inl, fun hm => hm.elim id fun he => he ▸ hmem⟩⟩
    exact ClientView.ext rfl (Function.update_eq_self ..).symm rfl
  next hmem =>
    have hlt := length_lt_of_mem h.nodup h.mem_live hmem hlive
    have hbound := h.bound
    rw [if_neg (by omega)]
    refine ⟨mac :: v.macs i, rfl, ⟨List.nodup_cons.mpr ⟨hmem, h.nodup⟩, fun m hm => ?_, h.bound⟩,
      fun m => List.mem_cons.trans or_comm⟩
    rcases List.mem_cons.mp hm with rfl | hm
    · exact hlive
    · exact h.mem_live m hm

theorem setMacs_setMacs (macs macs' : List MacAddr) :
    (v.setMacs i macs).setMacs i macs' = v.setMacs i macs' :=
  ClientView.ext rfl (Function.update_idem ..) rfl

theorem macs_setMacs_self (macs : List MacAddr) : (v.setMacs i macs).macs i = macs :=
  Function.update_self ..

theorem macs_setMacs_of_ne {j : Nat} (hj : j ≠ i) (macs : List MacAddr) :
    (v.setMacs i macs).macs j = v.macs j := Function.update_of_ne hj ..

theorem foldl_clientAdd (hi : i ∈ v.mIface) (h : Fits i live (v.macs i))
    (l : List (Nat × MacAddr)) (hl : ∀ e ∈ l, (i, e.2) ∈ live) :
    ∃ macs, l.foldl (fun v e => v.clientAdd i e.2) v = v.setMacs i macs ∧ Fits i live macs ∧
      ∀ m, m ∈ macs ↔ m ∈ v.macs i ∨ ∃ e ∈ l, e.2 = m := by
  induction l generalizing v with
  | nil =>
    refine ⟨v.macs i, ?_, h, fun m => ⟨Or.inl, fun hm => hm.resolve_right (by simp)⟩⟩
    exact ClientView.ext rfl (Function.update_eq_self ..).symm rfl
  | cons e l ih =>
    obtain ⟨macs, hadd, hfits, hmacs⟩ := ifaceAdd_of_fits h (hl e List.mem_cons_self)
    have hfirst : v.clientAdd i e.2 = v.setMacs i macs := (if_pos hi).trans hadd
    have hnext : Fits i live ((v.setMacs i macs).macs i) := by
      rw [macs_setMacs_self]
      exact hfits
    obtain ⟨macs', hfold, hfits', hmacs'⟩ :=
      @ih (v.setMacs i macs) hi hnext fun e he => hl e (List.mem_cons_of_mem _ he)
    refine ⟨macs', ?_, hfits', fun m => ?_⟩
    · rw [List.foldl_cons, hfirst, hfold, setMacs_setMacs]
    · rw [hmacs', macs_setMacs_self, hmacs, or_assoc]
      refine or_congr Iff.rfl ⟨?_, ?_⟩
      · grind
      grind

theorem Tracks.setMacs (h : Tracks v live) {live' : List (Nat × MacAddr)} {macs : List MacAddr}
    (hi : i ∈ v.mIface) (hfits : Fits i live' macs) (hmacs : ∀ m, m ∈ macs ↔ (i, m) ∈ live')
    (hother : ∀ j m, j ≠ i → ((j, m) ∈ live' ↔ (j, m) ∈ live)) (hnodup : live'.Nodup)
    (hbound : ∀ j, (live'.filter fun e => e.1 = j).length ≤ maxNumClient) :
    Tracks (v.setMacs i macs) live' := by
  refine ⟨fun j hj m => ?_, fun j hj m => ?_, h.none_cached, fun j hj => ?_, hnodup, hbound⟩
  · by_cases he : j = i
    · subst he
      rw [macs_setMacs_self]
      exact hmacs m
    · rw [macs_setMacs_of_ne he, h.known j hj, hother j m he]
  · have hne : j ≠ i := fun he => hj (he ▸ hi)
    rw [hother j m hne]
    exact h.early j hj m
  · by_cases he : j = i
    · subst he
      rw [macs_setMacs_self]
      exact hfits.nodup
    · rw [macs_setMacs_of_ne he]
      exact h.nodup j hj

theorem Tracks.clientAdd (h : Tracks v live) {live' : List (Nat × MacAddr)}
    (hlive' : live' = if (i, mac) ∈ live then live else (i, mac) :: live)
    (hbound : (i, mac) ∉ live → (live.filter fun e => e.1 = i).length < maxNumClient)
    (hsafe : i ∉ v.mIface → v.cached.length < maxNumCachedClientAddEvent ∨ (i, mac) ∈ v.cached) :
    Tracks (v.clientAdd i mac) live' := by
  have hmem : ∀ j m, (j, m) ∈ live' ↔ (j, m) ∈ live ∨ (j, m) = (i, mac) := by
    intro j m
    rw [hlive']
    split
    next hold => exact ⟨Or.inl, fun hm => hm.elim id fun he => he ▸ hold⟩
    next => exact List.mem_cons.trans or_comm
  have hnodup : live'.Nodup := by
    rw [hlive']
    split
    next => exact h.live_nodup
    next hnew => exact List.nodup_cons.mpr ⟨hnew, h.live_nodup⟩
  have hbound' : ∀ j, (live'.filter fun e => e.1 = j).length ≤ maxNumClient := by
    intro j
    rw [hlive']
    split
    next => exact h.bound j
    next hnew =>
      by_cases he : i = j
      · grind
      · have hold := h.bound j
        simpa [List.filter_cons, he] using hold
  unfold ClientView.clientAdd
  split
  next hi =>
    have hfits : Fits i live' (v.macs i) :=
      ⟨h.nodup i hi, fun m hm => (hmem i m).mpr (Or.inl ((h.known i hi m).mp hm)), hbound' i⟩
    obtain ⟨macs, hadd, hfits', hmacs⟩ := ifaceAdd_of_fits hfits ((hmem i mac).mpr (Or.inr rfl))
    rw [hadd]
    refine h.setMacs hi hfits' (fun m => ?_) (fun j m hj => ?_) hnodup hbound'
    · simp [hmacs, hmem, h.known i hi]
    grind
  next hi =>
    have hknown : ∀ j ∈ v.mIface, ∀ m, (j, m) ∈ live' ↔ (j, m) ∈ live := by
      intro j hj m
      rw [hmem]
      refine ⟨fun hm => hm.resolve_right fun he => ?_, Or.inl⟩
      cases he
      exact hi hj
    split
    · refine ⟨fun j hj m => ?_, fun j hj m => ?_, fun j hj m hc => ?_, h.nodup, hnodup, hbound'⟩
      · exact (h.known j hj m).trans (hknown j hj m).symm
      · rw [hmem, List.mem_cons, h.early j hj, or_comm]
      · rcases List.mem_cons.mp hc with he | hc
        · cases he
          exact hi hj
        · exact h.none_cached j hj m hc
    next hfull =>
      have hcached : (i, mac) ∈ v.cached := (hsafe hi).resolve_left hfull
      refine ⟨fun j hj m => ?_, fun j hj m => ?_, h.none_cached, h.nodup, hnodup, hbound'⟩
      · exact (h.known j hj m).trans (hknown j hj m).symm
      · rw [hmem, h.early j hj]
        refine ⟨Or.inl, fun hm => hm.elim id fun he => ?_⟩
        cases he
        exact (h.early i hi mac).mp hcached

theorem length_filter_filter_le (p q : Nat × MacAddr → Bool) :
    ((live.filter q).filter p).length ≤ (live.filter p).length := by
  rw [List.filter_filter, ← List.filter_filter, List.filter_comm]
  exact List.length_filter_le ..

theorem Tracks.clientDel (h : Tracks v live) (hsafe : i ∉ v.mIface → (i, mac) ∉ v.cached) :
    Tracks (v.clientDel i mac) (live.filter fun e => e ≠ (i, mac)) := by
  have hmem : ∀ j m, (j, m) ∈ live.filter (fun e => e ≠ (i, mac)) ↔
      (j, m) ∈ live ∧ (j, m) ≠ (i, mac) := by
    intro j m
    rw [List.mem_filter, decide_eq_true_iff]
  have hnodup : (live.filter fun e => e ≠ (i, mac)).Nodup := h.live_nodup.filter _
  have hbound : ∀ j, ((live.filter fun e => e ≠ (i, mac)).filter fun e => e.1 = j).length ≤
      maxNumClient := fun j => (length_filter_filter_le _ _).trans (h.bound j)
  unfold ClientView.clientDel
  split
  next hi =>
    have hmacs : v.ifaceDel i mac = v.setMacs i ((v.macs i).filter fun m => m ≠ mac) := by
      unfold ifaceDel
      split
      next => rfl
      next hnone =>
        have hall : (v.macs i).filter (fun m => m ≠ mac) = v.macs i :=
          List.filter_eq_self.mpr fun m hm => decide_eq_true fun he => hnone (he ▸ hm)
        rw [hall]
        exact ClientView.ext rfl (Function.update_eq_self ..).symm rfl
    have hiff : ∀ m, m ∈ (v.macs i).filter (fun m => m ≠ mac) ↔
        (i, m) ∈ live.filter fun e => e ≠ (i, mac) := by
      intro m
      rw [hmem, List.mem_filter, decide_eq_true_iff, h.known i hi]
      exact and_congr_right fun _ => not_congr ⟨fun he => he ▸ rfl, congrArg Prod.snd⟩
    rw [hmacs]
    refine h.setMacs hi ⟨(h.nodup i hi).filter _, fun m hm => (hiff m).mp hm, hbound i⟩ hiff
      (fun j m hj => ?_) hnodup hbound
    grind
  next hi =>
    refine ⟨fun j hj m => ?_, fun j hj m => ?_, h.none_cached, h.nodup, hnodup, hbound⟩
    · rw [hmem, h.known j hj]
      grind
    · rw [hmem, h.early j hj]
      refine (and_iff_left_of_imp fun hm he => ?_).symm
      cases he
      exact hsafe hi ((h.early i hi mac).mpr hm)

theorem Tracks.ifaceDown (h : Tracks v live) (i : Nat) :
    Tracks (v.ifaceDown i) (live.filter fun e => e.1 ≠ i) := by
  have hmem : ∀ j m, (j, m) ∈ live.filter (fun e => e.1 ≠ i) ↔ (j, m) ∈ live ∧ j ≠ i := by
    intro j m
    rw [List.mem_filter, decide_eq_true_iff]
  have hnodup : (live.filter fun e => e.1 ≠ i).Nodup := h.live_nodup.filter _
  have hbound : ∀ j, ((live.filter fun e => e.1 ≠ i).filter fun e => e.1 = j).length ≤
      maxNumClient := fun j => (length_filter_filter_le _ _).trans (h.bound j)
  unfold ClientView.ifaceDown
  split
  next hi =>
    have hiface : ∀ j, j ∈ v.mIface.filter (fun j => j ≠ i) ↔ j ∈ v.mIface ∧ j ≠ i := by
      intro j
      rw [List.mem_filter, decide_eq_true_iff]
    refine ⟨fun j hj m => ?_, fun j hj m => ?_, fun j hj m => ?_, fun j hj => ?_, hnodup, hbound⟩
    · obtain ⟨hj, hne⟩ := (hiface j).mp hj
      rw [macs_setMacs_of_ne hne, hmem]
      exact (h.known j hj m).trans (and_iff_left hne).symm
    · rw [hmem]
      by_cases he : j = i
      · subst he
        exact iff_of_false (h.none_cached j hi m) fun hm => hm.2 rfl
      · refine (h.early j (fun hj' => hj ((hiface j).mpr ⟨hj', he⟩)) m).trans ?_
        exact (and_iff_left he).symm
    · exact h.none_cached j ((hiface j).mp hj).1 m
    · obtain ⟨hj, hne⟩ := (hiface j).mp hj
      rw [macs_setMacs_of_ne hne]
      exact h.nodup j hj
  next hi =>
    have hcached : ∀ j m, (j, m) ∈ v.cached.filter (fun e => e.1 ≠ i) ↔ (j, m) ∈ v.cached ∧ j ≠ i := by
      intro j m
      rw [List.mem_filter, decide_eq_true_iff]
    refine ⟨fun j hj m => ?_, fun j hj m => ?_, fun j hj m hc => ?_, h.nodup, hnodup, hbound⟩
    · rw [hmem]
      have hne : j ≠ i := fun he => hi (he ▸ hj)
      exact (h.known j hj m).trans (and_iff_left hne).symm
    · exact (hcached j m).trans ((and_congr_left' (h.early j hj m)).trans (hmem j m).symm)
    · exact h.none_cached j hj m ((hcached j m).mp hc).1

theorem Tracks.ifaceUp (h : Tracks v live) (i : Nat) : Tracks (v.ifaceUp props i) live := by
  unfold ClientView.ifaceUp
  split
  next hnew =>
    have hi : i ∉ v.mIface := hnew.1
    have hempty : Fits i live (({ v with mIface := i :: v.mIface }.setMacs i []).macs i) := by
      rw [macs_setMacs_self]
      exact ⟨List.nodup_nil, nofun, h.bound i⟩
    have hevents : ∀ e ∈ v.cached.filter (fun e => e.1 = i), (i, e.2) ∈ live := by
      intro e he
      obtain ⟨hc, hei⟩ := List.mem_filter.mp he
      obtain rfl : e.1 = i := by simpa using hei
      exact (h.early e.1 hi e.2).mp hc
    obtain ⟨macs, hfold, hfits, hmacs⟩ := foldl_clientAdd
      (List.mem_cons_self : i ∈ ({ v with mIface := i :: v.mIface }.setMacs i []).mIface) hempty _
      hevents
    have hcached : ∀ j m, (j, m) ∈ v.cached.filter (fun e => e.1 ≠ i) ↔ (j, m) ∈ v.cached ∧ j ≠ i := by
      intro j m
      rw [List.mem_filter, decide_eq_true_iff]
    have hup : handleCached i ({ v with mIface := i :: v.mIface }.setMacs i []) =
        ({ v with mIface := i :: v.mIface }.setMacs i macs).clearCached i := by
      refine congrArg (clearCached i) (hfold.trans ?_)
      exact setMacs_setMacs [] macs
    rw [hup]
    refine ⟨fun j hj m => ?_, fun j hj m => ?_, fun j hj m hc => ?_, fun j hj => ?_, h.live_nodup,
      h.bound⟩
    · by_cases he : j = i
      · subst he
        refine Iff.trans (iff_of_eq (congrArg (m ∈ ·) (macs_setMacs_self macs))) ((hmacs m).trans ?_)
        rw [macs_setMacs_self, ← h.early j hi]
        refine ⟨fun hm => ?_, fun hc => Or.inr ⟨(j, m), List.mem_filter.mpr ⟨hc, by simp⟩, rfl⟩⟩
        grind
      · refine Iff.trans (iff_of_eq (congrArg (m ∈ ·) (macs_setMacs_of_ne he macs))) ?_
        exact h.known j ((List.mem_cons.mp hj).resolve_left he) m
    · obtain ⟨hne, hj⟩ := not_or.mp (fun hm => hj (List.mem_cons.mpr hm))
      refine (hcached j m).trans ?_
      rw [h.early j hj]
      exact and_iff_left hne
    · obtain ⟨hc, hne⟩ := (hcached j m).mp hc
      exact h.none_cached j ((List.mem_cons.mp hj).resolve_left hne) m hc
    · by_cases he : j = i
      · subst he
        exact (macs_setMacs_self macs).symm ▸ hfits.nodup
      · exact (macs_setMacs_of_ne he macs).symm ▸
          h.nodup j ((List.mem_cons.mp hj).resolve_left he)
  next => exact h

theorem tracks_start : Tracks (LanToLan.view {}) [] :=
  ⟨nofun, fun _ _ _ => ⟨nofun, nofun⟩, nofun, nofun, List.nodup_nil, fun _ => Nat.zero_le _⟩

end ClientView

namespace BridgeHistory

variable {props : Nat → LanProps}

theorem tracks_step (s : BridgeHistory) (evt : BridgeEvent) (t : BridgeHistory)
    (h : s.lan.view.Tracks s.live) (hok : s.WithinBounds evt ∧ s.EarlySafe evt)
    (ht : step props s evt = some t) : t.lan.view.Tracks t.live := by
  cases Option.some.inj ht
  obtain ⟨hbounds, hsafe⟩ := hok
  rw [LanToLan.view_eventCallback]
  cases evt with
  | ifaceUp i iptype => exact h.ifaceUp i
  | ifaceDown i => exact h.ifaceDown i
  | clientAdd i mac => exact h.clientAdd rfl (fun hnew => (hbounds hnew).1) hsafe
  | clientDel i mac => exact h.clientDel hsafe

/-- Within the bounds, each interface that is up has exactly the clients that are there, as long as
no early client is deleted and repeated adds do not fill the cache. -/
theorem follows_of_earlySafe {evts : List BridgeEvent}
    (bounds : OpsMeet (step props) WithinBounds {} evts)
    (safe : OpsMeet (step props) EarlySafe {} evts) : Always (step props) Follows {} evts :=
  always_invariant (fun _ h => h.known) tracks_step ClientView.tracks_start (bounds.and safe)

/-- Interfaces of the examples: all of them wired. -/
def wired (_ : Nat) : LanProps where
  hasTxAndRxProp := true
  hdrL2Type := .ethII
  isWlan := false
  isGuestAp := false
  eachClientRtRuleCount _ := 1
  ruleCount_le _ := by decide

def firstMac : MacAddr := #v[2, 0, 0, 0, 0, 1]

def secondMac : MacAddr := #v[2, 0, 0, 0, 0, 2]

theorem early_client_follows : Always (step wired) Follows {}
    [.clientAdd 1 firstMac, .ifaceUp 1 .v4, .clientAdd 1 secondMac, .clientDel 1 firstMac,
      .ifaceDown 1] :=
  follows_of_earlySafe (by decide) (by decide)

/-- A client that is deleted before its interface is known is there when the interface is up. -/
theorem deleted_client_returns : ∃ s, OpsMeet (step wired) WithinBounds {}
      [.clientAdd 1 firstMac, .clientDel 1 firstMac, .ifaceUp 1 .v4] ∧
    runOps (step wired) {} [.clientAdd 1 firstMac, .clientDel 1 firstMac, .ifaceUp 1 .v4] = some s ∧
    ¬s.Follows := by
  refine ⟨_, by decide, rfl, fun h => ?_⟩
  have hlive := (h 1 (by decide) firstMac).mp (by decide)
  exact absurd hlive (by decide)

end BridgeHistory

end DeviceHal.Ipacm
