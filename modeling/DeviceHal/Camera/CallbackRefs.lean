import DeviceHal.Camera.StreamRun

namespace DeviceHal.Camera

open Lib

/-- A non-batch stream whose channel starts and stops it. `sys` is the stream while it is on; between
two starts its callbacks stay. -/
structure CbStream where
  on : Bool := false
  sys : StreamSystem

/-- What comes to the stream: a start and a stop of its channel, a registration, a frame, and the steps
of the command thread and of those that release buffers. -/
inductive CbOp where
  | start (isBundled isLinked : Bool) (initialRegFlag : Nat → Bool) (bufNum : Nat)
  | stop
  | regStreamBufCb (sync : Bool)
  | dataNotify (idx : Nat)
  | release (op : StreamOp)

def StreamOp.AfterPoll : StreamOp → Prop
  | .takeCmd | .callback | .dispatchDone | .channelDone _ | .linkedDone _ | .clientDone _ => True
  | _ => False

instance : ∀ op : StreamOp, Decidable op.AfterPoll
  | .takeCmd | .callback | .dispatchDone | .channelDone _ | .linkedDone _ | .clientDone _ =>
    isTrue trivial
  | .readMsmFrame _ | .syncCallbacks | .countRefs | .notifyChannel _ | .notifyLinked _ | .sendCmd _ =>
    isFalse id

/-- `mm_stream_reg_buf_cb`: the first free place of the table. -/
def mmStreamRegBufCb (val : StreamDataCb) : List (Option StreamDataCb) → List (Option StreamDataCb)
  | [] => []
  | none :: bufCb => some val :: bufCb
  | some cb :: bufCb => some cb :: mmStreamRegBufCb val bufCb

/-- The table behind `mm_stream_config`. The sync callback has the first place. -/
def mmStreamConfigCb (streamCbSync streamCb : Bool) : List (Option StreamDataCb) :=
  let cb : Option StreamDataCb := if streamCb then some ⟨false, -1⟩ else none
  if streamCbSync then [some ⟨true, -1⟩, cb, none, none] else [cb, none, none, none]

namespace CbStream

def off (bufCb : List (Option StreamDataCb)) (cmdActive : Bool) : StreamSystem where
  isBundled := false
  isLinked := false
  bufCb
  cmdActive
  bufs := { bufNum := 0 }

def configured (streamCbSync streamCb : Bool) : CbStream where
  sys := off (mmStreamConfigCb streamCbSync streamCb) false

/-- The poll thread with one buffer, with memory for its messages. -/
def dataNotifySteps (idx : Nat) : List StreamOp :=
  [.readMsmFrame idx, .syncCallbacks, .countRefs, .notifyChannel true, .notifyLinked true, .sendCmd true]

/-- The kernel gives the buffer to the poll thread. -/
def Arrives (idx : Nat) (s : CbStream) : Prop :=
  s.on = true ∧ s.sys.bufs.polled = true ∧ idx ∈ s.sys.bufs.kernel

instance (idx : Nat) (s : CbStream) : Decidable (Arrives idx s) :=
  inferInstanceAs (Decidable (_ ∧ _ ∧ _))

/-- `mm_camera_cmd_thread_release` waits for the messages to be dispatched. It does not return from a
thread that was not launched, whose queue is not initialised. -/
def stop (s : CbStream) : Option CbStream :=
  if StreamSystem.hasAsync s.sys.bufCb then
    if s.sys.cmdActive = true ∧ s.sys.cmdQueue = [] ∧ s.sys.cmd = .idle then
      some { on := false, sys := off s.sys.bufCb false }
    else none
  else some { on := false, sys := off s.sys.bufCb s.sys.cmdActive }

/-- A callback of `mm_camera_reg_stream_buf_cb` has no end. -/
def step (s : CbStream) : CbOp → Option CbStream
  | .start isBundled isLinked initialRegFlag bufNum =>
    if s.on then some s
    else
      let sys := StreamSystem.start isBundled isLinked s.sys.bufCb initialRegFlag bufNum
      some { on := true, sys := { sys with cmdActive := s.sys.cmdActive || sys.cmdActive } }
  | .stop => if s.on then s.stop else some s
  | .regStreamBufCb sync =>
    some { s with sys := { s.sys with bufCb := mmStreamRegBufCb ⟨sync, -1⟩ s.sys.bufCb } }
  | .dataNotify idx =>
    if Arrives idx s then
      (runOps StreamSystem.step s.sys (dataNotifySteps idx)).map fun sys => { s with sys }
    else some s
  | .release op =>
    if s.on = true ∧ op.AfterPoll then (s.sys.step op).map fun sys => { s with sys } else none

/-- While the stream is on, each counted reference is with a message or a client, a message has a
thread that dispatches it, and a buffer without a reference is in the kernel. -/
structure NoneLeaked (s : CbStream) : Prop where
  counted : s.on = true → ∀ idx, (s.sys.bufs.bufStatus idx).bufRefcnt = s.sys.refs.count idx
  served : s.on = true → s.sys.cmdQueue ≠ [] → s.sys.cmdActive = true
  back : s.on = true → ∀ idx < s.sys.bufs.bufNum, idx ∈ s.sys.bufs.kernel ∨ idx ∈ s.sys.refs

/-- A frame comes to a stream with the thread for its asynchronous callbacks, if there are some, and
somebody gets it. -/
def FrameServed (s : CbStream) : CbOp → Prop
  | .dataNotify idx => Arrives idx s ∧ s.sys.cmd = .idle →
      (StreamSystem.hasAsync s.sys.bufCb = true → s.sys.cmdActive = true) ∧
      (s.sys.isBundled = true ∨ s.sys.isLinked = true ∨ StreamSystem.hasAsync s.sys.bufCb = true)
  | _ => True

/-- The references are counted, the callbacks have no end, and a thread is there for the messages and
while the stream is on only. -/
structure Inv (s : CbStream) : Prop where
  poll : s.sys.poll = .idle
  counts : s.sys.bufs.Inv s.sys.refs fun _ => False
  endless : ∀ cb, some cb ∈ s.sys.bufCb → cb.cbCount = -1
  active : s.sys.cmdActive = true → s.on = true ∧ StreamSystem.hasAsync s.sys.bufCb = true
  served : s.sys.cmdQueue ≠ [] → s.sys.cmdActive = true

variable {s t : CbStream}

theorem Inv.noneLeaked (h : s.Inv) : s.NoneLeaked where
  counted _ idx := h.counts.refcnt idx
  served _ := h.served
  back _ idx hlt := by
    by_cases hr : idx ∈ s.sys.refs
    · exact Or.inr hr
    · exact Or.inl ((h.counts.kernel idx hlt).mpr ⟨hr, id⟩)

theorem afterCall_endless {cb : StreamDataCb} (h : cb.cbCount = -1) : cb.afterCall = some cb := by
  unfold StreamDataCb.afterCall
  rw [h]
  rfl

variable {bufCb : List (Option StreamDataCb)}

theorem dispatchSync_endless (h : ∀ cb, some cb ∈ bufCb → cb.cbCount = -1) :
    StreamSystem.mmStreamDispatchSyncData bufCb = bufCb := by
  unfold StreamSystem.mmStreamDispatchSyncData
  refine (List.map_congr_left fun cb hm => ?_).trans (List.map_id bufCb)
  cases cb with
  | none => rfl
  | some cb =>
    rw [Option.bind_some, afterCall_endless (h cb hm)]
    cases cb.sync <;> rfl

theorem dispatchAppData_endless {sys : StreamSystem} (idx i : Nat)
    (h : ∀ cb, some cb ∈ sys.bufCb → cb.cbCount = -1) :
    (sys.mmStreamDispatchAppData idx i).bufCb = sys.bufCb := by
  unfold StreamSystem.mmStreamDispatchAppData
  split
  next => rfl
  next cb hcb =>
    split
    next => rfl
    next =>
      have hget : sys.bufCb[i]? = some (some cb) := Option.join_eq_some_iff.mp hcb
      have hset : sys.bufCb.set i cb.afterCall = sys.bufCb := by
        obtain ⟨hlt, hcb⟩ := List.getElem?_eq_some_iff.mp hget
        rw [afterCall_endless (h cb (List.mem_of_getElem? hget)), ← hcb]
        exact List.set_getElem_self hlt
      dsimp only
      split <;> exact hset

theorem mem_regBufCb {val cb : StreamDataCb}
    (h : some cb ∈ mmStreamRegBufCb val bufCb) : cb = val ∨ some cb ∈ bufCb := by
  induction bufCb with
  | nil => cases h
  | cons first bufCb ih =>
    cases first with
    | none =>
      rcases List.mem_cons.mp h with h | h
      · exact Or.inl (Option.some.inj h)
      · exact Or.inr (List.mem_cons_of_mem _ h)
    | some cb' =>
      rcases List.mem_cons.mp h with h | h
      · exact Or.inr (h ▸ List.mem_cons_self)
      · exact (ih h).imp_right (List.mem_cons_of_mem _)

theorem hasAsync_regBufCb (val : StreamDataCb) (h : StreamSystem.hasAsync bufCb = true) :
    StreamSystem.hasAsync (mmStreamRegBufCb val bufCb) = true := by
  induction bufCb with
  | nil => exact h
  | cons first bufCb ih =>
    unfold StreamSystem.hasAsync at h ih ⊢
    rw [List.any_cons, Bool.or_eq_true] at h
    cases first with
    | none =>
      rcases h with h | h
      · cases h
      · rw [mmStreamRegBufCb, List.any_cons, h, Bool.or_true]
    | some cb =>
      rw [mmStreamRegBufCb, List.any_cons, Bool.or_eq_true]
      exact h.imp_right ih

/-- The stream behind `mm_stream_data_notify`. -/
def notified (idx : Nat) (sys : StreamSystem) : StreamSystem :=
  let hasCb := StreamSystem.hasAsync sys.bufCb
  let read := sys.bufs.mmStreamReadMsmFrame idx
  let out := read.setStatus idx { read.bufStatus idx with inKernel := false }
  let bufs := out.addRefs idx (sys.isBundled.toNat + hasCb.toNat)
  { sys with
    bufCb := StreamSystem.mmStreamDispatchSyncData sys.bufCb
    bufs := if sys.isLinked then bufs.addRefs idx 1 else bufs
    channelRefs := if sys.isBundled then idx :: sys.channelRefs else sys.channelRefs
    linkedRefs := if sys.isLinked then idx :: sys.linkedRefs else sys.linkedRefs
    cmdQueue := if hasCb && sys.cmdActive then sys.cmdQueue ++ [idx] else sys.cmdQueue }

theorem dataNotify_eq {idx : Nat} (hp : s.sys.poll = .idle) (hc : s.sys.cmd = .idle)
    (harr : Arrives idx s) :
    runOps StreamSystem.step s.sys (dataNotifySteps idx) = some (notified idx s.sys) := by
  obtain ⟨-, hpolled, hk⟩ := harr
  unfold dataNotifySteps notified
  cases hs : s.sys with
  | mk isBundled isLinked bufCb cmdActive bufs poll cmdQueue cmd channelRefs linkedRefs clientRefs =>
    rw [hs] at hp hc hpolled hk
    dsimp only at hp hc hpolled hk
    subst hp hc
    simp [runOps, StreamSystem.step, hpolled, hk]

theorem dataNotify_blocked {idx : Nat} (hp : s.sys.poll = .idle) (hc : s.sys.cmd ≠ .idle)
    (harr : Arrives idx s) : runOps StreamSystem.step s.sys (dataNotifySteps idx) = none := by
  obtain ⟨-, hpolled, hk⟩ := harr
  unfold dataNotifySteps
  cases hcmd : s.sys.cmd with
  | idle => exact absurd hcmd hc
  | dispatching j i => simp [runOps, StreamSystem.step, hp, hpolled, hk, hcmd]

theorem count_cons_if (p : Bool) (l : List Nat) (idx x : Nat) :
    (if p then idx :: l else l).count x = l.count x + if x = idx then p.toNat else 0 := by
  grind

theorem count_snoc_if (p : Bool) (l : List Nat) (idx x : Nat) :
    (if p then l ++ [idx] else l).count x = l.count x + if x = idx then p.toNat else 0 := by
  grind

theorem refs_notified (idx : Nat) (sys : StreamSystem) (x : Nat) :
    (notified idx sys).refs.count x = sys.refs.count x + if x = idx then
      sys.isBundled.toNat + sys.isLinked.toNat +
        (StreamSystem.hasAsync sys.bufCb && sys.cmdActive).toNat else 0 := by
  unfold notified StreamSystem.refs
  dsimp only
  simp only [List.count_append, count_cons_if, count_snoc_if]
  split <;> omega

theorem refcnt_notified (idx : Nat) (sys : StreamSystem) (x : Nat) :
    ((notified idx sys).bufs.bufStatus x).bufRefcnt = (sys.bufs.bufStatus x).bufRefcnt +
      if x = idx then sys.isBundled.toNat + sys.isLinked.toNat +
        (StreamSystem.hasAsync sys.bufCb).toNat else 0 := by
  unfold notified StreamBufs.addRefs StreamBufs.setStatus StreamBufs.mmStreamReadMsmFrame
  by_cases he : x = idx
  · subst he
    cases sys.isLinked with
    | false => simp
    | true => simp; omega
  · cases sys.isLinked with
    | false => simp [he]
    | true => simp [he]

theorem Inv.notified {idx : Nat} (h : s.Inv) (hk : idx ∈ s.sys.bufs.kernel)
    (hthread : StreamSystem.hasAsync s.sys.bufCb = true → s.sys.cmdActive = true)
    (hused : s.sys.isBundled = true ∨ s.sys.isLinked = true ∨
      StreamSystem.hasAsync s.sys.bufCb = true) :
    (notified idx s.sys).bufs.Inv (notified idx s.sys).refs fun _ => False := by
  have hread := (h.counts.read hk).notInKernel idx
  have hlt : idx < s.sys.bufs.bufNum := h.counts.kernel_lt idx hk
  have hout : idx ∉ s.sys.bufs.kernel.erase idx := fun hm =>
    absurd rfl ((h.counts.nodup.mem_erase_iff).mp hm).1
  have hfresh : ∀ x, (x = idx ∧ s.sys.isBundled = false ∧
      StreamSystem.hasAsync s.sys.bufCb = false) ↔ x = idx ∧ (x ≠ idx ∨ s.sys.isBundled.toNat +
        (StreamSystem.hasAsync s.sys.bufCb).toNat = 0) := by
    intro x
    cases s.sys.isBundled <;> cases StreamSystem.hasAsync s.sys.bufCb <;> simp
  have hcounted := hread.addRefs _ hlt hout hfresh
  have hsent : (StreamSystem.hasAsync s.sys.bufCb && s.sys.cmdActive).toNat =
      (StreamSystem.hasAsync s.sys.bufCb).toNat := by
    cases hasync : StreamSystem.hasAsync s.sys.bufCb with
    | false => rfl
    | true => rw [hthread hasync]; rfl
  have hcount := fun x => refs_notified idx s.sys x
  rw [hsent] at hcount
  unfold CbStream.notified at hcount ⊢
  cases hl : s.sys.isLinked with
  | false =>
    rw [hl] at hcount
    refine hcounted.perm (List.perm_iff_count.mpr fun x => ?_) fun x => ⟨fun hx => ?_, False.elim⟩
    · rw [hcount x, List.count_append, List.count_replicate]
      by_cases he : x = idx
      · simp [he]
        omega
      · simp [he, Ne.symm he]
    grind
  | true =>
    rw [hl] at hcount
    have hnone : ∀ x, False ↔ (x = idx ∧ s.sys.isBundled = false ∧
        StreamSystem.hasAsync s.sys.bufCb = false) ∧ (x ≠ idx ∨ 1 = 0) := by
      intro x
      refine ⟨False.elim, fun hx => hx.2.elim (fun hne => hne hx.1.1) (by decide)⟩
    refine (hcounted.addRefs 1 hlt hout hnone).perm (List.perm_iff_count.mpr fun x => ?_)
      fun x => Iff.rfl
    rw [hcount x, List.count_append, List.count_append, List.count_replicate, List.count_replicate]
    by_cases he : x = idx
    · simp [he]
      omega
    · simp [he, Ne.symm he]

theorem release_step {sys sys' : StreamSystem} {op : StreamOp} (hop : op.AfterPoll)
    (endless : ∀ cb, some cb ∈ sys.bufCb → cb.cbCount = -1) (ht : sys.step op = some sys') :
    sys'.poll = sys.poll ∧ sys'.bufCb = sys.bufCb ∧ sys'.cmdActive = sys.cmdActive ∧
      (sys'.cmdQueue ≠ [] → sys.cmdQueue ≠ []) ∧ (sys.Counts → sys'.Counts) := by
  cases op with
  | takeCmd =>
    dsimp only [StreamSystem.step] at ht
    split at ht
    next idx cmdQueue hc hq =>
      cases ht
      exact ⟨rfl, rfl, rfl, fun _ => by simp [hq], fun h => h.takeCmd hc hq⟩
    next => cases ht
  | callback =>
    dsimp only [StreamSystem.step] at ht
    split at ht
    next idx i hc =>
      split at ht
      next =>
        cases ht
        have hcb := dispatchAppData_endless idx i endless
        have hsame : (sys.mmStreamDispatchAppData idx i).poll = sys.poll ∧
            (sys.mmStreamDispatchAppData idx i).cmdActive = sys.cmdActive ∧
            (sys.mmStreamDispatchAppData idx i).cmdQueue = sys.cmdQueue := by
          unfold StreamSystem.mmStreamDispatchAppData
          split
          next => exact ⟨rfl, rfl, rfl⟩
          next =>
            grind
        exact ⟨hsame.1, hcb, hsame.2.1, fun hne => hsame.2.2 ▸ hne, fun h => h.callback hc⟩
      next => cases ht
    next => cases ht
  | dispatchDone =>
    dsimp only [StreamSystem.step] at ht
    split at ht
    next idx i hc =>
      split at ht
      next => cases ht
      next =>
        cases ht
        exact ⟨rfl, rfl, rfl, id, fun h =>
          h.bufDone rfl (StreamSystem.refs_dispatchDone hc _) rfl rfl⟩
    next => cases ht
  | channelDone idx =>
    dsimp only [StreamSystem.step] at ht
    split at ht
    next hm =>
      cases ht
      exact ⟨rfl, rfl, rfl, id, fun h => h.bufDone rfl (StreamSystem.refs_channelDone hm _) rfl rfl⟩
    next => cases ht
  | linkedDone idx =>
    dsimp only [StreamSystem.step] at ht
    split at ht
    next hm =>
      cases ht
      exact ⟨rfl, rfl, rfl, id, fun h => h.bufDone rfl (StreamSystem.refs_linkedDone hm _) rfl rfl⟩
    next => cases ht
  | clientDone idx =>
    dsimp only [StreamSystem.step] at ht
    split at ht
    next hm =>
      cases ht
      exact ⟨rfl, rfl, rfl, id, fun h => h.bufDone rfl (StreamSystem.refs_clientDone hm _) rfl rfl⟩
    next => cases ht
  | _ => exact absurd hop id

theorem counts_off (bufCb : List (Option StreamDataCb)) (cmdActive : Bool) :
    (off bufCb cmdActive).bufs.Inv (off bufCb cmdActive).refs fun _ => False :=
  ⟨fun _ => rfl, fun _ h => absurd h (Nat.not_lt_zero _), fun _ h => absurd h List.not_mem_nil,
    fun _ h => absurd h List.not_mem_nil, fun _ h => absurd h id, List.nodup_nil, rfl,
    ⟨fun h => absurd h Bool.false_ne_true, fun h => absurd h (Nat.lt_irrefl _)⟩⟩

theorem Inv.stop (h : s.Inv) (ht : s.stop = some t) : t.Inv := by
  have hoff : ∀ cmdActive, cmdActive = false →
      Inv { on := false, sys := off s.sys.bufCb cmdActive } := by
    rintro _ rfl
    exact ⟨rfl, counts_off _ _, h.endless, fun hx => absurd hx Bool.false_ne_true,
      fun hne => absurd rfl hne⟩
  unfold CbStream.stop at ht
  split at ht
  next =>
    grind
  next hnone =>
    cases ht
    refine hoff s.sys.cmdActive ?_
    by_contra hne
    exact hnone (h.active (by simpa using hne)).2

theorem Inv.step (h : s.Inv) {op : CbOp} (served : FrameServed s op) (ht : s.step op = some t) :
    t.Inv := by
  cases op with
  | start isBundled isLinked initialRegFlag bufNum =>
    dsimp only [CbStream.step] at ht
    split at ht
    next =>
      cases ht
      exact h
    next hoff =>
      cases ht
      have hinactive : s.sys.cmdActive = false := by
        by_contra hne
        exact hoff (h.active (by simpa using hne)).1
      refine ⟨rfl, StreamSystem.start_counts isBundled isLinked s.sys.bufCb initialRegFlag bufNum,
        h.endless, fun hactive => ⟨rfl, ?_⟩, fun hne => absurd rfl hne⟩
      rw [hinactive, Bool.false_or] at hactive
      exact hactive
  | stop =>
    dsimp only [CbStream.step] at ht
    split at ht
    next => exact h.stop ht
    next =>
      cases ht
      exact h
  | regStreamBufCb sync =>
    cases ht
    refine ⟨h.poll, h.counts, fun cb hm => ?_, fun hactive => ?_, h.served⟩
    · rcases mem_regBufCb hm with rfl | hm
      · rfl
      · exact h.endless cb hm
    · obtain ⟨hon, hasync⟩ := h.active hactive
      exact ⟨hon, hasAsync_regBufCb _ hasync⟩
  | dataNotify idx =>
    dsimp only [CbStream.step] at ht
    split at ht
    next harr =>
      by_cases hc : s.sys.cmd = .idle
      · rw [dataNotify_eq h.poll hc harr] at ht
        cases ht
        obtain ⟨hthread, hused⟩ := served ⟨harr, hc⟩
        have hcb : (CbStream.notified idx s.sys).bufCb = s.sys.bufCb :=
          dispatchSync_endless h.endless
        refine ⟨h.poll, h.notified harr.2.2 hthread hused, fun cb hm => ?_, fun hactive => ?_,
          fun hne => ?_⟩
        · exact h.endless cb (hcb ▸ hm)
        · obtain ⟨hon, hasync⟩ := h.active hactive
          exact ⟨hon, hcb ▸ hasync⟩
        · by_cases hsent : (StreamSystem.hasAsync s.sys.bufCb && s.sys.cmdActive) = true
          · exact (Bool.and_eq_true_iff.mp hsent).2
          · unfold CbStream.notified at hne
            dsimp only at hne
            rw [if_neg hsent] at hne
            exact h.served hne
      · rw [dataNotify_blocked h.poll hc harr] at ht
        cases ht
    next =>
      cases ht
      exact h
  | release op =>
    dsimp only [CbStream.step] at ht
    split at ht
    next hop =>
      obtain ⟨sys, hsys, rfl⟩ := Option.map_eq_some_iff.mp ht
      obtain ⟨hpoll, hcb, hactive, hqueue, hcounts⟩ := release_step hop.2 h.endless hsys
      have hbefore : s.sys.Counts := by
        unfold StreamSystem.Counts
        rw [h.poll]
        exact h.counts
      have hafter := hcounts hbefore
      unfold StreamSystem.Counts at hafter
      rw [hpoll, h.poll] at hafter
      refine ⟨hpoll.trans h.poll, hafter, ?_, ?_, ?_⟩
      · rw [hcb]
        exact h.endless
      · rw [hcb, hactive]
        exact h.active
      · intro hne
        rw [hactive]
        exact h.served (hqueue hne)
    next => cases ht

theorem Inv.breaks (h : s.Inv) {op : CbOp} (hnot : ¬FrameServed s op) :
    ∃ t, s.step op = some t ∧ ¬t.NoneLeaked := by
  cases op with
  | dataNotify idx =>
    simp only [FrameServed, Classical.not_imp] at hnot
    obtain ⟨⟨harr, hc⟩, hunserved⟩ := hnot
    refine ⟨{ s with sys := CbStream.notified idx s.sys }, ?_, fun hleaked => hunserved ⟨fun hasync => ?_, ?_⟩⟩
    · dsimp only [CbStream.step]
      rw [if_pos harr, dataNotify_eq h.poll hc harr]
      rfl
    · by_contra hactive
      have hcount := hleaked.counted harr.1 idx
      grind [refcnt_notified, refs_notified, h.counts.refcnt]
    · by_contra hnone
      push Not at hnone
      obtain ⟨hb, hl, hasync⟩ := hnone
      have hlt : idx < s.sys.bufs.bufNum := h.counts.kernel_lt idx harr.2.2
      have hno : idx ∉ s.sys.refs := ((h.counts.kernel idx hlt).mp harr.2.2).1
      have hzero : (CbStream.notified idx s.sys).refs.count idx = 0 := by
        rw [refs_notified, List.count_eq_zero.mpr hno, if_pos rfl, Bool.eq_false_iff.mpr hb,
          Bool.eq_false_iff.mpr hl, Bool.eq_false_iff.mpr hasync]
        rfl
      have hkernel : (CbStream.notified idx s.sys).bufs.kernel = s.sys.bufs.kernel.erase idx := by
        unfold CbStream.notified
        dsimp only
        rw [if_neg hl]
        rfl
      have hbufs : (CbStream.notified idx s.sys).bufs.bufNum = s.sys.bufs.bufNum := by
        unfold CbStream.notified
        dsimp only
        rw [if_neg hl]
        rfl
      rcases hleaked.back harr.1 idx (hbufs ▸ hlt) with hm | hm
      · rw [hkernel] at hm
        exact absurd rfl (h.counts.nodup.mem_erase_iff.mp hm).1
      · exact List.count_eq_zero.mp hzero hm
  | _ => exact absurd trivial hnot

theorem inv_configured (streamCbSync streamCb : Bool) : (configured streamCbSync streamCb).Inv := by
  refine ⟨rfl, counts_off _ _, fun cb hm => ?_, fun hx => absurd hx Bool.false_ne_true,
    fun hne => absurd rfl hne⟩
  cases streamCbSync <;> cases streamCb <;>
    simp [configured, off, mmStreamConfigCb] at hm
  all_goals rcases hm with rfl | rfl <;> rfl

/-- All along a run, each reference is with a message that will be dispatched or with a client, and each
other buffer in the kernel, exactly if every frame that comes finds the thread for the asynchronous
callbacks, and somebody who gets it. -/
theorem noneLeaked_iff_served (streamCbSync streamCb : Bool) (ops : List CbOp) :
    Always step NoneLeaked (configured streamCbSync streamCb) ops ↔
      OpsMeet step FrameServed (configured streamCbSync streamCb) ops :=
  always_iff_of_keeps (fun _ h => Inv.noneLeaked h) (fun _ _ _ h _ hok ht => h.step hok ht)
    (fun _ _ h _ hnot => h.breaks hnot) (inv_configured streamCbSync streamCb)
    (opsMeet_true (configured streamCbSync streamCb) ops)

/-- A callback registered while the stream is on, where none was before, gets no frame, and the buffer
does not come back. -/
theorem late_callback_leaks : ∃ t, runOps step (configured true false)
    [.start true false (fun _ => true) 1, .regStreamBufCb false, .dataNotify 0,
      .release (.channelDone 0)] = some t ∧
    t.sys.refs = [] ∧ t.sys.bufs.kernel = [] ∧ ¬t.NoneLeaked := by
  refine ⟨_, rfl, by decide, by decide, fun h => ?_⟩
  exact absurd (h.counted rfl 0) (by decide)

end CbStream

end DeviceHal.Camera
