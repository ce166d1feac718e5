import DeviceHal.Camera.StreamFsm

namespace DeviceHal.Camera

namespace StreamBufs

variable {flags : Nat → Bool} {failAt : Option Nat} {b : StreamBufs}

theorem regLoop_cons (idx : Nat) (rest : List Nat) (b : StreamBufs) :
    regLoop flags failAt (idx :: rest) b =
      if flags idx then
        if failAt = some idx then (-1, b.qbufFails)
        else regLoop flags failAt rest ((b.mmStreamQbuf idx).setStatus idx ⟨0, true⟩)
      else regLoop flags failAt rest (b.setStatus idx ⟨1, false⟩) := rfl

theorem regLoop_frame (l : List Nat) (b : StreamBufs) :
    (regLoop flags failAt l b).2.bufNum = b.bufNum ∧
      ∀ i, i ∉ l → (regLoop flags failAt l b).2.bufStatus i = b.bufStatus i := by
  induction l generalizing b with
  | nil => exact ⟨rfl, fun _ _ => rfl⟩
  | cons idx rest ih =>
    have hset : ∀ (d : StreamBufs) (status : StreamBufStatus), d.bufNum = b.bufNum →
        d.bufStatus = b.bufStatus →
        (regLoop flags failAt rest (d.setStatus idx status)).2.bufNum = b.bufNum ∧
          ∀ i, i ∉ idx :: rest →
            (regLoop flags failAt rest (d.setStatus idx status)).2.bufStatus i = b.bufStatus i := by
      intro d status hnum hstatus
      obtain ⟨hnum', hrest⟩ := ih (d.setStatus idx status)
      refine ⟨hnum'.trans hnum, fun i hi => ?_⟩
      rw [List.mem_cons, not_or] at hi
      rw [hrest i hi.2, ← hstatus]
      exact Function.update_of_ne hi.1 _ _
    rw [regLoop_cons]
    split
    next =>
      split
      next => exact ⟨rfl, fun _ _ => rfl⟩
      next => exact hset (b.mmStreamQbuf idx) _ rfl rfl
    next => exact hset b _ rfl rfl

theorem regLoop_ok {l : List Nat} (h : (regLoop flags failAt l b).1 = 0) :
    regLoop flags failAt l b = regLoop flags none l b := by
  induction l generalizing b with
  | nil => rfl
  | cons idx rest ih =>
    rw [regLoop_cons] at h
    grind [regLoop_cons]

theorem regLoop_notMem {idx : Nat} {l : List Nat} (h : idx ∉ l) (b : StreamBufs) :
    (regLoop flags (some idx) l b).1 = 0 := by
  induction l generalizing b with
  | nil => rfl
  | cons i rest ih =>
    rw [List.mem_cons, not_or] at h
    grind [regLoop_cons]

theorem regLoop_kernel {l : List Nat} (h : b.kernel ≠ []) :
    (regLoop flags failAt l b).2.kernel ≠ [] := by
  induction l generalizing b with
  | nil => exact h
  | cons i rest ih =>
    rw [regLoop_cons]
    split
    next =>
      split
      next => exact h
      next => exact ih (by simp [mmStreamQbuf, setStatus])
    next => exact ih h

theorem regLoop_none (l : List Nat) (b : StreamBufs) : (regLoop flags none l b).1 = 0 := by
  induction l generalizing b with
  | nil => rfl
  | cons idx rest ih =>
    grind [regLoop_cons]

end StreamBufs

namespace StreamObj

variable {s t : StreamObj} {fail : Option StartFailure}

/-- A configured stream with nothing in the kernel, no references and no polling. Its buffers fit
into the array of their states. -/
structure Idle (s : StreamObj) : Prop where
  state : s.state = .cfg
  hasBuf : s.hasBuf = false
  kernel : s.bufs.kernel = []
  status : s.bufs.bufStatus = fun _ => {}
  polled : s.bufs.polled = false
  few : s.getBufs.1 ≤ mmCameraMaxNumFrames

/-- The registration flags once the buffers are there. -/
def gotFlags (s : StreamObj) : Nat → Bool :=
  fun i => if i < s.getBufs.1 then s.getBufs.2 i else s.initialRegFlag i

/-- The registration of an idle stream's buffers. -/
def registered (failAt : Option Nat) (s : StreamObj) : Int × StreamBufs :=
  StreamBufs.regLoop s.gotFlags failAt (List.range s.getBufs.1) { bufNum := s.getBufs.1 }

/-- An idle stream on its way to the active state. -/
def inStart (state : StreamState) (bufs : StreamBufs) (s : StreamObj) : StreamObj :=
  { s with state, initialRegFlag := s.gotFlags, hasBuf := true, bufs }

def started (s : StreamObj) : StreamObj := s.inStart .active (s.registered none).2

theorem Idle.getBuf (h : s.Idle) (hfail : fail ≠ some .getBufs) :
    s.mmStreamFsmFn fail .getBuf =
      (0, s.inStart .buffed { s.bufs with bufNum := s.getBufs.1 }) := by
  unfold mmStreamFsmFn
  rw [h.state]
  simp only [mmStreamInitBufs, mmStreamDeinitBufs, if_neg hfail, movedTo, if_true]
  rfl

theorem Idle.regBuf (h : s.Idle) (hfail : fail ≠ some .requestBuf) {idx : Option Nat}
    (hidx : failAt fail = idx) :
    (s.inStart .buffed { s.bufs with bufNum := s.getBufs.1 }).mmStreamFsmFn fail .regBuf =
      ((s.registered idx).1, s.inStart (if (s.registered idx).1 = 0 then .reg else .buffed)
        (s.registered idx).2) := by
  subst hidx
  have hbufs : ({ { s.bufs with bufNum := s.getBufs.1 } with
      queuedBufferCount := 0, kernel := [] } : StreamBufs) = { bufNum := s.getBufs.1 } := by
    dsimp only
    rw [h.status, h.polled]
  have hfew : ¬(s.getBufs.1 > mmCameraMaxNumFrames ∨ fail = some .requestBuf) :=
    not_or.mpr ⟨Nat.not_lt.mpr h.few, hfail⟩
  unfold mmStreamFsmFn
  simp only [inStart, mmStreamRegBuf, if_neg hfew, movedTo, hbufs]
  unfold registered
  split <;> rfl

theorem Idle.startStream_none (h : s.Idle) : s.startStream none = (0, s.started) := by
  have hnot : s.state ≠ .active := by simp [h.state]
  unfold startStream
  rw [if_neg hnot, h.getBuf (by simp)]
  dsimp only
  rw [if_neg (by simp), h.regBuf (by simp) (show failAt none = none from rfl)]
  have hok : (s.registered none).1 = 0 := StreamBufs.regLoop_none _ _
  rw [if_neg (not_not.mpr hok), if_pos hok]
  rfl

theorem Idle.startStream_getBufs (h : s.Idle) : s.startStream (some .getBufs) = (-1, s) := by
  have hnot : s.state ≠ .active := by simp [h.state]
  have hsame : s.mmStreamDeinitBufs = s := by
    unfold mmStreamDeinitBufs
    rw [← h.hasBuf]
  unfold startStream
  rw [if_neg hnot]
  unfold mmStreamFsmFn
  rw [h.state]
  simp [movedTo, mmStreamInitBufs, hsame]

theorem Idle.startStream_requestBuf (h : s.Idle) : s.startStream (some .requestBuf) =
    (-1, s.inStart .buffed { s.bufs with bufNum := s.getBufs.1 }) := by
  have hnot : s.state ≠ .active := by simp [h.state]
  unfold startStream
  rw [if_neg hnot, h.getBuf (by simp)]
  simp [mmStreamFsmFn, inStart, mmStreamRegBuf, movedTo]

theorem Idle.startStream_qbuf (h : s.Idle) (k : Nat) : s.startStream (some (.qbuf k)) =
    if (s.registered (some k)).1 = 0 then (0, s.started)
    else ((s.registered (some k)).1, s.inStart .buffed (s.registered (some k)).2) := by
  have hnot : s.state ≠ .active := by simp [h.state]
  unfold startStream
  rw [if_neg hnot, h.getBuf (by simp)]
  dsimp only
  rw [if_neg (by simp), h.regBuf (by simp) (show failAt (some (.qbuf k)) = some k from rfl)]
  by_cases hok : (s.registered (some k)).1 = 0
  · have hsame : s.registered (some k) = s.registered none := StreamBufs.regLoop_ok hok
    rw [if_neg (not_not.mpr hok), if_pos hok, if_pos hok, hsame]
    rfl
  · rw [if_pos hok, if_neg hok, if_neg hok]

theorem Idle.startStream_streamon (h : s.Idle) : s.startStream (some .streamon) =
    (-1, s.inStart .reg { (s.registered none).2 with polled := false }) := by
  have hnot : s.state ≠ .active := by simp [h.state]
  unfold startStream
  rw [if_neg hnot, h.getBuf (by simp)]
  dsimp only
  rw [if_neg (by simp), h.regBuf (by simp) (show failAt (some .streamon) = none from rfl)]
  have hok : (s.registered none).1 = 0 := StreamBufs.regLoop_none _ _
  rw [if_neg (not_not.mpr hok), if_pos hok]
  rfl

theorem Idle.startStream_ok (h : s.Idle) {f : StartFailure}
    (hok : (s.startStream (some f)).1 = 0) : s.startStream (some f) = (0, s.started) := by
  cases f with
  | getBufs =>
    rw [h.startStream_getBufs] at hok
    cases hok
  | requestBuf =>
    rw [h.startStream_requestBuf] at hok
    cases hok
  | qbuf k =>
    grind [h.startStream_qbuf]
  | streamon =>
    rw [h.startStream_streamon] at hok
    cases hok

/-- An idle stream that differs from `s` only in what a start writes first. -/
structure Rested (s t : StreamObj) : Prop where
  idle : t.Idle
  same : t = { s with initialRegFlag := t.initialRegFlag, bufs := t.bufs }
  flags : ∀ i, s.getBufs.1 ≤ i → t.initialRegFlag i = s.initialRegFlag i

theorem Idle.rested (h : s.Idle) : s.Rested s := ⟨h, rfl, fun _ _ => rfl⟩

theorem Rested.started (h : s.Rested t) : t.started = s.started := by
  have hget : t.getBufs = s.getBufs := by rw [h.same]
  have hflags : t.gotFlags = s.gotFlags := by
    funext i
    unfold gotFlags
    rw [hget]
    split
    next => rfl
    next hi => exact h.flags i (Nat.not_lt.mp hi)
  unfold StreamObj.started registered
  rw [hflags, hget]
  unfold inStart
  rw [hflags]
  rw [h.same]

theorem rested_of_bufs (h : s.Idle) {bufs : StreamBufs} (hkernel : bufs.kernel = [])
    (hstatus : bufs.bufStatus = fun _ => {}) (hpolled : bufs.polled = false) :
    s.Rested { s with initialRegFlag := s.gotFlags, bufs } := by
  refine ⟨⟨h.state, h.hasBuf, hkernel, hstatus, hpolled, h.few⟩, rfl, fun i hi => ?_⟩
  exact if_neg (Nat.not_lt.mpr hi)

theorem stop_buffed (h : s.Idle) (bufs : StreamBufs) :
    (s.inStart .buffed bufs).stopStream.putStream =
      { s with initialRegFlag := s.gotFlags, bufs } := by
  unfold inStart stopStream putStream
  simp only [mmStreamFsmFn, mmStreamDeinitBufs, ← h.state, ← h.hasBuf]

theorem stop_reg (h : s.Idle) (bufs : StreamBufs) :
    (s.inStart .reg bufs).stopStream.putStream =
      { s with
        initialRegFlag := s.gotFlags
        bufs := { bufs with
          bufStatus := fun i => if i < bufs.bufNum then {} else bufs.bufStatus i
          kernel := [] } } := by
  unfold inStart stopStream putStream
  simp only [mmStreamFsmFn, mmStreamUnregBuf, mmStreamDeinitBufs, ← h.state, ← h.hasBuf]

theorem stop_active (h : s.Idle) (bufs : StreamBufs) :
    (s.inStart .active bufs).stopStream.putStream =
      (s.inStart .reg { bufs with polled := false }).stopStream.putStream := by
  rw [stop_reg h]
  unfold inStart stopStream putStream
  simp only [mmStreamFsmFn, mmStreamStreamoff, mmStreamUnregBuf, mmStreamDeinitBufs, ← h.state,
    ← h.hasBuf]

theorem unreg_status (idx : Option Nat) (s : StreamObj) :
    (fun i => if i < (s.registered idx).2.bufNum then {} else (s.registered idx).2.bufStatus i) =
      fun _ => ({} : StreamBufStatus) := by
  obtain ⟨hnum, hout⟩ := @StreamBufs.regLoop_frame s.gotFlags idx (List.range s.getBufs.1)
    { bufNum := s.getBufs.1 }
  grind [registered]

theorem rested_of_reg (h : s.Idle) (idx : Option Nat) :
    s.Rested ((s.inStart .reg { (s.registered idx).2 with polled := false }).stopStream.putStream) := by
  rw [stop_reg h]
  exact rested_of_bufs h rfl (unreg_status idx s) rfl

theorem Idle.rested_started (h : s.Idle) : s.Rested s.started.stopStream.putStream := by
  unfold StreamObj.started
  rw [stop_active h]
  exact rested_of_reg h none

theorem Idle.rested_failed (h : s.Idle) {f : StartFailure} (hf : ∀ k, f = .qbuf k → k = 0) :
    s.Rested (s.startStream (some f)).2.stopStream.putStream := by
  cases f with
  | getBufs =>
    have hstop : s.stopStream.putStream = s := by
      unfold stopStream putStream
      simp only [mmStreamFsmFn, h.state]
    rw [h.startStream_getBufs, hstop]
    exact h.rested
  | requestBuf =>
    rw [h.startStream_requestBuf, stop_buffed h]
    exact rested_of_bufs h h.kernel h.status h.polled
  | qbuf k =>
    cases hf k rfl
    rw [h.startStream_qbuf]
    split
    next => exact h.rested_started
    next hfail =>
      dsimp only
      rw [stop_buffed h]
      -- the first buffer fails, so that nothing is registered
      have hnothing : (s.registered (some 0)).2 = { bufNum := s.getBufs.1 } := by
        unfold registered at hfail ⊢
        cases hn : s.getBufs.1 with
        | zero => rfl
        | succ n =>
          rw [hn, List.range_succ_eq_map] at hfail
          rw [List.range_succ_eq_map]
          rw [StreamBufs.regLoop_cons] at hfail ⊢
          split
          next => rfl
          next hflag =>
            rw [if_neg hflag] at hfail
            exact absurd (StreamBufs.regLoop_notMem (by simp) _) hfail
      rw [hnothing]
      exact rested_of_bufs h rfl rfl rfl
  | streamon =>
    rw [h.startStream_streamon]
    exact rested_of_reg h none

theorem Idle.spoiled (h : s.Idle) {k : Nat} (hk : k ≠ 0)
    (hfail : (s.startStream (some (.qbuf k))).1 ≠ 0) :
    let t := (s.startStream (some (.qbuf k))).2.stopStream.putStream
    t.bufs.kernel ≠ [] ∨ (t.bufs.bufStatus 0).bufRefcnt ≠ 0 := by
  rw [h.startStream_qbuf] at hfail ⊢
  split at hfail
  next => exact absurd rfl hfail
  next hno =>
    rw [if_neg hno]
    dsimp only
    rw [stop_buffed h]
    dsimp only
    unfold registered at hno ⊢
    cases hn : s.getBufs.1 with
    | zero =>
      rw [hn] at hno
      exact absurd rfl hno
    | succ n =>
      rw [List.range_succ_eq_map]
      rw [StreamBufs.regLoop_cons]
      split
      next =>
        rw [if_neg fun he => hk (Option.some.inj he)]
        exact Or.inl (StreamBufs.regLoop_kernel (by simp [StreamBufs.mmStreamQbuf, StreamBufs.setStatus]))
      next =>
        refine Or.inr ?_
        rw [(StreamBufs.regLoop_frame _ _).2 0 (by simp)]
        simp [StreamBufs.setStatus]

end StreamObj

end DeviceHal.Camera
