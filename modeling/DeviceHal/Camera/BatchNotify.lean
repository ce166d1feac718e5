import DeviceHal.Camera.Batch
import DeviceHal.Camera.StreamBufs

namespace DeviceHal.Camera

/-- A batch-mode stream that is on, with those its containers are handed to. `kernel` are the
containers that the read gave back unread, `called` the sync callbacks with what they were called
for. -/
structure BatchNotify where
  batch : BatchStream
  isBundled : Bool
  isLinked : Bool
  bufCb : List (Option StreamDataCb)
  cmdActive : Bool
  kernel : List Nat := []
  channel : List Nat := []
  linked : List Nat := []
  cmdQueue : List Nat := []
  called : List (Nat × Nat) := []

/-- Whether `mm_stream_qbuf` and the cache operation succeed, and the messages get memory. -/
structure NotifyEnv where
  qbuf : Bool := true
  cleanInvalidate : Bool := true
  channelAlloc : Bool := true
  linkedAlloc : Bool := true
  cmdAlloc : Bool := true

namespace BatchNotify

def bufRefcnt (idx : Nat) (s : BatchNotify) : UInt8 := (s.batch.buf idx).bufRefcnt

def inKernel (idx : Nat) (s : BatchNotify) : Bool := (s.batch.buf idx).inKernel

def setInKernel (idx : Nat) (inKernel : Bool) (s : BatchNotify) : BatchNotify :=
  { s with batch := s.batch.setBuf idx { s.batch.buf idx with inKernel } }

def addRef (idx : Nat) (n : UInt8) (s : BatchNotify) : BatchNotify :=
  let c := s.batch.buf idx
  { s with batch := s.batch.setBuf idx { c with bufRefcnt := c.bufRefcnt + n } }

/-- What `mm_stream_read_user_buf` returns is not looked at, and the result of the cache operation
becomes that of the read. The container that the read checks for a change is compared with itself. -/
def mmStreamReadMsmFrame (env : NotifyEnv) (idx : Nat) (sequence : UInt32) (ts : Timespec)
    (s : BatchNotify) : Int × BatchNotify :=
  let (frames, batch) := s.batch.mmStreamReadMsmFrame idx sequence ts
  let s := { s with batch }
  let s := if frames.isNone && env.qbuf then { s with kernel := s.kernel ++ [idx] } else s
  (if env.cleanInvalidate then 0 else -1, s)

/-- The places of the sync callbacks that are called. -/
def syncCalls (bufCb : List (Option StreamDataCb)) : List Nat :=
  (List.range bufCb.length).filter fun i =>
    bufCb[i]?.join.any fun cb => cb.sync && cb.cbCount ≠ 0

/-- The loop under `cb_lock`. -/
def dispatchSync (idx : Nat) (s : BatchNotify) : BatchNotify :=
  { s with
    bufCb := StreamSystem.mmStreamDispatchSyncData s.bufCb
    called := s.called ++ (syncCalls s.bufCb).map fun i => (i, idx) }

def mmStreamHandleRcvdBuf (env : NotifyEnv) (idx : Nat) (hasCb : Bool) (s : BatchNotify) :
    BatchNotify :=
  let channel := if s.isBundled && env.channelAlloc then s.channel ++ [idx] else s.channel
  let s := { s with channel }.addRef idx (if s.isLinked then 1 else 0)
  let linked := if s.isLinked && env.linkedAlloc then s.linked ++ [idx] else s.linked
  let send := hasCb && s.cmdActive && env.cmdAlloc
  { s with linked, cmdQueue := if send then s.cmdQueue ++ [idx] else s.cmdQueue }

/-- The container `idx` is dequeued. -/
def mmStreamDataNotify (env : NotifyEnv) (idx : Nat) (sequence : UInt32) (ts : Timespec)
    (s : BatchNotify) : BatchNotify :=
  let (rc, s) := s.mmStreamReadMsmFrame env idx sequence ts
  if rc ≠ 0 then s
  else
    let hasCb := StreamSystem.hasAsync s.bufCb
    let s := (s.dispatchSync idx).setInKernel idx false
    let s := s.addRef idx (if s.isBundled then 1 else 0)
    (s.addRef idx (if hasCb then 1 else 0)).mmStreamHandleRcvdBuf env idx hasCb

@[simp] theorem bufRefcnt_addRef (idx : Nat) (n : UInt8) (s : BatchNotify) :
    (s.addRef idx n).bufRefcnt idx = s.bufRefcnt idx + n := by
  simp [addRef, bufRefcnt, BatchStream.setBuf]

@[simp] theorem inKernel_addRef (idx : Nat) (n : UInt8) (s : BatchNotify) :
    (s.addRef idx n).inKernel idx = s.inKernel idx := by
  simp [addRef, inKernel, BatchStream.setBuf]

@[simp] theorem bufRefcnt_setInKernel (idx : Nat) (b : Bool) (s : BatchNotify) :
    (s.setInKernel idx b).bufRefcnt idx = s.bufRefcnt idx := by
  simp [setInKernel, bufRefcnt, BatchStream.setBuf]

@[simp] theorem inKernel_setInKernel (idx : Nat) (b : Bool) (s : BatchNotify) :
    (s.setInKernel idx b).inKernel idx = b := by
  simp [setInKernel, inKernel, BatchStream.setBuf]

/-- The batch is not newer than the previous one. -/
def Stale (ts : Timespec) (s : BatchNotify) : Prop := ts.toNsecs ≤ s.batch.prevTimestamp

instance (ts : Timespec) (s : BatchNotify) : Decidable (Stale ts s) :=
  inferInstanceAs (Decidable (_ ≤ _))

/-- The container goes back and nobody gets it. -/
structure ReturnsToKernel (idx : Nat) (s t : BatchNotify) : Prop where
  kernel : t.kernel = s.kernel ++ [idx]
  inKernel : t.inKernel idx = true
  bufRefcnt : t.bufRefcnt idx = s.bufRefcnt idx
  channel : t.channel = s.channel
  linked : t.linked = s.linked
  cmdQueue : t.cmdQueue = s.cmdQueue
  called : t.called = s.called

/-- All that are there for it get the container, with a reference each but for the sync callbacks. -/
structure HandsOut (idx : Nat) (s t : BatchNotify) : Prop where
  kernel : t.kernel = s.kernel
  inKernel : t.inKernel idx = false
  bufRefcnt : t.bufRefcnt idx = s.bufRefcnt idx + (if s.isBundled then 1 else 0) +
    (if StreamSystem.hasAsync s.bufCb then 1 else 0) + (if s.isLinked then 1 else 0)
  channel : t.channel = s.channel ++ if s.isBundled then [idx] else []
  linked : t.linked = s.linked ++ if s.isLinked then [idx] else []
  cmdQueue : t.cmdQueue = s.cmdQueue ++ if StreamSystem.hasAsync s.bufCb then [idx] else []
  called : t.called = s.called ++ (syncCalls s.bufCb).map fun i => (i, idx)

/-- The container goes one of the two ways, and a stale one back. -/
def OneWay (idx : Nat) (ts : Timespec) (s t : BatchNotify) : Prop :=
  Xor (ReturnsToKernel idx s t) (HandsOut idx s t) ∧ (Stale ts s → ReturnsToKernel idx s t)

def Reaches (env : NotifyEnv) (s : BatchNotify) : Prop :=
  (s.isBundled = true → env.channelAlloc = true) ∧ (s.isLinked = true → env.linkedAlloc = true) ∧
    (StreamSystem.hasAsync s.bufCb = true → s.cmdActive = true ∧ env.cmdAlloc = true)

variable {s t : BatchNotify} {idx : Nat}

theorem batch_read (batch : BatchStream) (idx : Nat) (sequence : UInt32) (ts : Timespec) :
    let r := batch.mmStreamReadMsmFrame idx sequence ts
    (r.2.buf idx).bufRefcnt = (batch.buf idx).bufRefcnt ∧
      (r.2.buf idx).inKernel = (batch.buf idx).inKernel ∧
      (r.1.isNone = true ↔ ts.toNsecs ≤ batch.prevTimestamp) := by
  intro r
  have hr : r = batch.mmStreamReadMsmFrame idx sequence ts := rfl
  unfold BatchStream.mmStreamReadMsmFrame BatchStream.mmStreamReadUserBuf at hr
  simp only [BatchStream.setBuf, Function.update_self, Function.update_idem] at hr
  split at hr
  next hstale =>
    rw [hr]
    simp [hstale]
  next hfresh =>
    rw [hr]
    simp [hfresh]

theorem read_eq (env : NotifyEnv) (idx : Nat) (sequence : UInt32) (ts : Timespec) (s : BatchNotify) :
    ∃ batch kernel, s.mmStreamReadMsmFrame env idx sequence ts =
        (if env.cleanInvalidate then 0 else -1, { s with batch, kernel }) ∧
      (batch.buf idx).bufRefcnt = s.bufRefcnt idx ∧ (batch.buf idx).inKernel = s.inKernel idx ∧
      (Stale ts s ∧ env.qbuf = true → kernel = s.kernel ++ [idx]) ∧
      (¬(Stale ts s ∧ env.qbuf = true) → kernel = s.kernel) := by
  obtain ⟨hrefs, hin, hnone⟩ := batch_read s.batch idx sequence ts
  unfold mmStreamReadMsmFrame
  generalize s.batch.mmStreamReadMsmFrame idx sequence ts = r at *
  obtain ⟨frames, batch⟩ := r
  dsimp only at hrefs hin hnone ⊢
  by_cases hback : Stale ts s ∧ env.qbuf = true
  · refine ⟨batch, s.kernel ++ [idx], ?_, hrefs, hin, fun _ => rfl, fun h => absurd hback h⟩
    rw [hnone.mpr hback.1, hback.2]
    rfl
  · refine ⟨batch, s.kernel, ?_, hrefs, hin, fun h => absurd h hback, fun _ => rfl⟩
    have hkeep : (frames.isNone && env.qbuf) = false := by
      rw [Bool.and_eq_false_iff]
      by_contra hboth
      push Not at hboth
      exact hback ⟨hnone.mp (by simpa using hboth.1), by simpa using hboth.2⟩
    rw [hkeep]
    rfl

theorem sent_iff (l : List Nat) (idx : Nat) (wanted sent : Bool) :
    (if wanted && sent then l ++ [idx] else l) = (l ++ if wanted then [idx] else []) ↔
      (wanted = true → sent = true) := by
  cases wanted with
  | false => simp
  | true => cases sent <;> simp

theorem notify_out {env : NotifyEnv} {sequence : UInt32} {ts : Timespec}
    (hread : s.mmStreamReadMsmFrame env idx sequence ts = (0, t)) :
    (s.mmStreamDataNotify env idx sequence ts).kernel = t.kernel ∧
      (s.mmStreamDataNotify env idx sequence ts).inKernel idx = false := by
  unfold mmStreamDataNotify
  rw [hread]
  refine ⟨rfl, ?_⟩
  exact (inKernel_addRef idx _ _).trans ((inKernel_addRef idx _ _).trans
    ((inKernel_addRef idx _ _).trans (inKernel_setInKernel idx false _)))

theorem handsOut_iff {env : NotifyEnv} {sequence : UInt32} {ts : Timespec} {batch : BatchStream}
    (hread : s.mmStreamReadMsmFrame env idx sequence ts = (0, { s with batch }))
    (hrefs : (batch.buf idx).bufRefcnt = s.bufRefcnt idx) :
    HandsOut idx s (s.mmStreamDataNotify env idx sequence ts) ↔ Reaches env s := by
  have hchannel := sent_iff s.channel idx s.isBundled env.channelAlloc
  have hlinked := sent_iff s.linked idx s.isLinked env.linkedAlloc
  have hcmd := sent_iff s.cmdQueue idx (StreamSystem.hasAsync s.bufCb) (s.cmdActive && env.cmdAlloc)
  rw [← Bool.and_assoc] at hcmd
  unfold mmStreamDataNotify
  rw [hread]
  constructor
  · intro h
    exact ⟨hchannel.mp h.channel, hlinked.mp h.linked,
      fun hasync => Bool.and_eq_true_iff.mp (hcmd.mp h.cmdQueue hasync)⟩
  · intro h
    have hsend : StreamSystem.hasAsync s.bufCb = true → (s.cmdActive && env.cmdAlloc) = true :=
      fun hasync => Bool.and_eq_true_iff.mpr (h.2.2 hasync)
    have hstart : ({ s with batch } : BatchNotify).bufRefcnt idx = s.bufRefcnt idx := hrefs
    refine ⟨rfl, ?_, ?_, hchannel.mpr h.1, hlinked.mpr h.2.1, hcmd.mpr hsend, rfl⟩
    · have hout := (notify_out hread).2
      unfold mmStreamDataNotify at hout
      rw [hread] at hout
      exact hout
    · refine (bufRefcnt_addRef idx _ _).trans ?_
      refine congrArg (· + _) ((bufRefcnt_addRef idx _ _).trans ?_)
      refine congrArg (· + _) ((bufRefcnt_addRef idx _ _).trans ?_)
      exact congrArg (· + _) ((bufRefcnt_setInKernel idx false _).trans hstart)

/-- What has to hold for a dequeued container to go one way. -/
def NotifiesRight (env : NotifyEnv) (ts : Timespec) (s : BatchNotify) : Prop :=
  if Stale ts s then env.qbuf = true ∧ env.cleanInvalidate = false
  else env.cleanInvalidate = true ∧ Reaches env s

instance (env : NotifyEnv) (s : BatchNotify) : Decidable (Reaches env s) :=
  inferInstanceAs (Decidable (_ ∧ _ ∧ _))

instance (env : NotifyEnv) (ts : Timespec) (s : BatchNotify) : Decidable (NotifiesRight env ts s) :=
  inferInstanceAs (Decidable (if Stale ts s then env.qbuf = true ∧ env.cleanInvalidate = false
    else env.cleanInvalidate = true ∧ Reaches env s))

/-- A dequeued container goes back to the kernel or is handed out, not both and not neither, exactly if
the cache operation fails behind a stale one that was given back, and otherwise succeeds and all messages
can be sent. -/
theorem oneWay_iff (env : NotifyEnv) (idx : Nat) (sequence : UInt32) (ts : Timespec) (s : BatchNotify)
    (hkernel : s.inKernel idx = true) :
    OneWay idx ts s (s.mmStreamDataNotify env idx sequence ts) ↔ NotifiesRight env ts s := by
  obtain ⟨batch, kernel, hread, hrefs, hin, hback, hkeep⟩ := read_eq env idx sequence ts s
  have hgrown : s.kernel ++ [idx] ≠ s.kernel := by simp
  unfold OneWay NotifiesRight
  cases hclean : env.cleanInvalidate with
  | false =>
    rw [hclean] at hread
    have hstays : s.mmStreamDataNotify env idx sequence ts = { s with batch, kernel } := by
      unfold mmStreamDataNotify
      rw [hread]
      rfl
    have hnot : ¬HandsOut idx s { s with batch, kernel } := by
      intro out
      have hout : (batch.buf idx).inKernel = false := out.inKernel
      rw [hin, hkernel] at hout
      cases hout
    rw [hstays]
    by_cases hgiven : Stale ts s ∧ env.qbuf = true
    · have returns : ReturnsToKernel idx s { s with batch, kernel } :=
        ⟨hback hgiven, hin.trans hkernel, hrefs, rfl, rfl, rfl, rfl⟩
      grind
    · refine iff_of_false (fun way => ?_) fun right => ?_
      · rcases way.1 with ⟨returns, -⟩ | ⟨out, -⟩
        · exact hgrown (returns.kernel.symm.trans (hkeep hgiven))
        · exact hnot out
      grind
  | true =>
    rw [hclean] at hread
    obtain ⟨hsame, hout⟩ := notify_out hread
    have hnot : ¬ReturnsToKernel idx s (s.mmStreamDataNotify env idx sequence ts) := by
      intro returns
      have hback := returns.inKernel
      rw [hout] at hback
      cases hback
    by_cases hstale : Stale ts s
    · grind
    · rw [if_neg hstale]
      obtain rfl := hkeep fun hgiven => hstale hgiven.1
      have hiff := handsOut_iff hread hrefs
      constructor
      · grind
      grind

/-- One container with the kernel, in a stream that is bundled. -/
def bundledBatch (prevTimestamp : Int) : BatchNotify where
  batch := {
    bufNum := 1
    buf := fun _ => { bufsUsed := 2, bufInUse := true, bufRefcnt := 0, inKernel := true, contCnt := 2 }
    frameInterval := 33
    prevTimestamp }
  isBundled := true
  isLinked := false
  bufCb := [some ⟨true, -1⟩, some ⟨false, -1⟩]
  cmdActive := true

theorem bundledBatch_oneWay :
    OneWay 0 ⟨2, 0⟩ (bundledBatch 5) ((bundledBatch 5).mmStreamDataNotify {} 0 7 ⟨2, 0⟩) :=
  (oneWay_iff {} 0 7 ⟨2, 0⟩ (bundledBatch 5) rfl).mpr (by decide)

/-- A container with the time of the one before goes back to the kernel and to the channel. -/
theorem stale_batch_handed_out : ¬∀ env idx sequence ts (s : BatchNotify), s.inKernel idx = true →
    OneWay idx ts s (s.mmStreamDataNotify env idx sequence ts) := by
  intro h
  have hstale := (h {} 0 7 ⟨2, 0⟩ (bundledBatch 2000000000) rfl).2 (by decide)
  exact absurd hstale.channel (by decide)

end BatchNotify

end DeviceHal.Camera
