import Mathlib.Data.List.Count

namespace DeviceHal.Camera

/-- The memories that a jpeg event can concern: that of the jpeg and that of the depth map. -/
inductive OutMem where
  | jpeg
  | depth
deriving DecidableEq, Repr

/-- What happens to a memory. `handed` is given on to the muxer. -/
inductive MemEvent where
  | taken (m : OutMem)
  | released (m : OutMem)
  | handed (m : OutMem)
deriving DecidableEq, Repr

/-- What `sendDataNotify` meets: its `malloc`, and in `notifyCallback` whether the notifier is
active, and whether the queue and the command go through. -/
structure SendEnv where
  malloc : Bool := true
  mActive : Bool := true
  enqueue : Bool := true
  sendCmd : Bool := true

/-- What the notifier thread finds when it takes a notification. -/
structure NotifierEnv where
  msgTypeEnabled : Bool := true
  isSnapshotActive : Bool := true
  mDataCb : Bool := true
  mJpegCb : Bool := false

/-- A jpeg event and the state it finds. `evtMem` is whether its buffer has a memory. -/
structure JpegEvtEnv where
  mBInited : Bool := true
  mUseSaveProc : Bool := false
  isLongshotEnabled : Bool := false
  saveMalloc : Bool := true
  mBIntJpegEvtPending : Bool := false
  mDataCb : Bool := true
  msgTypeEnabled : Bool := true
  statusError : Bool := false
  mJpegMemOpt : Bool := true
  evtMem : Bool := true
  mGetMemory : Bool := true
  isUbiRefocus : Bool := false
  refocusOutputCount : Nat := 0
  jpegSend : SendEnv := {}
  depthSend : SendEnv := {}

/-- The data of the postprocessor. A node is the data that a notification carries, or is freed. -/
structure JpegOutput where
  dataMem : Option OutMem := none
  outputImageCount : Nat := 0
  nodes : List (Option (Option OutMem)) := []
  dataQ : List Nat := []
  log : List MemEvent := []

def unknownErr : Int := -2147483648

def noMem : Int := -12

def failedTransaction : Int := -2147483646

namespace JpegOutput

def logs (s : JpegOutput) (es : List MemEvent) : JpegOutput := { s with log := s.log ++ es }

def release (s : JpegOutput) (data : Option OutMem) : JpegOutput :=
  s.logs (data.toList.map .released)

/-- The memory that a node carries. A freed node is read as if it had none. -/
def dataOf (s : JpegOutput) (node : Nat) : Option OutMem := s.nodes[node]?.join.join

def releaseNotifyData (s : JpegOutput) (node : Nat) : JpegOutput :=
  { s.release (s.dataOf node) with nodes := s.nodes.set node none }

/-- The notification stays in the queue where only the command fails. -/
def notifyCallback (s : JpegOutput) (env : SendEnv) (node : Nat) : Int × JpegOutput :=
  if !env.mActive then (unknownErr, s)
  else if env.enqueue then
    (if env.sendCmd then 0 else noMem, { s with dataQ := s.dataQ ++ [node] })
  else (unknownErr, s)

def sendDataNotify (s : JpegOutput) (env : SendEnv) (data : Option OutMem) : Int × JpegOutput :=
  if !env.malloc then (noMem, s)
  else
    let node := s.nodes.length
    let r := { s with nodes := s.nodes ++ [some data] }.notifyCallback env node
    if r.1 ≠ 0 then (unknownErr, r.2.releaseNotifyData node) else r

def releaseOnError (s : JpegOutput) (rc : Int) (jpegMem : Option OutMem) : JpegOutput :=
  if rc ≠ 0 then s.release jpegMem else s

def sendDepthMap (s : JpegOutput) (env : JpegEvtEnv) (rc : Int) : Int × JpegOutput :=
  if env.isUbiRefocus && s.outputImageCount + 1 = env.refocusOutputCount then
    let jpegMem := s.dataMem
    let s := { s.logs (jpegMem.toList.map .taken) with
      outputImageCount := s.outputImageCount + 1, dataMem := none }
    let r := s.sendDataNotify env.depthSend jpegMem
    (r.1, r.2.releaseOnError r.1 jpegMem)
  else (rc, s)

/-- From the label `end` on. -/
def atEnd (s : JpegOutput) (env : JpegEvtEnv) (rc : Int) (jpegMem : Option OutMem) :
    Int × JpegOutput :=
  (s.releaseOnError rc jpegMem).sendDepthMap env rc

/-- The memory of the event, which is taken over without a copy. -/
def memoryOfEvent (env : JpegEvtEnv) : Option OutMem :=
  if env.mJpegMemOpt && env.evtMem then some .jpeg else none

def sendJpeg (s : JpegOutput) (env : JpegEvtEnv) (jpegMem : Option OutMem) : Int × JpegOutput :=
  let r := s.sendDataNotify env.jpegSend jpegMem
  { r.2 with outputImageCount := r.2.outputImageCount + 1 }.atEnd env r.1 jpegMem

/-- The commands for other threads are left out. -/
def processJpegEvt (s : JpegOutput) (env : JpegEvtEnv) : Int × JpegOutput :=
  if !env.mBInited then (unknownErr, s)
  else if env.mUseSaveProc && env.isLongshotEnabled then
    (if env.saveMalloc then 0 else noMem, s)
  else if !env.mBIntJpegEvtPending && (!env.mDataCb || !env.msgTypeEnabled) then
    s.atEnd env 0 none
  else if env.statusError then s.atEnd env failedTransaction none
  else
    let jpegMem := memoryOfEvent env
    let s := s.logs (jpegMem.toList.map .taken)
    if env.mBIntJpegEvtPending then (0, s)
    else if !env.mJpegMemOpt then
      if !env.mGetMemory then s.atEnd env noMem none
      else (s.logs [.taken .jpeg]).sendJpeg env (some .jpeg)
    else s.sendJpeg env jpegMem

/-- The notifier thread with one notification. Without active snapshots, or without a data callback,
it is dropped. -/
def deliver (how : Option OutMem → NotifierEnv) (s : JpegOutput) (node : Nat) : JpegOutput :=
  let data := s.dataOf node
  let env := how data
  if !env.msgTypeEnabled then s.releaseNotifyData node
  else if env.isSnapshotActive && env.mDataCb then
    if env.mJpegCb then s.logs (data.toList.map .handed) else s.releaseNotifyData node
  else s

def deliverAll (how : Option OutMem → NotifierEnv) (s : JpegOutput) : JpegOutput :=
  { s.dataQ.foldl (deliver how) s with dataQ := [] }

/-- What was taken over was released, or handed on, exactly once. -/
def ReleasedOnce (s : JpegOutput) : Prop :=
  ∀ m, .taken m ∈ s.log → s.log.count (.released m) + s.log.count (.handed m) = 1

end JpegOutput

/-- The notifier deletes the notification and leaves its memory. -/
def NotifierEnv.drops (env : NotifierEnv) : Bool :=
  env.msgTypeEnabled && !(env.isSnapshotActive && env.mDataCb)

/-- A memory is sent and handled once: without memory for the node by the caller, and else by the
notifier, which gets the notification and does not drop it. -/
def SendEnv.Passes (env : SendEnv) (how : NotifierEnv) : Prop :=
  env.malloc = true →
    (env.mActive = true ∧ env.enqueue = true ∧ env.sendCmd = true) ∧ how.drops = false

namespace JpegEvtEnv

/-- The event is neither refused nor left to the save thread. -/
def Handled (env : JpegEvtEnv) : Prop :=
  env.mBInited = true ∧ ¬ (env.mUseSaveProc = true ∧ env.isLongshotEnabled = true)

def Wanted (env : JpegEvtEnv) : Prop :=
  env.Handled ∧ env.statusError = false ∧
    (env.mBIntJpegEvtPending = true ∨ env.mDataCb = true ∧ env.msgTypeEnabled = true)

/-- The memory of the event is taken over, or one is allocated for a copy. -/
def TakesJpeg (env : JpegEvtEnv) : Prop :=
  env.Wanted ∧ (env.mJpegMemOpt = true ∧ env.evtMem = true ∨
    env.mJpegMemOpt = false ∧ env.mBIntJpegEvtPending = false ∧ env.mGetMemory = true)

def SendsJpeg (env : JpegEvtEnv) : Prop :=
  env.Wanted ∧ env.mBIntJpegEvtPending = false ∧
    (env.mJpegMemOpt = true ∨ env.mGetMemory = true)

instance (env : JpegEvtEnv) : Decidable env.Handled := inferInstanceAs (Decidable (_ ∧ _))

instance (env : JpegEvtEnv) : Decidable env.Wanted := inferInstanceAs (Decidable (_ ∧ _))

instance (env : JpegEvtEnv) : Decidable env.SendsJpeg := inferInstanceAs (Decidable (_ ∧ _))

/-- The depth map is sent, with so many images before the event. -/
def SendsDepth (env : JpegEvtEnv) (outputImageCount : Nat) : Prop :=
  env.Handled ∧ ¬ (env.Wanted ∧ env.mBIntJpegEvtPending = true) ∧ env.isUbiRefocus = true ∧
    outputImageCount + (if env.SendsJpeg then 1 else 0) + 1 = env.refocusOutputCount

end JpegEvtEnv

namespace JpegOutput

/-- A jpeg that is taken over is not for an internal event and is handled once when it is sent, and
so is a depth map that is pending. -/
def Safe (env : JpegEvtEnv) (how : Option OutMem → NotifierEnv) (pending : Bool)
    (outputImageCount : Nat) : Prop :=
  (env.TakesJpeg → env.mBIntJpegEvtPending = false ∧
    env.jpegSend.Passes (how (some .jpeg))) ∧
  (pending = true → env.SendsDepth outputImageCount → env.depthSend.Passes (how (some .depth)))

variable {s t : JpegOutput} {how : Option OutMem → NotifierEnv} {env : JpegEvtEnv} {m : OutMem}

structure QueueValid (s : JpegOutput) : Prop where
  nodup : s.dataQ.Nodup
  below : ∀ node ∈ s.dataQ, node < s.nodes.length

def queued (s : JpegOutput) : List (Option OutMem) := s.dataQ.map s.dataOf

/-- What the notifier does with a notification of this memory. -/
def delivered (how : Option OutMem → NotifierEnv) (data : Option OutMem) : List MemEvent :=
  if !(how data).msgTypeEnabled then data.toList.map .released
  else if (how data).isSnapshotActive && (how data).mDataCb then
    if (how data).mJpegCb then data.toList.map .handed else data.toList.map .released
  else []

theorem deliver_log (s : JpegOutput) (node : Nat) :
    (deliver how s node).log = s.log ++ delivered how (s.dataOf node) := by
  simp only [deliver, delivered]
  split
  · rfl
  split
  · split <;> rfl
  · simp

theorem dataOf_releaseNotifyData {node other : Nat} (hne : other ≠ node) :
    (s.releaseNotifyData node).dataOf other = s.dataOf other := by
  simp [dataOf, releaseNotifyData, List.getElem?_set_ne (Ne.symm hne)]

theorem dataOf_deliver {node other : Nat} (hne : other ≠ node) :
    (deliver how s node).dataOf other = s.dataOf other := by
  simp only [deliver]
  split
  · exact dataOf_releaseNotifyData hne
  split
  · split
    · rfl
    · exact dataOf_releaseNotifyData hne
  · rfl

theorem foldl_deliver_log {nodes : List Nat} (hnodup : nodes.Nodup) :
    (nodes.foldl (deliver how) s).log =
      s.log ++ (nodes.map s.dataOf).flatMap (delivered how) := by
  induction nodes generalizing s with
  | nil => simp
  | cons node nodes ih =>
    obtain ⟨hnot, hrest⟩ := List.nodup_cons.mp hnodup
    have hsame : nodes.map (deliver how s node).dataOf = nodes.map s.dataOf := by
      refine List.map_congr_left fun other hother => dataOf_deliver ?_
      rintro rfl
      exact hnot hother
    rw [List.foldl_cons, ih hrest, hsame, deliver_log, List.map_cons, List.flatMap_cons,
      List.append_assoc]

/-- How often a memory is released or handed on, after the notifier took what is queued. -/
def settled (how : Option OutMem → NotifierEnv) (m : OutMem) (s : JpegOutput) : Nat :=
  (s.log ++ s.queued.flatMap (delivered how)).count (.released m) +
    (s.log ++ s.queued.flatMap (delivered how)).count (.handed m)

theorem not_taken_delivered (data : Option OutMem) : .taken m ∉ delivered how data := by
  unfold delivered
  split
  · simp
  split
  · split <;> simp
  · simp

theorem QueueValid.releasedOnce_iff (hs : s.QueueValid) :
    (s.deliverAll how).ReleasedOnce ↔ ∀ m, .taken m ∈ s.log → settled how m s = 1 := by
  have hlog : (s.deliverAll how).log = s.log ++ s.queued.flatMap (delivered how) :=
    foldl_deliver_log hs.nodup
  unfold ReleasedOnce settled
  rw [hlog]
  refine forall_congr' fun m => ?_
  have htaken : .taken m ∈ s.log ++ s.queued.flatMap (delivered how) ↔ .taken m ∈ s.log := by
    rw [List.mem_append, List.mem_flatMap]
    refine or_iff_left ?_
    rintro ⟨data, -, hdata⟩
    exact not_taken_delivered data hdata
  rw [htaken]

/-- How often a memory that is sent is handled, with the error branch of the caller. -/
def handledTimes (env : SendEnv) (how : NotifierEnv) : Nat :=
  if env.malloc then
    if env.mActive && env.enqueue && env.sendCmd then
      if how.drops then 0 else 1
    else 2
  else 1

theorem handledTimes_eq_one_iff (env : SendEnv) (how : NotifierEnv) :
    handledTimes env how = 1 ↔ env.Passes how := by
  grind [handledTimes, SendEnv.Passes]

def settlesIn (m : OutMem) (es : List MemEvent) : Nat :=
  es.count (.released m) + es.count (.handed m)

theorem settled_add (how : Option OutMem → NotifierEnv) (m : OutMem) (t : JpegOutput)
    {es : List MemEvent} {qs : List (Option OutMem)} (hqueued : t.queued = s.queued ++ qs)
    (hlog : t.log = s.log ++ es) :
    settled how m t =
      settled how m s + settlesIn m es + settlesIn m (qs.flatMap (delivered how)) := by
  unfold settled settlesIn
  grind

theorem settlesIn_released (data : Option OutMem) :
    settlesIn m (data.toList.map .released) = if data = some m then 1 else 0 := by
  cases data with
  | none => rfl
  | some d => by_cases hd : d = m <;> simp [settlesIn, hd]

theorem settlesIn_handed (data : Option OutMem) :
    settlesIn m (data.toList.map .handed) = if data = some m then 1 else 0 := by
  cases data with
  | none => rfl
  | some d => by_cases hd : d = m <;> simp [settlesIn, hd]

theorem settlesIn_delivered (data : Option OutMem) :
    settlesIn m (delivered how data) =
      if data = some m then (if (how (some m)).drops then 0 else 1) else 0 := by
  have hnil : settlesIn m [] = 0 := rfl
  by_cases hm : data = some m
  · grind [delivered, NotifierEnv.drops, settlesIn]
  grind [delivered, settlesIn_released, settlesIn_handed]

theorem settled_release (data : Option OutMem) (s : JpegOutput) :
    settled how m (s.release data) = settled how m s + if data = some m then 1 else 0 := by
  have hqueued : (s.release data).queued = s.queued ++ [] := (List.append_nil _).symm
  rw [settled_add how m _ hqueued rfl, settlesIn_released]
  rfl

/-- The effect of a send with the branch for its error: the memory is handled so often, and nothing
else changes that counts. -/
structure SendEffect (how : Option OutMem → NotifierEnv) (env : SendEnv) (data : Option OutMem)
    (s t : JpegOutput) : Prop where
  valid : t.QueueValid
  settled : ∀ m, t.settled how m = s.settled how m +
    if data = some m then handledTimes env (how (some m)) else 0
  taken : ∀ m, .taken m ∈ t.log ↔ .taken m ∈ s.log
  dataMem : t.dataMem = s.dataMem
  count : t.outputImageCount = s.outputImageCount

theorem QueueValid.queued_node (hs : s.QueueValid) (node : Option (Option OutMem))
    (log : List MemEvent) :
    queued { s with nodes := s.nodes ++ [node], log } = s.queued := by
  refine List.map_congr_left fun n hn => ?_
  simp [dataOf, List.getElem?_append_left (hs.below n hn)]

theorem QueueValid.queued_snoc (hs : s.QueueValid) (node : Option (Option OutMem))
    (log : List MemEvent) :
    queued { s with nodes := s.nodes ++ [node], dataQ := s.dataQ ++ [s.nodes.length], log } =
      s.queued ++ [node.join] := by
  have hfront := hs.queued_node node log
  unfold queued at hfront ⊢
  rw [List.map_append, List.map_singleton]
  congr 1
  simp [dataOf]

theorem QueueValid.node (hs : s.QueueValid) (node : Option (Option OutMem)) (log : List MemEvent) :
    QueueValid { s with nodes := s.nodes ++ [node], log } where
  nodup := hs.nodup
  below n hn := by
    rw [List.length_append]
    exact Nat.lt_add_right _ (hs.below n hn)

theorem QueueValid.snoc (hs : s.QueueValid) (node : Option (Option OutMem)) (log : List MemEvent) :
    QueueValid
      { s with nodes := s.nodes ++ [node], dataQ := s.dataQ ++ [s.nodes.length], log } where
  nodup := by
    refine List.nodup_append.mpr ⟨hs.nodup, List.pairwise_singleton _ _, fun a ha b hb => ?_⟩
    have hlt := hs.below a ha
    have hb := List.mem_singleton.mp hb
    omega
  below n hn := by
    rw [List.length_append, List.length_singleton]
    rcases List.mem_append.mp hn with hn | hn
    · exact Nat.lt_succ_of_lt (hs.below n hn)
    · rw [List.mem_singleton.mp hn]
      exact Nat.lt_succ_self _

theorem releaseNotifyData_last (s : JpegOutput) (q : List Nat) (data : Option OutMem) :
    releaseNotifyData { s with nodes := s.nodes ++ [some data], dataQ := q } s.nodes.length =
      { s with
        nodes := s.nodes ++ [none], dataQ := q, log := s.log ++ data.toList.map .released } := by
  simp [releaseNotifyData, release, logs, dataOf]

theorem sendDataNotify_effect (how : Option OutMem → NotifierEnv) (hs : s.QueueValid) (env : SendEnv) (data : Option OutMem) :
    SendEffect how env data s
      ((s.sendDataNotify env data).2.releaseOnError (s.sendDataNotify env data).1 data) := by
  by_cases hmalloc : env.malloc = true
  case neg =>
    have hsend : s.sendDataNotify env data = (noMem, s) := by simp [sendDataNotify, hmalloc]
    rw [hsend]
    have htimes : ∀ h, handledTimes env h = 1 := fun h => by simp [handledTimes, hmalloc]
    exact ⟨⟨hs.nodup, hs.below⟩, fun m => by rw [htimes]; exact settled_release data s,
      fun m => by simp [releaseOnError, noMem, release, logs], rfl, rfl⟩
  by_cases hnotify : env.mActive = true ∧ env.enqueue = true ∧ env.sendCmd = true
  · obtain ⟨hactive, henqueue, hcmd⟩ := hnotify
    have hsend : s.sendDataNotify env data =
        (0, { s with
          nodes := s.nodes ++ [some data], dataQ := s.dataQ ++ [s.nodes.length] }) := by
      simp [sendDataNotify, notifyCallback, hmalloc, hactive, henqueue, hcmd]
    have htimes : ∀ h, handledTimes env h = if h.drops then 0 else 1 := by
      intro h
      simp [handledTimes, hmalloc, hactive, henqueue, hcmd]
    rw [hsend]
    refine ⟨hs.snoc _ _, fun m => ?_, fun m => Iff.rfl, rfl, rfl⟩
    have hlog : s.log = s.log ++ [] := (List.append_nil s.log).symm
    refine (settled_add how m _ (hs.queued_snoc (some data) s.log) hlog).trans ?_
    rw [htimes]
    have hnil : settlesIn m [] = 0 := rfl
    simp only [List.flatMap_singleton, Option.join_some, settlesIn_delivered, hnil, Nat.add_zero]
  · have htimes : ∀ h, handledTimes env h = 2 := by
      intro h
      rw [handledTimes, if_pos hmalloc, if_neg]
      simpa [and_assoc] using hnotify
    have hsend : (s.sendDataNotify env data).1 ≠ 0 ∧
        ((s.sendDataNotify env data).2 = { s with
          nodes := s.nodes ++ [none], log := s.log ++ data.toList.map .released } ∨
        (s.sendDataNotify env data).2 = { s with
          nodes := s.nodes ++ [none], dataQ := s.dataQ ++ [s.nodes.length],
          log := s.log ++ data.toList.map .released }) := by
      have hlast := fun q => releaseNotifyData_last s q data
      cases hactive : env.mActive with
      | false => simp [sendDataNotify, notifyCallback, hmalloc, hactive, unknownErr, hlast]
      | true =>
        cases henqueue : env.enqueue with
        | false =>
          simp [sendDataNotify, notifyCallback, hmalloc, hactive, henqueue, unknownErr, hlast]
        | true =>
          have hcmd : env.sendCmd = false := by simpa [hactive, henqueue] using hnotify
          simp [sendDataNotify, notifyCallback, hmalloc, hactive, henqueue, hcmd, unknownErr, noMem,
            hlast]
    obtain ⟨hrc, hstate⟩ := hsend
    have hend : (s.sendDataNotify env data).2.releaseOnError (s.sendDataNotify env data).1 data =
        (s.sendDataNotify env data).2.release data := if_pos hrc
    rw [hend]
    have hnone : ∀ m, settlesIn m (delivered how none) = 0 := fun m => by
      rw [settlesIn_delivered, if_neg nofun]
    have htwice : ∀ m, (if data = some m then 1 else 0) + (if data = some m then 1 else 0) =
        if data = some m then handledTimes env (how (some m)) else 0 := by
      intro m
      rw [htimes]
      split <;> rfl
    rcases hstate with h | h <;> rw [h]
    · have hvalid := hs.node none (s.log ++ data.toList.map .released)
      have hqueued := (hs.queued_node none (s.log ++ data.toList.map .released)).trans
        (List.append_nil s.queued).symm
      refine ⟨⟨hvalid.nodup, hvalid.below⟩, fun m => ?_, fun m => by simp [release, logs], rfl, rfl⟩
      have hnil : settlesIn m [] = 0 := rfl
      rw [settled_release, settled_add how m _ hqueued rfl, settlesIn_released, ← htwice]
      simp only [List.flatMap_nil, hnil, Nat.add_zero, Nat.add_assoc]
    · have hvalid := hs.snoc none (s.log ++ data.toList.map .released)
      have hqueued := hs.queued_snoc none (s.log ++ data.toList.map .released)
      refine ⟨⟨hvalid.nodup, hvalid.below⟩, fun m => ?_, fun m => by simp [release, logs], rfl, rfl⟩
      rw [settled_release, settled_add how m _ hqueued rfl, settlesIn_released, ← htwice]
      grind

/-- The depth map is due, and if it is pending it is taken over and sent. -/
def DepthDue (env : JpegEvtEnv) (count : Nat) : Prop :=
  env.isUbiRefocus = true ∧ count + 1 = env.refocusOutputCount

instance (count : Nat) : Decidable (DepthDue env count) := inferInstanceAs (Decidable (_ ∧ _))

/-- What the end of the event does: a memory of an error is released, and a depth map that is due is
sent. -/
structure EndEffect (how : Option OutMem → NotifierEnv) (env : JpegEvtEnv) (s t : JpegOutput) :
    Prop where
  valid : t.QueueValid
  settled : ∀ m, t.settled how m = s.settled how m +
    if DepthDue env s.outputImageCount ∧ s.dataMem = some m then handledTimes env.depthSend (how (some m)) else 0
  taken : ∀ m, .taken m ∈ t.log ↔ .taken m ∈ s.log ∨ DepthDue env s.outputImageCount ∧ s.dataMem = some m

theorem sendDepthMap_effect (hs : s.QueueValid) (env : JpegEvtEnv) (rc : Int) :
    EndEffect how env s (s.sendDepthMap env rc).2 := by
  unfold sendDepthMap
  by_cases hdue : DepthDue env s.outputImageCount
  · rw [if_pos (by simpa [DepthDue] using hdue)]
    have hvalid : QueueValid { s.logs (s.dataMem.toList.map .taken) with
        outputImageCount := s.outputImageCount + 1, dataMem := none } := ⟨hs.nodup, hs.below⟩
    have hsent := sendDataNotify_effect how hvalid env.depthSend s.dataMem
    refine ⟨hsent.valid, fun m => (hsent.settled m).trans ?_, fun m => (hsent.taken m).trans ?_⟩
    · have htaken : settlesIn m (s.dataMem.toList.map .taken) = 0 := by
        cases s.dataMem <;> simp [settlesIn]
      have hsame := settled_add how m { s.logs (s.dataMem.toList.map .taken) with
        outputImageCount := s.outputImageCount + 1, dataMem := none }
        (List.append_nil s.queued).symm rfl
      rw [hsame, htaken]
      simp only [hdue, true_and]
      rfl
    · simp [logs, hdue, eq_comm]
  · rw [if_neg (by simpa [DepthDue] using hdue)]
    exact ⟨hs, fun m => by rw [if_neg (fun h => hdue h.1)]; rfl, fun m => by simp [hdue]⟩

theorem atEnd_none (hs : s.QueueValid) (env : JpegEvtEnv) (rc : Int) :
    EndEffect how env s (s.atEnd env rc none).2 := by
  have hsame : s.releaseOnError rc none = s := by
    unfold releaseOnError release logs
    split <;> simp
  unfold atEnd
  rw [hsame]
  exact sendDepthMap_effect hs env rc

/-- The jpeg is sent, and after it a depth map that is due then. -/
structure SendJpegEffect (how : Option OutMem → NotifierEnv) (env : JpegEvtEnv)
    (jpegMem : Option OutMem) (s t : JpegOutput) : Prop where
  valid : t.QueueValid
  settled : ∀ m, t.settled how m = s.settled how m +
    (if jpegMem = some m then handledTimes env.jpegSend (how (some m)) else 0) +
    if DepthDue env (s.outputImageCount + 1) ∧ s.dataMem = some m then
      handledTimes env.depthSend (how (some m)) else 0
  taken : ∀ m, .taken m ∈ t.log ↔ .taken m ∈ s.log ∨
    DepthDue env (s.outputImageCount + 1) ∧ s.dataMem = some m

theorem sendJpeg_effect (hs : s.QueueValid) (env : JpegEvtEnv) (jpegMem : Option OutMem) :
    SendJpegEffect how env jpegMem s (s.sendJpeg env jpegMem).2 := by
  have hsent := sendDataNotify_effect how hs env.jpegSend jpegMem
  unfold sendJpeg atEnd
  generalize s.sendDataNotify env.jpegSend jpegMem = r at hsent ⊢
  -- the error branch does not look at the count
  have hcount : releaseOnError { r.2 with outputImageCount := r.2.outputImageCount + 1 } r.1 jpegMem =
      { r.2.releaseOnError r.1 jpegMem with
        outputImageCount := (r.2.releaseOnError r.1 jpegMem).outputImageCount + 1 } := by
    unfold releaseOnError
    split <;> rfl
  simp only [hcount]
  generalize r.2.releaseOnError r.1 jpegMem = u at hsent ⊢
  have hvalid : QueueValid { u with outputImageCount := u.outputImageCount + 1 } :=
    ⟨hsent.valid.nodup, hsent.valid.below⟩
  have hdepth : EndEffect how env _ _ := sendDepthMap_effect hvalid env r.1
  have hcounts : u.outputImageCount = s.outputImageCount := hsent.count
  refine ⟨hdepth.valid, fun m => (hdepth.settled m).trans ?_, fun m => (hdepth.taken m).trans ?_⟩
  · simp only [hcounts, hsent.dataMem]
    rw [← hsent.settled m]
    rfl
  · simp only [hcounts, hsent.dataMem, hsent.taken]

def before (pending : Bool) (outputImageCount : Nat) : JpegOutput where
  dataMem := if pending then some .depth else none
  outputImageCount

/-- What becomes of the two memories. -/
structure EvtEffect (how : Option OutMem → NotifierEnv) (env : JpegEvtEnv) (pending : Bool)
    (count : Nat) (t : JpegOutput) : Prop where
  valid : t.QueueValid
  jpegTaken : .taken .jpeg ∈ t.log ↔ env.TakesJpeg
  depthTaken : .taken .depth ∈ t.log ↔ pending = true ∧ env.SendsDepth count
  jpegSettled : env.TakesJpeg → t.settled how .jpeg =
    if env.mBIntJpegEvtPending then 0 else handledTimes env.jpegSend (how (some .jpeg))
  depthSettled : pending = true → env.SendsDepth count →
    t.settled how .depth = handledTimes env.depthSend (how (some .depth))

theorem before_valid (pending : Bool) (count : Nat) : (before pending count).QueueValid :=
  ⟨List.Pairwise.nil, fun _ h => nomatch h⟩

theorem before_dataMem (pending : Bool) (count : Nat) :
    (before pending count).dataMem = some m ↔ m = .depth ∧ pending = true := by
  cases pending <;> simp [before, eq_comm]

theorem EndEffect.evtEffect {pending : Bool} {count : Nat} (htakes : ¬ env.TakesJpeg)
    (hdepth : env.SendsDepth count ↔ DepthDue env count)
    (h : EndEffect how env (before pending count) t) : EvtEffect how env pending count t where
  valid := h.valid
  jpegTaken := by
    rw [h.taken, before_dataMem]
    simp [before, htakes]
  depthTaken := by
    rw [h.taken, before_dataMem, hdepth]
    simp [before, and_comm]
  jpegSettled ht := absurd ht htakes
  depthSettled hp hd := by
    rw [h.settled, if_pos ⟨hdepth.mp hd, (before_dataMem pending count).mpr ⟨rfl, hp⟩⟩]
    exact Nat.zero_add _

theorem SendJpegEffect.evtEffect {pending : Bool} {count : Nat} {jpegMem : Option OutMem}
    (hint : env.mBIntJpegEvtPending = false) (hmem : jpegMem = some .jpeg ↔ env.TakesJpeg)
    (hnot : jpegMem ≠ some .depth) (hdepth : env.SendsDepth count ↔ DepthDue env (count + 1))
    (h : SendJpegEffect how env jpegMem
      ((before pending count).logs (jpegMem.toList.map .taken)) t) :
    EvtEffect how env pending count t := by
  have hdata : ∀ m, ((before pending count).logs (jpegMem.toList.map .taken)).dataMem = some m ↔
      m = .depth ∧ pending = true := fun m => before_dataMem pending count
  have hlog : ∀ m, .taken m ∈ ((before pending count).logs (jpegMem.toList.map .taken)).log ↔
      jpegMem = some m := by
    intro m
    simp [logs, before, eq_comm]
  have hzero : ∀ m, JpegOutput.settled how m ((before pending count).logs (jpegMem.toList.map .taken)) = 0 := by
    intro m
    cases jpegMem <;> simp [JpegOutput.settled, logs, before, queued]
  have hcount : ((before pending count).logs (jpegMem.toList.map .taken)).outputImageCount = count :=
    rfl
  constructor
  · exact h.valid
  · rw [h.taken, hlog, hdata, hmem]
    simp
  · rw [h.taken, hlog, hdata, hcount, hdepth]
    simp [hnot, and_comm]
  · grind [h.settled]
  grind [h.settled]

theorem processJpegEvt_handled (h : env.Handled) (s : JpegOutput) :
    s.processJpegEvt env =
      if !env.mBIntJpegEvtPending && (!env.mDataCb || !env.msgTypeEnabled) then s.atEnd env 0 none
      else if env.statusError then s.atEnd env failedTransaction none
      else if env.mBIntJpegEvtPending then (0, s.logs ((memoryOfEvent env).toList.map .taken))
      else if !env.mJpegMemOpt then
        if !env.mGetMemory then s.atEnd env noMem none
        else (s.logs [.taken .jpeg]).sendJpeg env (some .jpeg)
      else (s.logs ((memoryOfEvent env).toList.map .taken)).sendJpeg env (memoryOfEvent env) := by
  obtain ⟨hinit, hsave⟩ := h
  unfold processJpegEvt
  rw [if_neg (by simp [hinit]), if_neg (by simpa using hsave)]
  cases hopt : env.mJpegMemOpt with
  | true => rfl
  | false =>
    have hnone : memoryOfEvent env = none := by simp [memoryOfEvent, hopt]
    simp only [hnone, Option.toList_none, List.map_nil]
    have hsame : s.logs [] = s := by simp [logs]
    rw [hsame]

theorem processJpegEvt_effect (how : Option OutMem → NotifierEnv) (env : JpegEvtEnv)
    (pending : Bool) (count : Nat) :
    EvtEffect how env pending count ((before pending count).processJpegEvt env).2 := by
  have hvalid := before_valid pending count
  by_cases hhandled : env.Handled
  case neg =>
    have hsame : ((before pending count).processJpegEvt env).2 = before pending count := by
      unfold processJpegEvt
      cases hinit : env.mBInited with
      | false => rfl
      | true =>
        have hsave : (env.mUseSaveProc && env.isLongshotEnabled) = true := by
          by_contra h
          exact hhandled ⟨hinit, by simpa using h⟩
        rw [if_neg (by simp), if_pos hsave]
    have hwanted : ¬ env.Wanted := fun h => hhandled h.1
    rw [hsame]
    exact ⟨hvalid, iff_of_false (fun h => nomatch h) fun h => hwanted h.1,
      iff_of_false (fun h => nomatch h) fun h => hhandled h.2.1, fun h => absurd h.1 hwanted,
      fun _ h => absurd h.1 hhandled⟩
  by_cases hwanted : env.Wanted
  case neg =>
    have hend : ∃ rc, (before pending count).processJpegEvt env =
        (before pending count).atEnd env rc none := by
      rw [processJpegEvt_handled hhandled]
      by_cases hcb : (!env.mBIntJpegEvtPending && (!env.mDataCb || !env.msgTypeEnabled)) = true
      · exact ⟨0, if_pos hcb⟩
      · have herror : env.statusError = true := by
          by_contra hfine
          refine hwanted ⟨hhandled, by simpa using hfine, ?_⟩
          cases hint : env.mBIntJpegEvtPending with
          | true => exact Or.inl rfl
          | false => simpa [hint] using hcb
        exact ⟨failedTransaction, by rw [if_neg hcb, if_pos herror]⟩
    obtain ⟨rc, hend⟩ := hend
    rw [hend]
    refine (atEnd_none hvalid env rc).evtEffect (fun h => hwanted h.1) ?_
    have hsends : ¬ env.SendsJpeg := fun h => hwanted h.1
    simp [JpegEvtEnv.SendsDepth, DepthDue, hhandled, hwanted, hsends]
  have hlogs : ∀ es, ((before pending count).logs es).QueueValid := fun _ =>
    ⟨hvalid.nodup, hvalid.below⟩
  have hnot : memoryOfEvent env ≠ some .depth := by
    unfold memoryOfEvent
    split <;> simp
  have hmem : memoryOfEvent env = some .jpeg ↔ env.mJpegMemOpt = true ∧ env.evtMem = true := by
    simp [memoryOfEvent]
  obtain ⟨-, herror, hcb⟩ := id hwanted
  rw [processJpegEvt_handled hhandled, if_neg, if_neg (by simp [herror])]
  case hnc =>
    grind
  cases hint : env.mBIntJpegEvtPending with
  | true =>
    rw [if_pos rfl]
    have hsends : ¬ env.SendsDepth count := fun h => h.2.1 ⟨hwanted, hint⟩
    refine ⟨hlogs _, ?_, iff_of_false ?_ fun h => hsends h.2, fun _ => ?_,
      fun _ h => absurd h hsends⟩
    · simp [logs, before, hmem, JpegEvtEnv.TakesJpeg, hwanted, hint]
    · simp [logs, before, hnot]
    · rw [if_pos hint]
      cases memoryOfEvent env <;> simp [settled, logs, before, queued]
  | false =>
    rw [if_neg Bool.false_ne_true]
    have hdepth : env.mJpegMemOpt = true ∨ env.mGetMemory = true →
        (env.SendsDepth count ↔ DepthDue env (count + 1)) := by
      intro hsend
      have hsends : env.SendsJpeg := ⟨hwanted, hint, hsend⟩
      simp [JpegEvtEnv.SendsDepth, DepthDue, hhandled, hint, hsends]
    cases hopt : env.mJpegMemOpt with
    | true =>
      rw [if_neg (by simp)]
      refine (sendJpeg_effect (hlogs _) env _).evtEffect hint ?_ hnot
        (hdepth (Or.inl hopt))
      simp [hmem, JpegEvtEnv.TakesJpeg, hwanted, hint, hopt]
    | false =>
      rw [if_pos (by simp)]
      cases hget : env.mGetMemory with
      | true =>
        rw [if_neg (by simp)]
        have htakes : env.TakesJpeg := ⟨hwanted, Or.inr ⟨hopt, hint, hget⟩⟩
        exact SendJpegEffect.evtEffect hint (iff_of_true rfl htakes) (by simp)
          (hdepth (Or.inr hget)) (sendJpeg_effect (hlogs _) env (some .jpeg))
      | false =>
        rw [if_pos (by simp)]
        refine (atEnd_none hvalid env noMem).evtEffect ?_ ?_
        · simp [JpegEvtEnv.TakesJpeg, hopt, hget]
        · simp [JpegEvtEnv.SendsDepth, JpegEvtEnv.SendsJpeg, DepthDue, hhandled, hint, hopt, hget]

theorem outputs_releasedOnce_iff (env : JpegEvtEnv) (how : Option OutMem → NotifierEnv)
    (pending : Bool) (outputImageCount : Nat) :
    (((before pending outputImageCount).processJpegEvt env).2.deliverAll how).ReleasedOnce ↔
      Safe env how pending outputImageCount := by
  have h := processJpegEvt_effect how env pending outputImageCount
  rw [h.valid.releasedOnce_iff]
  constructor
  · intro hall
    refine ⟨fun ht => ?_, fun hp hd => ?_⟩
    · have hone := (h.jpegSettled ht).symm.trans (hall .jpeg (h.jpegTaken.mpr ht))
      cases hint : env.mBIntJpegEvtPending with
      | true =>
        rw [if_pos hint] at hone
        cases hone
      | false =>
        rw [if_neg (by simp [hint])] at hone
        exact ⟨rfl, (handledTimes_eq_one_iff _ _).mp hone⟩
    · refine (handledTimes_eq_one_iff _ _).mp ?_
      exact (h.depthSettled hp hd).symm.trans (hall .depth (h.depthTaken.mpr ⟨hp, hd⟩))
  · rintro ⟨hjpeg, hdepth⟩ (_ | _) hm
    · have ht := h.jpegTaken.mp hm
      obtain ⟨hint, hpasses⟩ := hjpeg ht
      rw [h.jpegSettled ht, if_neg (by simp [hint])]
      exact (handledTimes_eq_one_iff _ _).mpr hpasses
    · obtain ⟨hp, hd⟩ := h.depthTaken.mp hm
      rw [h.depthSettled hp hd]
      exact (handledTimes_eq_one_iff _ _).mpr (hdepth hp hd)

/-- The queue of the notifier does not take the notification, and the memory of the jpeg is released
for the node and once more at the end. -/
theorem failed_notify_releases_twice :
    ¬ (((before false 0).processJpegEvt { jpegSend := { enqueue := false } }).2.deliverAll
      fun _ => {}).ReleasedOnce :=
  fun h => absurd (h .jpeg (by decide)) (by decide)

end JpegOutput

end DeviceHal.Camera
