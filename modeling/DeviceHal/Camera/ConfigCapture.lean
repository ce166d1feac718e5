import DeviceHal.Camera.EnqueueEffect

namespace DeviceHal.Camera

open Lib

def maxCaptureBatchNum : Nat := 32

/-- `cam_capture_frame_config_t`, with the `num_frames` of its settings. -/
structure CaptureFrameConfig where
  numBatch : UInt32
  numFrames : List Int
  length_eq : numFrames.length = maxCaptureBatchNum

inductive ReqBufType where
  | superBuf
  | frameSyncBuf
deriving DecidableEq

/-- A command of the channel's thread. The bracketing commands for AE and AF share their code.
`alloc` is whether the allocations succeed. -/
inductive ChannelCmd where
  | dataCb (info : MmCameraBufInfo) (alloc : Bool)
  | reqDataCb (numBufRequested numRetroBufRequested : UInt32) (reqType : ReqBufType)
  | startZsl
  | stopZsl
  | configNotify (notifyMode : SuperBufNotifyMode)
  | flushQueue (frameIdx : UInt32) (streamType : CamStreamType)
  | bracketing (start : Bool)
  | flashBracketing (start : Bool)
  | zoom1x (start : Bool)
  | captureSetting (config : Option CaptureFrameConfig)

/-- A superbuf that is sent while a capture configuration is active, with the number announced for
the current batch. -/
structure SentSuperbuf where
  frameIdx : UInt32
  announced : UInt32
deriving DecidableEq

/-- A channel with what its thread reads besides. `processing` is whether the thread is in the loop
that sends superbufs. History: the numbers that metadata last announced for the batches, the
numbers announced as diverted, those of them of which no buffer has come into the queue since, and
the superbufs sent. -/
structure CaptureChannel where
  ch : MmChannel
  pendingCnt : UInt32 := 0
  pendingRetroCnt : UInt32 := 0
  reqType : ReqBufType := .superBuf
  manualZSLSnapshot : Bool := false
  startZSlSnapshotCalled : Bool := false
  numFrames : List Int := List.replicate maxCaptureBatchNum 0
  instantCaptureEnabled : Bool := false
  aecFrameBound : UInt8 := 0
  frameNumForInstantCapture : UInt32 := 0
  processing : Bool := false
  announced : List UInt32 := List.replicate maxCaptureBatchNum 0
  diverted : List UInt32 := []
  due : List UInt32 := []
  sent : List SentSuperbuf := []

/-- What a turn of the loop finds outside the channel: the frame that the frame synchronisation has
matched, with whether each camera has it, and whether `mm_channel_check_aec` holds. -/
structure LoopTurn where
  syncMatch : Option (UInt32 × Bool) := none
  aecSettled : Bool := true
deriving DecidableEq

inductive CaptureOp where
  | message (cmd : ChannelCmd)
  | turn (env : LoopTurn)

namespace MmChannel

/-- The metadata of a buffer of the channel's own metadata stream, where the channel looks at it. -/
def ownMetadata (info : MmCameraBufInfo) (s : MmChannel) : Option MetadataBuffer :=
  if s.bundledStreams.contains info.streamId && info.frameIdx ≠ 0 then
    match s.mmChannelUtilGetStreamByHandler info.streamId with
    | some stream =>
      if stream.streamType = some .metadata && stream.own then info.buf.buffer else none
    | none => none
  else none

/-- The batch and the number that metadata announces for it. -/
def announcedBatch (info : MmCameraBufInfo) (s : MmChannel) : Option (UInt32 × UInt32) :=
  ((s.ownMetadata info).bind MetadataBuffer.goodFrameIdxRange).bind fun range =>
    if s.isConfigCapture && range.configBatchIdx < s.numBatch then
      some (range.configBatchIdx, range.minFrameIdx)
    else none

/-- The number in the metadata that is announced as diverted. -/
def divertInfo (info : MmCameraBufInfo) (s : MmChannel) : Option UInt32 :=
  (s.ownMetadata info).bind MetadataBuffer.divertInfo

/-- That number, if it is not older than the metadata. -/
def announcedDivert (info : MmCameraBufInfo) (s : MmChannel) : Option UInt32 :=
  (s.divertInfo info).filter fun frameId => frameId ≥ info.frameIdx

/-- `capture_frame_id` of the current batch. -/
def curCaptureFrameId (s : MmChannel) : UInt32 :=
  (s.captureFrameId[s.curCaptureIdx.toNat]?.getD 0).toUInt32

/-- Each incomplete superbuf that the buffer is put in is of its frame. -/
def FitsOwn (info : MmCameraBufInfo) (s : MmChannel) : Prop :=
  ∀ i ∈ s.bundledStreams.findIdx? (fun stream => info.streamId = stream),
    ∀ node ∈ s.que.nodes, node.isMatched = false → s.picks info i node = true →
      node.frameIdx = info.frameIdx

instance (info : MmCameraBufInfo) (s : MmChannel) : Decidable (s.FitsOwn info) :=
  inferInstanceAs (Decidable (∀ i ∈ s.bundledStreams.findIdx? _, _))

def holds (buf : MmCameraBufDef) (s : MmChannel) : Bool :=
  s.que.nodes.any fun node => node.bufs.contains buf

end MmChannel

namespace CaptureChannel

/-- A channel that has been added, with its configuration. -/
def new (bundledStreams : List UInt32) (attr : MmCameraChannelAttr) (streams : List MmStream)
    (instantCaptureEnabled : Bool) (aecFrameBound : UInt8) : CaptureChannel where
  ch := {
    que := {}
    bundledStreams
    attr
    streams
    captureFrameId := List.replicate maxCaptureBatchNum 0 }
  instantCaptureEnabled
  aecFrameBound

def receive (info : MmCameraBufInfo) (alloc : Bool) (s : CaptureChannel) : Option CaptureChannel := do
  let ch ← s.ch.mmChannelSuperbufCompAndEnqueue info alloc
  let due := s.due ++ (s.ch.announcedDivert info).toList
  some { s with
    ch
    announced := (s.ch.announcedBatch info).elim s.announced fun (batch, frameId) =>
      s.announced.set batch.toNat frameId
    diverted := s.diverted ++ (s.ch.announcedDivert info).toList
    due := if ch.holds info.buf then due.filter fun frameId => frameId ≠ info.frameIdx else due }

def reqDataCb (numBuf numRetro : UInt32) (reqType : ReqBufType) (s : CaptureChannel) :
    Option CaptureChannel := do
  let pendingRetroCnt := if numBuf = 0 || numRetro > numBuf then numBuf else numRetro
  let ch ← { s.ch with
    bWaitForPrepSnapshotDone := false
    needLEDFlash := if pendingRetroCnt > 0 then false else s.ch.needLEDFlash
    stopZslSnapshot := false }.mmChannelSuperbufSkip
  some { s with ch, pendingCnt := numBuf, pendingRetroCnt, reqType }

/-- `MM_CAMERA_GENERIC_CMD_TYPE_CAPTURE_SETTING`; without a configuration it stops the capture. -/
def captureSetting (config : Option CaptureFrameConfig) (s : CaptureChannel) : CaptureChannel :=
  { s with
    ch := { s.ch with
      isConfigCapture := config.isSome
      numBatch := config.elim 0 CaptureFrameConfig.numBatch
      curCaptureIdx := 0
      captureFrameId := List.replicate maxCaptureBatchNum 0 }
    numFrames := config.elim (List.replicate maxCaptureBatchNum 0) CaptureFrameConfig.numFrames
    announced := List.replicate maxCaptureBatchNum 0 }

def handleCmd (s : CaptureChannel) : ChannelCmd → Option CaptureChannel
  | .dataCb info alloc => s.receive info alloc
  | .reqDataCb numBuf numRetro reqType => s.reqDataCb numBuf numRetro reqType
  | .startZsl => some { s with manualZSLSnapshot := true }
  | .stopZsl => some { s with manualZSLSnapshot := false }
  | .configNotify notifyMode =>
    some { s with ch := { s.ch with attr := { s.ch.attr with notifyMode } } }
  | .flushQueue frameIdx streamType =>
    some { s with ch := { s.ch with expectedFrameId := frameIdx }.mmChannelSuperbufFlush streamType }
  | .bracketing start =>
    let ch := s.ch.mmChannelSuperbufFlush .default
    some { s with ch := { ch with bracketingState := if start then .waitGoodFrameIdx else .off } }
  | .flashBracketing start =>
    let ch := s.ch.mmChannelSuperbufFlush .default
    some { s with ch := { ch with isFlashBracketingEnabled := start } }
  | .zoom1x start =>
    let ch := s.ch.mmChannelSuperbufFlush .default
    some { s with ch := { ch with isZoom1xFrameRequested := start } }
  | .captureSetting config => some (s.captureSetting config)

def startZslSnapshot (s : CaptureChannel) : CaptureChannel :=
  { s with
    ch := { s.ch with burstSnapNum := s.pendingCnt, bWaitForPrepSnapshotDone := false }
    startZSlSnapshotCalled := true }

def stopZslSnapshot (s : CaptureChannel) : CaptureChannel :=
  { s with
    ch := { s.ch with
      needLEDFlash := false
      burstSnapNum := 0
      stopZslSnapshot := false
      bracketingState := .off
      isConfigCapture := false }
    startZSlSnapshotCalled := false }

/-- What the thread does after each command but a flush of the queue. -/
def afterCmd (s : CaptureChannel) : CaptureChannel :=
  if s.pendingCnt > 0 && !s.manualZSLSnapshot && !s.startZSlSnapshotCalled && s.ch.needLEDFlash &&
      s.ch.isConfigCapture then
    { s with ch := s.ch.mmChannelSuperbufFlush .default }.startZslSnapshot
  else if s.pendingCnt > 0 && (s.ch.needLEDFlash || s.ch.bracketingState ≠ .off) &&
      !s.manualZSLSnapshot && !s.startZSlSnapshotCalled then
    s.startZslSnapshot
  else if (s.pendingCnt = 0 || s.ch.stopZslSnapshot) && !s.manualZSLSnapshot &&
      s.startZSlSnapshotCalled then
    let s := s.stopZslSnapshot
    { s with ch := { s.ch with bWaitForPrepSnapshotDone := false } }
  else s

def isFlushQueue : ChannelCmd → Bool
  | .flushQueue _ _ => true
  | _ => false

/-- `mm_channel_process_stream_buf` up to its loop. -/
def processStreamBuf (cmd : ChannelCmd) (s : CaptureChannel) : Option CaptureChannel := do
  let s ← s.handleCmd cmd
  if isFlushQueue cmd then some s
  else
    let s := s.afterCmd
    let ch ← s.ch.mmChannelSuperbufBufdoneOverflow
    some { s with ch, processing := true }

/-- The superbufs of the channel that a turn of the loop sends. Without any the loop ends. -/
def nextSuperbufs (env : LoopTurn) (s : CaptureChannel) :
    Option (List MmChannelQueueNode) × CaptureChannel :=
  if s.reqType = .frameSyncBuf then
    match env.syncMatch with
    | none => (none, s)
    | some (frameIdx, eachCamera) =>
      let nodes := (s.ch.que.nodes.find? fun node => node.isMatched && node.frameIdx = frameIdx).toList
      let ch := s.ch.mmChannelSuperbufDequeueFrameInternal frameIdx
      if eachCamera then (some nodes, { s with ch })
      else (none, { s with ch := ch.qbufAll (nodes.flatMap MmChannelQueueNode.bufs) })
  else
    match s.ch.mmChannelSuperbufDequeueInternal true with
    | (none, _) => (none, s)
    | (some node, ch) =>
      let ch := ch.hand node
      if s.ch.isConfigCapture && node.frameIdx < s.ch.curCaptureFrameId then
        (none, { s with ch := ch.qbufAll node.bufs })
      else if s.instantCaptureEnabled then
        if !env.aecSettled && s.frameNumForInstantCapture < s.aecFrameBound.toUInt32 then
          (none, { s with
            ch := ch.qbufAll node.bufs
            frameNumForInstantCapture := s.frameNumForInstantCapture + 1 })
        else (some [node], { s with ch, frameNumForInstantCapture := 0 })
      else (some [node], { s with ch })

/-- The pending counts, and the end of the capture with the last superbuf. -/
def countPending (s : CaptureChannel) : CaptureChannel :=
  let s := { s with
    pendingCnt := s.pendingCnt - 1
    pendingRetroCnt := if s.pendingRetroCnt > 0 then s.pendingRetroCnt - 1 else 0
    ch := { s.ch with
      bWaitForPrepSnapshotDone := s.ch.bWaitForPrepSnapshotDone || s.pendingRetroCnt = 1 } }
  if (s.pendingCnt = 0 || s.ch.stopZslSnapshot) && !s.manualZSLSnapshot &&
      s.startZSlSnapshotCalled then
    s.stopZslSnapshot
  else s

def framesOfBatch (s : CaptureChannel) : Int := s.numFrames[s.ch.curCaptureIdx.toNat]?.getD 0

/-- The count of the frames of the batch. A batch without any left is over. -/
def countFrame (s : CaptureChannel) : CaptureChannel :=
  if s.ch.isConfigCapture then
    let left := if s.framesOfBatch ≠ 0 then s.framesOfBatch - 1 else 0
    let s := { s with numFrames := s.numFrames.set s.ch.curCaptureIdx.toNat left }
    if left = 0 then
      let ch := { s.ch with curCaptureIdx := s.ch.curCaptureIdx + 1 }
      { s with ch := { ch with expectedFrameId := ch.curCaptureFrameId } }
    else s
  else s

def inLoop (s : CaptureChannel) : Bool :=
  s.processing && (s.pendingCnt > 0 || s.ch.attr.notifyMode = .continuous) &&
    !s.ch.bWaitForPrepSnapshotDone

/-- The superbufs go to the callback thread. `before` is the channel at the start of the turn. -/
def send (s before : CaptureChannel) (nodes : List MmChannelQueueNode) : CaptureChannel :=
  let announced := before.announced[before.ch.curCaptureIdx.toNat]?.getD 0
  if before.ch.isConfigCapture then
    { s with sent := s.sent ++ nodes.map fun node => ⟨node.frameIdx, announced⟩ }
  else s

def turn (env : LoopTurn) (s : CaptureChannel) : CaptureChannel :=
  if s.inLoop then
    match s.nextSuperbufs env with
    | (none, t) => { t with processing := false }
    | (some nodes, t) =>
      if s.ch.attr.notifyMode = .burst then t.countPending.countFrame.send s nodes
      else t.send s nodes
  else { s with processing := false }

/-- The thread takes the next command when it is through with the loop. -/
def step (s : CaptureChannel) : CaptureOp → Option CaptureChannel
  | .message cmd => if s.processing then none else s.processStreamBuf cmd
  | .turn env => if s.processing then some (s.turn env) else none

/-- A configuration has room for its batches, and a buffer is not delivered again while it is in the
queue. -/
def Admits (s : CaptureChannel) : CaptureOp → Prop
  | .message (.captureSetting (some config)) => config.numBatch.toNat ≤ maxCaptureBatchNum
  | .message (.dataCb info _) => s.ch.holds info.buf = false
  | _ => True

def Fits (frameId : UInt32) : Prop := frameId.toNat < 256

instance (frameId : UInt32) : Decidable (Fits frameId) := inferInstanceAs (Decidable (_ < _))

instance (s : CaptureChannel) (op : CaptureOp) : Decidable (s.Admits op) := by
  unfold Admits
  split <;> infer_instance

/-- The announced numbers of a buffer's metadata are stored, and what they replace is not awaited. -/
structure StoresNumbers (info : MmCameraBufInfo) (s : CaptureChannel) : Prop where
  batch : ∀ announcement ∈ s.ch.announcedBatch info,
    Fits announcement.2 ∧ s.ch.isZoom1xFrameRequested = false
  divert : ∀ frameId ∈ s.ch.announcedDivert info, Fits frameId ∧ ∀ other ∈ s.due, other = frameId
  older : ∀ frameId ∈ s.ch.divertInfo info, frameId < info.frameIdx → s.due = []
  own : info.frameIdx ∈ s.diverted ++ (s.ch.announcedDivert info).toList → s.ch.FitsOwn info

instance (info : MmCameraBufInfo) (s : CaptureChannel) : Decidable (s.StoresNumbers info) :=
  -- Not by trying all numbers of 32 bits.
  letI {α : Type} (o : Option α) (p : α → Prop) [DecidablePred p] : Decidable (∀ n ∈ o, p n) :=
    Option.decidableForallMem o
  letI {α : Type} (l : List α) (p : α → Prop) [DecidablePred p] : Decidable (∀ n ∈ l, p n) :=
    List.decidableBAll p l
  decidable_of_iff
    ((∀ announcement ∈ s.ch.announcedBatch info,
        Fits announcement.2 ∧ s.ch.isZoom1xFrameRequested = false) ∧
      (∀ frameId ∈ s.ch.announcedDivert info, Fits frameId ∧ ∀ other ∈ s.due, other = frameId) ∧
      (∀ frameId ∈ s.ch.divertInfo info, frameId < info.frameIdx → s.due = []) ∧
      (info.frameIdx ∈ s.diverted ++ (s.ch.announcedDivert info).toList → s.ch.FitsOwn info))
    ⟨fun ⟨batch, divert, older, own⟩ => ⟨batch, divert, older, own⟩,
      fun h => ⟨h.batch, h.divert, h.older, h.own⟩⟩

/-- A superbuf that is counted is the last of the current batch. -/
def endsBatch (env : LoopTurn) (s : CaptureChannel) : Bool :=
  s.ch.attr.notifyMode = .burst && (s.nextSuperbufs env).1.isSome &&
    s.countPending.ch.isConfigCapture && (s.framesOfBatch = 0 || s.framesOfBatch = 1)

/-- The condition on a call: announced numbers are stored as they are, superbufs of a configured
capture are not matched by the frame synchronisation, and the last batch with a place is not
left. -/
def KeepsNumbers (s : CaptureChannel) : CaptureOp → Prop
  | .message (.dataCb info _) => s.StoresNumbers info
  | .message _ => True
  | .turn env => s.inLoop = true →
    (s.ch.isConfigCapture = true → s.reqType = .superBuf) ∧
      (s.endsBatch env = true → s.ch.curCaptureIdx.toNat + 1 < maxCaptureBatchNum)

instance (s : CaptureChannel) (op : CaptureOp) : Decidable (s.KeepsNumbers op) := by
  unfold KeepsNumbers
  split <;> infer_instance

/-- A buffer of a frame announced as diverted marks the superbuf of just that frame, unless it
completes it. No other superbuf comes to be marked. -/
structure MarksDiverted (info : MmCameraBufInfo) (s t : CaptureChannel) : Prop where
  marked : info.frameIdx ∈ s.due ++ (s.ch.announcedDivert info).toList →
    ∀ node ∈ t.ch.que.nodes, info.buf ∈ node.bufs → node.isMatched = false →
      node.frameIdx = info.frameIdx ∧ node.expected = true
  only : ∀ node ∈ t.ch.que.nodes, node.expected = true →
    node.frameIdx = info.frameIdx ∧ info.buf ∈ node.bufs ∧ info.frameIdx ∈ t.diverted ∨
      ∃ old ∈ s.ch.que.nodes, old.expected = true ∧ old.frameIdx = node.frameIdx

def Marks (s t : CaptureChannel) : CaptureOp → Prop
  | .message (.dataCb info _) => MarksDiverted info s t
  | _ => ∀ node ∈ t.ch.que.nodes, node ∈ s.ch.que.nodes

/-- After the call each superbuf sent has been no older than the number announced for its batch, the
index of the batch is one of the arrays, and the marks are right. -/
def Honours (s : CaptureChannel) (op : CaptureOp) : Prop :=
  ∀ t, s.step op = some t → (∀ superbuf ∈ t.sent, superbuf.announced ≤ superbuf.frameIdx) ∧
    t.ch.curCaptureIdx.toNat < maxCaptureBatchNum ∧ Marks s t op

end CaptureChannel

end DeviceHal.Camera
