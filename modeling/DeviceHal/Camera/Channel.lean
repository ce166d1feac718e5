import Mathlib.Data.List.Basic

namespace DeviceHal.Camera

inductive CamStreamType where
  | default
  | preview
  | postview
  | snapshot
  | video
  | implDefined
  | metadata
  | raw
  | offlineProc
  | parm
  | analysis
  | callback
deriving DecidableEq, Repr

inductive SuperBufNotifyMode where
  | burst
  | continuous
deriving DecidableEq, Repr

inductive SuperBufPriority where
  | normal
  | focus
  | exposureBracketing
  | low
deriving DecidableEq, Repr

inductive BracketingState where
  | off
  | waitGoodFrameIdx
  | active
deriving DecidableEq, Repr

structure CamFrameIdxRange where
  minFrameIdx : UInt32
  maxFrameIdx : UInt32
  numLedOnFrames : UInt32
  frameSkipCount : UInt32
  configBatchIdx : UInt32
deriving DecidableEq, Repr

structure CamStreamCropInfo where
  streamId : UInt32
  left : Int
  top : Int
deriving DecidableEq, Repr

def needFutureFrame : Int := 1

/-- The entries of a metadata buffer that the matching reads, where they are there. -/
structure MetadataBuffer where
  prepSnapshotDone : Option Int := none
  goodFrameIdxRange : Option CamFrameIdxRange := none
  cropData : Option (List CamStreamCropInfo) := none
  divertInfo : Option UInt32 := none
deriving DecidableEq, Repr

/-- A buffer, by its address, with what a metadata buffer holds. -/
structure MmCameraBufDef where
  addr : Nat
  streamType : CamStreamType
  buffer : Option MetadataBuffer := none
deriving DecidableEq, Repr

structure MmCameraBufInfo where
  streamId : UInt32
  frameIdx : UInt32
  buf : MmCameraBufDef
deriving DecidableEq, Repr

/-- A superbuf. It has a slot for each bundled stream; `none` is a slot that is all zero. -/
structure MmChannelQueueNode where
  superBuf : List (Option MmCameraBufInfo)
  isMatched : Bool := false
  expected : Bool := false
  frameIdx : UInt32
deriving DecidableEq, Repr

namespace MmChannelQueueNode

/-- The buffers of the slots with a frame index. -/
def framedBufs (node : MmChannelQueueNode) : List MmCameraBufDef :=
  node.superBuf.filterMap fun slot =>
    slot.bind fun info => if info.frameIdx ≠ 0 then some info.buf else none

def bufs (node : MmChannelQueueNode) : List MmCameraBufDef :=
  node.superBuf.filterMap fun slot => slot.map MmCameraBufInfo.buf

def slotFrameIdx (node : MmChannelQueueNode) (i : Nat) : UInt32 :=
  (node.superBuf[i]?.join.map MmCameraBufInfo.frameIdx).getD 0

end MmChannelQueueNode

/-- `server` is `server_stream_id`, `inUse` whether the state is not `MM_STREAM_STATE_NOTUSED`, and
`own` whether `ch_obj` is the channel itself. -/
structure MmStream where
  hdl : UInt32
  server : UInt32
  inUse : Bool
  own : Bool
  streamType : Option CamStreamType
deriving DecidableEq, Repr

structure MmCameraChannelAttr where
  notifyMode : SuperBufNotifyMode
  waterMark : UInt8
  lookBack : UInt8
  postFrameSkip : UInt8
  maxUnmatchedFrames : UInt8
  priority : SuperBufPriority
deriving DecidableEq, Repr

/-- The list of a superbuf queue with its two counts. History: the buffers passed in, released by
`mm_channel_qbuf` and handed out by a dequeue. -/
structure SuperbufQue where
  nodes : List MmChannelQueueNode := []
  size : Nat := 0
  matchCnt : Nat := 0
  passed : List MmCameraBufDef := []
  released : List MmCameraBufDef := []
  handed : List MmCameraBufDef := []
deriving DecidableEq, Repr

/-- A channel with its superbuf queue. -/
structure MmChannel where
  que : SuperbufQue
  bundledStreams : List UInt32
  attr : MmCameraChannelAttr
  streams : List MmStream
  expectedFrameId : UInt32 := 0
  expectedFrameIdWithoutLed : UInt32 := 0
  ledOnStartFrameId : UInt32 := 0
  ledOffStartFrameId : UInt32 := 0
  ledOnNumFrames : UInt32 := 0
  once : UInt32 := 0
  frameSkipCount : UInt32 := 0
  nomatchFrameId : UInt32 := 0
  bWaitForPrepSnapshotDone : Bool := false
  stopZslSnapshot : Bool := false
  needLEDFlash : Bool := false
  bracketingState : BracketingState := .off
  isFlashBracketingEnabled : Bool := false
  isZoom1xFrameRequested : Bool := false
  burstSnapNum : UInt32 := 0
  isConfigCapture : Bool := false
  curCaptureIdx : UInt8 := 0
  numBatch : UInt32 := 0
  captureFrameId : List UInt8 := []
  divertedFrameId : UInt8 := 0
deriving DecidableEq, Repr

namespace MmChannel

def mmChannelQbuf (buf : MmCameraBufDef) (s : MmChannel) : MmChannel :=
  { s with que := { s.que with released := s.que.released ++ [buf] } }

/-- A loop of `mm_channel_qbuf`. -/
def qbufAll (bufs : List MmCameraBufDef) (s : MmChannel) : MmChannel :=
  { s with que := { s.que with released := s.que.released ++ bufs } }

def mmChannelSuperbufDequeueInternal (matchedOnly : Bool) (s : MmChannel) :
    Option MmChannelQueueNode × MmChannel :=
  match s.que.nodes with
  | [] => (none, s)
  | node :: nodes =>
    if matchedOnly && !node.isMatched then (none, s)
    else
      let matchCnt := if node.isMatched then s.que.matchCnt - 1 else s.que.matchCnt
      (some node, { s with que := { s.que with nodes, size := s.que.size - 1, matchCnt } })

def hand (node : MmChannelQueueNode) (s : MmChannel) : MmChannel :=
  { s with que := { s.que with handed := s.que.handed ++ node.bufs } }

def mmChannelSuperbufDequeue (s : MmChannel) : MmChannel :=
  match s.mmChannelSuperbufDequeueInternal true with
  | (some node, s) => s.hand node
  | (none, s) => s

def mmChannelSuperbufDequeueFrameInternal (frameIdx : UInt32) (s : MmChannel) : MmChannel :=
  match s.que.nodes.findIdx? fun node => node.isMatched && node.frameIdx = frameIdx with
  | none => s
  | some i =>
    match s.que.nodes[i]? with
    | none => s
    | some node =>
      let que := { s.que with
        nodes := s.que.nodes.eraseIdx i, size := s.que.size - 1, matchCnt := s.que.matchCnt - 1 }
      { s with que }.hand node

/-- The loop of `mm_channel_superbuf_bufdone_overflow` and `mm_channel_superbuf_skip`. It does not
end while the first node is not matched. -/
def dequeueDownTo (limit : UInt8) : Nat → MmChannel → Option MmChannel
  | 0, _ => none
  | fuel + 1, s =>
    if s.que.matchCnt > limit.toNat then
      match s.mmChannelSuperbufDequeueInternal true with
      | (some node, s) => dequeueDownTo limit fuel (s.qbufAll node.bufs)
      | (none, s) => dequeueDownTo limit fuel s
    else some s

def mmChannelSuperbufBufdoneOverflow (s : MmChannel) : Option MmChannel :=
  if s.attr.notifyMode = .continuous then some s
  else dequeueDownTo s.attr.waterMark (s.que.nodes.length + 1) s

def mmChannelSuperbufSkip (s : MmChannel) : Option MmChannel :=
  if s.attr.notifyMode = .continuous then some s
  else dequeueDownTo s.attr.lookBack (s.que.nodes.length + 1) s

/-- The loop of the flushes, with the buffers of a node that it releases. -/
def flushLoop (matchedOnly : Bool) (released : MmChannelQueueNode → List MmCameraBufDef) :
    Nat → MmChannel → MmChannel
  | 0, s => s
  | n + 1, s =>
    match s.mmChannelSuperbufDequeueInternal matchedOnly with
    | (some node, s) => flushLoop matchedOnly released n (s.qbufAll (released node))
    | (none, s) => s

def mmChannelSuperbufFlush (camType : CamStreamType) (s : MmChannel) : MmChannel :=
  flushLoop false
    (fun node => node.bufs.filter fun buf => camType = .default || camType = buf.streamType)
    s.que.nodes.length s

def mmChannelSuperbufFlushMatched (s : MmChannel) : MmChannel :=
  flushLoop true MmChannelQueueNode.bufs s.que.nodes.length s

def maxFutureFrameOffset : UInt32 := 100

def mmChannelUtilGetStreamByHandler (handler : UInt32) (s : MmChannel) : Option MmStream :=
  s.streams.find? fun stream => stream.inUse && handler = stream.hdl

/-- Whether the crop of the snapshot stream is at the origin. -/
def isCrop1xFound (metadata : MetadataBuffer) (s : MmChannel) : Bool :=
  match metadata.cropData with
  | none => false
  | some cropData =>
    let snapshotStreamId := (s.streams.find? fun stream =>
      stream.inUse && stream.streamType = some .snapshot).elim 0 MmStream.server
    cropData.any fun crop => snapshotStreamId = crop.streamId && crop.left = 0 && crop.top = 0

def handleDivert (frameIdx : UInt32) (metadata : MetadataBuffer) (s : MmChannel) : MmChannel :=
  match metadata.divertInfo with
  | none => s
  | some frameId =>
    -- the field has 8 bits
    { s with divertedFrameId := if frameId ≥ frameIdx then frameId.toUInt8 else 0 }

def handlePrepSnapshot (metadata : MetadataBuffer) (s : MmChannel) : MmChannel :=
  match metadata.prepSnapshotDone with
  | none => s
  | some state =>
    let s := { s with bWaitForPrepSnapshotDone := false }
    if state = needFutureFrame then
      let s := { s with expectedFrameId := s.expectedFrameId + maxFutureFrameOffset }
      { s.mmChannelSuperbufFlush .default with needLEDFlash := true }
    else { s with needLEDFlash := false }

def handleFrameRange (metadata : MetadataBuffer) (s : MmChannel) : MmChannel :=
  match metadata.goodFrameIdxRange with
  | some range =>
    let s := { s with expectedFrameId := range.minFrameIdx }
    if s.needLEDFlash && s.burstSnapNum > 1 then
      { s with
        ledOnStartFrameId := range.minFrameIdx
        ledOffStartFrameId := range.maxFrameIdx
        once := 0
        ledOnNumFrames := range.numLedOnFrames
        frameSkipCount := range.frameSkipCount }
    else s
  | none =>
    if s.bracketingState = .waitGoodFrameIdx && metadata.prepSnapshotDone.isNone then
      let s := s.mmChannelSuperbufFlushMatched
      { s with expectedFrameId := s.expectedFrameId + maxFutureFrameOffset }
    else s

def handleBracketing (metadata : MetadataBuffer) (s : MmChannel) : MmChannel :=
  match metadata.goodFrameIdxRange with
  | none => s
  | some range =>
    if s.isFlashBracketingEnabled then
      { s with
        expectedFrameId := range.minFrameIdx, expectedFrameIdWithoutLed := range.maxFrameIdx }
    else { s with expectedFrameId := range.minFrameIdx, bracketingState := .active }

def handleConfigCapture (metadata : MetadataBuffer) (s : MmChannel) : MmChannel :=
  match metadata.goodFrameIdxRange with
  | none => s
  | some range =>
    if s.isConfigCapture && range.configBatchIdx < s.numBatch then
      let s := { s with
        captureFrameId := s.captureFrameId.set range.configBatchIdx.toNat
          range.minFrameIdx.toUInt8 }
      if s.curCaptureIdx.toUInt32 = range.configBatchIdx then
        { s with expectedFrameId := range.minFrameIdx }
      else { s with expectedFrameId := (s.captureFrameId[s.curCaptureIdx.toNat]?.getD 0).toUInt32 }
    else s

def handleLedOff (frameIdx : UInt32) (s : MmChannel) : MmChannel :=
  if s.burstSnapNum > 1 && s.needLEDFlash && !s.isFlashBracketingEnabled &&
      s.bracketingState = .off && !s.isConfigCapture then
    if frameIdx ≥ s.ledOffStartFrameId && s.once = 0 then
      { s with
        expectedFrameId := s.ledOffStartFrameId + s.frameSkipCount
        once := 1
        stopZslSnapshot := true
        needLEDFlash := false }
    else s
  else s

/-- The part for a metadata buffer of the channel itself. -/
def handleOwnMetadata (frameIdx : UInt32) (metadata : MetadataBuffer) (s : MmChannel) :
    MmChannel :=
  let s := s.handleDivert frameIdx metadata
  if s.isZoom1xFrameRequested then
    if s.isCrop1xFound metadata then
      { s with isZoom1xFrameRequested := false, expectedFrameId := frameIdx + 1 }
    else
      let s := { s with expectedFrameId := s.expectedFrameId + maxFutureFrameOffset }
      s.mmChannelSuperbufFlushMatched
  else
    let s := (s.handlePrepSnapshot metadata).handleFrameRange metadata
    let s := (s.handleBracketing metadata).handleConfigCapture metadata
    s.handleLedOff frameIdx

/-- The result is `false` where the source returns -1. -/
def mmChannelHandleMetadata (info : MmCameraBufInfo) (s : MmChannel) : MmChannel × Bool :=
  match (s.mmChannelUtilGetStreamByHandler info.streamId).map fun stream =>
      (stream.own, stream.streamType) with
  | some (own, some streamType) =>
    if streamType = .metadata && own then
      match info.buf.buffer with
      | none => (s, false)
      | some metadata => (s.handleOwnMetadata info.frameIdx metadata, true)
    else (s, true)
  | _ => (s, false)

end MmChannel

end DeviceHal.Camera
