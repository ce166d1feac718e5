import DeviceHal.Camera.Channel

namespace DeviceHal.Camera

def mmChannelUtilSeqCompWRollover (v1 v2 : UInt32) : Int :=
  if v1 > v2 then 1 else if v1 < v2 then -1 else 0

/-- What the search through the queue remembers. Positions are indices. -/
structure Search where
  found : Option Nat := none
  unmatchedBundles : UInt8 := 0
  lastBuf : Option Nat := none
  insertBeforeBuf : Option Nat := none
deriving DecidableEq, Repr

/-- The search, from position `i` on. -/
def searchNodes (picks : MmChannelQueueNode → Bool) (frameIdx : UInt32) :
    Nat → List MmChannelQueueNode → Search → Search
  | _, [], r => r
  | i, node :: nodes, r =>
    if node.isMatched then searchNodes picks frameIdx (i + 1) nodes r
    else if picks node then { r with found := some i }
    else searchNodes picks frameIdx (i + 1) nodes { r with
      unmatchedBundles := r.unmatchedBundles + 1
      lastBuf := if r.lastBuf.isNone && node.frameIdx < frameIdx then some i else r.lastBuf
      insertBeforeBuf :=
        if r.insertBeforeBuf.isNone && node.frameIdx > frameIdx then some i
        else r.insertBeforeBuf }

/-- The loop that removes unmatched frames, from position `i` on: the position that it removes and
the number that it leaves. A removed node is linked to itself, so a further turn is a use after
free, which is `none`. -/
def evictLoop (maxUnmatched : UInt8) (insertBeforeBuf : Option Nat) :
    Nat → List MmChannelQueueNode → UInt8 → Option (Option Nat × UInt8)
  | _, [], unmatched => some (none, unmatched)
  | i, node :: nodes, unmatched =>
    if maxUnmatched < unmatched then
      if !node.expected && insertBeforeBuf ≠ some i then
        if maxUnmatched < unmatched - 1 then none else some (some i, unmatched - 1)
      else evictLoop maxUnmatched insertBeforeBuf (i + 1) nodes unmatched
    else some (none, unmatched)

/-- The loop starts at the oldest unmatched superbuf, if there is one. -/
def removeUnmatched (maxUnmatched : UInt8) (r : Search) (nodes : List MmChannelQueueNode) :
    Option (Option Nat × UInt8) :=
  match r.lastBuf with
  | none => some (none, r.unmatchedBundles)
  | some last =>
    evictLoop maxUnmatched r.insertBeforeBuf last (nodes.drop last) r.unmatchedBundles

/-- The place of a node after the removal of another. -/
def shiftPosition (removed : Option Nat) (position : Nat) : Nat :=
  match removed with
  | some e => if e < position then position - 1 else position
  | none => position

def camListInsertBeforeNode (item : MmChannelQueueNode) (position : Nat)
    (nodes : List MmChannelQueueNode) : List MmChannelQueueNode :=
  nodes.take position ++ item :: nodes.drop position

namespace MmChannel

def pass (buf : MmCameraBufDef) (s : MmChannel) : MmChannel :=
  { s with que := { s.que with passed := s.que.passed ++ [buf] } }

def picks (info : MmCameraBufInfo) (bufSIdx : Nat) (s : MmChannel)
    (node : MmChannelQueueNode) : Bool :=
  info.frameIdx = node.frameIdx ||
    (s.nomatchFrameId ≠ 0 && s.nomatchFrameId ≤ info.frameIdx && node.slotFrameIdx bufSIdx = 0 &&
      info.buf.streamType = .metadata) ||
    (s.attr.priority = .low && info.buf.streamType ≠ .metadata &&
      node.slotFrameIdx bufSIdx = 0 && node.frameIdx > info.frameIdx)

def expectAfter (frameIdx : UInt32) (s : MmChannel) : MmChannel :=
  if s.isFlashBracketingEnabled then
    { s with
      expectedFrameId := s.expectedFrameIdWithoutLed
      isFlashBracketingEnabled := !(frameIdx ≥ s.expectedFrameIdWithoutLed) }
  else { s with expectedFrameId := frameIdx + s.attr.postFrameSkip.toUInt32 }

/-- Older unmatched superbufs, from `lastBuf` up to `pos`. -/
def releaseOlder (lastBuf : Option Nat) (pos : Nat) (s : MmChannel) : MmChannel :=
  match lastBuf with
  | none => s
  | some last =>
    let older := (s.que.nodes.take pos).drop last
    { s with que := { s.que with
        nodes := s.que.nodes.take last ++ s.que.nodes.drop pos
        size := s.que.size - older.length
        released := s.que.released ++ older.flatMap MmChannelQueueNode.framedBufs } }

/-- The incoming buffer goes to the superbuf at `pos`. -/
def enqueueFound (info : MmCameraBufInfo) (bufSIdx pos : Nat) (lastBuf : Option Nat)
    (node : MmChannelQueueNode) (s : MmChannel) : MmChannel :=
  if node.slotFrameIdx bufSIdx ≠ 0 then s.mmChannelQbuf info.buf
  else
    let node := { node with superBuf := node.superBuf.set bufSIdx (some info) }
    if node.superBuf.all fun slot => (slot.map MmCameraBufInfo.frameIdx).getD 0 ≠ 0 then
      let s := s.expectAfter info.frameIdx
      let node := { node with isMatched := true, expected := false }
      let s := { s with que := { s.que with
        nodes := s.que.nodes.set pos node, matchCnt := s.que.matchCnt + 1 } }
      s.releaseOlder lastBuf pos
    else if s.divertedFrameId.toUInt32 = info.frameIdx then
      let node := { node with expected := true }
      { s with que := { s.que with nodes := s.que.nodes.set pos node }, divertedFrameId := 0 }
    else { s with que := { s.que with nodes := s.que.nodes.set pos node } }

def evict (position : Option Nat) (s : MmChannel) : MmChannel :=
  match position with
  | none => s
  | some e =>
    { s with que := { s.que with
        nodes := s.que.nodes.eraseIdx e
        size := s.que.size - 1
        released := s.que.released ++ (s.que.nodes[e]?.elim [] MmChannelQueueNode.framedBufs) } }

/-- A superbuf with the incoming buffer only. It is complete if there is one stream. -/
def newSuperbuf (info : MmCameraBufInfo) (bufSIdx : Nat) (s : MmChannel) : MmChannelQueueNode where
  superBuf := (List.replicate s.bundledStreams.length none).set bufSIdx (some info)
  isMatched := s.bundledStreams.length = 1
  expected := s.divertedFrameId.toUInt32 = info.frameIdx && s.bundledStreams.length ≠ 1
  frameIdx := info.frameIdx

def insertNew (info : MmCameraBufInfo) (bufSIdx : Nat) (insertBeforeBuf : Option Nat)
    (s : MmChannel) : MmChannel :=
  let single := s.bundledStreams.length = 1
  let node := s.newSuperbuf info bufSIdx
  let nodes :=
    match insertBeforeBuf with
    | some position => camListInsertBeforeNode node position s.que.nodes
    | none => s.que.nodes ++ [node]
  { s with
    que := { s.que with
      nodes
      size := s.que.size + 1
      matchCnt := if single then s.que.matchCnt + 1 else s.que.matchCnt }
    divertedFrameId :=
      if s.divertedFrameId.toUInt32 = info.frameIdx then 0 else s.divertedFrameId
    expectedFrameId :=
      if single then info.frameIdx + s.attr.postFrameSkip.toUInt32 else s.expectedFrameId
    nomatchFrameId :=
      if s.attr.priority = .low && info.buf.streamType ≠ .metadata then info.frameIdx
      else s.nomatchFrameId }

/-- No superbuf is for the incoming buffer. `alloc` is whether the allocations succeed. -/
def enqueueNew (info : MmCameraBufInfo) (bufSIdx : Nat) (alloc : Bool) (r : Search)
    (s : MmChannel) : Option MmChannel :=
  let maxUnmatched := s.attr.maxUnmatchedFrames
  if maxUnmatched < r.unmatchedBundles && r.lastBuf.isNone then
    some (s.mmChannelQbuf info.buf)
  else
    match removeUnmatched maxUnmatched r s.que.nodes with
    | none => none
    | some (removed, unmatched) =>
      -- if too many are left the loop has removed none
      let removed := if maxUnmatched < unmatched then r.lastBuf else removed
      let s := s.evict removed
      if alloc then
        some (s.insertNew info bufSIdx (r.insertBeforeBuf.map (shiftPosition removed)))
      else some (s.mmChannelQbuf info.buf)

def compAndEnqueue (info : MmCameraBufInfo) (bufSIdx : Nat) (alloc : Bool) (s : MmChannel) :
    Option MmChannel :=
  let r := searchNodes (s.picks info bufSIdx) info.frameIdx 0 s.que.nodes {}
  match r.found with
  | none => s.enqueueNew info bufSIdx alloc r
  | some pos =>
    match s.que.nodes[pos]? with
    | none => none
    | some node =>
      some ({ s with nomatchFrameId := 0 }.enqueueFound info bufSIdx pos r.lastBuf node)

def mmChannelSuperbufCompAndEnqueue (info : MmCameraBufInfo) (alloc : Bool) (s : MmChannel) :
    Option MmChannel :=
  let s := s.pass info.buf
  match s.bundledStreams.findIdx? fun stream => info.streamId = stream with
  | none => some s
  | some bufSIdx =>
    if info.frameIdx = 0 then some (s.mmChannelQbuf info.buf)
    else
      match s.mmChannelHandleMetadata info with
      | (s, false) => some (s.mmChannelQbuf info.buf)
      | (s, true) =>
        if mmChannelUtilSeqCompWRollover info.frameIdx s.expectedFrameId < 0 then
          some (s.mmChannelQbuf info.buf)
        else if s.nomatchFrameId ≠ 0 && s.nomatchFrameId > info.frameIdx &&
            info.buf.streamType = .metadata then
          some (s.mmChannelQbuf info.buf)
        else s.compAndEnqueue info bufSIdx alloc

end MmChannel

inductive SuperbufOp where
  | compAndEnqueue (info : MmCameraBufInfo) (alloc : Bool)
  | dequeue
  | dequeueFrame (frameIdx : UInt32)
  | bufdoneOverflow
  | skip
  | flush (camType : CamStreamType)
  | flushMatched
deriving DecidableEq, Repr

namespace MmChannel

def step (s : MmChannel) : SuperbufOp → Option MmChannel
  | .compAndEnqueue info alloc => s.mmChannelSuperbufCompAndEnqueue info alloc
  | .dequeue => some s.mmChannelSuperbufDequeue
  | .dequeueFrame frameIdx => some (s.mmChannelSuperbufDequeueFrameInternal frameIdx)
  | .bufdoneOverflow => s.mmChannelSuperbufBufdoneOverflow
  | .skip => s.mmChannelSuperbufSkip
  | .flush camType => some (s.mmChannelSuperbufFlush camType)
  | .flushMatched => some s.mmChannelSuperbufFlushMatched

end MmChannel

end DeviceHal.Camera
