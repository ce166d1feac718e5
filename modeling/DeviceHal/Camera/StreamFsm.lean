import DeviceHal.Camera.Channel
import DeviceHal.Camera.StreamBufs

namespace DeviceHal.Camera

inductive StreamState where
  | notused
  | inited
  | acquired
  | cfg
  | buffed
  | reg
  | active
deriving DecidableEq

/-- The events of a stream that a channel sends. -/
inductive StreamEvt where
  | release
  | getBuf
  | putBuf
  | regBuf
  | unregBuf
  | start
  | stop
deriving DecidableEq

/-- What fails when a stream is started. -/
inductive StartFailure where
  | getBufs
  | requestBuf
  | qbuf (idx : Nat)
  | streamon
deriving DecidableEq

/-- A stream object by its channel and its place there. -/
abbrev StreamRef := Nat × Nat

/-- A stream object of a channel, or a copy that links to one of another channel. `getBufs` are the
buffers that the upper layer gives, with their registration flags. -/
structure StreamObj where
  state : StreamState := .notused
  myHdl : Nat := 0
  streamType : CamStreamType := .default
  noFrameExpected : Bool := false
  chObj : Option Nat := none
  linkedStream : Option StreamRef := none
  isLinked : Bool := false
  linkedObj : Option Nat := none
  isBundled : Bool := false
  getBufs : Nat × (Nat → Bool) := (0, fun _ => false)
  initialRegFlag : Nat → Bool := fun _ => false
  hasBuf : Bool := false
  bufs : StreamBufs := { bufNum := 0 }

namespace StreamBufs

/-- `VIDIOC_QBUF` fails. -/
def qbufFails (b : StreamBufs) : StreamBufs :=
  { b with polled := b.polled && b.queuedBufferCount ≠ 0 }

/-- The loop of `mm_stream_reg_buf`. -/
def regLoop (flags : Nat → Bool) (failAt : Option Nat) : List Nat → StreamBufs → Int × StreamBufs
  | [], b => (0, b)
  | idx :: rest, b =>
    if flags idx then
      if failAt = some idx then (-1, b.qbufFails)
      else regLoop flags failAt rest ((b.mmStreamQbuf idx).setStatus idx ⟨0, true⟩)
    else regLoop flags failAt rest (b.setStatus idx ⟨1, false⟩)

end StreamBufs

namespace StreamObj

def mmCameraMaxNumFrames : Nat := 64

def mmStreamDeinitBufs (s : StreamObj) : StreamObj := { s with hasBuf := false }

def mmStreamInitBufs (fail : Option StartFailure) (s : StreamObj) : Int × StreamObj :=
  let s := s.mmStreamDeinitBufs
  if fail = some .getBufs then (-1, s)
  else
    let bufNum := s.getBufs.1
    (0, { s with
      bufs := { s.bufs with bufNum }
      initialRegFlag := fun i => if i < bufNum then s.getBufs.2 i else s.initialRegFlag i
      hasBuf := true })

/-- The buffer at which `VIDIOC_QBUF` fails. -/
def failAt : Option StartFailure → Option Nat
  | some (.qbuf idx) => some idx
  | _ => none

/-- `VIDIOC_REQBUFS` empties the kernel's queue. -/
def mmStreamRegBuf (fail : Option StartFailure) (s : StreamObj) : Int × StreamObj :=
  if s.bufs.bufNum > mmCameraMaxNumFrames ∨ fail = some .requestBuf then (-1, s)
  else
    let r := StreamBufs.regLoop s.initialRegFlag (failAt fail) (List.range s.bufs.bufNum)
      { s.bufs with queuedBufferCount := 0, kernel := [] }
    (r.1, { s with bufs := r.2 })

def mmStreamUnregBuf (s : StreamObj) : StreamObj :=
  { s with bufs := { s.bufs with
    bufStatus := fun i => if i < s.bufs.bufNum then {} else s.bufs.bufStatus i
    kernel := [] } }

/-- Takes the stream out of the poll thread if `VIDIOC_STREAMON` fails. -/
def mmStreamStreamon (fail : Option StartFailure) (s : StreamObj) : Int × StreamObj :=
  if fail = some .streamon then (-1, { s with bufs := { s.bufs with polled := false } })
  else (0, s)

/-- `VIDIOC_STREAMOFF` empties the kernel's queue. -/
def mmStreamStreamoff (s : StreamObj) : StreamObj :=
  { s with bufs := { s.bufs with polled := false, kernel := [] } }

def movedTo (state : StreamState) (r : Int × StreamObj) : Int × StreamObj :=
  (r.1, if r.1 = 0 then { r.2 with state } else r.2)

/-- A state logs the events it does not know and returns 0. -/
def mmStreamFsmFn (fail : Option StartFailure) (evt : StreamEvt) (s : StreamObj) :
    Int × StreamObj :=
  match s.state, evt with
  | .notused, _ => (-1, s)
  | .acquired, .release | .cfg, .release => (0, {})
  | .cfg, .getBuf => movedTo .buffed (s.mmStreamInitBufs fail)
  | .buffed, .putBuf => (0, { s.mmStreamDeinitBufs with state := .cfg })
  | .buffed, .regBuf => movedTo .reg (s.mmStreamRegBuf fail)
  | .reg, .unregBuf => (0, { s.mmStreamUnregBuf with state := .buffed })
  | .reg, .start => movedTo .active (s.mmStreamStreamon fail)
  | .active, .stop => (0, { s.mmStreamStreamoff with state := .reg })
  | _, _ => (0, s)

/-- Two objects are found in the same way, and link to the same stream. -/
structure SameEntry (s t : StreamObj) : Prop where
  used : t.state = .notused ↔ s.state = .notused
  myHdl : t.myHdl = s.myHdl
  chObj : t.chObj = s.chObj
  linkedStream : t.linkedStream = s.linkedStream
  streamType : t.streamType = s.streamType

/-- Two objects are also linked to the same channel. -/
structure SameLink (s t : StreamObj) : Prop extends SameEntry s t where
  isLinked : t.isLinked = s.isLinked
  linkedObj : t.linkedObj = s.linkedObj

theorem SameEntry.refl (s : StreamObj) : s.SameEntry s :=
  ⟨Iff.rfl, rfl, rfl, rfl, rfl⟩

theorem SameEntry.trans {s t u : StreamObj} (h : s.SameEntry t) (h' : t.SameEntry u) :
    s.SameEntry u :=
  ⟨h'.used.trans h.used, h'.myHdl.trans h.myHdl, h'.chObj.trans h.chObj,
    h'.linkedStream.trans h.linkedStream, h'.streamType.trans h.streamType⟩

theorem SameLink.refl (s : StreamObj) : s.SameLink s := ⟨SameEntry.refl s, rfl, rfl⟩

theorem SameLink.trans {s t u : StreamObj} (h : s.SameLink t) (h' : t.SameLink u) :
    s.SameLink u :=
  ⟨h.toSameEntry.trans h'.toSameEntry, h'.isLinked.trans h.isLinked,
    h'.linkedObj.trans h.linkedObj⟩

theorem initBufs_sameLink (fail : Option StartFailure) (s : StreamObj) :
    s.SameLink (s.mmStreamInitBufs fail).2 := by
  unfold mmStreamInitBufs
  dsimp only
  split <;> exact ⟨⟨Iff.rfl, rfl, rfl, rfl, rfl⟩, rfl, rfl⟩

theorem regBuf_sameLink (fail : Option StartFailure) (s : StreamObj) :
    s.SameLink (s.mmStreamRegBuf fail).2 := by
  unfold mmStreamRegBuf
  split <;> exact ⟨⟨Iff.rfl, rfl, rfl, rfl, rfl⟩, rfl, rfl⟩

theorem streamon_sameLink (fail : Option StartFailure) (s : StreamObj) :
    s.SameLink (s.mmStreamStreamon fail).2 := by
  unfold mmStreamStreamon
  split <;> exact ⟨⟨Iff.rfl, rfl, rfl, rfl, rfl⟩, rfl, rfl⟩

theorem deinitBufs_sameLink (s : StreamObj) : s.SameLink s.mmStreamDeinitBufs :=
  ⟨⟨Iff.rfl, rfl, rfl, rfl, rfl⟩, rfl, rfl⟩

theorem unregBuf_sameLink (s : StreamObj) : s.SameLink s.mmStreamUnregBuf :=
  ⟨⟨Iff.rfl, rfl, rfl, rfl, rfl⟩, rfl, rfl⟩

theorem streamoff_sameLink (s : StreamObj) : s.SameLink s.mmStreamStreamoff :=
  ⟨⟨Iff.rfl, rfl, rfl, rfl, rfl⟩, rfl, rfl⟩

theorem SameLink.withState {s t : StreamObj} (h : s.SameLink t) {state : StreamState}
    (hs : s.state ≠ .notused) (hstate : state ≠ .notused) : s.SameLink { t with state } :=
  ⟨⟨⟨fun he => absurd he hstate, fun he => absurd he hs⟩, h.myHdl, h.chObj, h.linkedStream,
    h.streamType⟩, h.isLinked, h.linkedObj⟩

theorem movedTo_sameLink {s : StreamObj} {state : StreamState} {r : Int × StreamObj}
    (hs : s.state ≠ .notused) (hstate : state ≠ .notused) (h : s.SameLink r.2) :
    s.SameLink (movedTo state r).2 := by
  unfold movedTo
  dsimp only
  split
  next => exact h.withState hs hstate
  next => exact h

theorem fsmFn_sameLink (fail : Option StartFailure) {evt : StreamEvt} (h : evt ≠ .release)
    (s : StreamObj) : s.SameLink (s.mmStreamFsmFn fail evt).2 := by
  unfold mmStreamFsmFn
  split
  next => exact SameLink.refl s
  next => exact absurd rfl h
  next => exact absurd rfl h
  next hs => exact movedTo_sameLink (by simp [hs]) (by decide) (initBufs_sameLink fail s)
  next hs =>
    have hstate : (StreamState.cfg) ≠ .notused := by decide
    exact (deinitBufs_sameLink s).withState (by simp [hs]) hstate
  next hs => exact movedTo_sameLink (by simp [hs]) (by decide) (regBuf_sameLink fail s)
  next hs =>
    have hstate : (StreamState.buffed) ≠ .notused := by decide
    exact (unregBuf_sameLink s).withState (by simp [hs]) hstate
  next hs => exact movedTo_sameLink (by simp [hs]) (by decide) (streamon_sameLink fail s)
  next hs =>
    have hstate : (StreamState.reg) ≠ .notused := by decide
    exact (streamoff_sameLink s).withState (by simp [hs]) hstate
  next => exact SameLink.refl s

end StreamObj

/-- The bundle of a channel: whether it has a callback, its attributes (`none` if they are all
zero), and the streams that its superbufs are made of. -/
structure ChannelBundle where
  superBufNotifyCb : Bool := false
  attr : Option MmCameraChannelAttr := none
  bundledStreams : List Nat := []
  isActive : Bool := false
deriving DecidableEq

/-- A channel that is stopped or active. `threads` is whether its two threads run and its superbuf
queue is initialised. -/
structure ChannelObj where
  active : Bool := false
  bundle : ChannelBundle := {}
  threads : Bool := false
deriving DecidableEq

/-- The channels of a camera and their stream objects. -/
structure CameraObj where
  channel : Nat → ChannelObj
  stream : StreamRef → StreamObj

def swapAt {α : Type} (i j : Nat) (l : List α) : List α :=
  match l[i]?, l[j]? with
  | some a, some b => (l.set i b).set j a
  | _, _ => l

namespace StreamObj

/-- What `mm_channel_start` does to an own stream. -/
def startStream (fail : Option StartFailure) (s : StreamObj) : Int × StreamObj :=
  if s.state = .active then (-1, s)
  else
    let r := s.mmStreamFsmFn fail .getBuf
    if r.1 ≠ 0 then r
    else
      let r := r.2.mmStreamFsmFn fail .regBuf
      if r.1 ≠ 0 then r else r.2.mmStreamFsmFn fail .start

/-- Stops the stream and unregisters its buffers. -/
def stopStream (s : StreamObj) : StreamObj :=
  ((s.mmStreamFsmFn none .stop).2.mmStreamFsmFn none .unregBuf).2

def putStream (s : StreamObj) : StreamObj := (s.mmStreamFsmFn none .putBuf).2

end StreamObj

namespace CameraObj

def maxStreamNumInBundle : Nat := 6

def setStream (p : StreamRef) (s : StreamObj) (c : CameraObj) : CameraObj :=
  { c with stream := Function.update c.stream p s }

def setChannel (ch : Nat) (o : ChannelObj) (c : CameraObj) : CameraObj :=
  { c with channel := Function.update c.channel ch o }

@[simp] theorem setStream_channel (p : StreamRef) (s : StreamObj) (c : CameraObj) :
    (c.setStream p s).channel = c.channel := rfl

@[simp] theorem setChannel_stream (ch : Nat) (o : ChannelObj) (c : CameraObj) :
    (c.setChannel ch o).stream = c.stream := rfl

@[simp] theorem setStream_self (p : StreamRef) (s : StreamObj) (c : CameraObj) :
    (c.setStream p s).stream p = s := Function.update_self ..

theorem setStream_of_ne {p q : StreamRef} (h : q ≠ p) (s : StreamObj) (c : CameraObj) :
    (c.setStream p s).stream q = c.stream q := Function.update_of_ne h ..

@[simp] theorem setChannel_self (ch : Nat) (o : ChannelObj) (c : CameraObj) :
    (c.setChannel ch o).channel ch = o := Function.update_self ..

theorem setChannel_of_ne {ch ch' : Nat} (h : ch' ≠ ch) (o : ChannelObj) (c : CameraObj) :
    (c.setChannel ch o).channel ch' = c.channel ch' := Function.update_of_ne h ..

def mmChannelUtilGetStreamByHandler (ch handler : Nat) (c : CameraObj) : Option StreamRef :=
  ((List.range maxStreamNumInBundle).find? fun i =>
    (c.stream (ch, i)).state ≠ .notused && handler = (c.stream (ch, i)).myHdl).map fun i => (ch, i)

def unusedStream (ch : Nat) (c : CameraObj) : Option StreamRef :=
  ((List.range maxStreamNumInBundle).find? fun i => (c.stream (ch, i)).state = .notused).map
    fun i => (ch, i)

/-- Puts a copy of a stream of the channel `src` into the channel. -/
def mmChannelLinkStream (ch src streamId : Nat) (c : CameraObj) : Nat × CameraObj :=
  match c.mmChannelUtilGetStreamByHandler src streamId with
  | none => (0, c)
  | some q =>
    match c.unusedStream ch with
    | none => (0, c)
    | some p => ((c.stream q).myHdl, c.setStream p { c.stream q with linkedStream := some q })

def link (ch : Nat) (q : StreamRef) (c : CameraObj) : CameraObj :=
  c.setStream q { c.stream q with linkedObj := some ch, isLinked := true }

def unlink (q : StreamRef) (c : CameraObj) : CameraObj :=
  c.setStream q { c.stream q with isLinked := false, linkedObj := none }

/-- `none` is a null pointer that is followed. -/
def mmChannelDelStream (ch streamId : Nat) (c : CameraObj) : Option (Int × CameraObj) :=
  match c.mmChannelUtilGetStreamByHandler ch streamId with
  | none => some (-1, c)
  | some p =>
    if (c.stream p).chObj ≠ some ch then
      (c.stream p).linkedStream.map fun q => (0, (c.unlink q).setStream p {})
    else
      let r := (c.stream p).mmStreamFsmFn none .release
      some (r.1, c.setStream p r.2)

/-- The stream objects of the channel, as their handles find them. -/
def streamObjs (ch : Nat) (c : CameraObj) : List StreamRef :=
  (List.range maxStreamNumInBundle).filterMap fun i =>
    if (c.stream (ch, i)).myHdl > 0 then
      c.mmChannelUtilGetStreamByHandler ch (c.stream (ch, i)).myHdl
    else none

/-- The place of the last own metadata stream, or 0. -/
def metaStreamIdx (ch : Nat) (objs : List StreamRef) (c : CameraObj) : Nat :=
  ((List.range objs.length).filter fun i => objs[i]?.any fun p =>
    (c.stream p).streamType = .metadata && (c.stream p).chObj = some ch).getLast?.getD 0

/-- The streams to start, an own metadata stream first. -/
def startObjs (ch : Nat) (c : CameraObj) : List StreamRef :=
  let objs := c.streamObjs ch
  let i := c.metaStreamIdx ch objs
  if i > 0 then swapAt 0 i objs else objs

/-- The streams to stop, the stream at the metadata place last. -/
def stopObjs (ch : Nat) (c : CameraObj) : List StreamRef :=
  let objs := c.streamObjs ch
  let i := c.metaStreamIdx ch objs
  if i + 1 < objs.length then swapAt i (objs.length - 1) objs else objs

def bundleObj (ch : Nat) (c : CameraObj) (p : StreamRef) : CameraObj :=
  if (c.stream p).chObj = some ch then c.setStream p { c.stream p with isBundled := true } else c

/-- Initialises the superbuf queue and launches the threads, for a channel with a callback. -/
def startBundle (ch : Nat) (objs : List StreamRef) (c : CameraObj) : CameraObj :=
  if (c.channel ch).bundle.superBufNotifyCb then
    let o := c.channel ch
    let framed := objs.filter fun p => !(c.stream p).noFrameExpected
    let bundledStreams := framed.map fun p => (c.stream p).myHdl
    (framed.foldl (bundleObj ch) c).setChannel ch
      { o with bundle := { o.bundle with bundledStreams, isActive := true }, threads := true }
  else c

def linkObj (ch : Nat) (c : CameraObj) (p : StreamRef) : Option CameraObj :=
  if (c.stream p).chObj ≠ some ch then
    (c.stream p).linkedStream.map fun q => c.link ch q
  else some c

/-- Starts the own streams until one fails, whose place it returns. -/
def startLoop (ch : Nat) (fails : Nat → Option StartFailure) :
    List StreamRef → Nat → CameraObj → Int × Nat × CameraObj
  | [], i, c => (0, i, c)
  | p :: ps, i, c =>
    if (c.stream p).chObj ≠ some ch then startLoop ch fails ps (i + 1) c
    else
      let r := (c.stream p).startStream (fails i)
      if r.1 ≠ 0 then (r.1, i, c.setStream p r.2)
      else startLoop ch fails ps (i + 1) (c.setStream p r.2)

/-- Unlinks and clears a linked stream after a failed start. -/
def dropObj (ch : Nat) (c : CameraObj) (p : StreamRef) : Option CameraObj :=
  if (c.stream p).chObj ≠ some ch then
    (c.stream p).linkedStream.map fun q => (c.unlink q).setStream p {}
  else some c

def onOwn (f : StreamObj → StreamObj) (ch : Nat) (c : CameraObj) (p : StreamRef) : CameraObj :=
  if (c.stream p).chObj ≠ some ch then c else c.setStream p (f (c.stream p))

/-- Releases the threads of a channel whose bundle is active. -/
def releaseThreads (ch : Nat) (bundle : ChannelBundle) (c : CameraObj) : CameraObj :=
  if (c.channel ch).bundle.isActive then
    c.setChannel ch { c.channel ch with bundle, threads := false }
  else c

/-- The error handling of a start that failed at place `i`. -/
def startFailed (ch : Nat) (objs : List StreamRef) (i : Nat) (c : CameraObj) : Option CameraObj :=
  (objs.foldlM (dropObj ch) c).map fun c =>
    let c := (objs.take (i + 1)).foldl (onOwn (fun s => s.stopStream.putStream) ch) c
    c.releaseThreads ch {}

/-- `fails` is what fails for the stream at a place. -/
def mmChannelStart (ch : Nat) (fails : Nat → Option StartFailure) (c : CameraObj) :
    Option (Int × CameraObj) :=
  let objs := c.startObjs ch
  (objs.foldlM (linkObj ch) (c.startBundle ch objs)).bind fun c =>
    let r := startLoop ch fails objs 0 c
    if r.1 ≠ 0 then (r.2.2.startFailed ch objs r.2.1).map fun c => (r.1, c)
    else some (0, r.2.2)

/-- The loop that unlinks the streams leaves at the first one. -/
def unlinkFirst (ch : Nat) (objs : List StreamRef) (c : CameraObj) : Option CameraObj :=
  match objs.find? fun p => (c.stream p).chObj ≠ some ch with
  | none => some c
  | some p => (c.stream p).linkedStream.map fun q => c.unlink q

def clearObj (ch : Nat) (c : CameraObj) (p : StreamRef) : CameraObj :=
  if (c.stream p).chObj ≠ some ch then c.setStream p {} else c

def mmChannelStop (ch : Nat) (c : CameraObj) : Option CameraObj :=
  let objs := c.stopObjs ch
  ((objs.foldl (onOwn StreamObj.stopStream ch) c).unlinkFirst ch objs).map fun c =>
    let c := c.releaseThreads ch (c.channel ch).bundle
    let c := objs.foldl (onOwn StreamObj.putStream ch) c
    objs.foldl (clearObj ch) c

def setActive (ch : Nat) (active : Bool) (c : CameraObj) : CameraObj :=
  c.setChannel ch { c.channel ch with active }

end CameraObj

/-- A call of a channel. -/
inductive ChannelOp where
  | linkStream (ch src streamId : Nat)
  | delStream (ch streamId : Nat)
  | start (ch : Nat) (fails : Nat → Option StartFailure)
  | stop (ch : Nat)

namespace CameraObj

/-- `mm_channel_fsm_fn`: a stopped channel ignores a stop, an active one the other calls. -/
def mmChannelFsmFn (c : CameraObj) : ChannelOp → Option CameraObj
  | .linkStream ch src streamId =>
    some (if (c.channel ch).active then c else (c.mmChannelLinkStream ch src streamId).2)
  | .delStream ch streamId =>
    if (c.channel ch).active then some c
    else (c.mmChannelDelStream ch streamId).map fun r => r.2
  | .start ch fails =>
    if (c.channel ch).active then some c
    else (c.mmChannelStart ch fails).map fun r =>
      if r.1 = 0 then r.2.setActive ch true else r.2
  | .stop ch =>
    if (c.channel ch).active then (c.mmChannelStop ch).map fun c => c.setActive ch false
    else some c

end CameraObj

end DeviceHal.Camera
