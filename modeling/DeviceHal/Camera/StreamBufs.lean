import Mathlib.Data.List.Basic

namespace DeviceHal.Camera

structure StreamBufStatus where
  bufRefcnt : Nat := 0
  inKernel : Bool := false
deriving DecidableEq

/-- The buffers of a stream. `kernel` are those that the driver has, `polled` whether the poll
thread has the file descriptor. -/
structure StreamBufs where
  bufNum : Nat
  bufStatus : Nat → StreamBufStatus := fun _ => {}
  queuedBufferCount : Nat := 0
  polled : Bool := false
  kernel : List Nat := []

namespace StreamBufs

def setStatus (idx : Nat) (status : StreamBufStatus) (b : StreamBufs) : StreamBufs :=
  { b with bufStatus := Function.update b.bufStatus idx status }

/-- `VIDIOC_QBUF` succeeds. -/
def mmStreamQbuf (idx : Nat) (b : StreamBufs) : StreamBufs :=
  { b with
    queuedBufferCount := b.queuedBufferCount + 1
    polled := b.polled || b.queuedBufferCount + 1 = 1
    kernel := b.kernel ++ [idx] }

/-- `VIDIOC_DQBUF` with the part under the lock. -/
def mmStreamReadMsmFrame (idx : Nat) (b : StreamBufs) : StreamBufs :=
  { b with
    queuedBufferCount := b.queuedBufferCount - 1
    polled := b.polled && b.queuedBufferCount - 1 ≠ 0
    kernel := b.kernel.erase idx }

def addRefs (idx n : Nat) (b : StreamBufs) : StreamBufs :=
  b.setStatus idx { b.bufStatus idx with bufRefcnt := (b.bufStatus idx).bufRefcnt + n }

def mmStreamBufDone (idx : Nat) (b : StreamBufs) : StreamBufs :=
  let status := b.bufStatus idx
  if status.bufRefcnt = 0 then b
  else if status.bufRefcnt - 1 = 0 then
    (b.setStatus idx ⟨status.bufRefcnt - 1, true⟩).mmStreamQbuf idx
  else b.setStatus idx { status with bufRefcnt := status.bufRefcnt - 1 }

/-- The loop of `mm_stream_reg_buf`, whose calls succeed. A buffer without the flag is held by the
upper layer. -/
def mmStreamRegBuf (initialRegFlag : Nat → Bool) (bufNum : Nat) : StreamBufs :=
  (List.range bufNum).foldl (fun b idx =>
    if initialRegFlag idx then (b.mmStreamQbuf idx).setStatus idx ⟨0, true⟩
    else b.setStatus idx ⟨1, false⟩) { bufNum }

end StreamBufs

/-- A data callback. `cbCount` is -1 for a callback without end. -/
structure StreamDataCb where
  sync : Bool
  cbCount : Int
deriving DecidableEq

namespace StreamDataCb

def afterCall (cb : StreamDataCb) : Option StreamDataCb :=
  if cb.cbCount > 0 then
    if cb.cbCount - 1 = 0 then none else some { cb with cbCount := cb.cbCount - 1 }
  else some cb

end StreamDataCb

/-- How far `mm_stream_data_notify` is with a buffer: read, sync callbacks called, references
counted, channel notified, linked channel notified. -/
inductive PollThread where
  | idle
  | read (idx : Nat)
  | called (idx : Nat) (hasCb : Bool)
  | counted (idx : Nat) (hasCb : Bool)
  | notified (idx : Nat) (hasCb : Bool)
  | linked (idx : Nat) (hasCb : Bool)
deriving DecidableEq

/-- How far `mm_stream_dispatch_app_data` is. It holds `cb_lock` while it calls back. -/
inductive CmdThread where
  | idle
  | dispatching (idx i : Nat)
deriving DecidableEq

/-- A non-batch stream that is on, with its threads. The last three lists are the references that
the two channels and the clients have not released. -/
structure StreamSystem where
  isBundled : Bool
  isLinked : Bool
  bufCb : List (Option StreamDataCb)
  cmdActive : Bool
  bufs : StreamBufs
  poll : PollThread := .idle
  cmdQueue : List Nat := []
  cmd : CmdThread := .idle
  channelRefs : List Nat := []
  linkedRefs : List Nat := []
  clientRefs : List Nat := []

/-- A step of one of the threads. `alloc` is whether there is memory for the message. -/
inductive StreamOp where
  | readMsmFrame (idx : Nat)
  | syncCallbacks
  | countRefs
  | notifyChannel (alloc : Bool)
  | notifyLinked (alloc : Bool)
  | sendCmd (alloc : Bool)
  | takeCmd
  | callback
  | dispatchDone
  | channelDone (idx : Nat)
  | linkedDone (idx : Nat)
  | clientDone (idx : Nat)
deriving DecidableEq

namespace StreamSystem

def hasAsync (bufCb : List (Option StreamDataCb)) : Bool :=
  bufCb.any fun cb => cb.any fun cb => !cb.sync

def start (isBundled isLinked : Bool) (bufCb : List (Option StreamDataCb))
    (initialRegFlag : Nat → Bool) (bufNum : Nat) : StreamSystem where
  isBundled
  isLinked
  bufCb
  cmdActive := hasAsync bufCb
  bufs := StreamBufs.mmStreamRegBuf initialRegFlag bufNum
  clientRefs := (List.range bufNum).filter fun idx => !initialRegFlag idx

/-- The loop under `cb_lock` of `mm_stream_data_notify`. -/
def mmStreamDispatchSyncData (bufCb : List (Option StreamDataCb)) : List (Option StreamDataCb) :=
  bufCb.map fun cb => cb.bind fun cb => if cb.sync then cb.afterCall else some cb

/-- One turn of the loop of `mm_stream_dispatch_app_data`. -/
def mmStreamDispatchAppData (idx i : Nat) (s : StreamSystem) : StreamSystem :=
  match s.bufCb[i]?.join with
  | none => s
  | some cb =>
    if cb.sync then s
    else
      let s := if cb.cbCount ≠ 0 then
        { s with bufs := s.bufs.addRefs idx 1, clientRefs := idx :: s.clientRefs } else s
      { s with bufCb := s.bufCb.set i cb.afterCall }

def step (s : StreamSystem) : StreamOp → Option StreamSystem
  | .readMsmFrame idx =>
    if s.poll = .idle ∧ s.bufs.polled = true ∧ idx ∈ s.bufs.kernel then
      some { s with bufs := s.bufs.mmStreamReadMsmFrame idx, poll := .read idx }
    else none
  | .syncCallbacks =>
    match s.poll, s.cmd with
    | .read idx, .idle =>
      some { s with
        bufCb := mmStreamDispatchSyncData s.bufCb, poll := .called idx (hasAsync s.bufCb) }
    | _, _ => none
  | .countRefs =>
    match s.poll with
    | .called idx hasCb =>
      let status := s.bufs.bufStatus idx
      let bufs := s.bufs.setStatus idx { status with inKernel := false }
      some { s with
        bufs := bufs.addRefs idx (s.isBundled.toNat + hasCb.toNat), poll := .counted idx hasCb }
    | _ => none
  | .notifyChannel alloc =>
    match s.poll with
    | .counted idx hasCb =>
      some { s with
        channelRefs := if s.isBundled && alloc then idx :: s.channelRefs else s.channelRefs
        poll := .notified idx hasCb }
    | _ => none
  | .notifyLinked alloc =>
    match s.poll with
    | .notified idx hasCb =>
      some { s with
        bufs := if s.isLinked then s.bufs.addRefs idx 1 else s.bufs
        linkedRefs := if s.isLinked && alloc then idx :: s.linkedRefs else s.linkedRefs
        poll := .linked idx hasCb }
    | _ => none
  | .sendCmd alloc =>
    match s.poll with
    | .linked idx hasCb =>
      some { s with
        cmdQueue := if hasCb && s.cmdActive && alloc then s.cmdQueue ++ [idx] else s.cmdQueue
        poll := .idle }
    | _ => none
  | .takeCmd =>
    match s.cmd, s.cmdQueue with
    | .idle, idx :: cmdQueue => some { s with cmdQueue, cmd := .dispatching idx 0 }
    | _, _ => none
  | .callback =>
    match s.cmd with
    | .dispatching idx i =>
      if i < s.bufCb.length then
        some { s.mmStreamDispatchAppData idx i with cmd := .dispatching idx (i + 1) }
      else none
    | .idle => none
  | .dispatchDone =>
    match s.cmd with
    | .dispatching idx i =>
      if i < s.bufCb.length then none
      else some { s with bufs := s.bufs.mmStreamBufDone idx, cmd := .idle }
    | .idle => none
  | .channelDone idx =>
    if idx ∈ s.channelRefs then
      some { s with
        bufs := s.bufs.mmStreamBufDone idx, channelRefs := s.channelRefs.erase idx }
    else none
  | .linkedDone idx =>
    if idx ∈ s.linkedRefs then
      some { s with bufs := s.bufs.mmStreamBufDone idx, linkedRefs := s.linkedRefs.erase idx }
    else none
  | .clientDone idx =>
    if idx ∈ s.clientRefs then
      some { s with bufs := s.bufs.mmStreamBufDone idx, clientRefs := s.clientRefs.erase idx }
    else none

end StreamSystem

end DeviceHal.Camera
