import DeviceHal.Camera.Muxer

namespace DeviceHal.Camera

namespace QCameraQueue

variable {α : Type}

def enqueueWithPriority (data : α) (nodeOk : Bool) (q : QCameraQueue α) : Bool × QCameraQueue α :=
  if nodeOk && q.active then (true, { q with nodes := data :: q.nodes }) else (false, q)

end QCameraQueue

inductive CameraCmdType where
  | none
  | startDataProc
  | stopDataProc
  | doNextJob
  | exit
deriving DecidableEq

/-- A command of the queue. History: its number, and whether its sender waits for it. -/
structure CameraCmd where
  id : Nat
  cmd : CameraCmdType
  sync : Bool
deriving DecidableEq

/-- A step of a routine at work on a command. -/
inductive RoutineStep (Work : Type) where
  | setActive (isActive : Bool)
  | work (what : Work)
  | postSyncSem
deriving DecidableEq

def RoutineStep.isPost {Work : Type} : RoutineStep Work → Bool
  | setActive _ => false
  | work _ => false
  | postSyncSem => true

/-- The cases of a routine's `switch`, by the command and `is_active`. -/
structure Routine (Work : Type) where
  steps : CameraCmdType → Bool → List (RoutineStep Work)
  posts_le : ∀ cmd isActive, ((steps cmd isActive).filter RoutineStep.isPost).length ≤ 1

inductive ComposeMpoWork where
  | composeMatches
deriving DecidableEq

def composeMpoSteps : CameraCmdType → Bool → List (RoutineStep ComposeMpoWork)
  | .startDataProc, _ => [.setActive true, .postSyncSem]
  | .stopDataProc, _ => [.setActive false, .postSyncSem]
  | .doNextJob, isActive => if isActive then [.work .composeMatches] else []
  | .exit, _ => []
  | .none, _ => []

def composeMpoRoutine : Routine ComposeMpoWork where
  steps := composeMpoSteps
  posts_le cmd isActive := by
    cases cmd <;> cases isActive <;> decide

inductive DataProcWork where
  | initOngoingPPQ
  | initInputJpegQ
  | initInputPPQ
  | initInputRawQ
  | startSaveProc
  | stopSaveProc
  | abortOngoingJpegs
  | destroyJpegSession
  | freeJpegOutputMem
  | deleteJpegExifObj
  | flushOngoingPPQ
  | flushInputJpegQ
  | flushInputPPQ
  | flushInputRawQ
  | needNewJpegSession
  | encodeNextJpeg
  | processNextRaw
  | doReprocess
  | releaseNextJpeg
  | releaseNextRaw
deriving DecidableEq

/-- Stopping, the routine notes that it needs a new session when it has already posted. -/
def dataProcessSteps : CameraCmdType → Bool → List (RoutineStep DataProcWork)
  | .startDataProc, _ =>
    [.setActive true, .work .initOngoingPPQ, .work .initInputJpegQ, .work .initInputPPQ,
      .work .initInputRawQ, .work .startSaveProc, .postSyncSem]
  | .stopDataProc, _ =>
    [.setActive false, .work .stopSaveProc, .work .abortOngoingJpegs, .work .destroyJpegSession,
      .work .freeJpegOutputMem, .work .deleteJpegExifObj, .work .flushOngoingPPQ,
      .work .flushInputJpegQ, .work .flushInputPPQ, .work .flushInputRawQ, .postSyncSem,
      .work .needNewJpegSession]
  | .doNextJob, isActive =>
    if isActive then [.work .encodeNextJpeg, .work .processNextRaw, .work .doReprocess]
    else [.work .releaseNextJpeg, .work .releaseNextRaw, .work .flushInputPPQ]
  | .exit, _ => []
  | .none, _ => []

def dataProcessRoutine : Routine DataProcWork where
  steps := dataProcessSteps
  posts_le cmd isActive := by
    cases cmd <;> cases isActive <;> decide

/-- Where the routine is: before `cmd_sem`, behind it, in a case of its `switch`, or at its end. -/
inductive RoutineAt (Work : Type) where
  | waits
  | notified
  | processes (cmd : CameraCmd) (rest : List (RoutineStep Work))
  | exited
deriving DecidableEq

/-- Where the controlling thread is: in no call, before it posts `cmd_sem`, or at `sync_sem`. -/
inductive Caller where
  | idle
  | enqueued (id : Nat) (sync : Bool)
  | waits (id : Nat)
deriving DecidableEq

/-- A command thread and who sends to it. `otherPosts` counts the other threads between their two
steps. History: the commands signalled and those finished, and the calls that waited, each with
whether its command was finished when it returned. -/
structure QCameraCmdThread (Work : Type) where
  cmdQueue : QCameraQueue CameraCmd := {}
  cmdSem : Nat := 0
  syncSem : Nat := 0
  isActive : Bool := false
  routine : RoutineAt Work := .waits
  caller : Caller := .idle
  otherPosts : Nat := 0
  nextId : Nat := 0
  signalled : List Nat := []
  finished : List Nat := []
  returns : List (Nat × Bool) := []

inductive CmdOp where
  | sendCmd (cmd : CameraCmdType) (sync priority nodeOk : Bool)
  | callerPosts
  | callerReturns
  | otherSends (nodeOk : Bool)
  | otherPosts
  | routineWakes
  | routineGets
  | routineStep

namespace QCameraCmdThread

variable {Work : Type}

/-- The first half of `sendCmd`. -/
def enqueueCmd (cmd : CameraCmdType) (sync priority nodeOk : Bool) (s : QCameraCmdThread Work) : QCameraCmdThread Work :=
  let node : CameraCmd := ⟨s.nextId, cmd, sync⟩
  let cmdQueue :=
    if priority then (s.cmdQueue.enqueueWithPriority node nodeOk).2 else (s.cmdQueue.enqueue node nodeOk).2
  { s with cmdQueue, nextId := s.nextId + 1 }

/-- The routine goes on with what is left of a case, or to its next turn. -/
def goOn (s : QCameraCmdThread Work) (cmd : CameraCmd) : List (RoutineStep Work) → QCameraCmdThread Work
  | [] => { s with
      routine := if cmd.cmd = .exit then .exited else .waits
      finished := s.finished ++ [cmd.id] }
  | st :: rest => { s with routine := .processes cmd (st :: rest) }

def getCmd (R : Routine Work) (s : QCameraCmdThread Work) : QCameraCmdThread Work :=
  let r := s.cmdQueue.dequeue
  match r.1 with
  | none => { s with routine := .waits }
  | some cmd => { s with cmdQueue := r.2 }.goOn cmd (R.steps cmd.cmd s.isActive)

def doStep (s : QCameraCmdThread Work) (cmd : CameraCmd) : RoutineStep Work → QCameraCmdThread Work
  | .setActive isActive => { s with isActive }
  | .work _ => s
  | .postSyncSem => { s with syncSem := s.syncSem + 1, signalled := s.signalled ++ [cmd.id] }

/-- `none` is a step that the thread cannot make now. -/
def step (R : Routine Work) (s : QCameraCmdThread Work) : CmdOp → Option (QCameraCmdThread Work)
  | .sendCmd cmd sync priority nodeOk =>
    if s.caller = .idle then
      some { s.enqueueCmd cmd sync priority nodeOk with caller := .enqueued s.nextId sync }
    else none
  | .callerPosts =>
    match s.caller with
    | .enqueued id sync => some { s with cmdSem := s.cmdSem + 1, caller := if sync then .waits id else .idle }
    | _ => none
  | .callerReturns =>
    match s.caller with
    | .waits id =>
      if 0 < s.syncSem then
        some { s with
          syncSem := s.syncSem - 1, caller := .idle
          returns := s.returns ++ [(id, decide (id ∈ s.finished))] }
      else none
    | _ => none
  | .otherSends nodeOk =>
    some { s.enqueueCmd .doNextJob false false nodeOk with otherPosts := s.otherPosts + 1 }
  | .otherPosts =>
    if 0 < s.otherPosts then some { s with otherPosts := s.otherPosts - 1, cmdSem := s.cmdSem + 1 } else none
  | .routineWakes =>
    match s.routine with
    | .waits => if 0 < s.cmdSem then some { s with routine := .notified, cmdSem := s.cmdSem - 1 } else none
    | _ => none
  | .routineGets =>
    match s.routine with
    | .notified => some (s.getCmd R)
    | _ => none
  | .routineStep =>
    match s.routine with
    | .processes cmd (st :: rest) => some ((s.doStep cmd st).goOn cmd rest)
    | _ => none

/-- The command of the synchronous call that has not returned. -/
def outstanding (s : QCameraCmdThread Work) : Option Nat :=
  match s.caller with
  | .idle => none
  | .enqueued id sync => if sync then some id else none
  | .waits id => some id

/-- The signals that the call in hand has still to consume. -/
def owed (s : QCameraCmdThread Work) : Nat :=
  match s.outstanding with
  | some id => if id ∈ s.signalled then 1 else 0
  | none => 0

end QCameraCmdThread

end DeviceHal.Camera
