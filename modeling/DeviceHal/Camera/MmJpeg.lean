import Mathlib.Algebra.Group.Nat.Defs
import Mathlib.Data.List.Nodup

namespace DeviceHal.Camera

/-- An entry of a client's table of sessions. -/
structure SessionId where
  client : Nat
  index : Nat
deriving DecidableEq

/-- A job id by its bit fields: the session in the lower half, and the upper half. -/
structure JobId where
  session : SessionId
  upper : Nat
deriving DecidableEq

def jobIdMagicval : Nat := 0x1

def jobHistMax : Nat := 10000

/-- The id of a session with the count of its jobs. `JOB_ID_MAGICVAL` is or'ed into the count. -/
def JobId.make (session : SessionId) (jobHist : Nat) : JobId :=
  ⟨session, (jobIdMagicval <<< 8) ||| (jobHist % 2 ^ 32 % jobHistMax)⟩

/-- The sessions that were created. Those of one `mm_jpeg_create_session` are chained and share the two
queues, which are numbered. -/
structure JpegSetup where
  active : SessionId → Bool
  queues : SessionId → Nat
  omxSessions : Nat → List SessionId
  mem_omxSessions : ∀ q id, id ∈ omxSessions q ↔ active id = true ∧ queues id = q
  nodup : ∀ q, (omxSessions q).Nodup
  numSrcBufs : Nat → Nat
  numDstBufs : Nat → Nat
  encodeThumbnail : Nat → Bool
  thumbFromMain : Nat → Bool
  concurrentSessionsCount : Nat
  count_pos : 0 < concurrentSessionsCount

/-- `next_session`. -/
def JpegSetup.next (c : JpegSetup) (id : SessionId) : Option SessionId :=
  ((c.omxSessions (c.queues id)).dropWhile fun other => other ≠ id).tail.head?

/-- A job in a queue. History: its number among the jobs that were accepted. -/
structure JobNode where
  num : Nat
  jobId : JobId
  srcIndex : Int
  dstIndex : Int
deriving DecidableEq

inductive AbortState where
  | none
  | init
  | done
deriving DecidableEq

/-- The steps of `mm_jpegenc_job_done`. -/
inductive DonePc where
  | removes
  | enqueuesHandle
  | enqueuesBuffer
  | posts
deriving DecidableEq

/-- Where a callback of the OMX component is. Behind the check of the abort state it holds the lock of
its session. -/
inductive Callback where
  | idle
  | reports
  | finishes (pc : DonePc)
deriving DecidableEq

/-- An OMX session. History: the job whose data it has. -/
structure OmxSession where
  jobHist : Nat := 0
  jobId : JobId := ⟨⟨0, 0⟩, 0⟩
  srcIndex : Int := 0
  dstIndex : Int := 0
  autoOutBuf : Bool := false
  encoding : Bool := false
  abortState : AbortState := .none
  cb : Callback := .idle
  job : Option Nat := none

/-- The steps of `mm_jpeg_session_encode`. -/
inductive EncodePc where
  | begins
  | configures
  | starts
  | emptiesMain
  | emptiesThumb
  | fills
deriving DecidableEq

/-- Where the job thread is. From `dequeues` on it holds `job_lock`. -/
inductive JobMgr where
  | waits
  | checksOngoing
  | dequeues
  | takesHandle (node : JobNode)
  | readsHead (node : JobNode)
  | putsBack (node : JobNode) (wasEmpty : Bool)
  | takesBuffer (node : JobNode) (id : SessionId)
  | enqueues (node : JobNode) (id : SessionId)
  | setsJob (node : JobNode) (id : SessionId)
  | encodes (id : SessionId) (pc : EncodePc)
  | reports (id : SessionId)
  | finishes (id : SessionId) (pc : DonePc)
deriving DecidableEq

/-- Where a call of `mm_jpeg_abort_job` for an ongoing job is. It holds `job_lock`. -/
inductive Aborter where
  | idle
  | enters (node : JobNode) (id : SessionId)
  | sends (node : JobNode) (id : SessionId)
  | awaits (node : JobNode) (id : SessionId)
  | ends (node : JobNode) (id : SessionId)
  | frees (node : JobNode)
deriving DecidableEq

/-- `posting` counts the calls of `mm_jpeg_start_job` between their two steps. History: how many jobs were
accepted, those whose node was freed, those aborted, those for which `jpeg_cb` was called, those of
whose buffers a later one was refused, and for each OMX session the jobs whose event is still to come. -/
structure MmJpeg where
  todo : List JobNode := []
  ongoing : List JobNode := []
  jobSem : Nat := 0
  posting : Nat := 0
  handleQ : Nat → List SessionId
  outBufQ : Nat → List Nat
  sess : SessionId → OmxSession := fun _ => {}
  mgr : JobMgr := .waits
  aborter : Aborter := .idle
  accepted : Nat := 0
  freed : List Nat := []
  aborted : List Nat := []
  called : List Nat := []
  failed : List Nat := []
  pending : SessionId → List Nat := fun _ => []

inductive OmxEvent where
  | fillBufferDone
  | error
deriving DecidableEq

/-- The steps of the threads. `ok` is whether the OMX call of the step succeeds. -/
inductive JpegOp where
  | startJob (session : SessionId) (srcIndex dstIndex : Int)
  | startPosts
  | mgrStep (ok : Bool)
  | omxRaises (id : SessionId) (num : Nat) (event : OmxEvent)
  | omxChangesState (id : SessionId)
  | cbStep (id : SessionId)
  | abortJob (jobId : JobId)
  | abortStep (ok : Bool)

namespace MmJpeg

variable (c : JpegSetup)

def initial : MmJpeg where
  handleQ := c.omxSessions
  outBufQ := fun q => (List.range (c.numDstBufs q)).map (· + 1)

def modify (s : MmJpeg) (id : SessionId) (f : OmxSession → OmxSession) : MmJpeg :=
  { s with sess := Function.update s.sess id (f (s.sess id)) }

/-- `mm_jpeg_start_job` up to the post of the semaphore. -/
def startJob (s : MmJpeg) (session : SessionId) (srcIndex dstIndex : Int) : MmJpeg :=
  if c.active session = false then s
  else if srcIndex ≥ c.numSrcBufs (c.queues session) ∨ dstIndex ≥ c.numDstBufs (c.queues session) then s
  else
    let node : JobNode := ⟨s.accepted, .make session (s.sess session).jobHist, srcIndex, dstIndex⟩
    { s.modify session fun x => { x with jobHist := x.jobHist + 1 } with
      todo := s.todo ++ [node], posting := s.posting + 1, accepted := s.accepted + 1 }

/-- `jpeg_cb` is called with the job of the session. -/
def report (s : MmJpeg) (id : SessionId) : MmJpeg := { s with called := s.called ++ (s.sess id).job.toList }

/-- `mm_jpeg_queue_remove_job_by_job_id` of the ongoing queue, and `free`. -/
def removeOngoing (s : MmJpeg) (jobId : JobId) : MmJpeg :=
  match s.ongoing.find? fun n => n.jobId = jobId with
  | some n => { s with ongoing := s.ongoing.eraseP fun n => n.jobId = jobId, freed := s.freed ++ [n.num] }
  | none => s

/-- One step of `mm_jpegenc_job_done`. -/
def doneStep (s : MmJpeg) (id : SessionId) : DonePc → MmJpeg
  | .removes => (s.removeOngoing (s.sess id).jobId).modify id fun x => { x with encoding := false }
  | .enqueuesHandle =>
    let q := c.queues id
    { s with handleQ := Function.update s.handleQ q (s.handleQ q ++ [id]) }
  | .enqueuesBuffer =>
    let q := c.queues id
    if (s.sess id).autoOutBuf then
      { s with outBufQ := Function.update s.outBufQ q (s.outBufQ q ++ [((s.sess id).dstIndex + 1).toNat]) }
    else s
  | .posts => { s with jobSem := s.jobSem + 1 }

def nextPc : DonePc → Option DonePc
  | .removes => some .enqueuesHandle
  | .enqueuesHandle => some .enqueuesBuffer
  | .enqueuesBuffer => some .posts
  | .posts => none

/-- One step of `mm_jpeg_session_encode`; `none` where the lock of the session is taken. -/
def encodeStep (s : MmJpeg) (id : SessionId) (ok : Bool) : EncodePc → Option MmJpeg
  | .begins =>
    if (s.sess id).cb = .idle then
      some { s.modify id fun x => { x with abortState := .none, encoding := false } with
        mgr := .encodes id .configures }
    else none
  | .configures =>
    if ok = false ∨ c.thumbFromMain (c.queues id) = true ∧ (s.sess id).srcIndex < 0 then
      some { s with mgr := .reports id }
    else some { s with mgr := .encodes id .starts }
  | .starts =>
    if (s.sess id).cb = .idle then
      some { s.modify id fun x => { x with encoding := true } with
        mgr := if (s.sess id).abortState = .init then .waits else .encodes id .emptiesMain }
    else none
  | .emptiesMain =>
    if ok then
      some { s with
        pending := Function.update s.pending id (s.pending id ++ (s.sess id).job.toList)
        mgr := .encodes id (if c.encodeThumbnail (c.queues id) then .emptiesThumb else .fills) }
    else some { s with mgr := .reports id }
  | .emptiesThumb =>
    if ok then some { s with mgr := .encodes id .fills }
    else some { s with failed := s.failed ++ (s.sess id).job.toList, mgr := .reports id }
  | .fills =>
    if ok then some { s with mgr := .waits }
    else some { s with failed := s.failed ++ (s.sess id).job.toList, mgr := .reports id }

def mgrStep (s : MmJpeg) (ok : Bool) : Option MmJpeg :=
  match s.mgr with
  | .waits => if 0 < s.jobSem then some { s with jobSem := s.jobSem - 1, mgr := .checksOngoing } else none
  | .checksOngoing =>
    if s.ongoing.length ≥ c.concurrentSessionsCount then some { s with mgr := .waits }
    else if s.aborter = .idle then some { s with mgr := .dequeues } else none
  | .dequeues =>
    match s.todo with
    | [] => some { s with mgr := .waits }
    | node :: rest => some { s with todo := rest, mgr := .takesHandle node }
  | .takesHandle node =>
    let q := c.queues node.jobId.session
    match s.handleQ q with
    | [] => some { s with mgr := .readsHead node }
    | id :: rest =>
      some { s with handleQ := Function.update s.handleQ q rest, mgr := .takesBuffer node id }
  | .readsHead node => some { s with mgr := .putsBack node s.todo.isEmpty }
  -- the node goes before the one that was the first, or to the end where there was none
  | .putsBack node wasEmpty =>
    some { s with todo := if wasEmpty then s.todo ++ [node] else node :: s.todo, mgr := .waits }
  | .takesBuffer node id =>
    let q := c.queues id
    if node.dstIndex < 0 then
      match s.outBufQ q with
      -- neither the handle nor the node goes back
      | [] => some { s.modify id fun x => { x with autoOutBuf := false } with mgr := .waits }
      | b :: rest =>
        some { s.modify id fun x => { x with autoOutBuf := true } with
          outBufQ := Function.update s.outBufQ q rest
          mgr := .enqueues { node with dstIndex := (b - 1 : Nat) } id }
    else some { s.modify id fun x => { x with autoOutBuf := false } with mgr := .enqueues node id }
  | .enqueues node id => some { s with ongoing := s.ongoing ++ [node], mgr := .setsJob node id }
  | .setsJob node id =>
    some { s.modify id fun x => { x with
        jobId := node.jobId, srcIndex := node.srcIndex, dstIndex := node.dstIndex, job := some node.num } with
      mgr := .encodes id .begins }
  | .encodes id pc => encodeStep c s id ok pc
  | .reports id => some { s.report id with mgr := .finishes id .removes }
  | .finishes id pc =>
    some { doneStep c s id pc with
      mgr := match nextPc pc with
        | some pc => .finishes id pc
        | none => .waits }

/-- A callback of the component, once it has the lock: `mm_jpeg_fbd` or an error event. -/
def omxRaises (s : MmJpeg) (id : SessionId) (num : Nat) (event : OmxEvent) : Option MmJpeg :=
  if num ∈ s.pending id ∧ (s.sess id).cb = .idle then
    let s := { s with pending := Function.update s.pending id ((s.pending id).filter fun n => n ≠ num) }
    match event with
    | .fillBufferDone =>
      if (s.sess id).abortState ≠ .none then some s
      else some (s.modify id fun x => { x with cb := .reports })
    | .error =>
      if (s.sess id).abortState = .init then some (s.modify id fun x => { x with abortState := .done })
      else if (s.sess id).encoding then some (s.modify id fun x => { x with cb := .reports })
      else some s
  else none

def cbStep (s : MmJpeg) (id : SessionId) : Option MmJpeg :=
  match (s.sess id).cb with
  | .idle => none
  | .reports => some ((s.report id).modify id fun x => { x with cb := .finishes .removes })
  | .finishes pc =>
    some ((doneStep c s id pc).modify id fun x => { x with
      cb := match nextPc pc with
        | some pc => .finishes pc
        | none => .idle })

/-- `mm_jpeg_abort_job` with `job_lock` in its hands. -/
def abortJob (s : MmJpeg) (jobId : JobId) : MmJpeg :=
  match s.todo.find? fun n => n.jobId = jobId with
  | some n =>
    { s with
      todo := s.todo.eraseP fun n => n.jobId = jobId, freed := s.freed ++ [n.num], aborted := s.aborted ++ [n.num] }
  | none =>
    match s.ongoing.find? fun n => n.jobId = jobId with
    | some n =>
      { s with
        ongoing := s.ongoing.eraseP fun n => n.jobId = jobId
        aborted := s.aborted ++ [n.num], aborter := .enters n n.jobId.session }
    | none => s

/-- One step of `mm_jpeg_session_abort` along the chain. A thread may wake up without a signal: then `ok`
is false in `awaits`. -/
def abortStep (s : MmJpeg) (ok : Bool) : Option MmJpeg :=
  match s.aborter with
  | .idle => none
  | .enters node id =>
    if (s.sess id).cb = .idle then
      if (s.sess id).abortState ≠ .none then some { s with aborter := .frees node }
      else
        some { s.modify id fun x => { x with abortState := .init } with
          aborter := if (s.sess id).encoding then .sends node id else .ends node id }
    else none
  | .sends node id => some { s with aborter := if ok then .awaits node id else .frees node }
  | .awaits node id =>
    if (s.sess id).cb = .idle ∧ ((s.sess id).abortState ≠ .init ∨ ok = false) then
      some { s with aborter := .ends node id }
    else none
  | .ends node id =>
    some { s.modify id fun x => { x with abortState := .done } with
      aborter := match c.next id with
        | some id => .enters node id
        | none => .frees node }
  | .frees node => some { s with freed := s.freed ++ [node.num], aborter := .idle }

/-- `job_lock` is free. -/
def lockFree (s : MmJpeg) : Prop := s.aborter = .idle ∧ (s.mgr = .waits ∨ s.mgr = .checksOngoing)

instance (s : MmJpeg) : Decidable s.lockFree := inferInstanceAs (Decidable (_ ∧ _))

/-- `none` is a step that the thread cannot make now. -/
def step (s : MmJpeg) : JpegOp → Option MmJpeg
  | .startJob session srcIndex dstIndex => some (startJob c s session srcIndex dstIndex)
  | .startPosts =>
    if 0 < s.posting then some { s with posting := s.posting - 1, jobSem := s.jobSem + 1 } else none
  | .mgrStep ok => mgrStep c s ok
  | .omxRaises id num event => s.omxRaises id num event
  | .omxChangesState id =>
    if (s.sess id).cb = .idle ∧ (s.sess id).abortState = .init then
      some (s.modify id fun x => { x with abortState := .done })
    else none
  | .cbStep id => cbStep c s id
  | .abortJob jobId => if s.lockFree then some (s.abortJob jobId) else none
  | .abortStep ok => abortStep c s ok

end MmJpeg

/-- How far an OMX session is with the job that it was taken for. The first four and the next three are
the job thread's, the last three a callback's. -/
inductive Phase where
  | free
  | chosen (n : JobNode)
  | buffered (n : JobNode)
  | queued (n : JobNode)
  | loaded (n : JobNode)
  | failing (n : JobNode)
  | mgrCalled (n : JobNode)
  | mgrFreed (n : JobNode)
  | submitted (n : JobNode)
  | reporting (n : JobNode)
  | cbCalled (n : JobNode)
  | cbFreed (n : JobNode)
deriving DecidableEq

namespace Phase

def node : Phase → Option JobNode
  | free => none
  | chosen n | buffered n | queued n | loaded n | failing n | mgrCalled n | mgrFreed n | submitted n
  | reporting n | cbCalled n | cbFreed n => some n

/-- The job while its node is in the ongoing queue. -/
def ongoing : Phase → Option JobNode
  | queued n | loaded n | failing n | mgrCalled n | submitted n | reporting n | cbCalled n => some n
  | free | chosen _ | buffered _ | mgrFreed _ | cbFreed _ => none

def loadedNode : Phase → Option JobNode
  | loaded n | failing n | mgrCalled n | mgrFreed n | submitted n | reporting n | cbCalled n | cbFreed n => some n
  | free | chosen _ | buffered _ | queued _ => none

def bound : Phase → Option JobNode
  | buffered n | queued n | loaded n | failing n | mgrCalled n | mgrFreed n | submitted n | reporting n
  | cbCalled n | cbFreed n => some n
  | free | chosen _ => none

/-- How often `jpeg_cb` was called for the job. -/
def calls : Phase → Nat
  | mgrCalled _ | mgrFreed _ | cbCalled _ | cbFreed _ => 1
  | free | chosen _ | buffered _ | queued _ | loaded _ | failing _ | submitted _ | reporting _ => 0

/-- The job between the release of its node and that of the OMX session. -/
def gone : Phase → Option JobNode
  | mgrFreed n | cbFreed n => some n
  | free | chosen _ | buffered _ | queued _ | loaded _ | failing _ | mgrCalled _ | submitted _ | reporting _
  | cbCalled _ => none

def fails : Phase → Option JobNode
  | failing n | mgrCalled n => some n
  | free | chosen _ | buffered _ | queued _ | loaded _ | mgrFreed _ | submitted _ | reporting _ | cbCalled _
  | cbFreed _ => none

def byMgr : Phase → Bool
  | chosen _ | buffered _ | queued _ | loaded _ | failing _ | mgrCalled _ | mgrFreed _ => true
  | free | submitted _ | reporting _ | cbCalled _ | cbFreed _ => false

variable {p : Phase} {n : JobNode}

theorem node_of_ongoing (h : p.ongoing = some n) : p.node = some n := by
  cases p <;> first | exact h | cases h

theorem node_of_fails (h : p.fails = some n) : p.node = some n := by
  cases p <;> first | exact h | cases h

theorem node_of_gone (h : p.gone = some n) : p.node = some n := by
  cases p <;> first | exact h | cases h

theorem calls_le (p : Phase) : p.calls ≤ 1 := by
  cases p <;> first | exact Nat.zero_le 1 | exact Nat.le_refl 1

end Phase

namespace JobMgr

/-- The node that is in the hands of the job thread only. -/
def hand : JobMgr → Option JobNode
  | takesHandle n | readsHead n | putsBack n _ | takesBuffer n _ | enqueues n _ => some n
  | waits | checksOngoing | dequeues | setsJob _ _ | encodes _ _ | reports _ | finishes _ _ => none

/-- The OMX session that the job thread has to see to. -/
def charge : JobMgr → Option SessionId
  | takesBuffer _ id | enqueues _ id | setsJob _ id | encodes id .begins | encodes id .configures
  | encodes id .starts | encodes id .emptiesMain | reports id | finishes id .removes
  | finishes id .enqueuesHandle => some id
  | waits | checksOngoing | dequeues | takesHandle _ | readsHead _ | putsBack _ _ | encodes _ .emptiesThumb
  | encodes _ .fills | finishes _ .enqueuesBuffer | finishes _ .posts => none

def loads (id : SessionId) : JobMgr → Prop
  | encodes id' .begins | encodes id' .configures | encodes id' .starts | encodes id' .emptiesMain => id' = id
  | _ => False

end JobMgr

def MgrOk (mgr : JobMgr) (id : SessionId) : Phase → Prop
  | .chosen n => mgr = .takesBuffer n id
  | .buffered n => mgr = .enqueues n id
  | .queued n => mgr = .setsJob n id
  | .loaded _ => mgr.loads id
  | .failing _ => mgr = .reports id
  | .mgrCalled _ => mgr = .finishes id .removes
  | .mgrFreed _ => mgr = .finishes id .enqueuesHandle
  | .free | .submitted _ | .reporting _ | .cbCalled _ | .cbFreed _ => mgr.charge ≠ some id

def CbOk (cb : Callback) : Phase → Prop
  | .reporting _ => cb = .reports
  | .cbCalled _ => cb = .finishes .removes
  | .cbFreed _ => cb = .finishes .enqueuesHandle
  | .free | .chosen _ => cb = .idle ∨ cb = .finishes .enqueuesBuffer ∨ cb = .finishes .posts
  | .buffered _ | .queued _ | .loaded _ | .failing _ | .mgrCalled _ | .mgrFreed _ | .submitted _ =>
    cb = .idle ∨ cb = .finishes .posts

/-- The component has an event to raise exactly for a submitted job; what else is pending is of jobs
that failed. -/
def OmxOk (pending failed : List Nat) (encoding : Bool) : Phase → Prop
  | .submitted n => n.num ∈ pending ∧ n.num ∉ failed ∧ encoding = true ∧ ∀ num ∈ pending, num ∈ failed ∨ num = n.num
  | .free | .chosen _ | .buffered _ | .queued _ | .loaded _ | .failing _ | .mgrCalled _ | .mgrFreed _
  | .reporting _ | .cbCalled _ | .cbFreed _ => ∀ num ∈ pending, num ∈ failed

theorem MgrOk.charge {mgr : JobMgr} {id : SessionId} {p : Phase} (h : MgrOk mgr id p) :
    mgr.charge = some id ↔ p.byMgr = true := by
  cases p with
  | free => exact ⟨fun hc => absurd hc h, nofun⟩
  | submitted n => exact ⟨fun hc => absurd hc h, nofun⟩
  | reporting n => exact ⟨fun hc => absurd hc h, nofun⟩
  | cbCalled n => exact ⟨fun hc => absurd hc h, nofun⟩
  | cbFreed n => exact ⟨fun hc => absurd hc h, nofun⟩
  | loaded n =>
    refine ⟨fun _ => rfl, fun _ => ?_⟩
    cases mgr with
    | encodes id' pc => cases pc <;> first | exact congrArg some h | exact h.elim
    | _ => exact h.elim
  | chosen n | buffered n | queued n | failing n | mgrCalled n | mgrFreed n =>
    change mgr = _ at h
    rw [h]
    exact ⟨fun _ => rfl, fun _ => rfl⟩

theorem MgrOk.other {mgr mgr' : JobMgr} {id : SessionId} {p : Phase} (h : MgrOk mgr id p)
    (hbefore : mgr.charge ≠ some id) (hafter : mgr'.charge ≠ some id) : MgrOk mgr' id p := by
  have hno : p.byMgr ≠ true := fun hby => hbefore (h.charge.mpr hby)
  cases p <;> first | exact hafter | exact absurd rfl hno

/-- What holds of one OMX session. -/
structure SlotOk (c : JpegSetup) (s : MmJpeg) (id : SessionId) (p : Phase) : Prop where
  mgr : MgrOk s.mgr id p
  cb : CbOk (s.sess id).cb p
  omx : OmxOk (s.pending id) s.failed (s.sess id).encoding p
  data : ∀ n, p.loadedNode = some n →
    (s.sess id).job = some n.num ∧ (s.sess id).jobId = n.jobId ∧ (s.sess id).dstIndex = n.dstIndex
  handle : id ∈ s.handleQ (c.queues id) ↔ c.active id = true ∧ p = .free
  inactive : c.active id = false → p = .free
  returned : s.mgr = .finishes id .enqueuesBuffer → p = .free ∧ (s.sess id).cb ≠ .finishes .enqueuesBuffer
  encoded : s.mgr = .encodes id .emptiesMain → (s.sess id).encoding = true
  noAbort : (s.sess id).abortState = .none

variable {c : JpegSetup} {s s' : MmJpeg} {ph : SessionId → Phase} {id : SessionId} {p : Phase}

theorem SlotOk.update (h : ∀ id, SlotOk c s id (ph id)) (hself : SlotOk c s' id p)
    (hsess : ∀ id', id' ≠ id → s'.sess id' = s.sess id') (hpending : ∀ id', id' ≠ id → s'.pending id' = s.pending id')
    (hhandle : ∀ id', id' ≠ id → (id' ∈ s'.handleQ (c.queues id') ↔ id' ∈ s.handleQ (c.queues id')))
    (hfailed : ∀ num ∈ s.failed, num ∈ s'.failed)
    (hunfailed : ∀ id' n, id' ≠ id → ph id' = .submitted n → n.num ∉ s.failed → n.num ∉ s'.failed)
    (hmgr : ∀ id', id' ≠ id → MgrOk s.mgr id' (ph id') → MgrOk s'.mgr id' (ph id'))
    (hreturned : ∀ id', id' ≠ id → s'.mgr = .finishes id' .enqueuesBuffer → s.mgr = .finishes id' .enqueuesBuffer)
    (hencoded : ∀ id', id' ≠ id → s'.mgr = .encodes id' .emptiesMain → s.mgr = .encodes id' .emptiesMain) :
    ∀ id', SlotOk c s' id' (Function.update ph id p id') := by
  intro id'
  by_cases he : id' = id
  · rw [he, Function.update_self]
    exact hself
  · rw [Function.update_of_ne he]
    obtain ⟨hm, hcb, homx, hdata, hh, hin, hret, henc, hab⟩ := h id'
    refine ⟨hmgr id' he hm, ?_, ?_, ?_, ?_, hin, ?_, ?_, ?_⟩
    · rw [hsess id' he]
      exact hcb
    · rw [hpending id' he, hsess id' he]
      generalize hp : ph id' = p' at homx ⊢
      cases p' with
      | submitted n =>
        obtain ⟨hmem, hun, hcoding, hall⟩ := homx
        exact ⟨hmem, hunfailed id' n he hp hun, hcoding, fun num hnum => (hall num hnum).imp_left (hfailed num)⟩
      | _ => exact fun num hnum => hfailed num (homx num hnum)
    · rw [hsess id' he]
      exact hdata
    · rw [hhandle id' he]
      exact hh
    · grind
    · grind
    · rw [hsess id' he]
      exact hab

end DeviceHal.Camera
