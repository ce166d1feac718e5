import DeviceHal.Camera.JpegCompletion

namespace DeviceHal.Camera

namespace QCameraQueue

variable {α : Type}

def peek (q : QCameraQueue α) : Option α := if q.active then q.nodes.head? else none

theorem dequeue_none {q : QCameraQueue α} (h : q.dequeue.1 = none) : q.dequeue.2 = q := by
  unfold dequeue at h ⊢
  split at h
  next hactive =>
    rw [if_pos hactive, List.head?_eq_none_iff.mp h]
    cases q with
    | mk nodes active =>
      obtain rfl := List.head?_eq_none_iff.mp h
      rfl
  next hactive => rw [if_neg hactive]

end QCameraQueue

/-- A captured frame, with the metadata buffer in it if there is one. -/
structure SuperBuf where
  id : Nat
  metadata : Option Nat := none
deriving DecidableEq

/-- `qcamera_pp_request_t`. -/
structure PpRequest where
  reprocCount : Nat
  srcFrame : Option SuperBuf
  srcReprocFrame : Option SuperBuf
deriving DecidableEq

/-- `qcamera_pp_data_t`. History: the number of the request it is for. -/
structure PpData where
  request : Nat
  reprocCount : Nat
  srcFrame : Option SuperBuf := none
  reprocFrameRelease : Bool := false
  srcReprocFrame : Option SuperBuf := none
deriving DecidableEq

/-- `qcamera_jpeg_data_t`, as far as the frames go. -/
structure JpegJob where
  jobId : UInt32 := 0
  srcFrame : Option SuperBuf
  srcReprocFrame : Option SuperBuf := none
  metadata : Option Nat := none
  reprocFrameRelease : Bool := false
deriving DecidableEq

/-- A result that a reprocess channel has to give. History: the request and its source frame, whether
the result is an extra one, and whether a job was queued for it. -/
structure PpAnswer where
  channel : Nat
  request : Nat
  source : SuperBuf
  extra : Bool
  queued : Bool
deriving DecidableEq

inductive PpStatus where
  | noError
  | badValue
  | noMemory
  | unknownError
deriving DecidableEq

/-- The queues of the post-processor, the raw frames that wait in the notifier and the results that the
reprocess channels owe. History: the requests that were refused or not made with a job queued, the frames
handed in, the source frames of jobs marked `reproc_frame_release`, the frames passed to
`releaseSuperBuf`, and those freed. -/
structure PostProc where
  inputPPQ : QCameraQueue PpRequest := {}
  ongoingPPQ : QCameraQueue PpData := {}
  inputJpegQ : QCameraQueue JpegJob := {}
  ongoingJpegQ : QCameraQueue JpegJob := {}
  inputRawQ : QCameraQueue SuperBuf := {}
  rawNotifies : List SuperBuf := []
  isActive : Bool := false
  bufCountPPQ : Nat := 0
  inputMetadata : List Nat := []
  ppIndex : Nat := 0
  nextRequest : Nat := 0
  answers : List PpAnswer := []
  refused : List Nat := []
  passed : List SuperBuf := []
  marked : List SuperBuf := []
  released : List SuperBuf := []
  freed : List SuperBuf := []

namespace PostProc

def releaseSuperBuf (superBuf : SuperBuf) (s : PostProc) : PostProc :=
  { s with released := s.released ++ [superBuf] }

def free (superBuf : SuperBuf) (s : PostProc) : PostProc := { s with freed := s.freed ++ [superBuf] }

/-- Releases the frame of a job, if it has one and `release` is set, and frees it. -/
def dispose (release : Bool) (superBuf : Option SuperBuf) (s : PostProc) : PostProc :=
  match superBuf with
  | some f => (if release then s.releaseSuperBuf f else s).free f
  | none => s

def releasePPInputData (job : PpRequest) (s : PostProc) : PostProc :=
  let srcReprocFrame := if job.srcFrame = job.srcReprocFrame then none else job.srcReprocFrame
  (s.dispose true job.srcFrame).dispose true srcReprocFrame

def releaseOngoingPPData (job : PpData) (s : PostProc) : PostProc :=
  let srcReprocFrame := if job.srcFrame = job.srcReprocFrame then none else job.srcReprocFrame
  (s.dispose (!job.reprocFrameRelease) job.srcFrame).dispose true srcReprocFrame

def releaseJpegJobData (job : JpegJob) (s : PostProc) : PostProc :=
  (s.dispose (!job.reprocFrameRelease) job.srcReprocFrame).dispose true job.srcFrame

def flushInputPPQ (s : PostProc) : PostProc :=
  let (jobs, inputPPQ) := s.inputPPQ.flush
  jobs.foldl (fun s job => s.releasePPInputData job) { s with inputPPQ }

def flushOngoingPPQ (s : PostProc) : PostProc :=
  let (jobs, ongoingPPQ) := s.ongoingPPQ.flush
  jobs.foldl (fun s job => s.releaseOngoingPPData job) { s with ongoingPPQ }

def flushInputJpegQ (s : PostProc) : PostProc :=
  let (jobs, inputJpegQ) := s.inputJpegQ.flush
  jobs.foldl (fun s job => s.releaseJpegJobData job) { s with inputJpegQ }

/-- `releaseRawData` gives the frame back, and the queue frees it. -/
def flushInputRawQ (s : PostProc) : PostProc :=
  let (frames, inputRawQ) := s.inputRawQ.flush
  frames.foldl (fun s frame => s.dispose true (some frame)) { s with inputRawQ }

def processRawData (frame : SuperBuf) (nodeOk : Bool) (s : PostProc) : PostProc :=
  match s.inputRawQ.enqueue frame nodeOk with
  | (true, inputRawQ) => { s with inputRawQ }
  | (false, _) => s.dispose true (some frame)

/-- What the parent says of a frame from the sensor, and whether the job and its node could be
allocated. `yuvFormat` is NV16 or NV21. -/
structure DataEnv where
  needReprocess : Bool
  yuvFormat : Bool := false
  advCamFeatures : Bool := false
  allocOk : Bool := true
  nodeOk : Bool := true

def processData (env : DataEnv) (frame : SuperBuf) (s : PostProc) : PpStatus × PostProc :=
  if env.needReprocess then
    if !env.allocOk then (.noMemory, s)
    else
      match s.inputPPQ.enqueue ⟨0, some frame, some frame⟩ env.nodeOk with
      | (true, inputPPQ) =>
        (.noError, { s with
          inputPPQ
          inputMetadata :=
            if env.advCamFeatures then s.inputMetadata ++ frame.metadata.toList else s.inputMetadata })
      | (false, _) => (.noError, s.dispose true (some frame))
  else if env.yuvFormat then (.noError, s.processRawData frame env.nodeOk)
  else if !env.allocOk then (.noMemory, s)
  else
    let job : JpegJob := { srcFrame := some frame, metadata := frame.metadata }
    match s.inputJpegQ.enqueue job env.nodeOk with
    | (true, inputJpegQ) => (.noError, { s with inputJpegQ })
    | (false, _) => (.noError, s.releaseJpegJobData job)

/-- What the parent says of a result, and whether the next job and its node could be allocated. -/
structure ResultEnv where
  needSuperBufMatch : Bool
  yuvFormat : Bool := false
  advCamFeatures : Bool := false
  totalNumReproc : Nat := 1
  exifBufIndex : Nat → Nat := id
  allocOk : Bool := true
  nodeOk : Bool := true

/-- The metadata for the encoder. With advanced features it is looked up by the count of results,
else it is the source frame's or else the result's. -/
def resultMetadata (env : ResultEnv) (frame : SuperBuf) (job : PpData) (s : PostProc) : Option Nat :=
  if env.advCamFeatures then s.inputMetadata[env.exifBufIndex s.ppIndex]?
  else (job.srcReprocFrame.bind SuperBuf.metadata).or frame.metadata

def jpegJobOf (env : ResultEnv) (frame : SuperBuf) (job : PpData) (s : PostProc) : JpegJob where
  srcFrame := some frame
  srcReprocFrame := job.srcReprocFrame
  metadata := s.resultMetadata env frame job
  reprocFrameRelease := job.reprocFrameRelease

/-- A result with its job: another pass, or the encoder. -/
def processResult (env : ResultEnv) (frame : SuperBuf) (job : PpData) (s : PostProc) :
    PpStatus × PostProc :=
  -- from the second pass on its input is not needed any more
  let s := if 1 < job.reprocCount then s.dispose true job.srcFrame else s
  if job.reprocCount < env.totalNumReproc then
    if !env.allocOk then (.noMemory, s)
    else
      let request : PpRequest := ⟨job.reprocCount, some frame, job.srcReprocFrame⟩
      match s.inputPPQ.enqueue request env.nodeOk with
      | (true, inputPPQ) => (.noError, { s with inputPPQ })
      | (false, _) => (.noError, s.releasePPInputData request)
  else if !env.allocOk then (.noMemory, s)
  else
    let jpegJob := s.jpegJobOf env frame job
    let s := if env.advCamFeatures then { s with ppIndex := s.ppIndex + 1 } else s
    match s.inputJpegQ.enqueue jpegJob env.nodeOk with
    | (true, inputJpegQ) => (.noError, { s with inputJpegQ })
    | (false, _) => (.noError, s.releaseJpegJobData jpegJob)

def processPPData (env : ResultEnv) (frame : SuperBuf) (s : PostProc) : PpStatus × PostProc :=
  match s.ongoingPPQ.dequeue with
  | (none, _) => (.badValue, s)
  | (some job, ongoingPPQ) =>
    let s := { s with ongoingPPQ }
    if !env.needSuperBufMatch && (job.srcFrame.isNone || job.srcReprocFrame.isNone) then (.badValue, s)
    else if !env.needSuperBufMatch && env.yuvFormat then
      (.noError, (s.releaseOngoingPPData job).processRawData frame env.nodeOk)
    else s.processResult env frame job

/-- The outcomes of what `doReprocess` calls. `extraAlloc` and `extraNode` are whether a place-holder and
its node could be allocated. -/
structure ReprocessEnv where
  validates : Bool := true
  allocOk : Bool := true
  hasChannel : Bool := true
  regularCapture : Bool := false
  nodeOk : Bool := true
  numIn : Nat := 1
  numOut : Nat := 1
  extraAlloc : Nat → Bool := fun _ => true
  extraNode : Nat → Bool := fun _ => true
  accepts : Bool := true

/-- How the loop over the place-holders ends. -/
inductive ExtraEnd where
  | all
  | noMemory
  | noNode
deriving DecidableEq

/-- `extra_pp_job`: it has no frames. -/
def extraPpJob (job : PpData) : PpData := { request := job.request, reprocCount := job.reprocCount }

/-- Queues `n` place-holders, from the `i`th on. -/
def queueExtras (env : ReprocessEnv) (extra : PpData) :
    Nat → Nat → QCameraQueue PpData → ExtraEnd × Nat × QCameraQueue PpData
  | 0, i, q => (.all, i, q)
  | n + 1, i, q =>
    if !env.extraAlloc i then (.noMemory, i, q)
    else
      match q.enqueue extra (env.extraNode i) with
      | (true, q) => queueExtras env extra n (i + 1) q
      | (false, q) => (.noNode, i, q)

/-- The results to come of a request that was accepted. -/
def answersOf (channel request : Nat) (source : SuperBuf) (extras queued : Nat) : List PpAnswer :=
  ⟨channel, request, source, false, true⟩ ::
    (List.range extras).map fun i => ⟨channel, request, source, true, i < queued⟩

def callChannel (env : ReprocessEnv) (channel : Nat) (job : PpData) (source : SuperBuf)
    (extras queued : Nat) (s : PostProc) : PpStatus × PostProc :=
  if env.accepts then
    (.noError, { s with answers := s.answers ++ answersOf channel job.request source extras queued })
  else (.unknownError, { s with refused := s.refused ++ [job.request] })

/-- A job is queued, with place-holders for extra results, and the channel is called. -/
def startReprocess (env : ReprocessEnv) (channel : Nat) (source : SuperBuf) (job : PpData) (s : PostProc) :
    PpStatus × PostProc :=
  let s := { s with
    bufCountPPQ := s.bufCountPPQ + 1
    nextRequest := s.nextRequest + 1
    marked := if job.reprocFrameRelease then s.marked ++ [source] else s.marked }
  match s.ongoingPPQ.enqueue job env.nodeOk with
  | (false, _) => (.noError, s.releaseOngoingPPData job)
  | (true, ongoingPPQ) =>
    let s := { s with ongoingPPQ }
    let extras := if env.regularCapture then 0
      else if s.bufCountPPQ % env.numIn = 0 then env.numOut - env.numIn else 0
    match queueExtras env (extraPpJob job) extras 0 s.ongoingPPQ with
    | (.noNode, _, ongoingPPQ) => (.noError, { s with ongoingPPQ, refused := s.refused ++ [job.request] })
    | (_, queued, ongoingPPQ) => { s with ongoingPPQ }.callChannel env channel job source extras queued

def doReprocess (env : ReprocessEnv) (s : PostProc) : PpStatus × PostProc :=
  match s.inputPPQ.peek with
  | none => (.noError, s)
  | some request =>
    if request.srcFrame.isNone || !env.validates then (.noError, s)
    else
      let s := { s with inputPPQ := s.inputPPQ.dequeue.2 }
      match request.srcReprocFrame with
      | none => (.noError, s)
      | some source =>
        if !env.allocOk then (.noMemory, s)
        else if !env.hasChannel then (.unknownError, s.releasePPInputData request)
        else
          s.startReprocess env request.reprocCount source {
            request := s.nextRequest
            reprocCount := request.reprocCount + 1
            srcFrame := request.srcFrame
            reprocFrameRelease := env.regularCapture
            srcReprocFrame := request.srcReprocFrame }

/-- How `encodeData` ends. -/
inductive EncodeEnd where
  | started (jobId : UInt32)
  | fails
deriving DecidableEq

/-- How `processRawImageImpl` ends. With `notified` the notifier has the frame; `notifyFails` is
`notifyCallback` refusing it. `done` is every other success: no callback, a request of the HAL's own, or
not ZSL, where the frame was copied. -/
inductive RawEnd where
  | notified
  | done
  | fails
  | notifyFails
deriving DecidableEq

def encodeNext (fate : EncodeEnd) (nodeOk : Bool) (s : PostProc) : PostProc :=
  match s.inputJpegQ.dequeue with
  | (none, inputJpegQ) => { s with inputJpegQ }
  | (some job, inputJpegQ) =>
    let s := { s with inputJpegQ }
    match s.ongoingJpegQ.enqueue job nodeOk, fate with
    | (true, ongoingJpegQ), .started jobId =>
      -- the job is the last one
      { s with ongoingJpegQ := { ongoingJpegQ with nodes := s.ongoingJpegQ.nodes ++ [{ job with jobId }] } }
    | (true, ongoingJpegQ), .fails =>
      { s with ongoingJpegQ := ongoingJpegQ.dequeueLast.2 }.releaseJpegJobData job
    | (false, _), _ => s.releaseJpegJobData job

def processNextRaw (fate : RawEnd) (s : PostProc) : PostProc :=
  match s.inputRawQ.dequeue with
  | (none, inputRawQ) => { s with inputRawQ }
  | (some frame, inputRawQ) =>
    let s := { s with inputRawQ }
    match fate with
    | .notified => { s with rawNotifies := s.rawNotifies ++ [frame] }
    | .done => s
    | .fails => s.dispose true (some frame)
    -- `releaseNotifyData` has released it when the error comes back
    | .notifyFails => (s.dispose true (some frame)).dispose true (some frame)

structure NextJobEnv where
  fate : EncodeEnd := .started 1
  jpegNodeOk : Bool := true
  rawFate : RawEnd := .notified
  reprocess : ReprocessEnv := {}

def releaseNextJpeg (s : PostProc) : PostProc :=
  match s.inputJpegQ.dequeue with
  | (none, inputJpegQ) => { s with inputJpegQ }
  | (some job, inputJpegQ) => { s with inputJpegQ }.releaseJpegJobData job

def releaseNextRaw (s : PostProc) : PostProc :=
  match s.inputRawQ.dequeue with
  | (none, inputRawQ) => { s with inputRawQ }
  | (some frame, inputRawQ) => { s with inputRawQ }.dispose true (some frame)

def doNextJob (env : NextJobEnv) (s : PostProc) : PostProc :=
  if s.isActive then
    (((s.encodeNext env.fate env.jpegNodeOk).processNextRaw env.rawFate).doReprocess env.reprocess).2
  else s.releaseNextJpeg.releaseNextRaw.flushInputPPQ

def startDataProc (s : PostProc) : PostProc :=
  { s with
    isActive := true
    ongoingPPQ := s.ongoingPPQ.init
    inputJpegQ := s.inputJpegQ.init
    inputPPQ := s.inputPPQ.init
    inputRawQ := s.inputRawQ.init }

/-- The jobs in `m_ongoingJpegQ` are taken from it one by one, aborted and released. -/
def abortOngoing (s : PostProc) : PostProc :=
  if s.ongoingJpegQ.active then
    s.ongoingJpegQ.nodes.foldl (fun s job => s.releaseJpegJobData job)
      { s with ongoingJpegQ := { s.ongoingJpegQ with nodes := [] } }
  else s

def stopDataProc (s : PostProc) : PostProc :=
  { s with isActive := false }.abortOngoing.flushOngoingPPQ.flushInputJpegQ.flushInputPPQ.flushInputRawQ

def matchJobId (jobId : UInt32) (job : JpegJob) : Bool := job.jobId = jobId

def processJpegEvt (jobId : UInt32) (s : PostProc) : PostProc :=
  let (jobs, ongoingJpegQ) := s.ongoingJpegQ.flushNodes (matchJobId jobId)
  jobs.foldl (fun s job => s.releaseJpegJobData job) { s with ongoingJpegQ }

/-- `releaseNotifyData`. -/
def releaseNotify (frame : SuperBuf) (s : PostProc) : PostProc :=
  { s with rawNotifies := s.rawNotifies.erase frame }.dispose true (some frame)

def takeFrame (frame : SuperBuf) (s : PostProc) : PostProc := { s with passed := s.passed ++ [frame] }

/-- The first result that the channel owes is no longer owed. -/
def takeAnswer (channel : Nat) (s : PostProc) : PostProc :=
  { s with answers := s.answers.eraseP fun answer => answer.channel = channel }

def forgetRequests (s : PostProc) : PostProc :=
  { s with answers := s.answers.map fun answer => { answer with queued := false }, refused := [] }

/-- `processPPData` is called for a result of the channel with the number `channel`. -/
inductive PostProcOp where
  | processData (env : DataEnv) (frame : SuperBuf)
  | processRawData (frame : SuperBuf) (nodeOk : Bool)
  | processPPData (env : ResultEnv) (channel : Nat) (frame : SuperBuf)
  | doNextJob (env : NextJobEnv)
  | startDataProc
  | stopDataProc
  | processJpegEvt (jobId : UInt32)
  | releaseNotify (frame : SuperBuf)

def step (s : PostProc) : PostProcOp → Option PostProc
  | .processData env frame => some ((s.takeFrame frame).processData env frame).2
  | .processRawData frame nodeOk => some ((s.takeFrame frame).processRawData frame nodeOk)
  | .processPPData env channel frame =>
    some (((s.takeFrame frame).takeAnswer channel).processPPData env frame).2
  | .doNextJob env => some (s.doNextJob env)
  | .startDataProc => some s.startDataProc
  | .stopDataProc => some s.stopDataProc.forgetRequests
  | .processJpegEvt jobId => some (s.processJpegEvt jobId)
  | .releaseNotify frame => some (s.releaseNotify frame)

variable {s : PostProc}

/-- Frames were passed to `releaseSuperBuf`, and frames were freed. -/
def gave (s : PostProc) (released freed : List SuperBuf) : PostProc :=
  { s with released := s.released ++ released, freed := s.freed ++ freed }

theorem gave_nil : s.gave [] [] = s := by
  unfold gave
  rw [List.append_nil, List.append_nil]

theorem gave_gave (released freed released' freed' : List SuperBuf) :
    (s.gave released freed).gave released' freed' = s.gave (released ++ released') (freed ++ freed') := by
  unfold gave
  simp only [List.append_assoc]

end PostProc

/-- The frames of a request, the source frame of a first pass once. -/
def PpRequest.frames (job : PpRequest) : List SuperBuf :=
  job.srcFrame.toList ++ if job.srcFrame = job.srcReprocFrame then [] else job.srcReprocFrame.toList

def PpData.frames (job : PpData) : List SuperBuf :=
  job.srcFrame.toList ++ if job.srcFrame = job.srcReprocFrame then [] else job.srcReprocFrame.toList

def PpData.givesBack (job : PpData) : List SuperBuf :=
  (if job.reprocFrameRelease then [] else job.srcFrame.toList) ++
    if job.srcFrame = job.srcReprocFrame then [] else job.srcReprocFrame.toList

def JpegJob.frames (job : JpegJob) : List SuperBuf := job.srcReprocFrame.toList ++ job.srcFrame.toList

def JpegJob.givesBack (job : JpegJob) : List SuperBuf :=
  (if job.reprocFrameRelease then [] else job.srcReprocFrame.toList) ++ job.srcFrame.toList

namespace PostProc

variable {s : PostProc}

theorem dispose_eq (release : Bool) (superBuf : Option SuperBuf) :
    s.dispose release superBuf = s.gave (if release then superBuf.toList else []) superBuf.toList := by
  cases superBuf with
  | none =>
    cases release with
    | false => exact gave_nil.symm
    | true => exact gave_nil.symm
  | some f =>
    cases release with
    | false =>
      unfold dispose gave free
      simp
    | true => rfl

theorem releasePPInputData_eq (job : PpRequest) :
    s.releasePPInputData job = s.gave job.frames job.frames := by
  unfold releasePPInputData PpRequest.frames
  simp only [dispose_eq, gave_gave, if_true]
  split <;> rfl

theorem releaseOngoingPPData_eq (job : PpData) :
    s.releaseOngoingPPData job = s.gave job.givesBack job.frames := by
  unfold releaseOngoingPPData PpData.frames PpData.givesBack
  simp only [dispose_eq, gave_gave, if_true]
  grind

theorem releaseJpegJobData_eq (job : JpegJob) :
    s.releaseJpegJobData job = s.gave job.givesBack job.frames := by
  unfold releaseJpegJobData JpegJob.frames JpegJob.givesBack
  simp only [dispose_eq, gave_gave, if_true]
  grind

theorem foldl_gave {Job : Type} {release : PostProc → Job → PostProc} {givesBack frames : Job → List SuperBuf}
    (hone : ∀ s job, release s job = gave s (givesBack job) (frames job)) (jobs : List Job) (s : PostProc) :
    jobs.foldl release s = s.gave (jobs.flatMap givesBack) (jobs.flatMap frames) := by
  induction jobs generalizing s with
  | nil => exact gave_nil.symm
  | cons job jobs ih =>
    rw [List.foldl_cons, ih, hone, gave_gave, List.flatMap_cons, List.flatMap_cons]

theorem flushInputPPQ_eq : s.flushInputPPQ = { s with inputPPQ := s.inputPPQ.flush.2 }.gave
    (s.inputPPQ.flush.1.flatMap PpRequest.frames) (s.inputPPQ.flush.1.flatMap PpRequest.frames) :=
  foldl_gave (fun _ job => releasePPInputData_eq job) _ _

theorem flushOngoingPPQ_eq : s.flushOngoingPPQ = { s with ongoingPPQ := s.ongoingPPQ.flush.2 }.gave
    (s.ongoingPPQ.flush.1.flatMap PpData.givesBack) (s.ongoingPPQ.flush.1.flatMap PpData.frames) :=
  foldl_gave (fun _ job => releaseOngoingPPData_eq job) _ _

theorem flushInputJpegQ_eq : s.flushInputJpegQ = { s with inputJpegQ := s.inputJpegQ.flush.2 }.gave
    (s.inputJpegQ.flush.1.flatMap JpegJob.givesBack) (s.inputJpegQ.flush.1.flatMap JpegJob.frames) :=
  foldl_gave (fun _ job => releaseJpegJobData_eq job) _ _

theorem flushInputRawQ_eq : s.flushInputRawQ = { s with inputRawQ := s.inputRawQ.flush.2 }.gave
    s.inputRawQ.flush.1 s.inputRawQ.flush.1 := by
  have hfold := @foldl_gave SuperBuf (fun s frame => s.dispose true (some frame)) (fun f => [f])
    (fun f => [f]) (fun _ frame => dispose_eq true (some frame)) s.inputRawQ.flush.1
    { s with inputRawQ := s.inputRawQ.flush.2 }
  rw [List.flatMap_singleton'] at hfold
  exact hfold

theorem abortOngoing_eq : s.abortOngoing =
    { s with ongoingJpegQ := { s.ongoingJpegQ with
        nodes := if s.ongoingJpegQ.active then [] else s.ongoingJpegQ.nodes } }.gave
      (if s.ongoingJpegQ.active then s.ongoingJpegQ.nodes.flatMap JpegJob.givesBack else [])
      (if s.ongoingJpegQ.active then s.ongoingJpegQ.nodes.flatMap JpegJob.frames else []) := by
  unfold abortOngoing
  cases s.ongoingJpegQ.active with
  | true => exact foldl_gave (fun _ job => releaseJpegJobData_eq job) _ _
  | false => exact gave_nil.symm

theorem processJpegEvt_eq (jobId : UInt32) :
    s.processJpegEvt jobId =
      { s with ongoingJpegQ := (s.ongoingJpegQ.flushNodes (matchJobId jobId)).2 }.gave
        ((s.ongoingJpegQ.flushNodes (matchJobId jobId)).1.flatMap JpegJob.givesBack)
        ((s.ongoingJpegQ.flushNodes (matchJobId jobId)).1.flatMap JpegJob.frames) :=
  foldl_gave (fun _ job => releaseJpegJobData_eq job) _ _

end PostProc

end DeviceHal.Camera
