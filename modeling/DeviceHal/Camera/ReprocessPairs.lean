import DeviceHal.Camera.PostProc

namespace DeviceHal.Camera

open Lib

namespace PostProc

variable {s t : PostProc}

def nextAnswer (channel : Nat) (s : PostProc) : Option PpAnswer :=
  s.answers.find? fun answer => answer.channel = channel

/-- A channel gives results for the requests that it accepted only. -/
def Answered (s : PostProc) : PostProcOp → Prop
  | .processPPData _ channel _ => (s.nextAnswer channel).isSome
  | _ => True

/-- A result takes the job of its request, and a jpeg job that is queued for it has the source frame
and the metadata of that request. -/
def PairsRight (s : PostProc) : PostProcOp → Prop
  | .processPPData env channel frame => ∀ a, s.nextAnswer channel = some a →
      s.ongoingPPQ.dequeue.1.map PpData.request = some a.request ∧
      ∀ jpegJob,
        (s.processPPData env frame).2.inputJpegQ.nodes = s.inputJpegQ.nodes ++ [jpegJob] →
        jpegJob.srcReprocFrame = some a.source ∧ jpegJob.metadata = a.source.metadata.or frame.metadata
  | _ => True

def GoesToJpeg (env : ResultEnv) (a : PpAnswer) (s : PostProc) : Prop :=
  (env.needSuperBufMatch = true ∨ a.extra = false ∧ env.yuvFormat = false) ∧
    env.totalNumReproc ≤ a.channel + 1 ∧ env.allocOk = true ∧ env.nodeOk = true ∧
    s.inputJpegQ.active = true

/-- Of the results that have a job in `m_ongoingPPQ` the one that comes was accepted first, and no
request before it was refused with its job left in the queue. If it goes to the encoder it is no extra
result, and with advanced features its metadata is the entry that the count of results selects. -/
def InStep (s : PostProc) : PostProcOp → Prop
  | .processPPData env channel frame => ∀ a, s.nextAnswer channel = some a →
      (s.answers.find? fun answer => answer.queued) = some a ∧
      (∀ request ∈ s.refused, a.request < request) ∧
      (GoesToJpeg env a s → a.extra = false ∧ (env.advCamFeatures = true →
        s.inputMetadata[env.exifBufIndex s.ppIndex]? = a.source.metadata.or frame.metadata))
  | _ => True

/-- The job is the one queued for the result. -/
structure Fits (job : PpData) (a : PpAnswer) : Prop where
  request : job.request = a.request
  pass : job.reprocCount = a.channel + 1
  frames : if a.extra then job.srcFrame = none ∧ job.srcReprocFrame = none
    else job.srcFrame.isSome = true ∧ job.srcReprocFrame = some a.source

/-- Without the jobs of refused requests, `m_ongoingPPQ` has the jobs of the results that are owed and
have one, in their order. -/
structure Aligned (s : PostProc) : Prop where
  active : s.ongoingPPQ.nodes ≠ [] → s.ongoingPPQ.active = true
  fits : List.Forall₂ Fits (s.ongoingPPQ.nodes.filter fun job => job.request ∉ s.refused)
    (s.answers.filter fun answer => answer.queued)
  sorted : s.ongoingPPQ.nodes.Pairwise fun job later => job.request ≤ later.request
  jobsBelow : ∀ job ∈ s.ongoingPPQ.nodes, job.request < s.nextRequest
  answersBelow : ∀ a ∈ s.answers, a.request < s.nextRequest
  refusedBelow : ∀ request ∈ s.refused, request < s.nextRequest
  kept : ∀ request ∈ s.refused, ∃ job ∈ s.ongoingPPQ.nodes, job.request = request
  apart : ∀ a ∈ s.answers, a.request ∉ s.refused
  blocks : s.answers.Pairwise fun a later => a.request = later.request →
    a.channel = later.channel ∧ (later.queued = true → a.queued = true)

/-- The requests that were made, their jobs and their results are the same. -/
structure SamePairing (s t : PostProc) : Prop where
  ongoingPPQ : t.ongoingPPQ = s.ongoingPPQ
  answers : t.answers = s.answers
  refused : t.refused = s.refused
  nextRequest : t.nextRequest = s.nextRequest

theorem SamePairing.refl (s : PostProc) : SamePairing s s := ⟨rfl, rfl, rfl, rfl⟩

theorem SamePairing.trans {u : PostProc} (h : SamePairing s t) (later : SamePairing t u) :
    SamePairing s u :=
  ⟨later.ongoingPPQ.trans h.ongoingPPQ, later.answers.trans h.answers, later.refused.trans h.refused,
    later.nextRequest.trans h.nextRequest⟩

theorem Aligned.of_same (h : Aligned s) (same : SamePairing s t) : Aligned t := by
  obtain ⟨hjobs, hanswers, hrefused, hnext⟩ := same
  constructor
  case active => rw [hjobs]; exact h.active
  case fits => rw [hjobs, hanswers, hrefused]; exact h.fits
  case sorted => rw [hjobs]; exact h.sorted
  case jobsBelow => rw [hjobs, hnext]; exact h.jobsBelow
  case answersBelow => rw [hanswers, hnext]; exact h.answersBelow
  case refusedBelow => rw [hrefused, hnext]; exact h.refusedBelow
  case kept => rw [hjobs, hrefused]; exact h.kept
  case apart => rw [hanswers, hrefused]; exact h.apart
  case blocks => rw [hanswers]; exact h.blocks

theorem same_gave (released freed : List SuperBuf) : SamePairing s (s.gave released freed) :=
  ⟨rfl, rfl, rfl, rfl⟩

theorem same_dispose (release : Bool) (superBuf : Option SuperBuf) :
    SamePairing s (s.dispose release superBuf) := by
  rw [dispose_eq]
  exact same_gave _ _

theorem same_processRawData (frame : SuperBuf) (nodeOk : Bool) :
    SamePairing s (s.processRawData frame nodeOk) := by
  unfold processRawData
  split
  next => exact ⟨rfl, rfl, rfl, rfl⟩
  next => exact same_dispose true _

theorem same_processData (env : DataEnv) (frame : SuperBuf) :
    SamePairing s (s.processData env frame).2 := by
  unfold processData
  dsimp only
  split
  · split
    · exact SamePairing.refl s
    · split
      next => exact ⟨rfl, rfl, rfl, rfl⟩
      next =>
        rw [dispose_eq]
        exact same_gave _ _
  · split
    · exact same_processRawData frame _
    · split
      · exact SamePairing.refl s
      · split
        next => exact ⟨rfl, rfl, rfl, rfl⟩
        next =>
          rw [releaseJpegJobData_eq]
          exact same_gave _ _

theorem same_processResult (env : ResultEnv) (frame : SuperBuf) (job : PpData) :
    SamePairing s (s.processResult env frame job).2 := by
  have hfirst : SamePairing s (if 1 < job.reprocCount then s.dispose true job.srcFrame else s) := by
    split
    · exact same_dispose true _
    · exact SamePairing.refl s
  unfold processResult
  dsimp only
  generalize (if 1 < job.reprocCount then s.dispose true job.srcFrame else s) = u at hfirst
  refine hfirst.trans ?_
  split
  · split
    · exact SamePairing.refl u
    · split
      next => exact ⟨rfl, rfl, rfl, rfl⟩
      next =>
        rw [releasePPInputData_eq]
        exact same_gave _ _
  · split
    · exact SamePairing.refl u
    · have hcount : SamePairing u
          (if env.advCamFeatures then { u with ppIndex := u.ppIndex + 1 } else u) := by
        split
        · exact ⟨rfl, rfl, rfl, rfl⟩
        · exact SamePairing.refl u
      generalize (if env.advCamFeatures then _ else u) = v at hcount ⊢
      refine hcount.trans ?_
      split
      next => exact ⟨rfl, rfl, rfl, rfl⟩
      next =>
        rw [releaseJpegJobData_eq]
        exact same_gave _ _

theorem same_processPPData (env : ResultEnv) (frame : SuperBuf) :
    SamePairing { s with ongoingPPQ := s.ongoingPPQ.dequeue.2 } (s.processPPData env frame).2 := by
  unfold processPPData
  split
  next hempty =>
    refine ⟨?_, rfl, rfl, rfl⟩
    exact (QCameraQueue.dequeue_none (congrArg Prod.fst hempty)).symm
  next job ongoingPPQ hdeq =>
    dsimp only
    rw [hdeq]
    split
    · exact SamePairing.refl _
    · split
      · rw [releaseOngoingPPData_eq]
        exact SamePairing.trans (same_gave _ _) (same_processRawData frame env.nodeOk)
      · exact same_processResult env frame job

theorem same_processJpegEvt (jobId : UInt32) : SamePairing s (s.processJpegEvt jobId) := by
  rw [processJpegEvt_eq]
  exact ⟨rfl, rfl, rfl, rfl⟩

theorem same_flushInputJpegQ : SamePairing s s.flushInputJpegQ := by
  rw [flushInputJpegQ_eq]
  exact ⟨rfl, rfl, rfl, rfl⟩

theorem same_flushInputPPQ : SamePairing s s.flushInputPPQ := by
  rw [flushInputPPQ_eq]
  exact ⟨rfl, rfl, rfl, rfl⟩

theorem same_flushInputRawQ : SamePairing s s.flushInputRawQ := by
  rw [flushInputRawQ_eq]
  exact ⟨rfl, rfl, rfl, rfl⟩

theorem same_encodeNext (fate : EncodeEnd) (nodeOk : Bool) :
    SamePairing s (s.encodeNext fate nodeOk) := by
  unfold encodeNext
  split
  next => exact ⟨rfl, rfl, rfl, rfl⟩
  next =>
    dsimp only
    split
    next => exact ⟨rfl, rfl, rfl, rfl⟩
    next =>
      rw [releaseJpegJobData_eq]
      exact ⟨rfl, rfl, rfl, rfl⟩
    next =>
      rw [releaseJpegJobData_eq]
      exact ⟨rfl, rfl, rfl, rfl⟩

theorem same_processNextRaw (fate : RawEnd) : SamePairing s (s.processNextRaw fate) := by
  unfold processNextRaw
  split
  next => exact ⟨rfl, rfl, rfl, rfl⟩
  next inputRawQ _ =>
    have htaken : SamePairing s { s with inputRawQ } := ⟨rfl, rfl, rfl, rfl⟩
    refine htaken.trans ?_
    cases fate with
    | notified => exact ⟨rfl, rfl, rfl, rfl⟩
    | done => exact SamePairing.refl _
    | fails => exact same_dispose true _
    | notifyFails => exact (same_dispose true _).trans (same_dispose true _)

theorem same_releaseNextJpeg : SamePairing s s.releaseNextJpeg := by
  unfold releaseNextJpeg
  split
  next => exact ⟨rfl, rfl, rfl, rfl⟩
  next =>
    rw [releaseJpegJobData_eq]
    exact ⟨rfl, rfl, rfl, rfl⟩

theorem same_releaseNextRaw : SamePairing s s.releaseNextRaw := by
  unfold releaseNextRaw
  split
  next => exact ⟨rfl, rfl, rfl, rfl⟩
  next =>
    rw [dispose_eq]
    exact ⟨rfl, rfl, rfl, rfl⟩

theorem queueExtras_queue (env : ReprocessEnv) (extra : PpData) (n i : Nat) (q : QCameraQueue PpData)
    (active : q.active = true) : ∃ m ≤ n, (queueExtras env extra n i q).2 =
      (i + m, { q with nodes := q.nodes ++ List.replicate m extra }) := by
  induction n generalizing i q with
  | zero => exact ⟨0, Nat.le_refl 0, by simp [queueExtras]⟩
  | succ n ih =>
    unfold queueExtras
    by_cases halloc : env.extraAlloc i = true
    · by_cases hnode : env.extraNode i = true
      · have hroom : q.enqueue extra (env.extraNode i) =
            (true, { q with nodes := q.nodes ++ [extra] }) :=
          if_pos (Bool.and_eq_true_iff.mpr ⟨hnode, active⟩)
        obtain ⟨m, hm, heq⟩ := ih (i + 1) { q with nodes := q.nodes ++ [extra] } active
        refine ⟨m + 1, by omega, ?_⟩
        grind
      · have hfull : q.enqueue extra (env.extraNode i) = (false, q) :=
          if_neg fun hroom => hnode (Bool.and_eq_true_iff.mp hroom).1
        exact ⟨0, by omega, by simp [halloc, hfull]⟩
    · exact ⟨0, by omega, by simp [halloc]⟩

/-- The job of a request is queued, with `n` place-holders behind it. -/
structure QueuesJob (job : PpData) (n : Nat) (s t : PostProc) : Prop where
  active : s.ongoingPPQ.active = true
  ongoingPPQ : t.ongoingPPQ = { s.ongoingPPQ with
    nodes := s.ongoingPPQ.nodes ++ job :: List.replicate n (extraPpJob job) }
  nextRequest : t.nextRequest = s.nextRequest + 1

theorem startReprocess_cases (env : ReprocessEnv) (channel : Nat) (source : SuperBuf) (job : PpData)
    (s : PostProc) : ∃ t, (s.startReprocess env channel source job).2 = t ∧
      (t.ongoingPPQ = s.ongoingPPQ ∧ t.answers = s.answers ∧ t.refused = s.refused ∧
          t.nextRequest = s.nextRequest + 1 ∨
        ∃ n, QueuesJob job n s t ∧
          (t.answers = s.answers ∧ t.refused = s.refused ++ [job.request] ∨
            ∃ extras, n ≤ extras ∧ t.refused = s.refused ∧
              t.answers = s.answers ++ answersOf channel job.request source extras n)) := by
  refine ⟨_, rfl, ?_⟩
  unfold startReprocess
  dsimp only
  by_cases hroom : (env.nodeOk && s.ongoingPPQ.active) = true
  · right
    have hactive : s.ongoingPPQ.active = true := (Bool.and_eq_true_iff.mp hroom).2
    unfold QCameraQueue.enqueue
    rw [if_pos hroom]
    dsimp only
    generalize (if env.regularCapture = true then 0 else _) = extras
    obtain ⟨n, hn, heq⟩ := queueExtras_queue env (extraPpJob job) extras 0
      { s.ongoingPPQ with nodes := s.ongoingPPQ.nodes ++ [job] } hactive
    rw [Nat.zero_add, List.append_assoc, List.singleton_append] at heq
    refine ⟨n, ?_⟩
    split
    next fate q hend =>
      rw [hend] at heq
      obtain ⟨rfl, rfl⟩ := Prod.mk.inj heq
      exact ⟨⟨hactive, rfl, rfl⟩, Or.inl ⟨rfl, rfl⟩⟩
    next fate k q hend hnot =>
      rw [hnot] at heq
      obtain ⟨rfl, rfl⟩ := Prod.mk.inj heq
      unfold callChannel
      split
      · exact ⟨⟨hactive, rfl, rfl⟩, Or.inr ⟨extras, hn, rfl, rfl⟩⟩
      · exact ⟨⟨hactive, rfl, rfl⟩, Or.inl ⟨rfl, rfl⟩⟩
  · left
    unfold QCameraQueue.enqueue
    rw [if_neg hroom, releaseOngoingPPData_eq]
    exact ⟨rfl, rfl, rfl, rfl⟩

theorem queued_answersOf (channel request : Nat) (source : SuperBuf) {extras n : Nat}
    (hn : n ≤ extras) : ((answersOf channel request source extras n).filter fun a => a.queued) =
      ⟨channel, request, source, false, true⟩ ::
        List.replicate n ⟨channel, request, source, true, true⟩ := by
  obtain ⟨rest, rfl⟩ := Nat.exists_eq_add_of_le hn
  have hfirst : (((List.range n).map fun i =>
      (⟨channel, request, source, true, i < n⟩ : PpAnswer)).filter fun a => a.queued) =
        List.replicate n ⟨channel, request, source, true, true⟩ := by
    refine List.eq_replicate_iff.mpr ⟨?_, fun a ha => ?_⟩
    · simp [List.filter_eq_self.mpr, List.length_map, List.length_range]
    · grind
  have hlast : ((((List.range rest).map (n + ·)).map fun i =>
      (⟨channel, request, source, true, i < n⟩ : PpAnswer)).filter fun a => a.queued) = [] := by
    refine List.filter_eq_nil_iff.mpr fun a ha => ?_
    obtain ⟨i, hi, rfl⟩ := List.mem_map.mp ha
    obtain ⟨k, -, rfl⟩ := List.mem_map.mp hi
    simp
  unfold answersOf
  rw [List.filter_cons_of_pos rfl, List.range_add, List.map_append, List.filter_append, hfirst, hlast,
    List.append_nil]

variable {a : PpAnswer}

theorem answersOf_request {channel request extras n : Nat} {source : SuperBuf}
    (ha : a ∈ answersOf channel request source extras n) : a.request = request := by
  rcases List.mem_cons.mp ha with rfl | ha
  · rfl
  · obtain ⟨i, -, rfl⟩ := List.mem_map.mp ha
    rfl

theorem blocks_answersOf (channel request : Nat) (source : SuperBuf) (extras n : Nat) :
    (answersOf channel request source extras n).Pairwise fun a later => a.request = later.request →
      a.channel = later.channel ∧ (later.queued = true → a.queued = true) := by
  refine List.Pairwise.cons (fun a ha _ => ?_) (List.pairwise_map.mpr ?_)
  · grind
  · refine List.pairwise_lt_range.imp fun hlt _ => ⟨rfl, fun hqueued => ?_⟩
    grind

variable {job : PpData}

theorem Aligned.queues {n : Nat} (h : Aligned s) (hq : QueuesJob job n s t)
    (hnew : job.request = s.nextRequest) :
    (t.ongoingPPQ.nodes ≠ [] → t.ongoingPPQ.active = true) ∧
      (t.ongoingPPQ.nodes.Pairwise fun job later => job.request ≤ later.request) ∧
      (∀ job ∈ t.ongoingPPQ.nodes, job.request < t.nextRequest) := by
  have hblock : ∀ j ∈ job :: List.replicate n (extraPpJob job), j.request = s.nextRequest := by
    intro j hj
    rcases List.mem_cons.mp hj with rfl | hj
    · exact hnew
    · rw [List.eq_of_mem_replicate hj]
      exact hnew
  rw [hq.ongoingPPQ, hq.nextRequest]
  refine ⟨fun _ => hq.active, List.pairwise_append.mpr ⟨h.sorted, ?_, ?_⟩, ?_⟩
  · refine List.Pairwise.imp_of_mem ?_ (List.pairwise_of_forall fun _ _ => trivial)
    grind
  · intro j hj k hk
    rw [hblock k hk]
    exact Nat.le_of_lt (h.jobsBelow j hj)
  · intro j hj
    rcases List.mem_append.mp hj with hj | hj
    · exact Nat.lt_succ_of_lt (h.jobsBelow j hj)
    · rw [hblock j hj]
      exact Nat.lt_succ_self _

theorem Aligned.refuse {n : Nat} (h : Aligned s) (hq : QueuesJob job n s t)
    (hnew : job.request = s.nextRequest) (hanswers : t.answers = s.answers)
    (hrefused : t.refused = s.refused ++ [job.request]) : Aligned t := by
  obtain ⟨hactive, hsorted, hbelow⟩ := h.queues hq hnew
  have hnodes : t.ongoingPPQ.nodes =
      s.ongoingPPQ.nodes ++ job :: List.replicate n (extraPpJob job) := by rw [hq.ongoingPPQ]
  refine ⟨hactive, ?_, hsorted, hbelow, ?_, ?_, ?_, ?_, ?_⟩
  · have hold : (s.ongoingPPQ.nodes.filter fun job => job.request ∉ t.refused) =
        s.ongoingPPQ.nodes.filter fun job => job.request ∉ s.refused := by
      refine List.filter_congr fun j hj => ?_
      have hne : j.request ≠ s.nextRequest := Nat.ne_of_lt (h.jobsBelow j hj)
      simp [hrefused, hnew, hne]
    have hblock : ((job :: List.replicate n (extraPpJob job)).filter fun job =>
        job.request ∉ t.refused) = [] := by
      refine List.filter_eq_nil_iff.mpr fun j hj => ?_
      rcases List.mem_cons.mp hj with rfl | hj
      · simp [hrefused]
      · rw [List.eq_of_mem_replicate hj]
        simp [hrefused, extraPpJob]
    rw [hnodes, List.filter_append, hold, hblock, List.append_nil, hanswers]
    exact h.fits
  · rw [hanswers, hq.nextRequest]
    exact fun a ha => Nat.lt_succ_of_lt (h.answersBelow a ha)
  · rw [hrefused, hq.nextRequest]
    intro request hr
    rcases List.mem_append.mp hr with hr | hr
    · exact Nat.lt_succ_of_lt (h.refusedBelow request hr)
    · rw [List.mem_singleton.mp hr, hnew]
      exact Nat.lt_succ_self _
  · rw [hrefused, hnodes]
    intro request hr
    rcases List.mem_append.mp hr with hr | hr
    · obtain ⟨j, hj, heq⟩ := h.kept request hr
      exact ⟨j, List.mem_append_left _ hj, heq⟩
    grind
  · rw [hanswers, hrefused]
    intro a ha hr
    rcases List.mem_append.mp hr with hr | hr
    · exact h.apart a ha hr
    · exact Nat.ne_of_lt (h.answersBelow a ha) ((List.mem_singleton.mp hr).trans hnew)
  · rw [hanswers]
    exact h.blocks

theorem Aligned.accept {n extras channel : Nat} {source : SuperBuf} (h : Aligned s)
    (hq : QueuesJob job n s t) (hnew : job.request = s.nextRequest)
    (hpass : job.reprocCount = channel + 1) (hframe : job.srcFrame.isSome = true)
    (hsource : job.srcReprocFrame = some source) (hn : n ≤ extras) (hrefused : t.refused = s.refused)
    (hanswers : t.answers = s.answers ++ answersOf channel job.request source extras n) :
    Aligned t := by
  obtain ⟨hactive, hsorted, hbelow⟩ := h.queues hq hnew
  have hnodes : t.ongoingPPQ.nodes =
      s.ongoingPPQ.nodes ++ job :: List.replicate n (extraPpJob job) := by rw [hq.ongoingPPQ]
  have hfresh : job.request ∉ s.refused := by
    intro hr
    exact Nat.lt_irrefl _ (hnew ▸ h.refusedBelow _ hr)
  refine ⟨hactive, ?_, hsorted, hbelow, ?_, ?_, ?_, ?_, ?_⟩
  · have hblock : ((job :: List.replicate n (extraPpJob job)).filter fun job =>
        job.request ∉ s.refused) = job :: List.replicate n (extraPpJob job) := by
      refine List.filter_eq_self.mpr fun j hj => ?_
      rcases List.mem_cons.mp hj with rfl | hj
      · exact decide_eq_true hfresh
      · rw [List.eq_of_mem_replicate hj]
        exact decide_eq_true hfresh
    rw [hnodes, hrefused, hanswers, List.filter_append, List.filter_append, hblock,
      queued_answersOf channel job.request source hn]
    refine List.rel_append h.fits (List.Forall₂.cons ⟨rfl, hpass, ⟨hframe, hsource⟩⟩ ?_)
    clear hq hnodes hblock hanswers hn
    induction n with
    | zero => exact List.Forall₂.nil
    | succ n ih => exact List.Forall₂.cons ⟨rfl, hpass, ⟨rfl, rfl⟩⟩ ih
  · rw [hanswers, hq.nextRequest]
    intro a ha
    rcases List.mem_append.mp ha with ha | ha
    · exact Nat.lt_succ_of_lt (h.answersBelow a ha)
    · rw [answersOf_request ha, hnew]
      exact Nat.lt_succ_self _
  · rw [hrefused, hq.nextRequest]
    exact fun request hr => Nat.lt_succ_of_lt (h.refusedBelow request hr)
  · rw [hrefused, hnodes]
    intro request hr
    obtain ⟨j, hj, heq⟩ := h.kept request hr
    exact ⟨j, List.mem_append_left _ hj, heq⟩
  · rw [hanswers, hrefused]
    intro a ha
    rcases List.mem_append.mp ha with ha | ha
    · exact h.apart a ha
    · rw [answersOf_request ha]
      exact hfresh
  · rw [hanswers]
    refine List.pairwise_append.mpr ⟨h.blocks, blocks_answersOf _ _ _ _ _, ?_⟩
    intro a ha later hlater hsame
    have hlt : a.request < s.nextRequest := h.answersBelow a ha
    rw [hsame, answersOf_request hlater, hnew] at hlt
    exact absurd hlt (Nat.lt_irrefl _)

theorem filter_eraseP {α : Type} {p q : α → Bool} {a : α} {l : List α} (hp : l.find? p = some a)
    (hq : l.find? q = some a) : (l.eraseP p).filter q = (l.filter q).tail := by
  induction l with
  | nil => cases hp
  | cons x l ih =>
    have hpa : p a = true := List.find?_some hp
    have hqa : q a = true := List.find?_some hq
    by_cases hpx : p x = true
    · grind
    · have hqx : ¬q x = true := by
        intro hqx
        rw [List.find?_cons_of_pos hqx] at hq
        exact hpx (Option.some.inj hq ▸ hpa)
      grind

theorem find?_unique {α : Type} {p q : α → Bool} {a b : α} {l : List α} (hp : l.find? p = some a)
    (hq : l.find? q = some b) (ha : q a = true) (hb : p b = true) : a = b := by
  induction l with
  | nil => cases hp
  | cons x l ih =>
    by_cases hpx : p x = true
    · grind
    · grind

theorem rel_of_find? {α : Type} {R : α → α → Prop} {p : α → Bool} {a b : α} {l : List α}
    (hp : l.find? p = some a) (hl : l.Pairwise R) (hb : b ∈ l) (hpb : p b = true) : a = b ∨ R a b := by
  obtain ⟨-, before, after, rfl, hnone⟩ := List.find?_eq_some_iff_append.mp hp
  rcases List.mem_append.mp hb with hm | hm
  · have hout := hnone b hm
    rw [hpb] at hout
    cases hout
  · rcases List.mem_cons.mp hm with rfl | hm
    · exact Or.inl rfl
    · exact Or.inr (List.rel_of_pairwise_cons (List.pairwise_append.mp hl).2.1 hm)

theorem Aligned.head (h : Aligned s)
    (hfirst : (s.answers.find? fun answer => answer.queued) = some a)
    (hrefused : ∀ request ∈ s.refused, a.request < request) :
    ∃ job rest, s.ongoingPPQ.nodes = job :: rest ∧ job.request ∉ s.refused ∧ Fits job a := by
  have hfits := h.fits
  obtain ⟨later, hlater⟩ : ∃ later, (s.answers.filter fun answer => answer.queued) = a :: later := by
    rw [← List.head?_filter] at hfirst
    exact List.head?_eq_some_iff.mp hfirst
  rw [hlater] at hfits
  obtain ⟨job, jobs, hjob, -, hjobs⟩ := List.forall₂_cons_right_iff.mp hfits
  have hmem : job ∈ s.ongoingPPQ.nodes.filter fun job => job.request ∉ s.refused := by
    rw [hjobs]
    exact List.mem_cons_self
  obtain ⟨first, rest, hnodes⟩ := List.exists_cons_of_ne_nil
    (List.ne_nil_of_mem (List.mem_filter.mp hmem).1)
  refine ⟨first, rest, hnodes, ?_⟩
  have hkept : first.request ∉ s.refused := by
    intro hr
    have hle : first.request ≤ job.request := by
      have hsorted := h.sorted
      rw [hnodes] at hsorted hmem
      rcases List.mem_cons.mp (List.mem_filter.mp hmem).1 with rfl | hm
      · exact Nat.le_refl _
      · exact List.rel_of_pairwise_cons hsorted hm
    have hlt := hrefused first.request hr
    rw [← hjob.request] at hlt
    omega
  grind

theorem Aligned.result {channel : Nat} (h : Aligned s) (hnext : s.nextAnswer channel = some a)
    (hfirst : (s.answers.find? fun answer => answer.queued) = some a)
    (hrefused : ∀ request ∈ s.refused, a.request < request)
    (hjobs : t.ongoingPPQ = s.ongoingPPQ.dequeue.2) (hanswers : t.answers = (s.takeAnswer channel).answers)
    (hsame : t.refused = s.refused) (hnum : t.nextRequest = s.nextRequest) : Aligned t := by
  obtain ⟨job, rest, hnodes, hkept, hjob⟩ := h.head hfirst hrefused
  have hactive : s.ongoingPPQ.active = true := h.active (by rw [hnodes]; exact List.cons_ne_nil _ _)
  have htail : t.ongoingPPQ = { s.ongoingPPQ with nodes := rest } := by
    rw [hjobs]
    unfold QCameraQueue.dequeue
    rw [if_pos hactive, hnodes]
    rfl
  have hsub : t.answers.Sublist s.answers := by
    rw [hanswers]
    exact List.eraseP_sublist
  have hmem : ∀ j ∈ rest, j ∈ s.ongoingPPQ.nodes := by
    rw [hnodes]
    exact fun j hj => List.mem_cons_of_mem _ hj
  constructor
  case active => exact fun _ => by rw [htail]; exact hactive
  case fits =>
    have hfits := h.fits
    rw [hnodes, List.filter_cons, if_pos (decide_eq_true hkept)] at hfits
    rw [htail, hsame, hanswers]
    unfold takeAnswer
    rw [filter_eraseP hnext hfirst]
    rw [← List.drop_one]
    exact List.forall₂_drop 1 hfits
  case sorted =>
    have hsorted := h.sorted
    rw [hnodes] at hsorted
    rw [htail]
    exact hsorted.of_cons
  case jobsBelow =>
    rw [htail, hnum]
    exact fun j hj => h.jobsBelow j (hmem j hj)
  case answersBelow =>
    rw [hnum]
    exact fun b hb => h.answersBelow b (hsub.subset hb)
  case refusedBelow =>
    rw [hsame, hnum]
    exact h.refusedBelow
  case kept =>
    rw [hsame, htail]
    intro request hr
    obtain ⟨j, hj, heq⟩ := h.kept request hr
    grind
  case apart =>
    rw [hsame]
    exact fun b hb => h.apart b (hsub.subset hb)
  case blocks => exact h.blocks.sublist hsub

theorem processResult_jpeg (env : ResultEnv) (frame : SuperBuf) (job : PpData) (jpegJob : JpegJob)
    (s : PostProc) :
    (s.processResult env frame job).2.inputJpegQ.nodes = s.inputJpegQ.nodes ++ [jpegJob] ↔
      (env.totalNumReproc ≤ job.reprocCount ∧ env.allocOk = true ∧ env.nodeOk = true ∧
        s.inputJpegQ.active = true) ∧ jpegJob = s.jpegJobOf env frame job := by
  have hnone : s.inputJpegQ.nodes ≠ s.inputJpegQ.nodes ++ [jpegJob] :=
    fun heq => List.cons_ne_nil _ _ (List.self_eq_append_right.mp heq)
  have hfirst : ∀ u, u = (if 1 < job.reprocCount then s.dispose true job.srcFrame else s) →
      u.inputJpegQ = s.inputJpegQ ∧ u.jpegJobOf env frame job = s.jpegJobOf env frame job := by
    rintro u rfl
    split
    · rw [dispose_eq]
      exact ⟨rfl, rfl⟩
    · exact ⟨rfl, rfl⟩
  unfold processResult
  dsimp only
  generalize hu : (if 1 < job.reprocCount then s.dispose true job.srcFrame else s) = u
  obtain ⟨hjpegQ, hjpegJob⟩ := hfirst u hu.symm
  rw [← hjpegQ] at hnone
  rw [← hjpegQ, ← hjpegJob]
  split
  next hless =>
    refine iff_of_false ?_ fun hgoes => absurd hgoes.1.1 (Nat.not_le.mpr hless)
    split
    · exact hnone
    · split
      next => exact hnone
      next =>
        rw [releasePPInputData_eq]
        exact hnone
  next hless =>
    split
    next halloc => grind
    next halloc =>
      have hcount : ∀ v, v = (if env.advCamFeatures then { u with ppIndex := u.ppIndex + 1 } else u) →
          v.inputJpegQ = u.inputJpegQ := by
        rintro v rfl
        split <;> rfl
      generalize hv : (if env.advCamFeatures then { u with ppIndex := u.ppIndex + 1 } else u) = v
      rw [hcount v hv.symm]
      unfold QCameraQueue.enqueue
      by_cases hroom : (env.nodeOk && u.inputJpegQ.active) = true
      · rw [if_pos hroom]
        obtain ⟨hnode, hactive⟩ := Bool.and_eq_true_iff.mp hroom
        simp only [List.append_cancel_left_eq, List.cons.injEq, and_true]
        grind
      · rw [if_neg hroom]
        refine iff_of_false ?_ fun hgoes =>
          hroom (Bool.and_eq_true_iff.mpr ⟨hgoes.1.2.2.1, hgoes.1.2.2.2⟩)
        rw [releaseJpegJobData_eq]
        intro heq
        exact hnone ((congrArg QCameraQueue.nodes (hcount v hv.symm)).symm.trans heq)

theorem processPPData_jpeg {env : ResultEnv} {frame : SuperBuf}
    {jpegJob : JpegJob} (htaken : s.ongoingPPQ.dequeue.1 = some job) (hjob : Fits job a) :
    (s.processPPData env frame).2.inputJpegQ.nodes = s.inputJpegQ.nodes ++ [jpegJob] ↔
      GoesToJpeg env a s ∧ jpegJob = s.jpegJobOf env frame job := by
  have hnone : s.inputJpegQ.nodes ≠ s.inputJpegQ.nodes ++ [jpegJob] :=
    fun heq => List.cons_ne_nil _ _ (List.self_eq_append_right.mp heq)
  have hframes : (job.srcFrame.isNone || job.srcReprocFrame.isNone) = a.extra := by
    have hf := hjob.frames
    cases hextra : a.extra with
    | true =>
      rw [hextra] at hf
      rw [hf.1, hf.2]
      rfl
    | false =>
      rw [hextra] at hf
      rw [hf.2, Option.isNone_eq_false_iff.mpr hf.1]
      rfl
  unfold GoesToJpeg processPPData
  rw [← hjob.pass]
  split
  next hempty =>
    rw [hempty] at htaken
    cases htaken
  next job' ongoingPPQ hdeq =>
    rw [hdeq] at htaken
    obtain rfl := Option.some.inj htaken
    dsimp only
    rw [hframes]
    split
    next hinvalid =>
      grind
    next hvalid =>
      split
      next hyuv =>
        obtain ⟨hmatch, hformat⟩ := Bool.and_eq_true_iff.mp hyuv
        refine iff_of_false ?_ fun hgoes => ?_
        · rw [releaseOngoingPPData_eq]
          unfold processRawData
          split
          next => exact hnone
          next =>
            rw [dispose_eq]
            exact hnone
        grind
      next hyuv =>
        have hway : env.needSuperBufMatch = true ∨ a.extra = false ∧ env.yuvFormat = false := by
          cases hmatch : env.needSuperBufMatch with
          | true => exact Or.inl rfl
          | false =>
            grind
        refine (processResult_jpeg env frame job' jpegJob { s with ongoingPPQ }).trans ?_
        constructor
        · exact fun hgoes => ⟨⟨hway, hgoes.1⟩, hgoes.2⟩
        · exact fun hgoes => ⟨hgoes.1.2, hgoes.2⟩

theorem Aligned.first_of_head {channel : Nat} {rest : List PpData}
    (h : Aligned s) (hnext : s.nextAnswer channel = some a) (hnodes : s.ongoingPPQ.nodes = job :: rest)
    (hrequest : job.request = a.request) :
    (s.answers.find? fun answer => answer.queued) = some a ∧
      ∀ request ∈ s.refused, a.request < request := by
  have hmem : a ∈ s.answers := List.mem_of_find?_eq_some hnext
  have hkept : job.request ∉ s.refused := hrequest ▸ h.apart a hmem
  constructor
  · have hfits := h.fits
    rw [hnodes, List.filter_cons, if_pos (decide_eq_true hkept)] at hfits
    obtain ⟨b, later, hjob, -, hlater⟩ := List.forall₂_cons_left_iff.mp hfits
    have hfirst : (s.answers.find? fun answer => answer.queued) = some b := by
      rw [← List.head?_filter, hlater]
      rfl
    have hsame : a.request = b.request := hrequest.symm.trans hjob.request
    have hb : b ∈ s.answers := List.mem_of_find?_eq_some hfirst
    have hchannel : a.channel = b.channel := by
      have hblocks : s.answers.Pairwise fun x y => x.request = y.request → x.channel = y.channel :=
        h.blocks.imp fun hrel heq => (hrel heq).1
      have hflip : s.answers.Pairwise fun x y => y.request = x.request → y.channel = x.channel :=
        hblocks.imp fun hrel heq => (hrel heq.symm).symm
      exact hblocks.forall_of_forall_of_flip (fun _ _ _ => rfl) hflip hmem hb hsame
    have hbefore : a = b := by
      have hpa : a.channel = channel := by simpa using List.find?_some hnext
      have hpb : decide (b.channel = channel) = true := decide_eq_true (hchannel.symm.trans hpa)
      rcases rel_of_find? hnext h.blocks hb hpb with rfl | hrel
      · rfl
      · exact find?_unique hnext hfirst ((hrel hsame).2 (List.find?_some hfirst)) hpb
    rw [hbefore]
    exact hfirst
  · intro request hr
    obtain ⟨later, hlater, rfl⟩ := h.kept request hr
    have hsorted := h.sorted
    rw [hnodes] at hsorted hlater
    rcases List.mem_cons.mp hlater with rfl | hm
    · exact absurd hr hkept
    · have hle := List.rel_of_pairwise_cons hsorted hm
      grind

theorem resultMetadata_of_fits {env : ResultEnv} {frame : SuperBuf}
    (hjob : Fits job a) (hextra : a.extra = false) : s.resultMetadata env frame job =
      if env.advCamFeatures then s.inputMetadata[env.exifBufIndex s.ppIndex]?
      else a.source.metadata.or frame.metadata := by
  have hframes := hjob.frames
  rw [hextra] at hframes
  unfold resultMetadata
  rw [hframes.2]
  rfl

theorem Aligned.pairsRight_iff (h : Aligned s) {op : PostProcOp} (howed : Answered s op) :
    PairsRight s op ↔ InStep s op := by
  cases op with
  | processPPData env channel frame =>
    obtain ⟨a, hnext⟩ := Option.isSome_iff_exists.mp howed
    constructor
    · intro hright b hb
      obtain rfl := Option.some.inj (hnext.symm.trans hb)
      obtain ⟨htaken, hjpeg⟩ := hright a hnext
      obtain ⟨job, hdeq, hrequest⟩ := Option.map_eq_some_iff.mp htaken
      obtain ⟨rest, hnodes⟩ : ∃ rest, s.ongoingPPQ.nodes = job :: rest := by
        unfold QCameraQueue.dequeue at hdeq
        split at hdeq
        · exact List.head?_eq_some_iff.mp hdeq
        · cases hdeq
      obtain ⟨hfirst, hrefused⟩ := h.first_of_head hnext hnodes hrequest
      refine ⟨hfirst, hrefused, fun hgoes => ?_⟩
      obtain ⟨job', rest', hnodes', -, hjob⟩ := h.head hfirst hrefused
      obtain ⟨rfl, -⟩ := List.cons.inj (hnodes'.symm.trans hnodes)
      have hcarries := hjpeg _ ((processPPData_jpeg hdeq hjob).mpr ⟨hgoes, rfl⟩)
      have hextra : a.extra = false := by
        cases hextra : a.extra with
        | false => rfl
        | true =>
          have hframes := hjob.frames
          rw [hextra] at hframes
          exact absurd (hframes.2.symm.trans hcarries.1) (by simp)
      refine ⟨hextra, fun hadv => ?_⟩
      have hmeta := hcarries.2
      rw [jpegJobOf, resultMetadata_of_fits hjob hextra, if_pos hadv] at hmeta
      exact hmeta
    · intro hstep b hb
      obtain rfl := Option.some.inj (hnext.symm.trans hb)
      obtain ⟨hfirst, hrefused, hjpeg⟩ := hstep a hnext
      obtain ⟨job, rest, hnodes, -, hjob⟩ := h.head hfirst hrefused
      have hactive : s.ongoingPPQ.active = true :=
        h.active (by rw [hnodes]; exact List.cons_ne_nil _ _)
      have hdeq : s.ongoingPPQ.dequeue.1 = some job := by
        unfold QCameraQueue.dequeue
        rw [if_pos hactive, hnodes]
        rfl
      refine ⟨by rw [hdeq, Option.map_some, hjob.request], fun jpegJob hqueued => ?_⟩
      obtain ⟨hgoes, rfl⟩ := (processPPData_jpeg hdeq hjob).mp hqueued
      obtain ⟨hextra, hindex⟩ := hjpeg hgoes
      have hframes := hjob.frames
      rw [hextra] at hframes
      refine ⟨hframes.2, ?_⟩
      rw [jpegJobOf, resultMetadata_of_fits hjob hextra]
      split
      next hadv => exact hindex hadv
      next => rfl
  | _ => exact Iff.rfl

theorem Aligned.doReprocess (h : Aligned s) (env : ReprocessEnv) : Aligned (s.doReprocess env).2 := by
  unfold PostProc.doReprocess
  split
  next => exact h
  next request hpeek =>
    split
    next => exact h
    next hready =>
      have hframe : request.srcFrame.isSome = true := by
        cases hsrc : request.srcFrame with
        | none => simp [hsrc] at hready
        | some frame => rfl
      have htaken : Aligned { s with inputPPQ := s.inputPPQ.dequeue.2 } :=
        h.of_same ⟨rfl, rfl, rfl, rfl⟩
      have hnum : s.nextRequest = { s with inputPPQ := s.inputPPQ.dequeue.2 }.nextRequest := rfl
      dsimp only
      generalize { s with inputPPQ := s.inputPPQ.dequeue.2 } = u at htaken hnum ⊢
      split
      next => exact htaken
      next source hsource =>
        split
        · exact htaken
        · split
          · rw [releasePPInputData_eq]
            exact htaken.of_same (same_gave _ _)
          · obtain ⟨t, ht, hcases⟩ := startReprocess_cases env request.reprocCount source _ u
            rw [ht]
            rcases hcases with ⟨hjobs, hanswers, hrefused, hlast⟩ | ⟨n, hq, hend⟩
            · have hmore : u.nextRequest ≤ t.nextRequest := hlast ▸ Nat.le_succ _
              constructor
              case active => rw [hjobs]; exact htaken.active
              case fits => rw [hjobs, hanswers, hrefused]; exact htaken.fits
              case sorted => rw [hjobs]; exact htaken.sorted
              case jobsBelow =>
                rw [hjobs]
                exact fun job hj => Nat.lt_of_lt_of_le (htaken.jobsBelow job hj) hmore
              case answersBelow =>
                rw [hanswers]
                exact fun a ha => Nat.lt_of_lt_of_le (htaken.answersBelow a ha) hmore
              case refusedBelow =>
                rw [hrefused]
                exact fun r hr => Nat.lt_of_lt_of_le (htaken.refusedBelow r hr) hmore
              case kept => rw [hjobs, hrefused]; exact htaken.kept
              case apart => rw [hanswers, hrefused]; exact htaken.apart
              case blocks => rw [hanswers]; exact htaken.blocks
            · rcases hend with ⟨hanswers, hrefused⟩ | ⟨extras, hn, hrefused, hanswers⟩
              · exact htaken.refuse hq hnum hanswers hrefused
              · exact htaken.accept hq hnum rfl hframe hsource hn hrefused hanswers

theorem Aligned.stopDataProc (h : Aligned s) : Aligned s.stopDataProc.forgetRequests := by
  have hflushed : ∀ u : PostProc, SamePairing s u →
      u.flushOngoingPPQ.ongoingPPQ = s.ongoingPPQ.flush.2 ∧ u.flushOngoingPPQ.answers = s.answers ∧
        u.flushOngoingPPQ.nextRequest = s.nextRequest := by
    rintro u ⟨hjobs, hanswers, -, hnum⟩
    rw [flushOngoingPPQ_eq, ← hjobs, ← hanswers, ← hnum]
    exact ⟨rfl, rfl, rfl⟩
  have hfirst : SamePairing s { s with isActive := false }.abortOngoing := by
    rw [abortOngoing_eq]
    exact ⟨rfl, rfl, rfl, rfl⟩
  obtain ⟨hjobs, hanswers, hnum⟩ := hflushed _ hfirst
  have hlast := (same_flushInputJpegQ (s := { s with isActive := false }.abortOngoing.flushOngoingPPQ)).trans
    (same_flushInputPPQ.trans same_flushInputRawQ)
  have hnodes : s.stopDataProc.ongoingPPQ.nodes = [] := by
    unfold PostProc.stopDataProc
    rw [hlast.ongoingPPQ, hjobs]
    unfold QCameraQueue.flush
    split
    · rfl
    next hactive => exact Decidable.byContradiction fun hne => hactive (h.active hne)
  have hall : s.stopDataProc.answers = s.answers := hlast.answers.trans hanswers
  have hnext : s.stopDataProc.nextRequest = s.nextRequest := hlast.nextRequest.trans hnum
  have hmap : ∀ a ∈ s.stopDataProc.forgetRequests.answers, a.queued = false ∧
      ∃ b ∈ s.answers, b.request = a.request := by
    intro a ha
    obtain ⟨b, hb, rfl⟩ := List.mem_map.mp ha
    exact ⟨rfl, b, hall ▸ hb, rfl⟩
  constructor
  case active => exact fun hne => absurd hnodes hne
  case fits =>
    have hnone : (s.stopDataProc.forgetRequests.answers.filter fun answer => answer.queued) = [] :=
      List.filter_eq_nil_iff.mpr fun a ha => by simp [(hmap a ha).1]
    rw [hnone]
    unfold forgetRequests
    rw [hnodes]
    exact List.Forall₂.nil
  case sorted =>
    unfold forgetRequests
    rw [hnodes]
    exact List.Pairwise.nil
  case jobsBelow =>
    unfold forgetRequests
    rw [hnodes]
    exact fun _ hj => absurd hj List.not_mem_nil
  case answersBelow =>
    intro a ha
    obtain ⟨-, b, hb, heq⟩ := hmap a ha
    have hlt := h.answersBelow b hb
    rw [heq, ← hnext] at hlt
    exact hlt
  case refusedBelow => exact fun _ hr => absurd hr List.not_mem_nil
  case kept => exact fun _ hr => absurd hr List.not_mem_nil
  case apart => exact fun _ _ => List.not_mem_nil
  case blocks =>
    unfold forgetRequests
    rw [hall]
    exact List.pairwise_map.mpr (h.blocks.imp fun hrel heq => ⟨(hrel heq).1, id⟩)

theorem Aligned.step (h : Aligned s) {op : PostProcOp} (howed : Answered s op) (hstep : InStep s op)
    (ht : s.step op = some t) : Aligned t := by
  cases op with
  | processData env frame =>
    obtain rfl := Option.some.inj ht
    exact h.of_same (SamePairing.trans (t := s.takeFrame frame) ⟨rfl, rfl, rfl, rfl⟩
      (same_processData env frame))
  | processRawData frame nodeOk =>
    obtain rfl := Option.some.inj ht
    exact h.of_same (SamePairing.trans (t := s.takeFrame frame) ⟨rfl, rfl, rfl, rfl⟩
      (same_processRawData frame nodeOk))
  | processPPData env channel frame =>
    obtain rfl := Option.some.inj ht
    obtain ⟨a, hnext⟩ := Option.isSome_iff_exists.mp howed
    obtain ⟨hfirst, hrefused, -⟩ := hstep a hnext
    have hsame := same_processPPData (s := (s.takeFrame frame).takeAnswer channel) env frame
    exact h.result hnext hfirst hrefused hsame.ongoingPPQ hsame.answers hsame.refused hsame.nextRequest
  | doNextJob env =>
    obtain rfl := Option.some.inj ht
    unfold doNextJob
    split
    · exact ((h.of_same (same_encodeNext _ _)).of_same (same_processNextRaw _)).doReprocess _
    · exact ((h.of_same same_releaseNextJpeg).of_same same_releaseNextRaw).of_same same_flushInputPPQ
  | startDataProc =>
    obtain rfl := Option.some.inj ht
    exact ⟨fun _ => rfl, h.fits, h.sorted, h.jobsBelow, h.answersBelow, h.refusedBelow, h.kept,
      h.apart, h.blocks⟩
  | stopDataProc =>
    obtain rfl := Option.some.inj ht
    exact h.stopDataProc
  | processJpegEvt jobId =>
    obtain rfl := Option.some.inj ht
    exact h.of_same (same_processJpegEvt jobId)
  | releaseNotify frame =>
    obtain rfl := Option.some.inj ht
    unfold releaseNotify
    rw [dispose_eq]
    exact h.of_same ⟨rfl, rfl, rfl, rfl⟩

theorem aligned_new : Aligned {} := by
  constructor
  case active => exact fun hne => absurd rfl hne
  case fits => exact List.Forall₂.nil
  case sorted => exact List.Pairwise.nil
  case blocks => exact List.Pairwise.nil
  all_goals exact fun _ h => absurd h List.not_mem_nil

instance (s : PostProc) : (op : PostProcOp) → Decidable (Answered s op)
  | .processPPData _ _ _ => inferInstanceAs (Decidable (_ = true))
  | .processData _ _ => isTrue trivial
  | .processRawData _ _ => isTrue trivial
  | .doNextJob _ => isTrue trivial
  | .startDataProc => isTrue trivial
  | .stopDataProc => isTrue trivial
  | .processJpegEvt _ => isTrue trivial
  | .releaseNotify _ => isTrue trivial

instance (env : ResultEnv) (a : PpAnswer) (s : PostProc) : Decidable (GoesToJpeg env a s) :=
  inferInstanceAs (Decidable (_ ∧ _ ∧ _ ∧ _ ∧ _))

instance (s : PostProc) : (op : PostProcOp) → Decidable (InStep s op)
  | .processPPData _ channel _ => inferInstanceAs (Decidable (∀ a ∈ s.nextAnswer channel, _ ∧ _ ∧ _))
  | .processData _ _ => isTrue trivial
  | .processRawData _ _ => isTrue trivial
  | .doNextJob _ => isTrue trivial
  | .startDataProc => isTrue trivial
  | .stopDataProc => isTrue trivial
  | .processJpegEvt _ => isTrue trivial
  | .releaseNotify _ => isTrue trivial

def capture (id : Nat) : PostProcOp := .processData { needReprocess := true } ⟨id, some (100 + id)⟩

def reprocess (env : ReprocessEnv) : PostProcOp := .doNextJob { reprocess := env }

/-- Two captures in two passes, one of them with an extra result, and after a stop a capture that the
channel refuses. -/
def twoPassOps : List PostProcOp :=
  [.startDataProc, capture 1, capture 2, reprocess { numOut := 2 }, reprocess {},
    .processPPData { needSuperBufMatch := false, totalNumReproc := 2 } 0 ⟨11, none⟩,
    .processPPData { needSuperBufMatch := false, totalNumReproc := 2 } 0 ⟨12, none⟩,
    .processPPData { needSuperBufMatch := false, totalNumReproc := 2 } 0 ⟨13, none⟩,
    reprocess {}, .processPPData { needSuperBufMatch := false, totalNumReproc := 2 } 1 ⟨21, none⟩,
    .stopDataProc, .startDataProc, capture 3, reprocess { accepts := false }]

/-- The first of two captures is refused and its job left in the queue. -/
def refusedOps : List PostProcOp :=
  [.startDataProc, capture 1, capture 2, reprocess { accepts := false }, reprocess {},
    .processPPData { needSuperBufMatch := false } 0 ⟨12, none⟩]

end PostProc

end DeviceHal.Camera
