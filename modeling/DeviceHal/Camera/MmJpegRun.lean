import DeviceHal.Camera.MmJpegCallback
import DeviceHal.Camera.MmJpegRight
import DeviceHal.Lib.Run

namespace DeviceHal.Camera

open Lib MmJpeg

variable {c : JpegSetup} {s s' : MmJpeg} {ph : SessionId → Phase} {id : SessionId} {n : JobNode}

namespace JpegInv

theorem keeps_encodeStep (h : JpegInv c s ph) {pc : EncodePc} (hpc : s.mgr = .encodes id pc) {ok : Bool}
    (hok : s.OrderlyMgr c ok (.encodes id pc)) (hstep : encodeStep c s id ok pc = some s') :
    ∃ ph', JpegInv c s' ph' := by
  cases pc with
  | begins =>
    simp only [encodeStep] at hstep
    split at hstep
    next =>
      cases hstep
      exact h.begins hpc
    next => cases hstep
  | configures =>
    simp only [encodeStep] at hstep
    split at hstep
    next =>
      cases hstep
      exact h.gives_up hpc rfl
    next =>
      cases hstep
      exact h.configures hpc
  | starts =>
    simp only [encodeStep] at hstep
    split at hstep
    next =>
      rw [(h.slots id).noAbort, if_neg nofun] at hstep
      cases hstep
      exact h.starts hpc
    next => cases hstep
  | emptiesMain =>
    simp only [encodeStep] at hstep
    split at hstep
    next =>
      cases hstep
      refine h.emptiesMain hpc ?_
      simp
    next =>
      cases hstep
      exact h.gives_up hpc rfl
  | emptiesThumb =>
    simp only [encodeStep] at hstep
    split at hstep
    next =>
      cases hstep
      exact ⟨ph, h.submits_more (Or.inl ⟨hpc, rfl⟩)⟩
    next hno =>
      cases hstep
      obtain ⟨num, hmem, hun⟩ := hok.resolve_left hno
      exact h.refused hpc (Or.inl rfl) hmem hun
  | fills =>
    simp only [encodeStep] at hstep
    split at hstep
    next =>
      cases hstep
      exact ⟨ph, h.submits_more (Or.inr ⟨hpc, rfl⟩)⟩
    next hno =>
      cases hstep
      obtain ⟨num, hmem, hun⟩ := hok.resolve_left hno
      exact h.refused hpc (Or.inr rfl) hmem hun

theorem keeps_mgrStep (h : JpegInv c s ph) {ok : Bool} (hok : s.OrderlyMgr c ok s.mgr)
    (hstep : mgrStep c s ok = some s') : ∃ ph', JpegInv c s' ph' := by
  unfold mgrStep at hstep
  cases hpc : s.mgr with
  | waits =>
    simp only [hpc] at hstep
    split at hstep
    next =>
      cases hstep
      exact ⟨ph, h.waits hpc⟩
    next => cases hstep
  | checksOngoing =>
    simp only [hpc] at hstep
    split at hstep
    next hfull =>
      cases hstep
      exact ⟨ph, h.checksOngoing_full hpc hfull⟩
    next =>
      rw [if_pos h.noAborter] at hstep
      cases hstep
      exact ⟨ph, h.checksOngoing_locks hpc⟩
  | dequeues =>
    simp only [hpc] at hstep
    split at hstep
    next htodo =>
      cases hstep
      exact ⟨ph, h.dequeues_nothing hpc htodo⟩
    next htodo =>
      cases hstep
      exact ⟨ph, h.dequeues_node hpc htodo⟩
  | takesHandle n =>
    simp only [hpc] at hstep
    split at hstep
    next hnone =>
      cases hstep
      exact ⟨ph, h.takesHandle_none hpc hnone⟩
    next hfirst =>
      cases hstep
      exact ⟨_, h.takesHandle hpc hfirst⟩
  | readsHead n =>
    simp only [hpc] at hstep
    cases hstep
    exact ⟨ph, h.readsHead hpc⟩
  | putsBack n wasEmpty =>
    simp only [hpc] at hstep
    cases hstep
    exact ⟨ph, h.putsBack hpc⟩
  | takesBuffer n id =>
    simp only [hpc] at hstep hok
    obtain ⟨hcb, hsome⟩ := hok
    split at hstep
    next hauto =>
      split at hstep
      next hnone => exact absurd hnone (hsome hauto)
      next hfirst =>
        cases hstep
        exact ⟨_, h.takesBuffer_auto hpc hcb hfirst⟩
    next =>
      cases hstep
      exact ⟨_, h.takesBuffer_fixed hpc hcb⟩
  | enqueues n id =>
    simp only [hpc] at hstep hok
    cases hstep
    exact ⟨_, h.enqueues hpc hok⟩
  | setsJob n id =>
    simp only [hpc] at hstep
    cases hstep
    exact ⟨_, h.setsJob hpc⟩
  | encodes id pc =>
    simp only [hpc] at hstep
    exact h.keeps_encodeStep hpc (hpc ▸ hok) hstep
  | reports id =>
    simp only [hpc] at hstep
    cases hstep
    exact h.reports hpc
  | finishes id pc =>
    simp only [hpc] at hstep
    cases hstep
    cases pc with
    | removes => exact h.mgr_removes hpc
    | enqueuesHandle => exact h.mgr_enqueuesHandle hpc
    | enqueuesBuffer => exact ⟨ph, h.mgr_enqueuesBuffer hpc⟩
    | posts => exact ⟨ph, h.mgr_posts hpc⟩

theorem keeps_cbStep (h : JpegInv c s ph) (hstep : cbStep c s id = some s') : ∃ ph', JpegInv c s' ph' := by
  unfold cbStep at hstep
  cases hcb : (s.sess id).cb with
  | idle =>
    simp only [hcb] at hstep
    cases hstep
  | reports =>
    simp only [hcb] at hstep
    cases hstep
    exact h.cb_reports hcb
  | finishes pc =>
    simp only [hcb] at hstep
    cases hstep
    cases pc with
    | removes => exact h.cb_removes hcb
    | enqueuesHandle => exact h.cb_enqueuesHandle hcb
    | enqueuesBuffer => exact ⟨ph, h.cb_enqueuesBuffer hcb⟩
    | posts => exact ⟨ph, h.cb_posts hcb⟩

theorem keeps_omxRaises (h : JpegInv c s ph) {num : Nat} {event : OmxEvent}
    (hok : num ∉ s.failed ∨ event = .error ∧ (s.sess id).encoding = false)
    (hstep : s.omxRaises id num event = some s') : ∃ ph', JpegInv c s' ph' := by
  have hab := (h.slots id).noAbort
  unfold omxRaises at hstep
  split at hstep
  next hguard =>
    obtain ⟨hmem, -⟩ := hguard
    by_cases hun : num ∉ s.failed
    · obtain ⟨n, hphase, -⟩ := h.phase_of_pending hmem hun
      have hencoding : (s.sess id).encoding = true := by
        have homx := (h.slots id).omx
        rw [hphase] at homx
        exact homx.2.2.1
      cases event with
      | fillBufferDone =>
        simp only [hab, ne_eq, not_true_eq_false, if_false] at hstep
        cases hstep
        exact h.raises hmem hun
      | error =>
        simp only [hab, hencoding, reduceCtorEq, if_false, if_true] at hstep
        cases hstep
        exact h.raises hmem hun
    · obtain ⟨rfl, hencoding⟩ := hok.resolve_left hun
      simp only [hab, hencoding, reduceCtorEq, if_false, Bool.false_eq_true] at hstep
      cases hstep
      exact ⟨ph, h.raises_late hencoding⟩
  next => cases hstep

theorem keeps_abortJob (h : JpegInv c s ph) {jobId : JobId} (hongoing : ∀ m ∈ s.ongoing, m.jobId ≠ jobId) :
    JpegInv c (s.abortJob jobId) ph := by
  have hnone : (s.ongoing.find? fun n => n.jobId = jobId) = none :=
    List.find?_eq_none.mpr fun m hm => by simpa using hongoing m hm
  unfold abortJob
  split
  next hfind => exact h.abortsTodo hfind
  next =>
    rw [hnone]
    exact h

theorem keeps (h : JpegInv c s ph) {op : JpegOp} (hok : s.Orderly c op) (hstep : step c s op = some s') :
    ∃ ph', JpegInv c s' ph' := by
  cases op with
  | startJob session srcIndex dstIndex =>
    cases hstep
    exact ⟨ph, h.startJob session srcIndex dstIndex⟩
  | startPosts =>
    simp only [step] at hstep
    split at hstep
    next =>
      cases hstep
      exact ⟨ph, h.startPosts⟩
    next => cases hstep
  | mgrStep ok => exact h.keeps_mgrStep hok hstep
  | omxRaises id num event => exact h.keeps_omxRaises hok hstep
  | omxChangesState id =>
    simp only [step, (h.slots id).noAbort, reduceCtorEq, and_false, if_false] at hstep
  | cbStep id => exact h.keeps_cbStep hstep
  | abortJob jobId =>
    simp only [step] at hstep
    split at hstep
    next =>
      cases hstep
      exact ⟨ph, h.keeps_abortJob hok.1⟩
    next => cases hstep
  | abortStep ok =>
    simp only [step, abortStep, h.noAborter] at hstep
    cases hstep

end JpegInv

namespace MmJpeg

variable (c : JpegSetup)

theorem initial_bufs : BufsInv c (initial c) fun _ => .free := by
  have hmem : ∀ q b, b ∈ (initial c).outBufQ q ↔ 1 ≤ b ∧ b ≤ c.numDstBufs q := by
    intro q b
    change b ∈ (List.range (c.numDstBufs q)).map (· + 1) ↔ _
    rw [List.mem_map]
    constructor
    · grind
    · rintro ⟨hlow, hhigh⟩
      exact ⟨b - 1, List.mem_range.mpr (by omega), by omega⟩
  have hno : ∀ id b, ¬(initial c).Holds (fun _ => .free) id b := by
    rintro id b ⟨hauto, -⟩
    cases hauto
  refine ⟨fun q => ?_, fun q b hb => (hmem q b).mp hb, fun id b hh => absurd hh (hno id b), ?_, ?_⟩
  · refine List.Nodup.map (fun a b hab => ?_) List.nodup_range
    exact Nat.succ.inj hab
  · exact fun id id' b hh => absurd hh (hno id b)
  grind

theorem initial_jobs : JobsInv c (initial c).jobs fun _ => .free where
  ongoing _ := ⟨nofun, fun ⟨_, h⟩ => (nomatch h)⟩
  ids := List.nodup_nil
  inj := nofun
  placed num := (if_neg (Nat.not_lt_zero num)).symm
  held := nofun
  gone := nofun
  activeTodo := nofun
  activeHand := nofun
  calls := nofun
  todo := nofun
  hand := nofun
  freed := nofun
  fresh _ _ := rfl
  failed := nofun
  aborted := nofun

theorem initial_inv : JpegInv c (initial c) fun _ => .free where
  slots id := by
    refine ⟨nofun, Or.inl rfl, nofun, nofun, ?_, fun _ => rfl, nofun, nofun, rfl⟩
    change id ∈ c.omxSessions (c.queues id) ↔ _
    rw [c.mem_omxSessions]
    simp
  nodup := c.nodup
  member q id hid := ((c.mem_omxSessions q id).mp hid).2
  jobs := initial_jobs c
  bufs := initial_bufs c
  awake _ hne := absurd rfl (hne rfl)
  noAborter := rfl

variable {c} {s s' : MmJpeg} {id : SessionId}

theorem doneStep_aborted (s : MmJpeg) (id : SessionId) (pc : DonePc) : (doneStep c s id pc).aborted = s.aborted := by
  cases pc with
  | removes =>
    simp only [doneStep, removeOngoing, modify]
    split <;> rfl
  | enqueuesHandle => rfl
  | enqueuesBuffer =>
    simp only [doneStep]
    split <;> rfl
  | posts => rfl

theorem encodeStep_aborted {ok : Bool} {pc : EncodePc} (h : encodeStep c s id ok pc = some s') :
    s'.aborted = s.aborted := by
  cases pc with
  | begins | configures | starts | emptiesMain | emptiesThumb | fills =>
    simp only [encodeStep] at h
    split at h <;> cases h <;> rfl

theorem mgrStep_aborted {ok : Bool} (h : mgrStep c s ok = some s') : s'.aborted = s.aborted := by
  unfold mgrStep at h
  cases hpc : s.mgr with
  | encodes id pc =>
    simp only [hpc] at h
    exact encodeStep_aborted h
  | finishes id pc =>
    simp only [hpc] at h
    cases h
    exact doneStep_aborted s id pc
  | takesBuffer n id =>
    simp only [hpc] at h
    split at h
    next => split at h <;> cases h <;> rfl
    next => cases h; rfl
  | checksOngoing =>
    grind
  | waits | dequeues | takesHandle n =>
    simp only [hpc] at h
    split at h <;> cases h <;> rfl
  | readsHead n | putsBack n wasEmpty | enqueues n id | setsJob n id | reports id =>
    simp only [hpc] at h
    cases h
    rfl

theorem step_aborted {op : JpegOp} (hop : op.aborts = false) (h : step c s op = some s') :
    s'.aborted = s.aborted := by
  cases op with
  | startJob session srcIndex dstIndex =>
    cases h
    unfold startJob
    split
    next => rfl
    next => split <;> rfl
  | startPosts =>
    simp only [step] at h
    split at h <;> cases h
    rfl
  | mgrStep ok => exact mgrStep_aborted h
  | omxRaises id num event =>
    simp only [step, omxRaises] at h
    split at h
    next =>
      cases event with
      | fillBufferDone =>
        dsimp only at h
        split at h <;> cases h <;> rfl
      | error =>
        dsimp only at h
        split at h
        next => cases h; rfl
        next => split at h <;> cases h <;> rfl
    next => cases h
  | omxChangesState id =>
    simp only [step] at h
    split at h <;> cases h
    rfl
  | cbStep id =>
    simp only [step, cbStep] at h
    split at h
    next => cases h
    next => cases h; rfl
    next pc _ =>
      cases h
      exact doneStep_aborted s id pc
  | abortJob jobId => cases hop
  | abortStep ok =>
    simp only [step, abortStep] at h
    cases haborter : s.aborter with
    | idle =>
      simp only [haborter] at h
      cases h
    | enters node id =>
      simp only [haborter] at h
      split at h
      next => split at h <;> cases h <;> rfl
      next => cases h
    | awaits node id =>
      simp only [haborter] at h
      split at h <;> cases h
      rfl
    | sends node id | ends node id | frees node =>
      simp only [haborter] at h
      cases h
      rfl

/-- No job is lost, told of twice or waits for nobody in a run without aborts whose steps do not run into
a defect. -/
theorem jobsRight_of_orderly (c : JpegSetup) (ops : List JpegOp) (habort : ∀ op ∈ ops, op.aborts = false)
    (h : OpsMeet (step c) (Orderly c) (initial c) ops) :
    Always (step c) (fun s => s.JobsRight c ∧ ∀ num ∈ s.freed, s.called.count num = 1) (initial c) ops := by
  have hmeet := h.and (opsMeet_of_forall fun op hop _ => habort op hop)
  have holds : ∀ s, (∃ ph, JpegInv c s ph) ∧ s.aborted = [] →
      s.JobsRight c ∧ ∀ num ∈ s.freed, s.called.count num = 1 := by
    rintro s ⟨⟨ph, hinv⟩, hnone⟩
    refine ⟨hinv.jobsRight, fun num hnum => hinv.jobsRight.completed num hnum ?_⟩
    rw [hnone]
    nofun
  refine always_invariant holds (fun s op s' => ?_) ⟨⟨_, initial_inv c⟩, rfl⟩ hmeet
  rintro ⟨⟨ph, hinv⟩, hnone⟩ ⟨hok, hop⟩ hstep
  exact ⟨hinv.keeps hok hstep, (step_aborted hop hstep).trans hnone⟩

def chained (count numDstBufs : Nat) : JpegSetup where
  active id := id.client = 0 ∧ id.index < count
  queues _ := 0
  omxSessions q := if q = 0 then (List.range count).map fun index => ⟨0, index⟩ else []
  mem_omxSessions q id := by
    obtain ⟨client, index⟩ := id
    grind
  nodup q := by
    split
    next => exact List.Nodup.map (fun _ _ h => congrArg SessionId.index h) List.nodup_range
    next => exact List.nodup_nil
  numSrcBufs _ := 1
  numDstBufs _ := numDstBufs
  encodeThumbnail _ := false
  thumbFromMain _ := false
  concurrentSessionsCount := 2
  count_pos := Nat.two_pos

/-- The job thread takes a job and submits its buffers. -/
def submits : List JpegOp := List.replicate 12 (.mgrStep true)

def completes (id : SessionId) (num : Nat) : List JpegOp :=
  .omxRaises id num .fillBufferDone :: List.replicate 5 (.cbStep id)

/-- Two jobs at once, of which the first has an automatic output buffer; a third one cannot be
configured. -/
def threeJobs : List JpegOp :=
  [.startJob ⟨0, 0⟩ 0 (-1), .startPosts, .startJob ⟨0, 1⟩ 0 0, .startPosts] ++ submits ++ submits ++
    completes ⟨0, 1⟩ 1 ++ completes ⟨0, 0⟩ 0 ++ [.startJob ⟨0, 0⟩ 0 (-1), .startPosts] ++
    List.replicate 8 (.mgrStep true) ++ List.replicate 6 (.mgrStep false)

theorem threeJobs_right :
    Always (step (chained 2 1)) (fun s => s.JobsRight (chained 2 1) ∧ ∀ num ∈ s.freed, s.called.count num = 1)
      (initial (chained 2 1)) threeJobs :=
  jobsRight_of_orderly (chained 2 1) threeJobs (by decide) (by decide)

/-- Two jobs with automatic output buffers where there is only one. -/
def burst : List JpegOp :=
  [.startJob ⟨0, 0⟩ 0 (-1), .startPosts, .startJob ⟨0, 0⟩ 0 (-1), .startPosts] ++ submits ++
    List.replicate 5 (.mgrStep true)

theorem burst_loses : ¬Always (step (chained 2 1))
    (fun s => s.JobsRight (chained 2 1) ∧ ∀ num ∈ s.freed, s.called.count num = 1)
    (initial (chained 2 1)) burst := by
  intro h
  have hplaces : (runOps (step (chained 2 1)) (initial (chained 2 1)) burst).map
      (fun s => (s.accepted, s.jobs.places 1)) = some (2, 0) := by decide
  obtain ⟨s, hrun, hs⟩ := Option.map_eq_some_iff.mp hplaces
  obtain ⟨haccepted, hnowhere⟩ := Prod.mk.inj hs
  have hone := (h.last hrun).1.placed 1 (by omega)
  omega

end MmJpeg

end DeviceHal.Camera

namespace DeviceHal.Camera

open Lib

namespace MmJpeg

/-- `mm_jpeg_abort_job` takes the job with the id out of the queue and leaves everything else. -/
def AbortsOne (c : JpegSetup) (s : MmJpeg) : Prop :=
  ∀ n ∈ s.todo, s.Orderly c (.abortJob n.jobId) → ∀ s', step c s (.abortJob n.jobId) = some s' →
    s' = { s with
      todo := s.todo.filter fun m => m ≠ n, freed := s.freed ++ [n.num], aborted := s.aborted ++ [n.num] }

variable {c : JpegSetup} {s : MmJpeg} {ph : SessionId → Phase} {n : JobNode}

theorem eraseP_eq_filter {nodes : List JobNode} (hnodup : nodes.Nodup) (hmem : n ∈ nodes)
    (hone : ∀ m ∈ nodes, m.jobId = n.jobId → m = n) :
    (nodes.eraseP fun m => m.jobId = n.jobId) = nodes.filter fun m => m ≠ n := by
  induction nodes with
  | nil => rfl
  | cons a nodes ih =>
    obtain ⟨hnotin, hnodup'⟩ := List.nodup_cons.mp hnodup
    by_cases ha : a.jobId = n.jobId
    · have han := hone a List.mem_cons_self ha
      subst han
      rw [List.eraseP_cons_of_pos (by simp), List.filter_cons_of_neg (by simp)]
      refine (List.filter_eq_self.mpr fun m hm => ?_).symm
      grind
    · have hne : a ≠ n := fun he => ha (congrArg JobNode.jobId he)
      grind

end MmJpeg

open MmJpeg

variable {c : JpegSetup} {s : MmJpeg} {ph : SessionId → Phase} {n : JobNode}

theorem JobsInv.todo_nodup {j : Jobs} (h : JobsInv c j ph) : j.todo.Nodup := by
  have hnums : (Jobs.nums j.todo).Nodup := by
    refine List.nodup_iff_count_le_one.mpr fun num => ?_
    have hle := h.places_le num
    unfold Jobs.places at hle
    omega
  exact List.Nodup.of_map _ hnums

theorem JpegInv.abortsOne (h : JpegInv c s ph) : s.AbortsOne c := by
  intro n hn hok s' hstep
  simp only [step] at hstep
  split at hstep
  next =>
    cases hstep
    have hone : ∀ m ∈ s.todo, m.jobId = n.jobId → m = n := fun m hm he => hok.2 m hm n hn he rfl
    have hfind : (s.todo.find? fun m => m.jobId = n.jobId) = some n := by
      cases hf : s.todo.find? fun m => m.jobId = n.jobId with
      | none =>
        have hno := List.find?_eq_none.mp hf n hn
        simp at hno
      | some m =>
        grind
    have hrest : (s.todo.eraseP fun m => m.jobId = n.jobId) = s.todo.filter fun m => m ≠ n :=
      eraseP_eq_filter h.jobs.todo_nodup hn hone
    unfold abortJob
    rw [hfind, hrest]
  next => cases hstep

namespace MmJpeg

/-- An abort takes one job away and harms no other in a run in which only jobs that are to do are aborted,
and no other step runs into a defect. -/
theorem abortsOne_of_orderly (c : JpegSetup) (ops : List JpegOp)
    (h : OpsMeet (step c) (Orderly c) (initial c) ops) :
    Always (step c) (fun s => s.JobsRight c ∧ s.AbortsOne c) (initial c) ops := by
  have holds : ∀ s, (∃ ph, JpegInv c s ph) → s.JobsRight c ∧ s.AbortsOne c :=
    fun _ ⟨_, hinv⟩ => ⟨hinv.jobsRight, hinv.abortsOne⟩
  have hkeeps : ∀ s op s', (∃ ph, JpegInv c s ph) → Orderly c s op → step c s op = some s' → ∃ ph, JpegInv c s' ph :=
    fun _ _ _ ⟨_, hinv⟩ hok hstep => hinv.keeps hok hstep
  exact always_invariant holds hkeeps ⟨_, initial_inv c⟩ h

/-- The second of three jobs is aborted while the first is ongoing. -/
def abortsTodo : List JpegOp :=
  [.startJob ⟨0, 0⟩ 0 (-1), .startPosts, .startJob ⟨0, 0⟩ 0 0, .startPosts, .startJob ⟨0, 0⟩ 0 (-1), .startPosts] ++
    submits ++ [.abortJob ⟨⟨0, 0⟩, 257⟩] ++ completes ⟨0, 0⟩ 0 ++ submits ++ completes ⟨0, 0⟩ 2

theorem abortsTodo_right :
    Always (step (chained 1 1)) (fun s => s.JobsRight (chained 1 1) ∧ s.AbortsOne (chained 1 1))
      (initial (chained 1 1)) abortsTodo :=
  abortsOne_of_orderly (chained 1 1) abortsTodo (by decide)

/-- The only job is aborted while it is ongoing, then another one comes. -/
def abortsOngoing : List JpegOp :=
  [.startJob ⟨0, 0⟩ 0 (-1), .startPosts] ++ submits ++
    [.abortJob ⟨⟨0, 0⟩, 256⟩, .abortStep true, .abortStep true, .omxRaises ⟨0, 0⟩ 0 .fillBufferDone,
      .omxChangesState ⟨0, 0⟩, .abortStep true, .abortStep true, .abortStep true, .startJob ⟨0, 0⟩ 0 (-1), .startPosts] ++
    List.replicate 6 (.mgrStep true)

/-- Nobody works on the first job any more, but its OMX session is not back in the queue. -/
theorem abortsOngoing_loses : ¬Always (step (chained 1 1))
    (fun s => s.JobsRight (chained 1 1) ∧ s.AbortsOne (chained 1 1)) (initial (chained 1 1)) abortsOngoing := by
  intro h
  have hend : (runOps (step (chained 1 1)) (initial (chained 1 1)) abortsOngoing).map
      (fun s => (s.handleQ 0, s.mgr, (s.sess ⟨0, 0⟩).cb.serves, s.pending ⟨0, 0⟩)) =
      some ([], .waits, false, []) := by decide
  obtain ⟨s, hrun, hs⟩ := Option.map_eq_some_iff.mp hend
  simp only [Prod.mk.injEq] at hs
  obtain ⟨hhandles, hmgr, hcb, hpending⟩ := hs
  have hidle : ∀ num, ¬s.WorksOn ⟨0, 0⟩ num := by
    rintro num (⟨n, hn, -⟩ | ⟨-, hn | hn | ⟨num', hmem, -⟩⟩)
    · rw [hmgr] at hn
      cases hn
    · rw [hmgr] at hn
      cases hn
    · rw [hcb] at hn
      cases hn
    · rw [hpending] at hmem
      cases hmem
  have hin := ((h.last hrun).1.available ⟨0, 0⟩ (by decide)).mpr hidle
  rw [show (chained 1 1).queues ⟨0, 0⟩ = 0 from rfl, hhandles] at hin
  cases hin

end MmJpeg

end DeviceHal.Camera
