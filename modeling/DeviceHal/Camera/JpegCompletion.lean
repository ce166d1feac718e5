import DeviceHal.Camera.Muxer
import DeviceHal.Lib.Run
import Mathlib.Data.List.Perm.Basic

namespace DeviceHal.Camera

open Lib

namespace QCameraQueue

variable {α : Type}

/-- `dequeue(false)`. -/
def dequeueLast (q : QCameraQueue α) : Option α × QCameraQueue α :=
  if q.active then (q.nodes.getLast?, { q with nodes := q.nodes.dropLast }) else (none, q)

def flushNodes (fits : α → Bool) (q : QCameraQueue α) : List α × QCameraQueue α :=
  if q.active then (q.nodes.filter fits, { q with nodes := q.nodes.filter fun data => !fits data })
  else ([], q)

end QCameraQueue

/-- `qcamera_jpeg_data_t`. History: its number. -/
structure JpegData where
  job : Nat
  jobId : UInt32 := 0
deriving DecidableEq

/-- The event of a job. History: the number of the job. -/
structure JpegEvt where
  job : Nat
  jobId : UInt32
deriving DecidableEq

/-- Where the data thread is: in `encodeData` up to `start_job`, or behind it with the id not stored. -/
inductive JpegDataPc where
  | idle
  | encodes (job : Nat)
  | accepted (job : Nat) (jobId : UInt32)
deriving DecidableEq

/-- The jobs that an event of a job, or its failure, took from `m_ongoingJpegQ`. -/
structure Removal where
  job : Nat
  removed : List Nat

/-- The data thread, the encoder with the jobs whose events are to come, and the save thread with the
event it has dequeued. -/
structure JpegProc where
  ongoingJpegQ : QCameraQueue JpegData := {}
  inputSaveQ : QCameraQueue JpegEvt := {}
  data : JpegDataPc := .idle
  encoder : List JpegEvt := []
  save : Option JpegEvt := none
  nextJob : Nat := 0
  removals : List Removal := []

inductive JpegProcOp where
  | doNextJob (nodeOk : Bool)
  | encodeFails
  | startJob (jobId : UInt32)
  | storeJobId
  | processJpegEvt (evt : JpegEvt) (longshot allocOk nodeOk : Bool)
  | saveDequeue
  | saveFlush

namespace JpegProc

def matchJobId (jobId : UInt32) (data : JpegData) : Bool := data.jobId = jobId

def logs (s : JpegProc) (job : Nat) (removed : List JpegData) : JpegProc :=
  { s with removals := s.removals ++ [⟨job, removed.map JpegData.job⟩] }

/-- The jobs with the id of the event are released. -/
def flushJob (s : JpegProc) (evt : JpegEvt) : JpegProc :=
  let (removed, ongoingJpegQ) := s.ongoingJpegQ.flushNodes (matchJobId evt.jobId)
  { s with ongoingJpegQ }.logs evt.job removed

/-- `longshot` is whether the save thread is in use and a longshot is on. -/
def processJpegEvt (s : JpegProc) (evt : JpegEvt) (longshot allocOk nodeOk : Bool) : JpegProc :=
  if longshot then
    if !allocOk then s.logs evt.job []
    else
      match s.inputSaveQ.enqueue evt nodeOk with
      | (true, inputSaveQ) => { s with inputSaveQ }
      | (false, _) => s.logs evt.job []
  else s.flushJob evt

def storeJobId (s : JpegProc) (job : Nat) (jobId : UInt32) : JpegProc :=
  { s with
    data := .idle
    ongoingJpegQ := { s.ongoingJpegQ with
      nodes := s.ongoingJpegQ.nodes.map fun d => if d.job = job then { d with jobId } else d } }

/-- `DO_NEXT_JOB` with a job in `m_inputJpegQ`. -/
def doNextJob (s : JpegProc) (nodeOk : Bool) : JpegProc :=
  match s.ongoingJpegQ.enqueue ⟨s.nextJob, 0⟩ nodeOk with
  | (true, ongoingJpegQ) =>
    { s with ongoingJpegQ, data := .encodes s.nextJob, nextJob := s.nextJob + 1 }
  | (false, _) => { s with nextJob := s.nextJob + 1 }

/-- `encodeData` returns an error. -/
def encodeFails (s : JpegProc) (job : Nat) : JpegProc :=
  let (removed, ongoingJpegQ) := s.ongoingJpegQ.dequeueLast
  { s with ongoingJpegQ, data := .idle }.logs job removed.toList

/-- The encoder reports a job at any time from when it has accepted it. -/
def step (s : JpegProc) : JpegProcOp → Option JpegProc
  | .doNextJob nodeOk => if s.data = .idle then some (s.doNextJob nodeOk) else none
  | .encodeFails =>
    match s.data with
    | .encodes job => some (s.encodeFails job)
    | _ => none
  | .startJob jobId =>
    match s.data with
    | .encodes job =>
      some { s with data := .accepted job jobId, encoder := s.encoder ++ [⟨job, jobId⟩] }
    | _ => none
  | .storeJobId =>
    match s.data with
    | .accepted job jobId => some (s.storeJobId job jobId)
    | _ => none
  | .processJpegEvt evt longshot allocOk nodeOk =>
    if evt ∈ s.encoder then
      some ({ s with encoder := s.encoder.erase evt }.processJpegEvt evt longshot allocOk nodeOk)
    else none
  | .saveDequeue =>
    match s.save, s.inputSaveQ.dequeue with
    | none, (some evt, inputSaveQ) => some { s with inputSaveQ, save := some evt }
    | _, _ => none
  | .saveFlush =>
    match s.save with
    | some evt => some ({ s with save := none }.flushJob evt)
    | none => none

/-- Only one job is expected in `m_ongoingJpegQ`, so that its head is taken. -/
def findJpegJobByJobId (s : JpegProc) (jobId : UInt32) : Option JpegData × QCameraQueue JpegData :=
  if jobId = 0 then (none, s.ongoingJpegQ) else s.ongoingJpegQ.dequeue

/-- Nothing calls it: `m_inputSaveQ` is made without a function to release its data. -/
def releaseSaveJobData (s : JpegProc) (evt : JpegEvt) : JpegProc :=
  let (removed, ongoingJpegQ) := s.findJpegJobByJobId evt.jobId
  { s with ongoingJpegQ }.logs evt.job removed.toList

/-- The events to come, and those that wait for the save thread. -/
def outstanding (s : JpegProc) : List JpegEvt := s.encoder ++ s.inputSaveQ.nodes ++ s.save.toList

/-- What was taken was the job it was taken for, and nothing is left behind the last event. -/
structure CompletionsRight (s : JpegProc) : Prop where
  removed : ∀ r ∈ s.removals, r.removed = [r.job]
  emptied : s.data = .idle → s.outstanding = [] → s.ongoingJpegQ.nodes = []

/-- The encoder's ids are not zero, and not those of other jobs whose events are to come. -/
def FreshIds (s : JpegProc) : JpegProcOp → Prop
  | .startJob jobId => jobId ≠ 0 ∧ ∀ evt ∈ s.outstanding, evt.jobId ≠ jobId
  | _ => True

/-- An event is not lost on its way to the save thread, and the jobs are searched for it when the
data thread has stored the id of its job. -/
def Timely (s : JpegProc) : JpegProcOp → Prop
  | .processJpegEvt evt longshot allocOk nodeOk =>
    evt ∈ s.encoder →
      if longshot then allocOk = true ∧ nodeOk = true else s.data ≠ .accepted evt.job evt.jobId
  | .saveFlush => ∀ evt ∈ s.save, s.data ≠ .accepted evt.job evt.jobId
  | _ => True

instance decidableFreshIds (s : JpegProc) : ∀ op, Decidable (FreshIds s op)
  | .startJob jobId =>
    inferInstanceAs (Decidable (jobId ≠ 0 ∧ ∀ evt ∈ s.outstanding, evt.jobId ≠ jobId))
  | .doNextJob _ => isTrue trivial
  | .encodeFails => isTrue trivial
  | .storeJobId => isTrue trivial
  | .processJpegEvt .. => isTrue trivial
  | .saveDequeue => isTrue trivial
  | .saveFlush => isTrue trivial

instance decidableTimely (s : JpegProc) : ∀ op, Decidable (Timely s op)
  | .processJpegEvt evt longshot allocOk nodeOk =>
    inferInstanceAs (Decidable (evt ∈ s.encoder →
      if longshot then allocOk = true ∧ nodeOk = true else s.data ≠ .accepted evt.job evt.jobId))
  | .saveFlush => inferInstanceAs (Decidable (∀ evt ∈ s.save, s.data ≠ .accepted evt.job evt.jobId))
  | .doNextJob _ => isTrue trivial
  | .encodeFails => isTrue trivial
  | .startJob _ => isTrue trivial
  | .storeJobId => isTrue trivial
  | .saveDequeue => isTrue trivial

/-- The job in the data thread's hands, in `m_ongoingJpegQ` without its id. -/
def current : JpegDataPc → List JpegData
  | .idle => []
  | .encodes job => [⟨job, 0⟩]
  | .accepted job _ => [⟨job, 0⟩]

/-- The event of that job, once the encoder has accepted it. -/
def accepting : JpegDataPc → List JpegEvt
  | .idle => []
  | .encodes _ => []
  | .accepted job jobId => [⟨job, jobId⟩]

def evtOf (data : JpegData) : JpegEvt := ⟨data.job, data.jobId⟩

/-- In front of the data thread's own job are those with their ids stored, whose events are
outstanding. -/
structure CompletionInv (s : JpegProc) : Prop where
  active : s.ongoingJpegQ.active = true
  saveActive : s.inputSaveQ.active = true
  queued : ∃ stored : List JpegData, s.ongoingJpegQ.nodes = stored ++ current s.data ∧
    s.outstanding.Perm (stored.map evtOf ++ accepting s.data)
  once : (s.outstanding.map JpegEvt.jobId).Nodup
  nonzero : ∀ evt ∈ s.outstanding, evt.jobId ≠ 0
  jobs : (s.ongoingJpegQ.nodes.map JpegData.job).Nodup
  earlier : ∀ data ∈ s.ongoingJpegQ.nodes, data.job < s.nextJob
  removed : ∀ r ∈ s.removals, r.removed = [r.job]

variable {s t : JpegProc} {evt : JpegEvt}

theorem completionInv_new : CompletionInv {} where
  active := rfl
  saveActive := rfl
  queued := ⟨[], rfl, .refl _⟩
  once := List.nodup_nil
  nonzero _ h := nomatch h
  jobs := List.nodup_nil
  earlier _ h := nomatch h
  removed _ h := nomatch h

theorem CompletionInv.right (h : CompletionInv s) : CompletionsRight s := by
  refine ⟨h.removed, fun hidle hnone => ?_⟩
  obtain ⟨stored, hnodes, hperm⟩ := h.queued
  rw [hidle] at hnodes hperm
  rw [hnone, accepting, List.append_nil] at hperm
  have hnil := List.map_eq_nil_iff.mp (List.nil_perm.mp hperm)
  rw [hnodes, hnil]
  rfl

theorem filter_key_eq {α κ : Type} [DecidableEq κ] {f : α → κ} {l : List α} {x : α}
    (hnodup : (l.map f).Nodup) (hx : x ∈ l) : l.filter (fun y => f y = f x) = [x] := by
  induction l with
  | nil => cases hx
  | cons y l ih =>
    obtain ⟨hout, hrest⟩ := List.nodup_cons.mp hnodup
    rcases List.mem_cons.mp hx with rfl | hx
    · have hnone : l.filter (fun z => f z = f x) = [] := by
        refine List.filter_eq_nil_iff.mpr fun z hz he => hout ?_
        exact List.mem_map.mpr ⟨z, hz, of_decide_eq_true he⟩
      rw [List.filter_cons_of_pos (by simp), hnone]
    grind

theorem CompletionInv.stored_of_mem (h : CompletionInv s) (hout : evt ∈ s.outstanding)
    (hstored : s.data ≠ .accepted evt.job evt.jobId) :
    ∃ stored : List JpegData, s.ongoingJpegQ.nodes = stored ++ current s.data ∧
      s.outstanding.Perm (stored.map evtOf ++ accepting s.data) ∧
      ⟨evt.job, evt.jobId⟩ ∈ stored ∧ (stored.map JpegData.jobId).Nodup := by
  obtain ⟨stored, hnodes, hperm⟩ := h.queued
  have hids := (hperm.map JpegEvt.jobId).nodup_iff.mp h.once
  rw [List.map_append, List.map_map] at hids
  refine ⟨stored, hnodes, hperm, ?_, (List.nodup_append.mp hids).1⟩
  rcases List.mem_append.mp (hperm.mem_iff.mp hout) with hmem | hmem
  · obtain ⟨data, hdata, rfl⟩ := List.mem_map.mp hmem
    exact hdata
  · cases hpc : s.data with
    | idle =>
      rw [hpc] at hmem
      cases hmem
    | encodes job =>
      rw [hpc] at hmem
      cases hmem
    | accepted job jobId =>
      rw [hpc] at hmem
      rw [List.mem_singleton.mp hmem] at hstored
      exact absurd hpc hstored

/-- A state in which an event is in hand, and everything else is as before. -/
structure TakesEvt (s : JpegProc) (evt : JpegEvt) (t : JpegProc) : Prop where
  ongoingJpegQ : t.ongoingJpegQ = s.ongoingJpegQ
  active : t.inputSaveQ.active = s.inputSaveQ.active
  data : t.data = s.data
  nextJob : t.nextJob = s.nextJob
  removals : t.removals = s.removals
  outstanding : s.outstanding.Perm (evt :: t.outstanding)

theorem current_jobId {pc : JpegDataPc} {data : JpegData} (h : data ∈ current pc) : data.jobId = 0 := by
  cases pc with
  | idle => cases h
  | encodes job => rw [List.mem_singleton.mp h]
  | accepted job jobId => rw [List.mem_singleton.mp h]

theorem TakesEvt.flushJob (h : CompletionInv s) (ht : TakesEvt s evt t)
    (hstored : s.data ≠ .accepted evt.job evt.jobId) : CompletionInv (t.flushJob evt) := by
  have hout : evt ∈ s.outstanding := ht.outstanding.mem_iff.mpr List.mem_cons_self
  obtain ⟨stored, hnodes, hperm, hmem, hids⟩ := h.stored_of_mem hout hstored
  have hne : evt.jobId ≠ 0 := h.nonzero evt hout
  have hcurrent : ∀ data ∈ current s.data, matchJobId evt.jobId data = false := by
    intro data hdata
    unfold matchJobId
    rw [current_jobId hdata]
    exact decide_eq_false (Ne.symm hne)
  have htaken : s.ongoingJpegQ.nodes.filter (matchJobId evt.jobId) = [⟨evt.job, evt.jobId⟩] := by
    have hnone : (current s.data).filter (matchJobId evt.jobId) = [] :=
      List.filter_eq_nil_iff.mpr fun data hdata => by simp [hcurrent data hdata]
    rw [hnodes, List.filter_append, hnone, List.append_nil]
    exact filter_key_eq hids hmem
  have hleft : s.ongoingJpegQ.nodes.filter (fun data => !matchJobId evt.jobId data) =
      stored.filter (fun data => !matchJobId evt.jobId data) ++ current s.data := by
    rw [hnodes, List.filter_append]
    congr 1
    exact List.filter_eq_self.mpr fun data hdata => by simp [hcurrent data hdata]
  have hflush : t.flushJob evt = { t with
      ongoingJpegQ := ⟨s.ongoingJpegQ.nodes.filter fun data => !matchJobId evt.jobId data, true⟩
      removals := t.removals ++ [⟨evt.job, [evt.job]⟩] } := by
    unfold JpegProc.flushJob QCameraQueue.flushNodes
    rw [ht.ongoingJpegQ, h.active, if_pos rfl, htaken]
    rfl
  have hrest : t.outstanding.Perm
      ((stored.filter fun data => !matchJobId evt.jobId data).map evtOf ++ accepting s.data) := by
    have hsplit := List.filter_append_perm (matchJobId evt.jobId) stored
    have hfits : stored.filter (matchJobId evt.jobId) = [⟨evt.job, evt.jobId⟩] :=
      filter_key_eq hids hmem
    rw [hfits] at hsplit
    have hall := (hsplit.symm.map evtOf).append_right (accepting s.data)
    exact List.Perm.cons_inv (ht.outstanding.symm.trans (hperm.trans hall))
  have honce := (ht.outstanding.map JpegEvt.jobId).nodup_iff.mp h.once
  rw [hflush]
  refine ⟨rfl, ?_, ⟨stored.filter fun data => !matchJobId evt.jobId data, ?_, ?_⟩,
    (List.nodup_cons.mp honce).2, fun e he => ?_, ?_, fun data hdata => ?_, fun r hr => ?_⟩
  · exact ht.active.trans h.saveActive
  · rw [ht.data]
    exact hleft
  · rw [ht.data]
    exact hrest
  · exact h.nonzero e (ht.outstanding.mem_iff.mpr (List.mem_cons_of_mem _ he))
  · exact h.jobs.sublist (List.filter_sublist.map JpegData.job)
  · rw [ht.nextJob]
    exact h.earlier data (List.mem_filter.mp hdata).1
  · rcases List.mem_append.mp hr with hold | hnew
    · exact h.removed r (ht.removals ▸ hold)
    · rw [List.mem_singleton.mp hnew]

theorem TakesEvt.flushJob_early (h : CompletionInv s) (ht : TakesEvt s evt t)
    (hearly : s.data = .accepted evt.job evt.jobId) : ¬CompletionsRight (t.flushJob evt) := by
  obtain ⟨stored, hnodes, hperm⟩ := h.queued
  have hout : evt ∈ s.outstanding := ht.outstanding.mem_iff.mpr List.mem_cons_self
  have hne : evt.jobId ≠ 0 := h.nonzero evt hout
  have hids := (hperm.map JpegEvt.jobId).nodup_iff.mp h.once
  rw [hearly, accepting, List.map_append, List.map_map] at hids
  have hapart := (List.nodup_append.mp hids).2.2
  have hnone : s.ongoingJpegQ.nodes.filter (matchJobId evt.jobId) = [] := by
    refine List.filter_eq_nil_iff.mpr fun data hdata hfits => ?_
    have hid : data.jobId = evt.jobId := of_decide_eq_true hfits
    rw [hnodes] at hdata
    rcases List.mem_append.mp hdata with hmem | hmem
    · exact hapart data.jobId (List.mem_map.mpr ⟨data, hmem, rfl⟩) evt.jobId List.mem_cons_self hid
    · exact hne (hid.symm.trans (current_jobId hmem))
  intro hright
  have hlog : ⟨evt.job, []⟩ ∈ (t.flushJob evt).removals := by
    unfold JpegProc.flushJob QCameraQueue.flushNodes
    rw [ht.ongoingJpegQ, h.active, if_pos rfl, hnone]
    exact List.mem_append_right _ List.mem_cons_self
  cases hright.removed _ hlog

theorem takesEvt_encoder (hmem : evt ∈ s.encoder) :
    TakesEvt s evt { s with encoder := s.encoder.erase evt } := by
  refine ⟨rfl, rfl, rfl, rfl, rfl, ?_⟩
  grind [outstanding, List.append_assoc]

theorem takesEvt_save (hsave : s.save = some evt) : TakesEvt s evt { s with save := none } := by
  refine ⟨rfl, rfl, rfl, rfl, rfl, ?_⟩
  simp only [outstanding, hsave, Option.toList_some, Option.toList_none, List.append_nil]
  exact List.perm_append_singleton ..

theorem CompletionInv.moveEvts (h : CompletionInv s) (hq : t.ongoingJpegQ = s.ongoingJpegQ)
    (hactive : t.inputSaveQ.active = s.inputSaveQ.active) (hdata : t.data = s.data)
    (hnext : t.nextJob = s.nextJob) (hlog : t.removals = s.removals)
    (hout : s.outstanding.Perm t.outstanding) : CompletionInv t := by
  obtain ⟨stored, hnodes, hperm⟩ := h.queued
  refine ⟨hq ▸ h.active, hactive.trans h.saveActive, ⟨stored, ?_, ?_⟩,
    (hout.map JpegEvt.jobId).nodup_iff.mp h.once, fun e he => h.nonzero e (hout.mem_iff.mpr he),
    hq ▸ h.jobs, ?_, hlog ▸ h.removed⟩
  · rw [hq, hdata]
    exact hnodes
  · rw [hdata]
    exact hout.symm.trans hperm
  · rw [hq, hnext]
    exact h.earlier

theorem CompletionInv.processJpegEvt (h : CompletionInv s) (hmem : evt ∈ s.encoder)
    (longshot allocOk nodeOk : Bool) :
    (Timely s (.processJpegEvt evt longshot allocOk nodeOk) →
      CompletionInv ({ s with encoder := s.encoder.erase evt }.processJpegEvt evt longshot allocOk nodeOk)) ∧
    (¬Timely s (.processJpegEvt evt longshot allocOk nodeOk) → ¬CompletionsRight
      ({ s with encoder := s.encoder.erase evt }.processJpegEvt evt longshot allocOk nodeOk)) := by
  have htakes := takesEvt_encoder hmem
  unfold Timely JpegProc.processJpegEvt
  cases longshot with
  | false =>
    simp only [Bool.false_eq_true, if_false]
    constructor
    · intro htimely
      exact htakes.flushJob h (htimely hmem)
    · intro hearly
      refine htakes.flushJob_early h (not_not.mp fun hne => hearly fun _ => hne)
  | true =>
    have hlost : ∀ u : JpegProc, ¬CompletionsRight (u.logs evt.job []) := by
      intro u hright
      cases hright.removed ⟨evt.job, []⟩ (List.mem_append_right _ List.mem_cons_self)
    cases allocOk with
    | false =>
      grind
    | true =>
      cases nodeOk with
      | false =>
        exact ⟨fun htimely => absurd (htimely hmem).2 Bool.false_ne_true, fun _ => hlost _⟩
      | true =>
        simp only [QCameraQueue.enqueue, h.saveActive, Bool.and_self, if_true, Bool.not_true,
          Bool.false_eq_true, if_false]
        refine ⟨fun _ => h.moveEvts rfl h.saveActive.symm rfl rfl rfl ?_,
          fun hno => absurd (fun _ => ⟨trivial, trivial⟩) hno⟩
        have hmove : (evt :: ((s.encoder.erase evt ++ s.inputSaveQ.nodes) ++ s.save.toList)).Perm
            ((s.encoder.erase evt ++ s.inputSaveQ.nodes) ++ evt :: s.save.toList) :=
          List.perm_middle.symm
        refine htakes.outstanding.trans (hmove.trans ?_)
        simp [outstanding]

theorem CompletionInv.idle_nodes (h : CompletionInv s) (hidle : s.data = .idle) :
    s.outstanding.Perm (s.ongoingJpegQ.nodes.map evtOf) := by
  obtain ⟨stored, hnodes, hperm⟩ := h.queued
  rw [hidle] at hnodes hperm
  rw [hnodes]
  simpa [current, accepting] using hperm

theorem CompletionInv.doNextJob (h : CompletionInv s) (hidle : s.data = .idle) (nodeOk : Bool) :
    CompletionInv (s.doNextJob nodeOk) := by
  have hperm := h.idle_nodes hidle
  have hearlier : ∀ data ∈ s.ongoingJpegQ.nodes, data.job < s.nextJob + 1 :=
    fun data hdata => Nat.lt_succ_of_lt (h.earlier data hdata)
  unfold JpegProc.doNextJob
  cases nodeOk with
  | false =>
    simp only [QCameraQueue.enqueue, Bool.false_and, Bool.false_eq_true, if_false]
    exact ⟨h.active, h.saveActive, h.queued, h.once, h.nonzero, h.jobs, hearlier, h.removed⟩
  | true =>
    simp only [QCameraQueue.enqueue, h.active, Bool.and_self, if_true]
    refine ⟨rfl, h.saveActive, ⟨s.ongoingJpegQ.nodes, rfl, ?_⟩, h.once, h.nonzero, ?_,
      fun data hdata => ?_, h.removed⟩
    · rw [accepting, List.append_nil]
      exact hperm
    · rw [List.map_append, List.nodup_append]
      refine ⟨h.jobs, List.pairwise_singleton _ _, fun job hjob job' hjob' heq => ?_⟩
      obtain ⟨data, hdata, rfl⟩ := List.mem_map.mp hjob
      have hlt := h.earlier data hdata
      grind
    grind

theorem CompletionInv.encodeFails (h : CompletionInv s) {job : Nat} (hpc : s.data = .encodes job) :
    CompletionInv (s.encodeFails job) := by
  obtain ⟨stored, hnodes, hperm⟩ := h.queued
  rw [hpc] at hnodes hperm
  have hfails : s.encodeFails job = { s with
      ongoingJpegQ := ⟨stored, true⟩
      data := .idle
      removals := s.removals ++ [⟨job, [job]⟩] } := by
    unfold JpegProc.encodeFails QCameraQueue.dequeueLast
    rw [h.active, if_pos rfl, hnodes, current, List.getLast?_append, List.dropLast_concat]
    rfl
  have hjobs := h.jobs
  rw [hnodes, List.map_append] at hjobs
  rw [hfails]
  refine ⟨rfl, h.saveActive, ⟨stored, (List.append_nil _).symm, hperm⟩, h.once, h.nonzero,
    (List.nodup_append.mp hjobs).1, fun data hdata => ?_, fun r hr => ?_⟩
  · exact h.earlier data (hnodes ▸ List.mem_append_left _ hdata)
  · rcases List.mem_append.mp hr with hold | hnew
    · exact h.removed r hold
    · rw [List.mem_singleton.mp hnew]

theorem CompletionInv.startJob (h : CompletionInv s) {job : Nat} {jobId : UInt32}
    (hpc : s.data = .encodes job) (hfresh : FreshIds s (.startJob jobId)) :
    CompletionInv { s with data := .accepted job jobId, encoder := s.encoder ++ [⟨job, jobId⟩] } := by
  obtain ⟨stored, hnodes, hperm⟩ := h.queued
  rw [hpc] at hnodes hperm
  have hout : ({ s with data := .accepted job jobId, encoder := s.encoder ++ [⟨job, jobId⟩] } :
      JpegProc).outstanding.Perm (⟨job, jobId⟩ :: s.outstanding) := by
    simp only [outstanding, List.append_assoc, List.cons_append, List.nil_append]
    exact List.perm_middle
  refine ⟨h.active, h.saveActive, ⟨stored, hnodes, ?_⟩, ?_, fun e he => ?_, h.jobs, h.earlier, h.removed⟩
  · grind [accepting]
  · refine (hout.map JpegEvt.jobId).nodup_iff.mpr (List.nodup_cons.mpr ⟨fun hmem => ?_, h.once⟩)
    obtain ⟨e, he, heq⟩ := List.mem_map.mp hmem
    exact hfresh.2 e he heq
  · rcases List.mem_cons.mp (hout.mem_iff.mp he) with rfl | hold
    · exact hfresh.1
    · exact h.nonzero e hold

theorem CompletionInv.storeJobId (h : CompletionInv s) {job : Nat} {jobId : UInt32}
    (hpc : s.data = .accepted job jobId) : CompletionInv (s.storeJobId job jobId) := by
  obtain ⟨stored, hnodes, hperm⟩ := h.queued
  rw [hpc] at hnodes hperm
  have hjobs := h.jobs
  rw [hnodes, List.map_append, List.nodup_append] at hjobs
  have hkept : (stored ++ [⟨job, 0⟩] : List JpegData).map
      (fun d => if d.job = job then { d with jobId } else d) = stored ++ [⟨job, jobId⟩] := by
    rw [List.map_append]
    have hsame : stored.map (fun d => if d.job = job then { d with jobId } else d) = stored.map id := by
      refine List.map_congr_left fun d hd => if_neg fun he => ?_
      exact hjobs.2.2 d.job (List.mem_map_of_mem hd) job List.mem_cons_self he
    rw [hsame, List.map_id, List.map_singleton, if_pos rfl]
  have hjobsOf : (stored ++ [⟨job, jobId⟩] : List JpegData).map JpegData.job =
      s.ongoingJpegQ.nodes.map JpegData.job := by
    rw [hnodes, List.map_append, List.map_append]
    rfl
  unfold JpegProc.storeJobId
  rw [hnodes, current, hkept]
  refine ⟨h.active, h.saveActive, ⟨stored ++ [⟨job, jobId⟩], (List.append_nil _).symm, ?_⟩, h.once,
    h.nonzero, ?_, fun data hdata => ?_, h.removed⟩
  · rw [List.map_append, accepting, List.append_nil]
    exact hperm
  · exact hjobsOf ▸ h.jobs
  · obtain ⟨d, hd, heq⟩ := List.mem_map.mp (hjobsOf ▸ List.mem_map_of_mem hdata)
    exact heq ▸ h.earlier d hd

variable {op : JpegProcOp}

theorem CompletionInv.step (h : CompletionInv s) (hfresh : FreshIds s op)
    (htimely : Timely s op) (hstep : s.step op = some t) : CompletionInv t := by
  cases op with
  | doNextJob nodeOk =>
    simp only [JpegProc.step] at hstep
    split at hstep
    next hidle =>
      cases Option.some.inj hstep
      exact h.doNextJob hidle nodeOk
    next => cases hstep
  | encodeFails =>
    simp only [JpegProc.step] at hstep
    split at hstep
    next hpc =>
      cases Option.some.inj hstep
      exact h.encodeFails hpc
    next => cases hstep
  | startJob jobId =>
    simp only [JpegProc.step] at hstep
    split at hstep
    next hpc =>
      cases Option.some.inj hstep
      exact h.startJob hpc hfresh
    next => cases hstep
  | storeJobId =>
    simp only [JpegProc.step] at hstep
    split at hstep
    next hpc =>
      cases Option.some.inj hstep
      exact h.storeJobId hpc
    next => cases hstep
  | processJpegEvt evt longshot allocOk nodeOk =>
    simp only [JpegProc.step] at hstep
    split at hstep
    next hmem =>
      cases Option.some.inj hstep
      exact (h.processJpegEvt hmem longshot allocOk nodeOk).1 htimely
    next => cases hstep
  | saveDequeue =>
    simp only [JpegProc.step, QCameraQueue.dequeue, h.saveActive, if_true] at hstep
    split at hstep
    next evt inputSaveQ hsave hdeq =>
      cases Option.some.inj hstep
      obtain ⟨hhead, rfl⟩ := Prod.mk.inj hdeq
      refine h.moveEvts rfl h.saveActive.symm rfl rfl rfl ?_
      have hcons : s.inputSaveQ.nodes = evt :: s.inputSaveQ.nodes.tail :=
        (List.cons_head?_tail hhead).symm
      simp only [outstanding, hsave, Option.toList_none, List.append_nil, Option.toList_some,
        List.append_assoc]
      grind
    next => cases hstep
  | saveFlush =>
    simp only [JpegProc.step] at hstep
    split at hstep
    next evt hsave =>
      cases Option.some.inj hstep
      exact (takesEvt_save hsave).flushJob h (htimely evt hsave)
    next => cases hstep

theorem CompletionInv.breaks (h : CompletionInv s) (hearly : ¬Timely s op) :
    ∃ t, s.step op = some t ∧ ¬CompletionsRight t := by
  cases op with
  | processJpegEvt evt longshot allocOk nodeOk =>
    have hmem : evt ∈ s.encoder := by
      by_contra hno
      exact hearly fun hin => absurd hin hno
    exact ⟨_, if_pos hmem, (h.processJpegEvt hmem longshot allocOk nodeOk).2 hearly⟩
  | saveFlush =>
    simp only [Timely, not_forall, not_not] at hearly
    obtain ⟨evt, hsave, hpc⟩ := hearly
    have hsome : s.save = some evt := hsave
    refine ⟨_, ?_, (takesEvt_save hsome).flushJob_early h hpc⟩
    simp only [JpegProc.step, hsome]
  | doNextJob nodeOk => exact absurd trivial hearly
  | encodeFails => exact absurd trivial hearly
  | startJob jobId => exact absurd trivial hearly
  | storeJobId => exact absurd trivial hearly
  | saveDequeue => exact absurd trivial hearly

/-- Whatever the order, `m_ongoingJpegQ` stays in use and the ids of the events are not zero. -/
structure IdsInv (s : JpegProc) : Prop where
  active : s.ongoingJpegQ.active = true
  nonzero : ∀ evt ∈ s.outstanding, evt.jobId ≠ 0

theorem IdsInv.flushJob (h : IdsInv s) (evt : JpegEvt) : IdsInv (s.flushJob evt) := by
  unfold JpegProc.flushJob QCameraQueue.flushNodes
  rw [if_pos h.active]
  exact ⟨h.active, h.nonzero⟩

theorem IdsInv.of_subset (h : IdsInv s) (hq : t.ongoingJpegQ.active = s.ongoingJpegQ.active)
    (hout : t.outstanding ⊆ s.outstanding) : IdsInv t :=
  ⟨hq.trans h.active, fun evt he => h.nonzero evt (hout he)⟩

theorem IdsInv.processJpegEvt (h : IdsInv s) (hmem : evt ∈ s.encoder)
    (longshot allocOk nodeOk : Bool) : IdsInv
      ({ s with encoder := s.encoder.erase evt }.processJpegEvt evt longshot allocOk nodeOk) := by
  have htakes := takesEvt_encoder hmem
  have htaken : IdsInv { s with encoder := s.encoder.erase evt } := by
    refine h.of_subset rfl fun e he => ?_
    exact htakes.outstanding.mem_iff.mpr (List.mem_cons_of_mem _ he)
  unfold JpegProc.processJpegEvt
  split
  · split
    · exact ⟨htaken.active, htaken.nonzero⟩
    split
    next inputSaveQ henq =>
      refine h.of_subset rfl fun e he => ?_
      unfold QCameraQueue.enqueue at henq
      split at henq
      · cases henq
        simp only [outstanding, List.mem_append, List.mem_singleton] at he ⊢
        grind
      · cases henq
    next => exact ⟨htaken.active, htaken.nonzero⟩
  · exact htaken.flushJob evt

theorem IdsInv.step (h : IdsInv s) (hfresh : FreshIds s op)
    (hstep : s.step op = some t) : IdsInv t := by
  cases op with
  | doNextJob nodeOk =>
    simp only [JpegProc.step] at hstep
    split at hstep
    next =>
      cases Option.some.inj hstep
      refine h.of_subset ?_ ?_ <;> unfold JpegProc.doNextJob QCameraQueue.enqueue
      · cases nodeOk && s.ongoingJpegQ.active <;> rfl
      · cases nodeOk && s.ongoingJpegQ.active <;> exact List.Subset.refl _
    next => cases hstep
  | encodeFails =>
    simp only [JpegProc.step] at hstep
    split at hstep
    next =>
      cases Option.some.inj hstep
      unfold JpegProc.encodeFails QCameraQueue.dequeueLast
      rw [if_pos h.active]
      exact ⟨h.active, h.nonzero⟩
    next => cases hstep
  | startJob jobId =>
    simp only [JpegProc.step] at hstep
    split at hstep
    next =>
      cases Option.some.inj hstep
      refine ⟨h.active, fun e he => ?_⟩
      simp only [outstanding, List.mem_append, List.mem_singleton] at he
      rcases he with ((he | rfl) | he) | he
      · exact h.nonzero e (by simp [outstanding, he])
      · exact hfresh.1
      · exact h.nonzero e (by simp [outstanding, he])
      · exact h.nonzero e (by simp [outstanding, he])
    next => cases hstep
  | storeJobId =>
    simp only [JpegProc.step] at hstep
    split at hstep
    next =>
      cases Option.some.inj hstep
      exact ⟨h.active, h.nonzero⟩
    next => cases hstep
  | processJpegEvt evt longshot allocOk nodeOk =>
    simp only [JpegProc.step] at hstep
    split at hstep
    next hmem =>
      cases Option.some.inj hstep
      exact h.processJpegEvt hmem longshot allocOk nodeOk
    next => cases hstep
  | saveDequeue =>
    simp only [JpegProc.step] at hstep
    split at hstep
    next evt inputSaveQ hsave hdeq =>
      cases Option.some.inj hstep
      refine h.of_subset rfl fun e he => ?_
      unfold QCameraQueue.dequeue at hdeq
      split at hdeq
      · obtain ⟨hhead, rfl⟩ := Prod.mk.inj hdeq
        simp only [outstanding, List.mem_append, Option.toList_some, List.mem_singleton] at he ⊢
        rcases he with (he | he) | rfl
        · exact Or.inl (Or.inl he)
        · exact Or.inl (Or.inr (List.mem_of_mem_tail he))
        · exact Or.inl (Or.inr (List.mem_of_mem_head? hhead))
      · cases hdeq
    next => cases hstep
  | saveFlush =>
    simp only [JpegProc.step] at hstep
    split at hstep
    next evt hsave =>
      cases Option.some.inj hstep
      have htaken : IdsInv { s with save := none } := by
        refine h.of_subset rfl fun e he => ?_
        simp only [outstanding, Option.toList_none, List.append_nil] at he
        exact List.mem_append_left _ he
      exact htaken.flushJob evt
    next => cases hstep

/-- All along a run each completion event takes its own job from `m_ongoingJpegQ` and each failure the
job that failed, exactly if no event is lost on its way to the save thread or comes before the id of its
job is stored. `releaseSaveJobData` takes the job of its event just if that is the first one. -/
theorem completions_right_iff (ops : List JpegProcOp) (ids : OpsMeet step FreshIds {} ops) :
    (Always step CompletionsRight {} ops ↔ OpsMeet step Timely {} ops) ∧
    (∀ s evt, runOps step {} ops = some s → evt ∈ s.outstanding →
      ((s.releaseSaveJobData evt).removals = s.removals ++ [⟨evt.job, [evt.job]⟩] ↔
        s.ongoingJpegQ.nodes.head?.map JpegData.job = some evt.job)) := by
  refine ⟨always_iff_of_keeps (fun s h => CompletionInv.right h) (fun s op t h => h.step)
    (fun s op h _ hearly => h.breaks hearly) completionInv_new ids, ?_⟩
  intro s evt hrun hout
  have keeps : ∀ (s : JpegProc) op t, IdsInv s → FreshIds s op → s.step op = some t → IdsInv t :=
    fun s op t h hok => h.step hok
  have h := run_invariant keeps ⟨rfl, by simp [outstanding]⟩ ids hrun
  unfold releaseSaveJobData findJpegJobByJobId QCameraQueue.dequeue
  rw [if_neg (h.nonzero evt hout), h.active, if_pos rfl]
  simp only [logs, List.append_cancel_left_eq, List.cons.injEq, Removal.mk.injEq, true_and, and_true]
  simp

/-- Two jobs whose events come the other way round, one of them by the save thread. -/
def swappedEvents : List JpegProcOp :=
  [.doNextJob true, .startJob 257, .storeJobId, .doNextJob true, .startJob 258, .storeJobId,
    .processJpegEvt ⟨1, 258⟩ true true true, .processJpegEvt ⟨0, 257⟩ false true true, .saveDequeue,
    .saveFlush]

theorem swappedEvents_right : Always step CompletionsRight {} swappedEvents := by
  exact (completions_right_iff swappedEvents (by decide)).1.mpr (by decide)

/-- The event of a job comes before `start_job` has returned, and the job is never released. -/
theorem early_event_keeps_job : ¬∀ ops, OpsMeet step FreshIds {} ops → Always step CompletionsRight {} ops := by
  intro h
  have hrun := h [.doNextJob true, .startJob 257, .processJpegEvt ⟨0, 257⟩ false true true, .storeJobId]
    (by decide)
  have hlast := hrun.last rfl
  have hnone := hlast.emptied rfl rfl
  cases hnone

end JpegProc

end DeviceHal.Camera
