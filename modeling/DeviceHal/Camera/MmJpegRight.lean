import DeviceHal.Camera.MmJpegInv

namespace DeviceHal.Camera

/-- The job that an OMX session was chosen for, before it has the data. -/
def JobMgr.chosen : JobMgr → Option (JobNode × SessionId)
  | takesBuffer n id | enqueues n id | setsJob n id => some (n, id)
  | waits | checksOngoing | dequeues | takesHandle _ | readsHead _ | putsBack _ _ | encodes _ _ | reports _
  | finishes _ _ => none

def JobMgr.buffered : JobMgr → Option (JobNode × SessionId)
  | enqueues n id | setsJob n id => some (n, id)
  | waits | checksOngoing | dequeues | takesHandle _ | readsHead _ | putsBack _ _ | takesBuffer _ _ | encodes _ _
  | reports _ | finishes _ _ => none

/-- The OMX session whose job the job thread submits or gives up. -/
def JobMgr.serves : JobMgr → Option SessionId
  | encodes id .begins | encodes id .configures | encodes id .starts | encodes id .emptiesMain | reports id
  | finishes id .removes | finishes id .enqueuesHandle => some id
  | waits | checksOngoing | dequeues | takesHandle _ | readsHead _ | putsBack _ _ | takesBuffer _ _ | enqueues _ _
  | setsJob _ _ | encodes _ .emptiesThumb | encodes _ .fills | finishes _ .enqueuesBuffer | finishes _ .posts => none

def Callback.serves : Callback → Bool
  | reports | finishes .removes | finishes .enqueuesHandle => true
  | idle | finishes .enqueuesBuffer | finishes .posts => false

def JpegOp.aborts : JpegOp → Bool
  | abortJob _ => true
  | startJob _ _ _ | startPosts | mgrStep _ | omxRaises _ _ _ | omxChangesState _ | cbStep _ | abortStep _ => false

namespace MmJpeg

/-- The job whose data the OMX session has is still to be finished there. -/
def Unfinished (s : MmJpeg) (id : SessionId) : Prop :=
  s.mgr.serves = some id ∨ (s.sess id).cb.serves = true ∨
    ∃ num ∈ s.pending id, num ∉ s.failed ∧ (s.sess id).job = some num

def WorksOn (s : MmJpeg) (id : SessionId) (num : Nat) : Prop :=
  (∃ n, s.mgr.chosen = some (n, id) ∧ n.num = num) ∨ (s.sess id).job = some num ∧ s.Unfinished id

/-- The OMX session has the output buffer for the job that it works on or has just finished. -/
def HasBuffer (s : MmJpeg) (id : SessionId) (b : Nat) : Prop :=
  (s.sess id).autoOutBuf = true ∧
    ((∃ n, s.mgr.buffered = some (n, id) ∧ n.dstIndex + 1 = b) ∨
      (s.Unfinished id ∨ s.Returning id) ∧ (s.sess id).dstIndex + 1 = b)

/-- No node, call of `jpeg_cb`, OMX session, output buffer or post is lost or there twice. -/
structure JobsRight (c : JpegSetup) (s : MmJpeg) : Prop where
  placed : ∀ num, num < s.accepted → s.jobs.places num = 1
  once : ∀ num, s.called.count num ≤ 1
  completed : ∀ num ∈ s.freed, num ∉ s.aborted → s.called.count num = 1
  uncalled : ∀ num ∈ s.aborted, num ∈ s.freed ∧ num ∉ s.called
  handles : ∀ q, (s.handleQ q).Nodup ∧ ∀ id ∈ s.handleQ q, c.active id = true ∧ c.queues id = q
  available : ∀ id, c.active id = true → (id ∈ s.handleQ (c.queues id) ↔ ∀ num, ¬s.WorksOn id num)
  oneJob : ∀ id num num', s.WorksOn id num → s.WorksOn id num' → num = num'
  oneSession : ∀ id id' num, s.WorksOn id num → s.WorksOn id' num → id = id'
  buffers : ∀ q b, 1 ≤ b → b ≤ c.numDstBufs q →
    (s.outBufQ q).count b = 1 ∧ (∀ id, c.queues id = q → ¬s.HasBuffer id b) ∨
      (s.outBufQ q).count b = 0 ∧ ∃! id, c.queues id = q ∧ s.HasBuffer id b
  awake : s.mgr = .waits → s.todo ≠ [] → s.jobSem = 0 →
    0 < s.posting ∨ ∃ id, (s.sess id).cb ≠ .idle ∨ ∃ n ∈ s.ongoing, n.num ∈ s.pending id ∧ n.num ∉ s.failed

/-- A step of the job thread that does not run into a defect: an automatic output buffer is there and
the one of the last job is back, no ongoing job has the id of the new one, and no buffer is refused
when the event of the job has come. -/
def OrderlyMgr (c : JpegSetup) (s : MmJpeg) (ok : Bool) : JobMgr → Prop
  | .takesBuffer n id =>
    (s.sess id).cb ≠ .finishes .enqueuesBuffer ∧ (n.dstIndex < 0 → s.outBufQ (c.queues id) ≠ [])
  | .enqueues n _ => ∀ m ∈ s.ongoing, m.jobId ≠ n.jobId
  | .encodes id .emptiesThumb | .encodes id .fills => ok = true ∨ ∃ num ∈ s.pending id, num ∉ s.failed
  | .waits | .checksOngoing | .dequeues | .takesHandle _ | .readsHead _ | .putsBack _ _ | .setsJob _ _
  | .encodes _ .begins | .encodes _ .configures | .encodes _ .starts | .encodes _ .emptiesMain | .reports _
  | .finishes _ _ => True

/-- A step that does not run into a defect: beside those of the job thread, no event comes for a job that
was given up, and only jobs that are to do are aborted. -/
def Orderly (c : JpegSetup) (s : MmJpeg) : JpegOp → Prop
  | .mgrStep ok => s.OrderlyMgr c ok s.mgr
  | .omxRaises id num event => num ∉ s.failed ∨ event = .error ∧ (s.sess id).encoding = false
  | .abortJob jobId =>
    (∀ m ∈ s.ongoing, m.jobId ≠ jobId) ∧
      ∀ m ∈ s.todo, ∀ m' ∈ s.todo, m.jobId = jobId → m'.jobId = jobId → m = m'
  | .startJob _ _ _ | .startPosts | .omxChangesState _ | .cbStep _ | .abortStep _ => True

instance decidableOrderlyMgr (c : JpegSetup) (s : MmJpeg) (ok : Bool) : ∀ mgr, Decidable (s.OrderlyMgr c ok mgr)
  | .takesBuffer n id => inferInstanceAs (Decidable
      ((s.sess id).cb ≠ .finishes .enqueuesBuffer ∧ (n.dstIndex < 0 → s.outBufQ (c.queues id) ≠ [])))
  | .enqueues n _ => inferInstanceAs (Decidable (∀ m ∈ s.ongoing, m.jobId ≠ n.jobId))
  | .encodes id .emptiesThumb => inferInstanceAs (Decidable (ok = true ∨ ∃ num ∈ s.pending id, num ∉ s.failed))
  | .encodes id .fills => inferInstanceAs (Decidable (ok = true ∨ ∃ num ∈ s.pending id, num ∉ s.failed))
  | .waits | .checksOngoing | .dequeues | .takesHandle _ | .readsHead _ | .putsBack _ _ | .setsJob _ _
  | .encodes _ .begins | .encodes _ .configures | .encodes _ .starts | .encodes _ .emptiesMain | .reports _
  | .finishes _ _ => isTrue trivial

instance (c : JpegSetup) (s : MmJpeg) : ∀ op, Decidable (s.Orderly c op)
  | .mgrStep ok => s.decidableOrderlyMgr c ok s.mgr
  | .omxRaises id num event =>
    inferInstanceAs (Decidable (num ∉ s.failed ∨ event = .error ∧ (s.sess id).encoding = false))
  | .abortJob jobId => inferInstanceAs (Decidable ((∀ m ∈ s.ongoing, m.jobId ≠ jobId) ∧
      ∀ m ∈ s.todo, ∀ m' ∈ s.todo, m.jobId = jobId → m'.jobId = jobId → m = m'))
  | .startJob _ _ _ | .startPosts | .omxChangesState _ | .cbStep _ | .abortStep _ => isTrue trivial

variable {c : JpegSetup} {s s' : MmJpeg} {ph : SessionId → Phase} {id : SessionId} {p : Phase} {n : JobNode}

theorem charge_of_serves {mgr : JobMgr} (h : mgr.serves = some id) : mgr.charge = some id := by
  cases mgr with
  | encodes id' pc => cases pc <;> exact h
  | finishes id' pc => cases pc <;> exact h
  | reports id' => exact h
  | _ => cases h

theorem loadedNode_of_serves {mgr : JobMgr} (hm : MgrOk mgr id p) (h : mgr.serves = some id) :
    ∃ n, p.loadedNode = some n := by
  have hby := hm.charge.mp (charge_of_serves h)
  cases p with
  | chosen n =>
    rw [show mgr = .takesBuffer n id from hm] at h
    cases h
  | buffered n =>
    rw [show mgr = .enqueues n id from hm] at h
    cases h
  | queued n =>
    rw [show mgr = .setsJob n id from hm] at h
    cases h
  | loaded n => exact ⟨n, rfl⟩
  | failing n => exact ⟨n, rfl⟩
  | mgrCalled n => exact ⟨n, rfl⟩
  | mgrFreed n => exact ⟨n, rfl⟩
  | _ => cases hby

theorem loadedNode_of_cb {cb : Callback} (hcb : CbOk cb p) (h : cb.serves = true) : ∃ n, p.loadedNode = some n := by
  cases p with
  | reporting n => exact ⟨n, rfl⟩
  | cbCalled n => exact ⟨n, rfl⟩
  | cbFreed n => exact ⟨n, rfl⟩
  | free => rcases hcb with rfl | rfl | rfl <;> cases h
  | chosen n => rcases hcb with rfl | rfl | rfl <;> cases h
  | _ => rcases hcb with rfl | rfl <;> cases h

theorem serves_of_loads {mgr : JobMgr} (h : mgr.loads id) : mgr.serves = some id := by
  cases mgr with
  | encodes id' pc => cases pc <;> first | exact congrArg some h | exact h.elim
  | _ => exact h.elim

theorem unfinished_iff (h : SlotOk c s id p) : s.Unfinished id ↔ ∃ n, p.loadedNode = some n := by
  constructor
  · rintro (hserves | hserves | ⟨num, hmem, hun, -⟩)
    · exact loadedNode_of_serves h.mgr hserves
    · exact loadedNode_of_cb h.cb hserves
    · have homx := h.omx
      cases p with
      | submitted n => exact ⟨n, rfl⟩
      | _ => exact absurd (homx num hmem) hun
  · rintro ⟨n, hn⟩
    obtain ⟨hmgr, hcb, homx, hdata, -, -, -, -, -⟩ := h
    cases p with
    | loaded m => exact Or.inl (serves_of_loads hmgr)
    | failing m =>
      left
      rw [show s.mgr = .reports id from hmgr]
      rfl
    | mgrCalled m =>
      left
      rw [show s.mgr = .finishes id .removes from hmgr]
      rfl
    | mgrFreed m =>
      left
      rw [show s.mgr = .finishes id .enqueuesHandle from hmgr]
      rfl
    | submitted m => exact Or.inr (Or.inr ⟨m.num, homx.1, homx.2.1, (hdata m rfl).1⟩)
    | reporting m =>
      right; left
      rw [show (s.sess id).cb = .reports from hcb]
      rfl
    | cbCalled m =>
      right; left
      rw [show (s.sess id).cb = .finishes .removes from hcb]
      rfl
    | cbFreed m =>
      right; left
      rw [show (s.sess id).cb = .finishes .enqueuesHandle from hcb]
      rfl
    | _ => cases hn

theorem chosen_iff (h : MgrOk s.mgr id p) :
    s.mgr.chosen = some (n, id) ↔ p = .chosen n ∨ p = .buffered n ∨ p = .queued n := by
  constructor
  · intro hc
    generalize s.mgr = mgr at h hc
    cases mgr with
    | takesBuffer m id' =>
      cases hc
      exact Or.inl (phase_of_takesBuffer h)
    | enqueues m id' =>
      cases hc
      exact Or.inr (Or.inl (phase_of_enqueues h))
    | setsJob m id' =>
      cases hc
      exact Or.inr (Or.inr (phase_of_setsJob h))
    | _ => cases hc
  · rintro (rfl | rfl | rfl)
    · rw [show s.mgr = .takesBuffer n id from h]
      rfl
    · rw [show s.mgr = .enqueues n id from h]
      rfl
    · rw [show s.mgr = .setsJob n id from h]
      rfl

theorem buffered_iff (h : MgrOk s.mgr id p) :
    s.mgr.buffered = some (n, id) ↔ p = .buffered n ∨ p = .queued n := by
  constructor
  · intro hc
    generalize s.mgr = mgr at h hc
    cases mgr with
    | enqueues m id' =>
      cases hc
      exact Or.inl (phase_of_enqueues h)
    | setsJob m id' =>
      cases hc
      exact Or.inr (phase_of_setsJob h)
    | _ => cases hc
  · rintro (rfl | rfl)
    · rw [show s.mgr = .enqueues n id from h]
      rfl
    · rw [show s.mgr = .setsJob n id from h]
      rfl

theorem worksOn_iff (h : SlotOk c s id p) {num : Nat} : s.WorksOn id num ↔ ∃ n, p.node = some n ∧ n.num = num := by
  have hsplit : ∀ n, p.node = some n ↔ (p = .chosen n ∨ p = .buffered n ∨ p = .queued n) ∨ p.loadedNode = some n := by
    intro n
    cases p <;> simp [Phase.node, Phase.loadedNode]
  unfold WorksOn
  rw [unfinished_iff h]
  constructor
  · rintro (⟨n, hn, he⟩ | ⟨hjob, n, hn⟩)
    · exact ⟨n, (hsplit n).mpr (Or.inl ((chosen_iff h.mgr).mp hn)), he⟩
    · rw [(h.data n hn).1] at hjob
      exact ⟨n, (hsplit n).mpr (Or.inr hn), Option.some.inj hjob⟩
  · rintro ⟨n, hn, rfl⟩
    rcases (hsplit n).mp hn with hc | hloaded
    · exact Or.inl ⟨n, (chosen_iff h.mgr).mpr hc, rfl⟩
    · exact Or.inr ⟨(h.data n hloaded).1, n, hloaded⟩

theorem hasBuffer_iff (h : ∀ id, SlotOk c s id (ph id)) {b : Nat} : s.HasBuffer id b ↔ s.Holds ph id b := by
  have hsplit : ∀ n, (ph id).bound = some n ↔
      (ph id = .buffered n ∨ ph id = .queued n) ∨ (ph id).loadedNode = some n := by
    intro n
    cases ph id <;> simp [Phase.bound, Phase.loadedNode]
  unfold HasBuffer Holds
  rw [unfinished_iff (h id)]
  refine and_congr_right fun _ => ?_
  constructor
  · rintro (⟨n, hn, he⟩ | ⟨⟨n, hn⟩ | hret, he⟩)
    · exact Or.inl ⟨n, (hsplit n).mpr (Or.inl ((buffered_iff (h id).mgr).mp hn)), he⟩
    · refine Or.inl ⟨n, (hsplit n).mpr (Or.inr hn), ?_⟩
      rw [← ((h id).data n hn).2.2]
      exact he
    · exact Or.inr ⟨hret, he⟩
  · rintro (⟨n, hn, he⟩ | ⟨hret, he⟩)
    · rcases (hsplit n).mp hn with hbuf | hloaded
      · exact Or.inl ⟨n, (buffered_iff (h id).mgr).mpr hbuf, he⟩
      · refine Or.inr ⟨Or.inl ⟨n, hloaded⟩, ?_⟩
        rw [((h id).data n hloaded).2.2]
        exact he
    · exact Or.inr ⟨Or.inr hret, he⟩

end MmJpeg

namespace JpegInv

open MmJpeg

variable {c : JpegSetup} {s s' : MmJpeg} {ph : SessionId → Phase} {id : SessionId} {n : JobNode}

theorem buffers (h : JpegInv c s ph) (q b : Nat) (hlow : 1 ≤ b) (hhigh : b ≤ c.numDstBufs q) :
    (s.outBufQ q).count b = 1 ∧ (∀ id, c.queues id = q → ¬s.HasBuffer id b) ∨
      (s.outBufQ q).count b = 0 ∧ ∃! id, c.queues id = q ∧ s.HasBuffer id b := by
  by_cases hin : b ∈ s.outBufQ q
  · refine Or.inl ⟨List.count_eq_one_of_mem (h.bufs.nodup q) hin, fun id hq hhas => ?_⟩
    have hnot := (h.bufs.held id b ((hasBuffer_iff h.slots).mp hhas)).1
    rw [hq, Int.toNat_natCast] at hnot
    exact hnot hin
  · obtain ⟨id, hq, hheld⟩ := (h.bufs.somewhere q b hlow hhigh).resolve_left hin
    refine Or.inr ⟨List.count_eq_zero.mpr hin, id, ⟨hq, (hasBuffer_iff h.slots).mpr hheld⟩, ?_⟩
    rintro id' ⟨hq', hhas'⟩
    exact h.bufs.one id' id b ((hasBuffer_iff h.slots).mp hhas') hheld (hq'.trans hq.symm)

theorem somebody (h : JpegInv c s ph) (hpc : s.mgr = .waits) (htodo : s.todo ≠ []) (hsem : s.jobSem = 0) :
    0 < s.posting ∨ ∃ id, (s.sess id).cb ≠ .idle ∨ ∃ n ∈ s.ongoing, n.num ∈ s.pending id ∧ n.num ∉ s.failed := by
  rcases h.awake (by rw [hpc]; rfl) (fun _ => htodo) with hpos | hposting | ⟨id, hbusy | hcb⟩
  · omega
  · exact Or.inl hposting
  · refine Or.inr ⟨id, ?_⟩
    have hslot := h.slots id
    have hmgr : (ph id).byMgr ≠ true := by
      intro hby
      have hcharge := hslot.mgr.charge.mpr hby
      rw [hpc] at hcharge
      cases hcharge
    have hongoing := h.jobs.ongoing
    generalize hp : ph id = p at hslot hbusy hmgr
    cases p with
    | submitted n =>
      exact Or.inr ⟨n, (hongoing n).mpr ⟨id, by rw [hp]; rfl⟩, hslot.omx.1, hslot.omx.2.1⟩
    | reporting n =>
      left
      rw [show (s.sess id).cb = .reports from hslot.cb]
      nofun
    | cbCalled n =>
      left
      rw [show (s.sess id).cb = .finishes .removes from hslot.cb]
      nofun
    | cbFreed n =>
      left
      rw [show (s.sess id).cb = .finishes .enqueuesHandle from hslot.cb]
      nofun
    | free => exact absurd rfl hbusy
    | _ => exact absurd rfl hmgr
  · exact Or.inr ⟨id, Or.inl hcb⟩

theorem jobsRight (h : JpegInv c s ph) : s.JobsRight c where
  placed num hlt := (h.jobs.placed num).trans (if_pos hlt)
  once := h.jobs.called_le
  completed num hfreed hno := (h.jobs.freed num hfreed).trans (if_neg hno)
  uncalled num hin := by
    have hfreed := h.jobs.aborted num hin
    exact ⟨hfreed, List.count_eq_zero.mp ((h.jobs.freed num hfreed).trans (if_pos hin))⟩
  handles q := by
    refine ⟨h.nodup q, fun id hid => ?_⟩
    have hq := h.member q id hid
    rw [← hq] at hid
    exact ⟨((h.slots id).handle.mp hid).1, hq⟩
  available id hactive := by
    rw [(h.slots id).handle]
    simp only [worksOn_iff (h.slots id)]
    constructor
    · rintro ⟨-, hfree⟩ num ⟨n, hn, -⟩
      rw [hfree] at hn
      cases hn
    · intro hno
      refine ⟨hactive, ?_⟩
      generalize ph id = p at hno
      cases p with
      | free => rfl
      | _ n => exact absurd ⟨n, rfl, rfl⟩ (hno n.num)
  oneJob id num num' h₁ h₂ := by
    obtain ⟨n, hn, rfl⟩ := (worksOn_iff (h.slots id)).mp h₁
    obtain ⟨n', hn', rfl⟩ := (worksOn_iff (h.slots id)).mp h₂
    rw [hn] at hn'
    rw [Option.some.inj hn']
  oneSession id id' num h₁ h₂ := by
    obtain ⟨n, hn, rfl⟩ := (worksOn_iff (h.slots id)).mp h₁
    obtain ⟨n', hn', he⟩ := (worksOn_iff (h.slots id')).mp h₂
    exact h.jobs.inj id id' n n' hn hn' he.symm
  buffers := h.buffers
  awake := h.somebody

end JpegInv

end DeviceHal.Camera
