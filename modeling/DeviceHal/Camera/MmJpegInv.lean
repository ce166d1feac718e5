import DeviceHal.Camera.MmJpegJobs

namespace DeviceHal.Camera

namespace MmJpeg

/-- A thread is about to give the output buffer of the OMX session back. -/
def Returning (s : MmJpeg) (id : SessionId) : Prop :=
  (s.sess id).cb = .finishes .enqueuesBuffer ∨ s.mgr = .finishes id .enqueuesBuffer

/-- The OMX session has an output buffer that was taken for it from the queue: that of its job, or one
that is about to go back. -/
def Holds (s : MmJpeg) (ph : SessionId → Phase) (id : SessionId) (b : Int) : Prop :=
  (s.sess id).autoOutBuf = true ∧
    ((∃ n, (ph id).bound = some n ∧ n.dstIndex + 1 = b) ∨ s.Returning id ∧ (s.sess id).dstIndex + 1 = b)

end MmJpeg

open MmJpeg

/-- Each output buffer is in its queue or with one OMX session. -/
structure BufsInv (c : JpegSetup) (s : MmJpeg) (ph : SessionId → Phase) : Prop where
  nodup : ∀ q, (s.outBufQ q).Nodup
  range : ∀ q, ∀ b ∈ s.outBufQ q, 1 ≤ b ∧ b ≤ c.numDstBufs q
  held : ∀ id b, s.Holds ph id b → b.toNat ∉ s.outBufQ (c.queues id) ∧ 1 ≤ b ∧ b ≤ c.numDstBufs (c.queues id)
  one : ∀ id id' b, s.Holds ph id b → s.Holds ph id' b → c.queues id = c.queues id' → id = id'
  somewhere : ∀ q (b : Nat), 1 ≤ b → b ≤ c.numDstBufs q → b ∈ s.outBufQ q ∨ ∃ id, c.queues id = q ∧ s.Holds ph id b

namespace BufsInv

variable {c : JpegSetup} {s s' : MmJpeg} {ph ph' : SessionId → Phase} {id : SessionId} {p : Phase} {b : Int}

theorem congr (h : BufsInv c s ph) (hqueue : s'.outBufQ = s.outBufQ)
    (hholds : ∀ id b, s'.Holds ph' id b ↔ s.Holds ph id b) : BufsInv c s' ph' := by
  refine ⟨?_, ?_, ?_, ?_, ?_⟩
  · rw [hqueue]
    exact h.nodup
  · rw [hqueue]
    exact h.range
  · intro id b
    rw [hqueue, hholds]
    exact h.held id b
  · intro id id' b
    rw [hholds, hholds]
    exact h.one id id' b
  · intro q b
    simp only [hqueue, hholds]
    exact h.somewhere q b

theorem take {b : Nat} {rest : List Nat} (h : BufsInv c s ph) (hfirst : s.outBufQ (c.queues id) = b :: rest)
    (hqueue : s'.outBufQ = Function.update s.outBufQ (c.queues id) rest)
    (hself : ∀ b', s'.Holds ph' id b' ↔ b' = b) (hnone : ∀ b', ¬s.Holds ph id b')
    (hother : ∀ id' b', id' ≠ id → (s'.Holds ph' id' b' ↔ s.Holds ph id' b')) : BufsInv c s' ph' := by
  have hnodup := h.nodup (c.queues id)
  rw [hfirst, List.nodup_cons] at hnodup
  have hrange := h.range (c.queues id)
  rw [hfirst] at hrange
  have hmem : ∀ q b', b' ∈ s'.outBufQ q → b' ∈ s.outBufQ q := by
    intro q b' hb'
    rw [hqueue] at hb'
    by_cases he : q = c.queues id
    · grind
    · rw [Function.update_of_ne he] at hb'
      exact hb'
  have hholds : ∀ id' b', s'.Holds ph' id' b' → id' = id ∧ b' = b ∨ id' ≠ id ∧ s.Holds ph id' b' := by
    intro id' b' hh
    by_cases he : id' = id
    · rw [he] at hh
      exact Or.inl ⟨he, (hself b').mp hh⟩
    · exact Or.inr ⟨he, (hother id' b' he).mp hh⟩
  have hfree : ∀ id', c.queues id' = c.queues id → ¬s.Holds ph id' b := by
    intro id' hq hh
    have hnot := (h.held id' b hh).1
    rw [hq, hfirst, Int.toNat_natCast] at hnot
    exact hnot List.mem_cons_self
  refine ⟨?_, fun q b' hb' => h.range q b' (hmem q b' hb'), ?_, ?_, ?_⟩
  · intro q
    rw [hqueue]
    by_cases he : q = c.queues id
    · rw [he, Function.update_self]
      exact hnodup.2
    · rw [Function.update_of_ne he]
      exact h.nodup q
  · intro id' b' hh
    rcases hholds id' b' hh with ⟨rfl, rfl⟩ | ⟨he, hold⟩
    · rw [hqueue, Function.update_self, Int.toNat_natCast]
      have hr := hrange b List.mem_cons_self
      exact ⟨hnodup.1, by omega, by omega⟩
    · obtain ⟨hnot, hr⟩ := h.held id' b' hold
      exact ⟨fun hin => hnot (hmem _ _ hin), hr⟩
  · intro id₁ id₂ b' h₁ h₂ hq
    rcases hholds id₁ b' h₁ with ⟨he₁, hb⟩ | ⟨he₁, hold₁⟩
    · grind
    · rcases hholds id₂ b' h₂ with ⟨he₂, hb⟩ | ⟨-, hold₂⟩
      · grind
      · exact h.one id₁ id₂ b' hold₁ hold₂ hq
  · intro q b' hlow hhigh
    rcases h.somewhere q b' hlow hhigh with hin | ⟨id', hq, hh⟩
    · by_cases he : q = c.queues id
      · rw [he, hfirst] at hin
        rcases List.mem_cons.mp hin with hb | hrest
        · exact Or.inr ⟨id, he.symm, (hself b').mpr (congrArg _ hb)⟩
        · left
          rw [hqueue, he, Function.update_self]
          exact hrest
      · left
        rw [hqueue, Function.update_of_ne he]
        exact hin
    grind

theorem put (h : BufsInv c s ph) (hhas : s.Holds ph id b)
    (hqueue : s'.outBufQ = Function.update s.outBufQ (c.queues id) (s.outBufQ (c.queues id) ++ [b.toNat]))
    (hself : ∀ b', ¬s'.Holds ph' id b') (honly : ∀ b', s.Holds ph id b' → b' = b)
    (hother : ∀ id' b', id' ≠ id → (s'.Holds ph' id' b' ↔ s.Holds ph id' b')) : BufsInv c s' ph' := by
  obtain ⟨hnotin, hlow, hhigh⟩ := h.held id b hhas
  have hmem : ∀ q b', b' ∈ s'.outBufQ q ↔ b' ∈ s.outBufQ q ∨ q = c.queues id ∧ b' = b.toNat := by
    intro q b'
    rw [hqueue]
    by_cases he : q = c.queues id
    · grind
    · rw [Function.update_of_ne he]
      simp [he]
  have hholds : ∀ id' b', s'.Holds ph' id' b' → id' ≠ id ∧ s.Holds ph id' b' := by
    intro id' b' hh
    have he : id' ≠ id := by
      intro he
      rw [he] at hh
      exact hself b' hh
    exact ⟨he, (hother id' b' he).mp hh⟩
  refine ⟨?_, ?_, ?_, ?_, ?_⟩
  · intro q
    rw [hqueue]
    by_cases he : q = c.queues id
    · rw [he, Function.update_self]
      refine List.nodup_append.mpr ⟨h.nodup _, List.pairwise_singleton _ _, ?_⟩
      grind
    · rw [Function.update_of_ne he]
      exact h.nodup q
  · intro q b' hb'
    rcases (hmem q b').mp hb' with hold | ⟨rfl, rfl⟩
    · exact h.range q b' hold
    · omega
  · intro id' b' hh
    obtain ⟨he, hold⟩ := hholds id' b' hh
    obtain ⟨hnot, hr⟩ := h.held id' b' hold
    refine ⟨fun hin => ?_, hr⟩
    rcases (hmem _ b'.toNat).mp hin with hold' | ⟨hq, hb⟩
    · exact hnot hold'
    · have hb' : b' = b := by omega
      exact he (h.one id' id b' hold (hb' ▸ hhas) hq)
  · intro id₁ id₂ b' h₁ h₂ hq
    exact h.one id₁ id₂ b' (hholds id₁ b' h₁).2 (hholds id₂ b' h₂).2 hq
  · intro q b' hl hh
    rcases h.somewhere q b' hl hh with hin | ⟨id', hq, hheld⟩
    · exact Or.inl ((hmem q b').mpr (Or.inl hin))
    grind

end BufsInv

/-- Where the job thread is when somebody has to wake it up, or has been found to. -/
def JobMgr.watches : JobMgr → Bool
  | waits | readsHead _ | putsBack _ _ | encodes _ .emptiesThumb | encodes _ .fills => true
  | checksOngoing | dequeues | takesHandle _ | takesBuffer _ _ | enqueues _ _ | setsJob _ _ | encodes _ .begins
  | encodes _ .configures | encodes _ .starts | encodes _ .emptiesMain | reports _ | finishes _ _ => false

def MmJpeg.Awake (s : MmJpeg) (ph : SessionId → Phase) : Prop :=
  0 < s.jobSem ∨ 0 < s.posting ∨ ∃ id, ph id ≠ .free ∨ (s.sess id).cb ≠ .idle

structure JpegInv (c : JpegSetup) (s : MmJpeg) (ph : SessionId → Phase) : Prop where
  slots : ∀ id, SlotOk c s id (ph id)
  nodup : ∀ q, (s.handleQ q).Nodup
  member : ∀ q, ∀ id ∈ s.handleQ q, c.queues id = q
  jobs : JobsInv c s.jobs ph
  bufs : BufsInv c s ph
  awake : s.mgr.watches = true → (s.mgr = .waits → s.todo ≠ []) → s.Awake ph
  noAborter : s.aborter = .idle

variable {c : JpegSetup} {s s' : MmJpeg} {ph : SessionId → Phase} {id : SessionId} {p : Phase} {n : JobNode}

theorem phase_of_takesBuffer (h : MgrOk (.takesBuffer n id) id p) : p = .chosen n := by
  cases p <;> first | exact absurd rfl h | (cases h <;> rfl)

theorem phase_of_enqueues (h : MgrOk (.enqueues n id) id p) : p = .buffered n := by
  cases p <;> first | exact absurd rfl h | (cases h <;> rfl)

theorem phase_of_setsJob (h : MgrOk (.setsJob n id) id p) : p = .queued n := by
  cases p <;> first | exact absurd rfl h | (cases h <;> rfl)

theorem charge_of_loads {mgr : JobMgr} (h : mgr.loads id) : mgr.charge = some id := by
  cases mgr with
  | encodes id' pc => cases pc <;> first | exact congrArg some h | exact h.elim
  | _ => exact h.elim

theorem phase_of_loads {mgr : JobMgr} (h : MgrOk mgr id p) (hloads : mgr.loads id) : ∃ m, p = .loaded m := by
  have hcharge := charge_of_loads hloads
  cases mgr with
  | encodes id' pc => cases p <;> first | exact absurd hcharge h | exact ⟨_, rfl⟩ | cases h
  | _ => exact hloads.elim

theorem phase_of_reports (h : MgrOk (.reports id) id p) : ∃ m, p = .failing m := by
  cases p <;> first | exact absurd rfl h | exact ⟨_, rfl⟩ | cases h

theorem phase_of_removes (h : MgrOk (.finishes id .removes) id p) : ∃ m, p = .mgrCalled m := by
  cases p <;> first | exact absurd rfl h | exact ⟨_, rfl⟩ | cases h

theorem phase_of_enqueuesHandle (h : MgrOk (.finishes id .enqueuesHandle) id p) : ∃ m, p = .mgrFreed m := by
  cases p <;> first | exact absurd rfl h | exact ⟨_, rfl⟩ | cases h

theorem phase_of_cb_reports (h : CbOk .reports p) : ∃ m, p = .reporting m := by
  cases p <;> first | exact ⟨_, rfl⟩ | (rcases h with h | h | h <;> cases h)

theorem phase_of_cb_removes (h : CbOk (.finishes .removes) p) : ∃ m, p = .cbCalled m := by
  cases p <;> first | exact ⟨_, rfl⟩ | (rcases h with h | h | h <;> cases h)

theorem phase_of_cb_enqueuesHandle (h : CbOk (.finishes .enqueuesHandle) p) : ∃ m, p = .cbFreed m := by
  cases p <;> first | exact ⟨_, rfl⟩ | (rcases h with h | h | h <;> cases h)

theorem phase_of_cb_enqueuesBuffer (h : CbOk (.finishes .enqueuesBuffer) p) :
    p = .free ∨ ∃ m, p = .chosen m := by
  cases p <;> first | exact Or.inl rfl | exact Or.inr ⟨_, rfl⟩ | (rcases h with h | h | h <;> cases h)

/-- A step that touches one OMX session only. -/
structure Local (s s' : MmJpeg) (id : SessionId) : Prop where
  sess : ∀ id', id' ≠ id → s'.sess id' = s.sess id'
  pending : ∀ id', id' ≠ id → s'.pending id' = s.pending id'
  mgr : ∀ id' p, id' ≠ id → MgrOk s.mgr id' p → MgrOk s'.mgr id' p
  returned : ∀ id', id' ≠ id → (s'.mgr = .finishes id' .enqueuesBuffer ↔ s.mgr = .finishes id' .enqueuesBuffer)
  encoded : ∀ id', id' ≠ id → s'.mgr = .encodes id' .emptiesMain → s.mgr = .encodes id' .emptiesMain

theorem Local.of_charge (hsess : ∀ id', id' ≠ id → s'.sess id' = s.sess id')
    (hpending : ∀ id', id' ≠ id → s'.pending id' = s.pending id')
    (hbefore : ∀ id', s.mgr.charge = some id' → id' = id) (hafter : ∀ id', s'.mgr.charge = some id' → id' = id)
    (hreturned : ∀ id', id' ≠ id → (s'.mgr = .finishes id' .enqueuesBuffer ↔ s.mgr = .finishes id' .enqueuesBuffer)) :
    Local s s' id := by
  refine ⟨hsess, hpending, ?_, hreturned, ?_⟩
  · intro id' p he hm
    exact hm.other (fun hc => he (hbefore id' hc)) fun hc => he (hafter id' hc)
  · intro id' he hm
    refine absurd (hafter id' ?_) he
    rw [hm]
    rfl

theorem Local.of_at (hsess : ∀ id', id' ≠ id → s'.sess id' = s.sess id')
    (hpending : ∀ id', id' ≠ id → s'.pending id' = s.pending id') (hbefore : s.mgr.charge = some id)
    (hafter : ∀ id', s'.mgr.charge = some id' → id' = id)
    (hret : ∀ id', s'.mgr = .finishes id' .enqueuesBuffer → id' = id) : Local s s' id := by
  refine .of_charge hsess hpending (fun id' hc => ?_) hafter fun id' he => ⟨fun hm => absurd (hret id' hm) he, ?_⟩
  · rw [hbefore] at hc
    exact (Option.some.inj hc).symm
  · intro hm
    rw [hm] at hbefore
    cases hbefore

theorem Local.of_mgr (hsess : ∀ id', id' ≠ id → s'.sess id' = s.sess id')
    (hpending : ∀ id', id' ≠ id → s'.pending id' = s.pending id') (hmgr : s'.mgr = s.mgr) : Local s s' id := by
  refine ⟨hsess, hpending, ?_, ?_, ?_⟩
  · intro id' p _ hm
    rw [hmgr]
    exact hm
  · intro id' _
    rw [hmgr]
  · intro id' _ hm
    rw [← hmgr]
    exact hm

theorem Local.slots (h : ∀ id, SlotOk c s id (ph id)) (hlocal : Local s s' id) (hself : SlotOk c s' id p)
    (hhandle : ∀ id', id' ≠ id → (id' ∈ s'.handleQ (c.queues id') ↔ id' ∈ s.handleQ (c.queues id')))
    (hfailed : ∀ num ∈ s.failed, num ∈ s'.failed)
    (hunfailed : ∀ id' n, id' ≠ id → ph id' = .submitted n → n.num ∉ s.failed → n.num ∉ s'.failed) :
    ∀ id', SlotOk c s' id' (Function.update ph id p id') :=
  SlotOk.update h hself hlocal.sess hlocal.pending hhandle hfailed hunfailed (fun id' he => hlocal.mgr id' _ he)
    (fun id' he => (hlocal.returned id' he).mp) hlocal.encoded

theorem Local.holds (hlocal : Local s s' id) {id' : SessionId} (he : id' ≠ id) (b : Int) :
    s'.Holds (Function.update ph id p) id' b ↔ s.Holds ph id' b := by
  unfold Holds Returning
  rw [hlocal.sess id' he, Function.update_of_ne he, hlocal.returned id' he]

theorem Local.bufs (h : BufsInv c s ph) (hlocal : Local s s' id) (hqueue : s'.outBufQ = s.outBufQ)
    (hself : ∀ b, s'.Holds (Function.update ph id p) id b ↔ s.Holds ph id b) :
    BufsInv c s' (Function.update ph id p) := by
  refine h.congr hqueue fun id' b => ?_
  by_cases he : id' = id
  · rw [he]
    exact hself b
  · exact hlocal.holds he b

theorem holds_self (hauto : (s'.sess id).autoOutBuf = (s.sess id).autoOutBuf) (hbound : p.bound = (ph id).bound)
    (hbefore : ¬s.Returning id) (hafter : ¬s'.Returning id) (b : Int) :
    s'.Holds (Function.update ph id p) id b ↔ s.Holds ph id b := by
  unfold Holds
  grind

theorem JpegInv.move (h : JpegInv c s ph) (hbefore : s.mgr.charge = none) (hafter : s'.mgr.charge = none)
    (hret : ∀ id, s.mgr ≠ .finishes id .enqueuesBuffer) (hret' : ∀ id, s'.mgr ≠ .finishes id .enqueuesBuffer)
    (hsess : s'.sess = s.sess) (hpending : s'.pending = s.pending) (hfailed : s'.failed = s.failed)
    (hhandle : s'.handleQ = s.handleQ) (hqueue : s'.outBufQ = s.outBufQ) (hjobs : JobsInv c s'.jobs ph)
    (hawake : s'.mgr.watches = true → (s'.mgr = .waits → s'.todo ≠ []) → s'.Awake ph)
    (haborter : s'.aborter = s.aborter) : JpegInv c s' ph := by
  refine ⟨fun id => ?_, ?_, ?_, hjobs, ?_, hawake, haborter.trans h.noAborter⟩
  · obtain ⟨hm, hcb, homx, hdata, hh, hin, -, -, hab⟩ := h.slots id
    refine ⟨hm.other (by rw [hbefore]; nofun) (by rw [hafter]; nofun), ?_, ?_, ?_, ?_, hin,
      fun hm' => absurd hm' (hret' id), fun hm' => ?_, ?_⟩
    · rw [hsess]
      exact hcb
    · rw [hpending, hfailed, hsess]
      exact homx
    · rw [hsess]
      exact hdata
    · rw [hhandle]
      exact hh
    · rw [hm'] at hafter
      cases hafter
    · rw [hsess]
      exact hab
  · rw [hhandle]
    exact h.nodup
  · rw [hhandle]
    exact h.member
  · refine h.bufs.congr hqueue fun id b => ?_
    unfold Holds Returning
    rw [hsess]
    simp only [hret, hret']

theorem JpegInv.local (h : JpegInv c s ph) (hlocal : Local s s' id) (hself : SlotOk c s' id p)
    (hhandle : s'.handleQ = s.handleQ) (hfailed : ∀ num ∈ s.failed, num ∈ s'.failed)
    (hunfailed : ∀ id' n, id' ≠ id → ph id' = .submitted n → n.num ∉ s.failed → n.num ∉ s'.failed)
    (hjobs : JobsInv c s'.jobs (Function.update ph id p)) (hbufs : BufsInv c s' (Function.update ph id p))
    (hawake : s'.mgr.watches = true → (s'.mgr = .waits → s'.todo ≠ []) → s'.Awake (Function.update ph id p))
    (haborter : s'.aborter = s.aborter) : JpegInv c s' (Function.update ph id p) := by
  refine ⟨hlocal.slots h.slots hself (fun id' _ => ?_) hfailed hunfailed, ?_, ?_, hjobs, hbufs, hawake,
    haborter.trans h.noAborter⟩
  · rw [hhandle]
  · rw [hhandle]
    exact h.nodup
  · rw [hhandle]
    exact h.member

theorem JpegInv.local_same (h : JpegInv c s ph) (hlocal : Local s s' id) (hself : SlotOk c s' id (ph id))
    (hhandle : s'.handleQ = s.handleQ) (hfailed : s'.failed = s.failed) (hjobs : JobsInv c s'.jobs ph)
    (hbufs : BufsInv c s' ph) (hawake : s'.mgr.watches = true → (s'.mgr = .waits → s'.todo ≠ []) → s'.Awake ph)
    (haborter : s'.aborter = s.aborter) : JpegInv c s' ph := by
  have hgoal := h.local (p := ph id) hlocal hself hhandle (by rw [hfailed]; exact fun _ hnum => hnum)
    (by rw [hfailed]; exact fun _ _ _ _ hun => hun) (by rw [Function.update_eq_self]; exact hjobs)
    (by rw [Function.update_eq_self]; exact hbufs) (by rw [Function.update_eq_self]; exact hawake) haborter
  rw [Function.update_eq_self] at hgoal
  exact hgoal

theorem JpegInv.quiet (h : JpegInv c s ph) (hmgr : s'.mgr = s.mgr) (hpending : s'.pending = s.pending)
    (hfailed : s'.failed = s.failed) (hhandle : s'.handleQ = s.handleQ) (hqueue : s'.outBufQ = s.outBufQ)
    (hsess : ∀ id, ∃ hist, s'.sess id = { s.sess id with jobHist := hist }) (hjobs : JobsInv c s'.jobs ph)
    (hawake : s'.mgr.watches = true → (s'.mgr = .waits → s'.todo ≠ []) → s'.Awake ph)
    (haborter : s'.aborter = s.aborter) : JpegInv c s' ph := by
  refine ⟨fun id => ?_, ?_, ?_, hjobs, ?_, hawake, haborter.trans h.noAborter⟩
  · obtain ⟨hist, he⟩ := hsess id
    obtain ⟨hm, hcb, homx, hdata, hh, hin, hret, henc, hab⟩ := h.slots id
    refine ⟨hmgr ▸ hm, ?_, ?_, ?_, ?_, hin, ?_, ?_, ?_⟩
    · rw [he]
      exact hcb
    · rw [hpending, hfailed, he]
      exact homx
    · rw [he]
      exact hdata
    · rw [hhandle]
      exact hh
    · rw [hmgr, he]
      exact hret
    · rw [hmgr, he]
      exact henc
    · rw [he]
      exact hab
  · rw [hhandle]
    exact h.nodup
  · rw [hhandle]
    exact h.member
  · refine h.bufs.congr hqueue fun id b => ?_
    obtain ⟨hist, he⟩ := hsess id
    unfold Holds Returning
    rw [he, hmgr]

theorem JpegInv.awake_of_phase (hp : ph id ≠ .free) : s.Awake ph := Or.inr (Or.inr ⟨id, Or.inl hp⟩)

theorem JpegInv.awake_of_update (hp : p ≠ .free) : s.Awake (Function.update ph id p) :=
  Or.inr (Or.inr ⟨id, Or.inl (by rw [Function.update_self]; exact hp)⟩)

theorem JpegInv.advance (h : JpegInv c s ph) (hbusy : ph id ≠ .free) (hp : p ≠ .free) (hlocal : Local s s' id)
    (hmgr : MgrOk s'.mgr id p) (hcb : CbOk (s'.sess id).cb p)
    (homx : OmxOk (s'.pending id) s'.failed (s'.sess id).encoding p)
    (hdata : ∀ n, p.loadedNode = some n →
      (s'.sess id).job = some n.num ∧ (s'.sess id).jobId = n.jobId ∧ (s'.sess id).dstIndex = n.dstIndex)
    (hret : s'.mgr ≠ .finishes id .enqueuesBuffer)
    (henc : s'.mgr = .encodes id .emptiesMain → (s'.sess id).encoding = true)
    (habort : (s'.sess id).abortState = .none) (hhandle : s'.handleQ = s.handleQ) (hqueue : s'.outBufQ = s.outBufQ)
    (hfailed : ∀ num ∈ s.failed, num ∈ s'.failed)
    (hunfailed : ∀ id' n, id' ≠ id → ph id' = .submitted n → n.num ∉ s.failed → n.num ∉ s'.failed)
    (hjobs : JobsInv c s'.jobs (Function.update ph id p))
    (hholds : ∀ b, s'.Holds (Function.update ph id p) id b ↔ s.Holds ph id b)
    (haborter : s'.aborter = s.aborter) : JpegInv c s' (Function.update ph id p) := by
  refine h.local hlocal ⟨hmgr, hcb, homx, hdata, ⟨fun hin => ?_, fun hf => absurd hf.2 hp⟩, fun hin => ?_,
    fun hm => absurd hm hret, henc, habort⟩ hhandle hfailed hunfailed hjobs (hlocal.bufs h.bufs hqueue hholds)
    (fun _ _ => awake_of_update hp) haborter
  · rw [hhandle] at hin
    exact absurd ((h.slots id).handle.mp hin).2 hbusy
  · exact absurd ((h.slots id).inactive hin) hbusy

theorem SlotOk.not_returning (h : SlotOk c s id p) (hbound : p.bound = some n) : ¬s.Returning id := by
  rintro (hcb | hmgr)
  · have hok := h.cb
    rw [hcb] at hok
    rcases phase_of_cb_enqueuesBuffer hok with rfl | ⟨m, rfl⟩ <;> cases hbound
  · rw [(h.returned hmgr).1] at hbound
    cases hbound

theorem JpegInv.proceed (h : JpegInv c s ph) (hbound : (ph id).bound = some n) (hp : p.bound = some n)
    (hlocal : Local s s' id) (hmgr : MgrOk s'.mgr id p) (hcb : CbOk (s'.sess id).cb p)
    (homx : OmxOk (s'.pending id) s'.failed (s'.sess id).encoding p)
    (hdata : ∀ n, p.loadedNode = some n →
      (s'.sess id).job = some n.num ∧ (s'.sess id).jobId = n.jobId ∧ (s'.sess id).dstIndex = n.dstIndex)
    (hret : s'.mgr ≠ .finishes id .enqueuesBuffer)
    (henc : s'.mgr = .encodes id .emptiesMain → (s'.sess id).encoding = true)
    (habort : (s'.sess id).abortState = .none) (hauto : (s'.sess id).autoOutBuf = (s.sess id).autoOutBuf)
    (hhandle : s'.handleQ = s.handleQ) (hqueue : s'.outBufQ = s.outBufQ)
    (hfailed : ∀ num ∈ s.failed, num ∈ s'.failed)
    (hunfailed : ∀ id' n, id' ≠ id → ph id' = .submitted n → n.num ∉ s.failed → n.num ∉ s'.failed)
    (hjobs : JobsInv c s'.jobs (Function.update ph id p)) (haborter : s'.aborter = s.aborter) :
    JpegInv c s' (Function.update ph id p) := by
  have hbusy : ph id ≠ .free := by
    intro hfree
    rw [hfree] at hbound
    cases hbound
  have hp' : p ≠ .free := by
    rintro rfl
    cases hp
  have hafter : ¬s'.Returning id := by
    rintro (hret' | hret')
    · rw [hret'] at hcb
      rcases phase_of_cb_enqueuesBuffer hcb with rfl | ⟨m, rfl⟩ <;> cases hp
    · exact hret hret'
  exact h.advance hbusy hp' hlocal hmgr hcb homx hdata hret henc habort hhandle hqueue hfailed hunfailed hjobs
    (holds_self hauto (hp.trans hbound.symm) ((h.slots id).not_returning hbound) hafter) haborter

end DeviceHal.Camera
