import DeviceHal.Camera.MmJpegThread

namespace DeviceHal.Camera

open MmJpeg

variable {c : JpegSetup} {s s' : MmJpeg} {ph : SessionId → Phase} {id : SessionId} {p : Phase} {n : JobNode}

namespace JpegInv

theorem removeOngoing_eq (h : JpegInv c s ph) (hongoing : (ph id).ongoing = some n) :
    s.removeOngoing n.jobId =
      { s with ongoing := s.ongoing.eraseP fun m => m.jobId = n.jobId, freed := s.freed ++ [n.num] } := by
  have hfind := h.jobs.find_ongoing ((h.jobs.ongoing n).mpr ⟨id, hongoing⟩)
  unfold removeOngoing
  rw [show s.ongoing.find? (fun m => m.jobId = n.jobId) = some n from hfind]

theorem handBack (h : JpegInv c s ph) (hgone : (ph id).gone = some n) (hlocal : Local s s' id) (cb : Callback)
    (hsess : s'.sess id = { s.sess id with cb := cb }) (hmgr : MgrOk s'.mgr id .free) (hcb : CbOk cb .free)
    (hone : s'.mgr = .finishes id .enqueuesBuffer → cb ≠ .finishes .enqueuesBuffer) (hreturning : s'.Returning id)
    (hpending : s'.pending = s.pending) (hfailed : s'.failed = s.failed)
    (hhandle : s'.handleQ = Function.update s.handleQ (c.queues id) (s.handleQ (c.queues id) ++ [id]))
    (hqueue : s'.outBufQ = s.outBufQ) (hjobs : s'.jobs = s.jobs) (haborter : s'.aborter = s.aborter) :
    JpegInv c s' (Function.update ph id .free) := by
  obtain ⟨-, -, homx, hdata, hh, hin, -, -, hab⟩ := h.slots id
  have hfacts : (ph id).bound = some n ∧ (ph id).loadedNode = some n ∧ ph id ≠ .free ∧
      (OmxOk (s.pending id) s.failed (s.sess id).encoding (ph id) → ∀ num ∈ s.pending id, num ∈ s.failed) := by
    generalize ph id = p at hgone
    cases p with
    | mgrFreed m => exact ⟨hgone, hgone, by simp, fun h => h⟩
    | cbFreed m => exact ⟨hgone, hgone, by simp, fun h => h⟩
    | _ => cases hgone
  obtain ⟨hbound, hloaded, hbusy, hall⟩ := hfacts
  have hactive : c.active id = true := by
    by_contra hno
    exact hbusy (hin (Bool.eq_false_iff.mpr hno))
  have hnotin : id ∉ s.handleQ (c.queues id) := fun hmem => hbusy (hh.mp hmem).2
  have hself : SlotOk c s' id .free := by
    refine ⟨hmgr, ?_, ?_, (fun _ hn => by cases hn), ⟨fun _ => ⟨hactive, rfl⟩, fun _ => ?_⟩, fun _ => rfl,
      fun hm => ⟨rfl, ?_⟩, ?_, ?_⟩
    · rw [hsess]
      exact hcb
    · rw [hpending, hfailed]
      exact hall homx
    · rw [hhandle, Function.update_self]
      exact List.mem_append_right _ List.mem_cons_self
    · rw [hsess]
      exact hone hm
    · intro hm
      rw [hm] at hmgr
      exact absurd rfl hmgr
    · rw [hsess]
      exact hab
  have hmem : ∀ q id', id' ∈ s'.handleQ q ↔ id' ∈ s.handleQ q ∨ q = c.queues id ∧ id' = id := by
    intro q id'
    rw [hhandle]
    by_cases he : q = c.queues id
    · grind
    · rw [Function.update_of_ne he]
      simp [he]
  refine ⟨hlocal.slots h.slots hself (fun id' he => ?_) ?_ ?_, ?_, ?_, ?_, ?_, ?_, haborter.trans h.noAborter⟩
  · rw [hmem]
    simp [he]
  · rw [hfailed]
    exact fun _ hnum => hnum
  · rw [hfailed]
    exact fun _ _ _ _ hun => hun
  · intro q
    rw [hhandle]
    by_cases he : q = c.queues id
    · rw [he, Function.update_self]
      refine List.nodup_append.mpr ⟨h.nodup _, List.pairwise_singleton _ _, ?_⟩
      grind
    · rw [Function.update_of_ne he]
      exact h.nodup q
  · intro q id' hid'
    rcases (hmem q id').mp hid' with hold | ⟨rfl, rfl⟩
    · exact h.member q id' hold
    · rfl
  · rw [hjobs]
    exact h.jobs.release hgone
  · refine hlocal.bufs h.bufs hqueue fun b => ?_
    have hbefore := (h.slots id).not_returning hbound
    have hdst := (hdata n hloaded).2.2
    unfold Holds
    rw [hsess, Function.update_self, hbound, hdst]
    simp [Phase.bound, hbefore, hreturning]
  · intro hwatches _
    rcases hreturning with hr | hr
    · refine Or.inr (Or.inr ⟨id, Or.inr ?_⟩)
      rw [hr]
      intro hidle
      cases hidle
    · rw [hr] at hwatches
      cases hwatches

theorem bufferBack (h : JpegInv c s ph) (hbound : (ph id).bound = none) (hreturning : s.Returning id)
    (hafter : ¬s'.Returning id) (hlocal : Local s s' id)
    (hqueue : s'.outBufQ = if (s.sess id).autoOutBuf then
        Function.update s.outBufQ (c.queues id) (s.outBufQ (c.queues id) ++ [((s.sess id).dstIndex + 1).toNat])
      else s.outBufQ) : BufsInv c s' ph := by
  have hself : ∀ b, ¬s'.Holds ph id b := by
    rintro b ⟨-, ⟨m, hm, -⟩ | ⟨hr, -⟩⟩
    · rw [hbound] at hm
      cases hm
    · exact hafter hr
  have hother : ∀ id' b, id' ≠ id → (s'.Holds ph id' b ↔ s.Holds ph id' b) := by
    intro id' b he
    have hsame : s'.Holds (Function.update ph id (ph id)) id' b ↔ s.Holds ph id' b :=
      hlocal.holds he b
    rw [Function.update_eq_self] at hsame
    exact hsame
  cases hauto : (s.sess id).autoOutBuf with
  | false =>
    rw [hauto, if_neg Bool.false_ne_true] at hqueue
    refine h.bufs.congr hqueue fun id' b => ?_
    by_cases he : id' = id
    · rw [he]
      refine ⟨fun hh => absurd hh (hself b), fun hh => ?_⟩
      have hno := hh.1
      rw [hauto] at hno
      cases hno
    · exact hother id' b he
  | true =>
    rw [hauto, if_pos rfl] at hqueue
    have honly : ∀ b, s.Holds ph id b → b = (s.sess id).dstIndex + 1 := by
      rintro b ⟨-, ⟨m, hm, -⟩ | ⟨-, hb⟩⟩
      · rw [hbound] at hm
        cases hm
      · exact hb.symm
    exact h.bufs.put ⟨hauto, Or.inr ⟨hreturning, rfl⟩⟩ hqueue hself honly hother

theorem mgr_removes (h : JpegInv c s ph) (hpc : s.mgr = .finishes id .removes) :
    ∃ ph', JpegInv c { doneStep c s id .removes with mgr := .finishes id .enqueuesHandle } ph' := by
  obtain ⟨hm, hcb, homx, hdata, -, -, -, -, hab⟩ := h.slots id
  obtain ⟨n, hphase⟩ := phase_of_removes (hpc ▸ hm)
  rw [hphase] at hcb homx hdata
  change ∃ ph', JpegInv c { (s.removeOngoing (s.sess id).jobId).modify id fun x => { x with encoding := false } with
    mgr := .finishes id .enqueuesHandle } ph'
  rw [(hdata n rfl).2.1, @removeOngoing_eq _ _ _ id n h (by rw [hphase]; rfl)]
  generalize hongoing : (s.ongoing.eraseP fun m => m.jobId = n.jobId) = ongoing
  have hlocal : Local s { MmJpeg.modify { s with ongoing := ongoing, freed := s.freed ++ [n.num] } id
      fun x => { x with encoding := false } with mgr := .finishes id .enqueuesHandle } id :=
    .of_at (fun id' he => Function.update_of_ne he ..) (fun _ _ => rfl) (by rw [hpc]; rfl)
      (fun id' hc => (Option.some.inj hc).symm) nofun
  refine ⟨_, h.proceed (p := .mgrFreed n) (n := n) (by rw [hphase]; rfl) rfl hlocal rfl ?_ homx ?_ nofun nofun ?_ ?_
    rfl rfl (fun _ hnum => hnum) (fun _ _ _ _ hun => hun) ?_ rfl⟩
  · rw [modify_self]
    exact hcb
  · rw [modify_self]
    exact hdata
  · rw [modify_self]
    exact hab
  · rw [modify_self]
  · have hold := (h.jobsOf none (by rw [hpc]; rfl)).remove (n := n) (p := .mgrFreed n)
      (by rw [hphase]; rfl) (by rw [hphase]; rfl) rfl rfl
    rw [show (s.ongoing.eraseP fun m => m.jobId = n.jobId) = ongoing from hongoing] at hold
    exact hold

theorem mgr_enqueuesHandle (h : JpegInv c s ph) (hpc : s.mgr = .finishes id .enqueuesHandle) :
    ∃ ph', JpegInv c { doneStep c s id .enqueuesHandle with mgr := .finishes id .enqueuesBuffer } ph' := by
  obtain ⟨hm, hcb, -, -, -, -, -, -, -⟩ := h.slots id
  obtain ⟨n, hphase⟩ := phase_of_enqueuesHandle (hpc ▸ hm)
  rw [hphase] at hcb
  have hlocal : Local s { doneStep c s id .enqueuesHandle with mgr := .finishes id .enqueuesBuffer } id := by
    refine .of_at (fun _ _ => rfl) (fun _ _ => rfl) (by rw [hpc]; rfl) nofun fun id' hm' => ?_
    cases hm'
    rfl
  have hnot : (s.sess id).cb ≠ .finishes .enqueuesBuffer := by
    rcases hcb with hcb | hcb <;> rw [hcb] <;> nofun
  refine ⟨_, h.handBack (n := n) (by rw [hphase]; rfl) hlocal (s.sess id).cb rfl nofun ?_ (fun _ => hnot)
    (Or.inr rfl) rfl rfl rfl rfl ?_ rfl⟩
  · exact hcb.imp_right Or.inr
  · unfold MmJpeg.jobs
    rw [hpc]
    rfl

theorem mgr_enqueuesBuffer (h : JpegInv c s ph) (hpc : s.mgr = .finishes id .enqueuesBuffer) :
    JpegInv c { doneStep c s id .enqueuesBuffer with mgr := .finishes id .posts } ph := by
  obtain ⟨hfree, hcb⟩ := (h.slots id).returned hpc
  generalize hs' : ({ doneStep c s id .enqueuesBuffer with mgr := .finishes id .posts } : MmJpeg) = s'
  have hsame : s'.sess = s.sess ∧ s'.pending = s.pending ∧ s'.failed = s.failed ∧ s'.handleQ = s.handleQ ∧
      s'.mgr = .finishes id .posts ∧ s'.aborter = s.aborter ∧
      s'.jobs = ⟨s.todo, none, s.ongoing, s.freed, s.called, s.failed, s.aborted, s.accepted⟩ ∧
      s'.outBufQ = if (s.sess id).autoOutBuf then
        Function.update s.outBufQ (c.queues id) (s.outBufQ (c.queues id) ++ [((s.sess id).dstIndex + 1).toNat])
      else s.outBufQ := by
    rw [← hs']
    unfold doneStep
    dsimp only
    split
    next => exact ⟨rfl, rfl, rfl, rfl, rfl, rfl, rfl, rfl⟩
    next => exact ⟨rfl, rfl, rfl, rfl, rfl, rfl, rfl, rfl⟩
  obtain ⟨hsess, hpending, hfailed, hhandle, hmgr, haborter, hjobs, hqueue⟩ := hsame
  have hlocal : Local s s' id := by
    refine .of_charge (fun _ _ => by rw [hsess]) (fun _ _ => by rw [hpending]) (by rw [hpc]; nofun)
      (by rw [hmgr]; nofun) fun id' he => ?_
    rw [hpc, hmgr]
    refine ⟨nofun, fun hm => ?_⟩
    cases hm
    exact absurd rfl he
  have hbufs : BufsInv c s' ph := by
    refine h.bufferBack (by rw [hfree]; rfl) (Or.inr hpc) ?_ hlocal hqueue
    rintro (hr | hr)
    · rw [hsess] at hr
      exact hcb hr
    · rw [hmgr] at hr
      cases hr
  have hself : SlotOk c s' id (ph id) := by
    obtain ⟨hm, hcb', homx, hdata, hh, hin, -, -, hab⟩ := h.slots id
    refine ⟨hm.other (by rw [hpc]; nofun) (by rw [hmgr]; nofun), ?_, ?_, ?_, ?_, hin, ?_, ?_, ?_⟩
    · rw [hsess]
      exact hcb'
    · rw [hpending, hfailed, hsess]
      exact homx
    · rw [hsess]
      exact hdata
    · rw [hhandle]
      exact hh
    · rw [hmgr]
      nofun
    · rw [hmgr]
      nofun
    · rw [hsess]
      exact hab
  exact h.local_same hlocal hself hhandle hfailed (by rw [hjobs]; exact h.jobsOf _ (by rw [hpc]; rfl)) hbufs
    (by rw [hmgr]; nofun) haborter

theorem mgr_posts (h : JpegInv c s ph) (hpc : s.mgr = .finishes id .posts) :
    JpegInv c { doneStep c s id .posts with mgr := .waits } ph :=
  h.move (by rw [hpc]; rfl) rfl (by rw [hpc]; nofun) nofun rfl rfl rfl rfl rfl (h.jobsOf _ (by rw [hpc]; rfl))
    (fun _ _ => Or.inl (Nat.succ_pos _)) rfl

end JpegInv

end DeviceHal.Camera

namespace DeviceHal.Camera

open MmJpeg

variable {c : JpegSetup} {s s' : MmJpeg} {ph : SessionId → Phase} {id : SessionId} {p : Phase} {n : JobNode}

theorem SlotOk.not_emptiesMain (h : SlotOk c s id p) (hby : p.byMgr = false) : s.mgr ≠ .encodes id .emptiesMain := by
  intro hm
  have hcharge : s.mgr.charge = some id := by
    rw [hm]
    rfl
  rw [h.mgr.charge.mp hcharge] at hby
  cases hby

theorem SlotOk.not_finishes (h : SlotOk c s id p) (hp : p ≠ .free) : s.mgr ≠ .finishes id .enqueuesBuffer :=
  fun hm => hp (h.returned hm).1

theorem SlotOk.not_charge (h : SlotOk c s id p) (hby : p.byMgr = false) : s.mgr.charge ≠ some id := by
  intro hcharge
  rw [h.mgr.charge.mp hcharge] at hby
  cases hby

namespace JpegInv

theorem raises (h : JpegInv c s ph) {num : Nat} (hmem : num ∈ s.pending id) (hun : num ∉ s.failed) :
    ∃ ph', JpegInv c (MmJpeg.modify { s with
      pending := Function.update s.pending id ((s.pending id).filter fun n => n ≠ num) } id
      fun x => { x with cb := .reports }) ph' := by
  obtain ⟨n, hphase, rfl⟩ := h.phase_of_pending hmem hun
  have hslot := h.slots id
  rw [hphase] at hslot
  have hlocal : Local s (MmJpeg.modify { s with
      pending := Function.update s.pending id ((s.pending id).filter fun m => m ≠ n.num) } id
      fun x => { x with cb := .reports }) id :=
    .of_mgr (fun id' he => Function.update_of_ne he ..) (fun id' he => Function.update_of_ne he ..) rfl
  refine ⟨_, h.proceed (p := .reporting n) (n := n) (by rw [hphase]; rfl) rfl hlocal (hslot.not_charge rfl) ?_ ?_ ?_
    (hslot.not_finishes nofun) (fun hm => absurd hm (hslot.not_emptiesMain rfl)) ?_ ?_ rfl rfl (fun _ hnum => hnum)
    (fun _ _ _ _ hun => hun) ?_ rfl⟩
  · rw [modify_self]
    rfl
  · intro num hnum
    change num ∈ Function.update s.pending id _ id at hnum
    rw [Function.update_self] at hnum
    obtain ⟨hold, hne⟩ := List.mem_filter.mp hnum
    exact (hslot.omx.2.2.2 num hold).resolve_right (of_decide_eq_true hne)
  · rw [modify_self]
    exact hslot.data
  · rw [modify_self]
    exact hslot.noAbort
  · rw [modify_self]
  · exact h.jobs.rephase (by rw [hphase]; rfl) (by rw [hphase]; rfl) (by rw [hphase]; rfl) (by rw [hphase]; rfl)
      (by rw [hphase]; nofun)

theorem raises_late (h : JpegInv c s ph) {num : Nat} (hencoding : (s.sess id).encoding = false) :
    JpegInv c { s with
      pending := Function.update s.pending id ((s.pending id).filter fun n => n ≠ num) } ph := by
  have hslot := h.slots id
  have hlocal : Local s { s with
      pending := Function.update s.pending id ((s.pending id).filter fun n => n ≠ num) } id :=
    .of_mgr (fun _ _ => rfl) (fun id' he => Function.update_of_ne he ..) rfl
  refine h.local_same hlocal ⟨hslot.mgr, hslot.cb, ?_, hslot.data, hslot.handle, hslot.inactive, hslot.returned,
    hslot.encoded, hslot.noAbort⟩ rfl rfl h.jobs (h.bufs.congr rfl fun _ _ => Iff.rfl) h.awake rfl
  have homx := hslot.omx
  dsimp only
  rw [Function.update_self]
  generalize ph id = p at homx
  cases p with
  | submitted n =>
    rw [homx.2.2.1] at hencoding
    cases hencoding
  | _ => exact fun num hnum => homx num (List.mem_of_mem_filter hnum)

theorem cb_reports (h : JpegInv c s ph) (hcb : (s.sess id).cb = .reports) :
    ∃ ph', JpegInv c ((s.report id).modify id fun x => { x with cb := .finishes .removes }) ph' := by
  have hslot := h.slots id
  obtain ⟨n, hphase⟩ := phase_of_cb_reports (hcb ▸ hslot.cb)
  rw [hphase] at hslot
  unfold MmJpeg.report
  rw [(hslot.data n rfl).1, Option.toList_some]
  have hlocal : Local s (MmJpeg.modify { s with called := s.called ++ [n.num] } id
      fun x => { x with cb := .finishes .removes }) id :=
    .of_mgr (fun id' he => Function.update_of_ne he ..) (fun _ _ => rfl) rfl
  refine ⟨_, h.proceed (p := .cbCalled n) (n := n) (by rw [hphase]; rfl) rfl hlocal (hslot.not_charge rfl) ?_ hslot.omx
    ?_ (hslot.not_finishes nofun) (fun hm => absurd hm (hslot.not_emptiesMain rfl)) ?_ ?_ rfl rfl (fun _ hnum => hnum)
    (fun _ _ _ _ hun => hun) ?_ rfl⟩
  · rw [modify_self]
    rfl
  · rw [modify_self]
    exact hslot.data
  · rw [modify_self]
    exact hslot.noAbort
  · rw [modify_self]
  · exact h.jobs.report (by rw [hphase]; rfl) (by rw [hphase]; rfl) rfl rfl (by rw [hphase]; nofun)

theorem cb_removes (h : JpegInv c s ph) (hcb : (s.sess id).cb = .finishes .removes) :
    ∃ ph', JpegInv c ((doneStep c s id .removes).modify id fun x => { x with cb := .finishes .enqueuesHandle }) ph' := by
  have hslot := h.slots id
  obtain ⟨n, hphase⟩ := phase_of_cb_removes (hcb ▸ hslot.cb)
  rw [hphase] at hslot
  change ∃ ph', JpegInv c (((s.removeOngoing (s.sess id).jobId).modify id fun x => { x with encoding := false }).modify id
    fun x => { x with cb := .finishes .enqueuesHandle }) ph'
  rw [(hslot.data n rfl).2.1, @removeOngoing_eq _ _ _ id n h (by rw [hphase]; rfl)]
  generalize hongoing : (s.ongoing.eraseP fun m => m.jobId = n.jobId) = ongoing
  generalize hs' : ((MmJpeg.modify { s with ongoing := ongoing, freed := s.freed ++ [n.num] } id
    fun x => { x with encoding := false }).modify id fun x => { x with cb := .finishes .enqueuesHandle }) = s'
  have hsess : s'.sess id = { s.sess id with encoding := false, cb := .finishes .enqueuesHandle } := by
    rw [← hs', modify_self, modify_self]
  have hlocal : Local s s' id := by
    rw [← hs']
    refine .of_mgr (fun id' he => ?_) (fun _ _ => rfl) rfl
    rw [modify_of_ne _ he, modify_of_ne _ he]
  have hmgr : s'.mgr = s.mgr := by
    rw [← hs']
    rfl
  refine ⟨_, h.proceed (p := .cbFreed n) (n := n) (by rw [hphase]; rfl) rfl hlocal ?_ ?_ ?_ ?_ ?_ ?_ ?_ ?_ ?_ ?_ ?_ ?_ ?_
    ?_⟩
  · rw [hmgr]
    exact hslot.not_charge rfl
  · rw [hsess]
    rfl
  · rw [← hs']
    exact hslot.omx
  · rw [hsess]
    exact hslot.data
  · rw [hmgr]
    exact hslot.not_finishes nofun
  · rw [hmgr]
    exact fun hm => absurd hm (hslot.not_emptiesMain rfl)
  · rw [hsess]
    exact hslot.noAbort
  · rw [hsess]
  · rw [← hs']
    rfl
  · rw [← hs']
    rfl
  · rw [← hs']
    exact fun _ hnum => hnum
  · rw [← hs']
    exact fun _ _ _ _ hun => hun
  · rw [← hs', ← hongoing]
    exact h.jobs.remove (by rw [hphase]; rfl) (by rw [hphase]; rfl) rfl rfl
  · rw [← hs']
    rfl

theorem cb_enqueuesHandle (h : JpegInv c s ph) (hcb : (s.sess id).cb = .finishes .enqueuesHandle) :
    ∃ ph', JpegInv c ((doneStep c s id .enqueuesHandle).modify id
      fun x => { x with cb := .finishes .enqueuesBuffer }) ph' := by
  have hslot := h.slots id
  obtain ⟨n, hphase⟩ := phase_of_cb_enqueuesHandle (hcb ▸ hslot.cb)
  rw [hphase] at hslot
  have hlocal : Local s ((doneStep c s id .enqueuesHandle).modify id
      fun x => { x with cb := .finishes .enqueuesBuffer }) id :=
    .of_mgr (fun id' he => Function.update_of_ne he ..) (fun _ _ => rfl) rfl
  refine ⟨_, h.handBack (n := n) (by rw [hphase]; rfl) hlocal (.finishes .enqueuesBuffer) ?_ (hslot.not_charge rfl)
    (Or.inr (Or.inl rfl)) (fun hm => absurd hm (hslot.not_finishes nofun)) (Or.inl ?_) rfl rfl rfl rfl rfl rfl⟩
  · rw [modify_self]
    rfl
  · rw [modify_self]

theorem cb_enqueuesBuffer (h : JpegInv c s ph) (hcb : (s.sess id).cb = .finishes .enqueuesBuffer) :
    JpegInv c ((doneStep c s id .enqueuesBuffer).modify id fun x => { x with cb := .finishes .posts }) ph := by
  obtain ⟨hm, hcbok, homx, hdata, hh, hin, hret, henc, hab⟩ := h.slots id
  have hphase := phase_of_cb_enqueuesBuffer (hcb ▸ hcbok)
  have hmgr : s.mgr ≠ .finishes id .enqueuesBuffer := fun hm' => (hret hm').2 hcb
  generalize hs' : (doneStep c s id .enqueuesBuffer).modify id (fun x => { x with cb := .finishes .posts }) = s'
  have hsame : s'.sess = Function.update s.sess id { s.sess id with cb := .finishes .posts } ∧
      s'.pending = s.pending ∧ s'.failed = s.failed ∧ s'.handleQ = s.handleQ ∧ s'.mgr = s.mgr ∧
      s'.aborter = s.aborter ∧ s'.jobs = s.jobs ∧
      s'.outBufQ = if (s.sess id).autoOutBuf then
        Function.update s.outBufQ (c.queues id) (s.outBufQ (c.queues id) ++ [((s.sess id).dstIndex + 1).toNat])
      else s.outBufQ := by
    rw [← hs']
    unfold doneStep MmJpeg.modify
    dsimp only
    split
    next => exact ⟨rfl, rfl, rfl, rfl, rfl, rfl, rfl, rfl⟩
    next => exact ⟨rfl, rfl, rfl, rfl, rfl, rfl, rfl, rfl⟩
  obtain ⟨hsess, hpending, hfailed, hhandle, hmgr', haborter, hjobs, hqueue⟩ := hsame
  have hself : s'.sess id = { s.sess id with cb := .finishes .posts } := by
    rw [hsess, Function.update_self]
  have hlocal : Local s s' id := by
    refine .of_mgr (fun id' he => ?_) (fun _ _ => by rw [hpending]) hmgr'
    rw [hsess, Function.update_of_ne he]
  have hbufs : BufsInv c s' ph := by
    refine h.bufferBack ?_ (Or.inl hcb) ?_ hlocal hqueue
    · rcases hphase with hp | ⟨m, hp⟩ <;> rw [hp] <;> rfl
    · rintro (hr | hr)
      · rw [hself] at hr
        cases hr
      · rw [hmgr'] at hr
        exact hmgr hr
  refine h.local_same hlocal ⟨hmgr' ▸ hm, ?_, ?_, ?_, ?_, hin, ?_, ?_, ?_⟩ hhandle hfailed (by rw [hjobs]; exact h.jobs)
    hbufs (fun _ _ => ?_) haborter
  · rw [hself]
    rcases hphase with hp | ⟨m, hp⟩ <;> rw [hp] <;> exact Or.inr (Or.inr rfl)
  · rw [hpending, hfailed, hself]
    exact homx
  · rw [hself]
    exact hdata
  · rw [hhandle]
    exact hh
  · rw [hmgr']
    exact fun hm' => absurd hm' hmgr
  · rw [hmgr', hself]
    exact henc
  · rw [hself]
    exact hab
  · refine Or.inr (Or.inr ⟨id, Or.inr ?_⟩)
    rw [hself]
    nofun

theorem cb_posts (h : JpegInv c s ph) (hcb : (s.sess id).cb = .finishes .posts) :
    JpegInv c ((doneStep c s id .posts).modify id fun x => { x with cb := .idle }) ph := by
  obtain ⟨hm, hcbok, homx, hdata, hh, hin, hret, henc, hab⟩ := h.slots id
  have hlocal : Local s ((doneStep c s id .posts).modify id fun x => { x with cb := .idle }) id :=
    .of_mgr (fun id' he => Function.update_of_ne he ..) (fun _ _ => rfl) rfl
  refine h.local_same hlocal ⟨hm, ?_, ?_, ?_, hh, hin, ?_, ?_, ?_⟩ rfl rfl h.jobs ?_
    (fun _ _ => Or.inl (Nat.succ_pos _)) rfl
  · rw [modify_self]
    rw [hcb] at hcbok
    generalize ph id = p at hcbok
    cases p with
    | reporting n => cases hcbok
    | cbCalled n => cases hcbok
    | cbFreed n => cases hcbok
    | _ => exact Or.inl rfl
  · rw [modify_self]
    exact homx
  · rw [modify_self]
    exact hdata
  · rw [modify_self]
    exact fun hm' => ⟨(hret hm').1, nofun⟩
  · rw [modify_self]
    exact henc
  · rw [modify_self]
    exact hab
  · refine h.bufs.congr rfl fun id' b => ?_
    by_cases he : id' = id
    · rw [he]
      unfold Holds Returning
      rw [modify_self, hcb]
      simp only [reduceCtorEq, Callback.finishes.injEq, false_or]
      exact Iff.rfl
    · unfold Holds Returning
      rw [modify_of_ne _ he]
      exact Iff.rfl

theorem startJob (h : JpegInv c s ph) (session : SessionId) (srcIndex dstIndex : Int) :
    JpegInv c (MmJpeg.startJob c s session srcIndex dstIndex) ph := by
  unfold MmJpeg.startJob
  split
  next => exact h
  next hactive =>
    split
    next => exact h
    next =>
      have hactive' : c.active session = true := by
        rw [← Bool.not_eq_false]
        exact hactive
      refine h.quiet rfl rfl rfl rfl rfl (fun id => ?_) ?_ (fun _ _ => Or.inr (Or.inl (Nat.succ_pos _))) rfl
      · by_cases he : id = session
        · rw [he]
          exact ⟨(s.sess session).jobHist + 1, Function.update_self ..⟩
        · exact ⟨(s.sess id).jobHist, Function.update_of_ne he ..⟩
      · exact h.jobs.start (n := ⟨s.accepted, .make session (s.sess session).jobHist, srcIndex, dstIndex⟩) rfl hactive'

theorem startPosts (h : JpegInv c s ph) :
    JpegInv c { s with posting := s.posting - 1, jobSem := s.jobSem + 1 } ph :=
  h.quiet rfl rfl rfl rfl rfl (fun id => ⟨(s.sess id).jobHist, rfl⟩) h.jobs (fun _ _ => Or.inl (Nat.succ_pos _)) rfl

theorem abortsTodo (h : JpegInv c s ph) {jobId : JobId}
    (hfind : (s.todo.find? fun n => n.jobId = jobId) = some n) :
    JpegInv c { s with
      todo := s.todo.eraseP fun n => n.jobId = jobId, freed := s.freed ++ [n.num], aborted := s.aborted ++ [n.num] }
      ph := by
  refine h.quiet rfl rfl rfl rfl rfl (fun id => ⟨(s.sess id).jobHist, rfl⟩) (h.jobs.abort hfind) (fun hw hne => ?_) rfl
  refine h.awake hw fun hm htodo => hne hm ?_
  change s.todo.eraseP _ = []
  rw [htodo]
  rfl

end JpegInv

end DeviceHal.Camera
