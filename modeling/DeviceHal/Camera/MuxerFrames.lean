import DeviceHal.Camera.MuxerPairs
import DeviceHal.Lib.Run

namespace DeviceHal.Camera

open Lib

namespace Muxer

variable {m t : Muxer} {op : MuxerOp}

/-- An image that is accepted has the frame of the one at the same place of the other queue. -/
def InStep (m : Muxer) : MuxerOp → Prop
  | .callStep i ok => ∀ c, m.calls[i]? = some c → c.pc = .enqueue →
      ((m.queue c.camType).enqueue c.jpeg ok).1 = true →
      ∀ j, m.partner c.camType = some j → j.frameIdx = c.jpeg.frameIdx
  | _ => True

/-- The pairs handed to `composeMpo` are of the same frame. -/
def SameFrame (m : Muxer) : Prop := ∀ p ∈ m.composed, p.1.frameIdx = p.2.frameIdx

/-- The command for an accepted image is sent, and the thread is active when it takes the command. -/
def Served (m : Muxer) : MuxerOp → Prop
  | .callStep i ok => ∀ c, m.calls[i]? = some c → c.pc = .trigger → ok = true
  | .composeStep => m.th.pc = .getCmd → m.cmds.head? = some .doNextJob → m.th.isActive = true
  | _ => True

def Idle (m : Muxer) : Prop := m.calls = [] ∧ m.cmds = [] ∧ m.th.pc = .getCmd

/-- A pair of the frame that has one of the two images is composed, or one of them is flushed. -/
def Settled (x y : JpegInfo) (m : Muxer) : Prop :=
  (∃ p ∈ m.composed, p.1.frameIdx = x.frameIdx ∧ p.2.frameIdx = x.frameIdx ∧
    (p.1 = x ∨ p.2 = y)) ∨ x ∈ m.flushed ∨ y ∈ m.flushed

instance (m : Muxer) (op : MuxerOp) : Decidable (m.Served op) :=
  match op with
  | .callStep i ok =>
    inferInstanceAs (Decidable (∀ c ∈ m.calls[i]?, c.pc = .trigger → ok = true))
  | .composeStep => inferInstanceAs (Decidable
      (m.th.pc = .getCmd → m.cmds.head? = some .doNextJob → m.th.isActive = true))
  | .storeJpeg .. | .flush _ | .init _ | .setMpoEnabled _ | .sendCmd _ => isTrue trivial

/-- All pairs are of the same frame, also those that are not composed yet. -/
def Agree (m : Muxer) : Prop := ∀ p ∈ m.pairs, p.1.frameIdx = p.2.frameIdx

theorem enqueue_fst (q : QCameraQueue JpegInfo) (j : JpegInfo) (ok : Bool) :
    (q.enqueue j ok).1 = (ok && q.active) := by
  grind [QCameraQueue.enqueue]

theorem pairUp_sameFrame (camType : CamSyncType) (j other : JpegInfo) :
    (pairUp camType j other).1.frameIdx = (pairUp camType j other).2.frameIdx ↔
      other.frameIdx = j.frameIdx := by
  cases camType with
  | main => exact eq_comm
  | aux => exact Iff.rfl

theorem inStep_iff : m.InStep op ↔ ∀ p ∈ m.added op, p.1.frameIdx = p.2.frameIdx := by
  cases op with
  | callStep i ok =>
    cases hc : m.calls[i]? with
    | none =>
      refine iff_of_true (fun c hc' => ?_) fun p hp => ?_
      · rw [hc] at hc'
        cases hc'
      · simp only [added, hc] at hp
        cases hp
    | some c =>
      by_cases hgo : c.pc = .enqueue ∧ (ok && (m.queue c.camType).active) = true
      · have hadded : m.added (.callStep i ok) =
            ((m.partner c.camType).map (pairUp c.camType c.jpeg)).toList := by
          simp only [added, hc, hgo.1, hgo.2, true_and, if_true]
        rw [hadded]
        constructor
        · intro h p hp
          obtain ⟨j, hj, rfl⟩ := Option.map_eq_some_iff.mp (Option.mem_toList.mp hp)
          exact (pairUp_sameFrame ..).mpr (h c hc hgo.1 ((enqueue_fst ..).trans hgo.2) j hj)
        · intro h c' hc' hpc' henq j hj
          cases Option.some.inj (hc.symm.trans hc')
          refine (pairUp_sameFrame c.camType c.jpeg j).mp (h _ ?_)
          grind
      · have hadded : m.added (.callStep i ok) = [] := by
          simp only [added, hc, hgo, if_false]
        rw [hadded]
        refine iff_of_true (fun c' hc' hpc' henq => ?_) fun p hp => by cases hp
        cases Option.some.inj (hc.symm.trans hc')
        exact absurd ⟨hpc', (enqueue_fst ..).symm.trans henq⟩ hgo
  | _ => exact iff_of_true trivial fun p hp => by cases hp

instance (m : Muxer) (op : MuxerOp) : Decidable (m.InStep op) :=
  decidable_of_iff _ inStep_iff.symm

theorem Agree.sameFrame (h : m.Agree) : m.SameFrame :=
  fun p hp => h p (List.mem_append_left _ hp)

theorem Agree.step (h : m.Agree) (hinv : m.QueueInv) (hop : m.InStep op)
    (ht : m.step op = some t) : t.Agree := by
  by_cases hflush : ∀ camType, op ≠ .flush camType
  · intro p hp
    rw [pairs_step hinv ht hflush] at hp
    rcases List.mem_append.mp hp with hold | hnew
    · exact h p hold
    · exact inStep_iff.mp hop p hnew
  · obtain ⟨camType, hop⟩ := not_forall.mp hflush
    rw [Classical.not_not.mp hop] at ht
    cases ht
    exact fun p hp => h p ((pairs_flush camType).subset hp)

theorem inStep_of_agree {ops : List MuxerOp} (hinv : m.QueueInv)
    (run : runOps step m ops = some t) (hflush : ∀ camType, .flush camType ∉ ops) (h : t.Agree) :
    OpsMeet step InStep m ops ∧ m.Agree := by
  induction ops generalizing m with
  | nil =>
    cases Option.some.inj run
    exact ⟨trivial, h⟩
  | cons op ops ih =>
    obtain ⟨next, hn, hrun⟩ := Option.bind_eq_some_iff.mp run
    obtain ⟨hmeet, hagree⟩ := ih (hinv.step hn) hrun fun camType hmem =>
      hflush camType (List.mem_cons_of_mem _ hmem)
    have hpairs : next.pairs = m.pairs ++ m.added op :=
      pairs_step hinv hn fun camType he => hflush camType (he ▸ List.mem_cons_self)
    have hall : ∀ p ∈ m.pairs ++ m.added op, p.1.frameIdx = p.2.frameIdx := hpairs ▸ hagree
    refine ⟨⟨?_, fun t' ht' => ?_⟩, fun p hp => hall p (List.mem_append_left _ hp)⟩
    · exact inStep_iff.mpr fun p hp => hall p (List.mem_append_right _ hp)
    · cases Option.some.inj (hn.symm.trans ht')
      exact hmeet

def Pending (m : Muxer) : Prop :=
  .doNextJob ∈ m.cmds ∨ (∃ c ∈ m.calls, c.pc = .trigger) ∨ m.th.pc ≠ .getCmd

/-- As long as both queues have an image, a request is under way. -/
def Requested (m : Muxer) : Prop := m.mainQ.nodes ≠ [] → m.auxQ.nodes ≠ [] → m.Pending

theorem trigger_stays {i : Nat} {c c' : StoreCall} (hc : m.calls[i]? = some c)
    (hpc : c.pc ≠ .trigger) (hc' : c' ∈ m.calls) (hpc' : c'.pc = .trigger) :
    c' ∈ m.calls.eraseIdx i ∧ ∀ d, c' ∈ m.calls.set i d := by
  obtain ⟨k, hk⟩ := List.mem_iff_getElem?.mp hc'
  have hne : k ≠ i := by
    rintro rfl
    cases Option.some.inj (hc.symm.trans hk)
    exact hpc hpc'
  refine ⟨List.mem_eraseIdx_iff_getElem?.mpr ⟨k, hne, hk⟩, fun d => ?_⟩
  exact List.mem_iff_getElem?.mpr ⟨k, by rw [List.getElem?_set_ne (Ne.symm hne), hk]⟩

theorem Requested.callStep (h : m.Requested) {i : Nat} {ok : Bool}
    (hop : m.Served (.callStep i ok)) : (m.callStep i ok).Requested := by
  cases m.callStep_spec i ok with
  | absent hc ht =>
    rw [ht]
    exact h
  | accept c hc hpc hactive ht =>
    rw [ht]
    have hlt : i < m.calls.length := (List.getElem?_eq_some_iff.mp hc).1
    exact fun _ _ => Or.inr (Or.inl ⟨_, List.mem_set hlt _, rfl⟩)
  | refuse c hc hpc hactive ht =>
    rw [ht]
    intro hmain haux
    rcases h hmain haux with hcmd | ⟨c', hc', hpc'⟩ | hth
    · exact Or.inl hcmd
    · refine Or.inr (Or.inl ⟨c', ?_, hpc'⟩)
      exact (trigger_stays hc (by simp [hpc]) hc' hpc').2 _
    · exact Or.inr (Or.inr hth)
  | trigger c hc hpc ht =>
    rw [ht]
    intro hmain haux
    have hne : (m.queue c.camType).isEmpty = false := by
      cases c.camType
      · exact List.isEmpty_eq_false_iff.mpr hmain
      · exact List.isEmpty_eq_false_iff.mpr haux
    refine Or.inl ?_
    simp [hop c hc hpc, hne]
  | release c hc hpc ht =>
    rw [ht]
    intro hmain haux
    rcases h hmain haux with hcmd | ⟨c', hc', hpc'⟩ | hth
    · exact Or.inl hcmd
    · refine Or.inr (Or.inl ⟨c', ?_, hpc'⟩)
      exact (trigger_stays hc (by simp [hpc]) hc' hpc').1
    · exact Or.inr (Or.inr hth)

theorem Requested.composeStep (h : m.Requested) (hop : m.Served .composeStep) :
    m.composeStep.Requested := by
  cases m.composeStep_spec with
  | wait hpc hcmds ht =>
    rw [ht]
    exact h
  | setActive cmd cmds hpc hcmds hcmd ht =>
    rw [ht]
    intro hmain haux
    rcases h hmain haux with hmem | hrest
    · rw [hcmds] at hmem
      exact Or.inl (List.mem_of_ne_of_mem (Ne.symm hcmd) hmem)
    · exact Or.inr hrest
  | skip cmds hpc hcmds hactive ht =>
    have hon : m.th.isActive = true := hop hpc (by rw [hcmds]; rfl)
    exact absurd (hactive.symm.trans hon) Bool.false_ne_true
  | start cmds hpc hcmds hactive ht =>
    rw [ht]
    exact fun _ _ => Or.inr (Or.inr (by simp))
  | mainEmpty hpc ht =>
    rw [ht]
    intro hmain _
    have hne : m.mainQ.isEmpty = false := List.isEmpty_eq_false_iff.mpr hmain
    exact Or.inr (Or.inr (by simp [hne]))
  | auxEmpty hpc ht =>
    rw [ht]
    intro _ haux
    have hne : m.auxQ.isEmpty = false := List.isEmpty_eq_false_iff.mpr haux
    exact Or.inr (Or.inr (by simp [hne]))
  | takeMain j rest hpc hactive hnodes ht =>
    rw [ht]
    exact fun _ _ => Or.inr (Or.inr (by simp))
  | missMain hpc hnone ht =>
    rw [ht]
    exact fun _ _ => Or.inr (Or.inr (by simp))
  | takeAux j rest hpc hactive hnodes ht =>
    rw [ht]
    exact fun _ _ => Or.inr (Or.inr (by simp))
  | missAux hpc hnone ht =>
    rw [ht]
    exact fun _ _ => Or.inr (Or.inr (by simp))
  | releaseMain hpc ht =>
    rw [ht]
    exact fun _ _ => Or.inr (Or.inr (by simp [callRelease]))
  | releaseAux hpc ht =>
    rw [ht]
    exact fun _ _ => Or.inr (Or.inr (by simp [callRelease]))

theorem Requested.step (h : m.Requested) (hop : m.Served op) (ht : m.step op = some t) :
    t.Requested := by
  cases op with
  | storeJpeg camType frameIdx releaseCb releaseData allocOk =>
    cases ht
    rw [storeJpeg_eq]
    intro hmain haux
    rcases h hmain haux with hcmd | ⟨c, hc, hpc⟩ | hth
    · exact Or.inl hcmd
    · exact Or.inr (Or.inl ⟨c, List.mem_append_left _ hc, hpc⟩)
    · exact Or.inr (Or.inr hth)
  | callStep i ok =>
    cases ht
    exact h.callStep hop
  | composeStep =>
    cases ht
    exact h.composeStep hop
  | flush camType =>
    cases ht
    cases hactive : (m.queue camType).active with
    | false => exact (flush_of_inactive hactive).symm ▸ h
    | true =>
      rw [flush_of_active hactive]
      cases camType with
      | main => exact fun hmain => absurd rfl hmain
      | aux => exact fun _ haux => absurd rfl haux
  | init camType =>
    cases ht
    cases camType <;> exact h
  | setMpoEnabled b =>
    cases ht
    exact h
  | sendCmd cmd =>
    cases ht
    intro hmain haux
    rcases h hmain haux with hmem | hrest
    · exact Or.inl (List.mem_append_left _ hmem)
    · exact Or.inr hrest

variable {x y : JpegInfo}

/-- The two images are in the queues, the thread holding the main one at most, or settled. -/
def SettledOrWaits (x y : JpegInfo) (m : Muxer) : Prop :=
  x ∈ m.mains ∧ y ∈ m.auxQ.nodes ∨ m.Settled x y

theorem Settled.mono (h : m.Settled x y) (hcomposed : m.composed ⊆ t.composed)
    (hflushed : m.flushed ⊆ t.flushed) : t.Settled x y := by
  rcases h with ⟨p, hp, hrest⟩ | hx | hy
  · exact Or.inl ⟨p, hcomposed hp, hrest⟩
  · exact Or.inr (Or.inl (hflushed hx))
  · exact Or.inr (Or.inr (hflushed hy))

theorem SettledOrWaits.mono (h : m.SettledOrWaits x y) (hmains : m.mains ⊆ t.mains)
    (haux : m.auxQ.nodes ⊆ t.auxQ.nodes) (hcomposed : m.composed ⊆ t.composed)
    (hflushed : m.flushed ⊆ t.flushed) : t.SettledOrWaits x y := by
  rcases h with ⟨hx, hy⟩ | hsettled
  · exact Or.inl ⟨hmains hx, haux hy⟩
  · exact Or.inr (hsettled.mono hcomposed hflushed)

theorem mains_subset (hmain : m.mainQ.nodes ⊆ t.mainQ.nodes) (hth : t.th = m.th) :
    m.mains ⊆ t.mains := by
  intro j hj
  rcases List.mem_append.mp hj with hheld | hqueued
  · exact List.mem_append_left _ (hth ▸ hheld)
  · exact List.mem_append_right _ (hmain hqueued)

theorem SettledOrWaits.callStep (h : m.SettledOrWaits x y) (i : Nat) (ok : Bool) :
    (m.callStep i ok).SettledOrWaits x y := by
  cases m.callStep_spec i ok with
  | absent hc ht =>
    rw [ht]
    exact h
  | accept c hc hpc hactive ht =>
    rw [ht]
    cases c.camType with
    | main =>
      refine h.mono (mains_subset ?_ rfl) (List.Subset.refl _) (List.Subset.refl _)
        (List.Subset.refl _)
      exact List.subset_append_left _ _
    | aux =>
      refine h.mono (List.Subset.refl _) ?_ (List.Subset.refl _) (List.Subset.refl _)
      exact List.subset_append_left _ _
  | refuse c hc hpc hactive ht =>
    rw [ht]
    exact h
  | trigger c hc hpc ht =>
    rw [ht]
    exact h
  | release c hc hpc ht =>
    rw [ht]
    exact h

theorem SettledOrWaits.joins (h : m.SettledOrWaits x y) (hjoins : Joins m t) (hagree : m.Agree)
    (hxy : x.frameIdx = y.frameIdx) (hflushed : t.flushed = m.flushed) :
    t.SettledOrWaits x y := by
  have hsub : m.flushed ⊆ t.flushed := hflushed ▸ List.Subset.refl _
  cases hjoins with
  | stay hmains haux hcomposed =>
    exact h.mono (hmains ▸ List.Subset.refl _) (haux ▸ List.Subset.refl _)
      (hcomposed ▸ List.Subset.refl _) hsub
  | join main aux hmains haux hcomposed =>
    have hjoined : (main, aux) ∈ t.composed := by simp [hcomposed]
    have hframe : main.frameIdx = aux.frameIdx := by
      refine hagree (main, aux) (List.mem_append_right _ ?_)
      rw [hmains, haux]
      exact List.mem_cons_self
    rcases h with ⟨hx, hy⟩ | hsettled
    · rw [hmains] at hx
      rw [haux] at hy
      rcases List.mem_cons.mp hx with rfl | hx
      · exact Or.inr (Or.inl ⟨_, hjoined, rfl, hframe.symm, Or.inl rfl⟩)
      · rcases List.mem_cons.mp hy with rfl | hy
        · exact Or.inr (Or.inl ⟨_, hjoined, hframe.trans hxy.symm, hxy.symm, Or.inr rfl⟩)
        · exact Or.inl ⟨hx, hy⟩
    · exact Or.inr (hsettled.mono (hcomposed ▸ List.subset_append_left _ _) hsub)
  | miss hnodes haux hcomposed =>
    rcases h with ⟨hx, hy⟩ | hsettled
    · rw [hnodes] at hy
      cases hy
    · exact Or.inr (hsettled.mono (hcomposed ▸ List.Subset.refl _) hsub)

theorem composeStep_flushed (m : Muxer) : m.composeStep.flushed = m.flushed := by
  cases m.composeStep_spec <;> rename_i ht <;> rw [ht] <;> rfl

theorem SettledOrWaits.flush (h : m.SettledOrWaits x y) (camType : CamSyncType) :
    (m.flush camType).SettledOrWaits x y := by
  cases hactive : (m.queue camType).active with
  | false => exact (flush_of_inactive hactive).symm ▸ h
  | true =>
    rw [flush_of_active hactive]
    rcases h with ⟨hx, hy⟩ | hsettled
    · cases camType with
      | main =>
        rcases List.mem_append.mp hx with hheld | hqueued
        · exact Or.inl ⟨List.mem_append_left _ hheld, hy⟩
        · exact Or.inr (Or.inr (Or.inl (List.mem_append_right _ hqueued)))
      | aux => exact Or.inr (Or.inr (Or.inr (List.mem_append_right _ hy)))
    · refine Or.inr (hsettled.mono ?_ (List.subset_append_left _ _))
      exact (setQueue_composed camType _ m).symm ▸ List.Subset.refl _

theorem SettledOrWaits.step (h : m.SettledOrWaits x y) (hinv : m.QueueInv) (hagree : m.Agree)
    (hxy : x.frameIdx = y.frameIdx) (ht : m.step op = some t) : t.SettledOrWaits x y := by
  cases op with
  | storeJpeg camType frameIdx releaseCb releaseData allocOk =>
    cases ht
    rw [storeJpeg_eq]
    exact h
  | callStep i ok =>
    cases ht
    exact h.callStep i ok
  | composeStep =>
    cases ht
    exact h.joins (composeStep_joins hinv) hagree hxy m.composeStep_flushed
  | flush camType =>
    cases ht
    exact h.flush camType
  | init camType =>
    cases ht
    cases camType <;> exact h
  | setMpoEnabled b =>
    cases ht
    exact h
  | sendCmd cmd =>
    cases ht
    exact h

theorem Requested.not_both (h : m.Requested) (hidle : m.Idle) (hx : x ∈ m.mains)
    (hy : y ∈ m.auxQ.nodes) : False := by
  obtain ⟨hcalls, hcmds, hpc⟩ := hidle
  rw [mains_of_ne (by simp [hpc])] at hx
  rcases h (List.ne_nil_of_mem hx) (List.ne_nil_of_mem hy) with hcmd | ⟨c, hc, -⟩ | hth
  · rw [hcmds] at hcmd
    cases hcmd
  · rw [hcalls] at hc
    cases hc
  · exact hth hpc

structure FramesInv (m : Muxer) : Prop where
  queues : m.QueueInv
  agree : m.Agree

theorem FramesInv.step (h : m.FramesInv) (hop : m.InStep op) (ht : m.step op = some t) :
    t.FramesInv :=
  ⟨h.queues.step ht, h.agree.step h.queues hop ht⟩

theorem queueInv_start : ({} : Muxer).QueueInv :=
  ⟨fun camType => by cases camType <;> exact fun _ => rfl, fun h => by cases h⟩

theorem framesInv_start : ({} : Muxer).FramesInv := ⟨queueInv_start, fun p hp => by cases hp⟩

theorem requested_run {ops : List MuxerOp} (served : OpsMeet step Served {} ops)
    (run : runOps step {} ops = some t) : t.Requested :=
  run_invariant (fun _ _ _ h hop ht => Requested.step h hop ht) (fun h => absurd rfl h) served run

theorem settled_run {s : Muxer} {earlier later : List MuxerOp}
    (served : OpsMeet step Served {} (earlier ++ later))
    (meet : OpsMeet step InStep {} (earlier ++ later)) (first : runOps step {} earlier = some s)
    (run : runOps step s later = some t) (hidle : t.Idle) (hx : x ∈ s.mainQ.nodes)
    (hy : y ∈ s.auxQ.nodes) (hxy : x.frameIdx = y.frameIdx) : t.Settled x y := by
  obtain ⟨meetFirst, meetLater⟩ := meet.split first
  have hs : s.FramesInv :=
    run_invariant (fun _ _ _ h hop ht => FramesInv.step h hop ht) framesInv_start meetFirst first
  have keeps : ∀ m op t, FramesInv m ∧ SettledOrWaits x y m → m.InStep op → m.step op = some t →
      t.FramesInv ∧ t.SettledOrWaits x y := by
    intro m op t h hop ht
    exact ⟨h.1.step hop ht, h.2.step h.1.queues h.1.agree hxy ht⟩
  have hwaits : t.FramesInv ∧ t.SettledOrWaits x y :=
    run_invariant keeps ⟨hs, Or.inl ⟨List.mem_append_right _ hx, hy⟩⟩ meetLater run
  have hreq : t.Requested := by
    refine requested_run served ?_
    rw [runOps_append, first]
    exact run
  exact hwaits.2.resolve_left fun ⟨hx, hy⟩ => hreq.not_both hidle hx hy

/-- While the images arrive in step, the pairs are of the same frame and no two images of a frame
are left over. In a run without a flush that leaves nothing under way, the pairs are of the same
frame only if the images arrive in step. -/
theorem composes_frames_of_inStep {ops : List MuxerOp} (run : runOps step {} ops = some t) :
    (OpsMeet step InStep {} ops → Always step SameFrame {} ops ∧
      (OpsMeet step Served {} ops → t.Idle → ∀ earlier later s, ops = earlier ++ later →
        runOps step {} earlier = some s → ∀ x ∈ s.mainQ.nodes, ∀ y ∈ s.auxQ.nodes,
          x.frameIdx = y.frameIdx → t.Settled x y)) ∧
    (OpsMeet step Served {} ops → t.Idle → (∀ camType, .flush camType ∉ ops) →
      (Always step SameFrame {} ops ↔ OpsMeet step InStep {} ops)) := by
  have always : OpsMeet step InStep {} ops → Always step SameFrame {} ops :=
    always_invariant (fun _ h => h.agree.sameFrame) (fun _ _ _ h hop ht => FramesInv.step h hop ht)
      framesInv_start
  refine ⟨fun meet => ⟨always meet, ?_⟩, fun served hidle hflush => ⟨fun hall => ?_, always⟩⟩
  · intro served hidle earlier later s hops first x hx y hy hxy
    subst hops
    rw [runOps_append, first] at run
    exact settled_run served meet first run hidle hx hy hxy
  · -- at the end all pairs at the same place are composed
    have hempty : t.mains.zip t.auxQ.nodes = [] := by
      refine Classical.byContradiction fun hne => ?_
      obtain ⟨p, hp⟩ := List.exists_mem_of_ne_nil _ hne
      obtain ⟨hx, hy⟩ := List.of_mem_zip hp
      exact (requested_run served run).not_both hidle hx hy
    have hagree : t.Agree := by
      intro p hp
      rw [pairs, hempty, List.append_nil] at hp
      exact hall.last run p hp
    exact (inStep_of_agree queueInv_start run hflush hagree).1

/-- The images of frame 2 are joined. -/
theorem frame_two_joins : ∃ t, runOps step {}
    (storeAll [(.main, 2), (.aux, 2)] ++ List.replicate 11 .composeStep) = some t ∧ t.Idle ∧
      t.Settled ⟨0, 2, true, true⟩ ⟨1, 2, true, true⟩ ∧ Always step SameFrame {}
        (storeAll [(.main, 2), (.aux, 2)] ++ List.replicate 11 .composeStep) := by
  obtain ⟨always, settled⟩ := (@composes_frames_of_inStep _
    (storeAll [(.main, 2), (.aux, 2)] ++ List.replicate 11 .composeStep) rfl).1 (by decide)
  refine ⟨_, rfl, ⟨rfl, rfl, rfl⟩, ?_, always⟩
  exact settled (by decide) ⟨rfl, rfl, rfl⟩ _ _ _ rfl rfl _ (by decide) _ (by decide) rfl

/-- The auxiliary camera misses frame 1: its image of frame 2 is joined with the main image of frame
1, and the main image of frame 2 is left over. -/
theorem missed_frame_joins : OpsMeet step Served {}
      (storeAll [(.main, 1), (.main, 2), (.aux, 2)] ++ List.replicate 15 .composeStep) ∧
    ∃ s t, runOps step {} (storeAll [(.main, 1), (.main, 2), (.aux, 2)]) = some s ∧
      runOps step s (List.replicate 15 .composeStep) = some t ∧ t.Idle ∧
      t.composed.map (fun p => (p.1.frameIdx, p.2.frameIdx)) = [(1, 2)] ∧
      (⟨1, 2, true, true⟩ : JpegInfo) ∈ s.mainQ.nodes ∧
      (⟨2, 2, true, true⟩ : JpegInfo) ∈ s.auxQ.nodes ∧
      ¬t.SameFrame ∧ ¬t.Settled ⟨1, 2, true, true⟩ ⟨2, 2, true, true⟩ := by
  refine ⟨by decide, _, _, rfl, rfl, ⟨rfl, rfl, rfl⟩, rfl, by decide, by decide, ?_, ?_⟩
  · intro h
    have hbad := h (⟨0, 1, true, true⟩, ⟨2, 2, true, true⟩) (by decide)
    exact absurd hbad (by decide)
  · rintro (⟨p, hp, hx, -⟩ | hx | hy)
    · rw [List.mem_singleton.mp hp] at hx
      exact absurd hx (by decide)
    · cases hx
    · cases hy

end Muxer

end DeviceHal.Camera
