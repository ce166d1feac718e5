import DeviceHal.Camera.Muxer
import DeviceHal.Lib.Run
import Mathlib.Data.List.Count
import Mathlib.Data.List.Nodup
import Mathlib.Data.List.Perm.Basic
import Mathlib.Data.List.Range

namespace DeviceHal.Camera

open Lib

/-- The images of the calls that have not given theirs away. -/
def calling (calls : List StoreCall) : List JpegInfo :=
  (calls.filter fun c => c.pc ≠ .trigger).map fun c => c.jpeg

/-- The images that the thread is about to release. -/
def ComposeTh.held (th : ComposeTh) : List JpegInfo :=
  match th.pc with
  | .dequeueAux => th.mainJpegNode.toList
  | .releaseMain => th.mainJpegNode.toList ++ th.auxJpegNode.toList
  | .releaseAux => th.auxJpegNode.toList
  | _ => []

@[simp] theorem calledBack_append (js ks : List JpegInfo) :
    calledBack (js ++ ks) = calledBack js ++ calledBack ks := List.filter_append ..

@[simp] theorem calledBack_nil : calledBack [] = [] := rfl

theorem calledBack_perm {js ks : List JpegInfo} (h : js.Perm ks) :
    (calledBack js).Perm (calledBack ks) := h.filter _

theorem calling_append (cs ds : List StoreCall) : calling (cs ++ ds) = calling cs ++ calling ds := by
  simp only [calling, List.filter_append, List.map_append]

section Calls

variable {calls : List StoreCall} {i : Nat} {c : StoreCall}

theorem eraseIdx_perm (h : calls[i]? = some c) : (c :: calls.eraseIdx i).Perm calls := by
  obtain ⟨hlt, rfl⟩ := List.getElem?_eq_some_iff.mp h
  exact List.getElem_cons_eraseIdx_perm hlt

theorem set_perm (h : calls[i]? = some c) (d : StoreCall) :
    (c :: calls.set i d).Perm (d :: calls) := by
  obtain ⟨hlt, rfl⟩ := List.getElem?_eq_some_iff.mp h
  have hset := (List.set_perm_cons_eraseIdx hlt d).cons calls[i]
  exact hset.trans ((List.Perm.swap _ _ _).trans ((List.getElem_cons_eraseIdx_perm hlt).cons d))

theorem count_calling_set (h : calls[i]? = some c) (d : StoreCall) (j : JpegInfo) :
    (calledBack (calling [c])).count j + (calledBack (calling (calls.set i d))).count j =
      (calledBack (calling [d])).count j + (calledBack (calling calls)).count j := by
  have hperm : (calling ([c] ++ calls.set i d)).Perm (calling ([d] ++ calls)) :=
    ((set_perm h d).filter _).map _
  have hcount := (calledBack_perm hperm).count_eq j
  simpa only [calling_append, calledBack_append, List.count_append] using hcount

theorem count_calling_erase (h : calls[i]? = some c) (j : JpegInfo) :
    (calledBack (calling [c])).count j + (calledBack (calling (calls.eraseIdx i))).count j =
      (calledBack (calling calls)).count j := by
  have hperm : (calling ([c] ++ calls.eraseIdx i)).Perm (calling calls) :=
    ((eraseIdx_perm h).filter _).map _
  have hcount := (calledBack_perm hperm).count_eq j
  simpa only [calling_append, calledBack_append, List.count_append] using hcount

end Calls

namespace Muxer

variable {m t : Muxer} {op : MuxerOp}

/-- The images that are with a call, in a queue or with the thread. -/
def owned (m : Muxer) : List JpegInfo :=
  calling m.calls ++ (m.mainQ.nodes ++ (m.auxQ.nodes ++ m.th.held))

def AtRest (m : Muxer) : Prop :=
  m.mainQ.nodes = [] ∧ m.auxQ.nodes = [] ∧ m.calls = [] ∧ m.th.pc = .getCmd

/-- No image is released twice, and at rest every image has been released. -/
def ReleasedOnce (m : Muxer) : Prop :=
  (∀ j, m.released.count j ≤ 1) ∧
    (m.AtRest → ∀ j ∈ m.images, j.releaseCb = true → m.released.count j = 1)

/-- No image is lost and none is released once more: the memory for the image's node can be
allocated, a queue that is flushed has only images with data, and the thread gets a main image
unless it has no auxiliary one left from its last round. -/
def Keeps (m : Muxer) : MuxerOp → Prop
  | .storeJpeg _ _ releaseCb _ allocOk =>
    m.mpoEnabled = true → releaseCb = true → allocOk = true
  | .flush camType => ∀ j ∈ (m.queue camType).flush.1, j.releaseCb = true → j.releaseData = true
  | .composeStep => m.th.pc = .dequeueMain → m.mainQ.dequeue.1 = none →
      ∀ j, m.th.auxJpegNode = some j → j.releaseCb = false
  | _ => True

/-- The images that were released and those that will be. -/
def places (m : Muxer) : List JpegInfo := m.released ++ calledBack m.owned

/-- The images that nobody has any more and that are not released. -/
def gone (m : Muxer) : MuxerOp → List JpegInfo
  | .storeJpeg _ frameIdx releaseCb releaseData allocOk =>
    if m.mpoEnabled && !allocOk then [⟨m.images.length, frameIdx, releaseCb, releaseData⟩] else []
  | .flush camType => (m.queue camType).flush.1.filter fun j => !j.releaseData
  | _ => []

/-- The image of its last round that the thread is about to release again. -/
def again (m : Muxer) : MuxerOp → List JpegInfo
  | .composeStep =>
    if m.th.pc = .dequeueMain ∧ m.mainQ.dequeue.1 = none then m.th.auxJpegNode.toList else []
  | _ => []

def arrived (m : Muxer) : MuxerOp → List JpegInfo
  | .storeJpeg _ frameIdx releaseCb releaseData _ =>
    [⟨m.images.length, frameIdx, releaseCb, releaseData⟩]
  | _ => []

theorem calledBack_eq_nil {js : List JpegInfo} :
    calledBack js = [] ↔ ∀ j ∈ js, j.releaseCb = false := by
  simp only [calledBack, List.filter_eq_nil_iff, Bool.not_eq_true]

theorem keeps_iff :
    m.Keeps op ↔ calledBack (m.gone op) = [] ∧ calledBack (m.again op) = [] := by
  simp only [calledBack_eq_nil]
  cases op with
  | storeJpeg camType frameIdx releaseCb releaseData allocOk =>
    cases m.mpoEnabled <;> cases releaseCb <;> cases allocOk <;> simp [Keeps, gone, again, *]
  | flush camType =>
    simp only [Keeps, gone, again, List.mem_filter]
    refine ⟨fun h => ⟨fun j hj => ?_, fun j hj => by cases hj⟩, fun h j hj hcb => ?_⟩
    · grind
    grind
  | composeStep =>
    simp only [Keeps, gone, again]
    grind
  | _ => simp [Keeps, gone, again]

instance (m : Muxer) (op : MuxerOp) : Decidable (m.Keeps op) :=
  decidable_of_iff _ keeps_iff.symm

theorem places_callStep (i : Nat) (ok : Bool) : (m.callStep i ok).places.Perm m.places := by
  cases m.callStep_spec i ok with
  | absent hc ht => rw [ht]
  | accept c hc hpc hactive ht =>
    rw [ht]
    refine List.perm_iff_count.mpr fun j => ?_
    have hcalls := count_calling_set hc { c with pc := .trigger } j
    have hold : calling [c] = [c.jpeg] := by simp [calling, hpc]
    have hnew : calling [{ c with pc := .trigger }] = [] := rfl
    rw [hold, hnew, calledBack_nil, List.count_nil] at hcalls
    generalize m.calls.set i { c with pc := .trigger } = calls at hcalls
    cases c.camType with
    | main =>
      simp only [places, owned, setQueue, queue, calledBack_append, List.count_append]
      omega
    | aux =>
      simp only [places, owned, setQueue, queue, calledBack_append, List.count_append]
      omega
  | refuse c hc hpc hactive ht =>
    rw [ht]
    refine List.perm_iff_count.mpr fun j => ?_
    have hcalls := count_calling_set hc { c with pc := .release } j
    have hold : calling [c] = [c.jpeg] := by simp [calling, hpc]
    have hnew : calling [{ c with pc := .release }] = [c.jpeg] := rfl
    rw [hold, hnew] at hcalls
    simp only [places, owned, calledBack_append, List.count_append]
    omega
  | trigger c hc hpc ht =>
    rw [ht]
    refine List.perm_iff_count.mpr fun j => ?_
    have hcalls := count_calling_erase hc j
    have hold : calling [c] = [] := by simp [calling, hpc]
    rw [hold, calledBack_nil, List.count_nil] at hcalls
    simp only [places, owned, calledBack_append, List.count_append]
    omega
  | release c hc hpc ht =>
    rw [ht]
    refine List.perm_iff_count.mpr fun j => ?_
    have hcalls := count_calling_erase hc j
    have hold : calling [c] = [c.jpeg] := by simp [calling, hpc]
    rw [hold] at hcalls
    simp only [places, owned, callRelease, calledBack_append, List.count_append]
    omega

theorem places_composeStep :
    m.composeStep.places.Perm (m.places ++ calledBack (m.again .composeStep)) := by
  have stays : m.th.pc ≠ .dequeueMain → calledBack (m.again .composeStep) = [] := by
    intro hpc
    simp only [again, hpc, false_and, if_false, calledBack_nil]
  refine List.perm_iff_count.mpr fun k => ?_
  cases m.composeStep_spec with
  | wait hpc hcmds ht =>
    rw [ht, stays (by simp [hpc]), List.append_nil]
  | setActive cmd cmds hpc hcmds hcmd ht =>
    rw [ht, stays (by simp [hpc]), List.append_nil]
    rfl
  | skip cmds hpc hcmds hactive ht =>
    rw [ht, stays (by simp [hpc]), List.append_nil]
    rfl
  | start cmds hpc hcmds hactive ht =>
    rw [ht, stays (by simp [hpc]), List.append_nil]
    simp only [places, owned, ComposeTh.held, hpc]
  | mainEmpty hpc ht =>
    rw [ht, stays (by simp [hpc]), List.append_nil]
    cases m.mainQ.isEmpty <;> simp [places, owned, ComposeTh.held, hpc]
  | auxEmpty hpc ht =>
    rw [ht, stays (by simp [hpc]), List.append_nil]
    cases m.auxQ.isEmpty <;> simp [places, owned, ComposeTh.held, hpc]
  | takeMain j rest hpc hactive hnodes ht =>
    have hagain : m.again .composeStep = [] := by
      simp [again, QCameraQueue.dequeue, hactive, hnodes]
    have hcons : j :: rest = [j] ++ rest := rfl
    rw [ht, hagain]
    simp only [places, owned, ComposeTh.held, hpc, hnodes, hcons, Option.toList_some,
      calledBack_append, List.count_append, calledBack_nil, List.count_nil]
    omega
  | missMain hpc hnone ht =>
    have hagain : m.again .composeStep = m.th.auxJpegNode.toList := by
      simp [again, hpc, dequeue_of_none hnone]
    rw [ht, hagain]
    simp only [places, owned, ComposeTh.held, hpc, calledBack_append, Option.toList_none,
      List.count_append, calledBack_nil, List.count_nil]
    omega
  | takeAux j rest hpc hactive hnodes ht =>
    have hcons : j :: rest = [j] ++ rest := rfl
    rw [ht, stays (by simp [hpc]), List.append_nil]
    simp only [places, owned, ComposeTh.held, hpc, hnodes, hcons, Option.toList_some,
      calledBack_append, List.count_append]
    omega
  | missAux hpc hnone ht =>
    rw [ht, stays (by simp [hpc]), List.append_nil]
    simp only [places, owned, ComposeTh.held, hpc, Option.toList_none, List.append_nil]
  | releaseMain hpc ht =>
    rw [ht, stays (by simp [hpc]), List.append_nil]
    simp only [places, owned, callRelease, ComposeTh.held, hpc, calledBack_append,
      List.count_append]
    omega
  | releaseAux hpc ht =>
    rw [ht, stays (by simp [hpc]), List.append_nil]
    simp only [places, owned, callRelease, ComposeTh.held, hpc, calledBack_append,
      List.count_append, calledBack_nil, List.count_nil]
    omega

theorem count_calledBack_filter (js : List JpegInfo) (j : JpegInfo) :
    (calledBack (js.filter fun j => j.releaseData)).count j +
      (calledBack (js.filter fun j => !j.releaseData)).count j = (calledBack js).count j := by
  rw [← List.count_append, ← calledBack_append]
  exact (calledBack_perm (List.filter_append_perm _ js)).count_eq j

theorem places_flush (camType : CamSyncType) :
    ((m.flush camType).places ++ calledBack (m.gone (.flush camType))).Perm m.places := by
  cases hactive : (m.queue camType).active with
  | false =>
    have hgone : m.gone (.flush camType) = [] := by
      simp [gone, QCameraQueue.flush, hactive]
    rw [flush_of_inactive hactive, hgone, calledBack_nil, List.append_nil]
  | true =>
    have hgone : m.gone (.flush camType) =
        (m.queue camType).nodes.filter fun j => !j.releaseData := by
      simp [gone, QCameraQueue.flush, hactive]
    rw [flush_of_active hactive, hgone]
    refine List.perm_iff_count.mpr fun j => ?_
    have hsplit := count_calledBack_filter (m.queue camType).nodes j
    cases camType with
    | main =>
      simp only [queue] at hsplit
      simp only [places, owned, callRelease, setQueue, queue, calledBack_append, List.count_append,
        calledBack_nil, List.count_nil]
      omega
    | aux =>
      simp only [queue] at hsplit
      simp only [places, owned, callRelease, setQueue, queue, calledBack_append, List.count_append,
        calledBack_nil, List.count_nil]
      omega

theorem places_storeJpeg (camType : CamSyncType) (frameIdx : UInt32)
    (releaseCb releaseData allocOk : Bool) :
    ((m.storeJpeg camType frameIdx releaseCb releaseData allocOk).places ++
        calledBack (m.gone (.storeJpeg camType frameIdx releaseCb releaseData allocOk))).Perm
      (m.places ++ calledBack
        (m.arrived (.storeJpeg camType frameIdx releaseCb releaseData allocOk))) := by
  rw [storeJpeg_eq]
  refine List.perm_iff_count.mpr fun j => ?_
  have hnew : calling (storedCall camType ⟨m.images.length, frameIdx, releaseCb, releaseData⟩
        m.mpoEnabled allocOk) ++
      m.gone (.storeJpeg camType frameIdx releaseCb releaseData allocOk) =
      m.arrived (.storeJpeg camType frameIdx releaseCb releaseData allocOk) := by
    unfold gone arrived storedCall
    cases m.mpoEnabled <;> cases allocOk <;> rfl
  have hcount := congrArg (fun js => (calledBack js).count j) hnew
  simp only [calledBack_append, List.count_append] at hcount
  simp only [places, owned, calling_append, calledBack_append, List.count_append]
  omega

theorem places_step (ht : m.step op = some t) :
    (t.places ++ calledBack (m.gone op)).Perm
      (m.places ++ calledBack (m.again op ++ m.arrived op)) := by
  cases op with
  | storeJpeg camType frameIdx releaseCb releaseData allocOk =>
    cases ht
    exact places_storeJpeg camType frameIdx releaseCb releaseData allocOk
  | callStep i ok =>
    cases ht
    exact (places_callStep i ok).append_right _
  | composeStep =>
    cases ht
    simp only [gone, arrived, calledBack_nil, List.append_nil]
    exact places_composeStep
  | flush camType =>
    cases ht
    simp only [again, arrived, calledBack_nil, List.append_nil]
    exact places_flush camType
  | init camType =>
    cases ht
    cases camType <;> exact List.Perm.refl _
  | setMpoEnabled b =>
    cases ht
    exact List.Perm.refl _
  | sendCmd cmd =>
    cases ht
    exact List.Perm.refl _

theorem images_step (ht : m.step op = some t) : t.images = m.images ++ m.arrived op := by
  cases op with
  | storeJpeg camType frameIdx releaseCb releaseData allocOk =>
    cases ht
    rw [storeJpeg_eq]
    rfl
  | callStep i ok =>
    cases ht
    simp only [arrived, List.append_nil]
    cases m.callStep_spec i ok with
    | absent hc ht => rw [ht]
    | accept c hc hpc hactive ht =>
      rw [ht]
      exact setQueue_images ..
    | refuse c hc hpc hactive ht => rw [ht]
    | trigger c hc hpc ht => rw [ht]
    | release c hc hpc ht =>
      rw [ht]
      rfl
  | composeStep =>
    cases ht
    simp only [arrived, List.append_nil]
    cases m.composeStep_spec <;> rename_i ht <;> rw [ht] <;> rfl
  | flush camType =>
    cases ht
    simp only [arrived, List.append_nil]
    exact setQueue_images ..
  | init camType =>
    cases ht
    simp only [arrived, List.append_nil]
    exact setQueue_images ..
  | setMpoEnabled b =>
    cases ht
    exact (List.append_nil _).symm
  | sendCmd cmd =>
    cases ht
    exact (List.append_nil _).symm

theorem th_step (ht : m.step op = some t) (hop : op ≠ .composeStep) :
    t.th = m.th ∧ m.released <+: t.released := by
  cases op with
  | storeJpeg camType frameIdx releaseCb releaseData allocOk =>
    cases ht
    rw [storeJpeg_eq]
    exact ⟨rfl, List.prefix_refl _⟩
  | callStep i ok =>
    cases ht
    cases m.callStep_spec i ok with
    | absent hc ht =>
      rw [ht]
      exact ⟨rfl, List.prefix_refl _⟩
    | accept c hc hpc hactive ht =>
      rw [ht]
      cases c.camType <;> exact ⟨rfl, List.prefix_refl _⟩
    | refuse c hc hpc hactive ht =>
      rw [ht]
      exact ⟨rfl, List.prefix_refl _⟩
    | trigger c hc hpc ht =>
      rw [ht]
      exact ⟨rfl, List.prefix_refl _⟩
    | release c hc hpc ht =>
      rw [ht]
      exact ⟨rfl, List.prefix_append _ _⟩
  | composeStep => exact absurd rfl hop
  | flush camType =>
    cases ht
    cases camType <;> exact ⟨rfl, List.prefix_append _ _⟩
  | init camType =>
    cases ht
    cases camType <;> exact ⟨rfl, List.prefix_refl _⟩
  | setMpoEnabled b =>
    cases ht
    exact ⟨rfl, List.prefix_refl _⟩
  | sendCmd cmd =>
    cases ht
    exact ⟨rfl, List.prefix_refl _⟩

/-- The images that are released or that the thread holds. -/
def spent (m : Muxer) : List JpegInfo := m.released ++ calledBack m.th.held

/-- What a step of the thread does to the images it has spent and to its auxiliary image. -/
inductive Spends (m t : Muxer) : Prop
  | same (hspent : t.spent = m.spent) (haux : t.th.auxJpegNode = m.th.auxJpegNode)
  | clear (hspent : t.spent = m.spent) (haux : t.th.auxJpegNode = none)
  | takeMain (j : JpegInfo) (hspent : t.spent = m.spent ++ calledBack [j])
      (haux : t.th.auxJpegNode = m.th.auxJpegNode)
  | missMain (hspent : t.spent = m.spent ++ calledBack m.th.auxJpegNode.toList)
      (haux : t.th.auxJpegNode = m.th.auxJpegNode)
  | takeAux (j : JpegInfo) (hj : j ∈ m.auxQ.nodes) (hspent : t.spent = m.spent ++ calledBack [j])
      (haux : t.th.auxJpegNode = some j)

theorem composeStep_spends (m : Muxer) : Spends m m.composeStep := by
  cases m.composeStep_spec with
  | wait hpc hcmds ht =>
    rw [ht]
    exact .same rfl rfl
  | setActive cmd cmds hpc hcmds hcmd ht =>
    rw [ht]
    exact .same rfl rfl
  | skip cmds hpc hcmds hactive ht =>
    rw [ht]
    exact .same rfl rfl
  | start cmds hpc hcmds hactive ht =>
    rw [ht]
    exact .clear (by simp [spent, ComposeTh.held, hpc]) rfl
  | mainEmpty hpc ht =>
    rw [ht]
    refine .same ?_ rfl
    cases m.mainQ.isEmpty <;> simp [spent, ComposeTh.held, hpc]
  | auxEmpty hpc ht =>
    rw [ht]
    refine .same ?_ rfl
    cases m.auxQ.isEmpty <;> simp [spent, ComposeTh.held, hpc]
  | takeMain j rest hpc hactive hnodes ht =>
    rw [ht]
    exact .takeMain j (by simp [spent, ComposeTh.held, hpc]) rfl
  | missMain hpc hnone ht =>
    rw [ht]
    exact .missMain (by simp [spent, ComposeTh.held, hpc]) rfl
  | takeAux j rest hpc hactive hnodes ht =>
    rw [ht]
    refine .takeAux j (by rw [hnodes]; exact List.mem_cons_self) ?_ rfl
    simp [spent, ComposeTh.held, hpc]
  | missAux hpc hnone ht =>
    rw [ht]
    exact .clear (by simp [spent, ComposeTh.held, hpc]) rfl
  | releaseMain hpc ht =>
    rw [ht]
    exact .same (by simp [spent, ComposeTh.held, hpc, callRelease]) rfl
  | releaseAux hpc ht =>
    rw [ht]
    exact .same (by simp [spent, ComposeTh.held, hpc, callRelease]) rfl

theorem spent_step (ht : m.step op = some t) (j : JpegInfo) :
    m.spent.count j ≤ t.spent.count j := by
  by_cases hop : op = .composeStep
  · subst hop
    cases ht
    cases m.composeStep_spends with
    | same hspent haux => rw [hspent]
    | clear hspent haux => rw [hspent]
    | takeMain k hspent haux => rw [hspent, List.count_append]; omega
    | missMain hspent haux => rw [hspent, List.count_append]; omega
    | takeAux k hk hspent haux => rw [hspent, List.count_append]; omega
  · obtain ⟨hth, hreleased⟩ := th_step ht hop
    have hcount := hreleased.sublist.count_le j
    simp only [spent, hth, List.count_append]
    omega

variable {j : JpegInfo}

theorem spent_of_mem (ht : m.step op = some t) (hj : j ∈ m.spent) : j ∈ t.spent := by
  have hcount := spent_step ht j
  grind

/-- The images are numbered, each with a callback is in one place or released, and the thread's
auxiliary image is spent. -/
structure ReleaseInv (m : Muxer) : Prop where
  places : m.places.Perm (calledBack m.images)
  ids : m.images.map (fun j => j.id) = List.range m.images.length
  stale : ∀ j, m.th.auxJpegNode = some j → j.releaseCb = true → j ∈ m.spent

theorem nodup_of_ids (ids : m.images.map (fun j => j.id) = List.range m.images.length) :
    m.images.Nodup := by
  refine List.Nodup.of_map (fun j => j.id) ?_
  rw [ids]
  exact List.nodup_range

theorem ids_step (ids : m.images.map (fun j => j.id) = List.range m.images.length)
    (ht : m.step op = some t) : t.images.map (fun j => j.id) = List.range t.images.length := by
  rw [images_step ht]
  cases op with
  | storeJpeg camType frameIdx releaseCb releaseData allocOk =>
    simp only [arrived, List.map_append, ids, List.map_cons, List.map_nil, List.length_append,
      List.length_singleton, List.range_succ]
  | _ => simpa only [arrived, List.append_nil] using ids

theorem not_mem_arrived (ids : m.images.map (fun j => j.id) = List.range m.images.length)
    (hj : j ∈ m.images) : j ∉ m.arrived op := by
  have hlt : j.id < m.images.length := by
    have hmem : j.id ∈ m.images.map fun j => j.id := List.mem_map_of_mem hj
    rw [ids] at hmem
    exact List.mem_range.mp hmem
  cases op with
  | storeJpeg camType frameIdx releaseCb releaseData allocOk =>
    intro hnew
    rw [List.mem_singleton.mp hnew] at hlt
    exact Nat.lt_irrefl _ hlt
  | _ => exact List.not_mem_nil

theorem stale_step (stale : ∀ j, m.th.auxJpegNode = some j → j.releaseCb = true → j ∈ m.spent)
    (ht : m.step op = some t) :
    ∀ j, t.th.auxJpegNode = some j → j.releaseCb = true → j ∈ t.spent := by
  intro j hj hcb
  by_cases hop : op = .composeStep
  · have kept : t.th.auxJpegNode = m.th.auxJpegNode → j ∈ t.spent := by
      intro haux
      exact spent_of_mem ht (stale j (haux ▸ hj) hcb)
    subst hop
    cases ht
    cases m.composeStep_spends with
    | same hspent haux => exact kept haux
    | clear hspent haux =>
      rw [haux] at hj
      cases hj
    | takeMain k hspent haux => exact kept haux
    | missMain hspent haux => exact kept haux
    | takeAux k hk hspent haux =>
      rw [haux] at hj
      cases hj
      rw [hspent]
      exact List.mem_append_right _ (List.mem_filter.mpr ⟨List.mem_singleton_self _, hcb⟩)
  · exact spent_of_mem ht (stale j ((th_step ht hop).1 ▸ hj) hcb)

theorem ReleaseInv.step (h : m.ReleaseInv) (hop : m.Keeps op) (ht : m.step op = some t) :
    t.ReleaseInv := by
  obtain ⟨hgone, hagain⟩ := keeps_iff.mp hop
  refine ⟨?_, ids_step h.ids ht, stale_step h.stale ht⟩
  have hplaces := places_step ht
  rw [hgone, List.append_nil, calledBack_append, hagain, List.nil_append] at hplaces
  rw [images_step ht, calledBack_append]
  exact hplaces.trans (h.places.append_right _)

theorem ReleaseInv.nodup (h : m.ReleaseInv) : m.places.Nodup :=
  h.places.symm.nodup ((nodup_of_ids h.ids).filter _)

theorem places_of_atRest (h : m.AtRest) : m.places = m.released := by
  obtain ⟨hmain, haux, hcalls, hpc⟩ := h
  simp [places, owned, hmain, haux, hcalls, calling, ComposeTh.held, hpc]

theorem ReleaseInv.releasedOnce (h : m.ReleaseInv) : m.ReleasedOnce := by
  refine ⟨List.nodup_iff_count_le_one.mp (List.Nodup.of_append_left h.nodup), ?_⟩
  intro hrest j hj hcb
  rw [← places_of_atRest hrest, h.places.count_eq]
  exact List.count_eq_one_of_mem ((nodup_of_ids h.ids).filter _) (List.mem_filter.mpr ⟨hj, hcb⟩)

/-- Nobody has the image any more, and it is not released. -/
structure Lost (j : JpegInfo) (m : Muxer) : Prop where
  image : j ∈ m.images
  callback : j.releaseCb = true
  places : m.places.count j = 0
  aux : m.th.auxJpegNode ≠ some j

/-- An image is lost, or released or about to be released more than once. -/
structure Damaged (m : Muxer) : Prop where
  ids : m.images.map (fun j => j.id) = List.range m.images.length
  image : ∃ j, m.Lost j ∨ 2 ≤ m.spent.count j

theorem Lost.step (h : m.Lost j) (ids : m.images.map (fun j => j.id) = List.range m.images.length)
    (ht : m.step op = some t) : t.Lost j := by
  have hnew : j ∉ m.arrived op := not_mem_arrived ids h.image
  have hagain : j ∉ m.again op := by
    intro hj
    cases op with
    | composeStep =>
      simp only [again] at hj
      split at hj
      next => exact h.aux (Option.mem_toList.mp hj)
      next => cases hj
    | _ => cases hj
  refine ⟨?_, h.callback, ?_, ?_⟩
  · rw [images_step ht]
    exact List.mem_append_left _ h.image
  · have hplaces := (places_step ht).count_eq j
    have hnone : (calledBack (m.again op ++ m.arrived op)).count j = 0 := by
      refine List.count_eq_zero.mpr fun hj => ?_
      rcases List.mem_append.mp (List.mem_filter.mp hj).1 with hj | hj
      · exact hagain hj
      · exact hnew hj
    rw [List.count_append, List.count_append, h.places, hnone] at hplaces
    omega
  · by_cases hop : op = .composeStep
    · subst hop
      cases ht
      cases m.composeStep_spends with
      | same hspent haux => exact haux ▸ h.aux
      | clear hspent haux => simp [haux]
      | takeMain k hspent haux => exact haux ▸ h.aux
      | missMain hspent haux => exact haux ▸ h.aux
      | takeAux k hk hspent haux =>
        rw [haux]
        intro heq
        cases heq
        refine List.count_eq_zero.mp h.places (List.mem_append_right _ ?_)
        refine List.mem_filter.mpr ⟨?_, h.callback⟩
        exact List.mem_append_right _ (List.mem_append_right _ (List.mem_append_left _ hk))
    · rw [(th_step ht hop).1]
      exact h.aux

theorem Damaged.step (h : m.Damaged) (ht : m.step op = some t) : t.Damaged := by
  refine ⟨ids_step h.ids ht, ?_⟩
  obtain ⟨j, hlost | htwice⟩ := h.image
  · exact ⟨j, Or.inl (hlost.step h.ids ht)⟩
  · exact ⟨j, Or.inr (Nat.le_trans htwice (spent_step ht j))⟩

theorem Damaged.not_releasedOnce (h : m.Damaged) (hrest : m.AtRest) : ¬m.ReleasedOnce := by
  rintro ⟨honce, hall⟩
  obtain ⟨j, hlost | htwice⟩ := h.image
  · have hone := hall hrest j hlost.image hlost.callback
    rw [← places_of_atRest hrest, hlost.places] at hone
    omega
  · have hspent : m.spent = m.released := by simp [spent, ComposeTh.held, hrest.2.2.2]
    have hle := honce j
    rw [← hspent] at hle
    omega

theorem mem_places_of_spent (h : j ∈ m.spent) : j ∈ m.places := by
  rcases List.mem_append.mp h with hreleased | hheld
  · exact List.mem_append_left _ hreleased
  · obtain ⟨hj, hcb⟩ := List.mem_filter.mp hheld
    refine List.mem_append_right _ (List.mem_filter.mpr ⟨?_, hcb⟩)
    exact List.mem_append_right _ (List.mem_append_right _ (List.mem_append_right _ hj))

theorem ReleaseInv.lost (h : m.ReleaseInv) (ht : m.step op = some t)
    (hgone : j ∈ calledBack (m.gone op)) : t.Lost j := by
  have hop : op ≠ .composeStep := by
    rintro rfl
    cases hgone
  have hagain : m.again op = [] := by
    cases op with
    | composeStep => exact absurd rfl hop
    | _ => rfl
  have hplaces := places_step ht
  rw [hagain, List.nil_append] at hplaces
  have hall : (t.places ++ calledBack (m.gone op)).Perm (calledBack t.images) := by
    rw [images_step ht, calledBack_append]
    exact hplaces.trans (h.places.append_right _)
  have hnodup : (t.places ++ calledBack (m.gone op)).Nodup :=
    hall.symm.nodup ((nodup_of_ids (ids_step h.ids ht)).filter _)
  have hnone : j ∉ t.places := fun hj => (List.nodup_append.mp hnodup).2.2 j hj j hgone rfl
  obtain ⟨himage, hcb⟩ := List.mem_filter.mp (hall.subset (List.mem_append_right _ hgone))
  refine ⟨himage, hcb, List.count_eq_zero.mpr hnone, fun haux => ?_⟩
  rw [(th_step ht hop).1] at haux
  exact hnone (mem_places_of_spent (spent_of_mem ht (h.stale j haux hcb)))

theorem ReleaseInv.twice (h : m.ReleaseInv)
    (hagain : j ∈ calledBack (m.again .composeStep)) : 2 ≤ m.composeStep.spent.count j := by
  obtain ⟨hj, hcb⟩ := List.mem_filter.mp hagain
  simp only [again] at hj
  split at hj
  next hmiss =>
    have hold : j ∈ m.spent := h.stale j (Option.mem_toList.mp hj) hcb
    have hspent : m.composeStep.spent = m.spent ++ calledBack m.th.auxJpegNode.toList := by
      simp [spent, composeStep, hmiss, ComposeTh.held]
    have hnew : j ∈ calledBack m.th.auxJpegNode.toList := List.mem_filter.mpr ⟨hj, hcb⟩
    grind
  next => cases hj

theorem ReleaseInv.damaged (h : m.ReleaseInv) (hop : ¬m.Keeps op) (ht : m.step op = some t) :
    t.Damaged := by
  refine ⟨ids_step h.ids ht, ?_⟩
  by_cases hgone : calledBack (m.gone op) = []
  · have hagain : calledBack (m.again op) ≠ [] := fun hagain => hop (keeps_iff.mpr ⟨hgone, hagain⟩)
    obtain ⟨j, hj⟩ := List.exists_mem_of_ne_nil _ hagain
    cases op with
    | composeStep =>
      cases ht
      exact ⟨j, Or.inr (h.twice hj)⟩
    | _ => cases hj
  · obtain ⟨j, hj⟩ := List.exists_mem_of_ne_nil _ hgone
    exact ⟨j, Or.inl (h.lost ht hj)⟩

theorem releaseInv_start : ({} : Muxer).ReleaseInv :=
  ⟨List.Perm.refl _, rfl, fun j hj => by cases hj⟩

/-- While no operation loses an image or releases one again, each is released once. A run that ends
at rest releases each once only if none of its operations does. -/
theorem releasedOnce_of_keeps {ops : List MuxerOp} (run : runOps step {} ops = some t) :
    (OpsMeet step Keeps {} ops → Always step ReleasedOnce {} ops) ∧
      (t.AtRest → (Always step ReleasedOnce {} ops ↔ OpsMeet step Keeps {} ops)) := by
  have always : OpsMeet step Keeps {} ops → Always step ReleasedOnce {} ops :=
    always_invariant (fun _ h => h.releasedOnce) (fun _ _ _ h hop ht => ReleaseInv.step h hop ht)
      releaseInv_start
  refine ⟨always, fun hrest => ⟨fun hall => ?_, always⟩⟩
  refine opsMeet_of_last (fun _ _ _ h _ hop ht => ReleaseInv.step h hop ht)
    (fun _ _ _ h _ hop ht => ReleaseInv.damaged h hop ht)
    (fun _ _ _ h _ ht => Damaged.step h ht) releaseInv_start (opsMeet_true _ _) run ?_
  exact fun hdamaged => hdamaged.not_releasedOnce hrest (hall.last run)

/-- A preview that stops before the thread looks for a main image. -/
theorem early_stop_releases : Always step ReleasedOnce {}
    (storeAll [(.main, 1), (.aux, 1)] ++ List.replicate 3 .composeStep ++
      [.flush .main, .flush .aux] ++ List.replicate 6 .composeStep) :=
  (releasedOnce_of_keeps rfl).1 (by decide)

/-- A preview that stops before the thread looks for its second main image: the auxiliary image of
frame 1 is released twice. Without memory for its node, an image is never released. -/
theorem stopped_round_releases_twice :
    (∃ t, runOps step {} (storeAll [(.main, 1), (.aux, 1), (.main, 2), (.aux, 2)] ++
        List.replicate 9 .composeStep ++ [.flush .main, .flush .aux] ++
        List.replicate 10 .composeStep) = some t ∧
      t.AtRest ∧ t.released.count ⟨1, 1, true, true⟩ = 2) ∧
    ∃ t, runOps step {} [.storeJpeg .main 1 true true false] = some t ∧ t.AtRest ∧
      t.released.count ⟨0, 1, true, true⟩ = 0 := by
  refine ⟨⟨_, rfl, ⟨rfl, rfl, rfl, rfl⟩, ?_⟩, _, rfl, ⟨rfl, rfl, rfl, rfl⟩, ?_⟩
  · decide
  · decide

end Muxer

end DeviceHal.Camera
