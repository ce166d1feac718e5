import DeviceHal.Camera.Muxer

namespace DeviceHal.Camera

section Zip

variable {α β : Type}

theorem zip_snoc_left (xs : List α) (ys : List β) (x : α) :
    (xs ++ [x]).zip ys = xs.zip ys ++ (ys[xs.length]?.map fun y => (x, y)).toList := by
  induction xs generalizing ys with
  | nil => cases ys <;> rfl
  | cons a xs ih =>
    cases ys with
    | nil => rfl
    | cons b ys => exact congrArg ((a, b) :: ·) (ih ys)

theorem zip_snoc_right (xs : List α) (ys : List β) (y : β) :
    xs.zip (ys ++ [y]) = xs.zip ys ++ (xs[ys.length]?.map fun x => (x, y)).toList := by
  induction ys generalizing xs with
  | nil =>
    cases xs with
    | nil => rfl
    | cons a xs => simp
  | cons b ys ih =>
    cases xs with
    | nil => rfl
    | cons a xs => exact congrArg ((a, b) :: ·) (ih xs)

theorem zip_prefix_left (xs xs' : List α) (ys : List β) :
    xs.zip ys <+: (xs ++ xs').zip ys := by
  induction xs generalizing ys with
  | nil => exact List.nil_prefix
  | cons a xs ih =>
    cases ys with
    | nil => exact List.nil_prefix
    | cons b ys => exact (List.prefix_cons_inj (a, b)).mpr (ih ys)

end Zip

namespace Muxer

variable {m t : Muxer} {op : MuxerOp}

/-- A queue that is not active is empty, and the thread has a main image when it takes an auxiliary
one. -/
structure QueueInv (m : Muxer) : Prop where
  empty : ∀ camType, (m.queue camType).active = false → (m.queue camType).nodes = []
  main : m.th.pc = .dequeueAux → m.th.mainJpegNode.isSome = true

theorem QueueInv.frame (h : m.QueueInv) (hmain : t.mainQ = m.mainQ) (haux : t.auxQ = m.auxQ)
    (hth : t.th.pc = .dequeueAux → t.th.mainJpegNode.isSome = true) : t.QueueInv := by
  refine ⟨fun camType => ?_, hth⟩
  have hqueue : t.queue camType = m.queue camType := by
    cases camType
    · exact hmain
    · exact haux
  rw [hqueue]
  exact h.empty camType

theorem QueueInv.setQueue (h : m.QueueInv) {camType : CamSyncType} {q : QCameraQueue JpegInfo}
    (hq : q.active = false → q.nodes = []) : (m.setQueue camType q).QueueInv := by
  refine ⟨fun camType' => ?_, by rw [setQueue_th]; exact h.main⟩
  by_cases he : camType' = camType
  · subst he
    rw [queue_setQueue]
    exact hq
  · rw [queue_setQueue_of_ne he]
    exact h.empty camType'

theorem QueueInv.callStep (h : m.QueueInv) (i : Nat) (ok : Bool) : (m.callStep i ok).QueueInv := by
  cases m.callStep_spec i ok with
  | absent hc ht =>
    rw [ht]
    exact h
  | accept c hc hpc hactive ht =>
    rw [ht]
    have hset : (m.setQueue c.camType { m.queue c.camType with
        nodes := (m.queue c.camType).nodes ++ [c.jpeg] }).QueueInv := by
      refine h.setQueue fun hoff => ?_
      exact absurd (hoff.symm.trans (Bool.and_eq_true_iff.mp hactive).2) Bool.false_ne_true
    exact hset.frame rfl rfl hset.main
  | refuse c hc hpc hactive ht => exact ht ▸ h.frame rfl rfl h.main
  | trigger c hc hpc ht => exact ht ▸ h.frame rfl rfl h.main
  | release c hc hpc ht => exact ht ▸ h.frame rfl rfl h.main

theorem QueueInv.composeStep (h : m.QueueInv) : m.composeStep.QueueInv := by
  cases m.composeStep_spec with
  | wait hpc hcmds ht =>
    rw [ht]
    exact h
  | setActive cmd cmds hpc hcmds hcmd ht => exact ht ▸ h.frame rfl rfl h.main
  | skip cmds hpc hcmds hactive ht => exact ht ▸ h.frame rfl rfl h.main
  | start cmds hpc hcmds hactive ht =>
    rw [ht]
    exact h.frame rfl rfl fun he => by cases he
  | mainEmpty hpc ht =>
    rw [ht]
    refine h.frame rfl rfl fun he => ?_
    dsimp only at he
    split at he <;> cases he
  | auxEmpty hpc ht =>
    rw [ht]
    refine h.frame rfl rfl fun he => ?_
    dsimp only at he
    split at he <;> cases he
  | takeMain j rest hpc hactive hnodes ht =>
    rw [ht]
    have hset : (m.setQueue .main { m.mainQ with nodes := rest }).QueueInv := by
      refine h.setQueue fun hoff => ?_
      exact absurd (hoff.symm.trans hactive) Bool.false_ne_true
    exact hset.frame rfl rfl fun _ => rfl
  | missMain hpc hnone ht =>
    rw [ht]
    exact h.frame rfl rfl fun he => by cases he
  | takeAux j rest hpc hactive hnodes ht =>
    rw [ht]
    have hset : (m.setQueue .aux { m.auxQ with nodes := rest }).QueueInv := by
      refine h.setQueue fun hoff => ?_
      exact absurd (hoff.symm.trans hactive) Bool.false_ne_true
    exact hset.frame rfl rfl fun he => by cases he
  | missAux hpc hnone ht =>
    rw [ht]
    exact h.frame rfl rfl fun he => by cases he
  | releaseMain hpc ht =>
    rw [ht]
    exact h.frame rfl rfl fun he => by cases he
  | releaseAux hpc ht =>
    rw [ht]
    exact h.frame rfl rfl fun he => by cases he

theorem QueueInv.step (h : m.QueueInv) (ht : m.step op = some t) : t.QueueInv := by
  cases op with
  | storeJpeg camType frameIdx releaseCb releaseData allocOk =>
    cases ht
    rw [storeJpeg_eq]
    exact h.frame rfl rfl h.main
  | callStep i ok =>
    cases ht
    exact h.callStep i ok
  | composeStep =>
    cases ht
    exact h.composeStep
  | flush camType =>
    cases ht
    cases hactive : (m.queue camType).active with
    | false => exact (flush_of_inactive hactive).symm ▸ h
    | true =>
      have hset : (m.setQueue camType { nodes := [], active := false }).QueueInv :=
        h.setQueue fun _ => rfl
      rw [flush_of_active hactive]
      exact hset.frame rfl rfl hset.main
  | init camType =>
    cases ht
    exact h.setQueue fun hoff => by cases hoff
  | setMpoEnabled b =>
    cases ht
    exact h.frame rfl rfl h.main
  | sendCmd cmd =>
    cases ht
    exact h.frame rfl rfl h.main

/-- The main images that no auxiliary image has been taken for. -/
def mains (m : Muxer) : List JpegInfo :=
  (if m.th.pc = .dequeueAux then m.th.mainJpegNode.toList else []) ++ m.mainQ.nodes

/-- The pairs composed, and those that stand at the same place of the queues. -/
def pairs (m : Muxer) : List (JpegInfo × JpegInfo) := m.composed ++ m.mains.zip m.auxQ.nodes

/-- The image at the place for which a new image of a camera is next. -/
def partner (camType : CamSyncType) (m : Muxer) : Option JpegInfo :=
  match camType with
  | .main => m.auxQ.nodes[m.mains.length]?
  | .aux => m.mains[m.auxQ.nodes.length]?

def pairUp (camType : CamSyncType) (j other : JpegInfo) : JpegInfo × JpegInfo :=
  match camType with
  | .main => (j, other)
  | .aux => (other, j)

/-- The pairs that an operation adds to those at the same place. -/
def added (m : Muxer) : MuxerOp → List (JpegInfo × JpegInfo)
  | .callStep i ok =>
    match m.calls[i]? with
    | none => []
    | some c =>
      if c.pc = .enqueue ∧ (ok && (m.queue c.camType).active) = true then
        ((m.partner c.camType).map (pairUp c.camType c.jpeg)).toList
      else []
  | _ => []

theorem mains_of_ne (h : m.th.pc ≠ .dequeueAux) : m.mains = m.mainQ.nodes := by
  simp only [mains, h, if_false, List.nil_append]

theorem pairs_frame (hmains : t.mains = m.mains) (haux : t.auxQ.nodes = m.auxQ.nodes)
    (hcomposed : t.composed = m.composed) : t.pairs = m.pairs := by
  simp only [pairs, hmains, haux, hcomposed]

theorem mains_frame (hmain : t.mainQ.nodes = m.mainQ.nodes) (hth : t.th = m.th) :
    t.mains = m.mains := by
  simp only [mains, hmain, hth]

theorem pairs_accept (c : StoreCall) (hq : t.mainQ = (m.setQueue c.camType { m.queue c.camType with
      nodes := (m.queue c.camType).nodes ++ [c.jpeg] }).mainQ)
    (hq' : t.auxQ = (m.setQueue c.camType { m.queue c.camType with
      nodes := (m.queue c.camType).nodes ++ [c.jpeg] }).auxQ)
    (hth : t.th = m.th) (hcomposed : t.composed = m.composed) :
    t.pairs = m.pairs ++ ((m.partner c.camType).map (pairUp c.camType c.jpeg)).toList := by
  cases hcam : c.camType with
  | main =>
    rw [hcam] at hq hq'
    have hmains : t.mains = m.mains ++ [c.jpeg] := by
      simp only [mains, hq, hth, setQueue, queue, List.append_assoc]
    have haux : t.auxQ.nodes = m.auxQ.nodes := by rw [hq']; rfl
    simp only [pairs, hcomposed, hmains, haux, zip_snoc_left, List.append_assoc]
    rfl
  | aux =>
    rw [hcam] at hq hq'
    have hmains : t.mains = m.mains := mains_frame (by rw [hq]; rfl) hth
    have haux : t.auxQ.nodes = m.auxQ.nodes ++ [c.jpeg] := by rw [hq']; rfl
    simp only [pairs, hcomposed, hmains, haux, zip_snoc_right, List.append_assoc]
    rfl

theorem pairs_callStep (i : Nat) (ok : Bool) :
    (m.callStep i ok).pairs = m.pairs ++ m.added (.callStep i ok) := by
  cases m.callStep_spec i ok with
  | absent hc ht =>
    simp only [added, hc, List.append_nil]
    rw [ht]
  | accept c hc hpc hactive ht =>
    simp only [added, hc, hpc, hactive, true_and, if_true]
    rw [ht]
    exact pairs_accept c rfl rfl (setQueue_th ..) (setQueue_composed ..)
  | refuse c hc hpc hactive ht =>
    simp only [added, hc, hpc, hactive, true_and, Bool.false_eq_true, if_false, List.append_nil]
    rw [ht]
    rfl
  | trigger c hc hpc ht =>
    have hadded : m.added (.callStep i ok) = [] := by simp [added, hc, hpc]
    rw [hadded, List.append_nil, ht]
    rfl
  | release c hc hpc ht =>
    have hadded : m.added (.callStep i ok) = [] := by simp [added, hc, hpc]
    rw [hadded, List.append_nil, ht]
    rfl

/-- What a step of the thread does to the images that wait: it leaves them, it joins the first two,
or it finds no auxiliary image. -/
inductive Joins (m t : Muxer) : Prop
  | stay (hmains : t.mains = m.mains) (haux : t.auxQ.nodes = m.auxQ.nodes)
      (hcomposed : t.composed = m.composed)
  | join (main aux : JpegInfo) (hmains : m.mains = main :: t.mains)
      (haux : m.auxQ.nodes = aux :: t.auxQ.nodes)
      (hcomposed : t.composed = m.composed ++ [(main, aux)])
  | miss (hnodes : m.auxQ.nodes = []) (haux : t.auxQ.nodes = [])
      (hcomposed : t.composed = m.composed)

theorem Joins.of_ne (hpc : m.th.pc ≠ .dequeueAux) (hpc' : t.th.pc ≠ .dequeueAux)
    (hmain : t.mainQ = m.mainQ) (haux : t.auxQ = m.auxQ) (hcomposed : t.composed = m.composed) :
    Joins m t := by
  refine .stay ?_ (by rw [haux]) hcomposed
  rw [mains_of_ne hpc, mains_of_ne hpc', hmain]

theorem composeStep_joins (h : m.QueueInv) : Joins m m.composeStep := by
  cases m.composeStep_spec with
  | wait hpc hcmds ht =>
    rw [ht]
    exact .stay rfl rfl rfl
  | setActive cmd cmds hpc hcmds hcmd ht =>
    rw [ht]
    exact .stay rfl rfl rfl
  | skip cmds hpc hcmds hactive ht =>
    rw [ht]
    exact .stay rfl rfl rfl
  | start cmds hpc hcmds hactive ht =>
    rw [ht]
    exact .of_ne (by simp [hpc]) (by simp) rfl rfl rfl
  | mainEmpty hpc ht =>
    rw [ht]
    refine .of_ne (by simp [hpc]) ?_ rfl rfl rfl
    dsimp only
    split <;> decide
  | auxEmpty hpc ht =>
    rw [ht]
    refine .of_ne (by simp [hpc]) ?_ rfl rfl rfl
    dsimp only
    split <;> decide
  | takeMain j rest hpc hactive hnodes ht =>
    have hmains : m.mains = j :: rest := by rw [mains_of_ne (by simp [hpc]), hnodes]
    rw [ht]
    exact .stay hmains.symm rfl rfl
  | missMain hpc hnone ht =>
    rw [ht]
    exact .of_ne (by simp [hpc]) (by simp) rfl rfl rfl
  | takeAux j rest hpc hactive hnodes ht =>
    obtain ⟨main, hmain⟩ := Option.isSome_iff_exists.mp (h.main hpc)
    have hmains : m.mains = main :: m.mainQ.nodes := by simp [mains, hpc, hmain]
    rw [ht]
    refine .join main j hmains hnodes ?_
    simp only [hmain, Option.map_some, Option.toList_some]
  | missAux hpc hnone ht =>
    have hnodes : m.auxQ.nodes = [] := by
      cases hactive : m.auxQ.active with
      | true => exact hnone hactive
      | false => exact h.empty .aux hactive
    rw [ht]
    exact .miss hnodes hnodes rfl
  | releaseMain hpc ht =>
    rw [ht]
    exact .of_ne (by simp [hpc]) (by simp [callRelease]) rfl rfl rfl
  | releaseAux hpc ht =>
    rw [ht]
    exact .of_ne (by simp [hpc]) (by simp [callRelease]) rfl rfl rfl

theorem Joins.pairs (h : Joins m t) : t.pairs = m.pairs := by
  cases h with
  | stay hmains haux hcomposed => exact pairs_frame hmains haux hcomposed
  | join main aux hmains haux hcomposed =>
    simp only [Muxer.pairs, hmains, haux, hcomposed, List.zip_cons_cons, List.append_assoc]
    rfl
  | miss hnodes haux hcomposed =>
    simp only [Muxer.pairs, hnodes, haux, hcomposed, List.zip_nil_right]

theorem pairs_step (h : m.QueueInv) (ht : m.step op = some t)
    (hflush : ∀ camType, op ≠ .flush camType) : t.pairs = m.pairs ++ m.added op := by
  cases op with
  | storeJpeg camType frameIdx releaseCb releaseData allocOk =>
    cases ht
    rw [storeJpeg_eq]
    exact (List.append_nil _).symm
  | callStep i ok =>
    cases ht
    exact pairs_callStep i ok
  | composeStep =>
    cases ht
    rw [(composeStep_joins h).pairs]
    exact (List.append_nil _).symm
  | flush camType => exact absurd rfl (hflush camType)
  | init camType =>
    cases ht
    cases camType <;> exact (List.append_nil _).symm
  | setMpoEnabled b =>
    cases ht
    exact (List.append_nil _).symm
  | sendCmd cmd =>
    cases ht
    exact (List.append_nil _).symm

theorem pairs_flush (camType : CamSyncType) : (m.flush camType).pairs <+: m.pairs := by
  cases hactive : (m.queue camType).active with
  | false =>
    simp [flush_of_inactive hactive]
  | true =>
    rw [flush_of_active hactive]
    cases camType with
    | main =>
      refine (List.prefix_append_right_inj _).mpr ?_
      simp only [mains, setQueue, callRelease, List.append_nil]
      exact zip_prefix_left _ _ _
    | aux =>
      simp only [pairs, setQueue, callRelease, List.zip_nil_right, List.append_nil]
      exact List.prefix_append _ _

end Muxer

end DeviceHal.Camera
