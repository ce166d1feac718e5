import DeviceHal.Camera.OverflowRun

namespace DeviceHal.Camera

open Lib

namespace MmChannel

variable {s t u : MmChannel} {info : MmCameraBufInfo} {bufSIdx : Nat} {alloc : Bool}

/-- The settings of the bundle are the same. -/
structure SameBundle (s t : MmChannel) : Prop where
  attr : t.attr = s.attr
  bundledStreams : t.bundledStreams = s.bundledStreams
  flash : t.isFlashBracketingEnabled = s.isFlashBracketingEnabled

/-- Some superbufs are gone, and the expected frame is the same. -/
structure Thinned (s t : MmChannel) : Prop where
  same : s.SameBundle t
  nodes : t.que.nodes.Sublist s.que.nodes
  expected : t.expectedFrameId = s.expectedFrameId

theorem SameBundle.refl (s : MmChannel) : s.SameBundle s := ⟨rfl, rfl, rfl⟩

theorem SameBundle.trans (h : s.SameBundle t) (h' : t.SameBundle u) : s.SameBundle u :=
  ⟨h'.attr.trans h.attr, h'.bundledStreams.trans h.bundledStreams, h'.flash.trans h.flash⟩

theorem Thinned.refl (s : MmChannel) : s.Thinned s := ⟨.refl s, List.Sublist.refl _, rfl⟩

theorem Thinned.trans (h : s.Thinned t) (h' : t.Thinned u) : s.Thinned u :=
  ⟨h.same.trans h'.same, h'.nodes.trans h.nodes, h'.expected.trans h.expected⟩

theorem thinned_pop {node : MmChannelQueueNode} {nodes : List MmChannelQueueNode}
    (hq : s.que.nodes = node :: nodes) (bufs : List MmCameraBufDef) :
    s.Thinned (MmChannel.qbufAll bufs { s with que := s.que.pop node nodes }) :=
  ⟨⟨rfl, rfl, rfl⟩, hq ▸ List.sublist_cons_self node nodes, rfl⟩

theorem thinned_flushLoop {matchedOnly : Bool}
    {released : MmChannelQueueNode → List MmCameraBufDef} (n : Nat) :
    s.Thinned (flushLoop matchedOnly released n s) :=
  flushLoop_keeps (fun _ _ _ h hq => Thinned.trans h (thinned_pop hq _)) n (Thinned.refl s)

theorem thinned_dequeueFrame (frameIdx : UInt32) :
    s.Thinned (s.mmChannelSuperbufDequeueFrameInternal frameIdx) := by
  unfold mmChannelSuperbufDequeueFrameInternal
  split
  next => exact Thinned.refl s
  next i _ =>
    split
    next => exact Thinned.refl s
    next => exact ⟨⟨rfl, rfl, rfl⟩, List.eraseIdx_sublist s.que.nodes i, rfl⟩

theorem thinned_evict (removed : Option Nat) : s.Thinned (s.evict removed) := by
  cases removed with
  | none => exact Thinned.refl s
  | some e => exact ⟨⟨rfl, rfl, rfl⟩, List.eraseIdx_sublist s.que.nodes e, rfl⟩

theorem thinned_step {op : SuperbufOp} (hop : ∀ info alloc, op ≠ .compAndEnqueue info alloc)
    (hdequeue : op ≠ .dequeue) (ht : s.step op = some t) : s.Thinned t := by
  cases op with
  | compAndEnqueue info alloc => exact absurd rfl (hop info alloc)
  | dequeue => exact absurd rfl hdequeue
  | dequeueFrame frameIdx =>
    cases ht
    exact thinned_dequeueFrame frameIdx
  | bufdoneOverflow =>
    exact bufdoneOverflow_keeps (fun _ _ _ h hq => Thinned.trans h (thinned_pop hq _)) ht (Thinned.refl s)
  | skip =>
    exact skip_keeps (fun _ _ _ h hq => Thinned.trans h (thinned_pop hq _)) ht (Thinned.refl s)
  | flush camType =>
    cases ht
    exact thinned_flushLoop _
  | flushMatched =>
    cases ht
    exact thinned_flushLoop _

theorem handlePrepSnapshot_flash (metadata : MetadataBuffer) :
    (s.handlePrepSnapshot metadata).isFlashBracketingEnabled = s.isFlashBracketingEnabled := by
  unfold handlePrepSnapshot
  split
  · rfl
  · dsimp only
    split
    · exact (thinned_flushLoop _).same.flash
    · rfl

theorem handleFrameRange_flash (metadata : MetadataBuffer) :
    (s.handleFrameRange metadata).isFlashBracketingEnabled = s.isFlashBracketingEnabled := by
  unfold handleFrameRange
  split
  · dsimp only
    split <;> rfl
  · split
    · exact (thinned_flushLoop _).same.flash
    · rfl

theorem handleOwnMetadata_flash (frameIdx : UInt32) (metadata : MetadataBuffer) :
    (s.handleOwnMetadata frameIdx metadata).isFlashBracketingEnabled =
      s.isFlashBracketingEnabled := by
  have hdivert : (s.handleDivert frameIdx metadata).isFlashBracketingEnabled =
      s.isFlashBracketingEnabled := by
    unfold handleDivert
    split <;> rfl
  have hbracketing : ∀ u : MmChannel, (u.handleBracketing metadata).isFlashBracketingEnabled =
      u.isFlashBracketingEnabled := by
    intro u
    unfold handleBracketing
    split
    · rfl
    · split <;> rfl
  have hconfig : ∀ u : MmChannel, (u.handleConfigCapture metadata).isFlashBracketingEnabled =
      u.isFlashBracketingEnabled := by
    intro u
    unfold handleConfigCapture
    split
    · rfl
    · dsimp only
      split
      · split <;> rfl
      · rfl
  have hled : ∀ u : MmChannel, (u.handleLedOff frameIdx).isFlashBracketingEnabled =
      u.isFlashBracketingEnabled := by
    intro u
    unfold handleLedOff
    split
    · split <;> rfl
    · rfl
  unfold handleOwnMetadata
  dsimp only
  split
  · split
    · exact hdivert
    · exact (thinned_flushLoop _).same.flash.trans hdivert
  · rw [hled, hconfig, hbracketing, handleFrameRange_flash, handlePrepSnapshot_flash, hdivert]

theorem flushable_sublist (nodes : List MmChannelQueueNode) (attr : MmCameraChannelAttr) :
    Flushable fun s => s.que.nodes.Sublist nodes ∧ s.attr = attr where
  same _ _ h hque _ hattr _ := ⟨hque ▸ h.1, hattr.trans h.2⟩
  flush _ h := ⟨(thinned_flushLoop _).nodes.trans h.1,
    (thinned_flushLoop _).same.attr.trans h.2⟩
  flushMatched _ h := ⟨(thinned_flushLoop _).nodes.trans h.1,
    (thinned_flushLoop _).same.attr.trans h.2⟩

theorem thinned_handleMetadata
    (hexpected : (s.mmChannelHandleMetadata info).1.expectedFrameId = s.expectedFrameId) :
    s.Thinned (s.mmChannelHandleMetadata info).1 := by
  obtain ⟨hnodes, hattr⟩ := (flushable_sublist s.que.nodes s.attr).handleMetadata
    ⟨List.Sublist.refl _, rfl⟩ info
  refine ⟨⟨hattr, handleMetadata_bundle info, ?_⟩, hnodes, hexpected⟩
  unfold mmChannelHandleMetadata
  split
  · split
    · split
      · rfl
      · exact handleOwnMetadata_flash info.frameIdx _
    · rfl
  · rfl

/-- What the part of the enqueue under the lock does with the queue: it takes superbufs out at most,
puts the buffer in one, completes one, or puts in a new one. -/
inductive Enqueues (info : MmCameraBufInfo) (bufSIdx : Nat) (s t : MmChannel) : Prop
  | thinned (h : s.Thinned t)
  | filled (l r : List MmChannelQueueNode) (node : MmChannelQueueNode) (expected : Bool)
      (before : s.que.nodes = l ++ node :: r) (unmatched : node.isMatched = false)
      (frame : node.frameIdx = info.frameIdx)
      (after : t.que.nodes =
        l ++ { node with superBuf := node.superBuf.set bufSIdx (some info), expected } :: r)
      (same : s.SameBundle t) (expectedId : t.expectedFrameId = s.expectedFrameId)
  | completed (ready less more : List MmChannelQueueNode) (node : MmChannelQueueNode)
      (before : s.que.nodes = ready ++ less ++ node :: more)
      (unmatched : ∀ x ∈ less ++ node :: more, x.isMatched = false)
      (frame : node.frameIdx = info.frameIdx) (full : node.completedBy bufSIdx info = true)
      (after : t.que.nodes = ready ++ { node with
        superBuf := node.superBuf.set bufSIdx (some info), isMatched := true
        expected := false } :: more)
      (same : s.SameBundle t)
      (expectedId : t.expectedFrameId = info.frameIdx + s.attr.postFrameSkip.toUInt32)
  | inserted (l r : List MmChannelQueueNode) (kept : (l ++ r).Sublist s.que.nodes)
      (unmatched : ∀ x ∈ r, x.isMatched = false)
      (after : t.que.nodes = l ++ s.newSuperbuf info bufSIdx :: r) (same : s.SameBundle t)
      (expectedId : t.expectedFrameId =
        if s.bundledStreams.length = 1 then info.frameIdx + s.attr.postFrameSkip.toUInt32
        else s.expectedFrameId)

theorem enqueueFound_enqueues {ready less more : List MmChannelQueueNode}
    {node : MmChannelQueueNode} (flash : s.isFlashBracketingEnabled = false)
    (hq : s.que.nodes = ready ++ less ++ node :: more)
    (hunmatched : ∀ x ∈ less ++ node :: more, x.isMatched = false)
    (hframe : node.frameIdx = info.frameIdx) :
    Enqueues info bufSIdx s (s.enqueueFound info bufSIdx (ready.length + less.length)
      (if less = [] then none else some ready.length) node) := by
  have hm : node.isMatched = false := hunmatched node (by simp)
  have hset : ∀ y, s.que.nodes.set (ready.length + less.length) y =
      ready ++ less ++ y :: more := by
    intro y
    rw [hq, ← List.length_append, List.set_append_right _ _ (Nat.le_refl _), Nat.sub_self]
    rfl
  unfold MmChannel.enqueueFound
  split
  next => exact .thinned ⟨⟨rfl, rfl, rfl⟩, List.Sublist.refl _, rfl⟩
  next hslot =>
    dsimp only
    split
    next hall =>
      have hexpect : s.expectAfter info.frameIdx =
          { s with expectedFrameId := info.frameIdx + s.attr.postFrameSkip.toUInt32 } := by
        unfold expectAfter
        rw [flash, if_neg Bool.false_ne_true]
      have hfull : node.completedBy bufSIdx info = true :=
        Bool.and_eq_true_iff.mpr ⟨decide_eq_true (not_not.mp hslot), hall⟩
      rw [hexpect]
      dsimp only
      rw [hset, releaseOlder_eq rfl]
      exact .completed ready less more node hq hunmatched hframe hfull rfl ⟨rfl, rfl, rfl⟩ rfl
    next =>
      split
      next =>
        exact .filled (ready ++ less) more node true hq hm hframe (hset _) ⟨rfl, rfl, rfl⟩ rfl
      next =>
        exact .filled (ready ++ less) more node node.expected hq hm hframe (hset _)
          ⟨rfl, rfl, rfl⟩ rfl

theorem compAndEnqueue_enqueues (h : s.Plain) (flash : s.isFlashBracketingEnabled = false)
    (ht : s.compAndEnqueue info bufSIdx alloc = some t) : Enqueues info bufSIdx s t := by
  have hp : ∀ node, s.picks info bufSIdx node = decide (info.frameIdx = node.frameIdx) := by
    intro node
    unfold picks
    simp [h.normal, h.nomatchId]
  unfold MmChannel.compAndEnqueue at ht
  dsimp only at ht
  obtain ⟨ready, less, haround, ⟨node, more, hq, hm, hf, hr⟩ | ⟨more, hq, hmore, hr⟩⟩ :=
    searchNodes_cases hp h.lined.staged
  · have hnode : s.que.nodes[ready.length + less.length]? = some node := by
      rw [hq, ← List.length_append, List.getElem?_append_right (Nat.le_refl _), Nat.sub_self]
      rfl
    have hnomatch : { s with nomatchFrameId := 0 } = s := by rw [← h.nomatchId]
    have hunmatched : ∀ x ∈ less ++ node :: more, x.isMatched = false := by
      intro x hx
      rcases List.mem_append.mp hx with hx | hx
      · exact (haround.less x hx).1
      rcases List.mem_cons.mp hx with rfl | hx
      · exact hm
      · have hstaged := h.lined.staged
        rw [hq] at hstaged
        have hafter := (List.pairwise_cons.mp (List.pairwise_append.mp hstaged).2.1).1 x hx
        grind
    rw [hr] at ht
    dsimp only at ht
    rw [hnode, hnomatch] at ht
    cases ht
    exact enqueueFound_enqueues flash hq hunmatched hf
  · have hunmatched : ∀ x ∈ less ++ more, x.isMatched = false := by
      intro x hx
      rcases List.mem_append.mp hx with hx | hx
      · exact (haround.less x hx).1
      · exact (hmore x hx).1
    rw [hr] at ht
    rw [List.append_assoc] at hq
    rcases enqueueNew_cases hq hunmatched ht with rfl | ⟨removed, l, r, -, hnodes, -, hsubr, hdone⟩
    · exact .thinned ⟨⟨rfl, rfl, rfl⟩, List.Sublist.refl _, rfl⟩
    · have hevict := thinned_evict (s := s) removed
      rcases hdone with rfl | ⟨insertBeforeBuf, hplace, rfl⟩
      · exact .thinned (hevict.trans ⟨⟨rfl, rfl, rfl⟩, List.Sublist.refl _, rfl⟩)
      · have hnew : (s.evict removed).newSuperbuf info bufSIdx = s.newSuperbuf info bufSIdx := by
          cases removed <;> rfl
        refine .inserted l r (hnodes ▸ hevict.nodes)
          (fun x hx => (hmore x (hsubr.mem hx)).1) ?_ (hevict.same.trans ⟨rfl, rfl, rfl⟩) ?_
        · rw [insertNew_que hnodes hplace, hnew]
        · unfold MmChannel.insertNew
          dsimp only
          rw [hevict.same.bundledStreams, hevict.same.attr, hevict.expected]

end MmChannel

end DeviceHal.Camera
