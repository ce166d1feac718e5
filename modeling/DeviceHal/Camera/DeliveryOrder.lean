import DeviceHal.Camera.EnqueueEffect
import Mathlib.Algebra.Group.Nat.Defs

namespace DeviceHal.Camera

open Lib

/-- The second frame is a later one, by the skip at least. -/
def Spaced (skip : Nat) (a b : UInt32) : Prop := a < b ∧ a.toNat + skip ≤ b.toNat

/-- The frames of each bundled stream increase, and leave room for the skip. -/
structure InOrder (streams : List UInt32) (skip : Nat) (arrivals : List MmCameraBufInfo) :
    Prop where
  increasing : arrivals.Pairwise fun a b =>
    a.streamId ∈ streams → a.streamId = b.streamId → a.frameIdx < b.frameIdx
  bounded : ∀ info ∈ arrivals, info.streamId ∈ streams → info.frameIdx.toNat < 2 ^ 32 - skip

variable {info : MmCameraBufInfo}

variable {streams : List UInt32}

theorem InOrder.tail {skip : Nat}
    {arrivals : List MmCameraBufInfo} (h : InOrder streams skip (info :: arrivals)) :
    InOrder streams skip arrivals :=
  ⟨(List.pairwise_cons.mp h.increasing).2,
    fun x hx => h.bounded x (List.mem_cons_of_mem _ hx)⟩

/-- The slot of a buffer in the superbufs of a bundle. -/
def slotOf (streams : List UInt32) (info : MmCameraBufInfo) : Option Nat :=
  streams.findIdx? fun stream => info.streamId = stream

theorem slotOf_spec {i : Nat}
    (h : slotOf streams info = some i) : streams[i]? = some info.streamId := by
  obtain ⟨hlt, hi, -⟩ := List.findIdx?_eq_some_iff_getElem.mp h
  rw [List.getElem?_eq_getElem hlt, of_decide_eq_true hi]

theorem slotOf_of_mem
    (h : info.streamId ∈ streams) : ∃ i, slotOf streams info = some i ∧ i < streams.length := by
  cases hi : slotOf streams info with
  | none =>
    have hnot := List.findIdx?_eq_none_iff.mp hi info.streamId h
    simp at hnot
  | some i => exact ⟨i, rfl, (List.findIdx?_eq_some_iff_getElem.mp hi).1⟩

namespace MmChannelQueueNode

variable {node : MmChannelQueueNode} {info : MmCameraBufInfo} {arrivals : List MmCameraBufInfo}
  {streams : List UInt32} {i skip : Nat}

/-- A stream that the superbuf has a buffer of delivers later frames only. A matched superbuf has
one of each stream. -/
structure Behind (streams : List UInt32) (arrivals : List MmCameraBufInfo)
    (node : MmChannelQueueNode) : Prop where
  length : node.superBuf.length = streams.length
  filled : ∀ i, node.slotFrameIdx i ≠ 0 → ∀ info ∈ arrivals, slotOf streams info = some i →
    node.frameIdx < info.frameIdx
  full : node.isMatched = true → ∀ i < streams.length, node.slotFrameIdx i ≠ 0

theorem Behind.fewer (h : node.Behind streams (info :: arrivals)) : node.Behind streams arrivals :=
  ⟨h.length, fun i hi x hx => h.filled i hi x (List.mem_cons_of_mem _ hx), h.full⟩

theorem Behind.lt_of_matched (h : node.Behind streams arrivals) (hm : node.isMatched = true)
    (hinfo : info ∈ arrivals) (hs : info.streamId ∈ streams) : node.frameIdx < info.frameIdx := by
  obtain ⟨i, hi, hlt⟩ := slotOf_of_mem hs
  exact h.filled i (h.full hm i hlt) info hinfo hi

theorem Behind.fill (h : node.Behind streams (info :: arrivals))
    (horder : InOrder streams skip (info :: arrivals)) (hi : slotOf streams info = some i)
    (hframe : node.frameIdx = info.frameIdx) (isMatched expected : Bool)
    (hfull : isMatched = true → ∀ j < streams.length, j ≠ i → node.slotFrameIdx j ≠ 0)
    (hnonzero : info.frameIdx ≠ 0) :
    Behind streams arrivals
      { node with superBuf := node.superBuf.set i (some info), isMatched, expected } := by
  have hlt : i < node.superBuf.length := by
    rw [h.length]
    exact (List.findIdx?_eq_some_iff_getElem.mp hi).1
  have hother : ∀ j, j ≠ i → slotFrameIdx { node with
      superBuf := node.superBuf.set i (some info), isMatched, expected } j =
        node.slotFrameIdx j := by
    intro j hj
    unfold slotFrameIdx
    rw [List.getElem?_set_ne (Ne.symm hj)]
  have hself : slotFrameIdx { node with
      superBuf := node.superBuf.set i (some info), isMatched, expected } i = info.frameIdx := by
    unfold slotFrameIdx
    rw [List.getElem?_set_self hlt]
    rfl
  refine ⟨by rw [List.length_set, h.length], fun j hj x hx hslot => ?_, fun hm j hj => ?_⟩
  · by_cases hji : j = i
    · subst hji
      have hsame : info.streamId = x.streamId :=
        Option.some.inj ((slotOf_spec hi).symm.trans (slotOf_spec hslot))
      have hlater := (List.pairwise_cons.mp horder.increasing).1 x hx
        (List.mem_of_getElem? (slotOf_spec hi)) hsame
      exact hframe ▸ hlater
    · rw [hother j hji] at hj
      exact h.filled j hj x (List.mem_cons_of_mem _ hx) hslot
  grind

theorem completedBy_other (hc : node.completedBy i info = true) {j : Nat}
    (hj : j < node.superBuf.length) (hji : j ≠ i) : node.slotFrameIdx j ≠ 0 := by
  have hall := List.all_eq_true.mp (Bool.and_eq_true_iff.mp hc).2
  have hslot := hall node.superBuf[j] (by
    refine List.mem_of_getElem? (i := j) ?_
    grind)
  unfold slotFrameIdx
  rw [List.getElem?_eq_getElem hj]
  simpa using hslot

theorem behind_new {expected : Bool} (horder : InOrder streams skip (info :: arrivals))
    (hi : slotOf streams info = some i) (hnonzero : info.frameIdx ≠ 0) :
    Behind streams arrivals
      { superBuf := (List.replicate streams.length none).set i (some info)
        isMatched := streams.length = 1, expected, frameIdx := info.frameIdx } := by
  have hempty : Behind streams (info :: arrivals)
      { superBuf := List.replicate streams.length none, frameIdx := info.frameIdx } := by
    refine ⟨List.length_replicate, fun j hj => absurd ?_ hj, fun hm => ?_⟩
    · unfold slotFrameIdx
      rw [List.getElem?_replicate]
      split <;> rfl
    · cases hm
  refine hempty.fill horder hi rfl _ expected (fun hm j hj hji => ?_) hnonzero
  have hone : streams.length = 1 := of_decide_eq_true hm
  have hlt := (List.findIdx?_eq_some_iff_getElem.mp hi).1
  omega

end MmChannelQueueNode

namespace MmChannel

variable {s t : MmChannel} {info : MmCameraBufInfo} {arrivals : List MmCameraBufInfo}
  {delivered : List UInt32} {skip bufSIdx : Nat}

def readyFrames (nodes : List MmChannelQueueNode) : List UInt32 :=
  (nodes.filter MmChannelQueueNode.isMatched).map MmChannelQueueNode.frameIdx

theorem readyFrames_append (l r : List MmChannelQueueNode) :
    readyFrames (l ++ r) = readyFrames l ++ readyFrames r := by
  simp [readyFrames]

theorem readyFrames_sublist {l l' : List MmChannelQueueNode} (h : l.Sublist l') :
    (readyFrames l).Sublist (readyFrames l') :=
  (h.filter _).map _

theorem readyFrames_unmatched {l : List MmChannelQueueNode}
    (h : ∀ x ∈ l, x.isMatched = false) : readyFrames l = [] := by
  unfold readyFrames
  rw [List.filter_eq_nil_iff.mpr fun x hx => by simp [h x hx]]
  rfl

/-- The frames that were delivered and those of the matched superbufs are spaced, up to the
expected one, and the streams are past them. -/
structure Ordered (skip : Nat) (arrivals : List MmCameraBufInfo) (delivered : List UInt32)
    (s : MmChannel) : Prop where
  skip_eq : s.attr.postFrameSkip.toNat = skip
  flash : s.isFlashBracketingEnabled = false
  behind : ∀ node ∈ s.que.nodes, node.Behind s.bundledStreams arrivals
  spaced : (delivered ++ readyFrames s.que.nodes).Pairwise (Spaced skip)
  expected : ∀ f ∈ delivered ++ readyFrames s.que.nodes,
    f.toNat + skip ≤ s.expectedFrameId.toNat
  later : ∀ f ∈ delivered, ∀ info ∈ arrivals, info.streamId ∈ s.bundledStreams →
    f < info.frameIdx

theorem Ordered.fewer (h : s.Ordered skip (info :: arrivals) delivered) :
    s.Ordered skip arrivals delivered where
  skip_eq := h.skip_eq
  flash := h.flash
  behind node hn := (h.behind node hn).fewer
  spaced := h.spaced
  expected := h.expected
  later f hf x hx := h.later f hf x (List.mem_cons_of_mem _ hx)

theorem Ordered.kept (h : s.Ordered skip arrivals delivered) (same : s.SameBundle t)
    (hexpected : t.expectedFrameId = s.expectedFrameId)
    (hbehind : ∀ node ∈ t.que.nodes, node.Behind s.bundledStreams arrivals)
    (hready : (readyFrames t.que.nodes).Sublist (readyFrames s.que.nodes)) :
    t.Ordered skip arrivals delivered where
  skip_eq := same.attr ▸ h.skip_eq
  flash := same.flash.trans h.flash
  behind := same.bundledStreams ▸ hbehind
  spaced := List.Pairwise.sublist (List.Sublist.append_left hready _) h.spaced
  expected f hf := hexpected ▸ h.expected f ((List.Sublist.append_left hready _).mem hf)
  later := same.bundledStreams ▸ h.later

theorem Ordered.thinned (h : s.Ordered skip arrivals delivered) (ht : s.Thinned t) :
    t.Ordered skip arrivals delivered :=
  h.kept ht.same ht.expected (fun node hn => h.behind node (ht.nodes.mem hn))
    (readyFrames_sublist ht.nodes)

theorem Ordered.spaced_next (h : s.Ordered skip (info :: arrivals) delivered)
    (hs : info.streamId ∈ s.bundledStreams) (hexpected : ¬info.frameIdx < s.expectedFrameId) :
    ∀ f ∈ delivered ++ readyFrames s.que.nodes, Spaced skip f info.frameIdx := by
  intro f hf
  have hle : s.expectedFrameId.toNat ≤ info.frameIdx.toNat :=
    Nat.le_of_not_lt fun hlt => hexpected (UInt32.lt_iff_toNat_lt.mpr hlt)
  refine ⟨?_, (h.expected f hf).trans hle⟩
  rcases List.mem_append.mp hf with hf | hf
  · exact h.later f hf info List.mem_cons_self hs
  · obtain ⟨node, hn, rfl⟩ := List.mem_map.mp hf
    obtain ⟨hn, hm⟩ := List.mem_filter.mp hn
    exact (h.behind node hn).lt_of_matched hm List.mem_cons_self hs

theorem Ordered.extended (h : s.Ordered skip (info :: arrivals) delivered)
    (horder : InOrder s.bundledStreams skip (info :: arrivals))
    (hs : info.streamId ∈ s.bundledStreams) (hexpected : ¬info.frameIdx < s.expectedFrameId)
    (same : s.SameBundle t)
    (hnext : t.expectedFrameId = info.frameIdx + s.attr.postFrameSkip.toUInt32)
    (hbehind : ∀ node ∈ t.que.nodes, node.Behind s.bundledStreams arrivals)
    {before : List UInt32} (hbefore : before.Sublist (readyFrames s.que.nodes))
    (hready : readyFrames t.que.nodes = before ++ [info.frameIdx]) :
    t.Ordered skip arrivals delivered := by
  have hspaced := h.spaced_next hs hexpected
  have hsub := List.Sublist.append_left hbefore delivered
  have hnextNat : t.expectedFrameId.toNat = info.frameIdx.toNat + skip := by
    have hbound := horder.bounded info List.mem_cons_self hs
    rw [hnext, UInt32.toNat_add, UInt8.toNat_toUInt32, h.skip_eq]
    exact Nat.mod_eq_of_lt (by omega)
  refine ⟨same.attr ▸ h.skip_eq, same.flash.trans h.flash, same.bundledStreams ▸ hbehind, ?_,
    fun f hf => ?_, same.bundledStreams ▸ h.fewer.later⟩
  · rw [hready, ← List.append_assoc]
    refine List.pairwise_append.mpr ⟨List.Pairwise.sublist hsub h.spaced,
      List.pairwise_singleton _ _, fun f hf g hg => ?_⟩
    rw [List.mem_singleton.mp hg]
    exact hspaced f (hsub.mem hf)
  · rw [hready, ← List.append_assoc] at hf
    rw [hnextNat]
    rcases List.mem_append.mp hf with hf | hf
    · exact Nat.add_le_add_right (Nat.le_of_lt (UInt32.lt_iff_toNat_lt.mp
        (hspaced f (hsub.mem hf)).1)) skip
    · rw [List.mem_singleton.mp hf]

theorem Ordered.enqueues (h : s.Ordered skip (info :: arrivals) delivered)
    (horder : InOrder s.bundledStreams skip (info :: arrivals))
    (hslot : slotOf s.bundledStreams info = some bufSIdx) (hnonzero : info.frameIdx ≠ 0)
    (hexpected : ¬info.frameIdx < s.expectedFrameId) (ht : Enqueues info bufSIdx s t) :
    t.Ordered skip arrivals delivered := by
  have hs : info.streamId ∈ s.bundledStreams := List.mem_of_getElem? (slotOf_spec hslot)
  cases ht with
  | thinned ht => exact h.fewer.thinned ht
  | filled l r node expected before unmatched frame after same expectedId =>
    refine h.fewer.kept same expectedId (fun x hx => ?_) ?_
    · rw [after] at hx
      rcases List.mem_append.mp hx with hx | hx
      · exact h.fewer.behind x (by simp [before, hx])
      rcases List.mem_cons.mp hx with rfl | hx
      · exact (h.behind node (by simp [before])).fill horder hslot frame _ _
          (fun hm => absurd (unmatched.symm.trans hm) (by simp)) hnonzero
      · exact h.fewer.behind x (by simp [before, hx])
    · rw [after, before]
      simp [readyFrames, unmatched]
  | completed ready less more node before unmatched frame full after same expectedId =>
    have hnode := h.behind node (by simp [before])
    have hold : (readyFrames ready).Sublist (readyFrames s.que.nodes) := by
      rw [before, List.append_assoc]
      exact readyFrames_sublist (List.sublist_append_left _ _)
    refine h.extended horder hs hexpected same expectedId (fun x hx => ?_) hold ?_
    · rw [after] at hx
      rcases List.mem_append.mp hx with hx | hx
      · exact h.fewer.behind x (by simp [before, hx])
      rcases List.mem_cons.mp hx with rfl | hx
      · refine hnode.fill horder hslot frame _ _ (fun _ j hj hji => ?_) hnonzero
        exact MmChannelQueueNode.completedBy_other full (hnode.length ▸ hj) hji
      · exact h.fewer.behind x (by simp [before, hx])
    · have hmore : readyFrames more = [] :=
        readyFrames_unmatched fun x hx => unmatched x (by simp [hx])
      rw [after, readyFrames_append, ← frame]
      congr 1
      rw [readyFrames, List.filter_cons_of_pos rfl, List.map_cons]
      exact congrArg (node.frameIdx :: ·) hmore
  | inserted l r kept unmatched after same expectedId =>
    have hbehind : ∀ x ∈ t.que.nodes, x.Behind s.bundledStreams arrivals := by
      intro x hx
      rw [after] at hx
      rcases List.mem_append.mp hx with hx | hx
      · exact h.fewer.behind x (kept.mem (List.mem_append_left _ hx))
      rcases List.mem_cons.mp hx with rfl | hx
      · exact MmChannelQueueNode.behind_new horder hslot hnonzero
      · exact h.fewer.behind x (kept.mem (List.mem_append_right _ hx))
    have hready : readyFrames t.que.nodes =
        readyFrames l ++ readyFrames [s.newSuperbuf info bufSIdx] := by
      rw [after, readyFrames_append, ← List.singleton_append, readyFrames_append,
        readyFrames_unmatched unmatched, List.append_nil]
    have hsub := readyFrames_sublist ((List.sublist_append_left l r).trans kept)
    by_cases hone : s.bundledStreams.length = 1
    · rw [if_pos hone] at expectedId
      refine h.extended horder hs hexpected same expectedId hbehind hsub (hready.trans ?_)
      simp [readyFrames, newSuperbuf, hone]
    · rw [if_neg hone] at expectedId
      refine h.fewer.kept same expectedId hbehind ?_
      rw [hready, readyFrames_unmatched (l := [s.newSuperbuf info bufSIdx]) (by
        simp [newSuperbuf, hone]), List.append_nil]
      exact hsub

def arrival : SuperbufOp → Option MmCameraBufInfo
  | .compAndEnqueue info _ => some info
  | _ => none

def arrivalsOf (ops : List SuperbufOp) : List MmCameraBufInfo := ops.filterMap arrival

/-- The frame index of the superbuf that `mm_channel_superbuf_dequeue` returns. -/
def dequeued (s : MmChannel) : SuperbufOp → Option UInt32
  | .dequeue => (s.mmChannelSuperbufDequeueInternal true).1.map MmChannelQueueNode.frameIdx
  | _ => none

/-- The frame indices that the dequeues of a run return. -/
def deliveries : MmChannel → List SuperbufOp → List UInt32
  | _, [] => []
  | s, op :: ops =>
    match s.step op with
    | none => []
    | some t => (s.dequeued op).toList ++ deliveries t ops

def KeepsExpected (s : MmChannel) : SuperbufOp → Prop
  | .compAndEnqueue info _ => info.streamId ∈ s.bundledStreams → info.frameIdx ≠ 0 →
      ((s.pass info.buf).mmChannelHandleMetadata info).1.expectedFrameId = s.expectedFrameId
  | _ => True

theorem Enqueues.same (h : Enqueues info bufSIdx s t) : s.SameBundle t := by
  cases h with
  | thinned h => exact h.same
  | filled _ _ _ _ _ _ _ _ same => exact same
  | completed _ _ _ _ _ _ _ _ _ same => exact same
  | inserted _ _ _ _ _ same => exact same

theorem thinned_pass (buf : MmCameraBufDef) : s.Thinned (s.pass buf) :=
  ⟨⟨rfl, rfl, rfl⟩, List.Sublist.refl _, rfl⟩

theorem thinned_qbuf (buf : MmCameraBufDef) : s.Thinned (s.mmChannelQbuf buf) :=
  ⟨⟨rfl, rfl, rfl⟩, List.Sublist.refl _, rfl⟩

theorem Ordered.compAndEnqueue {alloc : Bool} (plain : s.Plain)
    (h : s.Ordered skip (info :: arrivals) delivered)
    (horder : InOrder s.bundledStreams skip (info :: arrivals))
    (hquiet : KeepsExpected s (.compAndEnqueue info alloc))
    (ht : s.mmChannelSuperbufCompAndEnqueue info alloc = some t) :
    t.Ordered skip arrivals delivered ∧ s.SameBundle t := by
  have hpass := thinned_pass (s := s) info.buf
  have thinned : ∀ {t}, s.Thinned t → t.Ordered skip arrivals delivered ∧ s.SameBundle t :=
    fun ht => ⟨h.fewer.thinned ht, ht.same⟩
  unfold mmChannelSuperbufCompAndEnqueue at ht
  dsimp only at ht
  split at ht
  next =>
    cases ht
    exact thinned hpass
  next bufSIdx hslot =>
    have hs : info.streamId ∈ s.bundledStreams := List.mem_of_getElem? (slotOf_spec hslot)
    split at ht
    next =>
      cases ht
      exact thinned (hpass.trans (thinned_qbuf _))
    next hnonzero =>
      have hmeta := hpass.trans (thinned_handleMetadata (hquiet hs hnonzero))
      have hplain := flushable_plain.handleMetadata (plain.pass info.buf) info
      generalize (s.pass info.buf).mmChannelHandleMetadata info = r at hmeta hplain ht
      obtain ⟨u, rc⟩ := r
      dsimp only at hmeta hplain ht
      split at ht
      next heq =>
        cases heq
        cases ht
        exact thinned (hmeta.trans (thinned_qbuf _))
      next heq =>
        cases heq
        split at ht
        next =>
          cases ht
          exact thinned (hmeta.trans (thinned_qbuf _))
        next hold =>
          split at ht
          next =>
            cases ht
            exact thinned (hmeta.trans (thinned_qbuf _))
          next =>
            have hu := h.thinned hmeta
            have henqueues := compAndEnqueue_enqueues hplain hu.flash ht
            have hstreams := hmeta.same.bundledStreams
            refine ⟨hu.enqueues (hstreams ▸ horder) (hstreams ▸ hslot) hnonzero
              (fun hlt => hold (seqComp_neg_iff.mpr hlt)) henqueues, ?_⟩
            exact hmeta.same.trans henqueues.same

theorem Ordered.dequeue (h : s.Ordered skip arrivals delivered) :
    s.mmChannelSuperbufDequeue.Ordered skip arrivals
        (delivered ++ (s.dequeued .dequeue).toList) ∧
      s.SameBundle s.mmChannelSuperbufDequeue := by
  unfold mmChannelSuperbufDequeue dequeued
  rcases dequeueInternal_cases true s with ⟨he, -⟩ | ⟨node, nodes, hq, hm, he⟩
  · rw [he]
    exact ⟨by simpa using h, .refl s⟩
  · rw [he]
    have hnode := h.behind node (by simp [hq])
    have hready : readyFrames s.que.nodes = node.frameIdx :: readyFrames nodes := by
      rw [hq, readyFrames, List.filter_cons_of_pos (hm rfl)]
      rfl
    have hline : delivered ++ readyFrames s.que.nodes =
        delivered ++ [node.frameIdx] ++ readyFrames nodes := by
      rw [hready, List.append_assoc, List.singleton_append]
    refine ⟨⟨h.skip_eq, h.flash, fun x hx => h.behind x ?_, ?_, ?_, fun f hf x hx hs => ?_⟩,
      ⟨rfl, rfl, rfl⟩⟩
    · rw [hq]
      exact List.mem_cons_of_mem _ hx
    · exact hline ▸ h.spaced
    · exact hline ▸ h.expected
    · rcases List.mem_append.mp hf with hf | hf
      · exact h.later f hf x hx hs
      · have hfe : f = node.frameIdx := List.mem_singleton.mp hf
        rw [hfe]
        exact hnode.lt_of_matched (hm rfl) hx hs

theorem Ordered.step {op : SuperbufOp} {ops : List SuperbufOp} (plain : s.Plain)
    (h : s.Ordered skip (arrivalsOf (op :: ops)) delivered)
    (horder : InOrder s.bundledStreams skip (arrivalsOf (op :: ops)))
    (hquiet : KeepsExpected s op) (ht : s.step op = some t) :
    t.Ordered skip (arrivalsOf ops) (delivered ++ (s.dequeued op).toList) ∧
      InOrder t.bundledStreams skip (arrivalsOf ops) := by
  cases op with
  | compAndEnqueue info alloc =>
    obtain ⟨hordered, hsame⟩ := h.compAndEnqueue plain horder hquiet ht
    refine ⟨?_, hsame.bundledStreams ▸ InOrder.tail horder⟩
    change t.Ordered skip (arrivalsOf ops) (delivered ++ [])
    rw [List.append_nil]
    exact hordered
  | dequeue =>
    cases ht
    obtain ⟨hordered, hsame⟩ := Ordered.dequeue h
    exact ⟨hordered, hsame.bundledStreams ▸ horder⟩
  | _ =>
    have hthinned := thinned_step (by simp) (by simp) ht
    refine ⟨?_, hthinned.same.bundledStreams ▸ horder⟩
    change t.Ordered skip (arrivalsOf ops) (delivered ++ [])
    rw [List.append_nil]
    exact Ordered.thinned h hthinned

theorem Ordered.run {ops : List SuperbufOp} (plain : s.Plain)
    (h : s.Ordered skip (arrivalsOf ops) delivered)
    (horder : InOrder s.bundledStreams skip (arrivalsOf ops))
    (hquiet : OpsMeet MmChannel.step KeepsExpected s ops) :
    (delivered ++ deliveries s ops).Pairwise (Spaced skip) := by
  induction ops generalizing s delivered with
  | nil => exact List.Pairwise.sublist (List.Sublist.append_left (List.nil_sublist _) _) h.spaced
  | cons op ops ih =>
    unfold deliveries
    split
    next => exact List.Pairwise.sublist (List.Sublist.append_left (List.nil_sublist _) _) h.spaced
    next t ht =>
      obtain ⟨hordered, hnext⟩ := h.step plain horder hquiet.1 ht
      rw [← List.append_assoc]
      exact ih (plain.step op ht) hordered hnext (hquiet.2 t ht)

/-- With normal priority, streams in order and no changes of the expected frame from elsewhere, the
frames that the dequeues of a run return increase, by the skip at least. -/
theorem deliveries_spaced (first : MmChannel) (empty : first.que = {})
    (normal : first.attr.priority = .normal) (nomatch0 : first.nomatchFrameId = 0)
    (flash : first.isFlashBracketingEnabled = false) (ops : List SuperbufOp)
    (inOrder : InOrder first.bundledStreams first.attr.postFrameSkip.toNat (arrivalsOf ops))
    (quiet : OpsMeet step KeepsExpected first ops) :
    (deliveries first ops).Pairwise fun a b =>
      a < b ∧ a.toNat + first.attr.postFrameSkip.toNat ≤ b.toNat := by
  have hfirst : first.Ordered first.attr.postFrameSkip.toNat (arrivalsOf ops) [] := by
    refine ⟨rfl, flash, fun x hx => ?_, ?_, fun f hf => ?_, fun f hf => ?_⟩
    · rw [empty] at hx
      cases hx
    · rw [empty]
      exact List.Pairwise.nil
    · rw [empty] at hf
      cases hf
    · cases hf
  exact Ordered.run ⟨lined_empty empty, normal, nomatch0⟩ hfirst inOrder quiet

instance (s : MmChannel) : (op : SuperbufOp) → Decidable (KeepsExpected s op)
  | .compAndEnqueue _ _ => inferInstanceAs (Decidable (_ → _ → _))
  | .dequeue => isTrue trivial
  | .dequeueFrame _ => isTrue trivial
  | .bufdoneOverflow => isTrue trivial
  | .skip => isTrue trivial
  | .flush _ => isTrue trivial
  | .flushMatched => isTrue trivial

def skippingChannel : MmChannel :=
  { snapshotChannel 4 with attr := ⟨.burst, 2, 1, 2, 4, .normal⟩ }

/-- The streams run apart, and frame 6 comes too early. -/
def skippingOps : List SuperbufOp :=
  [metadataBuf 5 true, metadataBuf 6 true, snapshotBuf 5, snapshotBuf 6, snapshotBuf 8, .skip,
    metadataBuf 8 true, .bufdoneOverflow, .dequeue, .dequeue]

theorem skippingOps_spaced : deliveries skippingChannel skippingOps = [5, 8] ∧
    (deliveries skippingChannel skippingOps).Pairwise fun a b =>
      a < b ∧ a.toNat + skippingChannel.attr.postFrameSkip.toNat ≤ b.toNat :=
  ⟨by decide, deliveries_spaced skippingChannel rfl rfl rfl rfl skippingOps
    ⟨by decide, by decide⟩ (by decide +kernel)⟩

end MmChannel

end DeviceHal.Camera
