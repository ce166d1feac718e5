import DeviceHal.Camera.EnqueueInv

namespace DeviceHal.Camera

open Lib

namespace MmChannelQueueNode

variable {width : Nat} {node : MmChannelQueueNode}

theorem count_filled {slots : List (Option MmCameraBufInfo)} {i : Nat} {info : MmCameraBufInfo}
    (h : slots[i]? = some none) (buf : MmCameraBufDef) :
    ((slots.set i (some info)).filterMap fun slot => slot.map MmCameraBufInfo.buf).count buf =
      (slots.filterMap fun slot => slot.map MmCameraBufInfo.buf).count buf +
        [info.buf].count buf := by
  induction slots generalizing i with
  | nil => simp at h
  | cons slot slots ih =>
    cases i with
    | zero =>
      grind
    | succ i =>
      grind

theorem Shape.empty_slot (h : node.Shape width) {i : Nat} (hi : i < width)
    (hz : node.slotFrameIdx i = 0) : node.superBuf[i]? = some none := by
  have hlt : i < node.superBuf.length := h.length ▸ hi
  rw [List.getElem?_eq_getElem hlt]
  cases hs : node.superBuf[i] with
  | none => rfl
  | some info =>
    have hmem : some info ∈ node.superBuf := hs ▸ List.getElem_mem hlt
    have hframe : info.frameIdx = 0 := by
      unfold slotFrameIdx at hz
      rw [List.getElem?_eq_getElem hlt, hs] at hz
      exact hz
    exact absurd ((h.slots info hmem).symm.trans hframe) h.nonzero

theorem Shape.fill (h : node.Shape width) {i : Nat} {info : MmCameraBufInfo}
    (hf : info.frameIdx = node.frameIdx) (isMatched expected : Bool) :
    Shape width { node with superBuf := node.superBuf.set i (some info), isMatched, expected } := by
  refine ⟨by rw [List.length_set]; exact h.length, h.nonzero, fun other ho => ?_⟩
  rcases List.mem_or_eq_of_mem_set ho with hm | he
  · exact h.slots other hm
  · exact Option.some.inj he ▸ hf

end MmChannelQueueNode

namespace SuperbufQue

variable {width : Nat} {q : SuperbufQue} {buf : MmCameraBufDef} {loose : List MmCameraBufDef}

variable {l r : List MmChannelQueueNode} {x y : MmChannelQueueNode}

theorem Lined.fill (h : q.Lined width) (hq : q.nodes = l ++ x :: r) (hm : y.isMatched = x.isMatched)
    (hf : y.frameIdx = x.frameIdx) : Lined width { q with nodes := l ++ y :: r } := by
  obtain ⟨matchCnt, staged, single⟩ := h
  rw [hq] at matchCnt staged single
  refine ⟨?_, staged.replace hm (congrArg UInt32.toNat hf), fun hw z hz => ?_⟩
  · simpa [List.countP_cons, hm] using matchCnt
  · rcases List.mem_append.mp hz with hz | hz
    · exact single hw z (List.mem_append_left _ hz)
    grind

variable {ready less more : List MmChannelQueueNode}

theorem Lined.complete (h : q.Lined width) (hq : q.nodes = ready ++ less ++ x :: more)
    (hready : ∀ node ∈ ready, node.isMatched = true)
    (hless : ∀ node ∈ less, node.isMatched = false) (hx : x.isMatched = false)
    (hm : y.isMatched = true) (size : Nat) (released : List MmCameraBufDef) :
    Lined width { q with
      nodes := ready ++ y :: more, size, matchCnt := q.matchCnt + 1, released } := by
  obtain ⟨matchCnt, staged, single⟩ := h
  rw [hq] at matchCnt staged single
  have hsub : (ready ++ x :: more).Sublist (ready ++ less ++ x :: more) := by
    rw [List.append_assoc]
    exact List.Sublist.append_left (List.sublist_append_right less _) ready
  have hzero : less.countP MmChannelQueueNode.isMatched = 0 := by
    refine List.countP_eq_zero.mpr fun node hn => ?_
    simp [hless node hn]
  refine ⟨?_, (staged.sublist hsub).finish hready hm, fun hw => ?_⟩
  · grind
  grind

theorem Lined.inserted (h : q.Lined width) {y : MmChannelQueueNode} (hq : q.nodes = l ++ r)
    (hl : ∀ a ∈ l, a.isMatched = false → a.frameIdx < y.frameIdx)
    (hr : ∀ b ∈ r, b.isMatched = false ∧ y.frameIdx < b.frameIdx)
    (hm : y.isMatched = decide (width = 1)) :
    Lined width { q with
      nodes := l ++ y :: r, size := q.size + 1
      matchCnt := if width = 1 then q.matchCnt + 1 else q.matchCnt } := by
  obtain ⟨matchCnt, staged, single⟩ := h
  rw [hq] at matchCnt staged single
  refine ⟨?_, ?_, fun hw z hz => ?_⟩
  · grind
  · by_cases hw : width = 1
    · -- all superbufs are matched
      have hnil : r = [] := by
        cases r with
        | nil => rfl
        | cons b r =>
          grind
      subst hnil
      refine List.pairwise_append.mpr ⟨?_, List.pairwise_singleton _ _, fun a ha b _ => ?_⟩
      · simpa [Staged] using staged
      grind
    · refine staged.insert (by simpa [hw] using hm) (fun a ha hf => ?_) fun b hb => ?_
      · exact UInt32.lt_iff_toNat_lt.mp (hl a ha hf)
      · exact ⟨(hr b hb).1, UInt32.lt_iff_toNat_lt.mp (hr b hb).2⟩
  grind

theorem Inv.fill (h : q.Inv width (buf :: loose))
    (hq : q.nodes = l ++ x :: r) (hm : y.isMatched = x.isMatched)
    (hf : y.frameIdx = x.frameIdx) (hs : y.Shape width)
    (hc : ∀ b, y.bufs.count b = x.bufs.count b + [buf].count b) :
    Inv width { q with nodes := l ++ y :: r } loose := by
  have hlined := h.lined.fill hq hm hf
  obtain ⟨size, -, -, -, shape, conserved⟩ := h
  rw [hq] at size shape
  refine ⟨?_, hlined.matchCnt, hlined.staged, hlined.single, fun z hz => ?_, fun b => ?_⟩
  · simpa using size
  · grind
  · have hbuf := conserved b
    have hcount := hc b
    simp only [bufs, hq, List.flatMap_append, List.flatMap_cons, List.count_append,
      List.count_cons, List.count_nil] at hbuf hcount ⊢
    omega

theorem Inv.complete (h : q.Inv width (buf :: loose)) (hq : q.nodes = ready ++ less ++ x :: more)
    (hready : ∀ node ∈ ready, node.isMatched = true)
    (hless : ∀ node ∈ less, node.isMatched = false) (hx : x.isMatched = false)
    (hm : y.isMatched = true) (hs : y.Shape width)
    (hc : ∀ b, y.bufs.count b = x.bufs.count b + [buf].count b) :
    Inv width
      { q with
        nodes := ready ++ y :: more, size := q.size - less.length, matchCnt := q.matchCnt + 1
        released := q.released ++ less.flatMap MmChannelQueueNode.framedBufs }
      loose := by
  have hlined := h.lined.complete hq hready hless hx hm (q.size - less.length)
    (q.released ++ less.flatMap MmChannelQueueNode.framedBufs)
  obtain ⟨size, -, -, -, shape, conserved⟩ := h
  rw [hq] at size shape
  have hframed : less.flatMap MmChannelQueueNode.framedBufs =
      less.flatMap MmChannelQueueNode.bufs := by
    refine List.flatMap_congr fun node hn => ?_
    exact (shape node (List.mem_append_left _ (List.mem_append_right _ hn))).framedBufs
  refine ⟨?_, hlined.matchCnt, hlined.staged, hlined.single, fun z hz => ?_, fun b => ?_⟩
  · grind
  · rcases List.mem_append.mp hz with hz | hz
    · grind
    grind
  · have hbuf := conserved b
    have hcount := hc b
    simp only [bufs, hq, hframed, List.flatMap_append, List.flatMap_cons, List.count_append,
      List.count_cons, List.count_nil] at hbuf hcount ⊢
    omega

theorem Inv.evicted (h : q.Inv width loose) {e : Nat} {node : MmChannelQueueNode}
    (he : q.nodes[e]? = some node) (hm : node.isMatched = false) :
    Inv width
      { q with
        nodes := q.nodes.eraseIdx e, size := q.size - 1
        released := q.released ++ node.framedBufs }
      loose ∧ (q.nodes.eraseIdx e).countP (fun x => !x.isMatched) + 1 = q.unmatched := by
  have herase := h.eraseIdx he
  rw [hm, if_neg Bool.false_ne_true] at herase
  have hshape := h.shape node (List.mem_of_getElem? he)
  refine ⟨?_, ?_⟩
  · rw [hshape.framedBufs]
    exact herase.release node.bufs
  · have hcount := (cons_eraseIdx_perm he).countP_eq fun x => !x.isMatched
    rw [List.countP_cons] at hcount
    simpa [hm, unmatched] using hcount

theorem Inv.inserted (h : q.Inv width (buf :: loose))
    {y : MmChannelQueueNode} (hq : q.nodes = l ++ r)
    (hl : ∀ a ∈ l, a.isMatched = false → a.frameIdx < y.frameIdx)
    (hr : ∀ b ∈ r, b.isMatched = false ∧ y.frameIdx < b.frameIdx)
    (hm : y.isMatched = decide (width = 1)) (hs : y.Shape width)
    (hc : ∀ b, y.bufs.count b = [buf].count b) :
    Inv width
      { q with
        nodes := l ++ y :: r, size := q.size + 1
        matchCnt := if width = 1 then q.matchCnt + 1 else q.matchCnt }
      loose := by
  have hlined := h.lined.inserted hq hl hr hm
  obtain ⟨size, -, -, -, shape, conserved⟩ := h
  rw [hq] at size shape
  refine ⟨?_, hlined.matchCnt, hlined.staged, hlined.single, fun z hz => ?_, fun b => ?_⟩
  · grind
  · grind
  · have hbuf := conserved b
    have hcount := hc b
    simp only [bufs, hq, List.flatMap_append, List.flatMap_cons, List.count_append,
      List.count_cons, List.count_nil] at hbuf hcount ⊢
    omega

end SuperbufQue

namespace MmChannel

variable {s : MmChannel} {info : MmCameraBufInfo} {bufSIdx : Nat} {loose : List MmCameraBufDef}
  {ready less more : List MmChannelQueueNode} {node : MmChannelQueueNode}

theorem releaseOlder_eq (hq : s.que.nodes = ready ++ less ++ more) :
    s.releaseOlder (if less = [] then none else some ready.length) (ready.length + less.length) =
      { s with que := { s.que with
          nodes := ready ++ more, size := s.que.size - less.length
          released := s.que.released ++ less.flatMap MmChannelQueueNode.framedBufs } } := by
  unfold releaseOlder
  by_cases hnil : less = []
  · subst hnil
    simp only [if_true, List.length_nil, List.flatMap_nil, List.append_nil, Nat.sub_zero] at hq ⊢
    rw [← hq]
  · rw [if_neg hnil]
    have hlen : ready.length + less.length = (ready ++ less).length := List.length_append.symm
    have hready : s.que.nodes.take ready.length = ready := by
      rw [hq, List.append_assoc, List.take_left]
    have htake : s.que.nodes.take (ready.length + less.length) = ready ++ less := by
      rw [hq, hlen, List.take_left]
    grind

theorem unmatched_append (l r : List MmChannelQueueNode) :
    (l ++ r).countP (fun x => !x.isMatched) =
      l.countP (fun x => !x.isMatched) + r.countP fun x => !x.isMatched :=
  List.countP_append

theorem Inv.expectAfter (h : s.Inv loose) (frameIdx : UInt32) :
    (s.expectAfter frameIdx).que = s.que ∧
      (s.expectAfter frameIdx).bundledStreams = s.bundledStreams ∧
      (s.expectAfter frameIdx).attr = s.attr ∧ (s.expectAfter frameIdx).Inv loose := by
  unfold MmChannel.expectAfter
  split <;> exact ⟨rfl, rfl, rfl, h.que, h.bounded, h.normal, h.nomatchId⟩

theorem Inv.enqueueFound (h : s.Inv [info.buf]) (hidx : bufSIdx < s.bundledStreams.length)
    (hq : s.que.nodes = ready ++ less ++ node :: more) (ha : Around info.frameIdx ready less)
    (hm : node.isMatched = false) (hf : node.frameIdx = info.frameIdx) :
    (s.enqueueFound info bufSIdx (ready.length + less.length)
      (if less = [] then none else some ready.length) node).Inv [] := by
  have hnode : node ∈ s.que.nodes := by
    rw [hq]
    exact List.mem_append_right _ List.mem_cons_self
  have hshape := h.que.shape node hnode
  unfold MmChannel.enqueueFound
  split
  next => exact h.qbuf
  next hslot =>
    have hempty := hshape.empty_slot hidx (Decidable.not_not.mp hslot)
    have hcount : ∀ (isMatched expected : Bool) (b : MmCameraBufDef),
        List.count b (MmChannelQueueNode.bufs { node with
          superBuf := node.superBuf.set bufSIdx (some info), isMatched, expected }) =
        node.bufs.count b + [info.buf].count b :=
      fun _ _ b => MmChannelQueueNode.count_filled hempty b
    have hset : ∀ y, s.que.nodes.set (ready.length + less.length) y =
        ready ++ less ++ y :: more := by
      intro y
      rw [hq, ← List.length_append, List.set_append_right _ _ (Nat.le_refl _), Nat.sub_self]
      rfl
    have hbounded := h.bounded
    unfold SuperbufQue.unmatched at hbounded
    rw [hq, unmatched_append] at hbounded
    dsimp only
    split
    next =>
      obtain ⟨hque, hstreams, hmax, hexp⟩ := h.expectAfter info.frameIdx
      generalize s.expectAfter info.frameIdx = u at hque hstreams hmax hexp
      rw [hque, hset, releaseOlder_eq rfl]
      refine ⟨?_, ?_, hexp.normal, hexp.nomatchId⟩
      · have hcomplete := h.que.complete hq ha.ready (fun x hx => (ha.less x hx).1) hm
          (y := { node with
            superBuf := node.superBuf.set bufSIdx (some info), isMatched := true
            expected := false })
          rfl (hshape.fill hf.symm _ _) (hcount _ _)
        rw [← hstreams] at hcomplete
        exact hcomplete
      · unfold SuperbufQue.unmatched
        dsimp only
        grind
    next =>
      split
      next =>
        refine ⟨?_, ?_, h.normal, h.nomatchId⟩
        · rw [hset]
          exact h.que.fill hq rfl rfl (hshape.fill hf.symm _ _) (hcount _ _)
        · unfold SuperbufQue.unmatched
          dsimp only
          rw [hset, unmatched_append]
          exact hbounded
      next =>
        refine ⟨?_, ?_, h.normal, h.nomatchId⟩
        · rw [hset]
          exact h.que.fill hq rfl rfl (hshape.fill hf.symm _ _) (hcount _ _)
        · unfold SuperbufQue.unmatched
          dsimp only
          rw [hset, unmatched_append]
          exact hbounded

/-- With 255 allowed unmatched frames the count of 8 bits never exceeds them, and a new superbuf is
one too many when 256 are unmatched. -/
def Overfills (info : MmCameraBufInfo) (alloc : Bool) (s : MmChannel) : Prop :=
  s.attr.maxUnmatchedFrames = 255 ∧ alloc = true ∧ s.que.unmatched = 256 ∧
    ∀ node ∈ s.que.nodes, node.isMatched = false → node.frameIdx ≠ info.frameIdx

theorem lt_ofNat_iff {maxUnmatched : UInt8} {n : Nat} (hn : n ≤ maxUnmatched.toNat + 1) :
    maxUnmatched < UInt8.ofNat n ↔ maxUnmatched.toNat < n ∧ n < 256 := by
  grind [UInt8.lt_iff_toNat_lt, UInt8.toNat_ofNat']

theorem evict_que {e : Nat} (he : s.que.nodes[e]? = some node) :
    (s.evict (some e)).que = { s.que with
      nodes := s.que.nodes.eraseIdx e, size := s.que.size - 1
      released := s.que.released ++ node.framedBufs } := by
  unfold MmChannel.evict
  dsimp only
  rw [he]
  rfl

theorem Inv.evict (h : s.Inv loose) {e : Nat} (he : s.que.nodes[e]? = some node)
    (hm : node.isMatched = false) :
    (s.evict (some e)).Inv loose ∧ (s.evict (some e)).que.unmatched + 1 = s.que.unmatched := by
  obtain ⟨hinv, hcount⟩ := h.que.evicted he hm
  have hque := evict_que he
  have hunmatched : (s.evict (some e)).que.unmatched + 1 = s.que.unmatched := hque ▸ hcount
  refine ⟨⟨hque ▸ hinv, ?_, h.normal, h.nomatchId⟩, hunmatched⟩
  exact Nat.le_trans (Nat.le_of_succ_le (Nat.le_of_eq hunmatched)) h.bounded

theorem insertNew_que {l r : List MmChannelQueueNode} {insertBeforeBuf : Option Nat}
    (hq : s.que.nodes = l ++ r)
    (hpos : insertBeforeBuf = some l.length ∨ insertBeforeBuf = none ∧ r = []) :
    (s.insertNew info bufSIdx insertBeforeBuf).que = { s.que with
      nodes := l ++ s.newSuperbuf info bufSIdx :: r, size := s.que.size + 1
      matchCnt := if s.bundledStreams.length = 1 then s.que.matchCnt + 1 else s.que.matchCnt } := by
  have hnodes : (s.insertNew info bufSIdx insertBeforeBuf).que.nodes =
      l ++ s.newSuperbuf info bufSIdx :: r := by
    unfold insertNew
    dsimp only
    rw [hq]
    rcases hpos with rfl | ⟨rfl, rfl⟩
    · dsimp only [camListInsertBeforeNode]
      rw [List.take_left, List.drop_left]
    · dsimp only
      rw [List.append_nil]
  rw [← hnodes]
  rfl

theorem insertNew_spec (h : s.Inv [info.buf]) (hframe : info.frameIdx ≠ 0)
    (hidx : bufSIdx < s.bundledStreams.length) {l r : List MmChannelQueueNode}
    {insertBeforeBuf : Option Nat} (hq : s.que.nodes = l ++ r)
    (hl : ∀ a ∈ l, a.isMatched = false → a.frameIdx < info.frameIdx)
    (hr : ∀ b ∈ r, b.isMatched = false ∧ info.frameIdx < b.frameIdx)
    (hpos : insertBeforeBuf = some l.length ∨ insertBeforeBuf = none ∧ r = []) :
    (s.insertNew info bufSIdx insertBeforeBuf).que.Inv s.bundledStreams.length [] ∧
      (s.insertNew info bufSIdx insertBeforeBuf).que.unmatched =
        s.que.unmatched + (if s.bundledStreams.length = 1 then 0 else 1) ∧
      (s.insertNew info bufSIdx insertBeforeBuf).nomatchFrameId = 0 := by
  have hque := @insertNew_que s info bufSIdx l r insertBeforeBuf hq hpos
  have hempty : (List.replicate s.bundledStreams.length
      (none : Option MmCameraBufInfo))[bufSIdx]? = some none := by
    rw [List.getElem?_replicate, if_pos hidx]
  have hshape : (s.newSuperbuf info bufSIdx).Shape s.bundledStreams.length := by
    refine ⟨by simp [newSuperbuf], hframe, fun other ho => ?_⟩
    rcases List.mem_or_eq_of_mem_set ho with hm | he
    · exact absurd (List.eq_of_mem_replicate hm) (by simp)
    · rw [Option.some.inj he]
      rfl
  have hcount : ∀ b, (s.newSuperbuf info bufSIdx).bufs.count b = [info.buf].count b := by
    intro b
    have hfilled := @MmChannelQueueNode.count_filled _ _ info hempty b
    simpa [newSuperbuf, MmChannelQueueNode.bufs] using hfilled
  refine ⟨?_, ?_, ?_⟩
  · rw [hque]
    exact h.que.inserted hq hl hr rfl hshape hcount
  · grind [SuperbufQue.unmatched, unmatched_append, newSuperbuf]
  · unfold insertNew
    dsimp only
    rw [h.normal]
    simp [h.nomatchId]

end MmChannel

namespace MmChannel

variable {s t : MmChannel} {info : MmCameraBufInfo} {bufSIdx : Nat} {alloc : Bool}
  {ready less more : List MmChannelQueueNode}

/-- What an enqueue comes to: the invariant, unless it is one superbuf too many. -/
def Enqueued (info : MmCameraBufInfo) (alloc : Bool) (s t : MmChannel) : Prop :=
  ¬s.Overfills info alloc ∧ t.Inv [] ∨
    s.Overfills info alloc ∧ t.attr.maxUnmatchedFrames.toNat + 1 < t.que.unmatched

theorem unmatched_parts (hq : s.que.nodes = ready ++ less ++ more)
    (ha : Around info.frameIdx ready less) (hmore : ∀ node ∈ more, node.isMatched = false) :
    s.que.unmatched = less.length + more.length := by
  unfold SuperbufQue.unmatched
  rw [hq, unmatched_append, unmatched_append, List.countP_eq_zero.mpr fun x hx => by
    simp [ha.ready x hx], List.countP_eq_length.mpr fun x hx => by simp [(ha.less x hx).1],
    List.countP_eq_length.mpr fun x hx => by simp [hmore x hx], Nat.zero_add]

theorem Inv.insertNew (h : s.Inv [info.buf]) (hframe : info.frameIdx ≠ 0)
    (hidx : bufSIdx < s.bundledStreams.length) {l r : List MmChannelQueueNode}
    {insertBeforeBuf : Option Nat} (hq : s.que.nodes = l ++ r)
    (hl : ∀ a ∈ l, a.isMatched = false → a.frameIdx < info.frameIdx)
    (hr : ∀ b ∈ r, b.isMatched = false ∧ info.frameIdx < b.frameIdx)
    (hpos : insertBeforeBuf = some l.length ∨ insertBeforeBuf = none ∧ r = [])
    (hroom : s.que.unmatched ≤ s.attr.maxUnmatchedFrames.toNat) :
    (s.insertNew info bufSIdx insertBeforeBuf).Inv [] := by
  obtain ⟨hque, hunmatched, hnomatch⟩ := insertNew_spec h hframe hidx hq hl hr hpos
  refine ⟨hque, ?_, h.normal, hnomatch⟩
  rw [hunmatched]
  change _ ≤ s.attr.maxUnmatchedFrames.toNat + 1
  split <;> omega

theorem Inv.enqueueNew_full (h : s.Inv [info.buf]) (hframe : info.frameIdx ≠ 0)
    (hidx : bufSIdx < s.bundledStreams.length) (hq : s.que.nodes = ready ++ less ++ more)
    (ha : Around info.frameIdx ready less)
    (hmore : ∀ node ∈ more, node.isMatched = false ∧ info.frameIdx < node.frameIdx)
    (hfull : s.attr.maxUnmatchedFrames < UInt8.ofNat (less.length + more.length)) :
    ∃ t, s.enqueueNew info bufSIdx alloc { searchBefore ready less with
        unmatchedBundles := UInt8.ofNat (less.length + more.length)
        insertBeforeBuf := if more = [] then none else some (ready.length + less.length) } =
      some t ∧ t.Inv [] := by
  have hcount := unmatched_parts hq ha fun x hx => (hmore x hx).1
  have hbounded := h.bounded
  rw [hcount] at hbounded
  have hn := (lt_ofNat_iff hbounded).mp hfull
  unfold enqueueNew removeUnmatched searchBefore
  dsimp only
  by_cases hnil : less = []
  · refine ⟨_, ?_, h.qbuf⟩
    rw [if_pos (by rw [if_pos hnil, decide_eq_true hfull]; rfl)]
  rw [if_neg (by simp [hnil]), if_neg hnil]
  dsimp only
  -- the removed superbuf is one of the unmatched ones
  have hremoved : ∃ e left, evictLoop s.attr.maxUnmatchedFrames
        (if more = [] then none else some (ready.length + less.length)) ready.length
        (s.que.nodes.drop ready.length) (UInt8.ofNat (less.length + more.length)) = some left ∧
      (if s.attr.maxUnmatchedFrames < left.2 then some ready.length else left.1) = some e ∧
      ready.length ≤ e ∧ e < s.que.nodes.length := by
    have hlen : ready.length + less.length + more.length = s.que.nodes.length := by
      rw [hq, List.length_append, List.length_append]
    have hpos : 0 < less.length := List.length_pos_iff.mpr hnil
    have hle : (UInt8.ofNat (less.length + more.length)).toNat ≤
        s.attr.maxUnmatchedFrames.toNat + 1 := by
      rw [UInt8.toNat_ofNat', Nat.mod_eq_of_lt hn.2]
      exact hbounded
    rcases evictLoop_cases hle with hnone | ⟨e, left, he, hie, hlt, -, hleft⟩
    · refine ⟨ready.length, _, hnone, ?_, Nat.le_refl _, by omega⟩
      rw [if_pos hfull]
    · grind
  obtain ⟨e, left, hloop, hsome, hie, hlt⟩ := hremoved
  rw [hloop]
  dsimp only
  rw [hsome]
  have hnode := List.getElem?_eq_getElem hlt
  have hm : s.que.nodes[e].isMatched = false := by
    have hmem : s.que.nodes[e] ∈ less ++ more := by
      have hdrop : s.que.nodes.drop ready.length = less ++ more := by
        rw [hq, List.append_assoc, List.drop_left]
      rw [← hdrop]
      exact List.mem_drop_iff_getElem.mpr ⟨e - ready.length, by omega, by
        congr 1
        omega⟩
    rcases List.mem_append.mp hmem with hx | hx
    · exact (ha.less _ hx).1
    · exact (hmore _ hx).1
  obtain ⟨hevict, hcount'⟩ := h.evict hnode hm
  split
  next =>
    refine ⟨_, rfl, ?_⟩
    obtain ⟨l, r, hsplit, hshift, hl, hr⟩ := eraseIdx_split (ready ++ less) more e
    refine hevict.insertNew (l := l) (r := r) hframe hidx ?_ (fun a hx hf => ?_)
      (fun b hx => hmore b (hr.mem hx)) ?_ ?_
    · change s.que.nodes.eraseIdx e = l ++ r
      rw [hq, hsplit]
    · rcases List.mem_append.mp (hl.mem hx) with hx | hx
      · exact absurd ((ha.ready a hx).symm.trans hf) (by simp)
      · exact (ha.less a hx).2
    · split
      next hnone =>
        grind
      grind
    · change (s.evict (some e)).que.unmatched ≤ s.attr.maxUnmatchedFrames.toNat
      omega
  next => exact ⟨_, rfl, hevict.qbuf⟩

theorem Inv.enqueueNew_room (h : s.Inv [info.buf]) (hframe : info.frameIdx ≠ 0)
    (hidx : bufSIdx < s.bundledStreams.length) (hq : s.que.nodes = ready ++ less ++ more)
    (ha : Around info.frameIdx ready less)
    (hmore : ∀ node ∈ more, node.isMatched = false ∧ info.frameIdx < node.frameIdx)
    (hroom : ¬s.attr.maxUnmatchedFrames < UInt8.ofNat (less.length + more.length)) :
    ∃ t, s.enqueueNew info bufSIdx alloc { searchBefore ready less with
        unmatchedBundles := UInt8.ofNat (less.length + more.length)
        insertBeforeBuf := if more = [] then none else some (ready.length + less.length) } =
      some t ∧ Enqueued info alloc s t := by
  have hcount := unmatched_parts hq ha fun x hx => (hmore x hx).1
  have hbounded := h.bounded
  rw [hcount] at hbounded
  have hn := (not_congr (lt_ofNat_iff hbounded)).mp hroom
  have hloop : ∀ r : Search, r.unmatchedBundles = UInt8.ofNat (less.length + more.length) →
      removeUnmatched s.attr.maxUnmatchedFrames r s.que.nodes =
        some (none, UInt8.ofNat (less.length + more.length)) := by
    intro r hr
    unfold removeUnmatched
    rw [hr]
    split
    next => rfl
    next last _ =>
      cases s.que.nodes.drop last with
      | nil => rfl
      | cons node nodes =>
        unfold evictLoop
        rw [if_neg hroom]
  have hl : ∀ a ∈ ready ++ less, a.isMatched = false → a.frameIdx < info.frameIdx := by
    intro a hx hf
    rcases List.mem_append.mp hx with hx | hx
    · exact absurd ((ha.ready a hx).symm.trans hf) (by simp)
    · exact (ha.less a hx).2
  have hpos : (if more = [] then none else some (ready.length + less.length)) =
      some (ready ++ less).length ∨
      (if more = [] then none else some (ready.length + less.length)) = none ∧ more = [] := by
    by_cases hnil : more = []
    · exact Or.inr ⟨if_pos hnil, hnil⟩
    · rw [if_neg hnil, List.length_append]
      exact Or.inl rfl
  unfold enqueueNew
  dsimp only
  rw [decide_eq_false hroom, Bool.false_and, if_neg Bool.false_ne_true, hloop _ rfl]
  dsimp only
  rw [if_neg hroom]
  change ∃ t, (if alloc = true then some (s.insertNew info bufSIdx
    ((if more = [] then none else some (ready.length + less.length)).map fun i => i)) else
      some (s.mmChannelQbuf info.buf)) = some t ∧ _
  rw [Option.map_id']
  cases alloc with
  | false =>
    refine ⟨_, rfl, Or.inl ⟨fun ho => ?_, h.qbuf⟩⟩
    exact absurd ho.2.1 (by simp)
  | true =>
    refine ⟨_, rfl, ?_⟩
    by_cases hmax : less.length + more.length ≤ s.attr.maxUnmatchedFrames.toNat
    · refine Or.inl ⟨fun ho => ?_, ?_⟩
      · have h255 := congrArg UInt8.toNat ho.1
        have h256 := ho.2.2.1
        grind
      · exact h.insertNew hframe hidx hq hl hmore hpos (hcount ▸ hmax)
    · have hbyte := s.attr.maxUnmatchedFrames.toNat_lt
      have h256 : less.length + more.length = 256 := by omega
      have h255 : s.attr.maxUnmatchedFrames = 255 := by
        apply UInt8.toNat_inj.mp
        change s.attr.maxUnmatchedFrames.toNat = 255
        omega
      obtain ⟨-, hunmatched, -⟩ := insertNew_spec h hframe hidx hq hl hmore hpos
      have hsingle : s.bundledStreams.length ≠ 1 := by
        intro hone
        have hpositive : 0 < s.que.unmatched := by omega
        obtain ⟨x, hx, hf⟩ := List.countP_pos_iff.mp hpositive
        have htrue := h.que.single hone x hx
        simp [htrue] at hf
      rw [if_neg hsingle] at hunmatched
      refine Or.inr ⟨⟨h255, rfl, by omega, fun x hx hf he => ?_⟩, ?_⟩
      · grind
      · rw [hunmatched]
        change s.attr.maxUnmatchedFrames.toNat + 1 < _
        omega

theorem Inv.compAndEnqueue (h : s.Inv [info.buf]) (hframe : info.frameIdx ≠ 0)
    (hidx : bufSIdx < s.bundledStreams.length) (alloc : Bool) :
    ∃ t, s.compAndEnqueue info bufSIdx alloc = some t ∧ Enqueued info alloc s t := by
  have hp : ∀ node, s.picks info bufSIdx node = decide (info.frameIdx = node.frameIdx) := by
    intro node
    unfold picks
    simp [h.normal, h.nomatchId]
  unfold MmChannel.compAndEnqueue
  dsimp only
  obtain ⟨ready, less, ha, ⟨node, more, hq, hm, hf, hr⟩ | ⟨more, hq, hmore, hr⟩⟩ :=
    searchNodes_cases hp h.que.staged
  · have hnode : s.que.nodes[ready.length + less.length]? = some node := by
      rw [hq, ← List.length_append, List.getElem?_append_right (Nat.le_refl _), Nat.sub_self]
      rfl
    rw [hr]
    dsimp only
    rw [hnode]
    refine ⟨_, rfl, Or.inl ⟨fun ho => ?_, ?_⟩⟩
    · refine ho.2.2.2 node ?_ hm hf
      rw [hq]
      exact List.mem_append_right _ List.mem_cons_self
    · have hzero : Inv { s with nomatchFrameId := 0 } [info.buf] :=
        ⟨h.que, h.bounded, h.normal, rfl⟩
      exact hzero.enqueueFound hidx hq ha hm hf
  · rw [hr]
    by_cases hfull : s.attr.maxUnmatchedFrames < UInt8.ofNat (less.length + more.length)
    · obtain ⟨t, ht, hinv⟩ := h.enqueueNew_full hframe hidx hq ha hmore hfull
      refine ⟨t, ht, Or.inl ⟨fun ho => ?_, hinv⟩⟩
      have hlt := UInt8.lt_iff_toNat_lt.mp hfull
      have hbyte := (UInt8.ofNat (less.length + more.length)).toNat_lt
      have h255 := congrArg UInt8.toNat ho.1
      change s.attr.maxUnmatchedFrames.toNat = 255 at h255
      omega
    · exact h.enqueueNew_room hframe hidx hq ha hmore hfull

theorem seqComp_neg_iff {v1 v2 : UInt32} : mmChannelUtilSeqCompWRollover v1 v2 < 0 ↔ v1 < v2 := by
  unfold mmChannelUtilSeqCompWRollover
  split
  next hgt =>
    grind
  grind

end MmChannel

end DeviceHal.Camera
