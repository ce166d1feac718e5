import DeviceHal.Camera.Enqueue
import DeviceHal.Lib.Staged
import DeviceHal.Lib.Run
import Mathlib.Order.Nat

namespace DeviceHal.Camera

open Lib

namespace MmChannelQueueNode

/-- A slot for each stream, all filled with the frame of the superbuf. -/
structure Shape (width : Nat) (node : MmChannelQueueNode) : Prop where
  length : node.superBuf.length = width
  nonzero : node.frameIdx ≠ 0
  slots : ∀ info, some info ∈ node.superBuf → info.frameIdx = node.frameIdx

variable {width : Nat} {node : MmChannelQueueNode}

theorem Shape.framedBufs (h : node.Shape width) : node.framedBufs = node.bufs := by
  unfold MmChannelQueueNode.framedBufs bufs
  refine List.filterMap_congr fun slot hs => ?_
  cases slot with
  | none => rfl
  | some info =>
    have hne : info.frameIdx ≠ 0 := by
      rw [h.slots info hs]
      exact h.nonzero
    simp [hne]

end MmChannelQueueNode

namespace SuperbufQue

def bufs (q : SuperbufQue) : List MmCameraBufDef := q.nodes.flatMap MmChannelQueueNode.bufs

def unmatched (q : SuperbufQue) : Nat := q.nodes.countP fun node => !node.isMatched

/-- The count of matched superbufs is right, they come first, and the frames of the others
increase. -/
structure Lined (width : Nat) (q : SuperbufQue) : Prop where
  matchCnt : q.matchCnt = q.nodes.countP MmChannelQueueNode.isMatched
  staged : Staged MmChannelQueueNode.isMatched (fun node => node.frameIdx.toNat) q.nodes
  single : width = 1 → ∀ node ∈ q.nodes, node.isMatched = true

/-- The invariant of the queue. `loose` are the buffers that the code holds in between. -/
structure Inv (width : Nat) (q : SuperbufQue) (loose : List MmCameraBufDef) : Prop where
  size : q.size = q.nodes.length
  matchCnt : q.matchCnt = q.nodes.countP MmChannelQueueNode.isMatched
  staged : Staged MmChannelQueueNode.isMatched (fun node => node.frameIdx.toNat) q.nodes
  single : width = 1 → ∀ node ∈ q.nodes, node.isMatched = true
  shape : ∀ node ∈ q.nodes, node.Shape width
  conserved : ∀ buf, q.passed.count buf =
    q.bufs.count buf + q.released.count buf + q.handed.count buf + loose.count buf

variable {width : Nat} {q : SuperbufQue} {loose : List MmCameraBufDef}

def pop (node : MmChannelQueueNode) (nodes : List MmChannelQueueNode) (q : SuperbufQue) :
    SuperbufQue :=
  { q with
    nodes, size := q.size - 1
    matchCnt := if node.isMatched then q.matchCnt - 1 else q.matchCnt }

variable {node : MmChannelQueueNode} {nodes : List MmChannelQueueNode}

theorem Lined.pop (h : q.Lined width) (hq : q.nodes = node :: nodes) :
    (q.pop node nodes).Lined width := by
  obtain ⟨matchCnt, staged, single⟩ := h
  rw [hq] at matchCnt staged single
  refine ⟨?_, staged.sublist (List.sublist_cons_self _ _),
    fun hw x hx => single hw x (List.mem_cons_of_mem _ hx)⟩
  unfold SuperbufQue.pop
  dsimp only
  rw [matchCnt, List.countP_cons]
  split <;> omega

theorem Lined.head_matched (h : q.Lined width)
    (hq : q.nodes = node :: nodes) (hc : q.matchCnt > 0) :
    node.isMatched = true := by
  have hstaged := h.staged
  rw [h.matchCnt, hq] at hc
  rw [hq] at hstaged
  obtain ⟨x, hx, hm⟩ := List.countP_pos_iff.mp hc
  rcases List.mem_cons.mp hx with rfl | hx
  · exact hm
  · exact ((List.pairwise_cons.mp hstaged).1 x hx).1 hm

theorem Lined.eraseIdx (h : q.Lined width) {i : Nat} (hi : q.nodes[i]? = some node) :
    Lined width { q with
      nodes := q.nodes.eraseIdx i, size := q.size - 1
      matchCnt := if node.isMatched then q.matchCnt - 1 else q.matchCnt } := by
  have hsub := List.eraseIdx_sublist q.nodes i
  refine ⟨?_, h.staged.sublist hsub, fun hw x hx => h.single hw x (hsub.mem hx)⟩
  have hcount := (cons_eraseIdx_perm hi).countP_eq MmChannelQueueNode.isMatched
  grind [h.matchCnt]

theorem Inv.lined (h : q.Inv width loose) : q.Lined width := ⟨h.matchCnt, h.staged, h.single⟩

theorem Inv.pop (h : q.Inv width loose) (hq : q.nodes = node :: nodes) :
    (q.pop node nodes).Inv width (node.bufs ++ loose) := by
  have hlined := h.lined.pop hq
  refine ⟨?_, hlined.matchCnt, hlined.staged, hlined.single, fun x hx => ?_, fun buf => ?_⟩
  · simp [SuperbufQue.pop, h.size, hq]
  · exact h.shape x (hq ▸ List.mem_cons_of_mem _ hx)
  · have hbuf := h.conserved buf
    simp only [bufs, hq, SuperbufQue.pop, List.flatMap_cons, List.count_append] at hbuf ⊢
    omega

theorem Inv.release (bufs : List MmCameraBufDef) (h : q.Inv width (bufs ++ loose)) :
    Inv width { q with released := q.released ++ bufs } loose := by
  refine ⟨h.size, h.matchCnt, h.staged, h.single, h.shape, fun buf => ?_⟩
  have hbuf := h.conserved buf
  simp only [SuperbufQue.bufs, List.count_append] at hbuf ⊢
  omega

theorem Inv.hand (bufs : List MmCameraBufDef) (h : q.Inv width (bufs ++ loose)) :
    Inv width { q with handed := q.handed ++ bufs } loose := by
  refine ⟨h.size, h.matchCnt, h.staged, h.single, h.shape, fun buf => ?_⟩
  have hbuf := h.conserved buf
  simp only [SuperbufQue.bufs, List.count_append] at hbuf ⊢
  omega

theorem Inv.pass (h : q.Inv width []) (buf : MmCameraBufDef) :
    Inv width { q with passed := q.passed ++ [buf] } [buf] := by
  refine ⟨h.size, h.matchCnt, h.staged, h.single, h.shape, fun other => ?_⟩
  have hother := h.conserved other
  simp only [bufs, List.count_append, List.count_nil] at hother ⊢
  omega

theorem Inv.eraseIdx (h : q.Inv width loose) {i : Nat} (hi : q.nodes[i]? = some node) : Inv width
      { q with
        nodes := q.nodes.eraseIdx i, size := q.size - 1
        matchCnt := if node.isMatched then q.matchCnt - 1 else q.matchCnt }
      (node.bufs ++ loose) := by
  have hperm := cons_eraseIdx_perm hi
  have hsub := List.eraseIdx_sublist q.nodes i
  have hlined := h.lined.eraseIdx hi
  refine ⟨?_, hlined.matchCnt, hlined.staged, hlined.single,
    fun x hx => h.shape x (hsub.mem hx), fun buf => ?_⟩
  · have hlen := hperm.length_eq
    rw [List.length_cons] at hlen
    dsimp only
    rw [h.size]
    omega
  · have hbuf := h.conserved buf
    have hcount := (hperm.flatMap_right MmChannelQueueNode.bufs).count_eq buf
    simp only [bufs, List.flatMap_cons, List.count_append] at hbuf hcount ⊢
    omega

end SuperbufQue

namespace MmChannel

/-- The invariant of a channel of normal priority. -/
structure Inv (s : MmChannel) (loose : List MmCameraBufDef) : Prop where
  que : s.que.Inv s.bundledStreams.length loose
  bounded : s.que.unmatched ≤ s.attr.maxUnmatchedFrames.toNat + 1
  normal : s.attr.priority = .normal
  nomatchId : s.nomatchFrameId = 0

variable {s t : MmChannel} {loose : List MmCameraBufDef}

theorem Inv.qbuf {buf : MmCameraBufDef} (h : s.Inv (buf :: loose)) :
    (s.mmChannelQbuf buf).Inv loose :=
  ⟨h.que.release [buf], h.bounded, h.normal, h.nomatchId⟩

theorem Inv.qbufAll {bufs : List MmCameraBufDef} (h : s.Inv (bufs ++ loose)) :
    (s.qbufAll bufs).Inv loose :=
  ⟨h.que.release bufs, h.bounded, h.normal, h.nomatchId⟩

variable {node : MmChannelQueueNode}

theorem Inv.handed (h : s.Inv (node.bufs ++ loose)) : (s.hand node).Inv loose :=
  ⟨h.que.hand node.bufs, h.bounded, h.normal, h.nomatchId⟩

variable {nodes : List MmChannelQueueNode}

theorem unmatched_cons_le :
    nodes.countP (fun x => !x.isMatched) ≤ (node :: nodes).countP fun x => !x.isMatched :=
  (List.sublist_cons_self node nodes).countP_le

theorem dequeueInternal_cases (matchedOnly : Bool) (s : MmChannel) :
    (s.mmChannelSuperbufDequeueInternal matchedOnly = (none, s) ∧ (s.que.nodes = [] ∨
      ∃ node nodes, s.que.nodes = node :: nodes ∧ matchedOnly = true ∧ node.isMatched = false)) ∨
    ∃ node nodes, s.que.nodes = node :: nodes ∧ (matchedOnly = true → node.isMatched = true) ∧
      s.mmChannelSuperbufDequeueInternal matchedOnly =
        (some node, { s with que := s.que.pop node nodes }) := by
  unfold mmChannelSuperbufDequeueInternal
  split
  next hq => exact Or.inl ⟨rfl, Or.inl hq⟩
  next node nodes hq =>
    split
    next hm =>
      grind
    next hm =>
      refine Or.inr ⟨node, nodes, hq, fun hmo => ?_, rfl⟩
      simpa [hmo] using hm

theorem Inv.pop (h : s.Inv loose) (hq : s.que.nodes = node :: nodes) :
    Inv { s with que := s.que.pop node nodes } (node.bufs ++ loose) := by
  refine ⟨h.que.pop hq, ?_, h.normal, h.nomatchId⟩
  have hbounded := h.bounded
  unfold SuperbufQue.unmatched at hbounded ⊢
  rw [hq] at hbounded
  exact Nat.le_trans unmatched_cons_le hbounded

theorem Inv.dequeue (h : s.Inv []) : s.mmChannelSuperbufDequeue.Inv [] := by
  unfold mmChannelSuperbufDequeue
  rcases dequeueInternal_cases true s with ⟨he, -⟩ | ⟨node, nodes, hq, -, he⟩
  · rw [he]
    exact h
  · rw [he]
    exact (h.pop hq).handed

theorem Inv.dequeueFrame (h : s.Inv []) (frameIdx : UInt32) :
    (s.mmChannelSuperbufDequeueFrameInternal frameIdx).Inv [] := by
  unfold mmChannelSuperbufDequeueFrameInternal
  split
  next => exact h
  next i hi =>
    split
    next => exact h
    next node hnode =>
      have hm : node.isMatched = true := by
        obtain ⟨hlt, hp, -⟩ := List.findIdx?_eq_some_iff_getElem.mp hi
        rw [List.getElem?_eq_getElem hlt] at hnode
        rw [Option.some.inj hnode] at hp
        exact (Bool.and_eq_true _ _ ▸ hp).1
      have herase := h.que.eraseIdx hnode
      rw [if_pos hm] at herase
      refine Inv.handed ⟨herase, ?_, h.normal, h.nomatchId⟩
      exact Nat.le_trans ((List.eraseIdx_sublist _ _).countP_le) h.bounded

variable {Q : MmChannel → Prop}

/-- What the pops keep holds after the loop. It ends if the first node is matched while the count is
above the limit. -/
theorem dequeueDownTo_ends {limit : UInt8}
    (pops : ∀ s node nodes, Q s → s.que.nodes = node :: nodes →
      Q (MmChannel.qbufAll node.bufs { s with que := s.que.pop node nodes }))
    (head : ∀ s, Q s → s.que.matchCnt > limit.toNat →
      ∃ node nodes, s.que.nodes = node :: nodes ∧ node.isMatched = true)
    (fuel : Nat) (h : Q s) (hfuel : s.que.nodes.length < fuel) :
    ∃ t, dequeueDownTo limit fuel s = some t ∧ Q t := by
  induction fuel generalizing s with
  | zero => omega
  | succ fuel ih =>
    unfold MmChannel.dequeueDownTo
    split
    next hgt =>
      obtain ⟨node, nodes, hq, hm⟩ := head s h hgt
      rcases dequeueInternal_cases true s with ⟨-, hstop⟩ | ⟨node', nodes', hq', -, he⟩
      · grind
      · rw [he]
        refine ih (pops s node' nodes' h hq') ?_
        rw [hq', List.length_cons] at hfuel
        exact Nat.lt_of_succ_lt_succ hfuel
    next => exact ⟨s, rfl, h⟩

theorem dequeueDownTo_keeps {limit : UInt8} {t : MmChannel}
    (pops : ∀ s node nodes, Q s → s.que.nodes = node :: nodes →
      Q (MmChannel.qbufAll node.bufs { s with que := s.que.pop node nodes }))
    {fuel : Nat} (ht : dequeueDownTo limit fuel s = some t) (h : Q s) : Q t := by
  induction fuel generalizing s with
  | zero => cases ht
  | succ fuel ih =>
    unfold MmChannel.dequeueDownTo at ht
    split at ht
    next =>
      rcases dequeueInternal_cases true s with ⟨he, -⟩ | ⟨node, nodes, hq, -, he⟩
      · rw [he] at ht
        exact ih ht h
      · rw [he] at ht
        exact ih ht (pops s node nodes h hq)
    next =>
      cases ht
      exact h

theorem bufdoneOverflow_keeps {t : MmChannel}
    (pops : ∀ s node nodes, Q s → s.que.nodes = node :: nodes →
      Q (MmChannel.qbufAll node.bufs { s with que := s.que.pop node nodes }))
    (ht : s.mmChannelSuperbufBufdoneOverflow = some t) (h : Q s) : Q t := by
  unfold mmChannelSuperbufBufdoneOverflow at ht
  split at ht
  · cases ht
    exact h
  · exact dequeueDownTo_keeps pops ht h

theorem skip_keeps {t : MmChannel} (pops : ∀ s node nodes, Q s → s.que.nodes = node :: nodes →
      Q (MmChannel.qbufAll node.bufs { s with que := s.que.pop node nodes }))
    (ht : s.mmChannelSuperbufSkip = some t) (h : Q s) : Q t := by
  unfold mmChannelSuperbufSkip at ht
  split at ht
  · cases ht
    exact h
  · exact dequeueDownTo_keeps pops ht h

theorem head_matched {width : Nat} (h : s.que.Lined width) (hpos : s.que.matchCnt > 0) :
    ∃ node nodes, s.que.nodes = node :: nodes ∧ node.isMatched = true := by
  cases hq : s.que.nodes with
  | nil =>
    rw [h.matchCnt, hq] at hpos
    cases hpos
  | cons node nodes => exact ⟨node, nodes, rfl, h.head_matched hq hpos⟩

theorem Inv.dequeueDownTo (limit : UInt8) (fuel : Nat) (h : s.Inv [])
    (hfuel : s.que.nodes.length < fuel) :
    ∃ t, dequeueDownTo limit fuel s = some t ∧ t.Inv [] :=
  dequeueDownTo_ends (fun _ _ _ h hq => (h.pop hq).qbufAll)
    (fun _ h hgt => head_matched h.que.lined (Nat.zero_lt_of_lt hgt)) fuel h hfuel

theorem Inv.bufdoneOverflow (h : s.Inv []) :
    ∃ t, s.mmChannelSuperbufBufdoneOverflow = some t ∧ t.Inv [] := by
  unfold mmChannelSuperbufBufdoneOverflow
  split
  · exact ⟨s, rfl, h⟩
  · exact h.dequeueDownTo _ _ (Nat.lt_succ_self _)

theorem Inv.skip (h : s.Inv []) : ∃ t, s.mmChannelSuperbufSkip = some t ∧ t.Inv [] := by
  unfold mmChannelSuperbufSkip
  split
  · exact ⟨s, rfl, h⟩
  · exact h.dequeueDownTo _ _ (Nat.lt_succ_self _)

theorem flushLoop_keeps {Q : MmChannel → Prop} {matchedOnly : Bool}
    {released : MmChannelQueueNode → List MmCameraBufDef}
    (pops : ∀ s node nodes, Q s → s.que.nodes = node :: nodes →
      Q (MmChannel.qbufAll (released node) { s with que := s.que.pop node nodes }))
    (n : Nat) (h : Q s) : Q (flushLoop matchedOnly released n s) := by
  induction n generalizing s with
  | zero => exact h
  | succ n ih =>
    unfold MmChannel.flushLoop
    rcases dequeueInternal_cases matchedOnly s with ⟨he, -⟩ | ⟨node, nodes, hq, -, he⟩
    · rw [he]
      exact h
    · rw [he]
      exact ih (pops s node nodes h hq)

theorem Inv.flushLoop {matchedOnly : Bool} {released : MmChannelQueueNode → List MmCameraBufDef}
    (n : Nat) (h : s.Inv loose) (hall : ∀ node ∈ s.que.nodes, released node = node.bufs) :
    (flushLoop matchedOnly released n s).Inv loose := by
  have pops : ∀ (s : MmChannel) (node : MmChannelQueueNode) (nodes : List MmChannelQueueNode),
      s.Inv loose ∧ (∀ x ∈ s.que.nodes, released x = x.bufs) → s.que.nodes = node :: nodes →
      Inv (MmChannel.qbufAll (released node) { s with que := s.que.pop node nodes }) loose ∧
        ∀ x ∈ nodes, released x = x.bufs := by
    intro s node nodes ⟨h, hall⟩ hq
    refine ⟨?_, fun x hx => hall x (hq ▸ List.mem_cons_of_mem _ hx)⟩
    rw [hall node (hq ▸ List.mem_cons_self)]
    exact (h.pop hq).qbufAll
  exact (@flushLoop_keeps s (fun s => s.Inv loose ∧ ∀ x ∈ s.que.nodes, released x = x.bufs)
    matchedOnly released pops n ⟨h, hall⟩).1

theorem Inv.flushMatched (h : s.Inv loose) : s.mmChannelSuperbufFlushMatched.Inv loose :=
  h.flushLoop _ fun _ _ => rfl

theorem Inv.flush (h : s.Inv loose) {camType : CamStreamType}
    (hall : camType = .default ∨ ∀ buf ∈ s.que.bufs, camType = buf.streamType) :
    (s.mmChannelSuperbufFlush camType).Inv loose := by
  refine h.flushLoop _ fun node hnode => List.filter_eq_self.mpr fun buf hbuf => ?_
  rcases hall with hd | hall
  · simp [hd]
  · have htype := hall buf (List.mem_flatMap.mpr ⟨node, hnode, hbuf⟩)
    simp [htype]

end MmChannel

namespace MmChannel

variable {s t : MmChannel} {loose : List MmCameraBufDef}

/-- A property of the queue and the settings that the flushes keep. -/
structure Flushable (Q : MmChannel → Prop) : Prop where
  same : ∀ s t, Q s → t.que = s.que → t.bundledStreams = s.bundledStreams → t.attr = s.attr →
    t.nomatchFrameId = s.nomatchFrameId → Q t
  flush : ∀ s, Q s → Q (s.mmChannelSuperbufFlush .default)
  flushMatched : ∀ s, Q s → Q s.mmChannelSuperbufFlushMatched

variable {Q : MmChannel → Prop}

theorem Flushable.handleDivert (keeps : Flushable Q) (h : Q s) (frameIdx : UInt32)
    (metadata : MetadataBuffer) : Q (s.handleDivert frameIdx metadata) := by
  unfold MmChannel.handleDivert
  split
  · exact h
  · exact keeps.same s _ h rfl rfl rfl rfl

theorem Flushable.handlePrepSnapshot (keeps : Flushable Q) (h : Q s)
    (metadata : MetadataBuffer) : Q (s.handlePrepSnapshot metadata) := by
  unfold MmChannel.handlePrepSnapshot
  split
  · exact h
  · dsimp only
    split
    · refine keeps.same _ _ (keeps.flush _ ?_) rfl rfl rfl rfl
      exact keeps.same s _ h rfl rfl rfl rfl
    · exact keeps.same s _ h rfl rfl rfl rfl

theorem Flushable.handleFrameRange (keeps : Flushable Q) (h : Q s) (metadata : MetadataBuffer) :
    Q (s.handleFrameRange metadata) := by
  unfold MmChannel.handleFrameRange
  split
  · dsimp only
    split <;> exact keeps.same s _ h rfl rfl rfl rfl
  · split
    · exact keeps.same _ _ (keeps.flushMatched s h) rfl rfl rfl rfl
    · exact h

theorem Flushable.handleBracketing (keeps : Flushable Q) (h : Q s) (metadata : MetadataBuffer) :
    Q (s.handleBracketing metadata) := by
  unfold MmChannel.handleBracketing
  split
  · exact h
  · split <;> exact keeps.same s _ h rfl rfl rfl rfl

theorem Flushable.handleConfigCapture (keeps : Flushable Q) (h : Q s)
    (metadata : MetadataBuffer) : Q (s.handleConfigCapture metadata) := by
  unfold MmChannel.handleConfigCapture
  split
  · exact h
  · dsimp only
    split
    · split <;> exact keeps.same s _ h rfl rfl rfl rfl
    · exact h

theorem Flushable.handleLedOff (keeps : Flushable Q) (h : Q s) (frameIdx : UInt32) :
    Q (s.handleLedOff frameIdx) := by
  unfold MmChannel.handleLedOff
  split
  · split
    · exact keeps.same s _ h rfl rfl rfl rfl
    · exact h
  · exact h

theorem Flushable.handleOwnMetadata (keeps : Flushable Q) (h : Q s) (frameIdx : UInt32)
    (metadata : MetadataBuffer) : Q (s.handleOwnMetadata frameIdx metadata) := by
  unfold MmChannel.handleOwnMetadata
  have hdivert := keeps.handleDivert h frameIdx metadata
  generalize s.handleDivert frameIdx metadata = u at hdivert
  dsimp only
  split
  · split
    · exact keeps.same u _ hdivert rfl rfl rfl rfl
    · refine keeps.flushMatched _ ?_
      exact keeps.same u _ hdivert rfl rfl rfl rfl
  · have hrange := keeps.handleFrameRange (keeps.handlePrepSnapshot hdivert metadata) metadata
    have hconfig := keeps.handleConfigCapture (keeps.handleBracketing hrange metadata) metadata
    exact keeps.handleLedOff hconfig frameIdx

theorem Flushable.handleMetadata (keeps : Flushable Q) (h : Q s) (info : MmCameraBufInfo) :
    Q (s.mmChannelHandleMetadata info).1 := by
  unfold mmChannelHandleMetadata
  split
  · split
    · split
      · exact h
      · exact keeps.handleOwnMetadata h info.frameIdx _
    · exact h
  · exact h

theorem flushable_inv (loose : List MmCameraBufDef) : Flushable fun s => s.Inv loose where
  same s t h hque hstreams hattr hnomatch := by
    refine ⟨?_, ?_, hattr ▸ h.normal, hnomatch ▸ h.nomatchId⟩
    · rw [hque, hstreams]
      exact h.que
    · rw [hque, hattr]
      exact h.bounded
  flush _ h := h.flush (Or.inl rfl)
  flushMatched _ h := h.flushMatched

theorem Inv.handleMetadata (h : s.Inv loose) (info : MmCameraBufInfo) :
    (s.mmChannelHandleMetadata info).1.Inv loose :=
  (flushable_inv loose).handleMetadata h info

theorem flushable_bundle (streams : List UInt32) :
    Flushable fun s => s.bundledStreams = streams where
  same _ _ h _ hstreams _ _ := hstreams.trans h
  flush s h := @flushLoop_keeps s (fun s => s.bundledStreams = streams) _ _ (fun _ _ _ h _ => h) _ h
  flushMatched s h :=
    @flushLoop_keeps s (fun s => s.bundledStreams = streams) _ _ (fun _ _ _ h _ => h) _ h

theorem handleMetadata_bundle (info : MmCameraBufInfo) :
    (s.mmChannelHandleMetadata info).1.bundledStreams = s.bundledStreams :=
  (flushable_bundle s.bundledStreams).handleMetadata rfl info

end MmChannel

section Search

variable {picks : MmChannelQueueNode → Bool} {frameIdx : UInt32} {i : Nat} {r : Search}
  {rest : List MmChannelQueueNode}

variable {nodes : List MmChannelQueueNode}

theorem searchNodes_matched (h : ∀ node ∈ nodes, node.isMatched = true) :
    searchNodes picks frameIdx i (nodes ++ rest) r =
      searchNodes picks frameIdx (i + nodes.length) rest r := by
  induction nodes generalizing i with
  | nil => rfl
  | cons node nodes ih =>
    grind [searchNodes, List.length_cons, Nat.add_assoc]

theorem unmatched_passed (unmatchedBundles : UInt8) (n : Nat) :
    unmatchedBundles + 1 + UInt8.ofNat n = unmatchedBundles + UInt8.ofNat (n + 1) := by
  rw [UInt8.ofNat_add, UInt8.add_assoc, UInt8.add_comm 1]
  rfl

theorem searchNodes_less
    (h : ∀ node ∈ nodes, node.isMatched = false ∧ picks node = false ∧ node.frameIdx < frameIdx) :
    searchNodes picks frameIdx i (nodes ++ rest) r =
      searchNodes picks frameIdx (i + nodes.length) rest { r with
        unmatchedBundles := r.unmatchedBundles + UInt8.ofNat nodes.length
        lastBuf := if nodes = [] then r.lastBuf else some (r.lastBuf.getD i) } := by
  induction nodes generalizing i r with
  | nil => simp
  | cons node nodes ih =>
    obtain ⟨hm, hp, hlt⟩ := h node List.mem_cons_self
    have hgt : ¬node.frameIdx > frameIdx := fun hg => UInt32.lt_irrefl _ (UInt32.lt_trans hlt hg)
    rw [List.cons_append, searchNodes, hm, if_neg Bool.false_ne_true, hp,
      if_neg Bool.false_ne_true, ih fun x hx => h x (List.mem_cons_of_mem _ hx)]
    have hlen : i + 1 + nodes.length = i + (node :: nodes).length := Nat.succ_add_eq_add_succ i nodes.length
    rw [hlen]
    congr 1
    rw [Search.mk.injEq]
    refine ⟨rfl, unmatched_passed _ _, ?_, ?_⟩
    · cases r.lastBuf <;> cases nodes <;> simp [hlt]
    · simp [hgt]

theorem searchNodes_greater
    (h : ∀ node ∈ nodes, node.isMatched = false ∧ picks node = false ∧ node.frameIdx > frameIdx) :
    searchNodes picks frameIdx i (nodes ++ rest) r =
      searchNodes picks frameIdx (i + nodes.length) rest { r with
        unmatchedBundles := r.unmatchedBundles + UInt8.ofNat nodes.length
        insertBeforeBuf :=
          if nodes = [] then r.insertBeforeBuf else some (r.insertBeforeBuf.getD i) } := by
  induction nodes generalizing i r with
  | nil => simp
  | cons node nodes ih =>
    obtain ⟨hm, hp, hgt⟩ := h node List.mem_cons_self
    have hlt : ¬node.frameIdx < frameIdx := fun hl => UInt32.lt_irrefl _ (UInt32.lt_trans hl hgt)
    rw [List.cons_append, searchNodes, hm, if_neg Bool.false_ne_true, hp,
      if_neg Bool.false_ne_true, ih fun x hx => h x (List.mem_cons_of_mem _ hx)]
    have hlen : i + 1 + nodes.length = i + (node :: nodes).length := Nat.succ_add_eq_add_succ i nodes.length
    rw [hlen]
    congr 1
    rw [Search.mk.injEq]
    refine ⟨rfl, unmatched_passed _ _, ?_, ?_⟩
    · simp [hlt]
    · cases r.insertBeforeBuf <;> cases nodes <;> simp [hgt]

/-- The parts of the list around a frame: matched, and unmatched with smaller frames. -/
structure Around (frameIdx : UInt32) (ready less : List MmChannelQueueNode) : Prop where
  ready : ∀ node ∈ ready, node.isMatched = true
  less : ∀ node ∈ less, node.isMatched = false ∧ node.frameIdx < frameIdx

/-- What the search remembers of the superbufs before a frame. -/
def searchBefore (ready less : List MmChannelQueueNode) : Search where
  unmatchedBundles := UInt8.ofNat less.length
  lastBuf := if less = [] then none else some ready.length

theorem searchNodes_before (hp : ∀ node, picks node = decide (frameIdx = node.frameIdx))
    {ready less : List MmChannelQueueNode} (h : Around frameIdx ready less) :
    searchNodes picks frameIdx 0 (ready ++ less ++ rest) {} =
      searchNodes picks frameIdx (ready.length + less.length) rest (searchBefore ready less) := by
  have hless : ∀ node ∈ less, node.isMatched = false ∧ picks node = false ∧
      node.frameIdx < frameIdx := by
    intro node hn
    obtain ⟨hm, hlt⟩ := h.less node hn
    refine ⟨hm, ?_, hlt⟩
    rw [hp]
    exact decide_eq_false fun he => UInt32.lt_irrefl _ (he ▸ hlt)
  rw [List.append_assoc, searchNodes_matched h.ready, searchNodes_less hless]
  congr 1
  · omega
  · unfold searchBefore
    simp

theorem searchNodes_cases (hp : ∀ node, picks node = decide (frameIdx = node.frameIdx))
    (hs : Staged MmChannelQueueNode.isMatched (fun node => node.frameIdx.toNat) nodes) :
    ∃ ready less, Around frameIdx ready less ∧
      ((∃ node more, nodes = ready ++ less ++ node :: more ∧ node.isMatched = false ∧
        node.frameIdx = frameIdx ∧ searchNodes picks frameIdx 0 nodes {} =
          { searchBefore ready less with found := some (ready.length + less.length) }) ∨
      ∃ more, nodes = ready ++ less ++ more ∧
        (∀ node ∈ more, node.isMatched = false ∧ frameIdx < node.frameIdx) ∧
        searchNodes picks frameIdx 0 nodes {} = { searchBefore ready less with
          unmatchedBundles := UInt8.ofNat (less.length + more.length)
          insertBeforeBuf :=
            if more = [] then none else some (ready.length + less.length) }) := by
  obtain ⟨ready, less, rest, rfl, hready, hless, hrest⟩ := hs.parts frameIdx.toNat
  have haround : Around frameIdx ready less :=
    ⟨hready, fun node hn => ⟨(hless node hn).1, UInt32.lt_iff_toNat_lt.mpr (hless node hn).2⟩⟩
  have hgreater : ∀ more : List MmChannelQueueNode,
      (∀ node ∈ more, node.isMatched = false ∧ frameIdx < node.frameIdx) →
      searchNodes picks frameIdx 0 (ready ++ less ++ more) {} = { searchBefore ready less with
        unmatchedBundles := UInt8.ofNat (less.length + more.length)
        insertBeforeBuf := if more = [] then none else some (ready.length + less.length) } := by
    intro more hmore
    rw [searchNodes_before hp haround, ← List.append_nil more,
      searchNodes_greater fun node hn => ?_, searchNodes, List.append_nil]
    · rw [Search.mk.injEq]
      exact ⟨rfl, (UInt8.ofNat_add _ _).symm, rfl, rfl⟩
    · grind
  refine ⟨ready, less, haround, ?_⟩
  cases rest with
  | nil => exact Or.inr ⟨[], rfl, by simp, hgreater [] (by simp)⟩
  | cons node more =>
    obtain ⟨hm, hle⟩ := hrest node List.mem_cons_self
    have hmore := hs.lt_of_rest hm fun x hx => (hrest x (List.mem_cons_of_mem _ hx)).1
    by_cases he : node.frameIdx = frameIdx
    · refine Or.inl ⟨node, more, rfl, hm, he, ?_⟩
      rw [searchNodes_before hp haround, searchNodes, hm, if_neg Bool.false_ne_true, hp,
        if_pos (decide_eq_true he.symm)]
    · have hlt : frameIdx.toNat < node.frameIdx.toNat := by
        have hne : frameIdx.toNat ≠ node.frameIdx.toNat := fun hn =>
          he (UInt32.toNat_inj.mp hn.symm)
        omega
      have hall : ∀ x ∈ node :: more, x.isMatched = false ∧ frameIdx < x.frameIdx := by
        intro x hx
        refine ⟨(hrest x hx).1, UInt32.lt_iff_toNat_lt.mpr ?_⟩
        rcases List.mem_cons.mp hx with rfl | hx
        · exact hlt
        · exact Nat.lt_trans hlt (hmore x hx)
      exact Or.inr ⟨node :: more, rfl, hall, hgreater _ hall⟩

end Search

theorem evictLoop_cases {maxUnmatched unmatched : UInt8} {insertBeforeBuf : Option Nat} {i : Nat}
    {nodes : List MmChannelQueueNode} (hle : unmatched.toNat ≤ maxUnmatched.toNat + 1) :
    evictLoop maxUnmatched insertBeforeBuf i nodes unmatched = some (none, unmatched) ∨
      ∃ e left, evictLoop maxUnmatched insertBeforeBuf i nodes unmatched = some (some e, left) ∧
        i ≤ e ∧ e < i + nodes.length ∧ maxUnmatched < unmatched ∧ ¬maxUnmatched < left := by
  induction nodes generalizing i with
  | nil => exact Or.inl rfl
  | cons node nodes ih =>
    unfold evictLoop
    split
    next hlt =>
      have hleft : ¬maxUnmatched < unmatched - 1 := by
        have hpos : (1 : UInt8) ≤ unmatched := by
          rw [UInt8.lt_iff_toNat_lt] at hlt
          rw [UInt8.le_iff_toNat_le]
          change 1 ≤ unmatched.toNat
          omega
        rw [UInt8.lt_iff_toNat_lt, UInt8.toNat_sub_of_le _ _ hpos]
        change ¬maxUnmatched.toNat < unmatched.toNat - 1
        omega
      split
      next =>
        grind
      grind
    next => exact Or.inl rfl

theorem eraseIdx_split (l r : List MmChannelQueueNode) (e : Nat) :
    ∃ l' r', (l ++ r).eraseIdx e = l' ++ r' ∧ shiftPosition (some e) l.length = l'.length ∧
      l'.Sublist l ∧ r'.Sublist r := by
  unfold shiftPosition
  by_cases he : e < l.length
  · refine ⟨l.eraseIdx e, r, List.eraseIdx_append_of_lt_length he r, ?_,
      List.eraseIdx_sublist l e, List.Sublist.refl r⟩
    dsimp only
    rw [if_pos he, List.length_eraseIdx_of_lt he]
  · refine ⟨l, r.eraseIdx (e - l.length),
      List.eraseIdx_append_of_length_le (Nat.not_lt.mp he) r, ?_, List.Sublist.refl l,
      List.eraseIdx_sublist r _⟩
    dsimp only
    rw [if_neg he]

end DeviceHal.Camera
