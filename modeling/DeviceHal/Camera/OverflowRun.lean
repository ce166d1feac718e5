import DeviceHal.Camera.Overtake
import DeviceHal.Camera.SuperbufRun

namespace DeviceHal.Camera

open Lib

namespace MmChannel

variable {s t : MmChannel} {info : MmCameraBufInfo} {bufSIdx : Nat} {alloc : Bool}

def Drains (s : MmChannel) : Prop :=
  ∀ limit : UInt8, ∃ fuel t, dequeueDownTo limit fuel s = some t

variable {nodes : List MmChannelQueueNode} {node : MmChannelQueueNode}

theorem Lined.pop (h : s.Lined) (hq : s.que.nodes = node :: nodes) (bufs : List MmCameraBufDef) :
    Lined (MmChannel.qbufAll bufs { s with que := s.que.pop node nodes }) := by
  have hpop := SuperbufQue.Lined.pop h hq
  exact ⟨hpop.matchCnt, hpop.staged, hpop.single⟩

theorem Lined.dequeueDownTo (h : s.Lined) (limit : UInt8) :
    ∃ t, dequeueDownTo limit (s.que.nodes.length + 1) s = some t ∧ t.Lined :=
  dequeueDownTo_ends (fun _ _ _ h hq => Lined.pop h hq _)
    (fun _ h hgt => head_matched h (Nat.zero_lt_of_lt hgt)) _ h (Nat.lt_succ_self _)

theorem Lined.drains (h : s.Lined) : s.Drains := by
  intro limit
  obtain ⟨t, ht, -⟩ := h.dequeueDownTo limit
  exact ⟨_, t, ht⟩

theorem matched_first (fuel : Nat)
    (hcount : s.que.matchCnt = s.que.nodes.countP MmChannelQueueNode.isMatched)
    (h : dequeueDownTo 0 fuel s = some t) :
    s.que.nodes.Pairwise fun a b => b.isMatched = true → a.isMatched = true := by
  induction fuel generalizing s with
  | zero => cases h
  | succ fuel ih =>
    unfold MmChannel.dequeueDownTo at h
    split at h
    next hgt =>
      rcases dequeueInternal_cases true s with ⟨he, -⟩ | ⟨node, nodes, hq, hm, he⟩
      · rw [he] at h
        exact ih hcount h
      · rw [he] at h
        rw [hq, List.countP_cons, if_pos (hm rfl)] at hcount
        have hrest := @ih (MmChannel.qbufAll node.bufs { s with que := s.que.pop node nodes }) (by
          change (if node.isMatched then s.que.matchCnt - 1 else s.que.matchCnt) = _
          rw [if_pos (hm rfl), hcount]
          rfl) h
        rw [hq]
        exact List.pairwise_cons.mpr ⟨fun _ _ _ => hm rfl, hrest⟩
    next hzero =>
      have hnone : s.que.nodes.countP MmChannelQueueNode.isMatched = 0 := by
        rw [← hcount]
        exact Nat.eq_zero_of_not_pos hzero
      refine List.pairwise_of_forall_mem_list fun a _ b hb hm => ?_
      exact absurd hm (List.countP_eq_zero.mp hnone b hb)

theorem compAndEnqueue_lined (h : s.Lined) (info : MmCameraBufInfo) (bufSIdx : Nat) (alloc : Bool) :
    (¬s.Overtakes info bufSIdx → ∀ t, s.compAndEnqueue info bufSIdx alloc = some t → t.Lined) ∧
      (s.Overtakes info bufSIdx →
        ∃ t, s.compAndEnqueue info bufSIdx alloc = some t ∧ ¬t.Drains) := by
  have hp : ∀ node, info.frameIdx = node.frameIdx → s.picks info bufSIdx node = true := by
    intro node he
    unfold picks
    simp [he]
  unfold MmChannel.compAndEnqueue
  dsimp only
  obtain ⟨ready, less, greater, hready, hpassed, ⟨node, more, hq, hm, hmore, hpick, hr⟩ | ⟨hq, hr⟩⟩ :=
    searchNodes_any hp h.staged
  · have hiff := overtakes_iff hq hready hpassed hm hmore hpick
    have hnode : s.que.nodes[ready.length + (less ++ greater).length]? = some node := by
      rw [hq, ← List.length_append, List.getElem?_append_right (Nat.le_refl _), Nat.sub_self]
      rfl
    have hzero : Lined { s with nomatchFrameId := 0 } := h
    rw [hr]
    dsimp only
    rw [hnode]
    cases hc : node.completedBy bufSIdx info with
    | false =>
      refine ⟨fun _ t ht => ?_, fun ho => ?_⟩
      · cases ht
        exact enqueueFound_fill hzero hq hc _
      · exact absurd ((hiff.mp ho).2.2.symm.trans hc) (by simp)
    | true =>
      obtain ⟨hkeeps, hbreaks⟩ := enqueueFound_complete hzero hq hready hpassed.unmatched hm hc
      refine ⟨fun hno t ht => ?_, fun ho => ⟨_, rfl, fun hdrains => ?_⟩⟩
      · cases ht
        exact hkeeps fun hboth => hno (hiff.mpr ⟨hboth.1, hboth.2, hc⟩)
      · obtain ⟨hless, hgreater, -⟩ := hiff.mp ho
        obtain ⟨hcount, done, hdone, hnodes⟩ := hbreaks hless
        obtain ⟨fuel, t, ht⟩ := hdrains 0
        have hfirst := matched_first fuel hcount ht
        -- an unmatched superbuf is in front of the complete one
        obtain ⟨x, hx⟩ := List.exists_mem_of_ne_nil greater hgreater
        rw [hnodes] at hfirst
        have htrue := (List.pairwise_append.mp hfirst).2.2 x (List.mem_append_right _ hx) done
          List.mem_cons_self hdone
        exact absurd (htrue.symm.trans (hpassed.greater x hx).1) (by simp)
  · have hno : ¬s.Overtakes info bufSIdx := by
      intro ho
      obtain ⟨-, node, hn, -⟩ := ho
      obtain ⟨hpick, hmem⟩ := List.find?_eq_some_iff_append.mp hn
      have hin := List.mem_filter.mp (List.mem_of_find?_eq_some hn)
      rw [hq] at hin
      rcases List.mem_append.mp hin.1 with hx | hx
      · simp [hready node hx] at hin
      · rcases List.mem_append.mp hx with hx | hx
        · exact absurd ((hpassed.less node hx).2.1.symm.trans hpick) (by simp)
        · exact absurd ((hpassed.greater node hx).2.1.symm.trans hpick) (by simp)
    rw [hr]
    exact ⟨fun _ t ht => h.enqueueNew hq hready hpassed ht, fun ho => absurd ho hno⟩

theorem flushable_lined : Flushable Lined where
  same s t h hque hstreams _ _ := by
    unfold Lined
    rw [hque, hstreams]
    exact h
  flush _ h := flushLoop_keeps (fun _ _ _ h hq => Lined.pop h hq _) _ h
  flushMatched _ h := flushLoop_keeps (fun _ _ _ h hq => Lined.pop h hq _) _ h

/-- The buffer overtakes an unmatched superbuf, after its metadata is handled. -/
def OvertakesAfter (info : MmCameraBufInfo) (s : MmChannel) : Prop :=
  let r := (s.pass info.buf).mmChannelHandleMetadata info
  ∃ bufSIdx ∈ s.bundledStreams.findIdx? fun stream => info.streamId = stream,
    info.frameIdx ≠ 0 ∧ r.2 = true ∧ ¬info.frameIdx < r.1.expectedFrameId ∧
      (r.1.nomatchFrameId ≠ 0 && r.1.nomatchFrameId > info.frameIdx &&
        info.buf.streamType = .metadata) = false ∧ r.1.Overtakes info bufSIdx

def KeepsOrder (s : MmChannel) : SuperbufOp → Prop
  | .compAndEnqueue info _ => ¬s.OvertakesAfter info
  | _ => True

@[simp] theorem pass_bundle (buf : MmCameraBufDef) :
    (s.pass buf).bundledStreams = s.bundledStreams := rfl

theorem Lined.pass (h : s.Lined) (buf : MmCameraBufDef) : (s.pass buf).Lined :=
  ⟨h.matchCnt, h.staged, h.single⟩

theorem enqueue_lined (h : s.Lined) (info : MmCameraBufInfo) (alloc : Bool) :
    (¬s.OvertakesAfter info →
      ∀ t, s.mmChannelSuperbufCompAndEnqueue info alloc = some t → t.Lined) ∧
    (s.OvertakesAfter info →
      ∃ t, s.mmChannelSuperbufCompAndEnqueue info alloc = some t ∧ ¬t.Drains) := by
  have hpass := h.pass info.buf
  have hmeta := flushable_lined.handleMetadata hpass info
  unfold mmChannelSuperbufCompAndEnqueue OvertakesAfter
  dsimp only
  rw [pass_bundle]
  generalize (s.pass info.buf).mmChannelHandleMetadata info = r at hmeta
  obtain ⟨u, rc⟩ := r
  dsimp only at hmeta ⊢
  cases hidx : s.bundledStreams.findIdx? fun stream => info.streamId = stream with
  | none =>
    grind
  | some bufSIdx =>
    have hover : ∀ {P : Nat → Prop}, (∃ i ∈ some bufSIdx, P i) ↔ P bufSIdx := by simp
    rw [hover]
    dsimp only
    by_cases hz : info.frameIdx = 0
    · rw [if_pos hz]
      refine ⟨fun _ t ht => ?_, fun ho => absurd hz ho.1⟩
      cases ht
      exact ⟨hpass.matchCnt, hpass.staged, hpass.single⟩
    rw [if_neg hz]
    cases rc with
    | false =>
      simpa using ⟨hmeta.matchCnt, hmeta.staged, hmeta.single⟩
    | true =>
      dsimp only
      by_cases hold : mmChannelUtilSeqCompWRollover info.frameIdx u.expectedFrameId < 0
      · rw [if_pos hold]
        refine ⟨fun _ t ht => ?_, fun ho => absurd (seqComp_neg_iff.mp hold) ho.2.2.1⟩
        cases ht
        exact ⟨hmeta.matchCnt, hmeta.staged, hmeta.single⟩
      rw [if_neg hold]
      cases hnomatch : u.nomatchFrameId ≠ 0 && u.nomatchFrameId > info.frameIdx &&
          info.buf.streamType = .metadata with
      | true =>
        simpa [if_pos rfl] using ⟨hmeta.matchCnt, hmeta.staged, hmeta.single⟩
      | false =>
        rw [if_neg Bool.false_ne_true]
        have hold' : ¬info.frameIdx < u.expectedFrameId := fun hlt => hold (seqComp_neg_iff.mpr hlt)
        obtain ⟨hkeeps, hbreaks⟩ := compAndEnqueue_lined hmeta info bufSIdx alloc
        grind

theorem Lined.dequeueFrame (h : s.Lined) (frameIdx : UInt32) :
    (s.mmChannelSuperbufDequeueFrameInternal frameIdx).Lined := by
  unfold mmChannelSuperbufDequeueFrameInternal
  split
  next => exact h
  next i hi =>
    split
    next => exact h
    next node hnode =>
      have hm : node.isMatched = true := by
        obtain ⟨hlt, hp, -⟩ := List.findIdx?_eq_some_iff_getElem.mp hi
        rw [List.getElem?_eq_getElem hlt] at hnode
        rw [Option.some.inj hnode] at hp
        exact (Bool.and_eq_true _ _ ▸ hp).1
      have herase := SuperbufQue.Lined.eraseIdx h hnode
      rw [if_pos hm] at herase
      exact ⟨herase.matchCnt, herase.staged, herase.single⟩

theorem Lined.overflow (h : s.Lined) :
    (∃ t, s.mmChannelSuperbufBufdoneOverflow = some t ∧ t.Lined) ∧
      ∃ t, s.mmChannelSuperbufSkip = some t ∧ t.Lined := by
  unfold mmChannelSuperbufBufdoneOverflow mmChannelSuperbufSkip
  split
  · exact ⟨⟨s, rfl, h⟩, s, rfl, h⟩
  · exact ⟨h.dequeueDownTo _, h.dequeueDownTo _⟩

theorem Lined.step_keeps (h : s.Lined) {op : SuperbufOp} (hkeeps : KeepsOrder s op)
    (ht : s.step op = some t) : t.Lined := by
  cases op with
  | compAndEnqueue info alloc => exact (enqueue_lined h info alloc).1 hkeeps t ht
  | dequeue =>
    cases ht
    unfold mmChannelSuperbufDequeue
    rcases dequeueInternal_cases true s with ⟨he, -⟩ | ⟨node, nodes, hq, -, he⟩
    · rw [he]
      exact h
    · rw [he]
      have hpop := SuperbufQue.Lined.pop h hq
      exact ⟨hpop.matchCnt, hpop.staged, hpop.single⟩
  | dequeueFrame frameIdx =>
    cases ht
    exact h.dequeueFrame frameIdx
  | bufdoneOverflow =>
    obtain ⟨⟨u, hu, hlined⟩, -⟩ := h.overflow
    cases hu.symm.trans ht
    exact hlined
  | skip =>
    obtain ⟨-, u, hu, hlined⟩ := h.overflow
    cases hu.symm.trans ht
    exact hlined
  | flush camType =>
    cases ht
    exact flushLoop_keeps (fun _ _ _ h hq => Lined.pop h hq _) _ h
  | flushMatched =>
    cases ht
    exact flushable_lined.flushMatched s h

theorem Lined.step_breaks (h : s.Lined) {op : SuperbufOp} (hnot : ¬KeepsOrder s op) :
    ∃ t, s.step op = some t ∧ ¬t.Drains := by
  cases op with
  | compAndEnqueue info alloc => exact (enqueue_lined h info alloc).2 (not_not.mp hnot)
  | _ => exact absurd trivial hnot

theorem Lined.not_overtakes (h : s.Lined) (normal : s.attr.priority = .normal)
    (nomatch0 : s.nomatchFrameId = 0) : ¬s.Overtakes info bufSIdx := by
  intro ho
  obtain ⟨⟨first, hfirst, hlt, -⟩, node, hn, -⟩ := ho
  obtain ⟨pending, hpending⟩ := List.head?_eq_some_iff.mp hfirst
  have hframe : info.frameIdx = node.frameIdx := by
    have hpick := List.find?_some hn
    unfold picks at hpick
    simpa [normal, nomatch0] using hpick
  have hstaged := h.staged.sublist (List.filter_sublist (p := fun node => !node.isMatched))
  have hfalse : ∀ x ∈ s.que.nodes.filter fun node => !node.isMatched, x.isMatched = false :=
    fun x hx => by simpa using (List.mem_filter.mp hx).2
  have hmem := List.mem_of_find?_eq_some hn
  rw [hpending] at hstaged hfalse hmem
  rw [hframe] at hlt
  rcases List.mem_cons.mp hmem with rfl | hmem
  · exact UInt32.lt_irrefl _ hlt
  · have hless := ((List.pairwise_cons.mp hstaged).1 node hmem).2
      (hfalse first List.mem_cons_self) (hfalse node (List.mem_cons_of_mem _ hmem))
    exact UInt32.lt_irrefl _ (UInt32.lt_trans hlt (UInt32.lt_iff_toNat_lt.mpr hless))

/-- The settings of normal priority, with a queue in order. -/
structure Plain (s : MmChannel) : Prop where
  lined : s.Lined
  normal : s.attr.priority = .normal
  nomatchId : s.nomatchFrameId = 0

theorem Plain.pop (h : s.Plain) (hq : s.que.nodes = node :: nodes) (bufs : List MmCameraBufDef) :
    Plain (MmChannel.qbufAll bufs { s with que := s.que.pop node nodes }) :=
  ⟨h.lined.pop hq bufs, h.normal, h.nomatchId⟩

theorem flushable_plain : Flushable Plain where
  same s t h hque hstreams hattr hnomatch :=
    ⟨flushable_lined.same s t h.lined hque hstreams hattr hnomatch, hattr ▸ h.normal,
      hnomatch ▸ h.nomatchId⟩
  flush _ h := flushLoop_keeps (fun _ _ _ h hq => Plain.pop h hq _) _ h
  flushMatched _ h := flushLoop_keeps (fun _ _ _ h hq => Plain.pop h hq _) _ h

theorem enqueueFound_settings (pos : Nat) (lastBuf : Option Nat) (node : MmChannelQueueNode) :
    (s.enqueueFound info bufSIdx pos lastBuf node).attr = s.attr ∧
      (s.enqueueFound info bufSIdx pos lastBuf node).nomatchFrameId = s.nomatchFrameId := by
  have hexpect : (s.expectAfter info.frameIdx).attr = s.attr ∧
      (s.expectAfter info.frameIdx).nomatchFrameId = s.nomatchFrameId := by
    unfold MmChannel.expectAfter
    split <;> exact ⟨rfl, rfl⟩
  have hrelease : ∀ u : MmChannel, (u.releaseOlder lastBuf pos).attr = u.attr ∧
      (u.releaseOlder lastBuf pos).nomatchFrameId = u.nomatchFrameId := by
    intro u
    unfold releaseOlder
    split <;> exact ⟨rfl, rfl⟩
  unfold enqueueFound
  split
  next => exact ⟨rfl, rfl⟩
  grind

theorem compAndEnqueue_settings (normal : s.attr.priority = .normal) (nomatch0 : s.nomatchFrameId = 0)
    (ht : s.compAndEnqueue info bufSIdx alloc = some t) :
    t.attr.priority = .normal ∧ t.nomatchFrameId = 0 := by
  have hevict : ∀ removed, (s.evict removed).attr = s.attr ∧
      (s.evict removed).nomatchFrameId = s.nomatchFrameId := by
    intro removed
    unfold MmChannel.evict
    split <;> exact ⟨rfl, rfl⟩
  unfold MmChannel.compAndEnqueue at ht
  dsimp only at ht
  split at ht
  next =>
    unfold MmChannel.enqueueNew at ht
    dsimp only at ht
    split at ht
    next =>
      cases ht
      exact ⟨normal, nomatch0⟩
    next =>
      split at ht
      next => cases ht
      next removed unmatched _ =>
        generalize (if s.attr.maxUnmatchedFrames < unmatched then _ else removed) = evicted at ht
        obtain ⟨hattr, hnomatch⟩ := hevict evicted
        split at ht
        next =>
          cases ht
          simp [MmChannel.insertNew, hattr, normal, hnomatch, nomatch0]
        next =>
          cases ht
          exact ⟨(congrArg MmCameraChannelAttr.priority hattr).trans normal,
            hnomatch.trans nomatch0⟩
  next pos _ =>
    split at ht
    next => cases ht
    next node _ =>
      cases ht
      obtain ⟨hattr, hnomatch⟩ := @enqueueFound_settings { s with nomatchFrameId := 0 } info bufSIdx
        pos (searchNodes (s.picks info bufSIdx) info.frameIdx 0 s.que.nodes {}).lastBuf node
      grind

theorem Plain.pass (h : s.Plain) (buf : MmCameraBufDef) : (s.pass buf).Plain :=
  ⟨h.lined.pass buf, h.normal, h.nomatchId⟩

theorem Plain.keepsOrder (h : s.Plain) (op : SuperbufOp) : KeepsOrder s op := by
  cases op with
  | compAndEnqueue info alloc =>
    intro ho
    have hmeta := flushable_plain.handleMetadata (h.pass info.buf) info
    obtain ⟨bufSIdx, -, -, -, -, -, hovertakes⟩ := ho
    exact hmeta.lined.not_overtakes hmeta.normal hmeta.nomatchId hovertakes
  | _ => trivial

theorem enqueue_settings (h : s.Plain)
    (ht : s.mmChannelSuperbufCompAndEnqueue info alloc = some t) :
    t.attr.priority = .normal ∧ t.nomatchFrameId = 0 := by
  have hmeta := flushable_plain.handleMetadata (h.pass info.buf) info
  unfold mmChannelSuperbufCompAndEnqueue at ht
  dsimp only at ht
  generalize (s.pass info.buf).mmChannelHandleMetadata info = r at hmeta ht
  obtain ⟨u, rc⟩ := r
  dsimp only at hmeta ht
  split at ht
  next =>
    cases ht
    exact ⟨h.normal, h.nomatchId⟩
  next =>
    split at ht
    next =>
      cases ht
      exact ⟨h.normal, h.nomatchId⟩
    next =>
      cases rc with
      | false =>
        cases ht
        exact ⟨hmeta.normal, hmeta.nomatchId⟩
      | true =>
        dsimp only at ht
        split at ht
        next =>
          cases ht
          exact ⟨hmeta.normal, hmeta.nomatchId⟩
        next =>
          split at ht
          next =>
            cases ht
            exact ⟨hmeta.normal, hmeta.nomatchId⟩
          next => exact compAndEnqueue_settings hmeta.normal hmeta.nomatchId ht

theorem Plain.step (h : s.Plain) (op : SuperbufOp) (ht : s.step op = some t) : t.Plain := by
  suffices hsettings : t.attr.priority = .normal ∧ t.nomatchFrameId = 0 from
    ⟨h.lined.step_keeps (h.keepsOrder op) ht, hsettings.1, hsettings.2⟩
  cases op with
  | compAndEnqueue info alloc => exact enqueue_settings h ht
  | dequeue =>
    cases ht
    unfold mmChannelSuperbufDequeue
    rcases dequeueInternal_cases true s with ⟨he, -⟩ | ⟨node, nodes, -, -, he⟩
    · rw [he]
      exact ⟨h.normal, h.nomatchId⟩
    · rw [he]
      exact ⟨h.normal, h.nomatchId⟩
  | dequeueFrame frameIdx =>
    cases ht
    unfold mmChannelSuperbufDequeueFrameInternal
    split
    next => exact ⟨h.normal, h.nomatchId⟩
    next => split <;> exact ⟨h.normal, h.nomatchId⟩
  | bufdoneOverflow =>
    have hplain := bufdoneOverflow_keeps (fun _ _ _ h hq => Plain.pop h hq _) ht h
    exact ⟨hplain.normal, hplain.nomatchId⟩
  | skip =>
    have hplain := skip_keeps (fun _ _ _ h hq => Plain.pop h hq _) ht h
    exact ⟨hplain.normal, hplain.nomatchId⟩
  | flush camType =>
    cases ht
    have hplain : (s.mmChannelSuperbufFlush camType).Plain :=
      flushLoop_keeps (fun _ _ _ h hq => Plain.pop h hq _) _ h
    exact ⟨hplain.normal, hplain.nomatchId⟩
  | flushMatched =>
    cases ht
    have hplain := flushable_plain.flushMatched s h
    exact ⟨hplain.normal, hplain.nomatchId⟩

theorem lined_empty (empty : s.que = {}) : s.Lined := by
  unfold Lined
  rw [empty]
  refine ⟨rfl, List.Pairwise.nil, fun _ node hm => ?_⟩
  cases hm

/-- From an empty queue, the loops end in every state of a run, whatever the limit, exactly if no
buffer of the run overtakes. Then both calls return, and with normal priority no buffer does. -/
theorem drains_iff_keepsOrder (first : MmChannel) (empty : first.que = {})
    (ops : List SuperbufOp) :
    (Always step Drains first ops ↔ OpsMeet step KeepsOrder first ops) ∧
      (OpsMeet step KeepsOrder first ops → Always step (fun s =>
        (∃ t, s.mmChannelSuperbufBufdoneOverflow = some t) ∧
          ∃ t, s.mmChannelSuperbufSkip = some t) first ops) ∧
      (first.attr.priority = .normal → first.nomatchFrameId = 0 →
        OpsMeet step KeepsOrder first ops) := by
  have hfirst := lined_empty empty
  refine ⟨?_, fun meet => ?_, fun normal nomatch0 => ?_⟩
  · exact always_iff_of_keeps (fun _ h => Lined.drains h)
      (fun _ _ _ h _ hk ht => Lined.step_keeps h hk ht)
      (fun _ _ h _ hnot => Lined.step_breaks h hnot) hfirst (opsMeet_true first ops)
  · refine always_invariant (fun s h => ?_) (fun _ _ _ h hk ht => Lined.step_keeps h hk ht)
      hfirst meet
    obtain ⟨⟨t, ht, -⟩, u, hu, -⟩ := Lined.overflow h
    exact ⟨⟨t, ht⟩, u, hu⟩
  · exact OpsMeet.mono (fun _ op _ h _ ht => Plain.step h op ht) (fun _ op h _ => h.keepsOrder op)
      ⟨hfirst, normal, nomatch0⟩ (opsMeet_true first ops)

instance (info : MmCameraBufInfo) (bufSIdx : Nat) (s : MmChannel) :
    Decidable (s.Overtakes info bufSIdx) := by
  unfold Overtakes
  dsimp only
  infer_instance

instance (info : MmCameraBufInfo) (s : MmChannel) : Decidable (s.OvertakesAfter info) := by
  unfold OvertakesAfter
  dsimp only
  infer_instance

instance (s : MmChannel) : (op : SuperbufOp) → Decidable (KeepsOrder s op)
  | .compAndEnqueue info _ => inferInstanceAs (Decidable (¬s.OvertakesAfter info))
  | .dequeue => isTrue trivial
  | .dequeueFrame _ => isTrue trivial
  | .bufdoneOverflow => isTrue trivial
  | .skip => isTrue trivial
  | .flush _ => isTrue trivial
  | .flushMatched => isTrue trivial

/-- Metadata, snapshot and preview in a bundle of low priority. -/
def lowChannel : MmChannel where
  que := {}
  bundledStreams := [1, 2, 3]
  attr := ⟨.burst, 0, 0, 0, 2, .low⟩
  streams := [⟨1, 11, true, true, some .metadata⟩, ⟨2, 12, true, true, some .snapshot⟩,
    ⟨3, 13, true, true, some .preview⟩]

def previewBuf (frameIdx : UInt32) : SuperbufOp :=
  .compAndEnqueue ⟨3, frameIdx, ⟨200 + frameIdx.toNat, .preview, none⟩⟩ true

/-- Each superbuf is completed in order, with buffers of different frames. -/
def lowOps : List SuperbufOp :=
  [snapshotBuf 20, previewBuf 10, metadataBuf 21 true, snapshotBuf 21, previewBuf 21,
    metadataBuf 22 true, .bufdoneOverflow]

theorem lowOps_drains : OpsMeet step KeepsOrder lowChannel lowOps ∧
    Always step Drains lowChannel lowOps := by
  have keeps : OpsMeet step KeepsOrder lowChannel lowOps := by decide
  exact ⟨keeps, (drains_iff_keepsOrder lowChannel rfl lowOps).1.mpr keeps⟩

/-- A later call has a larger frame if it is for the same stream. -/
def Later : SuperbufOp → SuperbufOp → Bool
  | .compAndEnqueue a _, .compAndEnqueue b _ => a.streamId ≠ b.streamId || a.frameIdx < b.frameIdx
  | _, _ => true

/-- The preview buffer 12 completes superbuf 22 behind superbuf 20, which lacks its metadata. -/
def overtakingOps : List SuperbufOp :=
  [snapshotBuf 20, previewBuf 10, metadataBuf 22 true, snapshotBuf 22, previewBuf 12]

theorem dequeueDownTo_stuck (limit : UInt8) (fuel : Nat) (hq : s.que.nodes = node :: nodes)
    (hm : node.isMatched = false) (hcount : s.que.matchCnt > limit.toNat) :
    dequeueDownTo limit fuel s = none := by
  induction fuel with
  | zero => rfl
  | succ fuel ih =>
    grind [mmChannelSuperbufDequeueInternal, MmChannel.dequeueDownTo]

/-- Each stream delivers in order, and neither loop ends. -/
theorem overtakingOps_stuck : overtakingOps.Pairwise (Later · ·) ∧
    ∃ s, runOps step lowChannel overtakingOps = some s ∧ s.que.matchCnt = 1 ∧
      s.que.nodes.map (fun node => (node.frameIdx, node.isMatched)) = [(20, false), (22, true)] ∧
      (∀ fuel, dequeueDownTo s.attr.waterMark fuel s = none) ∧
      ∀ fuel, dequeueDownTo s.attr.lookBack fuel s = none := by
  have hrun : ∃ s, runOps step lowChannel overtakingOps = some s ∧ s.que.matchCnt = 1 ∧
      s.que.nodes.map (fun node => (node.frameIdx, node.isMatched)) = [(20, false), (22, true)] ∧
      s.attr.waterMark = 0 ∧ s.attr.lookBack = 0 :=
    ⟨_, rfl, by decide⟩
  obtain ⟨s, hs, hcount, hnodes, hwater, hlook⟩ := hrun
  refine ⟨by decide, s, hs, hcount, hnodes, ?_⟩
  rw [hwater, hlook]
  cases hq : s.que.nodes with
  | nil =>
    rw [hq] at hnodes
    cases hnodes
  | cons node nodes =>
    rw [hq] at hnodes
    have hm : node.isMatched = false :=
      congrArg Prod.snd (List.cons.inj hnodes).1
    have hpos : s.que.matchCnt > (0 : UInt8).toNat := by
      rw [hcount]
      decide
    exact ⟨fun fuel => dequeueDownTo_stuck 0 fuel hq hm hpos,
      fun fuel => dequeueDownTo_stuck 0 fuel hq hm hpos⟩

end MmChannel

end DeviceHal.Camera
