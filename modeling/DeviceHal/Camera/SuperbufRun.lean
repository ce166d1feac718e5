import DeviceHal.Camera.EnqueueParts

namespace DeviceHal.Camera

open Lib

namespace MmChannel

variable {s : MmChannel} {info : MmCameraBufInfo}

/-- The counts are right, matched superbufs come first, the frames of the others increase and are
few, the slots hold the frame of their superbuf, and each buffer is in one place for each time it
was passed in. -/
structure Coherent (s : MmChannel) : Prop where
  size : s.que.size = s.que.nodes.length
  matchCnt : s.que.matchCnt = s.que.nodes.countP MmChannelQueueNode.isMatched
  matchedFirst : s.que.nodes.Pairwise fun a b => b.isMatched = true → a.isMatched = true
  increasing : s.que.nodes.Pairwise fun a b =>
    a.isMatched = false → b.isMatched = false → a.frameIdx < b.frameIdx
  bounded : s.que.unmatched ≤ s.attr.maxUnmatchedFrames.toNat + 1
  slots : ∀ node ∈ s.que.nodes, ∀ info, some info ∈ node.superBuf →
    info.frameIdx = node.frameIdx
  conserved : ∀ buf, s.que.passed.count buf =
    s.que.bufs.count buf + s.que.released.count buf + s.que.handed.count buf

theorem Inv.coherent (h : s.Inv []) : s.Coherent := by
  refine ⟨h.que.size, h.que.matchCnt, h.que.staged.imp fun hab => hab.1, ?_, h.bounded,
    fun node hn => (h.que.shape node hn).slots, fun buf => h.que.conserved buf⟩
  exact h.que.staged.imp fun hab ha hb => UInt32.lt_iff_toNat_lt.mpr (hab.2 ha hb)

theorem Coherent.kept (h : s.Coherent) {buf : MmCameraBufDef} (hp : buf ∈ s.que.passed) :
    buf ∈ s.que.bufs ∨ buf ∈ s.que.released ∨ buf ∈ s.que.handed := by
  have hcount := h.conserved buf
  grind

def OverfillsAfter (info : MmCameraBufInfo) (alloc : Bool) (s : MmChannel) : Prop :=
  let r := (s.pass info.buf).mmChannelHandleMetadata info
  info.frameIdx ≠ 0 ∧ r.2 = true ∧ ¬info.frameIdx < r.1.expectedFrameId ∧
    r.1.Overfills info alloc

/-- Buffers come from bundled streams and start no superbuf too many, and a flush is of all types
or of the type of all queued buffers. -/
def KeepsQueue (s : MmChannel) : SuperbufOp → Prop
  | .compAndEnqueue info alloc => info.streamId ∈ s.bundledStreams ∧ ¬s.OverfillsAfter info alloc
  | .flush camType => camType = .default ∨ ∀ buf ∈ s.que.bufs, camType = buf.streamType
  | _ => True

theorem Inv.enqueue (h : s.Inv []) (hbundled : info.streamId ∈ s.bundledStreams) (alloc : Bool) :
    ∃ t, s.mmChannelSuperbufCompAndEnqueue info alloc = some t ∧
      (¬s.OverfillsAfter info alloc ∧ t.Inv [] ∨ s.OverfillsAfter info alloc ∧ ¬t.Coherent) := by
  have hpass : (s.pass info.buf).Inv [info.buf] :=
    ⟨h.que.pass info.buf, h.bounded, h.normal, h.nomatchId⟩
  unfold mmChannelSuperbufCompAndEnqueue OverfillsAfter
  dsimp only
  split
  next hnone =>
    have hnot := List.findIdx?_eq_none_iff.mp hnone info.streamId hbundled
    simp at hnot
  next bufSIdx hsome =>
    obtain ⟨hidx, -⟩ := List.findIdx?_eq_some_iff_getElem.mp hsome
    split
    next hz => exact ⟨_, rfl, Or.inl ⟨fun ho => ho.1 hz, hpass.qbuf⟩⟩
    next hframe =>
      have hmeta := hpass.handleMetadata info
      have hbundle := @handleMetadata_bundle (s.pass info.buf) info
      generalize hr : (s.pass info.buf).mmChannelHandleMetadata info = r at hmeta hbundle
      obtain ⟨u, rc⟩ := r
      dsimp only at hmeta hbundle ⊢
      cases rc with
      | false => exact ⟨_, rfl, Or.inl ⟨fun ho => absurd ho.2.1 (by simp), hmeta.qbuf⟩⟩
      | true =>
        dsimp only
        split
        next hold =>
          refine ⟨_, rfl, Or.inl ⟨fun ho => ho.2.2.1 (seqComp_neg_iff.mp hold), hmeta.qbuf⟩⟩
        next hold =>
          rw [hmeta.nomatchId, if_neg (by simp)]
          obtain ⟨t, ht, hdone⟩ := hmeta.compAndEnqueue hframe (hbundle ▸ hidx) alloc
          refine ⟨t, ht, ?_⟩
          rcases hdone with ⟨hnot, hinv⟩ | ⟨hover, hmany⟩
          · exact Or.inl ⟨fun ho => hnot ho.2.2.2, hinv⟩
          · refine Or.inr ⟨⟨hframe, rfl, fun hlt => hold (seqComp_neg_iff.mpr hlt), hover⟩, ?_⟩
            exact fun hc => absurd hc.bounded (Nat.not_le.mpr hmany)

theorem flushLoop_all {released : MmChannelQueueNode → List MmCameraBufDef} (n : Nat)
    (hn : s.que.nodes.length = n) :
    (flushLoop false released n s).que.nodes = [] ∧
      (flushLoop false released n s).que.released =
        s.que.released ++ s.que.nodes.flatMap released ∧
      (flushLoop false released n s).que.passed = s.que.passed ∧
      (flushLoop false released n s).que.handed = s.que.handed := by
  induction n generalizing s with
  | zero =>
    grind [flushLoop]
  | succ n ih =>
    rcases dequeueInternal_cases false s with ⟨-, hstop⟩ | ⟨node, nodes, hq, -, he⟩
    · grind
    · unfold flushLoop
      rw [he]
      rw [hq, List.length_cons] at hn
      have hrest := @ih (qbufAll (released node) { s with que := s.que.pop node nodes })
        (Nat.succ.inj hn)
      refine ⟨hrest.1, hrest.2.1.trans ?_, hrest.2.2⟩
      rw [hq, List.flatMap_cons, ← List.append_assoc]
      rfl

theorem Inv.flush_breaks (h : s.Inv []) {camType : CamStreamType}
    (hnot : ¬KeepsQueue s (.flush camType)) : ¬(s.mmChannelSuperbufFlush camType).Coherent := by
  intro hc
  unfold KeepsQueue at hnot
  push Not at hnot
  obtain ⟨hdefault, buf, hbuf, htype⟩ := hnot
  obtain ⟨hnodes, hreleased, hpassed, hhanded⟩ := @flushLoop_all s
    (fun node => node.bufs.filter fun buf => camType = .default || camType = buf.streamType) _ rfl
  have hconserved := hc.conserved buf
  unfold mmChannelSuperbufFlush at hconserved
  rw [hpassed, hreleased, hhanded, h.que.conserved buf] at hconserved
  unfold SuperbufQue.bufs at hconserved
  rw [hnodes, List.count_append] at hconserved
  have hkept : buf ∉ s.que.nodes.flatMap fun node =>
      node.bufs.filter fun buf => camType = .default || camType = buf.streamType := by
    intro hm
    obtain ⟨node, -, hm⟩ := List.mem_flatMap.mp hm
    have hp := (List.mem_filter.mp hm).2
    simp [hdefault, htype] at hp
  grind [SuperbufQue.bufs]

theorem Inv.unbundled_breaks (h : s.Inv []) (hnot : info.streamId ∉ s.bundledStreams)
    (alloc : Bool) :
    ∃ t, s.mmChannelSuperbufCompAndEnqueue info alloc = some t ∧ ¬t.Coherent := by
  have hnone : s.bundledStreams.findIdx? (fun stream => info.streamId = stream) = none := by
    apply List.findIdx?_eq_none_iff.mpr
    intro stream hm
    have hne : info.streamId ≠ stream := fun he => hnot (he ▸ hm)
    simp [hne]
  refine ⟨s.pass info.buf, ?_, fun hc => ?_⟩
  · unfold mmChannelSuperbufCompAndEnqueue
    dsimp only
    split
    next => rfl
    next bufSIdx hsome =>
      cases hnone.symm.trans hsome
  · have hafter := hc.conserved info.buf
    have hbefore := h.que.conserved info.buf
    unfold pass SuperbufQue.bufs at hafter
    grind [SuperbufQue.bufs, List.count_singleton_self]

theorem Inv.step_keeps (h : s.Inv []) {op : SuperbufOp} (hkeeps : KeepsQueue s op) :
    ∃ t, s.step op = some t ∧ t.Inv [] := by
  cases op with
  | compAndEnqueue info alloc =>
    obtain ⟨t, ht, hdone⟩ := h.enqueue hkeeps.1 alloc
    rcases hdone with ⟨-, hinv⟩ | ⟨hover, -⟩
    · exact ⟨t, ht, hinv⟩
    · exact absurd hover hkeeps.2
  | dequeue => exact ⟨_, rfl, h.dequeue⟩
  | dequeueFrame frameIdx => exact ⟨_, rfl, h.dequeueFrame frameIdx⟩
  | bufdoneOverflow => exact h.bufdoneOverflow
  | skip => exact h.skip
  | flush camType => exact ⟨_, rfl, h.flush hkeeps⟩
  | flushMatched => exact ⟨_, rfl, h.flushMatched⟩

theorem Inv.step_breaks (h : s.Inv []) {op : SuperbufOp} (hnot : ¬KeepsQueue s op) :
    ∃ t, s.step op = some t ∧ ¬t.Coherent := by
  cases op with
  | compAndEnqueue info alloc =>
    by_cases hbundled : info.streamId ∈ s.bundledStreams
    · obtain ⟨t, ht, hdone⟩ := h.enqueue hbundled alloc
      rcases hdone with ⟨hroom, -⟩ | ⟨-, hbroken⟩
      · exact absurd ⟨hbundled, hroom⟩ hnot
      · exact ⟨t, ht, hbroken⟩
    · exact h.unbundled_breaks hbundled alloc
  | flush camType => exact ⟨_, rfl, h.flush_breaks hnot⟩
  | _ => exact absurd trivial hnot

theorem inv_empty (empty : s.que = {}) (normal : s.attr.priority = .normal)
    (nomatch0 : s.nomatchFrameId = 0) : s.Inv [] := by
  have hnodes : s.que.nodes = [] := by rw [empty]
  refine ⟨?_, ?_, normal, nomatch0⟩
  · rw [empty]
    refine ⟨rfl, rfl, List.Pairwise.nil, ?_, ?_, fun buf => rfl⟩
    · intro _ node hm
      cases hm
    · intro node hm
      cases hm
  · unfold SuperbufQue.unmatched
    rw [hnodes]
    exact Nat.zero_le _

/-- From an empty queue of normal priority, the calls return and the queue is coherent all along
exactly the runs whose buffers come from bundled streams and start no superbuf too many, and whose
flushes are of all types or of the type of all queued buffers. -/
theorem coherent_iff_keepsQueue (first : MmChannel) (empty : first.que = {})
    (normal : first.attr.priority = .normal) (nomatch0 : first.nomatchFrameId = 0)
    (ops : List SuperbufOp) :
    (Always step Coherent first ops ∧ ∃ t, runOps step first ops = some t) ↔
      OpsMeet step KeepsQueue first ops := by
  have hfirst := inv_empty empty normal nomatch0
  have halways := @always_iff _ _ step (fun _ _ => True) (fun s => s.Inv []) Coherent KeepsQueue
    (fun _ hi => hi.coherent) (fun _ _ hi _ hk => hi.step_keeps hk)
    (fun _ _ hi _ hnot => hi.step_breaks hnot) first ops hfirst (opsMeet_true first ops)
  constructor
  · intro h
    exact halways.mp h.1
  · intro h
    obtain ⟨t, ht, -⟩ := @run_returns _ _ step KeepsQueue (fun s => s.Inv [])
      (fun _ _ hi hk => hi.step_keeps hk) first ops hfirst h
    exact ⟨halways.mpr h, t, ht⟩

instance (info : MmCameraBufInfo) (alloc : Bool) (s : MmChannel) :
    Decidable (s.Overfills info alloc) :=
  inferInstanceAs (Decidable (_ ∧ _ ∧ _ ∧ _))

instance (info : MmCameraBufInfo) (alloc : Bool) (s : MmChannel) :
    Decidable (s.OverfillsAfter info alloc) :=
  inferInstanceAs (Decidable (_ ∧ _ ∧ _ ∧ _))

instance (s : MmChannel) : (op : SuperbufOp) → Decidable (KeepsQueue s op)
  | .compAndEnqueue _ _ => inferInstanceAs (Decidable (_ ∧ _))
  | .flush _ => inferInstanceAs (Decidable (_ ∨ _))
  | .dequeue => isTrue trivial
  | .dequeueFrame _ => isTrue trivial
  | .bufdoneOverflow => isTrue trivial
  | .skip => isTrue trivial
  | .flushMatched => isTrue trivial

/-- A snapshot stream bundled with its metadata. -/
def snapshotChannel (maxUnmatchedFrames : UInt8) : MmChannel where
  que := {}
  bundledStreams := [1, 2]
  attr := ⟨.burst, 0, 1, 0, maxUnmatchedFrames, .normal⟩
  streams := [⟨1, 11, true, true, some .metadata⟩, ⟨2, 12, true, true, some .snapshot⟩]

def metadataBuf (frameIdx : UInt32) (alloc : Bool) : SuperbufOp :=
  .compAndEnqueue ⟨1, frameIdx, ⟨frameIdx.toNat, .metadata, some {}⟩⟩ alloc

def snapshotBuf (frameIdx : UInt32) : SuperbufOp :=
  .compAndEnqueue ⟨2, frameIdx, ⟨100 + frameIdx.toNat, .snapshot, none⟩⟩ true

/-- Frames are matched, released as older, removed as unmatched, and taken out in each way. -/
def superbufOps : List SuperbufOp :=
  [metadataBuf 5 true, snapshotBuf 5, metadataBuf 6 true, snapshotBuf 7, metadataBuf 8 true,
    metadataBuf 9 true, metadataBuf 10 false, snapshotBuf 9, snapshotBuf 4, .dequeue, snapshotBuf 12,
    metadataBuf 12 true, .dequeueFrame 12, metadataBuf 13 true, snapshotBuf 13, .bufdoneOverflow,
    .skip, .flushMatched, metadataBuf 14 true, .flush .metadata, snapshotBuf 15, .flush .default]

theorem superbufOps_coherent :
    Always step Coherent (snapshotChannel 1) superbufOps ∧
      ∃ t, runOps step (snapshotChannel 1) superbufOps = some t :=
  (coherent_iff_keepsQueue (snapshotChannel 1) rfl rfl rfl superbufOps).mpr (by decide)

def strayOps : List SuperbufOp := [.compAndEnqueue ⟨3, 5, ⟨7, .preview, none⟩⟩ true]

/-- A superbuf with a metadata buffer only, and a flush of snapshot buffers. -/
def snapshotFlushOps : List SuperbufOp := [metadataBuf 5 true, .flush .snapshot]

/-- The buffer passed in is nowhere after the run. -/
def Loses (ops : List SuperbufOp) : Prop :=
  ∃ t, runOps step (snapshotChannel 4) ops = some t ∧ t.que.passed.length = 1 ∧
    t.que.nodes = [] ∧ t.que.released = [] ∧ t.que.handed = [] ∧ ¬t.Coherent

theorem not_coherent_of_lost (hpassed : s.que.passed.length = 1) (hnodes : s.que.nodes = [])
    (hreleased : s.que.released = []) (hhanded : s.que.handed = []) : ¬s.Coherent := by
  intro hc
  obtain ⟨buf, hbuf⟩ := List.length_eq_one_iff.mp hpassed
  have hkept := @Coherent.kept s hc buf (by simp [hbuf])
  unfold SuperbufQue.bufs at hkept
  rw [hnodes, hreleased, hhanded] at hkept
  simp at hkept

theorem strayOps_lost : Loses strayOps ∧ Loses snapshotFlushOps := by
  have lost : ∀ ops t, runOps step (snapshotChannel 4) ops = some t →
      t.que.passed.length = 1 ∧ t.que.nodes = [] ∧ t.que.released = [] ∧ t.que.handed = [] →
      Loses ops := by
    intro ops t ht ⟨hpassed, hnodes, hreleased, hhanded⟩
    exact ⟨t, ht, hpassed, hnodes, hreleased, hhanded,
      not_coherent_of_lost hpassed hnodes hreleased hhanded⟩
  exact ⟨lost _ _ rfl (by decide), lost _ _ rfl (by decide)⟩

/-- Each queued buffer of the type is released for each of its places in the queue, and each other
one is released or stays queued. -/
def FlushLosesNone (camType : CamStreamType) (s : MmChannel) : Prop :=
  let t := s.mmChannelSuperbufFlush camType
  ∀ buf ∈ s.que.bufs,
    (buf.streamType = camType →
      t.que.released.count buf = s.que.released.count buf + s.que.bufs.count buf) ∧
    (buf.streamType ≠ camType →
      t.que.bufs.count buf + t.que.released.count buf =
        s.que.released.count buf + s.que.bufs.count buf)

theorem mmChannelSuperbufFlush_que (camType : CamStreamType) (s : MmChannel) :
    (s.mmChannelSuperbufFlush camType).que.bufs = [] ∧
      (s.mmChannelSuperbufFlush camType).que.released = s.que.released ++
        s.que.bufs.filter fun buf => camType = .default || camType = buf.streamType := by
  obtain ⟨hnodes, hreleased, -, -⟩ := @flushLoop_all s
    (fun node => node.bufs.filter fun buf => camType = .default || camType = buf.streamType) _ rfl
  grind [SuperbufQue.bufs, mmChannelSuperbufFlush, List.filter_flatMap]

/-- A flush of one type loses no buffer just when there is none of another type. -/
theorem flushLosesNone_iff (camType : CamStreamType) (s : MmChannel) :
    FlushLosesNone camType s ↔
      camType = .default ∨ ∀ buf ∈ s.que.bufs, buf.streamType = camType := by
  obtain ⟨hempty, hreleased⟩ := mmChannelSuperbufFlush_que camType s
  unfold FlushLosesNone
  dsimp only
  rw [hempty, hreleased]
  constructor
  · intro hloses
    by_contra hnot
    push Not at hnot
    obtain ⟨hdefault, buf, hbuf, htype⟩ := hnot
    have hcount := (hloses buf hbuf).2 htype
    have hkept : buf ∉ s.que.bufs.filter fun buf =>
        camType = .default || camType = buf.streamType := by
      simp [hdefault, Ne.symm htype]
    grind
  · intro hall buf hbuf
    have hpicked : (camType = .default || camType = buf.streamType) = true := by
      rcases hall with hdefault | htypes
      · simp [hdefault]
      · simp [htypes buf hbuf]
    have hcount : (s.que.bufs.filter fun buf =>
        camType = .default || camType = buf.streamType).count buf = s.que.bufs.count buf :=
      List.count_filter hpicked
    rw [List.count_append, hcount, List.count_nil, Nat.zero_add]
    exact ⟨fun _ => rfl, fun _ => rfl⟩

/-- A flush of metadata, with one matched superbuf in the queue, loses its snapshot. -/
theorem metadata_flush_loses_snapshot : ∃ s,
    runOps step (snapshotChannel 4) [metadataBuf 5 true, snapshotBuf 5] = some s ∧
      s.que.bufs.map (·.streamType) = [.metadata, .snapshot] ∧ ¬FlushLosesNone .metadata s := by
  refine ⟨_, rfl, by decide, fun hloses => ?_⟩
  have hsnapshot := (hloses ⟨105, .snapshot, none⟩ (by decide)).2 (by decide)
  exact absurd hsnapshot (by decide)

end MmChannel

end DeviceHal.Camera
