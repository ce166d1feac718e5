import DeviceHal.Camera.ConfigCapture

namespace DeviceHal.Camera

open Lib

theorem searchNodes_found {picks : MmChannelQueueNode → Bool} {frameIdx : UInt32} {i pos : Nat}
    {nodes : List MmChannelQueueNode} {r : Search} (hr : r.found = none)
    (h : (searchNodes picks frameIdx i nodes r).found = some pos) : ∃ node, i ≤ pos ∧ nodes[pos - i]? = some node ∧ node.isMatched = false ∧ picks node = true := by
  induction nodes generalizing i r with
  | nil =>
    change r.found = some pos at h
    rw [hr] at h
    cases h
  | cons node nodes ih =>
    have later : ∀ x, (∃ y, i + 1 ≤ pos ∧ nodes[pos - (i + 1)]? = some y ∧ y.isMatched = false ∧
        picks y = true) → ∃ y, i ≤ pos ∧ (x :: nodes)[pos - i]? = some y ∧ y.isMatched = false ∧
        picks y = true := by
      rintro x ⟨y, hle, hy, hrest⟩
      refine ⟨y, by omega, ?_, hrest⟩
      rw [show pos - i = (pos - (i + 1)) + 1 by omega]
      exact hy
    unfold searchNodes at h
    split at h
    next => exact later node (ih hr h)
    next hm =>
      split at h
      next hpicks =>
        grind
      next => exact later node (ih (by exact hr) h)

namespace MmChannel

variable {s t u : MmChannel} {info : MmCameraBufInfo} {bufSIdx : Nat} {alloc : Bool}

/-- The numbers are the same, and superbufs are gone at most. -/
structure Lessened (s t : MmChannel) : Prop where
  cur : t.curCaptureIdx = s.curCaptureIdx
  capture : t.captureFrameId = s.captureFrameId
  diverted : t.divertedFrameId = s.divertedFrameId
  streams : t.bundledStreams = s.bundledStreams
  nodes : ∀ node ∈ t.que.nodes, node ∈ s.que.nodes

/-- So are the other fields that metadata leaves. -/
structure Kept (s t : MmChannel) : Prop extends Lessened s t where
  config : t.isConfigCapture = s.isConfigCapture
  numBatch : t.numBatch = s.numBatch
  attr : t.attr = s.attr
  nomatchId : t.nomatchFrameId = s.nomatchFrameId

theorem Lessened.refl (s : MmChannel) : s.Lessened s := ⟨rfl, rfl, rfl, rfl, fun _ h => h⟩

theorem Lessened.trans (h : s.Lessened t) (h' : t.Lessened u) : s.Lessened u :=
  ⟨h'.cur.trans h.cur, h'.capture.trans h.capture, h'.diverted.trans h.diverted,
    h'.streams.trans h.streams, fun node hn => h.nodes node (h'.nodes node hn)⟩

theorem Kept.refl (s : MmChannel) : s.Kept s := ⟨Lessened.refl s, rfl, rfl, rfl, rfl⟩

theorem Kept.trans (h : s.Kept t) (h' : t.Kept u) : s.Kept u :=
  ⟨h.toLessened.trans h'.toLessened, h'.config.trans h.config, h'.numBatch.trans h.numBatch,
    h'.attr.trans h.attr, h'.nomatchId.trans h.nomatchId⟩

variable {node : MmChannelQueueNode}

variable {nodes : List MmChannelQueueNode}

theorem kept_pop (hq : s.que.nodes = node :: nodes) (bufs : List MmCameraBufDef) :
    s.Kept (MmChannel.qbufAll bufs { s with que := s.que.pop node nodes }) := by
  refine ⟨⟨rfl, rfl, rfl, rfl, fun x hx => ?_⟩, rfl, rfl, rfl, rfl⟩
  rw [hq]
  exact List.mem_cons_of_mem node hx

theorem kept_flushLoop (s : MmChannel) (matchedOnly : Bool)
    (released : MmChannelQueueNode → List MmCameraBufDef) (n : Nat) :
    s.Kept (flushLoop matchedOnly released n s) :=
  flushLoop_keeps (fun _ _ _ h hq => Kept.trans h (kept_pop hq _)) n (Kept.refl s)

theorem kept_bufdoneOverflow (h : s.mmChannelSuperbufBufdoneOverflow = some t) : s.Kept t :=
  bufdoneOverflow_keeps (fun _ _ _ h hq => Kept.trans h (kept_pop hq _)) h (Kept.refl s)

theorem kept_skip (h : s.mmChannelSuperbufSkip = some t) : s.Kept t :=
  skip_keeps (fun _ _ _ h hq => Kept.trans h (kept_pop hq _)) h (Kept.refl s)

variable {metadata : MetadataBuffer}

theorem kept_handlePrepSnapshot : s.Kept (s.handlePrepSnapshot metadata) := by
  unfold handlePrepSnapshot
  split
  · exact Kept.refl s
  · dsimp only
    split
    · have hflush := kept_flushLoop { s with
          bWaitForPrepSnapshotDone := false
          expectedFrameId := s.expectedFrameId + maxFutureFrameOffset }
        false (fun node => node.bufs.filter fun buf =>
          CamStreamType.default = .default || CamStreamType.default = buf.streamType)
        s.que.nodes.length
      exact ⟨⟨hflush.cur, hflush.capture, hflush.diverted, hflush.streams, hflush.nodes⟩,
        hflush.config, hflush.numBatch, hflush.attr, hflush.nomatchId⟩
    · exact ⟨⟨rfl, rfl, rfl, rfl, fun _ h => h⟩, rfl, rfl, rfl, rfl⟩

theorem kept_handleFrameRange : s.Kept (s.handleFrameRange metadata) := by
  unfold handleFrameRange
  split
  · dsimp only
    split <;> exact ⟨⟨rfl, rfl, rfl, rfl, fun _ h => h⟩, rfl, rfl, rfl, rfl⟩
  · split
    · have hflush := kept_flushLoop s true MmChannelQueueNode.bufs s.que.nodes.length
      exact ⟨⟨hflush.cur, hflush.capture, hflush.diverted, hflush.streams, hflush.nodes⟩,
        hflush.config, hflush.numBatch, hflush.attr, hflush.nomatchId⟩
    · exact Kept.refl s

theorem kept_handleBracketing : s.Kept (s.handleBracketing metadata) := by
  unfold handleBracketing
  split
  · exact Kept.refl s
  · split <;> exact ⟨⟨rfl, rfl, rfl, rfl, fun _ h => h⟩, rfl, rfl, rfl, rfl⟩

theorem kept_handleLedOff (frameIdx : UInt32) : s.Kept (s.handleLedOff frameIdx) := by
  unfold handleLedOff
  split
  · split <;> exact ⟨⟨rfl, rfl, rfl, rfl, fun _ h => h⟩, rfl, rfl, rfl, rfl⟩
  · exact Kept.refl s

/-- The number of the diverted frame after metadata. -/
def divertedAfter (info : MmCameraBufInfo) (s : MmChannel) : UInt8 :=
  (s.divertInfo info).elim s.divertedFrameId fun frameId =>
    if frameId ≥ info.frameIdx then frameId.toUInt8 else 0

/-- The numbers of the batches after metadata that is not ignored. -/
def captureAfter (info : MmCameraBufInfo) (s : MmChannel) : List UInt8 :=
  (s.announcedBatch info).elim s.captureFrameId fun (batch, frameId) =>
    s.captureFrameId.set batch.toNat frameId.toUInt8

/-- What a buffer's metadata does to the numbers. -/
structure Announced (info : MmCameraBufInfo) (s t : MmChannel) : Prop where
  cur : t.curCaptureIdx = s.curCaptureIdx
  capture : t.captureFrameId = s.captureAfter info ∨
    s.isZoom1xFrameRequested = true ∧ t.captureFrameId = s.captureFrameId
  diverted : t.divertedFrameId = s.divertedAfter info
  streams : t.bundledStreams = s.bundledStreams
  nodes : ∀ node ∈ t.que.nodes, node ∈ s.que.nodes
  attr : t.attr = s.attr
  nomatchId : t.nomatchFrameId = s.nomatchFrameId

theorem announced_of_none (h : s.ownMetadata info = none) : Announced info s s := by
  refine ⟨rfl, Or.inl ?_, ?_, rfl, fun _ h => h, rfl, rfl⟩
  · unfold captureAfter announcedBatch
    rw [h]
    rfl
  · unfold divertedAfter divertInfo
    rw [h]
    rfl

theorem announced_of_own (h : s.ownMetadata info = some metadata) :
    Announced info s (s.handleOwnMetadata info.frameIdx metadata) := by
  have hdivert : (s.handleDivert info.frameIdx metadata).divertedFrameId = s.divertedAfter info := by
    unfold divertedAfter divertInfo handleDivert
    rw [h, Option.bind_some]
    cases metadata.divertInfo <;> rfl
  obtain ⟨d, hd⟩ : ∃ d, s.handleDivert info.frameIdx metadata = { s with divertedFrameId := d } := by
    unfold handleDivert
    split
    · exact ⟨s.divertedFrameId, rfl⟩
    · exact ⟨_, rfl⟩
  rw [hd] at hdivert
  change d = _ at hdivert
  unfold handleOwnMetadata
  dsimp only
  rw [hd]
  split
  next hzoom =>
    split
    · exact ⟨rfl, Or.inr ⟨hzoom, rfl⟩, hdivert, rfl, fun _ h => h, rfl, rfl⟩
    · have hflush := kept_flushLoop { s with
          divertedFrameId := d
          expectedFrameId := s.expectedFrameId + maxFutureFrameOffset }
        true MmChannelQueueNode.bufs s.que.nodes.length
      exact ⟨hflush.cur, Or.inr ⟨hzoom, hflush.capture⟩, hflush.diverted.trans hdivert,
        hflush.streams, hflush.nodes, hflush.attr, hflush.nomatchId⟩
  next =>
    generalize hu : (((({ s with divertedFrameId := d } : MmChannel).handlePrepSnapshot
      metadata).handleFrameRange metadata).handleBracketing metadata) = u
    have hkept : Kept { s with divertedFrameId := d } u := by
      rw [← hu]
      exact (kept_handlePrepSnapshot.trans kept_handleFrameRange).trans kept_handleBracketing
    have hconfig : Announced info s (u.handleConfigCapture metadata) := by
      have hbatch : (u.handleConfigCapture metadata).captureFrameId = s.captureAfter info := by
        unfold captureAfter announcedBatch handleConfigCapture
        rw [h, Option.bind_some]
        cases metadata.goodFrameIdxRange with
        | none => exact hkept.capture
        | some range =>
          rw [Option.bind_some, hkept.config, hkept.numBatch]
          dsimp only
          split
          · split <;> exact congrArg (List.set · _ _) hkept.capture
          · exact hkept.capture
      have hrest : u.Kept { u.handleConfigCapture metadata with captureFrameId := u.captureFrameId } := by
        unfold handleConfigCapture
        split
        · exact Kept.refl u
        · dsimp only
          split
          · split <;> exact ⟨⟨rfl, rfl, rfl, rfl, fun _ h => h⟩, rfl, rfl, rfl, rfl⟩
          · exact Kept.refl u
      have hall := hkept.trans hrest
      exact ⟨hall.cur, Or.inl hbatch, hall.diverted.trans hdivert, hall.streams, hall.nodes,
        hall.attr, hall.nomatchId⟩
    have hled := kept_handleLedOff (s := u.handleConfigCapture metadata) info.frameIdx
    refine ⟨hled.cur.trans hconfig.cur, ?_, hled.diverted.trans hconfig.diverted,
      hled.streams.trans hconfig.streams, fun node hn => hconfig.nodes node (hled.nodes node hn),
      hled.attr.trans hconfig.attr, hled.nomatchId.trans hconfig.nomatchId⟩
    rw [hled.capture]
    exact hconfig.capture

theorem announced_handleMetadata (hbundled : s.bundledStreams.contains info.streamId = true)
    (hframe : info.frameIdx ≠ 0) : Announced info s (s.mmChannelHandleMetadata info).1 := by
  have hpos : (s.bundledStreams.contains info.streamId && decide (info.frameIdx ≠ 0)) = true := by
    rw [hbundled, decide_eq_true hframe]
    rfl
  unfold mmChannelHandleMetadata
  cases hstream : s.mmChannelUtilGetStreamByHandler info.streamId with
  | none =>
    refine announced_of_none ?_
    unfold ownMetadata
    rw [if_pos hpos, hstream]
  | some stream =>
    have hown : s.ownMetadata info =
        if stream.streamType = some .metadata && stream.own then info.buf.buffer else none := by
      unfold ownMetadata
      rw [if_pos hpos, hstream]
    dsimp only [Option.map_some]
    split
    next own streamType heq =>
      obtain ⟨rfl, htype⟩ := Prod.mk.inj (Option.some.inj heq)
      rw [htype] at hown
      split
      next hcond =>
        have hcond' : (some streamType = some CamStreamType.metadata && stream.own) = true := by
          simpa using hcond
        rw [if_pos hcond'] at hown
        split
        next hbuf => exact announced_of_none (hown.trans hbuf)
        next metadata hbuf => exact announced_of_own (hown.trans hbuf)
      next hcond =>
        have hcond' : ¬(some streamType = some CamStreamType.metadata && stream.own) = true := by
          simpa using hcond
        rw [if_neg hcond'] at hown
        exact announced_of_none hown
    next hnone =>
      have htype : stream.streamType = none := by
        cases htype : stream.streamType with
        | none => rfl
        | some streamType => exact absurd (by rw [htype]) (hnone stream.own streamType)
      rw [htype] at hown
      exact announced_of_none hown

/-- A superbuf that the buffer has been put in. `diverted` is the number of the diverted frame that the
enqueue compares with. -/
structure Holder (info : MmCameraBufInfo) (bufSIdx : Nat) (diverted : UInt8) (s : MmChannel)
    (node : MmChannelQueueNode) : Prop where
  buf : info.buf ∈ node.bufs
  width : node.superBuf.length = s.bundledStreams.length
  frame : node.frameIdx = info.frameIdx ∨ ∃ old ∈ s.que.nodes, old.isMatched = false ∧
    s.picks info bufSIdx old = true ∧ node.frameIdx = old.frameIdx
  marked : node.isMatched = false → diverted.toUInt32 = info.frameIdx → node.expected = true
  only : node.expected = true → diverted.toUInt32 = info.frameIdx ∨
    ∃ old ∈ s.que.nodes, old.expected = true ∧ old.frameIdx = node.frameIdx

/-- What the part of the enqueue under the lock does: a superbuf of the queue is an old one or holds
the buffer, and the number of the diverted frame is cleared with its mark at most. -/
structure Taken (info : MmCameraBufInfo) (bufSIdx : Nat) (s t : MmChannel) : Prop where
  cur : t.curCaptureIdx = s.curCaptureIdx
  capture : t.captureFrameId = s.captureFrameId
  streams : t.bundledStreams = s.bundledStreams
  nodes : ∀ node ∈ t.que.nodes,
    node ∈ s.que.nodes ∨ Holder info bufSIdx s.divertedFrameId s node
  diverted : t.divertedFrameId = s.divertedFrameId ∨
    s.divertedFrameId.toUInt32 = info.frameIdx ∧ t.divertedFrameId = 0 ∧ t.holds info.buf = true

theorem Lessened.taken (h : s.Lessened t) : Taken info bufSIdx s t :=
  ⟨h.cur, h.capture, h.streams, fun node hn => Or.inl (h.nodes node hn), Or.inl h.diverted⟩

theorem buf_mem_set {slots : List (Option MmCameraBufInfo)} (hidx : bufSIdx < slots.length)
    (node : MmChannelQueueNode) (hnode : node.superBuf = slots.set bufSIdx (some info)) :
    info.buf ∈ node.bufs := by
  refine List.mem_filterMap.mpr ⟨some info, ?_, rfl⟩
  rw [hnode]
  exact List.mem_set hidx _

theorem holds_of_mem {buf : MmCameraBufDef} (hn : node ∈ s.que.nodes)
    (hb : buf ∈ node.bufs) : s.holds buf = true :=
  List.any_eq_true.mpr ⟨node, hn, List.contains_iff_mem.mpr hb⟩

theorem mem_set_cases {node x : MmChannelQueueNode} {pos : Nat}
    (h : x ∈ nodes.set pos node) : x ∈ nodes ∨ x = node := List.mem_or_eq_of_mem_set h

theorem lessened_releaseOlder (lastBuf : Option Nat) (pos : Nat) :
    s.Lessened (s.releaseOlder lastBuf pos) := by
  unfold releaseOlder
  split
  · exact Lessened.refl s
  · refine ⟨rfl, rfl, rfl, rfl, fun x hx => ?_⟩
    grind

theorem enqueueFound_taken {pos : Nat} (lastBuf : Option Nat)
    (hnode : s.que.nodes[pos]? = some node) (hunmatched : node.isMatched = false)
    (hpicks : s.picks info bufSIdx node = true)
    (hwidth : node.superBuf.length = s.bundledStreams.length)
    (hidx : bufSIdx < s.bundledStreams.length) :
    Taken info bufSIdx s ({ s with nomatchFrameId := 0 }.enqueueFound info bufSIdx pos lastBuf node) := by
  obtain ⟨hpos, hat⟩ := List.getElem?_eq_some_iff.mp hnode
  have hmem : node ∈ s.que.nodes := hat ▸ List.getElem_mem hpos
  -- the superbuf with the buffer, complete or not
  have hholder : ∀ x : MmChannelQueueNode, x.superBuf = node.superBuf.set bufSIdx (some info) →
      x.frameIdx = node.frameIdx →
      (x.isMatched = false → s.divertedFrameId.toUInt32 = info.frameIdx → x.expected = true) →
      (x.expected = true → s.divertedFrameId.toUInt32 = info.frameIdx ∨ node.expected = true) →
      Holder info bufSIdx s.divertedFrameId s x := by
    intro x hslots hframe hmarked honly
    refine ⟨buf_mem_set (hwidth ▸ hidx) x hslots, ?_,
      Or.inr ⟨node, hmem, hunmatched, hpicks, hframe⟩, hmarked, fun he => ?_⟩
    · rw [hslots, List.length_set, hwidth]
    · grind
  unfold enqueueFound
  split
  next => exact ⟨rfl, rfl, rfl, fun x hx => Or.inl hx, Or.inl rfl⟩
  next =>
    dsimp only
    split
    next =>
      obtain ⟨expectedFrameId, flash, hexpect⟩ : ∃ expectedFrameId flash,
          ({ s with nomatchFrameId := 0 } : MmChannel).expectAfter info.frameIdx = { s with
            nomatchFrameId := 0, expectedFrameId, isFlashBracketingEnabled := flash } := by
        unfold expectAfter
        split
        · exact ⟨_, _, rfl⟩
        · exact ⟨_, _, rfl⟩
      rw [hexpect]
      have hless := lessened_releaseOlder (s := { s with
        nomatchFrameId := 0
        expectedFrameId
        isFlashBracketingEnabled := flash
        que := { s.que with
          nodes := s.que.nodes.set pos { node with
            superBuf := node.superBuf.set bufSIdx (some info)
            isMatched := true
            expected := false }
          matchCnt := s.que.matchCnt + 1 } }) lastBuf pos
      refine ⟨hless.cur, hless.capture, hless.streams, fun x hx => ?_, Or.inl hless.diverted⟩
      rcases mem_set_cases (hless.nodes x hx) with hx | rfl
      · exact Or.inl hx
      grind
    next =>
      split
      next hdiverted =>
        have hnew : { node with
            superBuf := node.superBuf.set bufSIdx (some info)
            expected := true } ∈ s.que.nodes.set pos { node with
              superBuf := node.superBuf.set bufSIdx (some info)
              expected := true } := List.mem_set hpos _
        refine ⟨rfl, rfl, rfl, fun x hx => ?_, Or.inr ⟨hdiverted, rfl, ?_⟩⟩
        · grind
        · exact holds_of_mem hnew (buf_mem_set (hwidth ▸ hidx) _ rfl)
      next hdiverted =>
        refine ⟨rfl, rfl, rfl, fun x hx => ?_, Or.inl rfl⟩
        grind

theorem insertNew_taken (info : MmCameraBufInfo) (insertBeforeBuf : Option Nat)
    (hidx : bufSIdx < s.bundledStreams.length) :
    Taken info bufSIdx s (s.insertNew info bufSIdx insertBeforeBuf) := by
  have hbuf : info.buf ∈ (s.newSuperbuf info bufSIdx).bufs :=
    buf_mem_set (by rwa [List.length_replicate]) _ rfl
  have hholder : Holder info bufSIdx s.divertedFrameId s (s.newSuperbuf info bufSIdx) := by
    refine ⟨hbuf, ?_, Or.inl rfl, fun hm hd => ?_, fun he => Or.inl ?_⟩
    · simp [newSuperbuf]
    · grind [newSuperbuf]
    · grind [newSuperbuf]
  have hmem : ∀ x, x ∈ (s.insertNew info bufSIdx insertBeforeBuf).que.nodes ↔
      x ∈ s.que.nodes ∨ x = s.newSuperbuf info bufSIdx := by
    intro x
    cases insertBeforeBuf with
    | none =>
      change x ∈ s.que.nodes ++ [s.newSuperbuf info bufSIdx] ↔ _
      rw [List.mem_append, List.mem_singleton]
    | some position =>
      change x ∈ s.que.nodes.take position ++ s.newSuperbuf info bufSIdx ::
        s.que.nodes.drop position ↔ _
      rw [← List.take_append_drop position s.que.nodes, List.take_append_drop]
      have hall : x ∈ s.que.nodes ↔
          x ∈ s.que.nodes.take position ∨ x ∈ s.que.nodes.drop position := by
        rw [← List.mem_append, List.take_append_drop]
      rw [List.mem_append, List.mem_cons, hall]
      tauto
  refine ⟨rfl, rfl, rfl, fun x hx => ?_, ?_⟩
  · grind
  · by_cases hdiverted : s.divertedFrameId.toUInt32 = info.frameIdx
    · refine Or.inr ⟨hdiverted, if_pos hdiverted, ?_⟩
      exact holds_of_mem ((hmem _).mpr (Or.inr rfl)) hbuf
    · exact Or.inl (if_neg hdiverted)

theorem Holder.mono {diverted : UInt8}
    (h : Holder info bufSIdx diverted t node) (nodes : ∀ x ∈ t.que.nodes, x ∈ s.que.nodes)
    (streams : t.bundledStreams = s.bundledStreams) (attr : t.attr = s.attr)
    (nomatchId : t.nomatchFrameId = s.nomatchFrameId) : Holder info bufSIdx diverted s node := by
  have hpicks : ∀ x, t.picks info bufSIdx x = s.picks info bufSIdx x := by
    intro x
    unfold picks
    rw [attr, nomatchId]
  refine ⟨h.buf, streams ▸ h.width, h.frame.imp_right ?_, h.marked, fun he => ?_⟩
  · grind
  · refine (h.only he).imp_right ?_
    grind

theorem kept_evict (removed : Option Nat) : s.Kept (s.evict removed) := by
  cases removed with
  | none => exact Kept.refl s
  | some e =>
    refine ⟨⟨rfl, rfl, rfl, rfl, fun x hx => ?_⟩, rfl, rfl, rfl, rfl⟩
    exact (List.eraseIdx_sublist s.que.nodes e).mem hx

theorem compAndEnqueue_taken (hidx : bufSIdx < s.bundledStreams.length)
    (hwidth : ∀ node ∈ s.que.nodes, node.superBuf.length = s.bundledStreams.length)
    (ht : s.compAndEnqueue info bufSIdx alloc = some t) : Taken info bufSIdx s t := by
  have hqbuf : ∀ u : MmChannel, u.Lessened (u.mmChannelQbuf info.buf) :=
    fun u => ⟨rfl, rfl, rfl, rfl, fun _ h => h⟩
  unfold MmChannel.compAndEnqueue at ht
  dsimp only at ht
  split at ht
  next =>
    unfold MmChannel.enqueueNew at ht
    dsimp only at ht
    split at ht
    next =>
      cases ht
      exact (hqbuf s).taken
    next =>
      split at ht
      next => cases ht
      next removed unmatched _ =>
        generalize (if s.attr.maxUnmatchedFrames < unmatched then _ else removed) = e at ht
        have hevict := kept_evict (s := s) e
        split at ht
        next =>
          cases ht
          have htaken := insertNew_taken (s := s.evict e) info
            ((searchNodes (s.picks info bufSIdx) info.frameIdx 0 s.que.nodes
              {}).insertBeforeBuf.map (shiftPosition e)) (hevict.streams ▸ hidx)
          refine ⟨htaken.cur.trans hevict.cur, htaken.capture.trans hevict.capture,
            htaken.streams.trans hevict.streams, fun x hx => ?_, ?_⟩
          · rcases htaken.nodes x hx with hx | hx
            · exact Or.inl (hevict.nodes x hx)
            · rw [hevict.diverted] at hx
              exact Or.inr (hx.mono hevict.nodes hevict.streams hevict.attr hevict.nomatchId)
          · rw [← hevict.diverted]
            exact htaken.diverted
        next =>
          cases ht
          exact (hevict.toLessened.trans (hqbuf _)).taken
  next pos hfound =>
    obtain ⟨node, -, hnode, hunmatched, hpicks⟩ := searchNodes_found rfl hfound
    rw [Nat.sub_zero] at hnode
    rw [hnode] at ht
    cases ht
    obtain ⟨hpos, hat⟩ := List.getElem?_eq_some_iff.mp hnode
    have hmem : node ∈ s.que.nodes := hat ▸ List.getElem_mem hpos
    exact enqueueFound_taken _ hnode hunmatched hpicks (hwidth node hmem) hidx

/-- What the enqueue does with a buffer, its metadata included. -/
structure Received (info : MmCameraBufInfo) (s t : MmChannel) : Prop where
  cur : t.curCaptureIdx = s.curCaptureIdx
  capture : t.captureFrameId = s.captureAfter info ∨
    s.isZoom1xFrameRequested = true ∧ t.captureFrameId = s.captureFrameId
  streams : t.bundledStreams = s.bundledStreams
  nodes : ∀ node ∈ t.que.nodes, node ∈ s.que.nodes ∨ info.frameIdx ≠ 0 ∧
    ∃ i, s.bundledStreams.findIdx? (fun stream => info.streamId = stream) = some i ∧
      Holder info i (s.divertedAfter info) s node
  diverted : t.divertedFrameId = s.divertedAfter info ∨
    (s.divertedAfter info).toUInt32 = info.frameIdx ∧ t.divertedFrameId = 0 ∧
      t.holds info.buf = true

theorem Announced.lessened (h : Announced info s t) (h' : t.Lessened u) : Received info s u :=
  ⟨h'.cur.trans h.cur, h'.capture ▸ h.capture, h'.streams.trans h.streams,
    fun node hn => Or.inl (h.nodes node (h'.nodes node hn)), Or.inl (h'.diverted.trans h.diverted)⟩

theorem compAndEnqueue_received
    (hwidth : ∀ node ∈ s.que.nodes, node.superBuf.length = s.bundledStreams.length)
    (ht : s.mmChannelSuperbufCompAndEnqueue info alloc = some t) : Received info s t := by
  have hqbuf : ∀ u : MmChannel, u.Lessened (u.mmChannelQbuf info.buf) :=
    fun u => ⟨rfl, rfl, rfl, rfl, fun _ h => h⟩
  have hpass : s.Lessened (s.pass info.buf) := ⟨rfl, rfl, rfl, rfl, fun _ h => h⟩
  unfold mmChannelSuperbufCompAndEnqueue at ht
  dsimp only at ht
  split at ht
  next hnone =>
    cases ht
    refine (announced_of_none ?_).lessened hpass
    refine if_neg fun hand => ?_
    have hcontains := List.contains_iff_mem.mp (Bool.and_eq_true_iff.mp hand).1
    have hno := List.findIdx?_eq_none_iff.mp hnone info.streamId hcontains
    simp at hno
  next i hi =>
    obtain ⟨hidx, hstream, -⟩ := List.findIdx?_eq_some_iff_getElem.mp hi
    have hbundled : s.bundledStreams.contains info.streamId = true := by
      refine List.contains_iff_mem.mpr ?_
      rw [of_decide_eq_true hstream]
      exact List.getElem_mem hidx
    split at ht
    next hframe =>
      cases ht
      refine (announced_of_none ?_).lessened (hpass.trans (hqbuf _))
      refine if_neg fun hand => ?_
      exact of_decide_eq_true (Bool.and_eq_true_iff.mp hand).2 hframe
    next hframe =>
      have hannounced := announced_handleMetadata (s := s.pass info.buf) hbundled hframe
      generalize (s.pass info.buf).mmChannelHandleMetadata info = result at hannounced ht
      obtain ⟨u, ok⟩ := result
      have hs : Announced info s u := ⟨hannounced.cur, hannounced.capture, hannounced.diverted,
        hannounced.streams, hannounced.nodes, hannounced.attr, hannounced.nomatchId⟩
      cases ok with
      | false =>
        cases ht
        exact hs.lessened (hqbuf u)
      | true =>
        dsimp only at ht
        split at ht
        next =>
          cases ht
          exact hs.lessened (hqbuf u)
        next =>
          split at ht
          next =>
            cases ht
            exact hs.lessened (hqbuf u)
          next =>
            have htaken := compAndEnqueue_taken (hs.streams ▸ hidx)
              (fun node hn => by rw [hs.streams, hwidth node (hs.nodes node hn)]) ht
            refine ⟨htaken.cur.trans hs.cur, htaken.capture ▸ hs.capture,
              htaken.streams.trans hs.streams, fun node hn => ?_, hs.diverted ▸ htaken.diverted⟩
            rcases htaken.nodes node hn with hn | hn
            · exact Or.inl (hs.nodes node hn)
            · rw [hs.diverted] at hn
              exact Or.inr ⟨hframe, i, hi, hn.mono hs.nodes hs.streams hs.attr hs.nomatchId⟩

end MmChannel

theorem toUInt8_toUInt32 {frameId : UInt32} (h : CaptureChannel.Fits frameId) :
    frameId.toUInt8.toUInt32 = frameId := by
  apply UInt32.toNat_inj.mp
  rw [UInt8.toNat_toUInt32, UInt32.toNat_toUInt8]
  exact Nat.mod_eq_of_lt h

namespace CaptureChannel

variable {s t u : CaptureChannel} {info : MmCameraBufInfo} {alloc : Bool}

/-- The numbers are kept as they were announced. -/
structure Inv (s : CaptureChannel) : Prop where
  cur : s.ch.curCaptureIdx.toNat < maxCaptureBatchNum
  capture : s.ch.captureFrameId.map UInt8.toUInt32 = s.announced
  due : ∀ frameId ∈ s.due, s.ch.divertedFrameId.toUInt32 = frameId
  dueDiverted : ∀ frameId ∈ s.due, frameId ∈ s.diverted
  diverted : s.ch.divertedFrameId ≠ 0 → s.ch.divertedFrameId.toUInt32 ∈ s.diverted
  width : ∀ node ∈ s.ch.que.nodes, node.superBuf.length = s.ch.bundledStreams.length
  sent : ∀ superbuf ∈ s.sent, superbuf.announced ≤ superbuf.frameIdx

/-- Superbufs are gone at most, and nothing is announced or sent. -/
structure Quiet (s t : CaptureChannel) : Prop where
  ch : s.ch.Lessened t.ch
  announced : t.announced = s.announced
  diverted : t.diverted = s.diverted
  due : t.due = s.due
  sent : t.sent = s.sent

theorem Quiet.refl (s : CaptureChannel) : Quiet s s := ⟨.refl _, rfl, rfl, rfl, rfl⟩

theorem Quiet.trans (h : Quiet s t) (h' : Quiet t u) : Quiet s u :=
  ⟨h.ch.trans h'.ch, h'.announced.trans h.announced, h'.diverted.trans h.diverted,
    h'.due.trans h.due, h'.sent.trans h.sent⟩

theorem Inv.quiet (h : s.Inv) (hq : Quiet s t) : t.Inv where
  cur := hq.ch.cur ▸ h.cur
  capture := by rw [hq.ch.capture, hq.announced, h.capture]
  due := by
    rw [hq.ch.diverted, hq.due]
    exact h.due
  dueDiverted := by
    rw [hq.due, hq.diverted]
    exact h.dueDiverted
  diverted := by
    rw [hq.ch.diverted, hq.diverted]
    exact h.diverted
  width node hn := by rw [hq.ch.streams, h.width node (hq.ch.nodes node hn)]
  sent := hq.sent ▸ h.sent

theorem announcedDivert_of_ge {ch : MmChannel} {frameId : UInt32}
    (hinfo : ch.divertInfo info = some frameId) (hge : frameId ≥ info.frameIdx) :
    ch.announcedDivert info = some frameId := by
  grind [MmChannel.announcedDivert]

theorem announcedDivert_of_lt {ch : MmChannel}
    (hinfo : ∀ frameId, ch.divertInfo info = some frameId → frameId < info.frameIdx) :
    ch.announcedDivert info = none := by
  grind [MmChannel.announcedDivert, Option.filter_eq_none_iff]

theorem Inv.divertedAfter (h : s.Inv) (stores : s.StoresNumbers info) :
    (∀ frameId ∈ s.due ++ (s.ch.announcedDivert info).toList,
      (s.ch.divertedAfter info).toUInt32 = frameId) ∧
    (s.ch.divertedAfter info ≠ 0 → (s.ch.divertedAfter info).toUInt32 ∈
      s.diverted ++ (s.ch.announcedDivert info).toList) := by
  unfold MmChannel.divertedAfter
  cases hinfo : s.ch.divertInfo info with
  | none =>
    rw [announcedDivert_of_lt (fun frameId he => nomatch hinfo.symm.trans he), Option.toList_none,
      List.append_nil, List.append_nil]
    exact ⟨h.due, h.diverted⟩
  | some d =>
    rw [Option.elim_some]
    by_cases hd : d ≥ info.frameIdx
    · have hsome := announcedDivert_of_ge hinfo hd
      obtain ⟨hfits, hdue⟩ := stores.divert d hsome
      rw [if_pos hd, hsome, toUInt8_toUInt32 hfits]
      grind
    · have hlt : d < info.frameIdx := UInt32.not_le.mp hd
      have hnone : s.ch.announcedDivert info = none :=
        announcedDivert_of_lt fun frameId he => (Option.some.inj (hinfo.symm.trans he)) ▸ hlt
      simp [if_neg hd, stores.older d hinfo hlt, hnone]

theorem Inv.captureAfter (h : s.Inv) (stores : s.StoresNumbers info) :
    (s.ch.captureAfter info).map UInt8.toUInt32 =
      (s.ch.announcedBatch info).elim s.announced fun (batch, frameId) =>
        s.announced.set batch.toNat frameId := by
  unfold MmChannel.captureAfter
  cases hbatch : s.ch.announcedBatch info with
  | none => exact h.capture
  | some announcement =>
    obtain ⟨batch, frameId⟩ := announcement
    rw [Option.elim_some, Option.elim_some, List.map_set, h.capture,
      toUInt8_toUInt32 (stores.batch (batch, frameId) hbatch).1]

theorem Inv.receive (h : s.Inv) (hnew : s.ch.holds info.buf = false)
    (stores : s.StoresNumbers info) (ht : s.receive info alloc = some t) :
    t.Inv ∧ MarksDiverted info s t := by
  obtain ⟨ch, hch, ht⟩ := Option.bind_eq_some_iff.mp ht
  cases Option.some.inj ht
  have received := MmChannel.compAndEnqueue_received h.width hch
  obtain ⟨hdue, hdiverted⟩ := h.divertedAfter stores
  have hfresh : ∀ node ∈ s.ch.que.nodes, info.buf ∉ node.bufs := by
    intro node hn hb
    rw [MmChannel.holds_of_mem hn hb] at hnew
    cases hnew
  -- a superbuf that holds a buffer of a frame announced as diverted is of that frame
  have hframe : ∀ node ∈ ch.que.nodes, info.buf ∈ node.bufs → 
      (s.ch.divertedAfter info).toUInt32 = info.frameIdx → node.frameIdx = info.frameIdx ∧
        info.frameIdx ∈ s.diverted ++ (s.ch.announcedDivert info).toList := by
    intro node hn hb hd
    rcases received.nodes node hn with hold | ⟨hzero, i, hi, hholder⟩
    · exact absurd hb (hfresh node hold)
    · have hmem : info.frameIdx ∈ s.diverted ++ (s.ch.announcedDivert info).toList := by
        rw [← hd]
        refine hdiverted fun hnone => hzero ?_
        rw [← hd, hnone]
        rfl
      refine ⟨?_, hmem⟩
      rcases hholder.frame with hown | ⟨old, hold, hm, hpicks, hsame⟩
      · exact hown
      · exact hsame.trans (stores.own hmem i hi old hold hm hpicks)
  refine ⟨⟨received.cur ▸ h.cur, ?_, fun frameId hmem => ?_, fun frameId hmem => ?_, fun hne => ?_,
    fun node hn => ?_, h.sent⟩, fun hawaited node hn hb hm => ?_, fun node hn he => ?_⟩
  · rcases received.capture with hcapture | ⟨hzoom, hcapture⟩
    · rw [hcapture]
      exact h.captureAfter stores
    · rw [hcapture, h.capture]
      cases hbatch : s.ch.announcedBatch info with
      | none => rfl
      | some announcement =>
        have hno := (stores.batch announcement hbatch).2
        rw [hzoom] at hno
        cases hno
  · change frameId ∈ (if ch.holds info.buf then _ else _) at hmem
    rcases received.diverted with hsame | ⟨heq, -, hholds⟩
    · grind
    grind
  · change frameId ∈ (if ch.holds info.buf then _ else _) at hmem
    have hall : frameId ∈ s.due ++ (s.ch.announcedDivert info).toList := by
      split at hmem
      · exact (List.mem_filter.mp hmem).1
      · exact hmem
    rcases List.mem_append.mp hall with hall | hall
    · exact List.mem_append_left _ (h.dueDiverted frameId hall)
    · exact List.mem_append_right _ hall
  · change ch.divertedFrameId ≠ 0 at hne
    change ch.divertedFrameId.toUInt32 ∈ _
    rcases received.diverted with hsame | ⟨-, hzero, -⟩
    · rw [hsame] at hne ⊢
      exact hdiverted hne
    · exact absurd hzero hne
  · change node.superBuf.length = ch.bundledStreams.length
    rw [received.streams]
    rcases received.nodes node hn with hold | ⟨-, i, -, hholder⟩
    · exact h.width node hold
    · exact hholder.width
  · have heq := hdue info.frameIdx hawaited
    refine ⟨(hframe node hn hb heq).1, ?_⟩
    rcases received.nodes node hn with hold | ⟨-, i, -, hholder⟩
    · exact absurd hb (hfresh node hold)
    · exact hholder.marked hm heq
  · rcases received.nodes node hn with hold | ⟨-, i, -, hholder⟩
    · exact Or.inr ⟨node, hold, he, rfl⟩
    · refine (hholder.only he).imp_left fun hd => ?_
      obtain ⟨hown, hmem⟩ := hframe node hn hholder.buf hd
      exact ⟨hown, hholder.buf, hmem⟩

theorem Inv.handleCmd (h : s.Inv) {cmd : ChannelCmd} (hcmd : ∀ info alloc, cmd ≠ .dataCb info alloc)
    (ht : s.handleCmd cmd = some t) : t.Inv ∧ ∀ node ∈ t.ch.que.nodes, node ∈ s.ch.que.nodes := by
  have quiet : ∀ u, Quiet s u → u.Inv ∧ ∀ node ∈ u.ch.que.nodes, node ∈ s.ch.que.nodes :=
    fun u hu => ⟨h.quiet hu, hu.ch.nodes⟩
  have hflush : ∀ (ch : MmChannel) (camType : CamStreamType), s.ch.Lessened ch →
      s.ch.Lessened (ch.mmChannelSuperbufFlush camType) :=
    fun ch camType hch => hch.trans (MmChannel.kept_flushLoop _ _ _ _).toLessened
  cases cmd with
  | dataCb info alloc => exact absurd rfl (hcmd info alloc)
  | reqDataCb numBuf numRetro reqType =>
    obtain ⟨ch, hch, ht⟩ := Option.bind_eq_some_iff.mp ht
    cases Option.some.inj ht
    have hskip := (MmChannel.kept_skip hch).toLessened
    exact quiet _ ⟨⟨hskip.cur, hskip.capture, hskip.diverted, hskip.streams, hskip.nodes⟩,
      rfl, rfl, rfl, rfl⟩
  | startZsl =>
    cases Option.some.inj ht
    exact quiet _ ⟨.refl _, rfl, rfl, rfl, rfl⟩
  | stopZsl =>
    cases Option.some.inj ht
    exact quiet _ ⟨.refl _, rfl, rfl, rfl, rfl⟩
  | configNotify notifyMode =>
    cases Option.some.inj ht
    exact quiet _ ⟨⟨rfl, rfl, rfl, rfl, fun _ hn => hn⟩, rfl, rfl, rfl, rfl⟩
  | flushQueue frameIdx streamType =>
    cases Option.some.inj ht
    exact quiet _ ⟨hflush _ streamType ⟨rfl, rfl, rfl, rfl, fun _ hn => hn⟩, rfl, rfl, rfl, rfl⟩
  | bracketing start =>
    cases Option.some.inj ht
    have hless := hflush s.ch .default (.refl _)
    exact quiet _ ⟨⟨hless.cur, hless.capture, hless.diverted, hless.streams, hless.nodes⟩,
      rfl, rfl, rfl, rfl⟩
  | flashBracketing start =>
    cases Option.some.inj ht
    have hless := hflush s.ch .default (.refl _)
    exact quiet _ ⟨⟨hless.cur, hless.capture, hless.diverted, hless.streams, hless.nodes⟩,
      rfl, rfl, rfl, rfl⟩
  | zoom1x start =>
    cases Option.some.inj ht
    have hless := hflush s.ch .default (.refl _)
    exact quiet _ ⟨⟨hless.cur, hless.capture, hless.diverted, hless.streams, hless.nodes⟩,
      rfl, rfl, rfl, rfl⟩
  | captureSetting config =>
    cases Option.some.inj ht
    refine ⟨⟨?_, ?_, h.due, h.dueDiverted, h.diverted, h.width, h.sent⟩, fun _ hn => hn⟩
    · change (0 : UInt8).toNat < maxCaptureBatchNum
      decide
    · exact List.map_replicate

theorem quiet_afterCmd (s : CaptureChannel) : Quiet s s.afterCmd := by
  unfold afterCmd
  split
  · have hflush := MmChannel.kept_flushLoop s.ch false
      (fun node => node.bufs.filter fun buf =>
        CamStreamType.default = .default || CamStreamType.default = buf.streamType)
      s.ch.que.nodes.length
    exact ⟨⟨hflush.cur, hflush.capture, hflush.diverted, hflush.streams, hflush.nodes⟩,
      rfl, rfl, rfl, rfl⟩
  · split
    · exact ⟨⟨rfl, rfl, rfl, rfl, fun _ hn => hn⟩, rfl, rfl, rfl, rfl⟩
    · dsimp only
      split
      · exact ⟨⟨rfl, rfl, rfl, rfl, fun _ hn => hn⟩, rfl, rfl, rfl, rfl⟩
      · exact Quiet.refl s

theorem processStreamBuf_cases {cmd : ChannelCmd} (ht : s.processStreamBuf cmd = some t) :
    ∃ u, s.handleCmd cmd = some u ∧ Quiet u t := by
  obtain ⟨u, hu, ht⟩ := Option.bind_eq_some_iff.mp ht
  refine ⟨u, hu, ?_⟩
  split at ht
  next =>
    cases Option.some.inj ht
    exact Quiet.refl _
  next =>
    obtain ⟨ch, hch, ht⟩ := Option.bind_eq_some_iff.mp ht
    cases Option.some.inj ht
    have hover := (MmChannel.kept_bufdoneOverflow hch).toLessened
    exact (quiet_afterCmd u).trans ⟨hover, rfl, rfl, rfl, rfl⟩

theorem dequeueFrame_que (frameIdx : UInt32) (ch : MmChannel) :
    ∃ que, ch.mmChannelSuperbufDequeueFrameInternal frameIdx = { ch with que } ∧
      ∀ node ∈ que.nodes, node ∈ ch.que.nodes := by
  unfold MmChannel.mmChannelSuperbufDequeueFrameInternal
  split
  next => exact ⟨ch.que, rfl, fun _ hn => hn⟩
  next i _ =>
    split
    next => exact ⟨ch.que, rfl, fun _ hn => hn⟩
    next =>
      refine ⟨_, rfl, fun node hn => ?_⟩
      exact (List.eraseIdx_sublist ch.que.nodes i).mem hn

theorem nextSuperbufs_spec (env : LoopTurn) (s : CaptureChannel) :
    (∃ que frameNumForInstantCapture, (s.nextSuperbufs env).2 =
        { s with ch := { s.ch with que }, frameNumForInstantCapture } ∧
      ∀ node ∈ que.nodes, node ∈ s.ch.que.nodes) ∧
    (s.reqType = .superBuf → s.ch.isConfigCapture = true →
      ∀ nodes, (s.nextSuperbufs env).1 = some nodes →
        ∀ node ∈ nodes, s.ch.curCaptureFrameId ≤ node.frameIdx) := by
  unfold nextSuperbufs
  split
  next hsync =>
    refine ⟨?_, fun hreq => nomatch hsync.symm.trans hreq⟩
    split
    next => grind
    next frameIdx eachCamera _ =>
      obtain ⟨que, hque, hnodes⟩ := dequeueFrame_que frameIdx s.ch
      dsimp only
      rw [hque]
      split
      · exact ⟨que, s.frameNumForInstantCapture, rfl, hnodes⟩
      · exact ⟨_, s.frameNumForInstantCapture, rfl, hnodes⟩
  next =>
    rcases MmChannel.dequeueInternal_cases true s.ch with ⟨he, -⟩ | ⟨node, nodes, hq, -, he⟩
    · rw [he]
      grind
    · have hless : ∀ x ∈ nodes, x ∈ s.ch.que.nodes := by
        intro x hx
        rw [hq]
        exact List.mem_cons_of_mem node hx
      rw [he]
      dsimp only
      split
      next => exact ⟨⟨_, _, rfl, hless⟩, fun _ _ _ hno => nomatch hno⟩
      next hnewer =>
        have hsent : s.ch.isConfigCapture = true → ∀ sent, some [node] = some sent →
            ∀ x ∈ sent, s.ch.curCaptureFrameId ≤ x.frameIdx := by
          intro hconfig sent hsome x hx
          cases hsome
          cases List.mem_singleton.mp hx
          rw [hconfig, Bool.true_and] at hnewer
          exact UInt32.not_lt.mp (of_decide_eq_false (Bool.eq_false_iff.mpr hnewer))
        split
        · split
          · exact ⟨⟨_, _, rfl, hless⟩, fun _ _ _ hno => nomatch hno⟩
          · exact ⟨⟨_, _, rfl, hless⟩, fun _ => hsent⟩
        · exact ⟨⟨_, _, rfl, hless⟩, fun _ => hsent⟩

theorem quiet_countPending (s : CaptureChannel) : Quiet s s.countPending := by
  unfold countPending
  dsimp only
  split <;> exact ⟨⟨rfl, rfl, rfl, rfl, fun _ hn => hn⟩, rfl, rfl, rfl, rfl⟩

theorem Inv.announced (h : s.Inv) :
    s.announced[s.ch.curCaptureIdx.toNat]?.getD 0 = s.ch.curCaptureFrameId := by
  unfold MmChannel.curCaptureFrameId
  rw [← h.capture, List.getElem?_map]
  cases s.ch.captureFrameId[s.ch.curCaptureIdx.toNat]? <;> rfl

theorem countFrame_cases (s : CaptureChannel) :
    s.countFrame = s ∨ (∃ numFrames, s.countFrame = { s with numFrames }) ∨
      s.ch.isConfigCapture = true ∧ (s.framesOfBatch = 0 ∨ s.framesOfBatch = 1) ∧
        ∃ numFrames expectedFrameId, s.countFrame = { s with
          numFrames
          ch := { s.ch with curCaptureIdx := s.ch.curCaptureIdx + 1, expectedFrameId } } := by
  unfold countFrame
  split
  next hconfig =>
    dsimp only
    generalize hleft : (if s.framesOfBatch ≠ 0 then s.framesOfBatch - 1 else 0) = left
    grind
  next => exact Or.inl rfl

theorem Inv.countFrame (h : s.Inv)
    (hlast : s.ch.isConfigCapture = true → s.framesOfBatch = 0 ∨ s.framesOfBatch = 1 →
      s.ch.curCaptureIdx.toNat + 1 < maxCaptureBatchNum) :
    s.countFrame.Inv ∧ s.countFrame.sent = s.sent ∧ s.countFrame.ch.que = s.ch.que := by
  rcases s.countFrame_cases with he | ⟨numFrames, he⟩ | ⟨hconfig, hframes, numFrames, expected, he⟩
  · rw [he]
    exact ⟨h, rfl, rfl⟩
  · rw [he]
    exact ⟨⟨h.cur, h.capture, h.due, h.dueDiverted, h.diverted, h.width, h.sent⟩, rfl, rfl⟩
  · have hcur := hlast hconfig hframes
    rw [he]
    refine ⟨⟨?_, h.capture, h.due, h.dueDiverted, h.diverted, h.width, h.sent⟩, rfl, rfl⟩
    grind [maxCaptureBatchNum, UInt8.toNat_add, UInt8.toNat_one]

theorem Inv.turn (h : s.Inv) (env : LoopTurn) (keeps : KeepsNumbers s (.turn env)) :
    (s.turn env).Inv ∧ ∀ node ∈ (s.turn env).ch.que.nodes, node ∈ s.ch.que.nodes := by
  unfold CaptureChannel.turn
  split
  next hloop =>
    obtain ⟨hreq, hends⟩ := keeps hloop
    obtain ⟨⟨que, frames, hnext, hless⟩, hnewer⟩ := nextSuperbufs_spec env s
    have hquiet : Quiet s { s with ch := { s.ch with que }, frameNumForInstantCapture := frames } :=
      ⟨⟨rfl, rfl, rfl, rfl, hless⟩, rfl, rfl, rfl, rfl⟩
    have hisSome : ∀ nodes, (s.nextSuperbufs env).1 = some nodes →
        (s.nextSuperbufs env).1.isSome = true := fun nodes hn => by rw [hn]; rfl
    unfold endsBatch at hends
    generalize s.nextSuperbufs env = result at hnext hnewer hisSome hends
    obtain ⟨sent, t⟩ := result
    change t = _ at hnext
    cases hnext
    have hinv := h.quiet hquiet
    -- what is sent has the number announced for the batch
    have hsend : ∀ nodes u, sent = some nodes → Inv u → u.sent = s.sent →
        Inv (u.send s nodes) := by
      intro nodes u hnodes hu hsame
      unfold send
      split
      next hconfig =>
        refine ⟨hu.cur, hu.capture, hu.due, hu.dueDiverted, hu.diverted, hu.width, ?_⟩
        intro superbuf hmem
        rcases List.mem_append.mp hmem with hmem | hmem
        · exact hu.sent superbuf hmem
        grind [h.announced]
      next => exact hu
    have hsendNodes : ∀ nodes u, (send u s nodes).ch = u.ch := by
      intro nodes u
      unfold send
      split <;> rfl
    cases sent with
    | none =>
      exact ⟨⟨hinv.cur, hinv.capture, hinv.due, hinv.dueDiverted, hinv.diverted, hinv.width,
        hinv.sent⟩, hless⟩
    | some nodes =>
      dsimp only
      generalize hw : ({ s with ch := { s.ch with que }, frameNumForInstantCapture := frames } :
        CaptureChannel) = w at hinv hquiet
      split
      next hburst =>
        have hcount := (quiet_countPending w)
        have hconfig : w.countPending.ch.isConfigCapture = s.countPending.ch.isConfigCapture := by
          rw [← hw]
          unfold countPending
          dsimp only
          split <;> rfl
        have hframes : w.countPending.framesOfBatch = s.framesOfBatch := by
          rw [← hw]
          unfold countPending
          dsimp only
          split <;> rfl
        have hcounted := hinv.quiet hcount
        obtain ⟨hframe, hsent, hque⟩ := hcounted.countFrame fun hc hf => by
          rw [hcount.ch.cur, hquiet.ch.cur]
          grind
        refine ⟨hsend nodes _ rfl hframe ?_, fun node hn => ?_⟩
        · rw [hsent, hcount.sent, hquiet.sent]
        · rw [hsendNodes, hque] at hn
          exact hquiet.ch.nodes node (hcount.ch.nodes node hn)
      grind
  next =>
    exact ⟨⟨h.cur, h.capture, h.due, h.dueDiverted, h.diverted, h.width, h.sent⟩, fun _ hn => hn⟩

theorem Inv.step (h : s.Inv) {op : CaptureOp} (admits : s.Admits op) (keeps : s.KeepsNumbers op)
    (ht : s.step op = some t) : t.Inv ∧ Marks s t op := by
  cases op with
  | turn env =>
    change (if s.processing then some (s.turn env) else none) = some t at ht
    split at ht
    next =>
      cases Option.some.inj ht
      exact h.turn env keeps
    next => cases ht
  | message cmd =>
    change (if s.processing then none else s.processStreamBuf cmd) = some t at ht
    split at ht
    next => cases ht
    next =>
      obtain ⟨u, hu, hquiet⟩ := processStreamBuf_cases ht
      by_cases hdata : ∃ info alloc, cmd = .dataCb info alloc
      · obtain ⟨info, alloc, rfl⟩ := hdata
        obtain ⟨hinv, hmarks⟩ := h.receive admits keeps hu
        refine ⟨hinv.quiet hquiet, fun hawaited node hn => ?_, fun node hn he => ?_⟩
        · exact hmarks.marked hawaited node (hquiet.ch.nodes node hn)
        · rw [hquiet.diverted]
          exact hmarks.only node (hquiet.ch.nodes node hn) he
      · have hcmd : ∀ info alloc, cmd ≠ .dataCb info alloc :=
          fun info alloc he => hdata ⟨info, alloc, he⟩
        obtain ⟨hinv, hnodes⟩ := h.handleCmd hcmd hu
        have hall : ∀ node ∈ t.ch.que.nodes, node ∈ s.ch.que.nodes :=
          fun node hn => hnodes node (hquiet.ch.nodes node hn)
        refine ⟨hinv.quiet hquiet, ?_⟩
        cases cmd with
        | dataCb info alloc => exact absurd rfl (hcmd info alloc)
        | _ => exact hall

theorem inv_new (bundledStreams : List UInt32) (attr : MmCameraChannelAttr) (streams : List MmStream)
    (instantCaptureEnabled : Bool) (aecFrameBound : UInt8) :
    (new bundledStreams attr streams instantCaptureEnabled aecFrameBound).Inv where
  cur := by
    change (0 : UInt8).toNat < maxCaptureBatchNum
    decide
  capture := List.map_replicate
  due _ hmem := nomatch hmem
  dueDiverted _ hmem := nomatch hmem
  diverted hne := absurd rfl hne
  width _ hn := nomatch hn
  sent _ hmem := nomatch hmem

def metadataChannel : CaptureChannel :=
  new [1] ⟨.burst, 5, 5, 0, 3, .normal⟩ [⟨1, 1, true, true, some .metadata⟩] false 0

def metadataCb (frameIdx : UInt32) (addr : Nat) (metadata : MetadataBuffer) : CaptureOp :=
  .message (.dataCb ⟨1, frameIdx, ⟨addr, .metadata, some metadata⟩⟩ true)

/-- A batch of two frames. Frame 60 is queued, frame 61 announces a number for the batch, and a
superbuf is requested. -/
def batchOps (minFrameIdx : UInt32) : List CaptureOp :=
  [.message (.captureSetting (some ⟨1, 2 :: List.replicate 31 0, rfl⟩)), .turn {},
    metadataCb 60 1 {}, .turn {},
    metadataCb 61 2 { goodFrameIdxRange := some ⟨minFrameIdx, minFrameIdx, 0, 0, 0⟩ }, .turn {},
    .message (.reqDataCb 1 0 .superBuf), .turn {}]

end CaptureChannel

end DeviceHal.Camera
