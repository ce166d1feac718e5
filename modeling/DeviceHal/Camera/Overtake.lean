import DeviceHal.Camera.EnqueueParts

namespace DeviceHal.Camera

open Lib

section Search

variable {picks : MmChannelQueueNode → Bool} {frameIdx : UInt32}
  {nodes : List MmChannelQueueNode}

/-- Unmatched superbufs that the search passes over. -/
structure Passed (picks : MmChannelQueueNode → Bool) (frameIdx : UInt32)
    (less greater : List MmChannelQueueNode) : Prop where
  less : ∀ node ∈ less, node.isMatched = false ∧ picks node = false ∧ node.frameIdx < frameIdx
  greater : ∀ node ∈ greater,
    node.isMatched = false ∧ picks node = false ∧ node.frameIdx > frameIdx

theorem Passed.unmatched {less greater : List MmChannelQueueNode}
    (h : Passed picks frameIdx less greater) : ∀ node ∈ less ++ greater, node.isMatched = false := by
  intro node hn
  rcases List.mem_append.mp hn with hn | hn
  · exact (h.less node hn).1
  · exact (h.greater node hn).1

theorem passed_of_staged (hp : ∀ node, frameIdx = node.frameIdx → picks node = true)
    (hs : Staged MmChannelQueueNode.isMatched (fun node => node.frameIdx.toNat) nodes)
    (hm : ∀ node ∈ nodes, node.isMatched = false) (hnone : ∀ node ∈ nodes, picks node = false) :
    ∃ less greater, nodes = less ++ greater ∧ Passed picks frameIdx less greater := by
  obtain ⟨ready, less, greater, rfl, hready, hless, hgreater⟩ := hs.parts frameIdx.toNat
  have hnil : ready = [] := by
    cases ready with
    | nil => rfl
    | cons node ready =>
      have htrue := hready node List.mem_cons_self
      exact absurd (htrue.symm.trans (hm node (by simp))) (by simp)
  subst hnil
  refine ⟨less, greater, rfl, fun node hn => ?_, fun node hn => ?_⟩
  · have hlt := UInt32.lt_iff_toNat_lt.mpr (hless node hn).2
    exact ⟨(hless node hn).1, hnone node (by simp [hn]), hlt⟩
  · have hno := hnone node (by simp [hn])
    refine ⟨(hgreater node hn).1, hno, UInt32.lt_iff_toNat_lt.mpr ?_⟩
    have hne : frameIdx.toNat ≠ node.frameIdx.toNat := by
      intro he
      rw [hp node (UInt32.toNat_inj.mp he)] at hno
      cases hno
    exact lt_of_le_of_ne (hgreater node hn).2 hne

/-- What the search remembers after superbufs that it passes over. -/
def searchPassed (ready less greater : List MmChannelQueueNode) : Search where
  unmatchedBundles := UInt8.ofNat (less.length + greater.length)
  lastBuf := if less = [] then none else some ready.length
  insertBeforeBuf := if greater = [] then none else some (ready.length + less.length)

theorem searchNodes_passed {ready less greater rest : List MmChannelQueueNode}
    (hready : ∀ node ∈ ready, node.isMatched = true) (h : Passed picks frameIdx less greater) :
    searchNodes picks frameIdx 0 (ready ++ (less ++ greater) ++ rest) {} =
      searchNodes picks frameIdx (ready.length + (less ++ greater).length) rest
        (searchPassed ready less greater) := by
  rw [List.append_assoc, List.append_assoc, searchNodes_matched hready,
    searchNodes_less h.less, searchNodes_greater h.greater]
  congr 1
  · rw [List.length_append]
    omega
  · simp [searchPassed, UInt8.ofNat_add]

theorem searchNodes_any (hp : ∀ node, frameIdx = node.frameIdx → picks node = true)
    (hs : Staged MmChannelQueueNode.isMatched (fun node => node.frameIdx.toNat) nodes) :
    ∃ ready less greater, (∀ node ∈ ready, node.isMatched = true) ∧
      Passed picks frameIdx less greater ∧
      ((∃ node more, nodes = ready ++ (less ++ greater) ++ node :: more ∧
        node.isMatched = false ∧ (∀ x ∈ more, x.isMatched = false) ∧ picks node = true ∧
        searchNodes picks frameIdx 0 nodes {} = { searchPassed ready less greater with
          found := some (ready.length + (less ++ greater).length) }) ∨
      nodes = ready ++ (less ++ greater) ∧
        searchNodes picks frameIdx 0 nodes {} = searchPassed ready less greater) := by
  obtain ⟨ready, less, rest, rfl, hready, hless, hrest⟩ := hs.parts frameIdx.toNat
  have hpending : ∀ node ∈ less ++ rest, node.isMatched = false := by
    intro node hn
    rcases List.mem_append.mp hn with hn | hn
    · exact (hless node hn).1
    · exact (hrest node hn).1
  have hstaged : Staged MmChannelQueueNode.isMatched (fun node => node.frameIdx.toNat)
      (less ++ rest) := by
    refine hs.sublist ?_
    rw [List.append_assoc]
    exact List.sublist_append_right _ _
  cases hfind : (less ++ rest).find? picks with
  | none =>
    have hnone : ∀ node ∈ less ++ rest, picks node = false := fun node hn => by
      simpa using List.find?_eq_none.mp hfind node hn
    obtain ⟨less', greater, he, hpassed⟩ := passed_of_staged hp hstaged hpending hnone
    refine ⟨ready, less', greater, hready, hpassed, Or.inr ⟨?_, ?_⟩⟩
    · rw [List.append_assoc, he]
    · have hsearch := @searchNodes_passed picks frameIdx ready less' greater [] hready hpassed
      rw [List.append_nil, ← he, ← List.append_assoc, searchNodes] at hsearch
      exact hsearch
  | some node =>
    obtain ⟨hpick, older, more, hsplit, holder⟩ := List.find?_eq_some_iff_append.mp hfind
    rw [hsplit] at hstaged hpending
    have hnone : ∀ x ∈ older, picks x = false := fun x hx => by simpa using holder x hx
    obtain ⟨less', greater, rfl, hpassed⟩ := passed_of_staged hp
      (hstaged.sublist (List.sublist_append_left _ _))
      (fun x hx => hpending x (List.mem_append_left _ hx)) hnone
    have hm := hpending node (List.mem_append_right _ List.mem_cons_self)
    refine ⟨ready, less', greater, hready, hpassed, Or.inl ⟨node, more, ?_, hm, ?_, hpick, ?_⟩⟩
    · rw [List.append_assoc, hsplit, List.append_assoc ready]
    · grind
    · rw [List.append_assoc, hsplit, ← List.append_assoc, searchNodes_passed hready hpassed,
        searchNodes, hm, if_neg Bool.false_ne_true, if_pos hpick]

end Search

theorem evictLoop_range {maxUnmatched : UInt8} {insertBeforeBuf : Option Nat} {i e : Nat}
    {nodes : List MmChannelQueueNode} {unmatched left : UInt8}
    (h : evictLoop maxUnmatched insertBeforeBuf i nodes unmatched = some (some e, left)) :
    i ≤ e ∧ e < i + nodes.length := by
  induction nodes generalizing i with
  | nil => cases h
  | cons node nodes ih =>
    rw [List.length_cons]
    unfold evictLoop at h
    grind

namespace MmChannelQueueNode

/-- The buffer is the last one that the superbuf lacks. -/
def completedBy (node : MmChannelQueueNode) (bufSIdx : Nat) (info : MmCameraBufInfo) : Bool :=
  node.slotFrameIdx bufSIdx = 0 && (node.superBuf.set bufSIdx (some info)).all fun slot =>
    (slot.map MmCameraBufInfo.frameIdx).getD 0 ≠ 0

end MmChannelQueueNode

namespace MmChannel

variable {s t : MmChannel} {info : MmCameraBufInfo} {bufSIdx : Nat} {alloc : Bool}
  {ready less greater more : List MmChannelQueueNode} {node : MmChannelQueueNode}

def Lined (s : MmChannel) : Prop := s.que.Lined s.bundledStreams.length

/-- The buffer completes a superbuf while the first unmatched one is another, of a larger frame. -/
def Overtakes (info : MmCameraBufInfo) (bufSIdx : Nat) (s : MmChannel) : Prop :=
  let pending := s.que.nodes.filter fun node => !node.isMatched
  (∃ first ∈ pending.head?, info.frameIdx < first.frameIdx ∧ s.picks info bufSIdx first = false) ∧
    ∃ node ∈ pending.find? (s.picks info bufSIdx), node.completedBy bufSIdx info = true

theorem overtakes_iff (hq : s.que.nodes = ready ++ (less ++ greater) ++ node :: more)
    (hready : ∀ x ∈ ready, x.isMatched = true)
    (hpassed : Passed (s.picks info bufSIdx) info.frameIdx less greater)
    (hm : node.isMatched = false) (hmore : ∀ x ∈ more, x.isMatched = false)
    (hpick : s.picks info bufSIdx node = true) :
    s.Overtakes info bufSIdx ↔
      less = [] ∧ greater ≠ [] ∧ node.completedBy bufSIdx info = true := by
  have hpending : s.que.nodes.filter (fun x => !x.isMatched) = less ++ greater ++ node :: more := by
    rw [hq, List.append_assoc, List.filter_append, List.filter_eq_nil_iff.mpr fun x hx => by
      simp [hready x hx], List.nil_append, List.filter_eq_self.mpr fun x hx => ?_]
    rcases List.mem_append.mp hx with hx | hx
    · simp [hpassed.unmatched x hx]
    · grind
  have hfind : (less ++ greater ++ node :: more).find? (s.picks info bufSIdx) = some node := by
    refine List.find?_eq_some_iff_append.mpr ⟨hpick, less ++ greater, more, rfl, fun x hx => ?_⟩
    rcases List.mem_append.mp hx with hx | hx
    · simp [(hpassed.less x hx).2.1]
    · simp [(hpassed.greater x hx).2.1]
  unfold Overtakes
  rw [hpending]
  dsimp only
  rw [hfind]
  constructor
  · intro ⟨⟨first, hfirst, hlt, hno⟩, node', hn, hc⟩
    cases Option.some.inj hn
    refine ⟨?_, ?_, hc⟩
    · cases less with
      | nil => rfl
      | cons x less =>
        cases Option.some.inj hfirst
        exact absurd (UInt32.lt_trans hlt (hpassed.less first List.mem_cons_self).2.2)
          (UInt32.lt_irrefl _)
    · rintro rfl
      cases less with
      | nil =>
        grind
      | cons x less =>
        cases Option.some.inj hfirst
        exact absurd (UInt32.lt_trans hlt (hpassed.less first List.mem_cons_self).2.2)
          (UInt32.lt_irrefl _)
  · intro ⟨hless, hgreater, hc⟩
    subst hless
    refine ⟨?_, node, rfl, hc⟩
    cases greater with
    | nil => exact absurd rfl hgreater
    | cons x greater =>
      obtain ⟨-, hno, hgt⟩ := hpassed.greater x List.mem_cons_self
      exact ⟨x, rfl, hgt, hno⟩

theorem expectAfter_same (frameIdx : UInt32) :
    (s.expectAfter frameIdx).que = s.que ∧
      (s.expectAfter frameIdx).bundledStreams = s.bundledStreams := by
  unfold MmChannel.expectAfter
  split <;> exact ⟨rfl, rfl⟩

theorem enqueueFound_complete (h : s.Lined)
    (hq : s.que.nodes = ready ++ (less ++ greater) ++ node :: more)
    (hready : ∀ x ∈ ready, x.isMatched = true)
    (hunmatched : ∀ x ∈ less ++ greater, x.isMatched = false) (hm : node.isMatched = false)
    (hc : node.completedBy bufSIdx info = true) :
    let t := s.enqueueFound info bufSIdx (ready.length + (less ++ greater).length)
      (if less = [] then none else some ready.length) node
    (¬(less = [] ∧ greater ≠ []) → t.Lined) ∧
      (less = [] → t.que.matchCnt = t.que.nodes.countP MmChannelQueueNode.isMatched ∧
        ∃ done, done.isMatched = true ∧ t.que.nodes = ready ++ greater ++ done :: more) := by
  obtain ⟨hslot, hall⟩ := Bool.and_eq_true_iff.mp hc
  have hset : ∀ y, s.que.nodes.set (ready.length + (less ++ greater).length) y =
      ready ++ (less ++ greater) ++ y :: more := by
    intro y
    rw [hq, ← List.length_append, List.set_append_right _ _ (Nat.le_refl _), Nat.sub_self]
    rfl
  obtain ⟨hque, hstreams⟩ := @expectAfter_same s info.frameIdx
  unfold enqueueFound
  rw [if_neg (not_not.mpr (of_decide_eq_true hslot))]
  dsimp only
  rw [if_pos hall, hque, hset]
  refine ⟨fun hnot => ?_, fun hless => ?_⟩
  · have hlast : (if less = [] then none else some ready.length) =
        if less ++ greater = [] then none else some ready.length := by
      by_cases hnil : less = []
      · grind
      · rw [if_neg hnil, if_neg (by simp [hnil])]
    rw [hlast, releaseOlder_eq rfl]
    unfold Lined
    dsimp only
    rw [hstreams]
    exact SuperbufQue.Lined.complete h hq hready hunmatched hm rfl _ _
  · subst hless
    rw [if_pos rfl]
    refine ⟨?_, _, rfl, rfl⟩
    have hcount := SuperbufQue.Lined.matchCnt h
    rw [hq] at hcount
    change s.que.matchCnt + 1 = _
    simp only [List.countP_append, List.countP_cons, hm, Bool.false_eq_true, if_false] at hcount
    simp only [releaseOlder, List.countP_append, List.countP_cons, if_true]
    omega

theorem enqueueFound_fill (h : s.Lined)
    (hq : s.que.nodes = ready ++ (less ++ greater) ++ node :: more)
    (hc : node.completedBy bufSIdx info = false) (lastBuf : Option Nat) :
    (s.enqueueFound info bufSIdx (ready.length + (less ++ greater).length) lastBuf node).Lined := by
  have hset : ∀ y, s.que.nodes.set (ready.length + (less ++ greater).length) y =
      ready ++ (less ++ greater) ++ y :: more := by
    intro y
    rw [hq, ← List.length_append, List.set_append_right _ _ (Nat.le_refl _), Nat.sub_self]
    rfl
  unfold enqueueFound
  by_cases hslot : node.slotFrameIdx bufSIdx = 0
  · have hall : ((node.superBuf.set bufSIdx (some info)).all fun slot =>
        (slot.map MmCameraBufInfo.frameIdx).getD 0 ≠ 0) = false := by
      unfold MmChannelQueueNode.completedBy at hc
      rw [decide_eq_true hslot, Bool.true_and] at hc
      exact hc
    rw [if_neg (not_not.mpr hslot)]
    dsimp only
    rw [if_neg (by rw [hall]; exact Bool.false_ne_true)]
    split
    next =>
      rw [hset]
      exact SuperbufQue.Lined.fill h hq rfl rfl
    next =>
      rw [hset]
      exact SuperbufQue.Lined.fill h hq rfl rfl
  · rw [if_pos hslot]
    exact ⟨h.matchCnt, h.staged, h.single⟩

theorem Lined.evict (h : s.Lined) {e : Nat} (he : s.que.nodes[e]? = some node)
    (hm : node.isMatched = false) : (s.evict (some e)).Lined := by
  unfold Lined
  rw [evict_que he]
  have herase := SuperbufQue.Lined.eraseIdx h he
  rw [hm, if_neg Bool.false_ne_true] at herase
  exact ⟨herase.matchCnt, herase.staged, herase.single⟩

theorem Lined.insertNew (h : s.Lined) {l r : List MmChannelQueueNode}
    {insertBeforeBuf : Option Nat} (hq : s.que.nodes = l ++ r)
    (hl : ∀ a ∈ l, a.isMatched = false → a.frameIdx < info.frameIdx)
    (hr : ∀ b ∈ r, b.isMatched = false ∧ info.frameIdx < b.frameIdx)
    (hpos : insertBeforeBuf = some l.length ∨ insertBeforeBuf = none ∧ r = []) :
    (s.insertNew info bufSIdx insertBeforeBuf).Lined := by
  unfold Lined
  rw [insertNew_que hq hpos]
  exact SuperbufQue.Lined.inserted h hq hl hr rfl

theorem removed_range {maxUnmatched : UInt8} {nodes : List MmChannelQueueNode}
    {removed : Option Nat} {unmatched : UInt8} (hless : less ≠ [] → ready.length < nodes.length)
    (h : removeUnmatched maxUnmatched (searchPassed ready less greater) nodes =
      some (removed, unmatched)) :
    ∀ e ∈ (if maxUnmatched < unmatched then (searchPassed ready less greater).lastBuf
      else removed), ready.length ≤ e ∧ e < nodes.length := by
  intro e he
  unfold removeUnmatched searchPassed at h
  unfold searchPassed at he
  dsimp only at h he
  by_cases hnil : less = []
  · grind
  · rw [if_neg hnil] at h he
    dsimp only at h
    have hlen := hless hnil
    split at he
    next =>
      cases Option.some.inj he
      exact ⟨Nat.le_refl _, hlen⟩
    next =>
      cases removed with
      | none => cases he
      | some removed =>
        cases Option.some.inj he
        obtain ⟨hle, hlt⟩ := evictLoop_range h
        rw [List.length_drop] at hlt
        omega

/-- A new superbuf goes between the smaller and the larger frames, after the removal of an unmatched
superbuf if there are too many. -/
theorem enqueueNew_cases (hq : s.que.nodes = ready ++ (less ++ greater))
    (hunmatched : ∀ x ∈ less ++ greater, x.isMatched = false)
    (ht : s.enqueueNew info bufSIdx alloc (searchPassed ready less greater) = some t) :
    t = s.mmChannelQbuf info.buf ∨
      ∃ removed l r, (∀ e ∈ removed, ∃ node, s.que.nodes[e]? = some node ∧ node.isMatched = false) ∧
        (s.evict removed).que.nodes = l ++ r ∧ l.Sublist (ready ++ less) ∧ r.Sublist greater ∧
        (t = (s.evict removed).mmChannelQbuf info.buf ∨
          ∃ insertBeforeBuf, (insertBeforeBuf = some l.length ∨ insertBeforeBuf = none ∧ r = []) ∧
            t = (s.evict removed).insertNew info bufSIdx insertBeforeBuf) := by
  have hpos : (searchPassed ready less greater).insertBeforeBuf = some (ready ++ less).length ∨
      (searchPassed ready less greater).insertBeforeBuf = none ∧ greater = [] := by
    unfold searchPassed
    dsimp only
    by_cases hnil : greater = []
    · exact Or.inr ⟨if_pos hnil, hnil⟩
    · rw [if_neg hnil, List.length_append]
      exact Or.inl rfl
  rw [← List.append_assoc] at hq
  unfold MmChannel.enqueueNew at ht
  dsimp only at ht
  split at ht
  next =>
    cases ht
    exact Or.inl rfl
  next =>
    split at ht
    next => cases ht
    next removed unmatched hremoved =>
      have hrange := removed_range (by
        intro hne
        have hlen := List.length_pos_iff.mpr hne
        rw [hq]
        simp only [List.length_append]
        omega) hremoved
      generalize hevicted : (if s.attr.maxUnmatchedFrames < unmatched then
        (searchPassed ready less greater).lastBuf else removed) = evicted at hrange ht
      -- the place of the new superbuf, in the list without the removed one
      have hparts : (∀ e ∈ evicted, ∃ node, s.que.nodes[e]? = some node ∧
          node.isMatched = false) ∧ ∃ l r, (s.evict evicted).que.nodes = l ++ r ∧
          l.Sublist (ready ++ less) ∧ r.Sublist greater ∧
          ((searchPassed ready less greater).insertBeforeBuf.map (shiftPosition evicted) =
              some l.length ∨
            (searchPassed ready less greater).insertBeforeBuf.map (shiftPosition evicted) = none ∧
              r = []) := by
        cases evicted with
        | none =>
          refine ⟨fun e he => absurd he (Option.not_mem_none e), ready ++ less, greater, hq,
            List.Sublist.refl _, List.Sublist.refl _, ?_⟩
          have hshift : shiftPosition none = id := rfl
          rw [hshift, Option.map_id, id_eq]
          exact hpos
        | some e =>
          obtain ⟨hge, hlt⟩ := hrange e rfl
          have he := List.getElem?_eq_getElem hlt
          have hm : s.que.nodes[e].isMatched = false := by
            have hmem : s.que.nodes[e] ∈ s.que.nodes.drop ready.length :=
              List.mem_drop_iff_getElem.mpr ⟨e - ready.length, by omega, by
                congr 1
                omega⟩
            have hdrop : s.que.nodes.drop ready.length = less ++ greater := by
              rw [hq, List.append_assoc, List.drop_left]
            rw [hdrop] at hmem
            exact hunmatched _ hmem
          obtain ⟨l, r, hsplit, hshift, hsubl, hsubr⟩ := eraseIdx_split (ready ++ less) greater e
          refine ⟨fun e' he' => ?_, l, r, ?_, hsubl, hsubr, ?_⟩
          · cases he'
            exact ⟨_, he, hm⟩
          · simpa [evict_que he, hq] using hsplit
          · rcases hpos with hsome | ⟨hnone, hnil⟩
            · rw [hsome]
              exact Or.inl (congrArg some hshift)
            · grind
      obtain ⟨hunmatchedOut, l, r, hnodes, hsubl, hsubr, hplace⟩ := hparts
      refine Or.inr ⟨evicted, l, r, hunmatchedOut, hnodes, hsubl, hsubr, ?_⟩
      split at ht
      next =>
        cases ht
        exact Or.inr ⟨_, hplace, rfl⟩
      next =>
        cases ht
        exact Or.inl rfl

theorem Lined.enqueueNew (h : s.Lined) (hq : s.que.nodes = ready ++ (less ++ greater))
    (hready : ∀ x ∈ ready, x.isMatched = true)
    (hpassed : Passed (s.picks info bufSIdx) info.frameIdx less greater)
    (ht : s.enqueueNew info bufSIdx alloc (searchPassed ready less greater) = some t) :
    t.Lined := by
  rcases enqueueNew_cases hq hpassed.unmatched ht with rfl | ⟨removed, l, r, hremoved, hnodes, hsubl,
    hsubr, hdone⟩
  · exact ⟨h.matchCnt, h.staged, h.single⟩
  · have hlined : (s.evict removed).Lined := by
      cases removed with
      | none => exact h
      | some e =>
        obtain ⟨node, he, hm⟩ := hremoved e rfl
        exact h.evict he hm
    rcases hdone with rfl | ⟨insertBeforeBuf, hplace, rfl⟩
    · exact ⟨hlined.matchCnt, hlined.staged, hlined.single⟩
    · refine hlined.insertNew hnodes (fun a ha hf => ?_) (fun b hb => ?_) hplace
      · rcases List.mem_append.mp (hsubl.mem ha) with ha | ha
        · exact absurd ((hready a ha).symm.trans hf) (by simp)
        · exact (hpassed.less a ha).2.2
      · have hgreater := hpassed.greater b (hsubr.mem hb)
        exact ⟨hgreater.1, hgreater.2.2⟩

end MmChannel

end DeviceHal.Camera
