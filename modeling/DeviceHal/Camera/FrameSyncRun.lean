import DeviceHal.Camera.FrameSync
import DeviceHal.Lib.Run
import Mathlib.Data.Set.Card

namespace DeviceHal.Camera

open Lib

namespace FrameSync

variable {fs t : FrameSync} {ch : Nat} {frameId : UInt32}

/-- A node is matched when every registered channel has added its frame. -/
structure Synced (fs : FrameSync) : Prop where
  used : ∀ k, (fs.node k).matched = true → (fs.node k).frameIdx ≠ 0
  matched : ∀ k, (fs.node k).frameIdx ≠ 0 →
    ((fs.node k).matched = true ↔ fs.AllAdded (fs.node k).frameIdx)
  unique : ∀ k k', (fs.node k).frameIdx ≠ 0 → (fs.node k).frameIdx = (fs.node k').frameIdx → k = k'
  numCam : {ch | fs.Registered ch}.ncard = fs.numCam
  smallest : SmallestMatched (fs.mmFrameSyncFindMatched true)
    ((List.finRange mmCameraFrameSyncNodes).map fs.node)

/-- A channel has one slot, and the frames it added are marked there. -/
structure SyncInv (fs : FrameSync) : Prop where
  count : fs.usedSlots = fs.numCam
  slot : ∀ i j ch, fs.chObj i = some ch → fs.chObj j = some ch → i = j
  used : ∀ k, (fs.node k).matched = true → (fs.node k).frameIdx ≠ 0
  unique : ∀ k k', (fs.node k).frameIdx ≠ 0 → (fs.node k).frameIdx = (fs.node k').frameIdx → k = k'
  valid : ∀ k i ch, (fs.node k).frameIdx ≠ 0 → fs.chObj i = some ch →
    AddedSince ch (fs.node k).frameIdx fs.log → (fs.node k).frameValid i = true
  matched : ∀ k, (fs.node k).frameIdx ≠ 0 →
    ((fs.node k).matched = true ↔ fs.AllAdded (fs.node k).frameIdx)

theorem SyncInv.ncard (h : fs.SyncInv) : {ch | fs.Registered ch}.ncard = fs.numCam := by
  have hset : {ch | fs.Registered ch} = {ch | fs.chObj 0 = some ch ∨ fs.chObj (other 0) = some ch} := by
    ext ch
    constructor
    · rintro ⟨i, hi⟩
      rcases eq_or_other 0 i with rfl | rfl
      · exact Or.inl hi
      · exact Or.inr hi
    · rintro (h0 | h1)
      · exact ⟨0, h0⟩
      · exact ⟨other 0, h1⟩
  have hcount := fs.usedSlots_eq 0
  rw [h.count] at hcount
  have hslot := h.slot 0 (other 0)
  rw [hset, hcount]
  cases h0 : fs.chObj 0 with
  | none =>
    cases h1 : fs.chObj (other 0) with
    | none => simp
    | some b => simp
  | some a =>
    cases h1 : fs.chObj (other 0) with
    | none => simp
    | some b =>
      have hab : a ≠ b := fun he => absurd (hslot a h0 (he ▸ h1)) (ne_other 0).symm
      have hpair : {ch | some a = some ch ∨ some b = some ch} = ({a, b} : Set Nat) := by
        ext ch
        simp [eq_comm]
      rw [hpair, Set.ncard_pair hab]
      rfl

theorem SyncInv.synced (h : fs.SyncInv) : fs.Synced := by
  refine ⟨h.used, h.matched, h.unique, h.ncard, findMatchedLoop_smallest fun n hn => ?_⟩
  obtain ⟨k, -, rfl⟩ := List.mem_map.mp hn
  exact h.used k

/-- The call keeps matched nodes right. A channel registers once, and not beside another one while
a node is matched. One that leaves has added what the other added. An add finds no mark of a channel
that is gone. -/
def StaysInSync (fs : FrameSync) : SyncOp → Prop
  | .register chObj => ∀ ch, chObj = some ch → fs.numCam < maxNumCameraPerBundle →
      ¬fs.Registered ch ∧ (fs.numCam ≠ 0 → ∀ k, (fs.node k).matched = false)
  | .unregister chObj => ∀ ch, chObj = some ch → fs.Registered ch → ∀ ch', fs.Registered ch' →
      ch' ≠ ch → ∀ k, (fs.node k).frameIdx ≠ 0 → AddedSince ch' (fs.node k).frameIdx fs.log →
      (fs.node k).matched = true
  | .add frameId chObj => ∀ ch, chObj = some ch → frameId ≠ 0 → ∀ i, fs.chObj i = some ch →
      ∀ k, (fs.node k).frameIdx = frameId → (fs.node k).matched = false →
      (fs.node k).frameValid (other i) = true →
      ∃ ch', fs.chObj (other i) = some ch' ∧ AddedSince ch' frameId fs.log
  | .remove _ => True

theorem allAdded_slots (fs : FrameSync) (frameId : UInt32) (i : Fin maxNumCameraPerBundle) :
    fs.AllAdded frameId ↔ (∀ ch, fs.chObj i = some ch → AddedSince ch frameId fs.log) ∧
      ∀ ch, fs.chObj (other i) = some ch → AddedSince ch frameId fs.log := by
  constructor
  · intro h
    exact ⟨fun ch hi => h ch ⟨i, hi⟩, fun ch hi => h ch ⟨other i, hi⟩⟩
  · rintro ⟨hi, ho⟩ ch ⟨j, hj⟩
    rcases eq_or_other i j with rfl | rfl
    · exact hi ch hj
    · exact ho ch hj

theorem SyncInv.of_empty (hcount : t.usedSlots = t.numCam)
    (hslot : ∀ i j ch, t.chObj i = some ch → t.chObj j = some ch → i = j)
    (hnode : t.node = fun _ => {}) : t.SyncInv := by
  refine ⟨hcount, hslot, fun k hk => ?_, fun k k' hk => ?_, fun k i ch hk => ?_, fun k hk => ?_⟩
  · rw [hnode] at hk
    cases hk
  all_goals
    rw [hnode] at hk
    exact absurd rfl hk

theorem slot_update {i : Fin maxNumCameraPerBundle} (hnew : ¬fs.Registered ch)
    (h : ∀ i j ch, fs.chObj i = some ch → fs.chObj j = some ch → i = j)
    (hchObj : t.chObj = Function.update fs.chObj i (some ch)) :
    ∀ j k ch', t.chObj j = some ch' → t.chObj k = some ch' → j = k := by
  intro j k ch' hj hk
  rw [hchObj] at hj hk
  by_cases hji : j = i
  · by_cases hki : k = i
    · rw [hji, hki]
    · rw [hji, Function.update_self] at hj
      rw [Function.update_of_ne hki] at hk
      exact absurd ⟨k, hk.trans hj.symm⟩ hnew
  · rw [Function.update_of_ne hji] at hj
    by_cases hki : k = i
    · rw [hki, Function.update_self] at hk
      exact absurd ⟨j, hj.trans hk.symm⟩ hnew
    · rw [Function.update_of_ne hki] at hk
      exact h j k ch' hj hk

variable {chObj : Option Nat}

theorem usedSlots_update {i : Fin maxNumCameraPerBundle}
    (hchObj : t.chObj = Function.update fs.chObj i chObj) :
    t.usedSlots = chObj.isSome.toNat + (fs.chObj (other i)).isSome.toNat := by
  rw [usedSlots_eq t i, hchObj, Function.update_self, Function.update_of_ne (ne_other i)]

theorem SyncInv.register (h : fs.SyncInv) (hgood : StaysInSync fs (.register chObj)) :
    (fs.mmFrameSyncRegisterChannel chObj).2.SyncInv := by
  cases chObj with
  | none => exact h
  | some ch =>
    rcases register_cases h.count ch rfl with ⟨heq, -⟩ |
      ⟨hroom, i, hi, hchObj, hnum, hlog, hnode⟩
    · rw [heq]
      exact h
    obtain ⟨hnew, hnone⟩ := hgood ch rfl hroom
    generalize (fs.mmFrameSyncRegisterChannel (some ch)).2 = t at *
    have hcount : t.usedSlots = t.numCam := by
      have hbefore := fs.usedSlots_eq i
      rw [usedSlots_update hchObj, hnum, ← h.count, hbefore, hi]
      simp [Nat.add_comm]
    have hslot := slot_update hnew h.slot hchObj
    rcases hnode with ⟨-, hnode⟩ | ⟨hzero, hnode⟩
    · exact SyncInv.of_empty hcount hslot hnode
    refine ⟨hcount, hslot, by rw [hnode]; exact h.used, by rw [hnode]; exact h.unique,
      fun k j ch' hk hj hadded => ?_, fun k hk => ?_⟩
    · rw [hnode] at hk hadded ⊢
      rw [hlog, addedSince_registered] at hadded
      rw [hchObj] at hj
      by_cases hji : j = i
      · grind
      · rw [Function.update_of_ne hji] at hj
        exact h.valid k j ch' hk hj hadded.2
    · rw [hnode, hnone hzero k]
      refine iff_of_false Bool.false_ne_true fun hall => ?_
      have hadded := hall ch ⟨i, by rw [hchObj, Function.update_self]⟩
      rw [hlog, addedSince_registered] at hadded
      exact hadded.1 rfl

theorem SyncInv.register_breaks (h : fs.SyncInv) (hbad : ¬StaysInSync fs (.register chObj)) :
    ¬(fs.mmFrameSyncRegisterChannel chObj).2.Synced := by
  intro hsynced
  refine hbad fun ch hch hroom => ?_
  subst hch
  rcases register_cases h.count ch rfl with ⟨-, hfull⟩ | ⟨-, i, hi, hchObj, hnum, hlog, hnode⟩
  · exact absurd hroom (Nat.not_lt.mpr hfull)
  generalize (fs.mmFrameSyncRegisterChannel (some ch)).2 = t at *
  have hnew : ¬fs.Registered ch := by
    intro hreg
    -- the channel gets a second slot, and the count is one too high
    have hsame : {c | t.Registered c} = {c | fs.Registered c} := by
      ext c
      constructor
      · rintro ⟨j, hj⟩
        rw [hchObj] at hj
        by_cases hji : j = i
        · grind
        · rw [Function.update_of_ne hji] at hj
          exact ⟨j, hj⟩
      · rintro ⟨j, hj⟩
        have hji : j ≠ i := by
          rintro rfl
          rw [hi] at hj
          cases hj
        exact ⟨j, by rw [hchObj, Function.update_of_ne hji]; exact hj⟩
    have hnum' := hsynced.numCam
    rw [hsame, h.ncard, hnum] at hnum'
    omega
  refine ⟨hnew, fun hzero k => ?_⟩
  rcases hnode with ⟨hzero', -⟩ | ⟨-, hnode⟩
  · exact absurd hzero' hzero
  refine Bool.eq_false_iff.mpr fun hmatched => ?_
  have hk := h.used k hmatched
  rw [← hnode] at hmatched hk
  have hadded := (hsynced.matched k hk).mp hmatched ch ⟨i, by rw [hchObj, Function.update_self]⟩
  rw [hlog, addedSince_registered] at hadded
  exact hadded.1 rfl

theorem SyncInv.unregister (h : fs.SyncInv) (hgood : StaysInSync fs (.unregister chObj)) :
    (fs.mmFrameSyncUnregisterChannel chObj).2.SyncInv := by
  cases chObj with
  | none =>
    grind [mmFrameSyncUnregisterChannel]
  | some ch =>
    rcases unregister_cases h.count ch rfl with ⟨heq, -⟩ | ⟨i, hi, hchObj, hnum, hlog, hnode⟩
    · rw [heq]
      exact h
    have hleft := hgood ch rfl ⟨i, hi⟩
    generalize (fs.mmFrameSyncUnregisterChannel (some ch)).2 = t at *
    have hbefore := fs.usedSlots_eq i
    rw [h.count, hi] at hbefore
    have hcount : t.usedSlots = t.numCam := by
      rw [usedSlots_update hchObj, hnum, hbefore]
      simp
    have hkept : ∀ j ch', t.chObj j = some ch' → fs.chObj j = some ch' ∧ j ≠ i := by
      intro j ch' hj
      rw [hchObj] at hj
      by_cases hji : j = i
      · rw [hji, Function.update_self] at hj
        cases hj
      · rw [Function.update_of_ne hji] at hj
        exact ⟨hj, hji⟩
    have hslot : ∀ j k ch', t.chObj j = some ch' → t.chObj k = some ch' → j = k :=
      fun j k ch' hj hk => h.slot j k ch' (hkept j ch' hj).1 (hkept k ch' hk).1
    rcases hnode with ⟨-, hnode⟩ | ⟨hone, hnode⟩
    · exact SyncInv.of_empty hcount hslot hnode
    refine ⟨hcount, hslot, by rw [hnode]; exact h.used, by rw [hnode]; exact h.unique,
      fun k j ch' hk hj hadded => ?_, fun k hk => ?_⟩
    · rw [hnode] at hk hadded ⊢
      rw [hlog] at hadded
      exact h.valid k j ch' hk (hkept j ch' hj).1 hadded
    · rw [hnode] at hk ⊢
      constructor
      · rintro hmatched ch' ⟨j, hj⟩
        rw [hlog]
        exact (h.matched k hk).mp hmatched ch' ⟨j, (hkept j ch' hj).1⟩
      · intro hall
        -- the other slot is taken
        cases ho : fs.chObj (other i) with
        | none =>
          rw [ho] at hbefore
          exact absurd hbefore hone
        | some ch' =>
          have hne : ch' ≠ ch := by
            rintro rfl
            exact ne_other i (h.slot _ _ _ ho hi)
          have hstays : t.Registered ch' :=
            ⟨other i, by rw [hchObj, Function.update_of_ne (ne_other i), ho]⟩
          have hadded := hall ch' hstays
          rw [hlog] at hadded
          exact hleft ch' ⟨other i, ho⟩ hne k hk hadded

theorem SyncInv.unregister_breaks (h : fs.SyncInv) (hbad : ¬StaysInSync fs (.unregister chObj)) :
    ¬(fs.mmFrameSyncUnregisterChannel chObj).2.Synced := by
  intro hsynced
  refine hbad fun ch hch hreg ch' hreg' hne k hk hadded => ?_
  subst hch
  rcases unregister_cases h.count ch rfl with ⟨-, hnot⟩ | ⟨i, hi, hchObj, -, hlog, hnode⟩
  · exact absurd hreg hnot
  generalize (fs.mmFrameSyncUnregisterChannel (some ch)).2 = t at *
  obtain ⟨j, hj⟩ := hreg'
  have hother : j = other i := by
    refine (eq_or_other i j).resolve_left fun he => hne ?_
    rw [he, hi] at hj
    exact (Option.some.inj hj).symm
  have hsame : t.node = fs.node := by
    rcases hnode with ⟨hone, -⟩ | ⟨-, hsame⟩
    · have hcount := fs.usedSlots_eq i
      rw [h.count, hone, hi, ← hother, hj] at hcount
      simp at hcount
    · exact hsame
  rw [← hsame] at hk hadded ⊢
  refine (hsynced.matched k hk).mpr fun c hc => ?_
  obtain ⟨l, hl⟩ := hc
  rw [hchObj] at hl
  have hlast : l = other i := by
    refine (eq_or_other i l).resolve_left fun he => ?_
    rw [he, Function.update_self] at hl
    cases hl
  grind

section Add

variable {i : Fin maxNumCameraPerBundle} {k : Fin mmCameraFrameSyncNodes} {n : SyncNode}

theorem AddStep.others (ha : AddStep frameId ch i k n fs t) (h : fs.SyncInv)
    {l : Fin mmCameraFrameSyncNodes} (hl : l ≠ k) :
    t.node l = fs.node l ∧ (fs.node l).frameIdx ≠ frameId := by
  refine ⟨by rw [ha.node, Function.update_of_ne hl], fun he => ?_⟩
  rcases ha.source with ⟨rfl, -⟩ | ⟨-, -, hnone⟩
  · refine hl (h.unique l k ?_ (he.trans ha.frameIdx.symm))
    rw [he]
    exact ha.nonzero
  · exact hnone l he

theorem AddStep.self (ha : AddStep frameId ch i k n fs t) :
    t.node k = withFrame fs.numCam i n ∧ (t.node k).frameIdx = frameId := by
  rw [ha.node, Function.update_self]
  exact ⟨rfl, ha.frameIdx⟩

theorem AddStep.added_other (ha : AddStep frameId ch i k n fs t) {c : Nat} {id : UInt32}
    (hid : id ≠ frameId) : AddedSince c id t.log ↔ AddedSince c id fs.log := by
  rcases ha.source with ⟨-, hlog⟩ | ⟨-, hlog, -⟩
  · rw [hlog, addedSince_added]
    simp [hid.symm]
  · rw [hlog, addedSince_added, addedSince_created]
    simp [hid.symm]

theorem AddStep.added_self (ha : AddStep frameId ch i k n fs t) (c : Nat) :
    AddedSince c frameId t.log ↔
      c = ch ∨ n = fs.node k ∧ AddedSince c frameId fs.log := by
  rcases ha.source with ⟨hn, hlog⟩ | ⟨hn, hlog, hnone⟩
  · rw [hlog, addedSince_added]
    simp [hn, eq_comm]
  · have hother : n ≠ fs.node k := by
      rintro he
      exact hnone k (he ▸ ha.frameIdx)
    rw [hlog, addedSince_added, addedSince_created]
    simp [hother, eq_comm]

theorem AddStep.allAdded (ha : AddStep frameId ch i k n fs t) (h : fs.SyncInv) :
    t.AllAdded frameId ↔ ∀ c, fs.chObj (other i) = some c →
      n = fs.node k ∧ AddedSince c frameId fs.log := by
  rw [allAdded_slots t frameId i, ha.chObj]
  constructor
  · rintro ⟨-, hall⟩ c hc
    refine ((ha.added_self c).mp (hall c hc)).resolve_left fun he => ?_
    exact ne_other i (h.slot _ _ _ hc (he ▸ ha.slot))
  · intro hall
    refine ⟨fun c hc => (ha.added_self c).mpr (Or.inl ?_), fun c hc => ?_⟩
    · rw [ha.slot] at hc
      exact (Option.some.inj hc).symm
    · exact (ha.added_self c).mpr (Or.inr (hall c hc))

theorem AddStep.matched (ha : AddStep frameId ch i k n fs t) (h : fs.SyncInv)
    (hn : n.matched = false) :
    (t.node k).matched = true ↔ n.frameValid (other i) = (fs.chObj (other i)).isSome := by
  have hcount := fs.usedSlots_eq i
  rw [h.count, ha.slot] at hcount
  rw [ha.self.1, withFrame_matched, hn, hcount]
  cases n.frameValid (other i) <;> cases fs.chObj (other i) <;> simp

theorem SyncInv.add (h : fs.SyncInv) {chObj : Option Nat}
    (hgood : StaysInSync fs (.add frameId chObj)) :
    (fs.mmFrameSyncAdd frameId chObj).2.SyncInv := by
  cases chObj with
  | none =>
    grind [mmFrameSyncAdd]
  | some ch =>
    rcases add_cases frameId ch fs with ⟨heq, -⟩ | ⟨i, k, n, ha⟩
    · rw [heq]
      exact h
    generalize (fs.mmFrameSyncAdd frameId (some ch)).2 = t at *
    have hidx : ∀ l, (t.node l).frameIdx = frameId → l = k := by
      intro l hl
      refine Classical.byContradiction fun hne => ?_
      rw [(ha.others h hne).1] at hl
      exact (ha.others h hne).2 hl
    refine ⟨?_, by rw [ha.chObj]; exact h.slot, fun l hl => ?_, fun l l' hl he => ?_,
      fun l j c hl hj hadded => ?_, fun l hl => ?_⟩
    · unfold usedSlots
      rw [ha.chObj, ha.numCam]
      exact h.count
    · by_cases hlk : l = k
      · rw [hlk, ha.self.2]
        exact ha.nonzero
      · rw [(ha.others h hlk).1] at hl ⊢
        exact h.used l hl
    · by_cases hlk : l = k
      · rw [hlk, ha.self.2] at he
        rw [hlk, hidx l' he.symm]
      · by_cases hlk' : l' = k
        · rw [hlk', ha.self.2] at he
          exact absurd (hidx l he) hlk
        · rw [(ha.others h hlk).1] at hl he
          rw [(ha.others h hlk').1] at he
          exact h.unique l l' hl he
    · rw [ha.chObj] at hj
      by_cases hlk : l = k
      · subst hlk
        rw [ha.self.2, ha.added_self] at hadded
        rw [ha.self.1]
        unfold withFrame
        by_cases hji : j = i
        · rw [hji]
          exact Function.update_self ..
        · refine (Function.update_of_ne hji ..).trans ?_
          rcases hadded with rfl | ⟨hn, hadded⟩
          · exact absurd (h.slot j i c hj ha.slot) hji
          · rw [hn]
            have hid : (fs.node l).frameIdx = frameId := hn ▸ ha.frameIdx
            exact h.valid l j c (by rw [hid]; exact ha.nonzero) hj (by rw [hid]; exact hadded)
      · obtain ⟨hsame, hid⟩ := ha.others h hlk
        rw [hsame] at hl hadded ⊢
        exact h.valid l j c hl hj ((ha.added_other hid).mp hadded)
    · by_cases hlk : l = k
      · subst hlk
        rw [ha.self.2, ha.allAdded h]
        cases hn : n.matched with
        | true =>
          -- all channels have added the frame before
          have hsource : n = fs.node l := by
            rcases ha.source with ⟨hsame, -⟩ | ⟨hnew, -⟩
            · exact hsame
            · rw [hnew] at hn
              cases hn
          have hid : (fs.node l).frameIdx = frameId := hsource ▸ ha.frameIdx
          have hall := (h.matched l (by rw [hid]; exact ha.nonzero)).mp (hsource ▸ hn)
          rw [hid] at hall
          refine iff_of_true ?_ fun c hc => ⟨hsource, hall c ⟨_, hc⟩⟩
          rw [ha.self.1, withFrame_matched]
          exact Or.inl hn
        | false =>
          rw [ha.matched h hn]
          rcases ha.source with ⟨hsource, -⟩ | ⟨hnew, -, hnone⟩
          · have hid : (fs.node l).frameIdx = frameId := hsource ▸ ha.frameIdx
            have hmark := hgood ch rfl ha.nonzero i ha.slot l hid (hsource ▸ hn)
            constructor
            · grind
            · intro hall
              rw [hsource]
              cases ho : fs.chObj (other i) with
              | none =>
                grind
              | some c =>
                refine h.valid l (other i) c (by rw [hid]; exact ha.nonzero) ho ?_
                rw [hid]
                exact (hall c ho).2
          · have hother : n ≠ fs.node l := fun he => hnone l (he ▸ ha.frameIdx)
            rw [hnew]
            cases ho : fs.chObj (other i) with
            | none => simp
            | some c => simpa using fun he => absurd (hnew.trans he) hother
      · obtain ⟨hsame, hid⟩ := ha.others h hlk
        rw [hsame] at hl ⊢
        rw [h.matched l hl]
        unfold AllAdded Registered
        rw [ha.chObj]
        simp only [ha.added_other hid]

theorem SyncInv.add_breaks (h : fs.SyncInv) {chObj : Option Nat}
    (hbad : ¬StaysInSync fs (.add frameId chObj)) :
    ¬(fs.mmFrameSyncAdd frameId chObj).2.Synced := by
  intro hsynced
  refine hbad fun ch hch hzero i hi k hk hn hvalid => ?_
  subst hch
  rcases add_cases frameId ch fs with ⟨-, hno⟩ | ⟨i', k', n, ha⟩
  · exact absurd ⟨i, hi⟩ (hno.resolve_left hzero)
  generalize (fs.mmFrameSyncAdd frameId (some ch)).2 = t at *
  have hslot : i' = i := h.slot i' i ch ha.slot hi
  subst hslot
  have hsource : n = fs.node k' := by
    rcases ha.source with ⟨hsame, -⟩ | ⟨-, -, hnone⟩
    · exact hsame
    · exact absurd hk (hnone k)
  have hnode : k' = k := by
    refine h.unique k' k ?_ ?_
    · rw [← hsource, ha.frameIdx]
      exact ha.nonzero
    · rw [← hsource, ha.frameIdx, hk]
  subst hnode
  have hmatched := hsynced.matched k' (by rw [ha.self.2]; exact ha.nonzero)
  rw [ha.self.2, ha.allAdded h, ha.matched h (hsource ▸ hn), hsource, hvalid] at hmatched
  cases ho : fs.chObj (other i') with
  | none =>
    grind
  | some c =>
    grind

end Add

theorem SyncInv.remove (h : fs.SyncInv) (frameId : UInt32) :
    (fs.mmFrameSyncRemove frameId).2.SyncInv := by
  rcases remove_cases frameId fs with heq | ⟨k, heq⟩
  · rw [heq]
    exact h
  rw [heq]
  have hsame : ∀ l, ((fs.setNode k {}).node l).frameIdx ≠ 0 →
      (fs.setNode k {}).node l = fs.node l := by
    intro l hl
    by_cases hlk : l = k
    · rw [hlk] at hl
      exact absurd (by simp [setNode]) hl
    · exact Function.update_of_ne hlk ..
  refine ⟨h.count, h.slot, fun l hl => ?_, fun l l' hl he => ?_, fun l j c hl hj hadded => ?_,
    fun l hl => ?_⟩
  · by_cases hlk : l = k
    · rw [hlk] at hl
      simp [setNode] at hl
    · have hkept : (fs.setNode k {}).node l = fs.node l := Function.update_of_ne hlk ..
      rw [hkept] at hl ⊢
      exact h.used l hl
  · have hl' : ((fs.setNode k {}).node l').frameIdx ≠ 0 := he ▸ hl
    have hkept := hsame l hl
    rw [hkept] at hl he
    rw [hsame l' hl'] at he
    exact h.unique l l' hl he
  · have hkept := hsame l hl
    rw [hkept] at hl hadded ⊢
    exact h.valid l j c hl hj hadded
  · have hkept := hsame l hl
    rw [hkept] at hl ⊢
    exact h.matched l hl

theorem SyncInv.step {op : SyncOp} (h : fs.SyncInv) (hgood : StaysInSync fs op)
    (ht : fs.syncStep op = some t) : t.SyncInv := by
  cases op with
  | register chObj =>
    cases ht
    exact h.register hgood
  | unregister chObj =>
    cases ht
    exact h.unregister hgood
  | add frameId chObj =>
    cases ht
    exact h.add hgood
  | remove frameId =>
    cases ht
    exact h.remove frameId

theorem SyncInv.breaks {op : SyncOp} (h : fs.SyncInv) (hbad : ¬StaysInSync fs op) :
    ∃ t, fs.syncStep op = some t ∧ ¬t.Synced := by
  cases op with
  | register chObj => exact ⟨_, rfl, h.register_breaks hbad⟩
  | unregister chObj => exact ⟨_, rfl, h.unregister_breaks hbad⟩
  | add frameId chObj => exact ⟨_, rfl, h.add_breaks hbad⟩
  | remove frameId => exact absurd trivial hbad

/-- The matched nodes are right all along a run exactly if each of its calls keeps them so. -/
theorem synced_iff_stays (ops : List SyncOp) :
    Always syncStep Synced {} ops ↔ OpsMeet syncStep StaysInSync {} ops := by
  have hfirst : SyncInv {} :=
    SyncInv.of_empty rfl (fun i j ch hi => by cases hi) rfl
  exact @always_iff_of_keeps _ _ syncStep (fun _ _ => True) SyncInv Synced StaysInSync
    (fun _ => SyncInv.synced) (fun _ _ _ hi _ hgood ht => hi.step hgood ht)
    (fun _ _ hi _ hbad => hi.breaks hbad) _ ops hfirst (opsMeet_true _ ops)

/-- A frame of a channel that left counts for the one that takes its slot, and a frame that the
channel left behind has added stays unmatched. -/
theorem left_frames_count :
    (∃ t, runOps syncStep {} [.register (some 1), .register (some 2), .add 5 (some 1),
        .unregister (some 1), .register (some 3), .add 5 (some 2)] = some t ∧
      (t.node 0).frameIdx = 5 ∧ (t.node 0).matched = true ∧ t.Registered 3 ∧
      ¬AddedSince 3 5 t.log ∧ ¬t.Synced) ∧
    ∃ t, runOps syncStep {} [.register (some 1), .register (some 2), .add 5 (some 1),
        .unregister (some 2)] = some t ∧
      (t.node 0).frameIdx = 5 ∧ (t.node 0).matched = false ∧ t.AllAdded 5 ∧ ¬t.Synced := by
  have hnot : ¬AddedSince 3 5 [.added 2 5, .registered 3, .added 1 5, .created 5, .registered 2,
      .registered 1] := by simp
  have hone : AddedSince 1 5 [.added 1 5, .created 5, .registered 2, .registered 1] := by simp
  constructor
  · refine ⟨_, rfl, rfl, rfl, ⟨0, rfl⟩, hnot, fun hsynced => ?_⟩
    exact hnot ((hsynced.matched 0 (by decide)).mp rfl 3 ⟨0, rfl⟩)
  · refine ⟨_, rfl, rfl, rfl, (and_iff_left_of_imp fun hall hsynced => ?_).mpr ?_⟩
    · have hmatched := (hsynced.matched 0 (by decide)).mpr hall
      cases hmatched
    · rintro ch ⟨i, hi⟩
      rcases eq_or_other 0 i with rfl | rfl
      · cases hi
        exact hone
      · cases hi

end FrameSync

end DeviceHal.Camera
