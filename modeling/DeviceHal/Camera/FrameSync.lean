import DeviceHal.Lib.Since

namespace DeviceHal.Camera

open Lib

abbrev maxNumCameraPerBundle : Nat := 2

abbrev mmCameraFrameSyncNodes : Nat := 4

/-- `frameValid` is whether the frame is present for the channel of a slot. -/
structure SyncNode where
  frameIdx : UInt32 := 0
  frameValid : Fin maxNumCameraPerBundle → Bool := fun _ => false
  matched : Bool := false

/-- History: what happens to the channels and the nodes. -/
inductive SyncEvt where
  | registered (ch : Nat)
  | created (frameId : UInt32)
  | added (ch : Nat) (frameId : UInt32)
deriving DecidableEq

/-- The frame sync information that the channels share. The log is history, newest event first. -/
structure FrameSync where
  numCam : Nat := 0
  pos : Nat := 0
  node : Fin mmCameraFrameSyncNodes → SyncNode := fun _ => {}
  chObj : Fin maxNumCameraPerBundle → Option Nat := fun _ => none
  log : List SyncEvt := []

namespace FrameSync

/-- The first slot with the channel, or the first empty one for `none`. -/
def findChObj (ch : Option Nat) (fs : FrameSync) : Option (Fin maxNumCameraPerBundle) :=
  (List.finRange maxNumCameraPerBundle).find? fun i => fs.chObj i = ch

def mmFrameSyncFindFrameIndex (frameId : UInt32) (fs : FrameSync) :
    Option (Fin mmCameraFrameSyncNodes) :=
  (List.finRange mmCameraFrameSyncNodes).find? fun k => (fs.node k).frameIdx = frameId

def mmFrameSyncReset (fs : FrameSync) : FrameSync := { log := fs.log }

def setNode (k : Fin mmCameraFrameSyncNodes) (n : SyncNode) (fs : FrameSync) : FrameSync :=
  { fs with node := Function.update fs.node k n }

/-- A channel is `none` if the pointer is null. -/
def mmFrameSyncRegisterChannel (chObj : Option Nat) (fs : FrameSync) : Int × FrameSync :=
  match chObj with
  | none => (-1, fs)
  | some ch =>
    if fs.numCam ≥ maxNumCameraPerBundle then (-1, fs)
    else
      let fs := if fs.numCam = 0 then fs.mmFrameSyncReset else fs
      match fs.findChObj none with
      | none => (-1, fs)
      | some i =>
        (0, { fs with
          chObj := Function.update fs.chObj i (some ch)
          numCam := fs.numCam + 1
          log := .registered ch :: fs.log })

def mmFrameSyncUnregisterChannel (chObj : Option Nat) (fs : FrameSync) : Int × FrameSync :=
  if fs.numCam = 0 ∨ chObj = none then (-1, fs)
  else
    let fs :=
      match fs.findChObj chObj with
      | none => fs
      | some i => { fs with chObj := Function.update fs.chObj i none, numCam := fs.numCam - 1 }
    (0, if fs.numCam = 0 then fs.mmFrameSyncReset else fs)

/-- The node of a new frame, at the next place of the ring. -/
def newNode (frameId : UInt32) (i : Fin maxNumCameraPerBundle) (fs : FrameSync) :
    Fin mmCameraFrameSyncNodes × FrameSync :=
  let index : Fin mmCameraFrameSyncNodes :=
    if h : fs.pos < mmCameraFrameSyncNodes then ⟨fs.pos, h⟩ else ⟨0, by decide⟩
  let n : SyncNode :=
    { frameIdx := frameId
      frameValid := Function.update (fun _ => false) i true
      matched := fs.numCam = 1 }
  (index, { fs.setNode index n with pos := index + 1, log := .created frameId :: fs.log })

def framesValid (n : SyncNode) : Nat :=
  (List.finRange maxNumCameraPerBundle).countP n.frameValid

/-- Marks a node that is present for as many slots as there are cameras. -/
def checkMatched (k : Fin mmCameraFrameSyncNodes) (fs : FrameSync) : FrameSync :=
  if (fs.node k).matched then fs
  else if framesValid (fs.node k) = fs.numCam then
    fs.setNode k { fs.node k with matched := true }
  else fs

def mmFrameSyncAdd (frameId : UInt32) (chObj : Option Nat) (fs : FrameSync) : Int × FrameSync :=
  if frameId = 0 then (-1, fs)
  else
    match chObj with
    | none => (-1, fs)
    | some ch =>
      match fs.findChObj (some ch) with
      | none => (-1, fs)
      | some i =>
        let r :=
          match fs.mmFrameSyncFindFrameIndex frameId with
          | some k =>
            let n := fs.node k
            (k, fs.setNode k { n with frameValid := Function.update n.frameValid i true })
          | none => fs.newNode frameId i
        (0, { r.2.checkMatched r.1 with log := .added ch frameId :: r.2.log })

def mmFrameSyncRemove (frameId : UInt32) (fs : FrameSync) : Int × FrameSync :=
  if frameId = 0 then (-1, fs)
  else
    match fs.mmFrameSyncFindFrameIndex frameId with
    | some k => (0, fs.setNode k {})
    | none => (0, fs)

def findMatchedLoop (oldest : Bool) : List SyncNode → UInt32 → UInt32
  | [], frameIdx => frameIdx
  | n :: ns, frameIdx =>
    if n.matched then
      let frameIdx := if frameIdx = 0 then n.frameIdx else frameIdx
      if !oldest then frameIdx
      else findMatchedLoop oldest ns (if frameIdx > n.frameIdx then n.frameIdx else frameIdx)
    else findMatchedLoop oldest ns frameIdx

def mmFrameSyncFindMatched (oldest : Bool) (fs : FrameSync) : UInt32 :=
  findMatchedLoop oldest ((List.finRange mmCameraFrameSyncNodes).map fs.node) 0

end FrameSync

inductive SyncOp where
  | register (chObj : Option Nat)
  | unregister (chObj : Option Nat)
  | add (frameId : UInt32) (chObj : Option Nat)
  | remove (frameId : UInt32)

namespace FrameSync

def syncStep (fs : FrameSync) : SyncOp → Option FrameSync
  | .register chObj => some (fs.mmFrameSyncRegisterChannel chObj).2
  | .unregister chObj => some (fs.mmFrameSyncUnregisterChannel chObj).2
  | .add frameId chObj => some (fs.mmFrameSyncAdd frameId chObj).2
  | .remove frameId => some (fs.mmFrameSyncRemove frameId).2

/-- A channel added the frame since it registered and since the frame's node was created. -/
def AddedSince (ch : Nat) (frameId : UInt32) : List SyncEvt → Prop :=
  Since (fun e => e = .registered ch ∨ e = .created frameId) (.added ch frameId)

variable {ch ch' : Nat} {frameId id' : UInt32} {log : List SyncEvt}

@[simp] theorem addedSince_registered :
    AddedSince ch frameId (.registered ch' :: log) ↔ ch' ≠ ch ∧ AddedSince ch frameId log := by
  simp [AddedSince, since_cons]

@[simp] theorem addedSince_created :
    AddedSince ch frameId (.created id' :: log) ↔ id' ≠ frameId ∧ AddedSince ch frameId log := by
  simp [AddedSince, since_cons]

@[simp] theorem addedSince_added : AddedSince ch frameId (.added ch' id' :: log) ↔
    ch' = ch ∧ id' = frameId ∨ AddedSince ch frameId log := by
  simp [AddedSince, since_cons]

def Registered (ch : Nat) (fs : FrameSync) : Prop := ∃ i, fs.chObj i = some ch

/-- Every registered channel has added the frame. -/
def AllAdded (frameId : UInt32) (fs : FrameSync) : Prop :=
  ∀ ch, fs.Registered ch → AddedSince ch frameId fs.log

end FrameSync

namespace FrameSync

variable {fs t : FrameSync} {ch : Nat} {frameId : UInt32}

theorem findChObj_some {chObj : Option Nat} {i : Fin maxNumCameraPerBundle}
    (h : fs.findChObj chObj = some i) : fs.chObj i = chObj := by
  have hi := List.find?_some h
  exact of_decide_eq_true hi

theorem findChObj_none {chObj : Option Nat} (h : fs.findChObj chObj = none)
    (i : Fin maxNumCameraPerBundle) : fs.chObj i ≠ chObj := by
  have hi := List.find?_eq_none.mp h i (List.mem_finRange i)
  simpa using hi

theorem findFrameIndex_some {k : Fin mmCameraFrameSyncNodes}
    (h : fs.mmFrameSyncFindFrameIndex frameId = some k) : (fs.node k).frameIdx = frameId := by
  have hk := List.find?_some h
  exact of_decide_eq_true hk

theorem findFrameIndex_none (h : fs.mmFrameSyncFindFrameIndex frameId = none)
    (k : Fin mmCameraFrameSyncNodes) : (fs.node k).frameIdx ≠ frameId := by
  have hk := List.find?_eq_none.mp h k (List.mem_finRange k)
  simpa using hk

/-- The smallest frame of the matched nodes, or 0 if there are none. -/
def SmallestMatched (id : UInt32) (ns : List SyncNode) : Prop :=
  id = 0 ∧ (∀ n ∈ ns, n.matched = false) ∨
    id ≠ 0 ∧ (∃ n ∈ ns, n.matched = true ∧ n.frameIdx = id) ∧
      ∀ n ∈ ns, n.matched = true → id ≤ n.frameIdx

theorem findMatchedLoop_from {ns : List SyncNode} {id : UInt32} (hid : id ≠ 0)
    (h : ∀ n ∈ ns, n.matched = true → n.frameIdx ≠ 0) :
    findMatchedLoop true ns id ≠ 0 ∧ findMatchedLoop true ns id ≤ id ∧
      (findMatchedLoop true ns id = id ∨
        ∃ n ∈ ns, n.matched = true ∧ n.frameIdx = findMatchedLoop true ns id) ∧
      ∀ n ∈ ns, n.matched = true → findMatchedLoop true ns id ≤ n.frameIdx := by
  induction ns generalizing id with
  | nil => exact ⟨hid, UInt32.le_refl id, Or.inl rfl, fun n hn => by cases hn⟩
  | cons n ns ih =>
    have hrest : ∀ m ∈ ns, m.matched = true → m.frameIdx ≠ 0 :=
      fun m hm => h m (List.mem_cons_of_mem _ hm)
    rw [findMatchedLoop]
    by_cases hmatched : n.matched = true
    · have hn := h n List.mem_cons_self hmatched
      rw [if_pos hmatched]
      dsimp only
      rw [if_neg hid, if_neg (by simp)]
      by_cases hlt : id > n.frameIdx
      · rw [if_pos hlt]
        obtain ⟨hne, hle, hmem, hall⟩ := ih hn hrest
        refine ⟨hne, UInt32.le_trans hle (UInt32.le_of_lt hlt), Or.inr ?_, fun m hm hmm => ?_⟩
        · grind
        grind
      · rw [if_neg hlt]
        obtain ⟨hne, hle, hmem, hall⟩ := ih hid hrest
        refine ⟨hne, hle, ?_, fun m hm hmm => ?_⟩
        · grind
        grind
    · rw [if_neg hmatched]
      obtain ⟨hne, hle, hmem, hall⟩ := ih hid hrest
      refine ⟨hne, hle, ?_, fun m hm hmm => ?_⟩
      · grind
      grind

theorem findMatchedLoop_smallest {ns : List SyncNode}
    (h : ∀ n ∈ ns, n.matched = true → n.frameIdx ≠ 0) :
    SmallestMatched (findMatchedLoop true ns 0) ns := by
  induction ns with
  | nil => exact Or.inl ⟨rfl, fun n hn => by cases hn⟩
  | cons n ns ih =>
    have hrest : ∀ m ∈ ns, m.matched = true → m.frameIdx ≠ 0 :=
      fun m hm => h m (List.mem_cons_of_mem _ hm)
    rw [findMatchedLoop]
    by_cases hmatched : n.matched = true
    · have hn := h n List.mem_cons_self hmatched
      rw [if_pos hmatched]
      dsimp only
      rw [if_pos rfl, if_neg (by simp), ite_self]
      obtain ⟨hne, hle, hmem, hall⟩ := findMatchedLoop_from hn hrest
      refine Or.inr ⟨hne, ?_, fun m hm hmm => ?_⟩
      · grind
      grind
    · rw [if_neg hmatched]
      rcases ih hrest with ⟨hzero, hnone⟩ | ⟨hne, ⟨m, hm, hmm, heq⟩, hall⟩
      · refine Or.inl ⟨hzero, fun m hm => ?_⟩
        grind
      · refine Or.inr ⟨hne, ⟨m, List.mem_cons_of_mem _ hm, hmm, heq⟩, fun m hm hmm => ?_⟩
        grind

def other (i : Fin maxNumCameraPerBundle) : Fin maxNumCameraPerBundle := 1 - i

theorem ne_other (i : Fin maxNumCameraPerBundle) : other i ≠ i := by
  revert i
  decide

theorem eq_or_other (i j : Fin maxNumCameraPerBundle) : j = i ∨ j = other i := by
  revert i j
  decide

theorem countP_slots (p : Fin maxNumCameraPerBundle → Bool) (i : Fin maxNumCameraPerBundle) :
    (List.finRange maxNumCameraPerBundle).countP p = (p i).toNat + (p (other i)).toNat := by
  have hrange : List.finRange maxNumCameraPerBundle = [0, 1] := rfl
  have hcases : i = 0 ∨ i = 1 := by
    revert i
    decide
  rw [hrange]
  rcases hcases with rfl | rfl
  · cases h0 : p 0 <;> cases h1 : p 1 <;> simp [other, h0, h1]
  · cases h0 : p 0 <;> cases h1 : p 1 <;> simp [other, h0, h1]

def usedSlots (fs : FrameSync) : Nat :=
  (List.finRange maxNumCameraPerBundle).countP fun i => (fs.chObj i).isSome

theorem usedSlots_eq (fs : FrameSync) (i : Fin maxNumCameraPerBundle) :
    fs.usedSlots = (fs.chObj i).isSome.toNat + (fs.chObj (other i)).isSome.toNat :=
  countP_slots (fun j => (fs.chObj j).isSome) i

/-- A node once its frame is present for a slot. -/
def withFrame (numCam : Nat) (i : Fin maxNumCameraPerBundle) (n : SyncNode) : SyncNode :=
  let frameValid := Function.update n.frameValid i true
  { n with
    frameValid
    matched := n.matched || (List.finRange maxNumCameraPerBundle).countP frameValid = numCam }

theorem withFrame_matched (numCam : Nat) (i : Fin maxNumCameraPerBundle) (n : SyncNode) :
    (withFrame numCam i n).matched = true ↔
      n.matched = true ∨ 1 + (n.frameValid (other i)).toNat = numCam := by
  unfold withFrame
  dsimp only
  rw [countP_slots _ i, Function.update_self, Function.update_of_ne (ne_other i)]
  simp

theorem checkMatched_eq (k : Fin mmCameraFrameSyncNodes) (n : SyncNode) (fs : FrameSync) :
    (fs.setNode k n).checkMatched k =
      fs.setNode k { n with matched := n.matched || framesValid n = fs.numCam } := by
  have hself : (fs.setNode k n).node k = n := Function.update_self ..
  unfold checkMatched
  rw [hself]
  cases hmatched : n.matched with
  | true =>
    rw [if_pos rfl, Bool.true_or, ← hmatched]
  | false =>
    rw [if_neg Bool.false_ne_true, Bool.false_or]
    have hcam : (fs.setNode k n).numCam = fs.numCam := rfl
    rw [hcam]
    by_cases hall : framesValid n = fs.numCam
    · rw [if_pos hall, decide_eq_true hall]
      simp [setNode]
    · rw [if_neg hall, decide_eq_false hall, ← hmatched]

theorem newNode_matched (i : Fin maxNumCameraPerBundle) (frameId : UInt32) (fs : FrameSync) :
    ∃ pos, (fs.newNode frameId i).2.checkMatched (fs.newNode frameId i).1 =
      { fs.setNode (fs.newNode frameId i).1 (withFrame fs.numCam i { frameIdx := frameId }) with
        pos, log := .created frameId :: fs.log } := by
  let n : SyncNode :=
    { frameIdx := frameId
      frameValid := Function.update (fun _ => false) i true
      matched := fs.numCam = 1 }
  have hone : framesValid n = 1 := by
    unfold framesValid
    dsimp only [n]
    rw [countP_slots _ i, Function.update_self, Function.update_of_ne (ne_other i)]
    rfl
  have hnode : { n with matched := n.matched || framesValid n = fs.numCam } =
      withFrame fs.numCam i { frameIdx := frameId } := by
    rw [hone]
    unfold withFrame
    dsimp only [n]
    rw [countP_slots _ i, Function.update_self, Function.update_of_ne (ne_other i)]
    simp [eq_comm]
  refine ⟨(fs.newNode frameId i).2.pos, ?_⟩
  rw [← hnode]
  exact checkMatched_eq (fs.newNode frameId i).1 n
    { fs with pos := (fs.newNode frameId i).2.pos, log := .created frameId :: fs.log }

/-- An add marks the frame for the slot of the channel, in its own node or in a new one. -/
structure AddStep (frameId : UInt32) (ch : Nat) (i : Fin maxNumCameraPerBundle)
    (k : Fin mmCameraFrameSyncNodes) (n : SyncNode) (fs t : FrameSync) : Prop where
  nonzero : frameId ≠ 0
  slot : fs.chObj i = some ch
  frameIdx : n.frameIdx = frameId
  chObj : t.chObj = fs.chObj
  numCam : t.numCam = fs.numCam
  node : t.node = Function.update fs.node k (withFrame fs.numCam i n)
  source : n = fs.node k ∧ t.log = .added ch frameId :: fs.log ∨
    n = { frameIdx := frameId } ∧ t.log = .added ch frameId :: .created frameId :: fs.log ∧
      ∀ k, (fs.node k).frameIdx ≠ frameId

theorem add_cases (frameId : UInt32) (ch : Nat) (fs : FrameSync) :
    (fs.mmFrameSyncAdd frameId (some ch)).2 = fs ∧ (frameId = 0 ∨ ¬fs.Registered ch) ∨
      ∃ i k n, AddStep frameId ch i k n fs (fs.mmFrameSyncAdd frameId (some ch)).2 := by
  unfold mmFrameSyncAdd
  by_cases hzero : frameId = 0
  · rw [if_pos hzero]
    exact Or.inl ⟨rfl, Or.inl hzero⟩
  rw [if_neg hzero]
  dsimp only
  cases hi : fs.findChObj (some ch) with
  | none => exact Or.inl ⟨rfl, Or.inr fun ⟨i, hreg⟩ => findChObj_none hi i hreg⟩
  | some i =>
    refine Or.inr ?_
    dsimp only
    cases hk : fs.mmFrameSyncFindFrameIndex frameId with
    | some k =>
      dsimp only
      rw [checkMatched_eq]
      exact ⟨i, k, fs.node k, hzero, findChObj_some hi, findFrameIndex_some hk, rfl, rfl, rfl,
        Or.inl ⟨rfl, rfl⟩⟩
    | none =>
      obtain ⟨pos, hnew⟩ := newNode_matched i frameId fs
      dsimp only
      rw [hnew]
      refine ⟨i, (fs.newNode frameId i).1, { frameIdx := frameId }, hzero, findChObj_some hi, rfl,
        rfl, rfl, rfl, Or.inr ⟨rfl, rfl, findFrameIndex_none hk⟩⟩

theorem register_cases (hcount : fs.usedSlots = fs.numCam) (ch : Nat)
    (ht : (fs.mmFrameSyncRegisterChannel (some ch)).2 = t) :
    t = fs ∧ fs.numCam ≥ maxNumCameraPerBundle ∨
    fs.numCam < maxNumCameraPerBundle ∧ ∃ i, fs.chObj i = none ∧
      t.chObj = Function.update fs.chObj i (some ch) ∧ t.numCam = fs.numCam + 1 ∧
      t.log = .registered ch :: fs.log ∧
      (fs.numCam = 0 ∧ t.node = (fun _ => {}) ∨ fs.numCam ≠ 0 ∧ t.node = fs.node) := by
  subst ht
  unfold mmFrameSyncRegisterChannel
  dsimp only
  by_cases hfull : fs.numCam ≥ maxNumCameraPerBundle
  · rw [if_pos hfull]
    exact Or.inl ⟨rfl, hfull⟩
  rw [if_neg hfull]
  refine Or.inr ⟨Nat.lt_of_not_ge hfull, ?_⟩
  by_cases hzero : fs.numCam = 0
  · rw [if_pos hzero]
    have hempty : ∀ i, fs.chObj i = none := by
      intro i
      rw [fs.usedSlots_eq i, hzero] at hcount
      cases hi : fs.chObj i with
      | none => rfl
      | some ch => simp [hi] at hcount
    have hchObj : fs.mmFrameSyncReset.chObj = fs.chObj := by
      funext i
      rw [hempty i]
      rfl
    cases hi : fs.mmFrameSyncReset.findChObj none with
    | none => exact absurd rfl (findChObj_none hi 0)
    | some i =>
      refine ⟨i, hempty i, by dsimp only; rw [hchObj], ?_, rfl, Or.inl ⟨hzero, rfl⟩⟩
      rw [hzero]
      rfl
  · rw [if_neg hzero]
    cases hi : fs.findChObj none with
    | none =>
      have hused : ∀ i, (fs.chObj i).isSome = true :=
        fun i => Option.isSome_iff_ne_none.mpr (findChObj_none hi i)
      have htwo := fs.usedSlots_eq 0
      grind
    | some i => exact ⟨i, findChObj_some hi, rfl, rfl, rfl, Or.inr ⟨hzero, rfl⟩⟩

theorem unregister_cases (hcount : fs.usedSlots = fs.numCam) (ch : Nat)
    (ht : (fs.mmFrameSyncUnregisterChannel (some ch)).2 = t) :
    t = fs ∧ ¬fs.Registered ch ∨
    ∃ i, fs.chObj i = some ch ∧ t.chObj = Function.update fs.chObj i none ∧
      t.numCam = fs.numCam - 1 ∧ t.log = fs.log ∧
      (fs.numCam = 1 ∧ t.node = (fun _ => {}) ∨ fs.numCam ≠ 1 ∧ t.node = fs.node) := by
  subst ht
  unfold mmFrameSyncUnregisterChannel
  by_cases hzero : fs.numCam = 0
  · rw [if_pos (Or.inl hzero)]
    refine Or.inl ⟨rfl, fun ⟨i, hi⟩ => ?_⟩
    rw [fs.usedSlots_eq i, hi, hzero] at hcount
    simp at hcount
  rw [if_neg (by simp [hzero])]
  cases hi : fs.findChObj (some ch) with
  | none =>
    dsimp only
    rw [if_neg hzero]
    exact Or.inl ⟨rfl, fun ⟨i, hreg⟩ => findChObj_none hi i hreg⟩
  | some i =>
    have hch := findChObj_some hi
    refine Or.inr ⟨i, hch, ?_⟩
    dsimp only
    by_cases hone : fs.numCam = 1
    · rw [if_pos (by omega)]
      refine ⟨?_, by rw [hone]; rfl, rfl, Or.inl ⟨hone, rfl⟩⟩
      funext j
      rw [fs.usedSlots_eq i, hch, hone] at hcount
      rcases eq_or_other i j with rfl | rfl
      · rw [Function.update_self]
        rfl
      · rw [Function.update_of_ne (ne_other i)]
        cases hj : fs.chObj (other i) with
        | none => rfl
        | some ch => simp [hj] at hcount
    grind

theorem remove_cases (frameId : UInt32) (fs : FrameSync) :
    (fs.mmFrameSyncRemove frameId).2 = fs ∨
      ∃ k, (fs.mmFrameSyncRemove frameId).2 = fs.setNode k {} := by
  grind [mmFrameSyncRemove]

end FrameSync

end DeviceHal.Camera
