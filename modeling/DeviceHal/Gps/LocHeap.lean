import DeviceHal.Lib.PriorityQueue

namespace DeviceHal.Gps

open Lib

universe u

/-- A tree of `LocHeapNode`s with its data by address. `null` is the null pointer. -/
inductive LocHeapNode (α : Type u) where
  | null
  | node (mSize : Int) (mLeft mRight : LocHeapNode α) (mData : α)
deriving DecidableEq, Repr

def OutRanks {α : Type u} (ranks : α → α → Int) (x y : α) : Prop := 0 < ranks x y

instance {α : Type u} (ranks : α → α → Int) : DecidableRel (OutRanks ranks) :=
  fun x y => inferInstanceAs (Decidable (0 < ranks x y))

theorem strictWeakOrder_of_key {α : Type u} (key : α → Nat) :
    IsStrictWeakOrder α (OutRanks fun x y => (key y : Int) - key x) where
  irrefl := by
    intro a h
    unfold OutRanks at h
    dsimp only at h
    omega
  trans := by
    intro a b c hab hbc
    unfold OutRanks at *
    dsimp only at *
    omega
  incomp_trans := by
    intro a b c hab hbc
    unfold OutRanks at *
    dsimp only at *
    omega

namespace LocHeapNode

variable {α : Type u} (ranks : α → α → Int)

/-- The size of a subtree, none for the null pointer. -/
def getSize : LocHeapNode α → Int
  | null => 0
  | node mSize _ _ _ => mSize

def top? : LocHeapNode α → Option α
  | null => none
  | node _ _ _ mData => some mData

/-- The new element and that of the node, with the higher one at the node, go down the smaller
side. -/
def push (x : α) : LocHeapNode α → LocHeapNode α
  | null => node 1 null null x
  | node mSize mLeft mRight mData =>
    let (mData, x) := if OutRanks ranks x mData then (x, mData) else (mData, x)
    match mLeft, mRight with
    | null, _ => node (mSize + 1) (node 1 null null x) mRight mData
    | _, null => node (mSize + 1) mLeft (node 1 null null x) mData
    | _, _ =>
      if mLeft.getSize ≤ mRight.getSize then node (mSize + 1) (push x mLeft) mRight mData
      else node (mSize + 1) mLeft (push x mRight) mData

/-- `pop` of a tree into whose top `data` has been swapped: the swaps take that down to a leaf,
which is the node popped. -/
def sink (data : α) : LocHeapNode α → LocHeapNode α × α
  | null => (null, data)
  | node mSize mLeft mRight _ =>
    match mLeft.top?, mRight.top? with
    | none, none => (null, data)
    | none, some subTop => (node (mSize - 1) mLeft (sink data mRight).1 subTop, (sink data mRight).2)
    | some subTop, none => (node (mSize - 1) (sink data mLeft).1 mRight subTop, (sink data mLeft).2)
    | some left, some right =>
      if OutRanks ranks left right then
        (node (mSize - 1) (sink data mLeft).1 mRight left, (sink data mLeft).2)
      else (node (mSize - 1) mLeft (sink data mRight).1 right, (sink data mRight).2)

def pop : LocHeapNode α → LocHeapNode α × Option α
  | null => (null, none)
  | node mSize mLeft mRight mData =>
    let (top, popped) := sink ranks mData (node mSize mLeft mRight mData)
    (top, some popped)

def remove [DecidableEq α] (data : α) : LocHeapNode α → LocHeapNode α × Option α
  | null => (null, none)
  | node mSize mLeft mRight mData =>
    if data = mData then pop ranks (node mSize mLeft mRight mData)
    else if ¬OutRanks ranks data mData then
      match remove data mLeft with
      | (left, some removed) => (node (mSize - 1) left mRight mData, some removed)
      | (left, none) =>
        match remove data mRight with
        | (right, some removed) => (node (mSize - 1) left right mData, some removed)
        | (right, none) => (node mSize left right mData, none)
    else (node mSize mLeft mRight mData, none)

/-- Whether the sizes are right and no node is outranked by a child. -/
def checkNodes : LocHeapNode α → Bool
  | null => true
  | node mSize mLeft mRight mData =>
    (mLeft.top?.all fun x => ¬OutRanks ranks x mData) && mLeft.checkNodes &&
      (mRight.top?.all fun x => ¬OutRanks ranks x mData) && mRight.checkNodes &&
      mSize - mLeft.getSize - mRight.getSize = 1

end LocHeapNode

/-- `LocHeap`: the tree, and what its calls return. -/
structure LocHeap (α : Type u) where
  mTree : LocHeapNode α := .null
deriving DecidableEq, Repr

namespace LocHeap

variable {α : Type u} (ranks : α → α → Int)

def push (x : α) (heap : LocHeap α) : LocHeap α := ⟨heap.mTree.push ranks x⟩

def peek (heap : LocHeap α) : Option α := heap.mTree.top?

def pop (heap : LocHeap α) : LocHeap α × Option α :=
  let (mTree, data) := heap.mTree.pop ranks
  (⟨mTree⟩, data)

def remove [DecidableEq α] (x : α) (heap : LocHeap α) : LocHeap α × Option α :=
  let (mTree, data) := heap.mTree.remove ranks x
  (⟨mTree⟩, data)

def checkTree (heap : LocHeap α) : Bool := heap.mTree.checkNodes ranks

def getTreeSize (heap : LocHeap α) : Int := heap.mTree.getSize

def step [DecidableEq α] (heap : LocHeap α) : PqOp α → LocHeap α × Option α
  | .push x => (heap.push ranks x, none)
  | .pop => heap.pop ranks
  | .remove x => heap.remove ranks x

def calls [DecidableEq α] (heap : LocHeap α) : List (PqOp α) → LocHeap α × List (PqOp α × Option α)
  | [] => (heap, [])
  | op :: ops =>
    let (heap, res) := heap.step ranks op
    let (heap, rest) := heap.calls ops
    (heap, (op, res) :: rest)

end LocHeap

variable {α : Type u} {ranks : α → α → Int} {t : LocHeapNode α} {x d : α}

namespace LocHeapNode

def contents : LocHeapNode α → Multiset α
  | null => 0
  | node _ mLeft mRight mData => mData ::ₘ (mLeft.contents + mRight.contents)

/-- No data of a subtree outranks that above it, and the sizes are those of the subtrees. -/
def Sound (ranks : α → α → Int) : LocHeapNode α → Prop
  | null => True
  | node mSize mLeft mRight mData =>
    (∀ x ∈ mLeft.contents, ¬OutRanks ranks x mData) ∧
      (∀ x ∈ mRight.contents, ¬OutRanks ranks x mData) ∧ mLeft.Sound ranks ∧ mRight.Sound ranks ∧
      mSize = mLeft.getSize + mRight.getSize + 1

@[simp] theorem contents_null : (null : LocHeapNode α).contents = 0 := rfl

@[simp] theorem contents_node (mSize : Int) (l r : LocHeapNode α) (d : α) :
    (node mSize l r d).contents = d ::ₘ (l.contents + r.contents) := rfl

@[simp] theorem getSize_null : (null : LocHeapNode α).getSize = 0 := rfl

@[simp] theorem getSize_node (mSize : Int) (l r : LocHeapNode α) (d : α) :
    (node mSize l r d).getSize = mSize := rfl

theorem top?_none (h : t.top? = none) : t = null := by
  cases t with
  | null => rfl
  | node mSize l r d => cases h

theorem top?_mem (h : t.top? = some d) : d ∈ t.contents := by
  cases t with
  | null => cases h
  | node mSize l r d' =>
    cases h
    exact Multiset.mem_cons_self d _

theorem contents_eq_zero (h : t.contents = 0) : t = null := by
  cases t with
  | null => rfl
  | node mSize l r d => exact absurd h (Multiset.cons_ne_zero)

theorem swap_cons (m : Multiset α) :
    (if OutRanks ranks x d then (x, d) else (d, x)).1 ::ₘ
      (if OutRanks ranks x d then (x, d) else (d, x)).2 ::ₘ m = x ::ₘ d ::ₘ m := by
  split
  next => rfl
  next => exact Multiset.cons_swap d x m

theorem contents_push (x : α) (t : LocHeapNode α) :
    (t.push ranks x).contents = x ::ₘ t.contents := by
  induction t generalizing x with
  | null => rfl
  | node mSize l r d ihl ihr =>
    have hswap := @swap_cons α ranks x d (l.contents + r.contents)
    unfold push
    generalize (if OutRanks ranks x d then (x, d) else (d, x)) = p at hswap ⊢
    obtain ⟨hi, lo⟩ := p
    dsimp only at hswap ⊢
    rw [contents_node, ← hswap]
    split
    next => simp
    next => simp [Multiset.add_comm]
    grind [contents_node, Multiset.cons_add, Multiset.add_cons]

theorem sink_snd (d : α) (t : LocHeapNode α) : (sink ranks d t).2 = d := by
  induction t with
  | null => rfl
  | node mSize l r d' ihl ihr =>
    unfold sink
    grind

theorem contents_sink {top : α} (h : t.top? = some top) :
    top ::ₘ (sink ranks d t).1.contents = t.contents := by
  induction t generalizing top with
  | null => cases h
  | node mSize l r d' ihl ihr =>
    cases h
    have left : ∀ e, l.top? = some e →
        d' ::ₘ (node (mSize - 1) (sink ranks d l).1 r e).contents = d' ::ₘ (l.contents + r.contents) := by
      intro e he
      rw [contents_node, ← Multiset.cons_add, ihl he]
    have right : ∀ e, r.top? = some e →
        d' ::ₘ (node (mSize - 1) l (sink ranks d r).1 e).contents = d' ::ₘ (l.contents + r.contents) := by
      intro e he
      rw [contents_node, ← Multiset.add_cons, ihr he]
    unfold sink
    split
    next hl hr =>
      rw [top?_none hl, top?_none hr]
      rfl
    next hr => exact right _ hr
    next hl _ => exact left _ hl
    next hl hr =>
      split
      next => exact left _ hl
      next => exact right _ hr

theorem pop_node (mSize : Int) (l r : LocHeapNode α) (d : α) :
    (node mSize l r d).pop ranks = ((sink ranks d (node mSize l r d)).1, some d) := by
  unfold pop
  dsimp only
  rw [sink_snd]

theorem swap_cases (x d : α) :
    (OutRanks ranks x d ∧ (if OutRanks ranks x d then (x, d) else (d, x)) = (x, d)) ∨
      (¬OutRanks ranks x d ∧ (if OutRanks ranks x d then (x, d) else (d, x)) = (d, x)) := by
  grind

theorem top?_push (x : α) (t : LocHeapNode α) :
    (t.push ranks x).top? = some (match t.top? with
      | none => x
      | some d => if OutRanks ranks x d then x else d) := by
  cases t with
  | null => rfl
  | node mSize l r d =>
    have hfst : (if OutRanks ranks x d then (x, d) else (d, x)).1 =
        if OutRanks ranks x d then x else d := by
      split
      next => rfl
      next => rfl
    unfold push
    change _ = some (if OutRanks ranks x d then x else d)
    rw [← hfst]
    generalize (if OutRanks ranks x d then (x, d) else (d, x)) = p
    obtain ⟨hi, lo⟩ := p
    dsimp only
    split
    next => rfl
    next => rfl
    next =>
      split
      next => rfl
      next => rfl

theorem top?_remove [DecidableEq α] (top : t.top? = some d) (ne : x ≠ d) :
    (t.remove ranks x).1.top? = some d := by
  cases t with
  | null => cases top
  | node mSize l r d' =>
    cases top
    unfold remove
    rw [if_neg ne]
    split
    next =>
      split
      next => rfl
      next =>
        split
        next => rfl
        next => rfl
    next => rfl

variable [IsStrictWeakOrder α (OutRanks ranks)]

theorem swap_rank (x d : α) :
    ¬OutRanks ranks (if OutRanks ranks x d then (x, d) else (d, x)).2
        (if OutRanks ranks x d then (x, d) else (d, x)).1 ∧
      ∀ y, ¬OutRanks ranks y d →
        ¬OutRanks ranks y (if OutRanks ranks x d then (x, d) else (d, x)).1 := by
  rcases @swap_cases α ranks x d with ⟨h, hp⟩ | ⟨h, hp⟩
  · rw [hp]
    have hdx : ¬OutRanks ranks d x := asymm h
    exact ⟨hdx, fun y hy => not_outRanks_trans hy hdx⟩
  · rw [hp]
    exact ⟨h, fun y hy => hy⟩

theorem sound_push (h : t.Sound ranks) :
    (t.push ranks x).Sound ranks ∧ (t.push ranks x).getSize = t.getSize + 1 := by
  induction t generalizing x with
  | null => simp [push, Sound]
  | node mSize l r d ihl ihr =>
    obtain ⟨hl, hr, hsl, hsr, hsize⟩ := h
    obtain ⟨hlo, hhi⟩ := @swap_rank α ranks _ x d
    unfold push
    generalize (if OutRanks ranks x d then (x, d) else (d, x)) = p at hlo hhi ⊢
    obtain ⟨hi, lo⟩ := p
    dsimp only at hlo hhi ⊢
    have hl' : ∀ y ∈ l.contents, ¬OutRanks ranks y hi := fun y hy => hhi y (hl y hy)
    have hr' : ∀ y ∈ r.contents, ¬OutRanks ranks y hi := fun y hy => hhi y (hr y hy)
    have leaf : (node 1 null null lo).Sound ranks := by simp [Sound]
    have hleaf : ∀ y ∈ (node 1 null null lo).contents, ¬OutRanks ranks y hi := by
      simpa using hlo
    have hpush : ∀ s : LocHeapNode α, (∀ y ∈ s.contents, ¬OutRanks ranks y hi) →
        ∀ y ∈ (s.push ranks lo).contents, ¬OutRanks ranks y hi := by
      intro s hs y hy
      rw [contents_push] at hy
      rcases Multiset.mem_cons.mp hy with rfl | hy
      · exact hlo
      · exact hs y hy
    split
    next =>
      refine ⟨⟨hleaf, hr', leaf, hsr, ?_⟩, rfl⟩
      simp only [getSize_node, getSize_null] at hsize ⊢
      omega
    next =>
      refine ⟨⟨hl', hleaf, hsl, leaf, ?_⟩, rfl⟩
      simp only [getSize_node, getSize_null] at hsize ⊢
      omega
    next =>
      split
      next =>
        obtain ⟨hs, hsz⟩ := ihl (x := lo) hsl
        refine ⟨⟨hpush _ hl', hr', hs, hsr, ?_⟩, rfl⟩
        omega
      next =>
        obtain ⟨hs, hsz⟩ := ihr (x := lo) hsr
        refine ⟨⟨hl', hpush _ hr', hsl, hs, ?_⟩, rfl⟩
        omega

theorem Sound.top (h : t.Sound ranks) (top : t.top? = some d) :
    ∀ y ∈ t.contents, ¬OutRanks ranks y d := by
  cases t with
  | null => cases top
  | node mSize l r d' =>
    cases top
    intro y hy
    rcases Multiset.mem_cons.mp hy with rfl | hy
    · exact irrefl y
    · rcases Multiset.mem_add.mp hy with hy | hy
      · exact h.1 y hy
      · exact h.2.1 y hy

theorem checkNodes_iff : t.checkNodes ranks = true ↔ t.Sound ranks := by
  induction t with
  | null => simp [checkNodes, Sound]
  | node mSize l r d ihl ihr =>
    have below : ∀ s : LocHeapNode α, s.Sound ranks →
        ((s.top?.all fun x => ¬OutRanks ranks x d) = true ↔
          ∀ y ∈ s.contents, ¬OutRanks ranks y d) := by
      intro s hs
      cases htop : s.top? with
      | none => simp [top?_none htop]
      | some e =>
        rw [Option.all_some, decide_eq_true_eq]
        exact ⟨fun he y hy => not_outRanks_trans (hs.top htop y hy) he,
          fun hall => hall e (top?_mem htop)⟩
    simp only [checkNodes, Bool.and_eq_true, ihl, ihr, decide_eq_true_eq, Sound]
    constructor
    · grind
    grind

theorem sound_sink (h : t.Sound ranks) (ne : t ≠ null) :
    (sink ranks d t).1.Sound ranks ∧ (sink ranks d t).1.getSize = t.getSize - 1 := by
  induction t with
  | null => exact absurd rfl ne
  | node mSize l r d' ihl ihr =>
    obtain ⟨hl, hr, hsl, hsr, hsize⟩ := h
    have shrinks : ∀ (s : LocHeapNode α) e, s.top? = some e → s.Sound ranks →
        ∀ y ∈ (sink ranks d s).1.contents, ¬OutRanks ranks y e := by
      intro s e he hs y hy
      refine hs.top he y ?_
      rw [← @contents_sink α ranks _ d _ he]
      exact Multiset.mem_cons_of_mem hy
    have left : ∀ e, l.top? = some e → (∀ y ∈ r.contents, ¬OutRanks ranks y e) →
        (node (mSize - 1) (sink ranks d l).1 r e).Sound ranks ∧
          (node (mSize - 1) (sink ranks d l).1 r e).getSize = mSize - 1 := by
      intro e he hre
      obtain ⟨hs, hsz⟩ := ihl hsl (fun hz => by rw [hz] at he; cases he)
      refine ⟨⟨shrinks l e he hsl, hre, hs, hsr, ?_⟩, rfl⟩
      omega
    have right : ∀ e, r.top? = some e → (∀ y ∈ l.contents, ¬OutRanks ranks y e) →
        (node (mSize - 1) l (sink ranks d r).1 e).Sound ranks ∧
          (node (mSize - 1) l (sink ranks d r).1 e).getSize = mSize - 1 := by
      intro e he hle
      obtain ⟨hs, hsz⟩ := ihr hsr (fun hz => by rw [hz] at he; cases he)
      refine ⟨⟨hle, shrinks r e he hsr, hsl, hs, ?_⟩, rfl⟩
      omega
    unfold sink
    split
    next htl htr =>
      rw [top?_none htl, top?_none htr] at hsize
      refine ⟨trivial, ?_⟩
      simp only [getSize_null, getSize_node] at hsize ⊢
      omega
    next htl htr =>
      refine right _ htr ?_
      rw [top?_none htl]
      simp
    next htl htr =>
      refine left _ htl ?_
      rw [top?_none htr]
      simp
    next e f htl htr =>
      split
      next hef =>
        exact left e htl fun y hy => not_outRanks_trans (hsr.top htr y hy) (asymm hef)
      next hef =>
        exact right f htr fun y hy => not_outRanks_trans (hsl.top htl y hy) hef

/-- What `remove` does to a sound tree: it takes the element if it is stored. The pruned subtrees
hold nothing that outranks their top. -/
theorem remove_spec [DecidableEq α] (h : t.Sound ranks) :
    (x ∈ t.contents ∧ (t.remove ranks x).2 = some x ∧ (t.remove ranks x).1.Sound ranks ∧
      x ::ₘ (t.remove ranks x).1.contents = t.contents ∧
      (t.remove ranks x).1.getSize = t.getSize - 1) ∨
    (x ∉ t.contents ∧ t.remove ranks x = (t, none)) := by
  induction t with
  | null => exact Or.inr ⟨Multiset.notMem_zero x, rfl⟩
  | node mSize l r d ihl ihr =>
    have hnode := h
    obtain ⟨hl, hr, hsl, hsr, hsize⟩ := h
    unfold remove
    by_cases hx : x = d
    · obtain ⟨hs, hsz⟩ := sound_sink (d := d) hnode (by simp)
      rw [if_pos hx, pop_node, hx]
      exact Or.inl ⟨Multiset.mem_cons_self d _, rfl, hs, contents_sink rfl, hsz⟩
    · rw [if_neg hx]
      by_cases hprune : OutRanks ranks x d
      · rw [if_neg (not_not.mpr hprune)]
        refine Or.inr ⟨fun hm => ?_, rfl⟩
        exact hnode.top rfl x hm hprune
      · rw [if_pos hprune]
        rcases ihl hsl with ⟨hm, hres, hs, hcont, hsz⟩ | ⟨hm, hres⟩
        · generalize l.remove ranks x = p at hres hs hcont hsz
          obtain ⟨l', res⟩ := p
          dsimp only at hres hs hcont hsz
          subst hres
          have hl' : ∀ y ∈ l'.contents, ¬OutRanks ranks y d := by
            intro y hy
            refine hl y ?_
            rw [← hcont]
            exact Multiset.mem_cons_of_mem hy
          refine Or.inl ⟨?_, rfl, ⟨hl', hr, hs, hsr, by omega⟩, ?_, rfl⟩
          · exact Multiset.mem_cons_of_mem (Multiset.mem_add.mpr (Or.inl hm))
          · simp only [contents_node]
            rw [Multiset.cons_swap, ← Multiset.cons_add, hcont]
        · rw [hres]
          dsimp only
          rcases ihr hsr with ⟨hmr, hresr, hs, hcont, hsz⟩ | ⟨hmr, hresr⟩
          · generalize r.remove ranks x = p at hresr hs hcont hsz
            obtain ⟨r', res⟩ := p
            dsimp only at hresr hs hcont hsz
            subst hresr
            have hr' : ∀ y ∈ r'.contents, ¬OutRanks ranks y d := by
              intro y hy
              refine hr y ?_
              rw [← hcont]
              exact Multiset.mem_cons_of_mem hy
            refine Or.inl ⟨?_, rfl, ⟨hl, hr', hsl, hs, by omega⟩, ?_, rfl⟩
            · exact Multiset.mem_cons_of_mem (Multiset.mem_add.mpr (Or.inr hmr))
            · simp only [contents_node]
              rw [Multiset.cons_swap, ← Multiset.add_cons, hcont]
          · rw [hresr]
            refine Or.inr ⟨fun hmem => ?_, rfl⟩
            rcases Multiset.mem_cons.mp hmem with rfl | hmem
            · exact hx rfl
            grind

end LocHeapNode

end DeviceHal.Gps

namespace DeviceHal.Gps

open Lib

universe u

variable {α : Type u} {ranks : α → α → Int} {heap : LocHeap α}

namespace LocHeap

def contents (heap : LocHeap α) : Multiset α := heap.mTree.contents

theorem calls_ops [DecidableEq α] (heap : LocHeap α) (ops : List (PqOp α)) :
    (heap.calls ranks ops).2.map Prod.fst = ops := by
  induction ops generalizing heap with
  | nil => rfl
  | cons op ops ih => exact congrArg (op :: ·) (ih (heap.step ranks op).1)

variable [IsStrictWeakOrder α (OutRanks ranks)]

theorem checkTree_iff : heap.checkTree ranks = true ↔ heap.mTree.Sound ranks :=
  LocHeapNode.checkNodes_iff

variable [DecidableEq α]

theorem step_spec (h : heap.mTree.Sound ranks) (op : PqOp α) :
    (heap.step ranks op).1.mTree.Sound ranks ∧
      PqStep (OutRanks ranks) heap.contents op (heap.step ranks op).2
        (heap.step ranks op).1.contents := by
  cases op with
  | push x =>
    refine ⟨(LocHeapNode.sound_push h).1, ?_⟩
    have hcont : (heap.push ranks x).contents = x ::ₘ heap.contents :=
      LocHeapNode.contents_push x heap.mTree
    change PqStep _ _ _ none (heap.push ranks x).contents
    rw [hcont]
    exact PqStep.push _ x
  | pop =>
    obtain ⟨t⟩ := heap
    cases t with
    | null => exact ⟨trivial, PqStep.popNone⟩
    | node mSize l r d =>
      have hpop : (LocHeap.mk (.node mSize l r d)).step ranks .pop =
          (⟨(LocHeapNode.sink ranks d (.node mSize l r d)).1⟩, some d) := by
        change (LocHeap.mk (.node mSize l r d)).pop ranks = _
        unfold LocHeap.pop
        dsimp only
        rw [LocHeapNode.pop_node]
      have hcont := @LocHeapNode.contents_sink α ranks (.node mSize l r d) d d rfl
      rw [hpop]
      refine ⟨(LocHeapNode.sound_sink h (by simp)).1, ?_⟩
      have hrest : (LocHeapNode.sink ranks d (.node mSize l r d)).1.contents =
          (LocHeapNode.node mSize l r d).contents.erase d := by
        rw [← hcont, Multiset.erase_cons_head]
      change PqStep _ (LocHeapNode.node mSize l r d).contents _ _
        (LocHeapNode.sink ranks d (.node mSize l r d)).1.contents
      rw [hrest]
      exact PqStep.pop _ d (Multiset.mem_cons_self d _) (h.top rfl)
  | remove x =>
    rcases LocHeapNode.remove_spec (x := x) h with ⟨hm, hres, hs, hcont, -⟩ | ⟨hm, hres⟩
    · have hrest : (heap.step ranks (.remove x)).1.contents = heap.contents.erase x := by
        change (heap.mTree.remove ranks x).1.contents = heap.mTree.contents.erase x
        rw [← hcont, Multiset.erase_cons_head]
      refine ⟨hs, ?_⟩
      change PqStep _ _ _ (heap.mTree.remove ranks x).2 (heap.step ranks (.remove x)).1.contents
      rw [hrest, hres]
      exact PqStep.remove _ x hm
    · change (heap.mTree.remove ranks x).1.Sound ranks ∧ PqStep _ _ _
        (heap.mTree.remove ranks x).2 (heap.mTree.remove ranks x).1.contents
      rw [hres]
      exact ⟨h, PqStep.removeNone _ x hm⟩

theorem calls_spec (h : heap.mTree.Sound ranks) (ops : List (PqOp α)) :
    (heap.calls ranks ops).1.mTree.Sound ranks ∧
      PqRun (OutRanks ranks) heap.contents (heap.calls ranks ops).2
        (heap.calls ranks ops).1.contents := by
  induction ops generalizing heap with
  | nil => exact ⟨h, PqRun.nil _⟩
  | cons op ops ih =>
    obtain ⟨hs, hstep⟩ := step_spec h op
    obtain ⟨hsrest, hrest⟩ := ih hs
    exact ⟨hsrest, PqRun.cons hstep hrest⟩

theorem drain_spec (h : heap.mTree.Sound ranks) :
    ∃ popped : List α,
      (heap.calls ranks (List.replicate heap.contents.card .pop)).2 =
        popped.map (fun y => (.pop, some y)) ∧
      (heap.calls ranks (List.replicate heap.contents.card .pop)).1 = {} := by
  generalize hn : heap.contents.card = n
  induction n generalizing heap with
  | zero =>
    refine ⟨[], rfl, ?_⟩
    have hz := LocHeapNode.contents_eq_zero (Multiset.card_eq_zero.mp hn)
    obtain ⟨t⟩ := heap
    exact congrArg LocHeap.mk hz
  | succ n ih =>
    obtain ⟨hs, hstep⟩ := step_spec h .pop
    have hcall : heap.calls ranks (List.replicate (n + 1) .pop) =
        (((heap.step ranks .pop).1.calls ranks (List.replicate n .pop)).1,
          (.pop, (heap.step ranks .pop).2) ::
            ((heap.step ranks .pop).1.calls ranks (List.replicate n .pop)).2) := rfl
    rw [hcall]
    generalize heap.step ranks .pop = p at hs hstep ⊢
    obtain ⟨rest, res⟩ := p
    dsimp only at hs hstep ⊢
    generalize hm : heap.contents = m at hstep hn
    generalize hm' : rest.contents = m' at hstep
    cases hstep with
    | popNone => exact absurd hn (by simp)
    | pop _ y stored top =>
      have hcard := Multiset.card_erase_of_mem stored
      obtain ⟨popped, hres, hempty⟩ := ih hs (by rw [hm', hcard, hn]; rfl)
      exact ⟨y :: popped, by rw [hres]; rfl, hempty⟩

end LocHeap

/-- After any calls on a new heap: the check holds, the elements stored are those of a priority
queue with these calls and results, a call after them again is one of it, an element that is not
stored is not removed and nothing changes, and pops to the end return the elements stored in order
of rank. -/
theorem locHeap_correct [DecidableEq α] [IsStrictWeakOrder α (OutRanks ranks)] (ops : List (PqOp α)) :
    let (heap, results) := ({} : LocHeap α).calls ranks ops
    heap.checkTree ranks = true ∧ results.map Prod.fst = ops ∧
      PqRun (OutRanks ranks) 0 results heap.contents ∧
      (∀ op, PqStep (OutRanks ranks) heap.contents op (heap.step ranks op).2
        (heap.step ranks op).1.contents) ∧
      (∀ x, x ∉ heap.contents → heap.remove ranks x = (heap, none)) ∧
      ∃ popped : List α,
        heap.calls ranks (List.replicate heap.contents.card .pop) =
          ({}, popped.map fun y => (.pop, some y)) ∧
        (popped.Pairwise fun x y => ¬OutRanks ranks y x) ∧ heap.contents = popped := by
  have first : ({} : LocHeap α).mTree.Sound ranks := trivial
  obtain ⟨hs, hrun⟩ := LocHeap.calls_spec first ops
  have hops := @LocHeap.calls_ops α ranks _ {} ops
  generalize ({} : LocHeap α).calls ranks ops = p at hs hrun hops
  obtain ⟨heap, results⟩ := p
  refine ⟨LocHeap.checkTree_iff.mpr hs, hops, hrun, fun op => (LocHeap.step_spec hs op).2,
    fun x hx => ?_, ?_⟩
  · rcases LocHeapNode.remove_spec (x := x) hs with ⟨hm, -⟩ | ⟨-, hres⟩
    · exact absurd hm hx
    · unfold LocHeap.remove
      rw [hres]
  · obtain ⟨popped, hres, hempty⟩ := LocHeap.drain_spec hs
    obtain ⟨-, hdrain⟩ := LocHeap.calls_spec hs (List.replicate heap.contents.card .pop)
    rw [hres, hempty] at hdrain
    obtain ⟨hsorted, hall⟩ := hdrain.drain
    refine ⟨popped, Prod.ext hempty hres, hsorted, ?_⟩
    rw [hall]
    exact Multiset.add_zero _

/-- Elements with a number, ranked by a smaller second one. -/
def ranksByKey (x y : Nat × Nat) : Int := y.2 - x.2

instance : IsStrictWeakOrder (Nat × Nat) (OutRanks ranksByKey) := strictWeakOrder_of_key Prod.snd

theorem locHeap_correct_ties : (({} : LocHeap (Nat × Nat)).calls ranksByKey
    [.push (0, 5), .push (1, 3), .push (2, 3), .remove (1, 3), .pop]).1.checkTree ranksByKey = true :=
  (locHeap_correct [.push (0, 5), .push (1, 3), .push (2, 3), .remove (1, 3), .pop]).1

end DeviceHal.Gps
