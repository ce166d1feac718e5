import Mathlib.Data.List.Nodup
import Mathlib.Data.List.Perm.Subperm

namespace DeviceHal.Lib

universe u

/-- A cell of a doubly linked list. -/
structure Cell (α : Type u) where
  next : Option Nat
  prev : Option Nat
  value : α

abbrev Cells (α : Type u) := Std.TreeMap Nat (Cell α)

variable {α : Type u}

namespace Cells

def put (a : Nat) (cell : Cell α) (cells : Cells α) : Cells α := cells.insert a cell

def free (a : Nat) (cells : Cells α) : Cells α := cells.erase a

def update (a : Nat) (f : Cell α → Cell α) (cells : Cells α) : Cells α :=
  match cells[a]? with
  | some cell => cells.put a (f cell)
  | none => cells

def setNext (next : Option Nat) (a : Nat) (cells : Cells α) : Cells α :=
  cells.update a fun cell => { cell with next }

def setPrev (prev : Option Nat) (a : Nat) (cells : Cells α) : Cells α :=
  cells.update a fun cell => { cell with prev }

/-- Links the cell at `a`, if there is one, on to `next`. -/
def relinkNext (next : Option Nat) (a : Option Nat) (cells : Cells α) : Cells α :=
  match a with
  | some a => cells.setNext next a
  | none => cells

/-- Links the cell at `a`, if there is one, back to `prev`. -/
def relinkPrev (prev : Option Nat) (a : Option Nat) (cells : Cells α) : Cells α :=
  match a with
  | some a => cells.setPrev prev a
  | none => cells

theorem getElem?_put (cells : Cells α) (a x : Nat) (cell : Cell α) :
    (cells.put a cell)[x]? = if a = x then some cell else cells[x]? := by
  unfold put
  grind

theorem getElem?_free (cells : Cells α) (a x : Nat) :
    (cells.free a)[x]? = if a = x then none else cells[x]? := by
  unfold free
  grind

theorem getElem?_update (cells : Cells α) (a x : Nat) (f : Cell α → Cell α) :
    (cells.update a f)[x]? = if a = x then cells[x]?.map f else cells[x]? := by
  unfold update
  grind [getElem?_put]

theorem mem_put (cells : Cells α) (a x : Nat) (cell : Cell α) :
    x ∈ cells.put a cell ↔ x = a ∨ x ∈ cells := by
  unfold put
  grind

theorem mem_free (cells : Cells α) (a x : Nat) : x ∈ cells.free a ↔ x ≠ a ∧ x ∈ cells := by
  unfold free
  grind

theorem mem_iff_isSome (cells : Cells α) (a : Nat) : a ∈ cells ↔ (cells[a]?).isSome = true :=
  Std.TreeMap.mem_iff_isSome_getElem?

end Cells

/-- The address of the first entry, and `next` if there is none. -/
def firstAddr (next : Option Nat) : List (Nat × α) → Option Nat
  | [] => next
  | e :: _ => some e.1

/-- The address of the last entry, and `prev` if there is none. -/
def lastAddr (prev : Option Nat) : List (Nat × α) → Option Nat
  | [] => prev
  | e :: rest => lastAddr (some e.1) rest

/-- The cells of the entries hold their values, and link them in order between `prev` and
`next`. -/
def Segment (cells : Cells α) : Option Nat → List (Nat × α) → Option Nat → Prop
  | _, [], _ => True
  | prev, e :: rest, next =>
    cells[e.1]? = some { next := firstAddr next rest, prev, value := e.2 } ∧
      Segment cells (some e.1) rest next

/-- The cells are those of one acyclic list between `head` and `tail`, linked both ways. -/
structure Chained (cells : Cells α) (head tail : Option Nat) (entries : List (Nat × α)) :
    Prop where
  nodup : (entries.map Prod.fst).Nodup
  linked : Segment cells none entries none
  head_eq : head = firstAddr none entries
  tail_eq : tail = lastAddr none entries
  only : ∀ a, a ∈ cells ↔ a ∈ entries.map Prod.fst

variable {cells cells' : Cells α} {prev next head tail : Option Nat} {entries l r : List (Nat × α)}

theorem firstAddr_append (l r : List (Nat × α)) :
    firstAddr next (l ++ r) = firstAddr (firstAddr next r) l := by
  cases l <;> rfl

theorem lastAddr_append (l r : List (Nat × α)) :
    lastAddr prev (l ++ r) = lastAddr (lastAddr prev l) r := by
  induction l generalizing prev with
  | nil => rfl
  | cons e l ih => exact ih

theorem lastAddr_concat (l : List (Nat × α)) (e : Nat × α) : lastAddr prev (l ++ [e]) = some e.1 := by
  rw [lastAddr_append]
  rfl

theorem segment_append :
    Segment cells prev (l ++ r) next ↔
      Segment cells prev l (firstAddr next r) ∧ Segment cells (lastAddr prev l) r next := by
  induction l generalizing prev with
  | nil => simp [Segment, lastAddr]
  | cons e l ih => simp [Segment, lastAddr, ih, firstAddr_append, and_assoc]

theorem Segment.congr (h : Segment cells prev entries next)
    (same : ∀ e ∈ entries, cells'[e.1]? = cells[e.1]?) : Segment cells' prev entries next := by
  induction entries generalizing prev with
  | nil => trivial
  | cons e rest ih =>
    refine ⟨(same e List.mem_cons_self).trans h.1, ih h.2 fun e' he' => ?_⟩
    exact same e' (List.mem_cons_of_mem _ he')

theorem Segment.at {e : Nat × α} (h : Segment cells prev (l ++ e :: r) next) :
    cells[e.1]? = some { next := firstAddr next r, prev := lastAddr prev l, value := e.2 } :=
  (segment_append.mp h).2.1

theorem Segment.setNext_last (next' : Option Nat) {e : Nat × α}
    (h : Segment cells prev (l ++ [e]) next) (hn : ((l ++ [e]).map Prod.fst).Nodup) :
    Segment (cells.setNext next' e.1) prev (l ++ [e]) next' := by
  rw [segment_append] at h ⊢
  have hout : ∀ e' ∈ l, e.1 ≠ e'.1 := by
    intro e' he' heq
    rw [List.map_append] at hn
    exact List.disjoint_of_nodup_append hn (List.mem_map_of_mem he') (by simp [heq])
  refine ⟨h.1.congr fun e' he' => ?_, ?_, trivial⟩
  · unfold Cells.setNext
    rw [Cells.getElem?_update, if_neg (hout e' he')]
  · unfold Cells.setNext
    rw [Cells.getElem?_update, if_pos rfl, h.2.1]
    rfl

theorem Segment.setPrev_first (prev' : Option Nat) {e : Nat × α}
    (h : Segment cells prev (e :: r) next) (hn : ((e :: r).map Prod.fst).Nodup) :
    Segment (cells.setPrev prev' e.1) prev' (e :: r) next := by
  have hout : ∀ e' ∈ r, e.1 ≠ e'.1 := by
    intro e' he' heq
    exact (List.nodup_cons.mp hn).1 (heq ▸ List.mem_map_of_mem he')
  refine ⟨?_, h.2.congr fun e' he' => ?_⟩
  · unfold Cells.setPrev
    rw [Cells.getElem?_update, if_pos rfl, h.1]
    rfl
  · unfold Cells.setPrev
    rw [Cells.getElem?_update, if_neg (hout e' he')]

theorem Segment.relinkNext (next' : Option Nat) (h : Segment cells prev l next)
    (hn : (l.map Prod.fst).Nodup) :
    Segment (cells.relinkNext next' (lastAddr none l)) prev l next' := by
  rcases List.eq_nil_or_concat' l with rfl | ⟨l, e, rfl⟩
  · trivial
  · rw [lastAddr_concat]
    exact h.setNext_last next' hn

theorem Segment.relinkPrev (prev' : Option Nat) (h : Segment cells prev r next)
    (hn : (r.map Prod.fst).Nodup) :
    Segment (cells.relinkPrev prev' (firstAddr none r)) prev' r next := by
  cases r with
  | nil => trivial
  | cons e r => exact h.setPrev_first prev' hn

variable {a : Option Nat} {x : Nat}

theorem getElem?_relinkNext (h : a ≠ some x) : (cells.relinkNext next a)[x]? = cells[x]? := by
  cases a with
  | none => rfl
  | some a =>
    unfold Cells.relinkNext Cells.setNext
    rw [Cells.getElem?_update, if_neg fun he => h (congrArg some he)]

theorem getElem?_relinkPrev (h : a ≠ some x) : (cells.relinkPrev prev a)[x]? = cells[x]? := by
  cases a with
  | none => rfl
  | some a =>
    unfold Cells.relinkPrev Cells.setPrev
    rw [Cells.getElem?_update, if_neg fun he => h (congrArg some he)]

theorem mem_update {a x : Nat} {f : Cell α → Cell α} : x ∈ cells.update a f ↔ x ∈ cells := by
  rw [Cells.mem_iff_isSome, Cells.mem_iff_isSome, Cells.getElem?_update]
  split
  next => rw [Option.isSome_map]
  next => rfl

theorem mem_relinkNext : x ∈ cells.relinkNext next a ↔ x ∈ cells := by
  cases a with
  | none => rfl
  | some a => exact mem_update

theorem mem_relinkPrev : x ∈ cells.relinkPrev prev a ↔ x ∈ cells := by
  cases a with
  | none => rfl
  | some a => exact mem_update

theorem lastAddr_mem (h : lastAddr none l = some x) : x ∈ l.map Prod.fst := by
  rcases List.eq_nil_or_concat' l with rfl | ⟨l, e, rfl⟩
  · cases h
  · rw [lastAddr_concat] at h
    cases Option.some.inj h
    simp

theorem firstAddr_mem (h : firstAddr none r = some x) : x ∈ r.map Prod.fst := by
  cases r with
  | nil => cases h
  | cons e r =>
    cases Option.some.inj h
    simp

theorem chained_nil : Chained ({} : Cells α) none none [] where
  nodup := List.nodup_nil
  linked := trivial
  head_eq := rfl
  tail_eq := rfl
  only a := by simp

theorem Chained.push (h : Chained cells head tail entries) {a : Nat} {v : α} (hfree : a ∉ cells) :
    Chained (((cells.put a { next := none, prev := none, value := v }).setNext head a).relinkPrev
        (some a) head) (some a) (if head.isSome then tail else some a) ((a, v) :: entries) := by
  have hout : a ∉ entries.map Prod.fst := fun hm => hfree ((h.only a).mpr hm)
  have hnodup : (((a, v) :: entries).map Prod.fst).Nodup := List.nodup_cons.mpr ⟨hout, h.nodup⟩
  have hnew : ((cells.put a { next := none, prev := none, value := v }).setNext head a)[a]? =
      some { next := head, prev := none, value := v } := by
    unfold Cells.setNext
    rw [Cells.getElem?_update, if_pos rfl, Cells.getElem?_put, if_pos rfl]
    rfl
  have hold : ∀ e ∈ entries,
      ((cells.put a { next := none, prev := none, value := v }).setNext head a)[e.1]? =
        cells[e.1]? := by
    intro e he
    have hne : a ≠ e.1 := fun heq => hout (heq ▸ List.mem_map_of_mem he)
    unfold Cells.setNext
    rw [Cells.getElem?_update, if_neg hne, Cells.getElem?_put, if_neg hne]
  have hhead : head ≠ some a := by
    rw [h.head_eq]
    exact fun he => hout (firstAddr_mem he)
  refine ⟨hnodup, ⟨?_, ?_⟩, rfl, ?_, fun x => ?_⟩
  · rw [getElem?_relinkPrev hhead, hnew, h.head_eq]
  · rw [h.head_eq] at hold ⊢
    exact (h.linked.congr hold).relinkPrev (some a) h.nodup
  · rw [h.head_eq, h.tail_eq]
    cases entries with
    | nil => rfl
    | cons e rest => rfl
  · rw [mem_relinkPrev]
    unfold Cells.setNext
    rw [mem_update, Cells.mem_put, h.only x, List.map_cons, List.mem_cons]

/-- A cell is taken out, its neighbours or the ends being linked past it. -/
theorem Chained.unlink {a : Nat} {v : α} (h : Chained cells head tail (l ++ (a, v) :: r)) :
    Chained (((cells.relinkNext (firstAddr none r) (lastAddr none l)).relinkPrev (lastAddr none l)
        (firstAddr none r)).free a)
      (if (lastAddr none l).isSome then head else firstAddr none r)
      (if (firstAddr none r).isSome then tail else lastAddr none l) (l ++ r) := by
  have hnodup := h.nodup
  rw [List.map_append, List.map_cons, List.nodup_append] at hnodup
  obtain ⟨hl, hr, hdisj⟩ := hnodup
  obtain ⟨har, hr⟩ := List.nodup_cons.mp hr
  have hal : a ∉ l.map Prod.fst := fun hm => hdisj a hm a List.mem_cons_self rfl
  have hlr : ∀ x ∈ l.map Prod.fst, x ∉ r.map Prod.fst :=
    fun x hx hm => hdisj x hx x (List.mem_cons_of_mem _ hm) rfl
  obtain ⟨hsl, -, hsr⟩ := segment_append.mp h.linked
  have hsl' := hsl.relinkNext (firstAddr none r) hl
  have hsr' : Segment (cells.relinkNext (firstAddr none r) (lastAddr none l)) (some a) r none := by
    refine hsr.congr fun e he => getElem?_relinkNext fun heq => ?_
    exact hlr e.1 (lastAddr_mem heq) (List.mem_map_of_mem he)
  have hsl'' : Segment ((cells.relinkNext (firstAddr none r) (lastAddr none l)).relinkPrev
      (lastAddr none l) (firstAddr none r)) none l (firstAddr none r) := by
    refine hsl'.congr fun e he => getElem?_relinkPrev fun heq => ?_
    exact hlr e.1 (List.mem_map_of_mem he) (firstAddr_mem heq)
  have hsr'' := hsr'.relinkPrev (lastAddr none l) hr
  have herase : ∀ {x : Nat} {table : Cells α}, x ≠ a → (table.free a)[x]? = table[x]? := by
    intro x table hx
    rw [Cells.getElem?_free, if_neg (Ne.symm hx)]
  refine ⟨?_, segment_append.mpr ⟨?_, ?_⟩, ?_, ?_, fun x => ?_⟩
  · grind
  · exact hsl''.congr fun e he => herase fun heq => hal (heq ▸ List.mem_map_of_mem he)
  · refine hsr''.congr fun e he => herase fun heq => ?_
    grind
  · rw [h.head_eq, firstAddr_append, firstAddr_append]
    cases l with
    | nil => rfl
    | cons e l =>
      have : (lastAddr none (e :: l)).isSome = true := by
        rcases List.eq_nil_or_concat' (e :: l) with hc | ⟨l', e', hc⟩
        · cases hc
        · rw [hc, lastAddr_concat]
          rfl
      rw [if_pos this]
      rfl
  · rw [h.tail_eq, lastAddr_append, lastAddr_append]
    cases r with
    | nil => rfl
    | cons e r => rfl
  · rw [Cells.mem_free, mem_relinkPrev, mem_relinkNext, h.only x]
    simp only [List.map_append, List.map_cons, List.mem_append, List.mem_cons]
    constructor
    · grind
    grind

theorem Chained.length_le (h : Chained cells head tail entries) : entries.length ≤ cells.size := by
  have hsub : entries.map Prod.fst ⊆ cells.keys := by
    intro a ha
    exact Std.TreeMap.mem_keys.mpr ((h.only a).mpr ha)
  have := (List.subperm_of_subset h.nodup hsub).length_le
  grind

end DeviceHal.Lib
