import Mathlib.Data.Finset.Card

namespace DeviceHal.Lib

universe u v

/-- Objects that are installed elsewhere, each under a handle of its own. No handle is zero. -/
structure Handles (α : Type u) where
  next : Nat := 1
  installed : Nat → Option α := fun _ => none

namespace Handles

variable {α : Type u} {σ : Type v}

def add (k : Handles α) (x : α) : Nat × Handles α :=
  (k.next, ⟨k.next + 1, Function.update k.installed k.next (some x)⟩)

def addAll (k : Handles α) : List α → List Nat × Handles α
  | [] => ([], k)
  | x :: xs =>
    let r := (k.add x).2.addAll xs
    (k.next :: r.1, r.2)

def del (k : Handles α) (h : Nat) : Handles α :=
  { k with installed := Function.update k.installed h none }

def delAll (k : Handles α) (hs : List Nat) : Handles α := hs.foldl del k

@[simp]
theorem length_addAll (k : Handles α) (xs : List α) : (k.addAll xs).1.length = xs.length := by
  induction xs generalizing k with
  | nil => rfl
  | cons x xs ih =>
    simp only [Handles.addAll, List.length_cons]
    rw [ih]

theorem delAll_append (k : Handles α) (hs hs' : List Nat) :
    k.delAll (hs ++ hs') = (k.delAll hs).delAll hs' := List.foldl_append

/-- Exactly the objects of the slots that hold a handle are installed, under these handles. -/
structure Books (k : Handles α) (object : σ → α) (held : σ → Nat → Prop) : Prop where
  pos : 0 < k.next
  zero : k.installed 0 = none
  fresh : ∀ h, k.next ≤ h → k.installed h = none
  installed_iff : ∀ h x, k.installed h = some x ↔ ∃ slot, held slot h ∧ object slot = x

variable {k : Handles α} {object object' : σ → α} {held held' : σ → Nat → Prop} {slot : σ}

theorem books_empty (object : σ → α) : Books ({} : Handles α) object fun _ _ => False :=
  ⟨Nat.one_pos, rfl, fun _ _ => rfl, fun _ _ => ⟨nofun, fun ⟨_, h, _⟩ => h.elim⟩⟩

theorem Books.congr (h : k.Books object held) (hheld : ∀ slot g, held' slot g ↔ held slot g)
    (hobject : ∀ slot g, held slot g → object' slot = object slot) : k.Books object' held' := by
  refine ⟨h.pos, h.zero, h.fresh, fun g x => (h.installed_iff g x).trans ?_⟩
  grind

theorem Books.installed (h : k.Books object held) {g : Nat} (hg : held slot g) :
    k.installed g = some (object slot) := (h.installed_iff g _).mpr ⟨slot, hg, rfl⟩

theorem Books.lt_next (h : k.Books object held) {g : Nat} (hg : held slot g) : g < k.next := by
  refine Nat.lt_of_not_le fun hle => ?_
  have hnone : k.installed g = none := h.fresh g hle
  rw [h.installed hg] at hnone
  cases hnone

theorem Books.slot_unique (h : k.Books object held) (inj : Function.Injective object) {g : Nat}
    {slot' : σ} (hg : held slot g) (hg' : held slot' g) : slot = slot' :=
  inj (Option.some.inj ((h.installed hg).symm.trans (h.installed hg')))

theorem Books.add (h : k.Books object held) (new : σ) :
    (k.add (object new)).2.Books object fun slot g => held slot g ∨ slot = new ∧ g = k.next := by
  have hself : (k.add (object new)).2.installed k.next = some (object new) :=
    Function.update_self ..
  have hother : ∀ g, g ≠ k.next → (k.add (object new)).2.installed g = k.installed g :=
    fun g hg => Function.update_of_ne hg ..
  have hpos := h.pos
  refine ⟨Nat.succ_pos _, (hother 0 (by omega)).trans h.zero, fun g hg => ?_, fun g x => ?_⟩
  · have hlt : k.next < g := hg
    exact (hother g (by omega)).trans (h.fresh g (by omega))
  · by_cases hn : g = k.next
    · subst hn
      rw [hself]
      constructor
      · grind
      · rintro ⟨slot, hg | ⟨rfl, -⟩, rfl⟩
        · exact absurd (h.lt_next hg) (by omega)
        · rfl
    grind [h.installed_iff]

/-- The objects of several slots are installed one after the other. -/
theorem Books.addAll (h : k.Books object held) (slots : List σ) :
    (k.addAll (slots.map object)).2.Books object fun slot g =>
      held slot g ∨ ∃ i : Nat, slots[i]? = some slot ∧ (k.addAll (slots.map object)).1[i]? = some g := by
  induction slots generalizing k held with
  | nil =>
    refine h.congr (fun slot g => ⟨fun hg => hg.resolve_right ?_, Or.inl⟩) fun _ _ _ => rfl
    rintro ⟨i, hi, -⟩
    cases hi
  | cons new slots ih =>
    refine (ih (h.add new)).congr (fun slot g => ?_) fun _ _ _ => rfl
    simp only [List.map_cons, Handles.addAll]
    rw [or_assoc]
    refine or_congr Iff.rfl ⟨?_, ?_⟩
    · rintro ⟨i, hslot, hg⟩
      cases i with
      | zero => grind
      | succ i => exact Or.inr ⟨i, hslot, hg⟩
    · rintro (⟨rfl, rfl⟩ | ⟨i, hslot, hg⟩)
      · exact ⟨0, rfl, rfl⟩
      · exact ⟨i + 1, hslot, hg⟩

theorem installed_delAll (k : Handles α) (hs : List Nat) (g : Nat) :
    (k.delAll hs).installed g = if g ∈ hs then none else k.installed g := by
  induction hs generalizing k with
  | nil => rfl
  | cons g₀ hs ih =>
    refine (ih (k.del g₀)).trans ?_
    by_cases hmem : g ∈ hs
    · rw [if_pos hmem, if_pos (List.mem_cons_of_mem _ hmem)]
    · rw [if_neg hmem]
      by_cases he : g = g₀
      · rw [he, if_pos List.mem_cons_self]
        exact Function.update_self ..
      · rw [if_neg fun h => (List.mem_cons.mp h).elim he hmem]
        exact Function.update_of_ne he ..

theorem next_delAll (k : Handles α) (hs : List Nat) : (k.delAll hs).next = k.next := by
  induction hs generalizing k with
  | nil => rfl
  | cons g₀ hs ih => exact ih (k.del g₀)

/-- The handles of some slots are given back, and no other slot's. -/
theorem Books.delAll (h : k.Books object held) (inj : Function.Injective object) (hs : List Nat)
    (drop : σ → Prop) (hall : ∀ slot g, drop slot → held slot g → g ∈ hs)
    (honly : ∀ g ∈ hs, g = 0 ∨ ∃ slot, drop slot ∧ held slot g) :
    (k.delAll hs).Books object fun slot g => held slot g ∧ ¬drop slot := by
  refine ⟨(next_delAll k hs).symm ▸ h.pos, ?_, fun g hg => ?_, fun g x => ?_⟩
  · rw [installed_delAll]
    split
    · rfl
    · exact h.zero
  · rw [next_delAll] at hg
    rw [installed_delAll]
    split
    · rfl
    · exact h.fresh g hg
  · rw [installed_delAll]
    split
    next hmem =>
      refine ⟨nofun, ?_⟩
      rintro ⟨slot, ⟨hg, hkept⟩, -⟩
      rcases honly g hmem with rfl | ⟨slot', hdrop, hg'⟩
      · have hzero := h.installed hg
        rw [h.zero] at hzero
        cases hzero
      · exact absurd (h.slot_unique inj hg' hg ▸ hdrop) hkept
    grind [h.installed_iff]

/-- The object of a slot that holds one handle at most is installed once or not at all. -/
theorem Books.once (h : k.Books object held) (inj : Function.Injective object)
    (hunique : ∀ g g', held slot g → held slot g' → g = g') (hheld : ∃ g, held slot g) :
    ∃ g, k.installed g = some (object slot) ∧
      ∀ g', k.installed g' = some (object slot) → g' = g := by
  obtain ⟨g, hg⟩ := hheld
  refine ⟨g, h.installed hg, fun g' hg' => ?_⟩
  obtain ⟨slot', hheld', heq⟩ := (h.installed_iff g' _).mp hg'
  exact hunique g' g (inj heq ▸ hheld') hg

end Handles

end DeviceHal.Lib

namespace DeviceHal.Lib.Handles

universe u

variable {α : Type u} {k : Handles α}

def holds (k : Handles α) (p : α → Bool) (g : Nat) : Bool := (k.installed g).any p

def count (k : Handles α) (p : α → Bool) : Nat := ((Finset.range k.next).filter fun g => k.holds p g).card

theorem count_add (k : Handles α) (x : α) (p : α → Bool) :
    (k.add x).2.count p = k.count p + if p x then 1 else 0 := by
  have hself : (k.add x).2.holds p k.next = p x := by
    simp [holds, add, Function.update_self]
  have hother : (Finset.range k.next).filter (fun g => (k.add x).2.holds p g) =
      (Finset.range k.next).filter fun g => k.holds p g := by
    refine Finset.filter_congr fun g hg => ?_
    have hne : g ≠ k.next := by
      have hlt := Finset.mem_range.mp hg
      omega
    simp [holds, add, Function.update_of_ne hne]
  have hnext : (k.add x).2.next = k.next + 1 := rfl
  unfold count
  grind [Finset.range_add_one, Finset.filter_insert, Finset.card_insert_of_notMem]

theorem count_addAll (k : Handles α) (xs : List α) (p : α → Bool) :
    (k.addAll xs).2.count p = k.count p + xs.countP p := by
  induction xs generalizing k with
  | nil => rfl
  | cons x xs ih =>
    have hrest := ih (k.add x).2
    have hfirst := count_add k x p
    rw [List.countP_cons]
    simp only [addAll]
    omega

variable {g : Nat}

theorem count_del (hfresh : ∀ g, k.next ≤ g → k.installed g = none) {x : α}
    (hg : k.installed g = some x) (p : α → Bool) :
    (k.del g).count p + (if p x then 1 else 0) = k.count p := by
  have hlt : g < k.next := by
    refine Nat.lt_of_not_le fun hle => ?_
    have hnone := hfresh g hle
    rw [hg] at hnone
    cases hnone
  have herase : (Finset.range k.next).filter (fun g' => (k.del g).holds p g') =
      ((Finset.range k.next).filter fun g' => k.holds p g').erase g := by
    ext g'
    rw [Finset.mem_erase, Finset.mem_filter, Finset.mem_filter]
    by_cases he : g' = g
    · subst he
      simp [holds, del, Function.update_self]
    · simp [holds, del, he]
  have hself : k.holds p g = p x := by
    simp [holds, hg]
  have hcount : (k.del g).count p =
      (((Finset.range k.next).filter fun g' => k.holds p g').erase g).card := by
    rw [← herase]
    rfl
  unfold count at hcount ⊢
  split
  next hp =>
    have hmem : g ∈ (Finset.range k.next).filter fun g' => k.holds p g' :=
      Finset.mem_filter.mpr ⟨Finset.mem_range.mpr hlt, by rw [hself, hp]⟩
    grind
  next hp =>
    have hmem : g ∉ (Finset.range k.next).filter fun g' => k.holds p g' := by
      intro hmem
      have hheld := (Finset.mem_filter.mp hmem).2
      rw [hself] at hheld
      exact hp hheld
    rw [Finset.erase_eq_of_notMem hmem] at hcount
    omega

theorem del_of_absent (hg : k.installed g = none) : k.del g = k := by
  have hsame : Function.update k.installed g none = k.installed := by
    rw [← hg]
    exact Function.update_eq_self ..
  unfold del
  rw [hsame]

theorem addAll_handles (k : Handles α) (xs : List α) : (k.addAll xs).1 = List.range' k.next xs.length := by
  induction xs generalizing k with
  | nil => rfl
  | cons x xs ih =>
    have hrest := ih (k.add x).2
    simp only [addAll, List.length_cons, List.range'_succ]
    rw [hrest]
    rfl

theorem addAll_next (k : Handles α) (xs : List α) : (k.addAll xs).2.next = k.next + xs.length := by
  induction xs generalizing k with
  | nil => rfl
  | cons x xs ih =>
    have hrest := ih (k.add x).2
    have hfirst : (k.add x).2.next = k.next + 1 := rfl
    simp only [addAll, List.length_cons]
    omega

theorem addAll_installed_of_lt {xs : List α} (hg : g < k.next) :
    (k.addAll xs).2.installed g = k.installed g := by
  induction xs generalizing k with
  | nil => rfl
  | cons x xs ih =>
    have hrest := ih (k := (k.add x).2) (Nat.lt_succ_of_lt hg)
    have hne : g ≠ k.next := by omega
    exact hrest.trans (Function.update_of_ne hne ..)

theorem addAll_installed (k : Handles α) (xs : List α) {i : Nat} (hi : i < xs.length) :
    (k.addAll xs).2.installed (k.next + i) = xs[i]? := by
  induction xs generalizing k i with
  | nil => cases hi
  | cons x xs ih =>
    cases i with
    | zero =>
      have hlt : k.next < (k.add x).2.next := Nat.lt_succ_self k.next
      have hkeep : ((k.add x).2.addAll xs).2.installed k.next = (k.add x).2.installed k.next :=
        addAll_installed_of_lt hlt
      exact hkeep.trans (Function.update_self ..)
    | succ i =>
      have hrest := ih (k.add x).2 (Nat.lt_of_succ_lt_succ hi)
      have hnext : (k.add x).2.next + i = k.next + (i + 1) := by
        have hfirst : (k.add x).2.next = k.next + 1 := rfl
        omega
      rw [hnext] at hrest
      exact hrest

theorem addAll_installed_of_le (hfresh : ∀ g, k.next ≤ g → k.installed g = none) {xs : List α}
    (hg : k.next + xs.length ≤ g) : (k.addAll xs).2.installed g = none := by
  induction xs generalizing k with
  | nil => exact hfresh g hg
  | cons x xs ih =>
    have hnext : (k.add x).2.next = k.next + 1 := rfl
    rw [List.length_cons] at hg
    refine ih (fun g' hg' => ?_) (by omega)
    have hne : g' ≠ k.next := by omega
    exact (Function.update_of_ne hne ..).trans (hfresh g' (by omega))

theorem addAll_iff (hfresh : ∀ g, k.next ≤ g → k.installed g = none) {xs : List α} {x : α} :
    (k.addAll xs).2.installed g = some x ↔
      k.installed g = some x ∨ ∃ i, g = k.next + i ∧ xs[i]? = some x := by
  rcases Nat.lt_or_ge g k.next with hlt | hge
  · rw [addAll_installed_of_lt hlt]
    grind
  · obtain ⟨i, rfl⟩ := Nat.exists_eq_add_of_le hge
    have hnone := hfresh (k.next + i) hge
    rw [hnone]
    rcases Nat.lt_or_ge i xs.length with hi | hi
    · rw [addAll_installed k _ hi]
      refine ⟨fun h => Or.inr ⟨i, rfl, h⟩, ?_⟩
      rintro (h | ⟨j, hj, h⟩)
      · cases h
      · have he : i = j := by omega
        exact he ▸ h
    · rw [addAll_installed_of_le hfresh (by omega)]
      grind

theorem delAll_iff {hs : List Nat} {x : α} :
    (k.delAll hs).installed g = some x ↔ g ∉ hs ∧ k.installed g = some x := by
  rw [installed_delAll]
  split
  next hmem => exact ⟨nofun, fun h => absurd hmem h.1⟩
  next hmem => exact ⟨fun h => ⟨hmem, h⟩, And.right⟩

/-- Handles from `next` on have not been given, and zero is never given. -/
structure Sound (k : Handles α) : Prop where
  pos : 0 < k.next
  zero : k.installed 0 = none
  fresh : ∀ g, k.next ≤ g → k.installed g = none

theorem Sound.lt_next (h : k.Sound) {x : α} (hg : k.installed g = some x) : g < k.next := by
  refine Nat.lt_of_not_le fun hle => ?_
  have hnone := h.fresh g hle
  rw [hg] at hnone
  cases hnone

theorem Sound.addAll (h : k.Sound) (xs : List α) : (k.addAll xs).2.Sound := by
  have hnext := addAll_next k xs
  have hpos := h.pos
  refine ⟨by omega, ?_, fun g hg => ?_⟩
  · rw [addAll_installed_of_lt hpos]
    exact h.zero
  · exact addAll_installed_of_le h.fresh (by omega)

theorem Sound.delAll (h : k.Sound) (hs : List Nat) : (k.delAll hs).Sound := by
  refine ⟨(next_delAll k hs).symm ▸ h.pos, ?_, fun g hg => ?_⟩
  · rw [installed_delAll]
    split
    · rfl
    · exact h.zero
  · rw [next_delAll] at hg
    rw [installed_delAll]
    split
    · rfl
    · exact h.fresh g hg

/-- Installed objects of one kind are taken away, no two of them under one handle. -/
theorem count_delAll (h : k.Sound) {hs : List Nat} (hnodup : hs.Nodup) {p : α → Bool}
    (hall : ∀ g ∈ hs, ∃ x, k.installed g = some x ∧ p x = true) :
    (k.delAll hs).count p + hs.length = k.count p := by
  induction hs generalizing k with
  | nil => rfl
  | cons g hs ih =>
    obtain ⟨x, hx, hp⟩ := hall g List.mem_cons_self
    obtain ⟨hnotin, hnodup'⟩ := List.nodup_cons.mp hnodup
    have hfirst := count_del h.fresh hx p
    rw [if_pos hp] at hfirst
    have hrest : ((k.del g).delAll hs).count p + hs.length = (k.del g).count p := by
      refine ih (h.delAll [g]) hnodup' fun g' hg' => ?_
      obtain ⟨x', hx', hp'⟩ := hall g' (List.mem_cons_of_mem _ hg')
      have hne : g' ≠ g := fun he => hnotin (he ▸ hg')
      exact ⟨x', (Function.update_of_ne hne ..).trans hx', hp'⟩
    have hsame : k.delAll (g :: hs) = (k.del g).delAll hs := rfl
    rw [hsame, List.length_cons]
    omega

theorem count_delAll_other (h : k.Sound) {hs : List Nat} {p : α → Bool}
    (hall : ∀ g ∈ hs, ∀ x, k.installed g = some x → p x = false) :
    (k.delAll hs).count p = k.count p := by
  induction hs generalizing k with
  | nil => rfl
  | cons g hs ih =>
    have hfirst : (k.del g).count p = k.count p := by
      cases hg : k.installed g with
      | none => rw [del_of_absent hg]
      | some x =>
        have hcount := count_del h.fresh hg p
        grind
    refine (ih (k := k.del g) (h.delAll [g]) fun g' hg' x hx => ?_).trans hfirst
    refine hall g' (List.mem_cons_of_mem _ hg') x ?_
    have hwas : g' ∉ [g] ∧ k.installed g' = some x := delAll_iff.mp hx
    exact hwas.2

end DeviceHal.Lib.Handles
