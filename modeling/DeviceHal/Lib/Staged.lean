import Mathlib.Data.List.Basic
import Mathlib.Order.Lattice

namespace DeviceHal.Lib

universe u v

variable {α : Type u} {κ : Type v} [LinearOrder κ]

theorem cons_eraseIdx_perm {l : List α} {i : Nat} {x : α} (h : l[i]? = some x) :
    (x :: l.eraseIdx i).Perm l := by
  obtain ⟨hlt, rfl⟩ := List.getElem?_eq_some_iff.mp h
  have hsplit : l = l.take i ++ l[i] :: l.drop (i + 1) := by
    rw [← List.drop_eq_getElem_cons hlt, List.take_append_drop]
  rw [List.eraseIdx_eq_take_drop_succ]
  nth_rewrite 4 [hsplit]
  exact List.perm_middle.symm

/-- What is done comes before what is pending, and the keys of what is pending increase. -/
def Staged (done : α → Bool) (key : α → κ) (l : List α) : Prop :=
  l.Pairwise fun a b => (done b = true → done a = true) ∧
    (done a = false → done b = false → key a < key b)

variable {done : α → Bool} {key : α → κ}

theorem Staged.sublist {l l' : List α} (h : Staged done key l) (hs : l'.Sublist l) :
    Staged done key l' :=
  List.Pairwise.sublist hs h

theorem Staged.insert {l r : List α} {x : α} (h : Staged done key (l ++ r)) (hx : done x = false)
    (hl : ∀ a ∈ l, done a = false → key a < key x)
    (hr : ∀ b ∈ r, done b = false ∧ key x < key b) : Staged done key (l ++ x :: r) := by
  unfold Staged at h ⊢
  obtain ⟨hll, hrr, hlr⟩ := List.pairwise_append.mp h
  rw [List.pairwise_append]
  refine ⟨hll, List.pairwise_cons.mpr ⟨fun b hb => ?_, hrr⟩, fun a ha b hb => ?_⟩
  · grind
  grind

theorem Staged.finish {l r : List α} {x y : α} (h : Staged done key (l ++ x :: r))
    (hl : ∀ a ∈ l, done a = true) (hy : done y = true) : Staged done key (l ++ y :: r) := by
  unfold Staged at h ⊢
  obtain ⟨hll, hrr, hlr⟩ := List.pairwise_append.mp h
  rw [List.pairwise_append]
  refine ⟨hll, List.pairwise_cons.mpr ⟨fun b _ => ?_, (List.pairwise_cons.mp hrr).2⟩,
    fun a ha b _ => ?_⟩
  · grind
  grind

theorem Staged.replace {l r : List α} {x y : α} (h : Staged done key (l ++ x :: r))
    (hd : done y = done x) (hk : key y = key x) : Staged done key (l ++ y :: r) := by
  unfold Staged at h ⊢
  obtain ⟨hll, hrr, hlr⟩ := List.pairwise_append.mp h
  obtain ⟨hxr, hrr⟩ := List.pairwise_cons.mp hrr
  rw [List.pairwise_append]
  refine ⟨hll, List.pairwise_cons.mpr ⟨fun b hb => ?_, hrr⟩, fun a ha b hb => ?_⟩
  · rw [hd, hk]
    exact hxr b hb
  grind

/-- The parts of a list around a key: done, pending with smaller keys, and pending with the key or
larger ones. -/
structure Parts (done : α → Bool) (key : α → κ) (k : κ) (ready less rest : List α) : Prop where
  ready : ∀ a ∈ ready, done a = true
  less : ∀ a ∈ less, done a = false ∧ key a < k
  rest : ∀ a ∈ rest, done a = false ∧ k ≤ key a

theorem Staged.parts {l : List α} (h : Staged done key l) (k : κ) :
    ∃ ready less rest, l = ready ++ less ++ rest ∧ Parts done key k ready less rest := by
  induction l with
  | nil => exact ⟨[], [], [], rfl, by simp, by simp, by simp⟩
  | cons a l ih =>
    obtain ⟨ha, hl⟩ := List.pairwise_cons.mp h
    obtain ⟨ready, less, rest, rfl, hready, hless, hrest⟩ := ih hl
    by_cases hd : done a = true
    · refine ⟨a :: ready, less, rest, rfl, fun x hx => ?_, hless, hrest⟩
      grind
    · have hpending : done a = false := by simpa using hd
      -- nothing is done after a pending entry
      have hnil : ready = [] := by
        cases ready with
        | nil => rfl
        | cons b ready =>
          have hb := (ha b (by simp)).1 (hready b List.mem_cons_self)
          exact absurd hb hd
      subst hnil
      rcases lt_or_ge (key a) k with hlt | hge
      · refine ⟨[], a :: less, rest, rfl, by simp, fun x hx => ?_, hrest⟩
        grind
      · have hnil : less = [] := by
          cases less with
          | nil => rfl
          | cons b less =>
            obtain ⟨hb, hblt⟩ := hless b List.mem_cons_self
            grind
        subst hnil
        refine ⟨[], [], a :: rest, rfl, by simp, by simp, fun x hx => ?_⟩
        grind

theorem Staged.lt_of_rest {l rest : List α} {x : α} (h : Staged done key (l ++ x :: rest))
    (hx : done x = false) (hrest : ∀ a ∈ rest, done a = false) : ∀ a ∈ rest, key x < key a := by
  intro a ha
  have hxr := (List.pairwise_cons.mp (List.pairwise_append.mp h).2.1).1
  exact (hxr a ha).2 hx (hrest a ha)

end DeviceHal.Lib
