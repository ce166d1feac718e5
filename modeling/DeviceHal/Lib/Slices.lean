import Mathlib.Data.List.Basic

namespace DeviceHal.Lib

universe u

variable {α : Type u}

/-- The first pieces of a list, of one size as long as there is enough. -/
def slices (size : Nat) : Nat → List α → List (List α)
  | 0, _ => []
  | count + 1, l => l.take size :: slices size count (l.drop size)

@[simp] theorem slices_length (size count : Nat) (l : List α) :
    (slices size count l).length = count := by
  induction count generalizing l with
  | zero => rfl
  | succ count ih => rw [slices, List.length_cons, ih]

theorem slices_flatten {size count : Nat} {l : List α} (h : l.length ≤ size * count) :
    (slices size count l).flatten = l := by
  induction count generalizing l with
  | zero =>
    have hl : l = [] := List.eq_nil_of_length_eq_zero (by omega)
    rw [hl]
    rfl
  | succ count ih =>
    have hdrop : (l.drop size).length ≤ size * count := by
      rw [List.length_drop]
      rw [Nat.mul_succ] at h
      omega
    rw [slices, List.flatten_cons, ih hdrop, List.take_append_drop]

theorem length_of_mem_slices {size count : Nat} {l : List α} (h : size * (count - 1) ≤ l.length)
    {piece : List α} (hm : piece ∈ (slices size count l).dropLast) : piece.length = size := by
  induction count generalizing l with
  | zero => simp [slices] at hm
  | succ count ih =>
    cases count with
    | zero => simp [slices] at hm
    | succ count =>
      rw [slices, slices, List.dropLast_cons_cons] at hm
      rcases List.mem_cons.mp hm with rfl | hm
      · grind
      · refine ih ?_ (by rwa [slices])
        grind

end DeviceHal.Lib
