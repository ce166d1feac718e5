import Mathlib.Data.List.Basic

namespace DeviceHal.Lib

universe u

variable {α : Type u} {buf xs : List α} {p q : Nat}

/-- Overwrites the elements of a list from a place on. -/
def overwrite (p : Nat) (xs buf : List α) : List α :=
  buf.take p ++ xs ++ buf.drop (p + xs.length)

theorem length_overwrite (h : p + xs.length ≤ buf.length) :
    (overwrite p xs buf).length = buf.length := by
  unfold overwrite
  grind

theorem getElem?_overwrite_self {k : Nat} (h : p + xs.length ≤ buf.length) (hk : k < xs.length) :
    (overwrite p xs buf)[p + k]? = xs[k]? := by
  have hlen : (buf.take p).length = p := by
    rw [List.length_take]
    omega
  unfold overwrite
  rw [List.getElem?_append_left (by rw [List.length_append, hlen]; omega),
    List.getElem?_append_right (by omega), hlen, Nat.add_sub_cancel_left]

theorem getElem?_overwrite_frame (h : p + xs.length ≤ buf.length)
    (hq : q < p ∨ p + xs.length ≤ q) : (overwrite p xs buf)[q]? = buf[q]? := by
  have hlen : (buf.take p ++ xs).length = p + xs.length := by
    rw [List.length_append, List.length_take]
    omega
  unfold overwrite
  rcases hq with hbefore | hafter
  · grind
  · rw [List.getElem?_append_right (by omega), hlen, List.getElem?_drop]
    congr 1
    omega

theorem overwrite_nil (p : Nat) (buf : List α) : overwrite p [] buf = buf := by
  unfold overwrite
  simp

theorem overwrite_append {ys : List α} (h : p ≤ buf.length) :
    overwrite p (xs ++ ys) buf = overwrite (p + xs.length) ys (overwrite p xs buf) := by
  have hlen : (buf.take p ++ xs).length = p + xs.length := by
    rw [List.length_append, List.length_take, Nat.min_eq_left h]
  have htake : (overwrite p xs buf).take (p + xs.length) = buf.take p ++ xs := by
    unfold overwrite
    rw [← hlen, List.take_left]
  have hdrop : (overwrite p xs buf).drop (p + xs.length + ys.length) =
      buf.drop (p + xs.length + ys.length) := by
    unfold overwrite
    rw [List.drop_append, hlen, List.drop_eq_nil_of_le (by omega), List.nil_append,
      Nat.add_sub_cancel_left, List.drop_drop]
  rw [overwrite, overwrite, htake, hdrop, List.length_append, Nat.add_assoc]
  simp only [List.append_assoc]

def overwriteAll (fields : List (Nat × List α)) (buf : List α) : List α :=
  fields.foldl (fun b f => overwrite f.1 f.2 b) buf

def Fits (fields : List (Nat × List α)) (n : Nat) : Prop :=
  ∀ f ∈ fields, f.1 + f.2.length ≤ n

/-- The places are in order, and do not overlap. -/
def Apart (fields : List (Nat × List α)) : Prop :=
  fields.Pairwise fun f g => f.1 + f.2.length ≤ g.1

variable {fields : List (Nat × List α)}

theorem getElem?_overwriteAll_frame (h : Fits fields buf.length)
    (hq : ∀ f ∈ fields, q < f.1 ∨ f.1 + f.2.length ≤ q) :
    (overwriteAll fields buf)[q]? = buf[q]? := by
  induction fields generalizing buf with
  | nil => rfl
  | cons f fields ih =>
    have hfit := h f List.mem_cons_self
    have hrest : Fits fields (overwrite f.1 f.2 buf).length := by
      intro g hg
      rw [length_overwrite hfit]
      exact h g (List.mem_cons_of_mem _ hg)
    refine (ih hrest fun g hg => hq g (List.mem_cons_of_mem _ hg)).trans ?_
    exact getElem?_overwrite_frame hfit (hq f List.mem_cons_self)

theorem getElem?_overwriteAll_field (h : Fits fields buf.length) (hapart : Apart fields)
    {f : Nat × List α} (hf : f ∈ fields) {k : Nat} (hk : k < f.2.length) :
    (overwriteAll fields buf)[f.1 + k]? = f.2[k]? := by
  induction fields generalizing buf with
  | nil => cases hf
  | cons g fields ih =>
    obtain ⟨hfirst, hlater⟩ := List.pairwise_cons.mp hapart
    have hfit := h g List.mem_cons_self
    have hrest : Fits fields (overwrite g.1 g.2 buf).length := by
      intro g' hg'
      rw [length_overwrite hfit]
      exact h g' (List.mem_cons_of_mem _ hg')
    rcases List.mem_cons.mp hf with rfl | hf
    · refine (getElem?_overwriteAll_frame hrest fun g' hg' => Or.inl ?_).trans
        (getElem?_overwrite_self hfit hk)
      have hbefore := hfirst g' hg'
      omega
    · exact ih hrest hlater hf

/-- The fields decide a buffer that differs from another one only there. -/
theorem overwriteAll_unique {buf' : List α} {n : Nat} (h : Fits fields buf.length)
    (hapart : Apart fields)
    (hkept : ∀ q, q < n → (∀ f ∈ fields, q < f.1 ∨ f.1 + f.2.length ≤ q) → buf'[q]? = buf[q]?)
    (hfield : ∀ f ∈ fields, ∀ k, k < f.2.length → buf'[f.1 + k]? = f.2[k]?) :
    ∀ q, q < n → buf'[q]? = (overwriteAll fields buf)[q]? := by
  intro q hq
  by_cases hout : ∀ f ∈ fields, q < f.1 ∨ f.1 + f.2.length ≤ q
  · rw [hkept q hq hout, getElem?_overwriteAll_frame h hout]
  · obtain ⟨f, hnot⟩ := not_forall.mp hout
    obtain ⟨hf, hin⟩ := Classical.not_imp.mp hnot
    have hle : f.1 ≤ q := by omega
    obtain ⟨k, rfl⟩ := Nat.exists_eq_add_of_le hle
    have hk : k < f.2.length := by omega
    rw [hfield f hf k hk, getElem?_overwriteAll_field h hapart hf hk]

theorem take_drop_congr {buf' : List α} {n : Nat} (h : ∀ k, k < n → buf'[p + k]? = buf[p + k]?) :
    (buf'.drop p).take n = (buf.drop p).take n := by
  refine List.ext_getElem? fun k => ?_
  by_cases hk : k < n
  · rw [List.getElem?_take_of_lt hk, List.getElem?_take_of_lt hk, List.getElem?_drop,
      List.getElem?_drop]
    exact h k hk
  · rw [List.getElem?_take_eq_none (Nat.le_of_not_lt hk),
      List.getElem?_take_eq_none (Nat.le_of_not_lt hk)]

end DeviceHal.Lib
