import Mathlib.Data.List.Basic

namespace DeviceHal.Lib

universe u

variable {Evt : Type u} {cancels : Evt → Prop} {e x : Evt} {log : List Evt}

/-- In a log with the newest event first, the event happened and nothing since cancels it. -/
def Since (cancels : Evt → Prop) (e : Evt) (log : List Evt) : Prop :=
  ∃ later earlier, log = later ++ e :: earlier ∧ ∀ x ∈ later, ¬cancels x

theorem since_cons : Since cancels e (x :: log) ↔ x = e ∨ ¬cancels x ∧ Since cancels e log := by
  constructor
  · rintro ⟨later, earlier, hlog, hnone⟩
    cases later with
    | nil => exact Or.inl (List.cons.inj hlog).1
    | cons y later =>
      obtain ⟨rfl, hrest⟩ := List.cons.inj hlog
      refine Or.inr ⟨hnone x List.mem_cons_self, later, earlier, hrest, fun y hy => ?_⟩
      exact hnone y (List.mem_cons_of_mem _ hy)
  · rintro (rfl | ⟨hx, later, earlier, rfl, hnone⟩)
    · exact ⟨[], log, rfl, by simp⟩
    · refine ⟨x :: later, earlier, rfl, fun y hy => ?_⟩
      grind

end DeviceHal.Lib
