import Mathlib.Data.List.Count
import Mathlib.Data.List.Pairwise

namespace DeviceHal.Lib

/-- What happens to a numbered object. -/
inductive LifeEvent where
  | created (obj : Nat)
  | used (obj : Nat)
  | deleted (obj : Nat)
deriving DecidableEq, Repr

def LifeEvent.obj : LifeEvent → Nat
  | .created obj => obj
  | .used obj => obj
  | .deleted obj => obj

namespace Lifetime

def Live (log : List LifeEvent) (obj : Nat) : Prop := .created obj ∈ log ∧ .deleted obj ∉ log

instance (log : List LifeEvent) (obj : Nat) : Decidable (Live log obj) :=
  inferInstanceAs (Decidable (_ ∧ _))

/-- Nothing happens to an object after it was deleted. -/
def Ordered (log : List LifeEvent) : Prop :=
  log.Pairwise fun a b => ∀ obj, a = .deleted obj → b.obj ≠ obj

/-- The objects below `next` were created, and no others are named. -/
structure Numbered (log : List LifeEvent) (next : Nat) : Prop where
  created : ∀ obj, .created obj ∈ log ↔ obj < next
  known : ∀ e ∈ log, e.obj < next

/-- These objects are used and deleted, one after the other. -/
def deletes (objs : List Nat) : List LifeEvent :=
  objs.flatMap fun obj => [.used obj, .deleted obj]

variable {log later : List LifeEvent} {obj next : Nat}

theorem ordered_nil : Ordered [] := List.Pairwise.nil

theorem numbered_nil : Numbered [] 0 where
  created obj := by simp
  known e he := nomatch he

/-- Events of objects that were not deleted before may follow. -/
theorem Ordered.append (h : Ordered log) (hlater : Ordered later)
    (hlive : ∀ e ∈ later, .deleted e.obj ∉ log) : Ordered (log ++ later) := by
  refine List.pairwise_append.mpr ⟨h, hlater, fun a ha b hb => ?_⟩
  rintro obj rfl rfl
  exact hlive b hb ha

theorem Ordered.snoc (h : Ordered log) {e : LifeEvent} (hlive : .deleted e.obj ∉ log) :
    Ordered (log ++ [e]) := by
  refine h.append (List.pairwise_singleton _ _) fun a ha => ?_
  rwa [List.mem_singleton.mp ha]

theorem Ordered.count_deleted_le (h : Ordered log) (obj : Nat) :
    log.count (.deleted obj) ≤ 1 := by
  induction log with
  | nil => exact Nat.zero_le 1
  | cons e log ih =>
    obtain ⟨hfirst, hrest⟩ := List.pairwise_cons.mp h
    by_cases he : e = .deleted obj
    · subst he
      have hzero : log.count (.deleted obj) = 0 :=
        List.count_eq_zero.mpr fun hmem => hfirst _ hmem obj rfl rfl
      exact Nat.le_of_eq (by rw [List.count_cons_self, hzero])
    · rw [List.count_cons_of_ne he]
      exact ih hrest

theorem mem_deletes {objs : List Nat} {e : LifeEvent} :
    e ∈ deletes objs ↔ e.obj ∈ objs ∧ (e = .used e.obj ∨ e = .deleted e.obj) := by
  cases e <;> simp [deletes, LifeEvent.obj]

theorem ordered_deletes {objs : List Nat} (h : objs.Nodup) : Ordered (deletes objs) := by
  induction objs with
  | nil => exact ordered_nil
  | cons obj objs ih =>
    obtain ⟨hnotin, hrest⟩ := List.nodup_cons.mp h
    have hfirst : Ordered [.used obj, .deleted obj] := by simp [Ordered]
    refine hfirst.append (ih hrest) fun e he hmem => ?_
    have hobj : e.obj = obj := by simpa using hmem
    exact hnotin (hobj ▸ (mem_deletes.mp he).1)

theorem Numbered.create (h : Numbered log next) :
    Numbered (log ++ [.created next]) (next + 1) where
  created obj := by
    rw [List.mem_append, h.created, List.mem_singleton, LifeEvent.created.injEq]
    omega
  known e he := by
    rcases List.mem_append.mp he with he | he
    · exact Nat.lt_succ_of_lt (h.known e he)
    · rw [List.mem_singleton.mp he]
      exact Nat.lt_succ_self next

theorem Numbered.append (h : Numbered log next)
    (hlater : ∀ e ∈ later, e.obj < next ∧ ∀ obj, e ≠ .created obj) :
    Numbered (log ++ later) next where
  created obj := by
    rw [List.mem_append, h.created]
    exact or_iff_left fun hmem => (hlater _ hmem).2 obj rfl
  known e he := by
    rcases List.mem_append.mp he with he | he
    · exact h.known e he
    · exact (hlater e he).1

theorem live_append_iff (hcreated : .created obj ∉ later) (hdeleted : .deleted obj ∉ later) :
    Live (log ++ later) obj ↔ Live log obj := by
  simp only [Live, List.mem_append, hcreated, hdeleted, or_false]

theorem Numbered.live_iff (h : Numbered log next) :
    Live log obj ↔ obj < next ∧ .deleted obj ∉ log := by
  rw [Live, h.created]

theorem Numbered.not_deleted (h : Numbered log next) : .deleted next ∉ log := fun hmem =>
  Nat.lt_irrefl next (h.known _ hmem)

end Lifetime

end DeviceHal.Lib
