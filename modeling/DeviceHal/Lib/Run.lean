import Mathlib.Logic.Relation

namespace DeviceHal.Lib

universe u v

variable {State : Type u} {Op : Type v}

/-- Runs a list of calls from a state. `none` is a call that does not return. -/
def runOps (step : State → Op → Option State) : State → List Op → Option State
  | s, [] => some s
  | s, op :: ops => (step s op).bind fun t => runOps step t ops

/-- Every call of the list is made in a state in which `ok` admits it. -/
def OpsMeet (step : State → Op → Option State) (ok : State → Op → Prop) :
    State → List Op → Prop
  | _, [] => True
  | s, op :: ops => ok s op ∧ ∀ t, step s op = some t → OpsMeet step ok t ops

instance decidableOpsMeet {step : State → Op → Option State} {ok : State → Op → Prop}
    [∀ s op, Decidable (ok s op)] : ∀ s ops, Decidable (OpsMeet step ok s ops)
  | _, [] => isTrue trivial
  | s, op :: ops =>
    match h : step s op with
    | none => decidable_of_iff (ok s op) (by simp [OpsMeet, h])
    | some t =>
      have := @decidableOpsMeet step ok _ t ops
      decidable_of_iff (ok s op ∧ OpsMeet step ok t ops) (by simp [OpsMeet, h])

/-- States reached by a run whose calls are all admitted. -/
def Reached (step : State → Op → Option State) (ok : State → Op → Prop)
    (initial s : State) : Prop :=
  ∃ ops, OpsMeet step ok initial ops ∧ runOps step initial ops = some s

/-- Every state the run comes through has the property. -/
def Always (step : State → Op → Option State) (P : State → Prop) : State → List Op → Prop
  | s, [] => P s
  | s, op :: ops => P s ∧ ∀ t, step s op = some t → Always step P t ops

variable {step : State → Op → Option State} {ok : State → Op → Prop}

variable {s : State}

theorem runOps_append (ops later : List Op) :
    runOps step s (ops ++ later) = (runOps step s ops).bind fun t => runOps step t later := by
  induction ops generalizing s with
  | nil => rfl
  | cons op ops ih =>
    cases h : step s op with
    | none => simp [runOps, h]
    | some t => simpa [runOps, h] using ih

variable {ops : List Op} {Inv : State → Prop}

/-- A property of the first state that every admitted call keeps holds of every state reached. -/
theorem run_invariant (keeps : ∀ s op t, Inv s → ok s op → step s op = some t → Inv t)
    {s t : State} (first : Inv s) (meet : OpsMeet step ok s ops)
    (run : runOps step s ops = some t) : Inv t := by
  induction ops generalizing s with
  | nil =>
    cases Option.some.inj run
    exact first
  | cons op ops ih =>
    obtain ⟨next, hn, hrun⟩ := Option.bind_eq_some_iff.mp run
    exact ih (keeps s op next first meet.1 hn) (meet.2 next hn) hrun

theorem reached_invariant (keeps : ∀ s op t, Inv s → ok s op → step s op = some t → Inv t)
    {initial s : State} (first : Inv initial) (reach : Reached step ok initial s) : Inv s := by
  obtain ⟨ops, meet, run⟩ := reach
  exact run_invariant keeps first meet run

/-- If an admitted call always returns and keeps the property, the whole run returns. -/
theorem run_returns {Inv : State → Prop}
    (returns : ∀ s op, Inv s → ok s op → ∃ t, step s op = some t ∧ Inv t)
    {s : State} {ops : List Op} (first : Inv s) (meet : OpsMeet step ok s ops) :
    ∃ t, runOps step s ops = some t ∧ Inv t := by
  induction ops generalizing s with
  | nil => exact ⟨s, rfl, first⟩
  | cons op ops ih =>
    obtain ⟨next, hn, hi⟩ := returns s op first meet.1
    obtain ⟨t, ht, hinv⟩ := ih hi (meet.2 next hn)
    exact ⟨t, Option.bind_eq_some_iff.mpr ⟨next, hn, ht⟩, hinv⟩

/-- A weaker admission predicate, on states with the invariant, admits the same run. -/
theorem OpsMeet.mono {ok' : State → Op → Prop} {Inv : State → Prop}
    (keeps : ∀ s op t, Inv s → ok s op → step s op = some t → Inv t)
    (weaker : ∀ s op, Inv s → ok s op → ok' s op) {s : State} {ops : List Op}
    (first : Inv s) (meet : OpsMeet step ok s ops) : OpsMeet step ok' s ops := by
  induction ops generalizing s with
  | nil => trivial
  | cons op ops ih =>
    refine ⟨weaker s op first meet.1, fun t ht => ?_⟩
    exact ih (keeps s op t first meet.1 ht) (meet.2 t ht)

theorem OpsMeet.and {ok' : State → Op → Prop}
    (meet : OpsMeet step ok s ops) (meet' : OpsMeet step ok' s ops) :
    OpsMeet step (fun s op => ok s op ∧ ok' s op) s ops := by
  induction ops generalizing s with
  | nil => trivial
  | cons op ops ih => exact ⟨⟨meet.1, meet'.1⟩, fun t ht => ih (meet.2 t ht) (meet'.2 t ht)⟩

/-- If the good calls keep an invariant, and calls with the property are the good ones on states that
have it, a run makes calls with the property only exactly if it makes good ones only. -/
theorem opsMeet_iff_of_keeps {P good : State → Op → Prop}
    (keeps : ∀ s op t, Inv s → ok s op → good s op → step s op = some t → Inv t)
    (same : ∀ s op, Inv s → ok s op → (P s op ↔ good s op))
    (first : Inv s) (meet : OpsMeet step ok s ops) :
    OpsMeet step P s ops ↔ OpsMeet step good s ops := by
  induction ops generalizing s with
  | nil => exact Iff.rfl
  | cons op ops ih =>
    refine (and_congr_left fun _ => same s op first meet.1).trans (and_congr_right fun hgood => ?_)
    exact forall₂_congr fun t ht => ih (keeps s op t first meet.1 hgood ht) (meet.2 t ht)

/-- A run that is admitted is admitted up to every state it comes through, and from there on. -/
theorem OpsMeet.split {s t : State} {ops later : List Op} (meet : OpsMeet step ok s (ops ++ later))
    (run : runOps step s ops = some t) : OpsMeet step ok s ops ∧ OpsMeet step ok t later := by
  induction ops generalizing s with
  | nil =>
    cases Option.some.inj run
    exact ⟨trivial, meet⟩
  | cons op ops ih =>
    obtain ⟨next, hn, hrun⟩ := Option.bind_eq_some_iff.mp run
    obtain ⟨hops, hlater⟩ := ih (meet.2 next hn) hrun
    refine ⟨⟨meet.1, fun next' hn' => ?_⟩, hlater⟩
    cases Option.some.inj (hn.symm.trans hn')
    exact hops

theorem opsMeet_of_forall (h : ∀ op ∈ ops, ∀ s, ok s op) : OpsMeet step ok s ops := by
  induction ops generalizing s with
  | nil => trivial
  | cons op ops ih =>
    exact ⟨h op List.mem_cons_self s, fun t _ => ih fun op' hop' =>
      h op' (List.mem_cons_of_mem _ hop')⟩

theorem opsMeet_true (s : State) (ops : List Op) : OpsMeet step (fun _ _ => True) s ops := by
  induction ops generalizing s with
  | nil => trivial
  | cons op ops ih => exact ⟨trivial, fun t _ => ih t⟩

variable {P : State → Prop}

theorem Always.first (h : Always step P s ops) : P s := by
  cases ops with
  | nil => exact h
  | cons op ops => exact h.1

theorem Always.last {s t : State} (h : Always step P s ops)
    (run : runOps step s ops = some t) : P t := by
  induction ops generalizing s with
  | nil =>
    cases Option.some.inj run
    exact h
  | cons op ops ih =>
    obtain ⟨next, hn, hrun⟩ := Option.bind_eq_some_iff.mp run
    exact ih (h.2 next hn) hrun

/-- Where each other call breaks the property, a run along which it holds makes good calls only. -/
theorem Always.opsMeet {good : State → Op → Prop}
    (breaks : ∀ s op, ¬good s op → ∃ t, step s op = some t ∧ ¬P t)
    (h : Always step P s ops) : OpsMeet step good s ops := by
  induction ops generalizing s with
  | nil => trivial
  | cons op ops ih =>
    refine ⟨?_, fun t ht => ih (h.2 t ht)⟩
    refine Classical.byContradiction fun hbad => ?_
    obtain ⟨t, ht, hbroken⟩ := breaks s op hbad
    exact hbroken (h.2 t ht).first

/-- Where each other call does damage that stays, a run that ends without damage makes good calls
only. -/
theorem opsMeet_of_last {Inv Damaged : State → Prop} {good : State → Op → Prop}
    (keeps : ∀ s op t, Inv s → ok s op → good s op → step s op = some t → Inv t)
    (breaks : ∀ s op t, Inv s → ok s op → ¬good s op → step s op = some t → Damaged t)
    (stays : ∀ s op t, Damaged s → ok s op → step s op = some t → Damaged t) {s t : State}
    (first : Inv s) (meet : OpsMeet step ok s ops)
    (run : runOps step s ops = some t) (last : ¬Damaged t) : OpsMeet step good s ops := by
  induction ops generalizing s with
  | nil => trivial
  | cons op ops ih =>
    obtain ⟨next, hn, hrun⟩ := Option.bind_eq_some_iff.mp run
    have meetNext : OpsMeet step ok next ops := meet.2 next hn
    have hgood : good s op := by
      refine Classical.byContradiction fun hbad => last ?_
      exact run_invariant stays (breaks s op next first meet.1 hbad hn) meetNext hrun
    refine ⟨hgood, fun next' hn' => ?_⟩
    cases Option.some.inj (hn.symm.trans hn')
    exact ih (keeps s op next first meet.1 hgood hn) meetNext hrun

/-- If the admitted calls keep an invariant, what it implies holds all along the run. -/
theorem always_invariant {Inv P : State → Prop} (holds : ∀ s, Inv s → P s)
    (keeps : ∀ s op t, Inv s → ok s op → step s op = some t → Inv t)
    {s : State} {ops : List Op} (first : Inv s) (meet : OpsMeet step ok s ops) :
    Always step P s ops := by
  induction ops generalizing s with
  | nil => exact holds s first
  | cons op ops ih =>
    refine ⟨holds s first, fun t ht => ?_⟩
    exact ih (keeps s op t first meet.1 ht) (meet.2 t ht)

/-- If the good calls keep an invariant where they return, and each other call breaks the property
it implies, the property holds all along a run exactly if all its calls are good. -/
theorem always_iff_of_keeps {Inv P : State → Prop} {good : State → Op → Prop}
    (holds : ∀ s, Inv s → P s)
    (keeps : ∀ s op t, Inv s → ok s op → good s op → step s op = some t → Inv t)
    (breaks : ∀ s op, Inv s → ok s op → ¬good s op → ∃ t, step s op = some t ∧ ¬P t)
    {s : State} {ops : List Op} (first : Inv s) (meet : OpsMeet step ok s ops) :
    Always step P s ops ↔ OpsMeet step good s ops := by
  induction ops generalizing s with
  | nil => exact ⟨fun _ => trivial, fun _ => holds s first⟩
  | cons op ops ih =>
    by_cases hgood : good s op
    · have rest : ∀ t, step s op = some t → (Always step P t ops ↔ OpsMeet step good t ops) :=
        fun t ht => ih (keeps s op t first meet.1 hgood ht) (meet.2 t ht)
      constructor
      · intro always
        exact ⟨hgood, fun t ht => (rest t ht).mp (always.2 t ht)⟩
      · intro all
        exact ⟨holds s first, fun t ht => (rest t ht).mpr (all.2 t ht)⟩
    · obtain ⟨next, hn, hbroken⟩ := breaks s op first meet.1 hgood
      constructor
      · intro always
        exact absurd (always.2 next hn).first hbroken
      · intro all
        exact absurd all.1 hgood

/-- If the good calls keep an invariant, and each other call breaks the property it implies, the
property holds all along a run exactly if all its calls are good. -/
theorem always_iff {Inv P : State → Prop} {good : State → Op → Prop}
    (holds : ∀ s, Inv s → P s)
    (keeps : ∀ s op, Inv s → ok s op → good s op → ∃ t, step s op = some t ∧ Inv t)
    (breaks : ∀ s op, Inv s → ok s op → ¬good s op → ∃ t, step s op = some t ∧ ¬P t)
    {s : State} {ops : List Op} (first : Inv s) (meet : OpsMeet step ok s ops) :
    Always step P s ops ↔ OpsMeet step good s ops := by
  refine always_iff_of_keeps holds (fun s op t hi hok hgood ht => ?_) breaks first meet
  grind

end DeviceHal.Lib
