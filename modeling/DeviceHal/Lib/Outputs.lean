namespace DeviceHal.Lib

universe u v w

variable {State : Type u} {Input : Type v} {Output : Type w}

/-- What a machine answers to a list of inputs, one by one. -/
def outputs (step : State → Input → State × Output) : State → List Input → List Output
  | _, [] => []
  | s, input :: inputs => (step s input).2 :: outputs step (step s input).1 inputs

/-- No list of inputs tells the two states apart. -/
def Indistinct (step : State → Input → State × Output) (s t : State) : Prop :=
  ∀ inputs, outputs step s inputs = outputs step t inputs

variable {step : State → Input → State × Output}

/-- Two states of a relation that every input keeps, with the same answer, are indistinct. -/
theorem indistinct_of_simulation {R : State → State → Prop}
    (keeps : ∀ s t input, R s t →
      R (step s input).1 (step t input).1 ∧ (step s input).2 = (step t input).2)
    {s t : State} (first : R s t) : Indistinct step s t := by
  intro inputs
  induction inputs generalizing s t with
  | nil => rfl
  | cons input inputs ih =>
    grind [outputs]

theorem Indistinct.answer {s t : State} (h : Indistinct step s t) (input : Input) :
    (step s input).2 = (step t input).2 :=
  (List.cons.inj (h [input])).1

theorem Indistinct.next {s t : State} (h : Indistinct step s t) (input : Input) :
    Indistinct step (step s input).1 (step t input).1 :=
  fun inputs => (List.cons.inj (h (input :: inputs))).2

end DeviceHal.Lib
