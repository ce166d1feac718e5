import Mathlib.Data.Multiset.AddSub

namespace DeviceHal.Lib

universe u

variable {α : Type u} {outRanks : α → α → Prop}

/-- Not being outranked goes on from an element to those it does not outrank. -/
theorem not_outRanks_trans [IsStrictWeakOrder α outRanks] {a b c : α} (hab : ¬outRanks a b)
    (hbc : ¬outRanks b c) : ¬outRanks a c := by
  intro hac
  have hba : ¬outRanks b a := fun h => hbc (IsTrans.trans b a c h hac)
  have hcb : ¬outRanks c b := fun h => hab (IsTrans.trans a c b hac h)
  have hinc := @IsStrictWeakOrder.incomp_trans α outRanks _ a b c ⟨hab, hba⟩ ⟨hbc, hcb⟩
  exact hinc.1 hac

/-- The calls of a priority queue. -/
inductive PqOp (α : Type u) where
  | push (x : α)
  | pop
  | remove (x : α)

/-- What a call does to the elements stored, with what it returns. -/
inductive PqStep [DecidableEq α] (outRanks : α → α → Prop) :
    Multiset α → PqOp α → Option α → Multiset α → Prop where
  | push (m : Multiset α) (x : α) : PqStep outRanks m (.push x) none (x ::ₘ m)
  | popNone : PqStep outRanks 0 .pop none 0
  | pop (m : Multiset α) (y : α) (stored : y ∈ m) (top : ∀ z ∈ m, ¬outRanks z y) :
      PqStep outRanks m .pop (some y) (m.erase y)
  | remove (m : Multiset α) (x : α) (stored : x ∈ m) :
      PqStep outRanks m (.remove x) (some x) (m.erase x)
  | removeNone (m : Multiset α) (x : α) (missing : x ∉ m) :
      PqStep outRanks m (.remove x) none m

/-- The elements stored after a run of calls, with what each returned. -/
inductive PqRun [DecidableEq α] (outRanks : α → α → Prop) :
    Multiset α → List (PqOp α × Option α) → Multiset α → Prop where
  | nil (m : Multiset α) : PqRun outRanks m [] m
  | cons {m m' m'' : Multiset α} {op : PqOp α} {res : Option α} {calls : List (PqOp α × Option α)}
      (step : PqStep outRanks m op res m') (rest : PqRun outRanks m' calls m'') :
      PqRun outRanks m ((op, res) :: calls) m''

/-- Elements popped one after the other come in an order in which none outranks an earlier one,
and are those missing in the end. -/
theorem PqRun.drain [DecidableEq α] {m m' : Multiset α} {popped : List α}
    (run : PqRun outRanks m (popped.map fun y => (.pop, some y)) m') :
    (popped.Pairwise fun x y => ¬outRanks y x) ∧ m = popped + m' := by
  induction popped generalizing m with
  | nil =>
    cases run
    exact ⟨List.Pairwise.nil, (Multiset.zero_add _).symm⟩
  | cons y popped ih =>
    cases run with
    | cons step rest =>
      cases step with
      | pop _ _ stored top =>
        obtain ⟨hsorted, hm⟩ := ih rest
        refine ⟨List.pairwise_cons.mpr ⟨fun z hz => top z ?_, hsorted⟩, ?_⟩
        · have hin : z ∈ m.erase y := by
            rw [hm]
            exact Multiset.mem_add.mpr (Or.inl (Multiset.mem_coe.mpr hz))
          exact Multiset.mem_of_mem_erase hin
        · rw [← Multiset.cons_coe, Multiset.cons_add, ← hm, Multiset.cons_erase stored]

end DeviceHal.Lib
