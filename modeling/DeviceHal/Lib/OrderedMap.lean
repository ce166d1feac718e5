import Mathlib.Data.List.Nodup
import Mathlib.Order.Lattice

namespace DeviceHal.Lib

universe u v

/-- A map as its entries in increasing order of their keys, one for each key. -/
structure OrderedMap (K : Type u) (V : Type v) [LinearOrder K] where
  entries : List (K × V)
  sorted : entries.Pairwise fun a b => a.1 < b.1

namespace OrderedMap

variable {K : Type u} {V : Type v} [LinearOrder K]

def empty : OrderedMap K V := ⟨[], List.Pairwise.nil⟩

def find? (m : OrderedMap K V) (k : K) : Option V :=
  (m.entries.find? fun e => e.1 = k).map Prod.snd

theorem sorted_insert (m : OrderedMap K V) (k : K) (v : V) :
    ((m.entries.filter fun e => e.1 < k) ++ (k, v) :: m.entries.filter fun e => k < e.1).Pairwise
      fun a b => a.1 < b.1 := by
  rw [List.pairwise_append]
  refine ⟨m.sorted.filter _, List.pairwise_cons.mpr ⟨?_, m.sorted.filter _⟩, ?_⟩
  · intro e he
    simpa using (List.mem_filter.mp he).2
  grind

def insert (m : OrderedMap K V) (k : K) (v : V) : OrderedMap K V :=
  ⟨(m.entries.filter fun e => e.1 < k) ++ (k, v) :: m.entries.filter fun e => k < e.1,
    sorted_insert m k v⟩

def erase (m : OrderedMap K V) (k : K) : OrderedMap K V :=
  ⟨m.entries.filter fun e => e.1 ≠ k, m.sorted.filter _⟩

variable {m : OrderedMap K V} {k : K} {v : V}

theorem unique {a b : K × V} (ha : a ∈ m.entries) (hb : b ∈ m.entries) (hk : a.1 = b.1) :
    a = b := by
  have keys : (m.entries.map Prod.fst).Nodup := List.pairwise_map.mpr (m.sorted.imp ne_of_lt)
  exact List.inj_on_of_nodup_map keys ha hb hk

theorem find?_eq_some_iff : m.find? k = some v ↔ (k, v) ∈ m.entries := by
  unfold find?
  rw [Option.map_eq_some_iff]
  constructor
  · grind
  · intro hm
    cases hf : m.entries.find? fun e => e.1 = k with
    | none =>
      grind
    | some e =>
      obtain ⟨a, w⟩ := e
      have hk : a = k := by simpa using List.find?_some hf
      subst hk
      exact ⟨(a, w), rfl, congrArg Prod.snd (unique (List.mem_of_find?_eq_some hf) hm rfl)⟩

theorem mem_insert {e : K × V} :
    e ∈ (m.insert k v).entries ↔ e = (k, v) ∨ e.1 ≠ k ∧ e ∈ m.entries := by
  simp only [insert, List.mem_append, List.mem_cons, List.mem_filter, decide_eq_true_eq]
  constructor
  · grind
  grind

theorem entries_erase : (m.erase k).entries = m.entries.filter fun e => e.1 ≠ k := rfl

theorem mem_erase {e : K × V} : e ∈ (m.erase k).entries ↔ e ∈ m.entries ∧ e.1 ≠ k := by
  simp [erase]

theorem find?_insert (a : K) : (m.insert k v).find? a = if a = k then some v else m.find? a := by
  refine Option.ext fun w => ?_
  rw [find?_eq_some_iff, mem_insert]
  by_cases ha : a = k
  · subst ha
    simp [eq_comm]
  · simp [ha, find?_eq_some_iff]

theorem find?_erase (a : K) : (m.erase k).find? a = if a = k then none else m.find? a := by
  refine Option.ext fun w => ?_
  grind [find?_eq_some_iff, mem_erase]

end OrderedMap

end DeviceHal.Lib
