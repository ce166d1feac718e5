import Mathlib.Data.Finset.Card

namespace DeviceHal.Lib

universe u

/-- A search for one value or another stops at the nearer of the two. -/
theorem findIdx_or {α : Type u} (p q : α → Bool) (l : List α) :
    l.findIdx (fun a => p a || q a) = min (l.findIdx p) (l.findIdx q) := by
  induction l with
  | nil => rfl
  | cons a l ih =>
    simp

variable {α : Type u} [DecidableEq α] {l : List α} {z x a : α} {S : Finset α}

theorem findIdx_eq_idxOf (x : α) (l : List α) :
    l.findIdx (fun a => decide (a = x)) = l.idxOf x := by
  unfold List.idxOf
  congr 1

theorem getElem?_idxOf (h : x ∈ l) : l[l.idxOf x]? = some x := by
  grind

theorem idxOf_set_other {i : Nat} (old : l[i]? ≠ some a) (new : x ≠ a) :
    (l.set i x).idxOf a = l.idxOf a := by
  induction l generalizing i with
  | nil => rfl
  | cons b l ih =>
    cases i with
    | zero =>
      grind
    | succ i =>
      grind

theorem idxOf_set_le (x : α) {i : Nat} (h : i < l.length) : (l.set i x).idxOf x ≤ i := by
  induction l generalizing i with
  | nil => exact absurd h (Nat.not_lt_zero i)
  | cons b l ih =>
    cases i with
    | zero => rw [List.set_cons_zero, List.idxOf_cons_self]
    | succ i =>
      grind

theorem idxOf_clear (h : x ∈ l) : (l.set (l.idxOf x) z).idxOf z = min (l.idxOf x) (l.idxOf z) := by
  induction l with
  | nil => exact absurd h List.not_mem_nil
  | cons b l ih =>
    by_cases hb : b = x
    · grind
    · have hrest := ih ((List.mem_cons.mp h).resolve_left fun he => hb he.symm)
      grind

theorem idxOf_fill (free : z ∈ l) (hx : x ≠ z) : l.idxOf z < (l.set (l.idxOf z) x).idxOf z := by
  induction l with
  | nil => exact absurd free List.not_mem_nil
  | cons b l ih =>
    by_cases hb : b = z
    · grind
    grind

/-- A stored value in place of a free slot is one copy more of it. -/
theorem count_fill (free : z ∈ l) (ha : a ≠ z) :
    (l.set (l.idxOf z) x).count a = l.count a + if x = a then 1 else 0 := by
  grind

theorem count_clear (h : x ∈ l) (ha : a ≠ z) :
    (l.set (l.idxOf x) z).count a = l.count a - if x = a then 1 else 0 := by
  have hlt := List.idxOf_lt_length_of_mem h
  have hx : l[l.idxOf x] = x := List.getElem_idxOf hlt
  rw [List.count_set hlt, hx]
  simp [ha.symm]

/-- The slots that are not free hold the members of a set, each once. -/
def SlotsHold (z : α) (l : List α) (S : Finset α) : Prop :=
  ∀ a, a ≠ z → l.count a = if a ∈ S then 1 else 0

def Packed (z : α) (l : List α) (S : Finset α) : Prop :=
  ∀ a ∈ S, l.idxOf a < l.idxOf z

theorem SlotsHold.mem_iff (h : SlotsHold z l S) (ha : a ≠ z) : a ∈ l ↔ a ∈ S := by
  rw [← List.count_pos_iff, h a ha]
  grind

theorem SlotsHold.mem (h : SlotsHold z l S) (zfree : z ∉ S) (ha : a ∈ S) : a ∈ l :=
  (h.mem_iff fun he => zfree (he ▸ ha)).mpr ha

theorem SlotsHold.nodup_of_sublist {l' : List α} (h : SlotsHold z l S) (sub : l'.Sublist l)
    (full : z ∉ l') : l'.Nodup := by
  refine List.nodup_iff_count_le_one.mpr fun a => ?_
  by_cases ha : a = z
  · grind
  · refine (sub.count_le a).trans ?_
    rw [h a ha]
    grind

theorem SlotsHold.card_le (h : SlotsHold z l S) (zfree : z ∉ S) : S.card ≤ l.length := by
  have sub : S ⊆ l.toFinset := fun a ha => List.mem_toFinset.mpr (h.mem zfree ha)
  exact (Finset.card_le_card sub).trans (List.toFinset_card_le l)

theorem SlotsHold.free_iff (h : SlotsHold z l S) (zfree : z ∉ S) : z ∈ l ↔ S.card < l.length := by
  constructor
  · intro free
    have sub : insert z S ⊆ l.toFinset := by
      intro a ha
      rcases Finset.mem_insert.mp ha with rfl | ha
      · exact List.mem_toFinset.mpr free
      · exact List.mem_toFinset.mpr (h.mem zfree ha)
    have hcard := Finset.card_le_card sub
    rw [Finset.card_insert_of_notMem zfree] at hcard
    have hlen := List.toFinset_card_le l
    omega
  · intro room
    by_contra full
    have sub : l.toFinset ⊆ S := by
      intro a ha
      have hm := List.mem_toFinset.mp ha
      exact (h.mem_iff fun he => full (he ▸ hm)).mp hm
    have hcard := Finset.card_le_card sub
    rw [List.toFinset_card_of_nodup (h.nodup_of_sublist (List.Sublist.refl l) full)] at hcard
    omega

theorem SlotsHold.fill (h : SlotsHold z l S) (free : z ∈ l) (new : x ∉ S) :
    SlotsHold z (l.set (l.idxOf z) x) (insert x S) := by
  intro a ha
  rw [count_fill free ha, h a ha]
  grind

theorem SlotsHold.clear (h : SlotsHold z l S) (hx : x ≠ z) (old : x ∈ S) :
    SlotsHold z (l.set (l.idxOf x) z) (S.erase x) := by
  intro a ha
  rw [count_clear ((h.mem_iff hx).mpr old) ha, h a ha]
  grind

theorem Packed.fill (h : Packed z l S) (zfree : z ∉ S) (free : z ∈ l) (hx : x ≠ z)
    (new : x ∉ S) : Packed z (l.set (l.idxOf z) x) (insert x S) := by
  intro a ha
  have hlater := idxOf_fill free hx
  rcases Finset.mem_insert.mp ha with rfl | ha
  · have hself := idxOf_set_le a (List.idxOf_lt_length_of_mem free)
    omega
  · have hax : x ≠ a := fun he => new (he ▸ ha)
    have haz : z ≠ a := fun he => zfree (he ▸ ha)
    rw [idxOf_set_other (by rw [getElem?_idxOf free]; simpa using haz) hax]
    have hbefore := h a ha
    omega

/-- The members left after one leaves are packed just if they were before it and before the first
free slot. -/
theorem SlotsHold.packed_clear_iff (h : SlotsHold z l S) (zfree : z ∉ S) (old : x ∈ S) :
    Packed z (l.set (l.idxOf x) z) (S.erase x) ↔
      ∀ a ∈ S, a ≠ x → l.idxOf a < l.idxOf x ∧ l.idxOf a < l.idxOf z := by
  have hx : x ∈ l := h.mem zfree old
  have same : ∀ a ∈ S, a ≠ x → (l.set (l.idxOf x) z).idxOf a = l.idxOf a := by
    intro a ha hne
    have haz : z ≠ a := fun he => zfree (he ▸ ha)
    exact idxOf_set_other (by rw [getElem?_idxOf hx]; simpa using hne.symm) haz
  constructor
  · intro packed a ha hne
    have hbefore := packed a (Finset.mem_erase.mpr ⟨hne, ha⟩)
    rw [same a ha hne, idxOf_clear hx] at hbefore
    omega
  · intro before a ha
    obtain ⟨hne, ha⟩ := Finset.mem_erase.mp ha
    rw [same a ha hne, idxOf_clear hx]
    have hbefore := before a ha hne
    omega

/-- As many slots as there are members hold just the members if they are packed. -/
theorem SlotsHold.take_of_packed (h : SlotsHold z l S) (zfree : z ∉ S) (packed : Packed z l S) :
    ∀ a, a ∈ l.take S.card ↔ a ∈ S := by
  have full : z ∉ l.take (l.idxOf z) := by
    intro hm
    have hlt := (List.mem_take_iff_idxOf_lt (List.mem_of_mem_take hm)).mp hm
    omega
  have used : ∀ a, a ∈ l.take (l.idxOf z) ↔ a ∈ S := by
    intro a
    constructor
    · intro hm
      have haz : a ≠ z := fun he => full (he ▸ hm)
      exact (h.mem_iff haz).mp (List.mem_of_mem_take hm)
    · intro ha
      exact (List.mem_take_iff_idxOf_lt (h.mem zfree ha)).mpr (packed a ha)
  have hcard : S.card = l.idxOf z := by
    have hset : (l.take (l.idxOf z)).toFinset = S := by
      ext a
      rw [List.mem_toFinset, used]
    rw [← hset, List.toFinset_card_of_nodup (h.nodup_of_sublist (List.take_sublist _ l) full),
      List.length_take, Nat.min_eq_left List.idxOf_le_length]
  rw [hcard]
  exact used

theorem SlotsHold.exists_behind (h : SlotsHold z l S) (zfree : z ∉ S) (loose : ¬Packed z l S) :
    ∃ a ∈ S, a ∉ l.take S.card := by
  by_contra hall
  push Not at hall
  unfold Packed at loose
  push Not at loose
  obtain ⟨a, ha, hle⟩ := loose
  have hfree : z ∈ l.take S.card := by
    have hpos := (List.mem_take_iff_idxOf_lt (h.mem zfree ha)).mp (hall a ha)
    have hlt := List.idxOf_lt_length_of_mem (h.mem zfree ha)
    have hz : z ∈ l := List.idxOf_lt_length_iff.mp (by omega)
    exact (List.mem_take_iff_idxOf_lt hz).mpr (by omega)
  have sub : insert z S ⊆ (l.take S.card).toFinset := by
    intro b hb
    rcases Finset.mem_insert.mp hb with rfl | hb
    · exact List.mem_toFinset.mpr hfree
    · exact List.mem_toFinset.mpr (hall b hb)
  have hcard := Finset.card_le_card sub
  rw [Finset.card_insert_of_notMem zfree] at hcard
  have hlen := List.toFinset_card_le (l.take S.card)
  have htake := List.length_take_le S.card l
  omega

end DeviceHal.Lib
