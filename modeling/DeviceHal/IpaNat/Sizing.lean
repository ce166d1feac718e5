import DeviceHal.IpaNat.Table
import Mathlib.Data.List.Chain

namespace DeviceHal.IpaNat

/-- `mem->size` as `ipa_nati_alloc_table` asks for it; `total_entries` is a `uint16_t`. -/
def natMemSize (tableEntries expnTableEntries : Nat) : Nat :=
  let totalEntries := (tableEntries + expnTableEntries) % 2 ^ 16
  ipaNatTableEntrySize * totalEntries + ipaNatIndexTableEntrySize * totalEntries

/-- A part of the mapped memory. -/
structure NatRegion where
  start : Nat
  size : Nat
deriving DecidableEq, Repr

def NatRegion.stop (g : NatRegion) : Nat := g.start + g.size

/-- The base, expansion, index and index expansion table as `ipa_nati_update_cache` lays them
out. -/
def natRegions (tableEntries expnTableEntries : Nat) : List NatRegion :=
  [⟨0, ipaNatTableEntrySize * tableEntries⟩,
   ⟨ipaNatTableEntrySize * tableEntries, ipaNatTableEntrySize * expnTableEntries⟩,
   ⟨ipaNatTableEntrySize * (tableEntries + expnTableEntries),
    ipaNatIndexTableEntrySize * tableEntries⟩,
   ⟨ipaNatTableEntrySize * (tableEntries + expnTableEntries)
    + ipaNatIndexTableEntrySize * tableEntries, ipaNatIndexTableEntrySize * expnTableEntries⟩]

/-- What the rest of the driver relies on of the sizes chosen for `numberOfEntries`. -/
structure SafeSizes (numberOfEntries tableEntries expnTableEntries : Nat) : Prop where
  power : ∃ k, tableEntries = 2 ^ k
  low : 2 ≤ tableEntries
  share : numberOfEntries * 4 / 5 ≤ tableEntries
  even : 2 ∣ expnTableEntries
  expnShare : numberOfEntries / 5 ≤ expnTableEntries
  noWrap : tableEntries + expnTableEntries < 2 ^ 16
  consecutive : (natRegions tableEntries expnTableEntries).IsChain fun g h => g.stop = h.start
  covered : ∀ g ∈ natRegions tableEntries expnTableEntries,
    g.stop ≤ natMemSize tableEntries expnTableEntries
  dstSlot : ∀ env r, 0 < dstBucket env tableEntries r ∧ dstBucket env tableEntries r < tableEntries
  srcSlot : ∀ r, 0 < srcBucket tableEntries r ∧ srcBucket tableEntries r < tableEntries

def SizingSafe (numberOfEntries : Nat) : Prop :=
  ∃ tableEntries expnTableEntries,
    ipaNatiAllocTable numberOfEntries = some (tableEntries, expnTableEntries) ∧
      SafeSizes numberOfEntries tableEntries expnTableEntries

/-- The last step of the loop of `GetNearest2Power`. -/
def roundUp (number tmp : Nat) : Nat := if number ≠ tmp then tmp * 2 % 2 ^ 16 else tmp

theorem getNearest2PowerLoop_eq (number : Nat) (fuel num tmp : Nat) (hpos : 0 < num)
    (hfuel : num ≤ fuel) (htmp : tmp < 2 ^ 16) :
    ∃ k, 2 ^ k ≤ num ∧ num < 2 ^ (k + 1) ∧
      getNearest2PowerLoop number fuel num tmp = roundUp number (tmp * 2 ^ k % 2 ^ 16) := by
  induction fuel generalizing num tmp with
  | zero => omega
  | succ fuel ih =>
    by_cases hone : num = 1
    · refine ⟨0, by omega, by omega, ?_⟩
      have hsame : tmp * 2 ^ 0 % 2 ^ 16 = tmp := by
        rw [pow_zero, Nat.mul_one]
        exact Nat.mod_eq_of_lt htmp
      rw [getNearest2PowerLoop, if_pos hone, hsame]
      rfl
    · have hhalf : 0 < num / 2 := by omega
      have htmp' : tmp * 2 % 2 ^ 16 < 2 ^ 16 := Nat.mod_lt _ (by decide)
      obtain ⟨k, hlow, hhigh, hloop⟩ := ih _ _ hhalf (by omega) htmp'
      have hk : 2 ^ (k + 1) = 2 ^ k * 2 := pow_succ 2 k
      have hk' : 2 ^ (k + 1 + 1) = 2 ^ k * 2 * 2 := by rw [pow_succ, pow_succ]
      refine ⟨k + 1, by omega, by omega, ?_⟩
      rw [getNearest2PowerLoop, if_neg hone, hloop, Nat.mod_mul_mod, hk, Nat.mul_assoc,
        Nat.mul_comm 2 (2 ^ k)]

theorem getNearest2Power_small {num : Nat} (hpos : 0 < num) (hle : num ≤ 2 ^ 15) :
    ∃ k, getNearest2Power num = some (2 ^ k) ∧ num ≤ 2 ^ k ∧ 1 ≤ k ∧ k ≤ 15 := by
  unfold getNearest2Power
  rw [if_neg (by omega)]
  by_cases hone : num = 1
  · refine ⟨1, ?_, by omega, by omega, by omega⟩
    rw [if_pos hone]
    rfl
  · rw [if_neg hone]
    obtain ⟨k, hlow, hhigh, hloop⟩ := getNearest2PowerLoop_eq num num num 1 hpos
      (Nat.le_refl num) (by decide)
    have hk : k < 16 := (Nat.pow_lt_pow_iff_right (by decide)).mp (show 2 ^ k < 2 ^ 16 by omega)
    have hpow : 1 * 2 ^ k % 2 ^ 16 = 2 ^ k := by
      rw [Nat.one_mul]
      exact Nat.mod_eq_of_lt (by omega)
    rw [hloop, hpow]
    unfold roundUp
    by_cases heq : num = 2 ^ k
    · grind
    · rw [if_pos heq]
      have hk' : k < 15 := (Nat.pow_lt_pow_iff_right (by decide)).mp (show 2 ^ k < 2 ^ 15 by omega)
      have hdouble : 2 ^ (k + 1) = 2 ^ k * 2 := pow_succ 2 k
      grind

theorem getNearest2Power_large {num : Nat} (hlow : 2 ^ 15 < num) (hhigh : num < 2 ^ 16) :
    getNearest2Power num = some 0 := by
  unfold getNearest2Power
  rw [if_neg (by omega), if_neg (by omega)]
  obtain ⟨k, hk, hk', hloop⟩ := getNearest2PowerLoop_eq num num num 1 (by omega)
    (Nat.le_refl num) (by decide)
  have hlt : k < 16 := (Nat.pow_lt_pow_iff_right (by decide)).mp (show 2 ^ k < 2 ^ 16 by omega)
  have hge : 15 < k + 1 :=
    (Nat.pow_lt_pow_iff_right (by decide)).mp (show 2 ^ 15 < 2 ^ (k + 1) by omega)
  have hfifteen : k = 15 := by omega
  rw [hloop, hfifteen]
  grind [roundUp]

theorem natRegions_consecutive (N M : Nat) :
    (natRegions N M).IsChain fun g h => g.stop = h.start := by
  unfold natRegions
  simp only [List.isChain_cons_cons, List.isChain_singleton, and_true, NatRegion.stop]
  exact ⟨Nat.zero_add _, (Nat.mul_add _ _ _).symm⟩

theorem natRegions_covered {N M : Nat} (h : N + M < 2 ^ 16) :
    ∀ g ∈ natRegions N M, g.stop ≤ natMemSize N M := by
  have hsize : natMemSize N M = 32 * (N + M) + 4 * (N + M) := by
    unfold natMemSize
    dsimp only
    rw [Nat.mod_eq_of_lt h]
    rfl
  intro g hg
  rw [hsize]
  simp only [natRegions, ipaNatTableEntrySize, ipaNatIndexTableEntrySize, List.mem_cons,
    List.not_mem_nil, or_false] at hg
  grind [NatRegion.stop]

/-- A table is sized safely exactly if the share of its base table is at most 2^15. -/
theorem sizingSafe_iff {numberOfEntries : Nat} (low : 0 < numberOfEntries)
    (high : numberOfEntries < 2 ^ 16) :
    SizingSafe numberOfEntries ↔ numberOfEntries * 4 / 5 ≤ 2 ^ 15 := by
  constructor
  · rintro ⟨N, M, halloc, safe⟩
    by_contra hbig
    obtain ⟨n, hn, he⟩ := Option.map_eq_some_iff.mp halloc
    obtain ⟨rfl, -⟩ := Prod.mk.inj he
    rw [if_neg (by omega), getNearest2Power_large (by omega) (by omega)] at hn
    have hzero : 0 = n := Option.some.inj hn
    have hlow := safe.low
    omega
  · intro hshare
    have hone : 0 < if numberOfEntries * 4 / 5 = 0 then 1 else numberOfEntries * 4 / 5 := by
      split <;> omega
    have hsmall : (if numberOfEntries * 4 / 5 = 0 then 1 else numberOfEntries * 4 / 5) ≤
        2 ^ 15 := by
      split <;> omega
    obtain ⟨k, hpow, hle, hk, hk'⟩ := getNearest2Power_small hone hsmall
    have hshare' : numberOfEntries * 4 / 5 ≤ 2 ^ k := by
      split at hle
      · omega
      · exact hle
    have hhigh : 2 ^ k ≤ 2 ^ 15 := Nat.pow_le_pow_right (by decide) hk'
    have hlow : 2 ^ 1 ≤ 2 ^ k := Nat.pow_le_pow_right (by decide) hk
    obtain ⟨expnLow, expnHigh, expnEven⟩ := getNearestEven_bound
      (show numberOfEntries / 5 ≤ 2 ^ 14 - 1 by omega)
    have hexpn : numberOfEntries / 5 ≤ getNearestEven (numberOfEntries / 5) := by
      unfold getNearestEven
      split
      · omega
      · split <;> omega
    have hsum : 2 ^ k + getNearestEven (numberOfEntries / 5) < 2 ^ 16 := by omega
    refine ⟨2 ^ k, getNearestEven (numberOfEntries / 5), ?_, ?_⟩
    · unfold ipaNatiAllocTable
      dsimp only
      rw [hpow]
      rfl
    · exact
        { power := ⟨k, rfl⟩
          low := by omega
          share := hshare'
          even := Nat.dvd_of_mod_eq_zero expnEven
          expnShare := hexpn
          noWrap := hsum
          consecutive := natRegions_consecutive _ _
          covered := natRegions_covered hsum
          dstSlot := fun env r => dstBucket_bound env (by omega) hhigh r
          srcSlot := fun r => srcBucket_bound (by omega) hhigh r }

theorem sizingSafe_hundred : SizingSafe 100 ↔ 100 * 4 / 5 ≤ 2 ^ 15 :=
  sizingSafe_iff (by decide) (by decide)

/-- A table for 65535 entries gets no base table at all. -/
theorem largest_table_unsafe :
    ¬∀ numberOfEntries : Nat, 0 < numberOfEntries → numberOfEntries < 2 ^ 16 →
      SizingSafe numberOfEntries := by
  intro h
  obtain ⟨N, M, halloc, safe⟩ := h 65535 (by decide) (by decide)
  have hseen : ipaNatiAllocTable 65535 = some (0, 13108) := by decide
  obtain ⟨rfl, -⟩ := Prod.mk.inj (Option.some.inj (hseen.symm.trans halloc))
  exact absurd safe.low (by decide)

end DeviceHal.IpaNat
