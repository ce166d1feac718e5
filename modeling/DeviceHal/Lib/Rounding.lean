import Mathlib.Data.Nat.Bitwise

namespace DeviceHal.Lib

/-- The next multiple of `unit`. -/
def roundUp (n unit : Nat) : Nat :=
  if n % unit = 0 then n else n + (unit - n % unit)

variable {n m unit : Nat}

theorem le_roundUp (n unit : Nat) : n ≤ roundUp n unit := by
  unfold roundUp
  split <;> omega

theorem roundUp_lt (n : Nat) (hunit : 0 < unit) : roundUp n unit < n + unit := by
  have hmod := Nat.mod_lt n hunit
  unfold roundUp
  split <;> omega

theorem dvd_roundUp (n : Nat) (hunit : 0 < unit) : unit ∣ roundUp n unit := by
  have hmod := Nat.mod_lt n hunit
  unfold roundUp
  split
  case isTrue h => exact Nat.dvd_of_mod_eq_zero h
  case isFalse h =>
    have hdiv := Nat.div_add_mod n unit
    refine ⟨n / unit + 1, ?_⟩
    rw [Nat.mul_succ]
    omega

theorem roundUp_of_dvd (h : unit ∣ n) : roundUp n unit = n :=
  if_pos (Nat.mod_eq_zero_of_dvd h)

@[simp] theorem roundUp_zero (unit : Nat) : roundUp 0 unit = 0 :=
  roundUp_of_dvd (Nat.dvd_zero unit)

theorem roundUp_add_of_dvd (h : unit ∣ m) : roundUp (m + n) unit = m + roundUp n unit := by
  have hmod : (m + n) % unit = n % unit := by
    obtain ⟨k, rfl⟩ := h
    exact Nat.mul_add_mod _ _ _
  unfold roundUp
  rw [hmod]
  split <;> omega

theorem roundUp_le_of_dvd (hunit : 0 < unit) (h : unit ∣ m) (hle : n ≤ m) : roundUp n unit ≤ m := by
  obtain ⟨k, hk⟩ := dvd_roundUp n hunit
  obtain ⟨l, rfl⟩ := h
  have hlt := roundUp_lt n hunit
  rw [hk] at hlt ⊢
  refine Nat.mul_le_mul_left _ (Nat.le_of_not_lt fun hl => ?_)
  have := Nat.mul_le_mul_left unit (Nat.succ_le_of_lt hl)
  rw [Nat.mul_succ] at this
  omega

/-- Two lengths rounded apart need no more room than their sum rounded. -/
def Carries (a b unit : Nat) : Prop :=
  a % unit = 0 ∨ b % unit = 0 ∨ unit < a % unit + b % unit

instance (a b unit : Nat) : Decidable (Carries a b unit) :=
  inferInstanceAs (Decidable (_ ∨ _))

theorem roundUp_add_le_iff (a b : Nat) (hunit : 0 < unit) :
    roundUp a unit + b ≤ roundUp (a + b) unit ↔ Carries a b unit := by
  have ha := Nat.mod_lt a hunit
  have hb := Nat.mod_lt b hunit
  have hle := le_roundUp (a + b) unit
  by_cases ha0 : a % unit = 0
  · rw [roundUp_of_dvd (Nat.dvd_of_mod_eq_zero ha0)]
    exact ⟨fun _ => .inl ha0, fun _ => hle⟩
  by_cases hb0 : b % unit = 0
  · rw [Nat.add_comm a b, roundUp_add_of_dvd (Nat.dvd_of_mod_eq_zero hb0)]
    exact ⟨fun _ => .inr (.inl hb0), fun _ => by omega⟩
  have hsum : (a + b) % unit = _ := Nat.add_mod_eq_ite
  unfold Carries
  simp only [roundUp, ha0, hb0, if_false, false_or]
  split at hsum <;> simp only [hsum] <;> split <;> omega

/-- After `a` rounded there is room for `b`, where `a` stands once more behind it. -/
def RoomBetween (a b unit : Nat) : Prop :=
  a = 0 ∨ unit ≤ a ∨ b % unit = 0 ∨ unit < 2 * a + b % unit

instance (a b unit : Nat) : Decidable (RoomBetween a b unit) :=
  inferInstanceAs (Decidable (_ ∨ _))

theorem roundUp_add_add_le_iff (a b : Nat) (hunit : 0 < unit) :
    roundUp a unit + b ≤ roundUp (a + b + a) unit ↔ RoomBetween a b unit := by
  unfold RoomBetween
  have hb := Nat.mod_lt b hunit
  have hle := le_roundUp (a + b + a) unit
  have hlt := roundUp_lt a hunit
  by_cases hzero : a = 0
  · simp [hzero, le_roundUp]
  by_cases hlarge : unit ≤ a
  · exact ⟨fun _ => .inr (.inl hlarge), fun _ => by omega⟩
  have hone : roundUp a unit = unit := by
    simp only [roundUp, Nat.mod_eq_of_lt (Nat.lt_of_not_le hlarge), hzero, if_false]
    omega
  have hsplit : a + b + a = unit * (b / unit) + (2 * a + b % unit) := by
    have := Nat.div_add_mod b unit
    omega
  rw [hone, hsplit, roundUp_add_of_dvd ⟨_, rfl⟩]
  have hdiv := Nat.div_add_mod b unit
  -- what is left is a multiple of the unit, and it must exceed one unit if `b` leaves a rest
  obtain ⟨k, hk⟩ := dvd_roundUp (2 * a + b % unit) hunit
  have hle := le_roundUp (2 * a + b % unit) unit
  have hlt := roundUp_lt (2 * a + b % unit) hunit
  rcases k with _ | _ | k
  · omega
  · simp only [Nat.zero_add, Nat.mul_one] at hk
    omega
  grind

theorem Carries.roomBetween {a b : Nat} (hunit : 0 < unit) (h : Carries a b unit) :
    RoomBetween a (b + b) unit := by
  have hb := Nat.mod_lt b hunit
  unfold RoomBetween
  by_cases hlarge : unit ≤ a
  · exact .inr (.inl hlarge)
  have hsum : (b + b) % unit = _ := Nat.add_mod_eq_ite
  unfold Carries at h
  rw [Nat.mod_eq_of_lt (Nat.lt_of_not_le hlarge)] at h
  grind

theorem add_div_mul (n : Nat) (hunit : 0 < unit) :
    (n + (unit - 1)) / unit * unit = roundUp n unit := by
  have hmod := Nat.div_add_mod n unit
  have hlt := Nat.mod_lt n hunit
  have hsplit : n + (unit - 1) = unit * (n / unit) + (n % unit + (unit - 1)) := by omega
  rw [hsplit, Nat.mul_add_div hunit, Nat.add_mul, Nat.mul_comm (n / unit)]
  unfold roundUp
  by_cases h : n % unit = 0
  · have hzero : (n % unit + (unit - 1)) / unit = 0 := Nat.div_eq_of_lt (by omega)
    rw [hzero, if_pos h]
    omega
  · have hone : (n % unit + (unit - 1)) / unit = 1 :=
      Nat.div_eq_of_lt_le (by omega) (by omega)
    rw [hone, if_neg h]
    omega

theorem land_mask {k w s : Nat} (hk : k ≤ w) (hs : s < 2 ^ w) :
    s &&& (2 ^ w - 2 ^ k) = s / 2 ^ k * 2 ^ k := by
  have hpos := Nat.two_pow_pos k
  have hpow : 2 ^ k ≤ 2 ^ w := Nat.pow_le_pow_right (by omega) hk
  have hmask : 2 ^ w - 2 ^ k = 2 ^ w - (2 ^ k - 1 + 1) := by omega
  refine Nat.eq_of_testBit_eq fun i => ?_
  rw [hmask, Nat.testBit_and, Nat.testBit_two_pow_sub_succ (by omega), Nat.testBit_two_pow_sub_one,
    Nat.testBit_mul_two_pow, Nat.testBit_div_two_pow]
  by_cases hi : k ≤ i
  · by_cases hw : i < w
    · simp [hi, hw, Nat.sub_add_cancel hi]
    · have : s.testBit i = false := Nat.testBit_lt_two_pow
        (hs.trans_le (Nat.pow_le_pow_right (by omega) (Nat.le_of_not_lt hw)))
      simp [hi, this]
  · simp [hi, Nat.lt_of_not_le hi]

theorem add_land_mask {k w : Nat} (hk : k ≤ w) (hfit : n + (2 ^ k - 1) < 2 ^ w) :
    (n + (2 ^ k - 1)) &&& (2 ^ w - 2 ^ k) = roundUp n (2 ^ k) :=
  (land_mask hk hfit).trans (add_div_mul n (Nat.two_pow_pos k))

end DeviceHal.Lib
