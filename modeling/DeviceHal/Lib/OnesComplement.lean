import Mathlib.Data.UInt

namespace DeviceHal.Lib

/-- A sum of 16 bit words with its carries folded back until it fits in 16 bits. -/
def foldCarries (total : Nat) : Nat :=
  if total < 2 ^ 16 then total else foldCarries (total % 2 ^ 16 + total / 2 ^ 16)
termination_by total
decreasing_by omega

def wordSum (words : List UInt16) : Nat := (words.map UInt16.toNat).sum

def complements (words : List UInt16) : List UInt16 := words.map fun w => ~~~w

def writeWords (packet : List UInt16) : List Nat → List UInt16 → List UInt16
  | i :: positions, w :: words => writeWords (packet.set i w) positions words
  | _, _ => packet

def HoldsWords (packet : List UInt16) (positions : List Nat) (words : List UInt16) : Prop :=
  List.Forall₂ (fun i w => packet[i]? = some w) positions words

theorem foldCarries_of_lt {total : Nat} (h : total < 2 ^ 16) : foldCarries total = total := by
  rw [foldCarries, if_pos h]

theorem foldCarries_spec (total : Nat) : foldCarries total < 2 ^ 16 ∧
    foldCarries total ≡ total [MOD 65535] ∧ (0 < total → 0 < foldCarries total) := by
  induction total using foldCarries.induct with
  | case1 total h =>
    rw [foldCarries_of_lt h]
    exact ⟨h, rfl, id⟩
  | case2 total h ih =>
    grind [foldCarries, Nat.ModEq]

theorem eq_of_modEq {a b : Nat} (ha : a < 2 ^ 16) (hb : b < 2 ^ 16) (h : a ≡ b [MOD 65535])
    (hz : 0 < a ↔ 0 < b) : a = b := by
  unfold Nat.ModEq at h
  omega

theorem foldCarries_foldCarries_add (a b : Nat) :
    foldCarries (foldCarries a + b) = foldCarries (a + b) := by
  obtain ⟨hlt, hmod, hpos⟩ := foldCarries_spec (foldCarries a + b)
  obtain ⟨hlt', hmod', hpos'⟩ := foldCarries_spec (a + b)
  obtain ⟨-, hmoda, hposa⟩ := foldCarries_spec a
  refine eq_of_modEq hlt hlt' (hmod.trans ((hmoda.add_right b).trans hmod'.symm)) ?_
  grind

theorem wordSum_append (l l' : List UInt16) : wordSum (l ++ l') = wordSum l + wordSum l' := by
  simp [wordSum]

theorem wordSum_cons (w : UInt16) (l : List UInt16) : wordSum (w :: l) = w.toNat + wordSum l := by
  simp [wordSum]

theorem toNat_complement (w : UInt16) : (~~~w).toNat + w.toNat = 65535 := by
  have := w.toNat_lt
  rw [UInt16.toNat_not]
  simp only [UInt16.size]
  omega

theorem wordSum_complements (l : List UInt16) :
    wordSum (complements l) + wordSum l = 65535 * l.length := by
  induction l with
  | nil => rfl
  | cons w l ih =>
    have hw := toNat_complement w
    have hl : complements (w :: l) = ~~~w :: complements l := rfl
    rw [hl, wordSum_cons, wordSum_cons, List.length_cons]
    omega

variable {packet : List UInt16}

theorem wordSum_set {i : Nat} {old : UInt16} (h : packet[i]? = some old)
    (w : UInt16) : wordSum (packet.set i w) + old.toNat = wordSum packet + w.toNat := by
  induction packet generalizing i with
  | nil => simp at h
  | cons x packet ih =>
    cases i with
    | zero =>
      grind [wordSum_cons]
    | succ i =>
      grind [wordSum_cons]

theorem wordSum_writeWords {positions : List Nat} {olds news : List UInt16}
    (nodup : positions.Nodup) (holds : HoldsWords packet positions olds)
    (hlen : news.length = positions.length) :
    wordSum (writeWords packet positions news) + wordSum olds = wordSum packet + wordSum news := by
  induction positions generalizing packet olds news with
  | nil =>
    cases holds
    cases List.length_eq_zero_iff.mp hlen
    rfl
  | cons i positions ih =>
    cases holds with
    | @cons _ old _ olds hi hrest =>
      cases news with
      | nil => simp at hlen
      | cons w news =>
        obtain ⟨hout, hnodup⟩ := List.nodup_cons.mp nodup
        have hkept : HoldsWords (packet.set i w) positions olds := by
          unfold HoldsWords at hrest ⊢
          refine List.forall₂_iff_get.mpr ⟨hrest.length_eq, fun k hk hk' => ?_⟩
          have hne : i ≠ positions.get ⟨k, hk⟩ := fun he => hout (he ▸ List.get_mem _ _)
          rw [List.getElem?_set_ne hne]
          exact hrest.get hk hk'
        have htail := ih hnodup hkept (by simpa using hlen)
        have hset := wordSum_set hi w
        rw [writeWords, wordSum_cons, wordSum_cons]
        omega

/-- If a delta is the folded sum of the new words and the complements of the old ones, adding it
to the sum of the packet gives the sum of the packet with the new words. -/
theorem foldCarries_add_delta {positions : List Nat}
    {olds news : List UInt16} {delta : Nat} (nodup : positions.Nodup) (holds : HoldsWords packet positions olds)
    (hlen : news.length = positions.length)
    (hdelta : delta = foldCarries (wordSum (news ++ complements olds))) :
    foldCarries (foldCarries (wordSum packet) + delta) ≡
      foldCarries (wordSum (writeWords packet positions news)) [MOD 65535] := by
  obtain ⟨-, hsum, -⟩ := foldCarries_spec (wordSum packet + delta)
  obtain ⟨-, hnew, -⟩ := foldCarries_spec (wordSum (writeWords packet positions news))
  obtain ⟨-, hfold, -⟩ := foldCarries_spec (wordSum (news ++ complements olds))
  have hwrite := wordSum_writeWords nodup holds hlen
  have hcompl := wordSum_complements olds
  rw [foldCarries_foldCarries_add]
  refine hsum.trans (Nat.ModEq.trans ?_ hnew.symm)
  rw [hdelta]
  refine (hfold.add_left _).trans ?_
  rw [wordSum_append]
  unfold Nat.ModEq
  omega

end DeviceHal.Lib
