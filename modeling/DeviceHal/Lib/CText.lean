import Mathlib.Data.List.TakeWhile
import Mathlib.Algebra.Group.Nat.Defs
import Mathlib.Algebra.Group.Int.Defs
import Mathlib.Data.Int.Order.Basic
import Mathlib.Data.List.Basic

namespace DeviceHal.Lib

/-- The characters of a C string are those before its terminator. -/
def cStr (s : List Char) : List Char := s.takeWhile (· ≠ '\x00')

def isSpace (c : Char) : Bool := c = ' ' || (9 ≤ c.toNat && c.toNat ≤ 13)

def digitOf (base : Nat) (c : Char) : Option Nat :=
  let value :=
    if '0' ≤ c ∧ c ≤ '9' then c.toNat - 48
    else if 'a' ≤ c ∧ c ≤ 'z' then c.toNat - 87
    else if 'A' ≤ c ∧ c ≤ 'Z' then c.toNat - 55
    else base
  if value < base then some value else none

def leadingDigits (base : Nat) : List Char → List Nat
  | [] => []
  | c :: s =>
    match digitOf base c with
    | some d => d :: leadingDigits base s
    | none => []

/-- The number with these digits, the first one counting most. -/
def digitsValue (base : Nat) (ds : List Nat) : Nat := ds.foldl (fun n d => base * n + d) 0

/-- Whether there is a minus sign in front, and what follows the sign. -/
def takeSign : List Char → Bool × List Char
  | '-' :: s => (true, s)
  | '+' :: s => (false, s)
  | s => (false, s)

def skipRadix (base : Nat) (s : List Char) : List Char :=
  match s with
  | '0' :: x :: c :: rest =>
    if base = 16 ∧ (x = 'x' ∨ x = 'X') ∧ (digitOf 16 c).isSome then c :: rest else s
  | s => s

/-- Values out of the range of a `long` become its nearest end. -/
def clampLong (longBits : Nat) (v : Int) : Int :=
  max (-2 ^ (longBits - 1)) (min v (2 ^ (longBits - 1) - 1))

/-- `strtol` on a text that has its terminator cut off. -/
def strtolText (longBits base : Nat) (s : List Char) : Int :=
  let (negative, digits) := takeSign (s.dropWhile isSpace)
  let magnitude : Int := digitsValue base (leadingDigits base (skipRadix base digits))
  clampLong longBits (if negative then -magnitude else magnitude)

def strtol (longBits base : Nat) (s : List Char) : Int := strtolText longBits base (cStr s)

/-- The conversion of a `long` to an `int` keeps the low 32 bits. -/
def toInt32 (v : Int) : Int := v.bmod (2 ^ 32)

/-- `atoi` is `strtol` in base 10, converted to `int`. -/
def atoi (longBits : Nat) (s : List Char) : Int := toInt32 (strtol longBits 10 s)

def IsDecimal (s : List Char) : Prop := s ≠ [] ∧ ∀ c ∈ s, (digitOf 10 c).isSome = true

instance (s : List Char) : Decidable (IsDecimal s) := inferInstanceAs (Decidable (_ ∧ _))

/-- The number that a text of decimal digits stands for. -/
def decimal (s : List Char) : Nat := digitsValue 10 (leadingDigits 10 s)

theorem clampLong_of_lt {longBits n : Nat} (hbits : 32 ≤ longBits) (hn : n < 2 ^ 31) :
    clampLong longBits n = n := by
  have hpow : (2 : Int) ^ 31 ≤ 2 ^ (longBits - 1) :=
    mod_cast Nat.pow_le_pow_right (show 0 < 2 by decide) (show 31 ≤ longBits - 1 by omega)
  grind [clampLong]

theorem toInt32_of_lt {n : Nat} (hn : n < 2 ^ 31) : toInt32 n = n := by
  unfold toInt32
  rw [Int.bmod_eq_of_le] <;> omega

theorem digit_toNat {base : Nat} {c : Char} (h : (digitOf base c).isSome = true) : 48 ≤ c.toNat := by
  by_contra hlow
  have hdigit : ¬('0' ≤ c ∧ c ≤ '9') := fun hc => hlow hc.1
  have hsmall : ¬('a' ≤ c ∧ c ≤ 'z') := fun hc => hlow (Nat.le_trans (by decide : 48 ≤ 97) hc.1)
  have hcapital : ¬('A' ≤ c ∧ c ≤ 'Z') := fun hc => hlow (Nat.le_trans (by decide : 48 ≤ 65) hc.1)
  simp [digitOf, if_neg hdigit, if_neg hsmall, if_neg hcapital] at h

theorem isSpace_of_digit {c : Char} (h : 48 ≤ c.toNat) : isSpace c = false := by
  have hne : c ≠ ' ' := by
    rintro rfl
    exact absurd h (by decide)
  unfold isSpace
  grind

variable {s : List Char}

theorem takeSign_of_digit {c : Char} (h : 48 ≤ c.toNat) : takeSign (c :: s) = (false, c :: s) := by
  unfold takeSign
  split
  next heq =>
    cases heq
    exact absurd h (by decide)
  next heq =>
    cases heq
    exact absurd h (by decide)
  next => rfl

theorem skipRadix_of_digits {base : Nat} (h : ∀ c ∈ s, (digitOf base c).isSome = true) :
    skipRadix base s = s := by
  unfold skipRadix
  split
  next x c rest =>
    refine if_neg fun ⟨hbase, hx, _⟩ => ?_
    have hdigit := h x (by simp)
    rw [hbase] at hdigit
    rcases hx with rfl | rfl <;> exact absurd hdigit (by decide)
  next => rfl

theorem strtol_of_digits {longBits base : Nat} (hbits : 32 ≤ longBits) (hne : s ≠ [])
    (h : ∀ c ∈ s, (digitOf base c).isSome = true)
    (hs : digitsValue base (leadingDigits base s) < 2 ^ 31) :
    toInt32 (strtol longBits base s) = digitsValue base (leadingDigits base s) := by
  have hstr : cStr s = s := by
    refine List.takeWhile_eq_self_iff.mpr fun c hc => decide_eq_true ?_
    rintro rfl
    exact absurd (digit_toNat (h _ hc)) (by decide)
  obtain ⟨c, s, rfl⟩ := List.exists_cons_of_ne_nil hne
  have hc := digit_toNat (h c List.mem_cons_self)
  unfold strtol strtolText
  rw [hstr, List.dropWhile_cons_of_neg (by simp [isSpace_of_digit hc]), takeSign_of_digit hc]
  simp only [Bool.false_eq_true, if_false, skipRadix_of_digits h]
  rw [clampLong_of_lt hbits hs, toInt32_of_lt hs]

/-- `atoi` reads a plain decimal number that fits an `int`. -/
theorem atoi_of_isDecimal {longBits : Nat} (hbits : 32 ≤ longBits)
    (h : IsDecimal s) (hs : decimal s < 2 ^ 31) : atoi longBits s = decimal s :=
  strtol_of_digits hbits h.1 h.2 hs

def zeroPad (width : Nat) (digits : List Char) : List Char :=
  List.replicate (width - digits.length) '0' ++ digits

/-- `%0<width>d`. The sign counts for the width. -/
def fmtInt (width : Nat) (n : Int) : List Char :=
  if n < 0 then '-' :: zeroPad (width - 1) (Nat.toDigits 10 n.natAbs)
  else zeroPad width (Nat.toDigits 10 n.natAbs)

/-- `%02X` of a byte. -/
def fmtHexByte (b : UInt8) : List Char :=
  zeroPad 2 ((Nat.toDigits 16 b.toNat).map Char.toUpper)

theorem zeroPad_length (width : Nat) (digits : List Char) :
    (zeroPad width digits).length = max width digits.length := by
  unfold zeroPad
  rw [List.length_append, List.length_replicate]
  omega

/-- A number below `10 ^ k` needs no more than `k` digits, and one more for a sign. -/
theorem fmtInt_length_le (width k : Nat) {n : Int} (hk : 0 < k) (hw : width ≤ k)
    (hn : n.natAbs < 10 ^ k) : (fmtInt width n).length ≤ k + 1 := by
  have hd : (Nat.toDigits 10 n.natAbs).length ≤ k :=
    (Nat.length_toDigits_le_iff (by decide) hk).mpr hn
  grind [fmtInt, List.length_cons, zeroPad_length]

theorem fmtNat_length_le {width k n : Nat} (hk : 0 < k) (hw : width ≤ k) (hn : n < 10 ^ k) :
    (fmtInt width n).length ≤ k := by
  have hd : (Nat.toDigits 10 n).length ≤ k :=
    (Nat.length_toDigits_le_iff (by decide) hk).mpr hn
  unfold fmtInt
  rw [if_neg (by omega), zeroPad_length, Int.natAbs_natCast]
  omega

theorem fmtHexByte_length (b : UInt8) : (fmtHexByte b).length = 2 := by
  have hd : (Nat.toDigits 16 b.toNat).length ≤ 2 :=
    (Nat.length_toDigits_le_iff (by decide) (by decide)).mpr b.toNat_lt
  unfold fmtHexByte
  rw [zeroPad_length, List.length_map]
  omega

/-- What is printed so far, and the bytes left for more with its terminator. -/
structure CBuf where
  text : List Char
  room : Nat
deriving DecidableEq, Repr

namespace CBuf

def empty (size : Nat) : CBuf := ⟨[], size⟩

def append (b : CBuf) (piece : List Char) : CBuf :=
  ⟨b.text ++ piece, b.room - piece.length⟩

/-- `snprintf` at the marker, with the length checked afterwards. -/
def tryPrint (b : CBuf) (piece : List Char) : Option CBuf :=
  if b.room ≤ piece.length then none else some (b.append piece)

/-- `snprintf` at the marker, unchecked. What does not fit is cut off. -/
def print (b : CBuf) (piece : List Char) : CBuf :=
  ⟨b.text ++ piece.take (b.room - 1), b.room - piece.length⟩

theorem tryPrint_of_lt {b : CBuf} {piece : List Char} (h : piece.length < b.room) :
    b.tryPrint piece = some (b.append piece) :=
  if_neg (by omega)

theorem print_of_lt {b : CBuf} {piece : List Char} (h : piece.length < b.room) :
    b.print piece = b.append piece := by
  unfold print append
  rw [List.take_of_length_le (by omega)]

@[simp] theorem append_nil (b : CBuf) : b.append [] = b := by
  simp [append]

@[simp] theorem append_append (b : CBuf) (piece more : List Char) :
    (b.append piece).append more = b.append (piece ++ more) := by
  simp [append, Nat.sub_sub]

@[simp] theorem append_room (b : CBuf) (piece : List Char) :
    (b.append piece).room = b.room - piece.length := rfl

@[simp] theorem empty_append_text (size : Nat) (piece : List Char) :
    ((empty size).append piece).text = piece := rfl

end CBuf

end DeviceHal.Lib
