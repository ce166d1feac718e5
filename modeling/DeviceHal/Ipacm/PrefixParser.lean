import DeviceHal.Lib.CText
import DeviceHal.Ipacm.OffloadManager

namespace DeviceHal.Ipacm

open Lib

/-- What the parser uses of the C library. `inet_pton` takes no empty text and no slash. -/
structure CLibrary where
  longBits : Nat
  inetPton4 : List Char → Option (Vector UInt8 4)
  inetPton6 : List Char → Option (Vector UInt8 16)
  longBits_le : 32 ≤ longBits
  text4 : ∀ s, (inetPton4 s).isSome = true → s ≠ [] ∧ '/' ∉ s
  text6 : ∀ s, (inetPton6 s).isSome = true → s ≠ [] ∧ '/' ∉ s

structure PrefixParser where
  mPrefixes : List Prefix := []
  mLastErr : String := "No Err"

namespace PrefixParser

def makeBlankPrefix (famHint : IpFam) : Prefix := { fam := famHint }

def guessIPFamily (s : List Char) : IpFam :=
  match s.findIdx? (· = ':') with
  | some _ => .v6
  | none => .v4

def splitIntoAddrAndMask (s : List Char) : Option (List Char × List Char) :=
  match s.findIdx? (· = '/') with
  | none => some (s, [])
  | some pos =>
    if pos ≥ 1 then some (s.take pos, if pos < s.length then s.drop (pos + 1) else []) else none

def parseSubnetMask (lib : CLibrary) (s : List Char) (famHint : IpFam) : Int :=
  if s.isEmpty then (if famHint = .v6 then 128 else 32) else atoi lib.longBits s

/-- Four bytes in network order. -/
def word (b0 b1 b2 b3 : UInt8) : UInt32 :=
  b0.toUInt32 <<< 24 ||| b1.toUInt32 <<< 16 ||| b2.toUInt32 <<< 8 ||| b3.toUInt32

def parseV4Addr (lib : CLibrary) (s : List Char) (out : Prefix) : Option Prefix :=
  (lib.inetPton4 (cStr s)).map fun a => { out with v4Addr := word a[0] a[1] a[2] a[3] }

def parseV6Addr (lib : CLibrary) (s : List Char) (out : Prefix) : Option Prefix :=
  (lib.inetPton6 (cStr s)).map fun a =>
    { out with
      v6Addr :=
        { w0 := word a[0] a[1] a[2] a[3]
          w1 := word a[4] a[5] a[6] a[7]
          w2 := word a[8] a[9] a[10] a[11]
          w3 := word a[12] a[13] a[14] a[15] } }

/-- The loop of `createMask`, after `k` rounds. -/
def maskLoop (mask : Int) : Nat → UInt32
  | 0 => 0
  | i + 1 => if (i : Int) < mask then maskLoop mask i <<< 1 ||| 1 else maskLoop mask i <<< 1

def createMask (mask : Int) : UInt32 := if mask ≥ 32 then ~~~0 else maskLoop mask 32

def populateV4Mask (mask : Int) (out : Prefix) : Option Prefix :=
  if mask < 0 ∨ mask > 32 then none else some { out with v4Mask := createMask mask }

/-- What is left of the length for the next word. -/
def nextWord (mask : Int) : Int := if mask > 32 then mask - 32 else 0

def populateV6Mask (mask : Int) (out : Prefix) : Option Prefix :=
  if mask < 0 ∨ mask > 128 then none
  else some { out with
    v6Mask :=
      { w0 := createMask mask
        w1 := createMask (nextWord mask)
        w2 := createMask (nextWord (nextWord mask))
        w3 := createMask (nextWord (nextWord (nextWord mask))) } }

def fail (mLastErr : String) (p : PrefixParser) : PrefixParser × Bool :=
  ({ p with mLastErr }, false)

def isMaskValid (mask : Int) (fam : IpFam) (p : PrefixParser) : PrefixParser × Bool :=
  if mask < 0 then p.fail ("Failed parse subnet mask(" ++ toString mask ++ ")")
  else if mask = 0 then p.fail ("Subnet mask cannot be 0(" ++ toString mask ++ ")")
  else if fam = .v4 ∧ mask > 32 then
    p.fail ("Interpreted address as V4 but mask was too large(" ++ toString mask ++ ")")
  else if fam = .v6 ∧ mask > 128 then
    p.fail ("Interpreted address as V6 but mask was too large(" ++ toString mask ++ ")")
  else (p, true)

def populateMasks (mask : Int) (fam : IpFam) (out : Prefix) : Except String Prefix :=
  match if fam = .v4 then populateV4Mask mask out else some out with
  | none => .error "IPv4"
  | some out =>
    match populateV6Mask mask out with
    | none => .error "IPv6"
    | some out => .ok out

def parseAddr (lib : CLibrary) (addr : List Char) (fam : IpFam) (out : Prefix) :
    Except String Prefix :=
  if fam = .v4 then
    match parseV4Addr lib addr out with
    | none => .error "V4"
    | some out => .ok out
  else
    match parseV6Addr lib addr out with
    | none => .error "V6"
    | some out => .ok out

/-- `add(string, IP_FAM)`, once the family and the two parts of the text are known. -/
def addParts (lib : CLibrary) (addr subnet : List Char) (fam : IpFam) (p : PrefixParser) :
    PrefixParser × Bool :=
  let mask := parseSubnetMask lib subnet fam
  let checked := p.isMaskValid mask fam
  if checked.2 = false then checked.1.fail "Invalid mask"
  else
    match parseAddr lib addr fam (makeBlankPrefix fam) with
    | .error family =>
      checked.1.fail ("Failed to parse " ++ family ++ " Address(" ++ String.ofList addr ++ ")")
    | .ok pre =>
      match populateMasks mask fam pre with
      | .error family =>
        checked.1.fail ("Failed to populate " ++ family ++ " Mask(" ++ toString mask ++ ", " ++
          String.ofList addr ++ ")")
      | .ok pre => ({ checked.1 with mPrefixes := checked.1.mPrefixes ++ [pre] }, true)

def addOf (lib : CLibrary) (s : List Char) (fam : IpFam) (p : PrefixParser) :
    PrefixParser × Bool :=
  match splitIntoAddrAndMask s with
  | none => p.fail ("Failed to split into Address and Mask(" ++ String.ofList s ++ ")")
  | some (addr, subnet) => p.addParts lib addr subnet fam

def addHinted (lib : CLibrary) (s : List Char) (famHint : IpFam) (p : PrefixParser) :
    PrefixParser × Bool :=
  if s.length = 0 then p.fail "Failed to parse string, length = 0..."
  else p.addOf lib s (if famHint = .invalid then guessIPFamily s else famHint)

/-- `add(string)`: without a hint. -/
def add (lib : CLibrary) (s : List Char) (p : PrefixParser) : PrefixParser × Bool :=
  p.addHinted lib s .invalid

/-- A text with a colon in it can only be of IPv6. -/
def family (s : List Char) : IpFam := if ':' ∈ s then .v6 else .v4

def width (fam : IpFam) : Nat := if fam = .v6 then 128 else 32

def accepts (lib : CLibrary) (fam : IpFam) (addr : List Char) : Bool :=
  if fam = .v4 then (lib.inetPton4 addr).isSome else (lib.inetPton6 addr).isSome

/-- A textual address of the family. A text has no terminator in it. -/
def IsAddress (lib : CLibrary) (fam : IpFam) (addr : List Char) : Prop :=
  '\x00' ∉ addr ∧ accepts lib fam addr = true

/-- An address, and a slash with nothing or with a length after it. `len` is the length meant. -/
def Grammar (lib : CLibrary) (s : List Char) (len : Nat) : Prop :=
  ∃ addr, IsAddress lib (family s) addr ∧
    ((s = addr ∨ s = addr ++ ['/']) ∧ len = width (family s) ∨
      ∃ digits, s = addr ++ '/' :: digits ∧ IsDecimal digits ∧ decimal digits = len ∧
        1 ≤ len ∧ len ≤ width (family s))

/-- The leading `n` bits are ones, the others zeros. -/
def LeadingOnes (n : Nat) (w : UInt32) : Prop :=
  ∀ i < 32, w.toBitVec.getMsbD i = decide (i < n)

end PrefixParser

def Ipv6Addr.bit (a : Ipv6Addr) (i : Nat) : Bool :=
  (if i < 32 then a.w0 else if i < 64 then a.w1 else if i < 96 then a.w2 else a.w3).toBitVec.getMsbD
    (i % 32)

namespace PrefixParser

/-- The mask of the prefix's family is of length `len`. -/
def HasMask (len : Nat) (pre : Prefix) : Prop :=
  if pre.fam = .v6 then ∀ i < 128, pre.v6Mask.bit i = decide (i < len)
  else LeadingOnes len pre.v4Mask

/-- `add` accepts exactly the grammar, stores the mask meant, and stores nothing else. -/
structure AddExact (lib : CLibrary) (s : List Char) (p : PrefixParser) : Prop where
  accepted : (p.add lib s).2 = true ↔ ∃ len, Grammar lib s len
  stored : (p.add lib s).2 = true → ∃ pre len, Grammar lib s len ∧
    (p.add lib s).1.mPrefixes = p.mPrefixes ++ [pre] ∧ pre.fam = family s ∧ HasMask len pre
  kept : (p.add lib s).2 = false → (p.add lib s).1.mPrefixes = p.mPrefixes

variable {lib : CLibrary} {s : List Char} {p : PrefixParser}

theorem maskLoop_getLsbD {n : Nat} (k j : Nat) (hk : k ≤ 32) :
    (maskLoop n k).toBitVec.getLsbD j = decide (j < k ∧ k - 1 - j < n) := by
  induction k generalizing j with
  | zero => simp [maskLoop]
  | succ k ih =>
    unfold maskLoop
    cases j with
    | zero =>
      split
      next h =>
        rw [Bool.eq_iff_iff]
        simp
        omega
      next h =>
        rw [Bool.eq_iff_iff]
        simp
        omega
    | succ j =>
      have hj := ih j (by omega)
      split
      next h =>
        rw [Bool.eq_iff_iff]
        simp [hj]
        omega
      next h =>
        rw [Bool.eq_iff_iff]
        simp [hj]
        omega

theorem createMask_leadingOnes (n : Nat) : LeadingOnes n (createMask n) := by
  intro i hi
  unfold createMask
  split
  next h =>
    have hn : i < n := by omega
    have hones : (~~~0 : UInt32).toBitVec = BitVec.allOnes 32 := rfl
    rw [hones, BitVec.getMsbD_allOnes, decide_eq_decide]
    omega
  next h =>
    rw [BitVec.getMsbD_eq_getLsbD, maskLoop_getLsbD _ _ le_rfl, ← Bool.decide_and,
      decide_eq_decide]
    omega

theorem nextWord_natCast (n : Nat) : nextWord n = (n - 32 : Nat) := by
  unfold nextWord
  split <;> omega

theorem v6Mask_bit {n i : Nat} (hi : i < 128) :
    Ipv6Addr.bit
      { w0 := createMask n
        w1 := createMask (n - 32 : Nat)
        w2 := createMask (n - 32 - 32 : Nat)
        w3 := createMask (n - 32 - 32 - 32 : Nat) } i = decide (i < n) := by
  have hones : ∀ m, (createMask (m : Nat)).toBitVec.getMsbD (i % 32) = decide (i % 32 < m) :=
    fun m => createMask_leadingOnes m (i % 32) (by omega)
  unfold Ipv6Addr.bit
  split
  next => rw [hones, decide_eq_decide]; omega
  next =>
    split
    next => rw [hones, decide_eq_decide]; omega
    next =>
      split
      next => rw [hones, decide_eq_decide]; omega
      next => rw [hones, decide_eq_decide]; omega

def addrText (s : List Char) : List Char := s.takeWhile (· ≠ '/')

def lengthText (s : List Char) : List Char := (s.dropWhile (· ≠ '/')).drop 1

theorem guessIPFamily_eq (s : List Char) : guessIPFamily s = family s := by
  unfold guessIPFamily family
  cases h : s.findIdx? (· = ':') with
  | none =>
    grind
  | some k =>
    rw [if_pos]
    obtain ⟨hk, hc, -⟩ := List.findIdx?_eq_some_iff_getElem.mp h
    grind

theorem splitIntoAddrAndMask_eq (s : List Char) :
    splitIntoAddrAndMask s =
      if addrText s = [] ∧ s ≠ [] then none else some (addrText s, lengthText s) := by
  have htake : addrText s = s.take (s.findIdx (· = '/')) := by
    unfold addrText
    rw [List.takeWhile_eq_take_findIdx_not]
    simp
  have hdrop : lengthText s = s.drop (s.findIdx (· = '/') + 1) := by
    unfold lengthText
    rw [List.dropWhile_eq_drop_findIdx_not]
    simp
  rw [htake, hdrop]
  unfold splitIntoAddrAndMask
  cases h : s.findIdx? (· = '/') with
  | none =>
    have hidx := List.findIdx?_eq_none_iff_findIdx_eq.mp h
    rw [hidx, List.take_length, if_neg (by tauto), List.drop_eq_nil_of_le (by omega)]
  | some pos =>
    obtain ⟨hpos, hidx⟩ := List.findIdx?_eq_some_iff_findIdx_eq.mp h
    rw [hidx]
    have hne : s ≠ [] := List.ne_nil_of_length_pos (by omega)
    cases pos with
    | zero => simp [hne]
    | succ pos => simp [hne, hpos]

theorem family_eq (s : List Char) : family s = .v4 ∨ family s = .v6 := by
  unfold family
  split
  next => exact Or.inr rfl
  next => exact Or.inl rfl

/-- What `add` makes of the length. -/
def readLength (lib : CLibrary) (s : List Char) : Int :=
  parseSubnetMask lib (lengthText s) (family s)

/-- What `add` checks. The library sees the texts up to their terminators. -/
def Admits (lib : CLibrary) (s : List Char) : Prop :=
  accepts lib (family s) (cStr (addrText s)) = true ∧
    1 ≤ readLength lib s ∧ readLength lib s ≤ width (family s)

@[simp]
theorem isMaskValid_mPrefixes (mask : Int) (fam : IpFam) :
    (p.isMaskValid mask fam).1.mPrefixes = p.mPrefixes := by
  unfold isMaskValid fail
  split_ifs <;> rfl

variable {fam : IpFam}

theorem isMaskValid_iff {mask : Int} (hfam : fam = .v4 ∨ fam = .v6) :
    (p.isMaskValid mask fam).2 = true ↔ 1 ≤ mask ∧ mask ≤ width fam := by
  unfold isMaskValid fail width
  grind

theorem accepts_nil (fam : IpFam) : accepts lib fam [] = false := by
  unfold accepts
  split
  next =>
    rw [Bool.eq_false_iff]
    exact fun h => (lib.text4 _ h).1 rfl
  next =>
    rw [Bool.eq_false_iff]
    exact fun h => (lib.text6 _ h).1 rfl

variable {addr : List Char}

theorem slash_of_accepts (h : accepts lib fam addr = true) : '/' ∉ addr := by
  unfold accepts at h
  split at h
  next => exact (lib.text4 _ h).2
  next => exact (lib.text6 _ h).2

theorem parseAddr_of_accepts (out : Prefix) (h : accepts lib fam (cStr addr) = true) :
    ∃ pre, parseAddr lib addr fam out = .ok pre ∧ pre.fam = out.fam := by
  unfold accepts at h
  unfold parseAddr
  split
  next hfam =>
    rw [if_pos hfam] at h
    obtain ⟨a, ha⟩ := Option.isSome_iff_exists.mp h
    unfold parseV4Addr
    rw [ha]
    exact ⟨_, rfl, rfl⟩
  next hfam =>
    rw [if_neg hfam] at h
    obtain ⟨a, ha⟩ := Option.isSome_iff_exists.mp h
    unfold parseV6Addr
    rw [ha]
    exact ⟨_, rfl, rfl⟩

theorem parseAddr_of_not_accepts (out : Prefix)
    (h : accepts lib fam (cStr addr) = false) : ∃ e, parseAddr lib addr fam out = .error e := by
  unfold accepts at h
  unfold parseAddr
  split
  next hfam =>
    rw [if_pos hfam] at h
    unfold parseV4Addr
    rw [Option.isSome_eq_false_iff.mp h |> Option.isNone_iff_eq_none.mp]
    exact ⟨_, rfl⟩
  next hfam =>
    rw [if_neg hfam] at h
    unfold parseV6Addr
    rw [Option.isSome_eq_false_iff.mp h |> Option.isNone_iff_eq_none.mp]
    exact ⟨_, rfl⟩

theorem populateMasks_ok {n : Nat} {out : Prefix} (hfam : fam = .v4 ∨ fam = .v6)
    (hn : n ≤ width fam) (hout : out.fam = fam) :
    ∃ pre, populateMasks n fam out = .ok pre ∧ pre.fam = fam ∧ HasMask n pre := by
  have hn128 : ¬ ((n : Int) < 0 ∨ (n : Int) > 128) := by
    unfold width at hn
    split at hn <;> omega
  unfold populateMasks populateV4Mask populateV6Mask
  simp only [nextWord_natCast, if_neg hn128]
  rcases hfam with rfl | rfl
  · have hn32 : ¬ ((n : Int) < 0 ∨ (n : Int) > 32) := by
      have : n ≤ 32 := hn
      omega
    simp only [if_true, if_neg hn32]
    refine ⟨_, rfl, hout, ?_⟩
    unfold HasMask
    rw [if_neg (by simp [hout])]
    exact createMask_leadingOnes n
  · refine ⟨_, rfl, hout, ?_⟩
    unfold HasMask
    rw [if_pos hout]
    exact fun i hi => v6Mask_bit hi

theorem add_eq_addOf (hs : s ≠ []) : p.add lib s = p.addOf lib s (family s) := by
  unfold add addHinted
  rw [if_neg (by simpa using hs), if_pos rfl, guessIPFamily_eq]

theorem addOf_of_addr (ha : addrText s ≠ []) :
    p.addOf lib s fam = p.addParts lib (addrText s) (lengthText s) fam := by
  unfold addOf
  rw [splitIntoAddrAndMask_eq, if_neg (fun h => ha h.1)]

theorem addrText_ne_nil (h : accepts lib (family s) (cStr (addrText s)) = true) :
    addrText s ≠ [] := by
  intro he
  rw [he] at h
  exact absurd h (by simp [cStr, accepts_nil])

variable {addr subnet : List Char}

theorem addParts_ok {pre done : Prefix}
    (hvalid : (p.isMaskValid (parseSubnetMask lib subnet fam) fam).2 = true)
    (hpre : parseAddr lib addr fam (makeBlankPrefix fam) = .ok pre)
    (hdone : populateMasks (parseSubnetMask lib subnet fam) fam pre = .ok done) :
    (p.addParts lib addr subnet fam).2 = true ∧
      (p.addParts lib addr subnet fam).1.mPrefixes = p.mPrefixes ++ [done] := by
  unfold addParts
  simp only [hvalid, Bool.true_eq_false, if_false, hpre, hdone, isMaskValid_mPrefixes, and_self]

theorem addParts_invalid (hvalid : (p.isMaskValid (parseSubnetMask lib subnet fam) fam).2 = false) :
    (p.addParts lib addr subnet fam).2 = false ∧
      (p.addParts lib addr subnet fam).1.mPrefixes = p.mPrefixes := by
  unfold addParts
  simp only [hvalid, if_true, fail, isMaskValid_mPrefixes, and_self]

theorem addParts_notAddress (haddr : accepts lib fam (cStr addr) = false) :
    (p.addParts lib addr subnet fam).2 = false ∧
      (p.addParts lib addr subnet fam).1.mPrefixes = p.mPrefixes := by
  cases hvalid : (p.isMaskValid (parseSubnetMask lib subnet fam) fam).2 with
  | false => exact addParts_invalid hvalid
  | true =>
    obtain ⟨e, he⟩ := parseAddr_of_not_accepts (makeBlankPrefix fam) haddr
    unfold addParts
    simp only [hvalid, Bool.true_eq_false, if_false, he, fail, isMaskValid_mPrefixes, and_self]

theorem add_of_admits (h : Admits lib s) :
    ∃ pre, (p.add lib s).2 = true ∧ (p.add lib s).1.mPrefixes = p.mPrefixes ++ [pre] ∧
      pre.fam = family s ∧ HasMask (readLength lib s).toNat pre := by
  obtain ⟨haddr, hlow, hhigh⟩ := h
  have ha := addrText_ne_nil haddr
  have hs : s ≠ [] := by
    rintro rfl
    exact ha rfl
  have hvalid : (p.isMaskValid (readLength lib s) (family s)).2 = true :=
    (isMaskValid_iff (family_eq s)).mpr ⟨hlow, hhigh⟩
  obtain ⟨pre, hpre, hfam⟩ := parseAddr_of_accepts (makeBlankPrefix (family s)) haddr
  obtain ⟨n, hn⟩ := Int.eq_ofNat_of_zero_le (by omega : 0 ≤ readLength lib s)
  obtain ⟨done, hdone, hfam', hmask⟩ :=
    populateMasks_ok (n := n) (family_eq s) (by omega) hfam
  rw [← hn] at hdone
  obtain ⟨htrue, hstored⟩ := addParts_ok hvalid hpre hdone
  rw [add_eq_addOf hs, addOf_of_addr ha, hn]
  exact ⟨done, htrue, hstored, hfam', hmask⟩

theorem add_of_not_admits (h : ¬Admits lib s) :
    (p.add lib s).2 = false ∧ (p.add lib s).1.mPrefixes = p.mPrefixes := by
  by_cases hs : s = []
  · subst hs
    exact ⟨rfl, rfl⟩
  rw [add_eq_addOf hs]
  by_cases ha : addrText s = []
  · unfold addOf
    rw [splitIntoAddrAndMask_eq, if_pos ⟨ha, hs⟩]
    exact ⟨rfl, rfl⟩
  rw [addOf_of_addr ha]
  cases haddr : accepts lib (family s) (cStr (addrText s)) with
  | false => exact addParts_notAddress haddr
  | true =>
    apply addParts_invalid
    rw [Bool.eq_false_iff]
    intro hvalid
    exact h ⟨haddr, (isMaskValid_iff (family_eq s)).mp hvalid⟩

theorem add_iff_admits : (p.add lib s).2 = true ↔ Admits lib s := by
  by_cases h : Admits lib s
  · obtain ⟨-, htrue, -⟩ := add_of_admits (p := p) h
    exact ⟨fun _ => h, fun _ => htrue⟩
  · have hfalse := (add_of_not_admits (p := p) h).1
    grind

theorem addrText_append (h : '/' ∉ addr) (rest : List Char) :
    addrText (addr ++ '/' :: rest) = addr ∧ lengthText (addr ++ '/' :: rest) = rest := by
  have hall : ∀ c ∈ addr, decide (c ≠ '/') = true := by
    intro c hc
    simp only [decide_eq_true_eq]
    rintro rfl
    exact h hc
  unfold addrText lengthText
  rw [List.takeWhile_append_of_pos hall, List.dropWhile_append_of_pos hall]
  simp

theorem addrText_of_no_slash (h : '/' ∉ s) : addrText s = s ∧ lengthText s = [] := by
  have hall : ∀ c ∈ s, decide (c ≠ '/') = true := by
    intro c hc
    simp only [decide_eq_true_eq]
    rintro rfl
    exact h hc
  unfold addrText lengthText
  rw [List.takeWhile_eq_self_iff.mpr hall, List.dropWhile_eq_nil_iff.mpr hall]
  exact ⟨rfl, rfl⟩

theorem text_eq (s : List Char) :
    s = addrText s ∧ lengthText s = [] ∨ s = addrText s ++ '/' :: lengthText s := by
  have happ := List.takeWhile_append_dropWhile (p := fun c => decide (c ≠ '/')) (l := s)
  unfold addrText lengthText
  cases hd : s.dropWhile (fun c => decide (c ≠ '/')) with
  | nil =>
    grind
  | cons c rest =>
    have hne : s.dropWhile (fun c => decide (c ≠ '/')) ≠ [] := hd ▸ List.cons_ne_nil c rest
    have hc := List.head_dropWhile_not (fun c => decide (c ≠ '/')) hne
    grind

theorem grammar_iff {len : Nat} :
    Grammar lib s len ↔ IsAddress lib (family s) (addrText s) ∧
      (lengthText s = [] ∧ len = width (family s) ∨
        IsDecimal (lengthText s) ∧ decimal (lengthText s) = len ∧ 1 ≤ len ∧
          len ≤ width (family s)) := by
  constructor
  · rintro ⟨addr, haddr, ⟨rfl | hs, hlen⟩ | ⟨digits, hs, hdec, hval, hlow, hhigh⟩⟩
    · obtain ⟨ha, hl⟩ := addrText_of_no_slash (slash_of_accepts haddr.2)
      rw [ha, hl]
      exact ⟨haddr, Or.inl ⟨rfl, hlen⟩⟩
    · obtain ⟨ha, hl⟩ := addrText_append (slash_of_accepts haddr.2) []
      grind
    · obtain ⟨ha, hl⟩ := addrText_append (slash_of_accepts haddr.2) digits
      grind
  · rintro ⟨haddr, ⟨hl, hlen⟩ | ⟨hdec, hval, hlow, hhigh⟩⟩
    · rcases text_eq s with ⟨hs, -⟩ | hs
      · exact ⟨addrText s, haddr, Or.inl ⟨Or.inl hs, hlen⟩⟩
      · rw [hl] at hs
        exact ⟨addrText s, haddr, Or.inl ⟨Or.inr hs, hlen⟩⟩
    · rcases text_eq s with ⟨-, hl⟩ | hs
      · exact absurd hl hdec.1
      · exact ⟨addrText s, haddr, Or.inr ⟨lengthText s, hs, hdec, hval, hlow, hhigh⟩⟩

/-- The address is refused, or the length is out of range as `atoi` reads it, or there are no
terminators in the address and the length is missing or a plain decimal number that fits an
`int`. -/
def ReadsAsMeant (lib : CLibrary) (s : List Char) : Prop :=
  accepts lib (family s) (cStr (addrText s)) = false ∨
    (lengthText s ≠ [] ∧ ¬(1 ≤ atoi lib.longBits (lengthText s) ∧
      atoi lib.longBits (lengthText s) ≤ width (family s))) ∨
    ('\x00' ∉ addrText s ∧
      (lengthText s = [] ∨ IsDecimal (lengthText s) ∧ decimal (lengthText s) < 2 ^ 31))

theorem cStr_of_no_terminator {t : List Char} (h : '\x00' ∉ t) : cStr t = t := by
  unfold cStr
  rw [List.takeWhile_eq_self_iff]
  grind

theorem readLength_nil (lib : CLibrary) (h : lengthText s = []) : readLength lib s = width (family s) := by
  unfold readLength parseSubnetMask width
  rw [h, if_pos (by rfl)]
  split <;> rfl

theorem readLength_of_ne_nil (lib : CLibrary) (h : lengthText s ≠ []) :
    readLength lib s = atoi lib.longBits (lengthText s) := by
  unfold readLength parseSubnetMask
  rw [if_neg (by simpa using h)]

theorem width_le (fam : IpFam) : 1 ≤ width fam ∧ width fam ≤ 128 := by
  unfold width
  split <;> omega

theorem Grammar.admits {len : Nat} (h : Grammar lib s len) :
    Admits lib s ∧ readLength lib s = len := by
  obtain ⟨⟨hnul, haddr⟩, ⟨hl, hlen⟩ | ⟨hdec, hval, hlow, hhigh⟩⟩ := grammar_iff.mp h
  · have hread := readLength_nil lib hl
    have := width_le (family s)
    unfold Admits
    rw [cStr_of_no_terminator hnul, hread, hlen]
    exact ⟨⟨haddr, by omega, le_rfl⟩, rfl⟩
  · have := width_le (family s)
    have hread := readLength_of_ne_nil lib hdec.1
    rw [atoi_of_isDecimal lib.longBits_le hdec (by omega), hval] at hread
    unfold Admits
    rw [cStr_of_no_terminator hnul, hread]
    exact ⟨⟨haddr, by omega, by omega⟩, rfl⟩

theorem readsAsMeant_iff :
    ReadsAsMeant lib s ↔ (Admits lib s → ∃ len, Grammar lib s len) := by
  constructor
  · rintro (haddr | ⟨hl, hout⟩ | ⟨hnul, hlen⟩) hadm
    · exact absurd hadm.1 (by simp [haddr])
    · have := hadm.2
      rw [readLength_of_ne_nil lib hl] at this
      exact absurd this hout
    · obtain ⟨haddr, hlow, hhigh⟩ := hadm
      rw [cStr_of_no_terminator hnul] at haddr
      rcases hlen with hl | ⟨hdec, hfits⟩
      · exact ⟨_, grammar_iff.mpr ⟨⟨hnul, haddr⟩, Or.inl ⟨hl, rfl⟩⟩⟩
      · rw [readLength_of_ne_nil lib hdec.1, atoi_of_isDecimal lib.longBits_le hdec hfits] at hlow hhigh
        exact ⟨_, grammar_iff.mpr ⟨⟨hnul, haddr⟩, Or.inr ⟨hdec, rfl, by omega, by omega⟩⟩⟩
  · intro h
    by_cases hadm : Admits lib s
    · obtain ⟨len, hg⟩ := h hadm
      obtain ⟨⟨hnul, -⟩, ⟨hl, -⟩ | ⟨hdec, hval, -, hhigh⟩⟩ := grammar_iff.mp hg
      · exact Or.inr (Or.inr ⟨hnul, Or.inl hl⟩)
      · have := width_le (family s)
        exact Or.inr (Or.inr ⟨hnul, Or.inr ⟨hdec, by omega⟩⟩)
    · cases haddr : accepts lib (family s) (cStr (addrText s)) with
      | false => exact Or.inl haddr
      | true =>
        have hl : lengthText s ≠ [] := by
          intro hl
          have := width_le (family s)
          refine hadm ⟨haddr, ?_⟩
          rw [readLength_nil lib hl]
          omega
        refine Or.inr (Or.inl ⟨hl, fun hin => hadm ⟨haddr, ?_⟩⟩)
        rw [readLength_of_ne_nil lib hl]
        exact hin

/-- `add` accepts the grammar and nothing else exactly where the address has no terminator in it and
the length is one that `atoi` reads as it stands, or where the text is refused. -/
theorem addExact_iff (lib : CLibrary) (s : List Char) (p : PrefixParser) :
    AddExact lib s p ↔ ReadsAsMeant lib s := by
  rw [readsAsMeant_iff]
  constructor
  · intro h hadm
    exact h.accepted.mp (add_iff_admits.mpr hadm)
  · intro h
    refine ⟨add_iff_admits.trans ⟨h, fun ⟨len, hg⟩ => hg.admits.1⟩, fun htrue => ?_, fun hfalse => ?_⟩
    · have hadm := add_iff_admits.mp htrue
      obtain ⟨len, hg⟩ := h hadm
      obtain ⟨pre, -, hstored, hfam, hmask⟩ := add_of_admits (p := p) hadm
      rw [hg.admits.2] at hmask
      exact ⟨pre, len, hg, hstored, hfam, hmask⟩
    · have hadm : ¬Admits lib s := by
        intro hadm
        rw [add_iff_admits.mpr hadm] at hfalse
        cases hfalse
      exact (add_of_not_admits hadm).2

def oneAddressLibrary (longBits : Nat) (h : 32 ≤ longBits) : CLibrary where
  longBits
  inetPton4 s := if s = ['1', '0', '.', '0', '.', '0', '.', '1'] then some #v[10, 0, 0, 1] else none
  inetPton6 _ := none
  longBits_le := h
  text4 s hs := by
    split at hs
    next heq =>
      rw [heq]
      decide
    next => cases hs
  text6 s hs := by cases hs

/-- 10.0.0.1/24x is accepted as a prefix of length 24. -/
theorem accepts_trailing_text :
    ¬ ∀ (lib : CLibrary) (s : List Char) (p : PrefixParser), AddExact lib s p := by
  intro h
  have hbad := (h (oneAddressLibrary 64 (by decide))
    ['1', '0', '.', '0', '.', '0', '.', '1', '/', '2', '4', 'x'] {}).accepted.mp (by decide)
  obtain ⟨len, hg⟩ := hbad
  obtain ⟨-, ⟨hl, -⟩ | ⟨hdec, -⟩⟩ := grammar_iff.mp hg
  · exact absurd hl (by decide)
  · exact absurd (hdec.2 'x' (by decide)) (by decide)

end PrefixParser

end DeviceHal.Ipacm
