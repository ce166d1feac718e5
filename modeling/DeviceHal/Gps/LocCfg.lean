import DeviceHal.Lib.CText
import Mathlib.Data.List.DropRight
import Mathlib.Data.List.Nodup
import Mathlib.Data.List.Perm.Subperm
import Mathlib.Data.List.Forall2
import Mathlib.Data.Option.Basic

namespace DeviceHal.Gps

open Lib

abbrev locMaxParamString : Nat := 80

abbrev locMaxParamLine : Nat := 160

/-- What the platform says of numbers. -/
structure CNumbers (Double : Type) where
  longBits : Nat
  longBits_le : 32 ≤ longBits
  atof : List Char → Double
  zero : Double

inductive ParamValue (Double : Type) where
  | str (s : List Char)
  | int (n : Int)
  | double (d : Double)
deriving DecidableEq

/-- `loc_param_s_type`, with what its pointers point to; a NULL pointer is `none`. -/
structure LocParam (Double : Type) where
  paramName : List Char
  param : Option (ParamValue Double)
  paramSet : Option UInt8
  paramType : Char
deriving DecidableEq

structure LocParamV (Double : Type) where
  paramName : List Char
  paramStrValue : List Char
  paramIntValue : Int
  paramDoubleValue : Double

variable {Double : Type}

/-- What is written so far, and the length up to its last character that is no blank. -/
def trimStep (w : List Char × Nat) (c : Char) : List Char × Nat :=
  if isSpace c = true ∧ w.1 = [] then w
  else (w.1 ++ [c], if isSpace c then w.2 else w.1.length + 1)

/-- `loc_util_trim_space`. A string of blanks only stays as it is. -/
def locUtilTrimSpace (s : List Char) : List Char :=
  let (written, last) := s.foldl trimStep ([], 0)
  if last = 0 then s else written.take last

/-- `strtok_r`: the next token, and what the next call goes on with. -/
def strtok (delim : Char) (s : List Char) : Option (List Char × List Char) :=
  match s.dropWhile (· = delim) with
  | [] => none
  | t => some (t.takeWhile (· ≠ delim), (t.dropWhile (· ≠ delim)).drop 1)

/-- What `fgets` reads into a buffer with room for `n` characters, and what is left. -/
def fgetsLine : Nat → List Char → List Char × List Char
  | 0, s => ([], s)
  | _, [] => ([], [])
  | n + 1, c :: s =>
    if c = '\n' then ([c], s)
    else
      let (line, rest) := fgetsLine n s
      (c :: line, rest)

def fgets (size : Nat) (s : List Char) : Option (List Char × List Char) :=
  match fgetsLine (size - 1) s with
  | ([], _) => none
  | (line, rest) => some (line, rest)

def LocParam.write (e : LocParam Double) (x : ParamValue Double) : LocParam Double :=
  { e with
    param := some x
    paramSet := e.paramSet.map fun _ => 1 }

/-- What is stored for a value, in the type of the entry. -/
def LocParamV.typed (v : LocParamV Double) (paramType : Char) : Option (ParamValue Double) :=
  if paramType = 's' then
    some (.str (if v.paramStrValue = "NULL".toList then [] else v.paramStrValue.take locMaxParamString))
  else if paramType = 'n' then some (.int v.paramIntValue)
  else if paramType = 'f' then some (.double v.paramDoubleValue)
  else none

/-- `loc_set_config_entry`: whether it returns 0, and the entry. -/
def locSetConfigEntry (e : LocParam Double) (v : LocParamV Double) : Bool × LocParam Double :=
  if e.paramName = v.paramName ∧ e.param.isSome then
    match v.typed e.paramType with
    | some x => (true, e.write x)
    | none => (false, e)
  else (false, e)

def isHex (s : List Char) : Bool :=
  3 ≤ s.length && s[0]? = some '0' && s[1]?.map Char.toLower = some 'x'

/-- The numerical value of a parameter is parsed. -/
def parseValue (c : CNumbers Double) (name value : List Char) : LocParamV Double :=
  if isHex value then ⟨name, value, toInt32 (strtol c.longBits 16 (value.drop 2)), c.zero⟩
  else ⟨name, value, atoi c.longBits value, c.atof value⟩

/-- `loc_fill_conf_item`: how many entries are set, and the table. -/
def locFillConfItem (c : CNumbers Double) (inputBuf : List Char) (table : List (LocParam Double)) :
    Nat × List (LocParam Double) :=
  match strtok '=' inputBuf with
  | none => (0, table)
  | some (name, rest) =>
    match strtok '=' rest with
    | none => (0, table)
    | some (value, _) =>
      let v := parseValue c (locUtilTrimSpace name) (locUtilTrimSpace value)
      (table.countP fun e => (locSetConfigEntry e v).1, table.map fun e => (locSetConfigEntry e v).2)

/-- The loop of both readers: how many lines it goes through, and the table. The number of parameters
left is an unsigned 32-bit integer. -/
def confLoop (c : CNumbers Double) (next : List Char → Option (List Char × List Char)) :
    Nat → Nat → List Char → List (LocParam Double) → Nat × List (LocParam Double)
  | 0, _, _, table => (0, table)
  | fuel + 1, numParams, text, table =>
    if numParams = 0 then (0, table)
    else
      match next text with
      | none => (0, table)
      | some (inputBuf, rest) =>
        let (filled, table) := locFillConfItem c inputBuf table
        let (lines, table) :=
          confLoop c next fuel ((numParams + 2 ^ 32 - filled) % 2 ^ 32) rest table
        (lines + 1, table)

def clearParamSet (table : List (LocParam Double)) : List (LocParam Double) :=
  table.map fun e => { e with paramSet := e.paramSet.map fun _ => 0 }

/-- `loc_read_conf_r` from the start of a file, which returns 0. -/
def locReadConfR (c : CNumbers Double) (text : List Char) (table : List (LocParam Double)) :
    List (LocParam Double) :=
  (confLoop c (fgets locMaxParamLine) (text.length + 1) table.length text (clearParamSet table)).2

/-- `loc_update_conf`. -/
def locUpdateConf (c : CNumbers Double) (malloc : Bool) (confData : List Char)
    (table : List (LocParam Double)) : Int × List (LocParam Double) :=
  if confData = [] ∨ table = [] ∨ ¬malloc then (-1, table)
  else
    let (lines, table) :=
      confLoop c (strtok '\n') (confData.length + 1) (table.length - 1) confData table
    (lines, table)

/-- A string without the blanks around it. -/
def trimmed (s : List Char) : List Char := (s.dropWhile isSpace).rdropWhile isSpace

/-- The key and the value that a line gives. -/
def settingOf (line : List Char) : Option (List Char × List Char) :=
  if '=' ∈ line then
    some (trimmed (line.takeWhile (· ≠ '=')), trimmed ((line.dropWhile (· ≠ '=')).drop 1))
  else none

/-- A line of a configuration text: `key = value`, or one without `=`. -/
structure ConfLine (line : List Char) : Prop where
  one : '\n' ∉ line
  text : '\x00' ∉ line
  nonempty : line ≠ []
  short : line.length < locMaxParamLine
  form : '=' ∉ line ∨
    ∃ k v, line = k ++ '=' :: v ∧ '=' ∉ k ∧ '=' ∉ v ∧ trimmed k ≠ [] ∧ trimmed v ≠ []

/-- The text with these lines, and a last one without a newline unless it is empty. -/
def confText (lines : List (List Char)) (last : List Char) : List Char :=
  lines.flatMap (· ++ ['\n']) ++ last

def linesOf (lines : List (List Char)) (last : List Char) : List (List Char) :=
  lines ++ if last = [] then [] else [last]

theorem foldl_trimStep (s : List Char) :
    s.foldl trimStep ([], 0) = (s.dropWhile isSpace, (trimmed s).length) := by
  induction s using List.reverseRecOn with
  | nil => rfl
  | append_singleton s c ih =>
    rw [List.foldl_append, ih, List.foldl_cons, List.foldl_nil]
    unfold trimStep trimmed
    rw [List.dropWhile_append]
    by_cases hc : isSpace c = true
    · by_cases hs : s.dropWhile isSpace = []
      · simp [hc, hs]
      · simp [hc, hs, List.rdropWhile_concat_pos]
    · by_cases hs : s.dropWhile isSpace = []
      · simp [hc, hs, List.rdropWhile_singleton]
      · simp [hc, hs, List.rdropWhile_concat_neg]

variable {s : List Char}

theorem locUtilTrimSpace_eq (h : trimmed s ≠ []) : locUtilTrimSpace s = trimmed s := by
  unfold locUtilTrimSpace
  rw [foldl_trimStep]
  dsimp only
  rw [if_neg (mt List.length_eq_zero_iff.mp h)]
  exact (List.prefix_iff_eq_take.mp (List.rdropWhile_prefix _ _)).symm

theorem trimmed_newline (s : List Char) : trimmed (s ++ ['\n']) = trimmed s := by
  unfold trimmed
  rw [List.dropWhile_append]
  split
  next hs =>
    rw [List.isEmpty_iff.mp hs]
    rfl
  next => exact List.rdropWhile_concat_pos _ _ _ (by decide)

theorem strtok_split {delim : Char} (h : delim ∉ s) (hne : s ≠ []) (rest : List Char) :
    strtok delim (s ++ delim :: rest) = some (s, rest) := by
  obtain ⟨a, s, rfl⟩ := List.exists_cons_of_ne_nil hne
  have hall : ∀ c ∈ a :: s, decide (c ≠ delim) = true := fun c hc => by
    simpa using fun hcd : c = delim => h (hcd ▸ hc)
  unfold strtok
  rw [List.cons_append, List.dropWhile_cons_of_neg (by simpa using hall a List.mem_cons_self)]
  dsimp only
  rw [← List.cons_append, List.takeWhile_append_of_pos hall, List.dropWhile_append_of_pos hall]
  simp

theorem strtok_whole {delim : Char} (h : delim ∉ s) (hne : s ≠ []) :
    strtok delim s = some (s, []) := by
  obtain ⟨a, s, rfl⟩ := List.exists_cons_of_ne_nil hne
  have hall : ∀ c ∈ a :: s, decide (c ≠ delim) = true := fun c hc => by
    simpa using fun hcd : c = delim => h (hcd ▸ hc)
  unfold strtok
  rw [List.dropWhile_cons_of_neg (by simpa using hall a List.mem_cons_self)]
  dsimp only
  rw [List.takeWhile_eq_self_iff.mpr hall, List.dropWhile_eq_nil_iff.mpr hall, List.drop_nil]

variable {n : Nat}

theorem fgetsLine_newline (h : '\n' ∉ s) (rest : List Char) (hn : s.length < n) :
    fgetsLine n (s ++ '\n' :: rest) = (s ++ ['\n'], rest) := by
  induction s generalizing n with
  | nil =>
    obtain ⟨n, rfl⟩ := Nat.exists_eq_succ_of_ne_zero (by omega : n ≠ 0)
    simp [fgetsLine]
  | cons c s ih =>
    obtain ⟨n, rfl⟩ := Nat.exists_eq_succ_of_ne_zero (by omega : n ≠ 0)
    rw [List.mem_cons, not_or] at h
    simp [fgetsLine, Ne.symm h.1, ih h.2 (Nat.lt_of_succ_lt_succ hn)]

theorem fgetsLine_full (h : '\n' ∉ s) (rest : List Char) :
    fgetsLine s.length (s ++ rest) = (s, rest) := by
  induction s with
  | nil => rfl
  | cons c s ih =>
    rw [List.mem_cons, not_or] at h
    simp [fgetsLine, Ne.symm h.1, ih h.2]

theorem fgetsLine_end (h : '\n' ∉ s) (hn : s.length ≤ n) : fgetsLine n s = (s, []) := by
  induction s generalizing n with
  | nil => cases n <;> rfl
  | cons c s ih =>
    obtain ⟨n, rfl⟩ := Nat.exists_eq_succ_of_ne_zero (by rw [List.length_cons] at hn; omega : n ≠ 0)
    rw [List.mem_cons, not_or] at h
    simp [fgetsLine, Ne.symm h.1, ih h.2 (Nat.le_of_succ_le_succ hn)]

variable {c : CNumbers Double} {table : List (LocParam Double)} {line : List Char}

/-- The entries set by a line, and the table after it. -/
def assignLine (c : CNumbers Double) (line : List Char) (table : List (LocParam Double)) :
    Nat × List (LocParam Double) :=
  match settingOf line with
  | none => (0, table)
  | some (k, v) =>
    (table.countP fun e => (locSetConfigEntry e (parseValue c k v)).1,
      table.map fun e => (locSetConfigEntry e (parseValue c k v)).2)

theorem locFillConfItem_blank : locFillConfItem c ['\n'] table = (0, table) := rfl

theorem settingOf_split {k v : List Char} (h : '=' ∉ k) :
    settingOf (k ++ '=' :: v) = some (trimmed k, trimmed v) := by
  have hall : ∀ c ∈ k, decide (c ≠ '=') = true := fun c hc => by
    simpa using fun hcd : c = '=' => h (hcd ▸ hc)
  unfold settingOf
  rw [if_pos (by simp), List.takeWhile_append_of_pos hall, List.dropWhile_append_of_pos hall]
  simp

/-- A newline at the end of a line makes no difference. -/
theorem locFillConfItem_line (h : ConfLine line) {tail : List Char} (htail : tail = [] ∨ tail = ['\n']) :
    locFillConfItem c (line ++ tail) table = assignLine c line table := by
  have hno : '=' ∉ tail := by rcases htail with rfl | rfl <;> decide
  have htrim : ∀ v, trimmed (v ++ tail) = trimmed v := by
    rcases htail with rfl | rfl
    · exact fun v => congrArg trimmed (List.append_nil v)
    · exact trimmed_newline
  unfold locFillConfItem assignLine
  rcases h.form with hother | ⟨k, v, rfl, hk, hv, hkey, hvalue⟩
  · have hall : '=' ∉ line ++ tail := by
      rw [List.mem_append, not_or]
      exact ⟨hother, hno⟩
    rw [strtok_whole hall (by simp [h.nonempty]), settingOf, if_neg hother]
    rfl
  · have hkne : k ≠ [] := by rintro rfl; exact hkey rfl
    have hvne : v ++ tail ≠ [] := by
      intro hnil
      rw [List.append_eq_nil_iff] at hnil
      rw [hnil.1] at hvalue
      exact hvalue rfl
    have hvall : '=' ∉ v ++ tail := by
      rw [List.mem_append, not_or]
      exact ⟨hv, hno⟩
    rw [settingOf_split hk, List.append_assoc, List.cons_append, strtok_split hk hkne]
    dsimp only
    rw [strtok_whole hvall hvne]
    dsimp only
    rw [locUtilTrimSpace_eq hkey, locUtilTrimSpace_eq (by rw [htrim]; exact hvalue), htrim]

/-- The loop over given lines. -/
def goLines (c : CNumbers Double) :
    Nat → List (List Char) → List (LocParam Double) → Nat × List (LocParam Double)
  | _, [], table => (0, table)
  | numParams, line :: lines, table =>
    if numParams = 0 then (0, table)
    else
      let (filled, table) := locFillConfItem c line table
      let (n, table) := goLines c ((numParams + 2 ^ 32 - filled) % 2 ^ 32) lines table
      (n + 1, table)

/-- The lines that a reader gets out of a text, one after the other. -/
inductive Yields (next : List Char → Option (List Char × List Char)) :
    List Char → List (List Char) → Prop
  | done {text : List Char} (h : next text = none) : Yields next text []
  | more {text rest line : List Char} {lines : List (List Char)} (h : next text = some (line, rest))
      (hlt : rest.length < text.length) (hrest : Yields next rest lines) : Yields next text (line :: lines)

variable {lines : List (List Char)}

theorem confLoop_of_yields {next : List Char → Option (List Char × List Char)} {text : List Char}
    (h : Yields next text lines) (fuel numParams : Nat)
    (hfuel : text.length < fuel) (table : List (LocParam Double)) :
    confLoop c next fuel numParams text table = goLines c numParams lines table := by
  induction h generalizing fuel numParams table with
  | done h =>
    obtain ⟨fuel, rfl⟩ := Nat.exists_eq_succ_of_ne_zero (Nat.ne_zero_of_lt hfuel)
    unfold confLoop goLines
    simp [h]
  | more h hlt _ ih =>
    obtain ⟨fuel, rfl⟩ := Nat.exists_eq_succ_of_ne_zero (Nat.ne_zero_of_lt hfuel)
    unfold confLoop goLines
    simp only [h]
    rw [ih fuel _ (by omega)]

/-- What `fgets` makes of a line: its newline may come apart from it. -/
def fgetsPieces (line : List Char) : List (List Char) :=
  if line.length + 1 < locMaxParamLine then [line ++ ['\n']] else [line, ['\n']]

theorem fgets_of_line {s text rest : List Char} (h : fgetsLine n text = (s, rest)) (hne : s ≠ []) :
    fgets (n + 1) text = some (s, rest) := by
  unfold fgets
  rw [Nat.add_sub_cancel, h]
  obtain ⟨a, s, rfl⟩ := List.exists_cons_of_ne_nil hne
  rfl

variable {last : List Char}

theorem yields_fgets (h : ∀ l ∈ linesOf lines last, ConfLine l) :
    Yields (fgets locMaxParamLine) (confText lines last)
      (lines.flatMap fgetsPieces ++ if last = [] then [] else [last]) := by
  induction lines with
  | nil =>
    unfold confText
    by_cases hlast : last = []
    · rw [if_pos hlast, hlast]
      exact .done rfl
    · have hl := h last (by simp [linesOf, hlast])
      rw [if_neg hlast]
      refine .more (fgets_of_line (fgetsLine_end hl.one (Nat.le_of_lt_succ hl.short)) hlast) ?_ (.done rfl)
      exact List.length_pos_of_ne_nil hlast
  | cons l lines ih =>
    have hl := h l (by simp [linesOf])
    have hrest := ih fun l' hl' => h l' (List.mem_cons_of_mem _ hl')
    have htext : confText (l :: lines) last = l ++ '\n' :: confText lines last := by
      simp [confText]
    rw [htext, List.flatMap_cons, List.append_assoc]
    unfold fgetsPieces
    split
    next hshort =>
      refine .more (fgets_of_line (fgetsLine_newline hl.one _ (Nat.lt_of_succ_lt_succ hshort)) (by simp)) ?_ hrest
      simp
      omega
    next hlong =>
      have hfull : l.length = 159 := by
        have hshort : l.length < 160 := hl.short
        have hlong' : ¬l.length + 1 < 160 := hlong
        omega
      refine .more (fgets_of_line (hfull ▸ fgetsLine_full hl.one _) hl.nonempty) ?_
        (.more (fgets_of_line (s := ['\n']) rfl (by simp)) ?_ hrest)
      · have := List.length_pos_of_ne_nil hl.nonempty
        simp
        omega
      · simp

theorem yields_strtok (h : ∀ l ∈ linesOf lines last, ConfLine l) :
    Yields (strtok '\n') (confText lines last) (linesOf lines last) := by
  induction lines with
  | nil =>
    unfold confText linesOf
    by_cases hlast : last = []
    · rw [if_pos hlast, hlast]
      exact .done rfl
    · have hl := h last (by simp [linesOf, hlast])
      rw [if_neg hlast]
      exact .more (strtok_whole hl.one hlast) (List.length_pos_of_ne_nil hlast) (.done rfl)
  | cons l lines ih =>
    have hl := h l (by simp [linesOf])
    have htext : confText (l :: lines) last = l ++ '\n' :: confText lines last := by
      simp [confText]
    rw [htext]
    refine .more (strtok_split hl.one hl.nonempty _) ?_ (ih fun l' hl' => h l' (List.mem_cons_of_mem _ hl'))
    simp
    omega

/-- The line is for an entry with one of the names. -/
def Assigns (names : List (List Char)) (line : List Char) : Prop :=
  ∃ k ∈ names, (settingOf line).map Prod.fst = some k

instance (names : List (List Char)) (line : List Char) : Decidable (Assigns names line) :=
  inferInstanceAs (Decidable (∃ k ∈ names, _))

/-- The lines up to the `n`-th that is for an entry. -/
def linesUpTo (names : List (List Char)) : Nat → List (List Char) → List (List Char)
  | _, [] => []
  | 0, _ :: _ => []
  | n + 1, line :: lines => line :: linesUpTo names (if Assigns names line then n else n + 1) lines

/-- What a line does to an entry. -/
def setLine (c : CNumbers Double) (e : LocParam Double) (line : List Char) : LocParam Double :=
  match settingOf line with
  | none => e
  | some (k, v) => (locSetConfigEntry e (parseValue c k v)).2

/-- A value can be stored in the entry. -/
def LocParam.Writable (e : LocParam Double) : Prop :=
  e.param.isSome ∧ (e.paramType = 's' ∨ e.paramType = 'n' ∨ e.paramType = 'f')

instance (e : LocParam Double) : Decidable e.Writable := inferInstanceAs (Decidable (_ ∧ _))

/-- The names of the entries that can be written. -/
def writableNames (table : List (LocParam Double)) : List (List Char) :=
  (table.filter fun e => e.Writable).map LocParam.paramName

/-- The entries that can be written have these names, which are different. -/
structure Usable (names : List (List Char)) (table : List (LocParam Double)) : Prop where
  named : writableNames table = names
  nodup : names.Nodup

variable {names : List (List Char)}

theorem typed_isSome {paramType : Char} (h : paramType = 's' ∨ paramType = 'n' ∨ paramType = 'f')
    (v : LocParamV Double) : ∃ x, v.typed paramType = some x := by
  unfold LocParamV.typed
  rcases h with rfl | rfl | rfl
  · exact ⟨_, rfl⟩
  · exact ⟨_, rfl⟩
  · exact ⟨_, rfl⟩

theorem typed_none {paramType : Char} (h : ¬(paramType = 's' ∨ paramType = 'n' ∨ paramType = 'f'))
    (v : LocParamV Double) : v.typed paramType = none := by
  simp only [not_or] at h
  unfold LocParamV.typed
  rw [if_neg h.1, if_neg h.2.1, if_neg h.2.2]

theorem locSetConfigEntry_eq (e : LocParam Double) (v : LocParamV Double) :
    locSetConfigEntry e v =
      if e.Writable ∧ e.paramName = v.paramName then (true, { e with
        param := v.typed e.paramType
        paramSet := e.paramSet.map fun _ => 1 })
      else (false, e) := by
  unfold locSetConfigEntry
  by_cases htype : e.paramType = 's' ∨ e.paramType = 'n' ∨ e.paramType = 'f'
  · obtain ⟨x, hx⟩ := typed_isSome htype v
    have hiff : e.paramName = v.paramName ∧ e.param.isSome ↔ e.Writable ∧ e.paramName = v.paramName := by
      unfold LocParam.Writable
      tauto
    simp only [hiff, hx]
    rfl
  · rw [typed_none htype v]
    dsimp only
    rw [ite_self, if_neg fun hw => htype hw.1.2]

theorem parseValue_name (k v : List Char) : (parseValue c k v).paramName = k := by
  unfold parseValue
  split <;> rfl

theorem eq_x_of_toLower {x : Char} (h : x.toLower = 'x') : x = 'x' ∨ x = 'X' := by
  unfold Char.toLower at h
  split at h
  next =>
    have hval : x.val + ('a'.val - 'A'.val) = 120 := congrArg Char.val h
    have hdistance : 'a'.val - 'A'.val = 32 := by decide
    have hcapital : 'X'.val = 88 := rfl
    rw [hdistance] at hval
    right
    apply Char.ext
    grind
  next => exact Or.inl h

/-- A plain number, decimal or hexadecimal after 0x, is stored as it is if it fits an `int`. -/
theorem parseValue_number (k : List Char) {digits : List Char} {base : Nat} (hne : digits ≠ [])
    (h : ∀ d ∈ digits, (digitOf base d).isSome = true)
    (hfits : digitsValue base (leadingDigits base digits) < 2 ^ 31) :
    (base = 10 → (parseValue c k digits).paramIntValue = digitsValue base (leadingDigits base digits)) ∧
      ∀ x, base = 16 → x = 'x' ∨ x = 'X' → (parseValue c k ('0' :: x :: digits)).paramIntValue =
        digitsValue base (leadingDigits base digits) := by
  refine ⟨?_, ?_⟩
  · rintro rfl
    have hdecimal : isHex digits = false := by
      unfold isHex
      rcases digits with _ | ⟨d, _ | ⟨x, rest⟩⟩
      · rfl
      · simp
      · have hnot : x.toLower ≠ 'x' := by
          intro hlower
          have hx := h x (by simp)
          rcases eq_x_of_toLower hlower with rfl | rfl <;> exact absurd hx (by decide)
        simp [hnot]
    unfold parseValue
    rw [hdecimal]
    exact atoi_of_isDecimal c.longBits_le ⟨hne, h⟩ hfits
  · rintro x rfl hx
    have hhex : isHex ('0' :: x :: digits) = true := by
      obtain ⟨d, rest, rfl⟩ := List.exists_cons_of_ne_nil hne
      rcases hx with rfl | rfl <;> simp [isHex]
    unfold parseValue
    rw [hhex]
    exact strtol_of_digits c.longBits_le hne h hfits

theorem parseValue_number_hex :
    (parseValue ⟨64, by decide, fun _ => (), ()⟩ ['K'] ['0', 'x', 'F', 'f']).paramIntValue = 255 :=
  have digits : ∀ d ∈ ['F', 'f'], (digitOf 16 d).isSome = true :=
    List.forall_mem_cons.mpr ⟨rfl, List.forall_mem_singleton.mpr rfl⟩
  (parseValue_number ['K'] (by decide) digits (by decide)).2 'x' rfl (Or.inl rfl)

/-- All that a line leaves of an entry. -/
structure SameEntry (e e' : LocParam Double) : Prop where
  name : e'.paramName = e.paramName
  type : e'.paramType = e.paramType
  set : e'.paramSet.map (fun _ => (1 : UInt8)) = e.paramSet.map fun _ => 1
  writable : e'.Writable ↔ e.Writable

theorem setLine_same (e : LocParam Double) (line : List Char) : SameEntry e (setLine c e line) := by
  unfold setLine
  split
  next => exact ⟨rfl, rfl, rfl, Iff.rfl⟩
  next k v _ =>
    rw [locSetConfigEntry_eq]
    split
    next hset =>
      obtain ⟨x, hx⟩ := typed_isSome hset.1.2 (parseValue c k v)
      exact ⟨rfl, rfl, by simp [Function.comp_def], ⟨fun _ => hset.1, fun h => ⟨by simp [hx], h.2⟩⟩⟩
    next => exact ⟨rfl, rfl, rfl, Iff.rfl⟩

variable {f : LocParam Double → LocParam Double}

theorem writableNames_map (h : ∀ e, SameEntry e (f e)) :
    writableNames (table.map f) = writableNames table := by
  unfold writableNames
  rw [List.filter_map, List.map_map]
  have hsame : ((fun e : LocParam Double => decide e.Writable) ∘ f) = fun e => decide e.Writable :=
    funext fun e => decide_eq_decide.mpr (h e).writable
  rw [hsame]
  exact List.map_congr_left fun e _ => (h e).name

theorem Usable.map (h : Usable names table)
    (hf : ∀ e, SameEntry e (f e)) : Usable names (table.map f) :=
  ⟨(writableNames_map hf).trans h.named, h.nodup⟩

/-- One entry at most is set by a line, as the names are different. -/
theorem Usable.assignLine (h : Usable names table) (line : List Char) :
    DeviceHal.Gps.assignLine c line table =
      (if Assigns names line then 1 else 0, table.map fun e => setLine c e line) := by
  unfold DeviceHal.Gps.assignLine setLine
  rcases hs : settingOf line with _ | ⟨k, v⟩
  · have hno : ¬Assigns names line := by simp [Assigns, hs]
    rw [if_neg hno, List.map_id']
  · have hassigns : Assigns names line ↔ k ∈ names := by simp [Assigns, hs]
    have hcount : (table.countP fun e => (locSetConfigEntry e (parseValue c k v)).1) = names.count k := by
      rw [← h.named, writableNames, List.count, List.countP_map, List.countP_filter]
      refine List.countP_congr fun e _ => ?_
      rw [locSetConfigEntry_eq, parseValue_name]
      by_cases hw : e.Writable <;> by_cases hk : e.paramName = k <;> simp [hw, hk]
    dsimp only
    rw [hcount]
    by_cases hmem : k ∈ names
    · rw [if_pos (hassigns.mpr hmem), List.count_eq_one_of_mem h.nodup hmem]
    · rw [if_neg (mt hassigns.mp hmem), List.count_eq_zero.mpr hmem]

/-- A reader does what its lines do, up to the one that makes the table full. -/
theorem goLines_eq (h : Usable names table) (hlines : ∀ l ∈ lines, ConfLine l) (hn : n < 2 ^ 32) :
    goLines c n lines table = ((linesUpTo names n lines).length,
      table.map fun e => (linesUpTo names n lines).foldl (setLine c) e) := by
  induction lines generalizing n table with
  | nil => simp [goLines, linesUpTo]
  | cons l lines ih =>
    unfold goLines
    cases n with
    | zero => simp [linesUpTo]
    | succ n =>
      have hfill : locFillConfItem c l table = _ :=
        (congrArg (locFillConfItem c · table) (List.append_nil l)).symm.trans
          ((locFillConfItem_line (hlines l List.mem_cons_self) (Or.inl rfl)).trans (h.assignLine l))
      have hleft : (n + 1 + 2 ^ 32 - if Assigns names l then 1 else 0) % 2 ^ 32 =
          if Assigns names l then n else n + 1 := by
        split <;> omega
      rw [if_neg (Nat.succ_ne_zero n), hfill]
      dsimp only
      rw [hleft, ih (h.map fun e => setLine_same e l) (fun l' hl' => hlines l' (List.mem_cons_of_mem _ hl'))
        (by split <;> omega)]
      simp [linesUpTo]

theorem goLines_cons (hn : n ≠ 0) (l : List Char) (lines : List (List Char)) :
    (goLines c n (l :: lines) table).2 =
      (goLines c ((n + 2 ^ 32 - (locFillConfItem c l table).1) % 2 ^ 32) lines (locFillConfItem c l table).2).2 := by
  rw [goLines, if_neg hn]

/-- The newlines that `fgets` leaves make no difference. -/
theorem goLines_pieces {lines rest : List (List Char)} (hlines : ∀ l ∈ lines, ConfLine l)
    (hn : n < 2 ^ 32) :
    (goLines c n (lines.flatMap fgetsPieces ++ rest) table).2 = (goLines c n (lines ++ rest) table).2 := by
  induction lines generalizing n table with
  | nil => rfl
  | cons l lines ih =>
    rcases Nat.eq_zero_or_pos n with rfl | hpos
    · have hzero : ∀ ls, (goLines c 0 ls table).2 = table := fun ls => by cases ls <;> rfl
      rw [hzero, hzero]
    have hl := hlines l List.mem_cons_self
    have hne := Nat.ne_zero_of_lt hpos
    have hwhole : locFillConfItem c l table = assignLine c l table :=
      (congrArg (locFillConfItem c · table) (List.append_nil l)).symm.trans
        (locFillConfItem_line hl (Or.inl rfl))
    rw [List.flatMap_cons, List.append_assoc, List.cons_append, goLines_cons hne, hwhole]
    have hlater : ∀ m t, m < 2 ^ 32 → (goLines c m (lines.flatMap fgetsPieces ++ rest) t).2 =
        (goLines c m (lines ++ rest) t).2 :=
      fun m t hm => ih (fun l' hl' => hlines l' (List.mem_cons_of_mem _ hl')) hm
    unfold fgetsPieces
    split
    next =>
      rw [List.cons_append, goLines_cons hne, locFillConfItem_line hl (Or.inr rfl), List.nil_append]
      exact hlater _ _ (Nat.mod_lt _ (by decide))
    next =>
      rw [List.cons_append, goLines_cons hne, hwhole, ← hlater _ _ (Nat.mod_lt _ (by decide))]
      obtain ⟨m, hm⟩ : ∃ m, (n + 2 ^ 32 - (assignLine c l table).1) % 2 ^ 32 = m := ⟨_, rfl⟩
      have hmlt : m < 2 ^ 32 := hm ▸ Nat.mod_lt _ (by decide)
      rw [hm, List.cons_append, List.nil_append]
      rcases Nat.eq_zero_or_pos m with rfl | hmpos
      · cases lines.flatMap fgetsPieces ++ rest <;> rfl
      · rw [goLines_cons (Nat.ne_zero_of_lt hmpos), locFillConfItem_blank, Nat.sub_zero,
          Nat.add_mod_right, Nat.mod_eq_of_lt hmlt]
        rfl

/-- The line gives the entry a value, which it holds in `e'`. -/
def HoldsLine (c : CNumbers Double) (e e' : LocParam Double) (line : List Char) : Prop :=
  ∃ v, settingOf line = some (e.paramName, v) ∧
    e'.param = (parseValue c e.paramName v).typed e.paramType ∧ e'.paramSet = e.paramSet.map fun _ => 1

/-- One of the lines is for the entry. -/
def Keyed (e : LocParam Double) (lines : List (List Char)) : Prop :=
  ∃ l ∈ lines, (settingOf l).map Prod.fst = some e.paramName

/-- An entry holds the value of a line that is for it; without one its value stays. -/
structure EntryRight (c : CNumbers Double) (lines : List (List Char)) (e e' : LocParam Double) : Prop where
  name : e'.paramName = e.paramName
  keyed : Keyed e lines → ∃ l ∈ lines, HoldsLine c e e' l
  unkeyed : ¬Keyed e lines → e'.param = e.param

theorem setLine_keyed {e : LocParam Double} (h : e.Writable)
    (hkey : (settingOf line).map Prod.fst = some e.paramName) : HoldsLine c e (setLine c e line) line := by
  obtain ⟨⟨k, v⟩, hs, rfl⟩ := Option.map_eq_some_iff.mp hkey
  refine ⟨v, hs, ?_⟩
  unfold setLine
  rw [hs]
  dsimp only
  rw [locSetConfigEntry_eq, if_pos ⟨h, (parseValue_name _ _).symm⟩]
  exact ⟨rfl, rfl⟩

theorem setLine_other {e : LocParam Double}
    (hno : ¬(e.Writable ∧ (settingOf line).map Prod.fst = some e.paramName)) : setLine c e line = e := by
  unfold setLine
  rcases hs : settingOf line with _ | ⟨k, v⟩
  · rfl
  · dsimp only
    rw [locSetConfigEntry_eq, parseValue_name, if_neg]
    rintro ⟨hw, rfl⟩
    exact hno ⟨hw, by rw [hs]; rfl⟩

/-- Lines that are not for an entry leave it, and of the others one is stored. -/
theorem foldl_setLine (e : LocParam Double) (lines : List (List Char)) :
    SameEntry e (lines.foldl (setLine c) e) ∧
      (¬(e.Writable ∧ Keyed e lines) → lines.foldl (setLine c) e = e) ∧
      (e.Writable → Keyed e lines → ∃ l ∈ lines, HoldsLine c e (lines.foldl (setLine c) e) l) := by
  induction lines using List.reverseRecOn with
  | nil => exact ⟨⟨rfl, rfl, rfl, Iff.rfl⟩, fun _ => rfl, fun _ ⟨_, hl, _⟩ => absurd hl List.not_mem_nil⟩
  | append_singleton lines l ih =>
    obtain ⟨hsame, hother, hkeyed⟩ := ih
    have hnext := setLine_same (c := c) (lines.foldl (setLine c) e) l
    rw [List.foldl_append, List.foldl_cons, List.foldl_nil]
    refine ⟨⟨hnext.name.trans hsame.name, hnext.type.trans hsame.type, hnext.set.trans hsame.set,
      hnext.writable.trans hsame.writable⟩, fun hno => ?_, fun hw hkey => ?_⟩
    · rw [hother fun ⟨hw, l', hl', hk⟩ => hno ⟨hw, l', List.mem_append_left _ hl', hk⟩]
      exact setLine_other fun ⟨hw, hk⟩ => hno ⟨hw, l, by simp, hk⟩
    · by_cases hl : (settingOf l).map Prod.fst = some e.paramName
      · obtain ⟨v, hs, hparam, hset⟩ := setLine_keyed (c := c) (hsame.writable.mpr hw) (hsame.name.symm ▸ hl)
        rw [hsame.name] at hs hparam
        rw [hsame.type] at hparam
        exact ⟨l, by simp, v, hs, hparam, hset.trans hsame.set⟩
      · obtain ⟨l', hl', hk⟩ := hkey
        have hmem : l' ∈ lines := by
          rcases List.mem_append.mp hl' with hmem | hmem
          · exact hmem
          · exact absurd (List.mem_singleton.mp hmem ▸ hk) hl
        obtain ⟨l'', hl'', hholds⟩ := hkeyed hw ⟨l', hmem, hk⟩
        rw [setLine_other fun ⟨_, hk'⟩ => hl (hsame.name ▸ hk')]
        exact ⟨l'', List.mem_append_left _ hl'', hholds⟩

/-- An entry is right exactly if a line for it was stored, there is none, or it has such a value already. -/
theorem entryRight_iff {e₀ e : LocParam Double} (hsame : SameEntry e₀ e)
    (hparam : e.param = e₀.param) {read lines : List (List Char)} (hsub : ∀ l ∈ read, l ∈ lines) :
    EntryRight c lines e₀ (read.foldl (setLine c) e) ↔
      (Keyed e₀ lines → e₀.Writable ∧ Keyed e₀ read ∨ ∃ l ∈ lines, HoldsLine c e₀ e l) := by
  obtain ⟨hlast, hother, hkeyed⟩ := foldl_setLine (c := c) e read
  have hname : Keyed e read ↔ Keyed e₀ read := by
    unfold Keyed
    rw [hsame.name]
  have hholds : ∀ e' l, HoldsLine c e e' l ↔ HoldsLine c e₀ e' l := by
    intro e' l
    unfold HoldsLine
    rw [hsame.name, hsame.type, hsame.set]
  rw [hname, hsame.writable] at hother hkeyed
  constructor
  · intro hright hk
    by_cases hread : e₀.Writable ∧ Keyed e₀ read
    · exact Or.inl hread
    · have hl := hright.keyed hk
      rw [hother hread] at hl
      exact Or.inr hl
  · intro hcond
    refine ⟨hlast.name.trans hsame.name, fun hk => ?_, fun hk => ?_⟩
    · by_cases hread : e₀.Writable ∧ Keyed e₀ read
      · obtain ⟨l, hl, hh⟩ := hkeyed hread.1 hread.2
        exact ⟨l, hsub l hl, (hholds _ l).mp hh⟩
      · rw [hother hread]
        exact (hcond hk).resolve_left hread
    · rw [hother fun ⟨_, l, hl, hkey⟩ => hk ⟨l, hsub l hl, hkey⟩, hparam]

def keyOf (line : List Char) : Option (List Char) := (settingOf line).map Prod.fst

instance (e : LocParam Double) (lines : List (List Char)) : Decidable (Keyed e lines) :=
  inferInstanceAs (Decidable (∃ l ∈ lines, _))

theorem mem_linesUpTo : ∀ l ∈ linesUpTo names n lines, l ∈ lines := by
  induction lines generalizing n with
  | nil =>
    intro l hl
    cases n <;> cases hl
  | cons l lines ih =>
    cases n with
    | zero => exact fun _ hl => absurd hl List.not_mem_nil
    | succ n =>
      intro l' hl'
      rcases List.mem_cons.mp hl' with rfl | hl'
      · exact List.mem_cons_self
      · exact List.mem_cons_of_mem _ (ih l' hl')

/-- As many records are updated as lines are gone through, if each line is for an entry of its own. -/
theorem countP_keyed_eq_iff (h : Usable names table) (read : List (List Char)) :
    read.length = table.countP (fun e => e.Writable ∧ Keyed e read) ↔
      (∀ l ∈ read, Assigns names l) ∧ (read.map keyOf).Nodup := by
  have hcount : table.countP (fun e => e.Writable ∧ Keyed e read) =
      ((names.filter fun k => some k ∈ read.map keyOf).map some).length := by
    rw [List.length_map, ← List.countP_eq_length_filter, ← h.named, writableNames, List.countP_map,
      List.countP_filter]
    refine List.countP_congr fun e _ => ?_
    have hkey : Keyed e read ↔ some e.paramName ∈ read.map keyOf := List.mem_map.symm
    simp only [Function.comp_apply, Bool.and_eq_true, decide_eq_true_eq, hkey]
    exact and_comm
  have hnodup : ((names.filter fun k => some k ∈ read.map keyOf).map some).Nodup :=
    (h.nodup.filter _).map fun _ _ => Option.some.inj
  have hsub : (names.filter fun k => some k ∈ read.map keyOf).map some ⊆ read.map keyOf := by
    intro o ho
    obtain ⟨k, hk, rfl⟩ := List.mem_map.mp ho
    exact of_decide_eq_true (List.mem_filter.mp hk).2
  rw [hcount, ← List.length_map keyOf]
  constructor
  · intro hlength
    have hperm := (hnodup.subperm hsub).perm_of_length_le (Nat.le_of_eq hlength)
    refine ⟨fun l hl => ?_, hperm.nodup_iff.mp hnodup⟩
    obtain ⟨k, hk, hkey⟩ := List.mem_map.mp (hperm.mem_iff.mpr (List.mem_map_of_mem hl))
    exact ⟨k, (List.mem_filter.mp hk).1, hkey.symm⟩
  · rintro ⟨hassigns, hdistinct⟩
    refine Nat.le_antisymm (hdistinct.subperm fun o ho => ?_).length_le (hnodup.subperm hsub).length_le
    obtain ⟨l, hl, rfl⟩ := List.mem_map.mp ho
    obtain ⟨k, hk, hkey⟩ := hassigns l hl
    have hmem : some k ∈ read.map keyOf := hkey ▸ List.mem_map_of_mem hl
    exact List.mem_map.mpr ⟨k, List.mem_filter.mpr ⟨hk, decide_eq_true hmem⟩, hkey.symm⟩

/-- The lines that `loc_update_conf` goes through. -/
def updateLines (malloc : Bool) (table : List (LocParam Double)) (lines : List (List Char)) :
    List (List Char) :=
  if malloc then linesUpTo (writableNames table) (table.length - 1) lines else []

/-- Both readers give every entry its value, and the second one returns the number of the records
that it updated. -/
structure ReadersRight (c : CNumbers Double) (malloc : Bool) (lines : List (List Char)) (last : List Char)
    (table : List (LocParam Double)) : Prop where
  read : List.Forall₂ (EntryRight c (linesOf lines last)) table
    (locReadConfR c (confText lines last) table)
  update : List.Forall₂ (EntryRight c (linesOf lines last)) table
    (locUpdateConf c malloc (confText lines last) table).2
  returned : (locUpdateConf c malloc (confText lines last) table).1 =
    table.countP fun e => e.Writable ∧ Keyed e (updateLines malloc table (linesOf lines last))

/-- Every entry for which there is a line can be written and has one among these, or holds the value
of one in `start`. -/
def Reaches (c : CNumbers Double) (lines read : List (List Char)) (start : LocParam Double → LocParam Double)
    (table : List (LocParam Double)) : Prop :=
  ∀ e ∈ table, Keyed e lines → e.Writable ∧ Keyed e read ∨ ∃ l ∈ lines, HoldsLine c e (start e) l

def clearSet (e : LocParam Double) : LocParam Double :=
  { e with paramSet := e.paramSet.map fun _ => 0 }

theorem clearSet_same (e : LocParam Double) : SameEntry e (clearSet e) :=
  ⟨rfl, rfl, by simp [clearSet, Function.comp_def], Iff.rfl⟩

theorem forall₂_map_iff {r : LocParam Double → LocParam Double → Prop} :
    List.Forall₂ r table (table.map f) ↔ ∀ e ∈ table, r e (f e) := by
  rw [List.forall₂_map_right_iff, List.forall₂_same]

theorem locReadConfR_eq
    (hlines : ∀ l ∈ linesOf lines last, ConfLine l) (h : Usable names table) (hlen : table.length < 2 ^ 32) :
    locReadConfR c (confText lines last) table = table.map fun e =>
      (linesUpTo names table.length (linesOf lines last)).foldl (setLine c) (clearSet e) := by
  unfold locReadConfR
  rw [confLoop_of_yields (yields_fgets hlines) _ _ (Nat.lt_succ_self _),
    goLines_pieces (fun l hl => hlines l (List.mem_append_left _ hl)) hlen]
  change (goLines c table.length (linesOf lines last) (table.map clearSet)).2 = _
  rw [goLines_eq (h.map clearSet_same) hlines hlen, List.map_map]
  rfl

theorem locUpdateConf_eq {malloc : Bool}
    (hlines : ∀ l ∈ linesOf lines last, ConfLine l) (h : Usable names table) (hlen : table.length < 2 ^ 32)
    (hruns : ¬(confText lines last = [] ∨ table = [] ∨ ¬malloc = true)) :
    locUpdateConf c malloc (confText lines last) table =
      (((linesUpTo names (table.length - 1) (linesOf lines last)).length : Int), table.map fun e =>
        (linesUpTo names (table.length - 1) (linesOf lines last)).foldl (setLine c) e) := by
  unfold locUpdateConf
  rw [if_neg hruns, confLoop_of_yields (yields_strtok hlines) _ _ (Nat.lt_succ_self _)]
  dsimp only
  rw [goLines_eq h hlines (by omega)]

theorem linesOf_eq_nil (h : confText lines last = []) : linesOf lines last = [] := by
  obtain ⟨hlines, rfl⟩ := List.append_eq_nil_iff.mp h
  cases lines with
  | nil => rfl
  | cons l lines => simp at hlines

/-- Both readers are right exactly if every entry with a line is reached before the lines that the loop
goes through are used up, and the second one updates with each of its lines an entry of its own. -/
theorem readersRight_iff (c : CNumbers Double) (malloc : Bool) {lines : List (List Char)} {last : List Char}
    (hlines : ∀ l ∈ linesOf lines last, ConfLine l) {table : List (LocParam Double)} (hne : table ≠ [])
    (hnames : (table.map LocParam.paramName).Nodup) (hlen : table.length < 2 ^ 32) :
    ReadersRight c malloc lines last table ↔
      Reaches c (linesOf lines last) (linesUpTo (writableNames table) table.length (linesOf lines last))
        clearSet table ∧
      Reaches c (linesOf lines last) (updateLines malloc table (linesOf lines last)) id table ∧
      malloc = true ∧ linesOf lines last ≠ [] ∧
      (∀ l ∈ updateLines malloc table (linesOf lines last), Assigns (writableNames table) l) ∧
      ((updateLines malloc table (linesOf lines last)).map keyOf).Nodup := by
  have h : Usable (writableNames table) table := ⟨rfl, hnames.sublist (List.filter_sublist.map _)⟩
  have hread : List.Forall₂ (EntryRight c (linesOf lines last)) table
      (locReadConfR c (confText lines last) table) ↔
      Reaches c (linesOf lines last) (linesUpTo (writableNames table) table.length (linesOf lines last))
        clearSet table := by
    rw [locReadConfR_eq hlines h hlen, forall₂_map_iff]
    exact forall₂_congr fun e _ => entryRight_iff (clearSet_same e) rfl mem_linesUpTo
  have hsame : ∀ e : LocParam Double, SameEntry e e := fun _ => ⟨rfl, rfl, rfl, Iff.rfl⟩
  by_cases hruns : confText lines last = [] ∨ table = [] ∨ ¬malloc = true
  · have hnothing : locUpdateConf c malloc (confText lines last) table = (-1, table) := if_pos hruns
    constructor
    · intro hright
      have hreturned := hright.returned
      rw [hnothing] at hreturned
      exact absurd hreturned (by simp)
    · rintro ⟨-, -, hmalloc, hsome, -⟩
      rcases hruns with htext | htable | hfail
      · exact absurd (linesOf_eq_nil htext) hsome
      · exact absurd htable hne
      · exact absurd hmalloc hfail
  · have hmalloc : malloc = true := by
      by_contra hfail
      exact hruns (Or.inr (Or.inr hfail))
    have hsome : linesOf lines last ≠ [] := by
      intro hnil
      refine hruns (Or.inl ?_)
      obtain ⟨rfl, hlast⟩ := List.append_eq_nil_iff.mp hnil
      by_contra htext
      rw [if_neg (show last ≠ [] from htext)] at hlast
      cases hlast
    have hpassed : updateLines malloc table (linesOf lines last) =
        linesUpTo (writableNames table) (table.length - 1) (linesOf lines last) := if_pos hmalloc
    have hupdated := locUpdateConf_eq (c := c) hlines h hlen hruns
    have hupdate : List.Forall₂ (EntryRight c (linesOf lines last)) table
        (locUpdateConf c malloc (confText lines last) table).2 ↔
        Reaches c (linesOf lines last) (updateLines malloc table (linesOf lines last)) id table := by
      rw [hupdated, forall₂_map_iff, hpassed]
      exact forall₂_congr fun e _ => entryRight_iff (hsame e) rfl mem_linesUpTo
    have hcount : (locUpdateConf c malloc (confText lines last) table).1 =
        table.countP (fun e => e.Writable ∧ Keyed e (updateLines malloc table (linesOf lines last))) ↔
        (∀ l ∈ updateLines malloc table (linesOf lines last), Assigns (writableNames table) l) ∧
        ((updateLines malloc table (linesOf lines last)).map keyOf).Nodup := by
      rw [hupdated, hpassed, Int.natCast_inj]
      exact countP_keyed_eq_iff h _
    rw [← hread, ← hupdate, ← hcount]
    exact ⟨fun hright => ⟨hright.read, hright.update, hmalloc, hsome, hright.returned⟩,
      fun ⟨hr, hu, _, _, hret⟩ => ⟨hr, hu, hret⟩⟩

def numbers : CNumbers Int := ⟨64, by decide, fun _ => 0, 0⟩

def twoNumbers : List (LocParam Int) :=
  [⟨"A".toList, some (.int 0), some 0, 'n'⟩, ⟨"B".toList, some (.int 0), some 0, 'n'⟩]

theorem readersRight_oneLine : ReadersRight numbers true ["A = 0x1F".toList] [] twoNumbers := by
  have hline : ConfLine "A = 0x1F".toList :=
    ⟨by decide, by decide, by decide, by decide, Or.inr ⟨['A', ' '], [' ', '0', 'x', '1', 'F'], by decide⟩⟩
  have hread : ∀ e ∈ twoNumbers, Keyed e ["A = 0x1F".toList] → e.Writable ∧ Keyed e ["A = 0x1F".toList] := by
    decide
  exact (readersRight_iff numbers true (by simpa [linesOf] using hline) (by decide) (by decide)
    (by decide)).mpr ⟨fun e he hkey => Or.inl (hread e he hkey), fun e he hkey => Or.inl (hread e he hkey),
      rfl, by decide, by decide, by decide⟩

/-- After a key that is there twice the key of the other entry is not read. -/
theorem repeated_key_hides : ¬ReadersRight numbers true ["A = 1".toList, "A = 2".toList] "B = 3".toList
    twoNumbers := by
  intro hright
  have hread := hright.read
  have htable : locReadConfR numbers (confText ["A = 1".toList, "A = 2".toList] "B = 3".toList) twoNumbers =
      [⟨"A".toList, some (.int 2), some 1, 'n'⟩, ⟨"B".toList, some (.int 0), some 0, 'n'⟩] := by decide
  rw [htable] at hread
  cases hread with
  | cons _ hrest =>
    cases hrest with
    | cons hb _ =>
      obtain ⟨_, _, _, _, _, hset⟩ := hb.keyed ⟨"B = 3".toList, by decide, by decide⟩
      exact absurd hset (by decide)

end DeviceHal.Gps
