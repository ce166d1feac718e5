import DeviceHal.Ipacm.OffloadManager
import DeviceHal.Lib.Since

namespace DeviceHal.Ipacm

open Lib

/-- A C string, without its terminator. -/
abbrev CString := {s : List Char // '\x00' ∉ s}

abbrev ipaIfaceNameLen : Nat := 16

/-- The characters that `strlcpy` leaves in a buffer of `size` bytes. -/
def CString.strlcpy (src : CString) (size : Nat) : CString :=
  ⟨src.val.take (size - 1), fun h => src.property (List.mem_of_mem_take h)⟩

structure NatIface where
  ifaceName : CString := ⟨[], List.not_mem_nil⟩
  v4Up : Bool := false
  v6Up : Bool := false
deriving DecidableEq

namespace NatIface

def up (e : NatIface) : IpaIpType → Bool
  | .v4 => e.v4Up
  | .v6 => e.v6Up

/-- `none` is IPA_IP_MAX, which sets neither flag. -/
def setUp (e : NatIface) : Option IpaIpType → NatIface
  | some .v4 => { e with v4Up := true }
  | some .v6 => { e with v6Up := true }
  | none => e

@[simp] theorem setUp_ifaceName (e : NatIface) (ipType : Option IpaIpType) :
    (e.setUp ipType).ifaceName = e.ifaceName := by
  rcases ipType with _ | _ | _ <;> rfl

theorem setUp_up (e : NatIface) (ipType : Option IpaIpType) (t : IpaIpType) :
    (e.setUp ipType).up t = true ↔ ipType = some t ∨ e.up t = true := by
  rcases ipType with _ | _ | _ <;> cases t <;> simp [setUp, up]

end NatIface

/-- The part of IPACM_Config with the NAT interfaces. -/
structure NatTable where
  ipaNumIpaInterfaces : Nat
  ipaNatIfaceEntries : Nat
  pNatIfaces : List NatIface
deriving DecidableEq

namespace NatTable

/-- What `Init` allocates. -/
def init (ipaNumIpaInterfaces : Nat) : NatTable where
  ipaNumIpaInterfaces := ipaNumIpaInterfaces
  ipaNatIfaceEntries := 0
  pNatIfaces := List.replicate ipaNumIpaInterfaces {}

/-- The loop over the entries: the first one that matches, `none` where it reads behind the array. -/
def scanFrom (p : NatIface → Bool) (pNatIfaces : List NatIface) :
    Nat → Nat → Option (Option Nat)
  | 0, _ => some none
  | left + 1, i => do
    let e ← pNatIfaces[i]?
    if p e then some (some i) else scanFrom p pNatIfaces left (i + 1)

def scan (s : NatTable) (p : NatIface → Bool) : Option (Option Nat) :=
  scanFrom p s.pNatIfaces s.ipaNatIfaceEntries 0

def addNatIfaces (s : NatTable) (devName : CString) (ipType : Option IpaIpType) :
    Option NatTable := do
  match ← s.scan fun e => devName.val.take ipaIfaceNameLen = e.ifaceName.val.take ipaIfaceNameLen with
  | some i => some { s with pNatIfaces := s.pNatIfaces.modify i (·.setUp ipType) }
  | none =>
    let s := { s with ipaNatIfaceEntries := s.ipaNatIfaceEntries + 1 }
    if s.ipaNatIfaceEntries < s.ipaNumIpaInterfaces then
      let stored (e : NatIface) : NatIface := { e with ifaceName := devName.strlcpy ipaIfaceNameLen }
      some { s with
        pNatIfaces :=
          s.pNatIfaces.modify (s.ipaNatIfaceEntries - 1) fun e => (stored e).setUp ipType }
    else some s

/-- Each entry behind the deleted one is copied down and reset. -/
def moveDown : Nat → Nat → List NatIface → Option (List NatIface)
  | 0, _, pNatIfaces => some pNatIfaces
  | left + 1, i, pNatIfaces => do
    let next ← pNatIfaces[i + 1]?
    moveDown left (i + 1) ((pNatIfaces.set i next).set (i + 1) {})

def delNatIfaces (s : NatTable) (devName : CString) : Option NatTable := do
  match ← s.scan fun e => devName = e.ifaceName with
  | some i =>
    let moved ← moveDown (s.ipaNatIfaceEntries - 1 - i) i (s.pNatIfaces.set i {})
    some { s with pNatIfaces := moved, ipaNatIfaceEntries := s.ipaNatIfaceEntries - 1 }
  | none => some s

def checkNatIfaces (s : NatTable) (devName : CString) (ipType : Option IpaIpType) :
    Option Int := do
  match ← s.scan fun e => devName = e.ifaceName with
  | some i =>
    let e ← s.pNatIfaces[i]?
    if ipType = some .v4 ∧ e.v4Up = true then some 0
    else if ipType = some .v6 ∧ e.v6Up = true then some 0
    else some (-1)
  | none => some (-1)

section loops

variable {p : NatIface → Bool} {before pre stored rest : List NatIface} {e : NatIface}

theorem scanFrom_missing (hnone : ∀ x ∈ stored, p x = false) :
    scanFrom p (before ++ stored ++ rest) stored.length before.length = some none := by
  induction stored generalizing before with
  | nil => rfl
  | cons x stored ih =>
    have hx : p x = false := hnone x List.mem_cons_self
    have hrest := @ih (before ++ [x]) fun y hy => hnone y (List.mem_cons_of_mem _ hy)
    simp only [List.append_assoc, List.cons_append, List.nil_append, List.length_append,
      List.length_cons, List.length_nil, Nat.zero_add] at hrest
    simpa [scanFrom, hx] using hrest

theorem scanFrom_found (hnone : ∀ x ∈ pre, p x = false) (he : p e = true) (more : Nat) :
    scanFrom p (before ++ pre ++ e :: rest) (pre.length + more + 1) before.length =
      some (some (before.length + pre.length)) := by
  induction pre generalizing before with
  | nil => simp [scanFrom, he]
  | cons x pre ih =>
    have hx : p x = false := hnone x List.mem_cons_self
    have hrest := @ih (before ++ [x]) fun y hy => hnone y (List.mem_cons_of_mem _ hy)
    have hleft : (x :: pre).length + more + 1 = (pre.length + more + 1) + 1 := by
      simp only [List.length_cons]
      omega
    have hindex : before.length + (x :: pre).length = (before ++ [x]).length + pre.length := by
      simp only [List.length_append, List.length_cons, List.length_nil]
      omega
    rw [hleft, hindex, ← hrest]
    simp [scanFrom, hx]

theorem moveDown_gap : moveDown stored.length pre.length (pre ++ {} :: (stored ++ rest)) =
    some (pre ++ stored ++ {} :: rest) := by
  induction stored generalizing pre with
  | nil => simp [moveDown]
  | cons x stored ih =>
    have hrest := @ih (pre ++ [x])
    simp only [List.append_assoc, List.cons_append, List.nil_append, List.length_append,
      List.length_cons, List.length_nil, Nat.zero_add] at hrest
    simpa [moveDown, List.set_append] using hrest

theorem scan_missing {s : NatTable} (array : s.pNatIfaces = stored ++ rest)
    (count : s.ipaNatIfaceEntries = stored.length) (hnone : ∀ x ∈ stored, p x = false) :
    s.scan p = some none := by
  have hscan := @scanFrom_missing p [] stored rest hnone
  rwa [List.nil_append, ← array, ← count] at hscan

theorem scan_found {s : NatTable} (array : s.pNatIfaces = pre ++ e :: rest)
    (count : pre.length < s.ipaNatIfaceEntries) (hnone : ∀ x ∈ pre, p x = false)
    (he : p e = true) : s.scan p = some (some pre.length) := by
  obtain ⟨more, hmore⟩ := Nat.exists_eq_add_of_lt count
  have hscan := @scanFrom_found p [] pre rest e hnone he more
  rwa [List.nil_append, ← array, ← hmore, List.length_nil, Nat.zero_add] at hscan

theorem modify_middle (f : NatIface → NatIface) :
    (pre ++ e :: rest).modify pre.length f = pre ++ f e :: rest := by
  induction pre with
  | nil => rfl
  | cons x pre ih => simpa using ih

end loops

end NatTable

/-- A call that changes the table. -/
inductive NatIfaceOp where
  | add (devName : CString) (ipType : Option IpaIpType)
  | del (devName : CString)
deriving DecidableEq

/-- The names added and not deleted since, the newest call first in the log. -/
def present : List NatIfaceOp → List CString
  | [] => []
  | .add name _ :: log => if name ∈ present log then present log else present log ++ [name]
  | .del name :: log => (present log).erase name

/-- The name was added with the family since its last deletion. -/
def AddedSince (log : List NatIfaceOp) (name : CString) (t : IpaIpType) : Prop :=
  Since (· = .del name) (.add name (some t)) log

section log

variable {log : List NatIfaceOp} {name other : CString} {t : IpaIpType}

theorem present_nodup : ∀ log, (present log).Nodup
  | [] => List.nodup_nil
  | .add name _ :: log => by
    have hlog := present_nodup log
    by_cases hmem : name ∈ present log
    · simpa [present, hmem] using hlog
    · simpa [present, hmem] using hlog.concat hmem
  | .del name :: log => (present_nodup log).erase name

theorem addedSince_add {ipType : Option IpaIpType} :
    AddedSince (.add other ipType :: log) name t ↔
      other = name ∧ ipType = some t ∨ AddedSince log name t := by
  simp [AddedSince, since_cons]

theorem addedSince_del :
    AddedSince (.del other :: log) name t ↔ other ≠ name ∧ AddedSince log name t := by
  simp [AddedSince, since_cons]

theorem AddedSince.present (h : AddedSince log name t) : name ∈ present log := by
  induction log with
  | nil =>
    obtain ⟨later, earlier, hlog, -⟩ := h
    simp at hlog
  | cons op log ih =>
    cases op with
    | add other ipType =>
      rcases addedSince_add.mp h with ⟨rfl, -⟩ | hlog
      · grind [Ipacm.present]
      grind [Ipacm.present]
    | del other =>
      obtain ⟨hne, hlog⟩ := addedSince_del.mp h
      exact (List.mem_erase_of_ne hne.symm).mpr (ih hlog)

end log

/-- The table, and the calls made so far. -/
structure NatRun where
  table : NatTable
  log : List NatIfaceOp

namespace NatRun

def start (ipaNumIpaInterfaces : Nat) : NatRun := ⟨.init ipaNumIpaInterfaces, []⟩

def step (s : NatRun) (op : NatIfaceOp) : Option NatRun :=
  let table := match op with
    | .add devName ipType => s.table.addNatIfaces devName ipType
    | .del devName => s.table.delNatIfaces devName
  table.map (⟨·, op :: s.log⟩)

/-- At most as many different names are present as the table was allocated for. -/
def Admits (s : NatRun) (op : NatIfaceOp) : Prop :=
  (present (op :: s.log)).length ≤ s.table.ipaNumIpaInterfaces

/-- The entry with a name, as the loops of the table find it. -/
def lookup (s : NatTable) (name : CString) : Option (Option NatIface) := do
  match ← s.scan fun e => name = e.ifaceName with
  | some i => some s.pNatIfaces[i]?
  | none => some none

/-- The table is the map from the names present to their families. -/
structure MapRight (s : NatRun) : Prop where
  entries : s.table.ipaNatIfaceEntries = (present s.log).length
  bounded : s.table.ipaNatIfaceEntries ≤ s.table.ipaNumIpaInterfaces
  absent : ∀ name ∉ present s.log, lookup s.table name = some none
  found : ∀ name ∈ present s.log, ∃ e, lookup s.table name = some (some e) ∧
    ∀ t, e.up t = true ↔ AddedSince s.log name t
  check : ∀ name t, s.table.checkNatIfaces name (some t) = some 0 ↔ AddedSince s.log name t

/-- The name is there already, or it fits into an entry and the entry into the table. -/
def Stores (s : NatRun) : NatIfaceOp → Prop
  | .add devName ipType => devName ∈ present s.log ∨ devName.val.length < ipaIfaceNameLen ∧
    ((present s.log).length + 1 < s.table.ipaNumIpaInterfaces ∨ devName.val = [] ∧ ipType = none)
  | .del _ => True

instance (s : NatRun) (op : NatIfaceOp) : Decidable (Admits s op) :=
  inferInstanceAs (Decidable (_ ≤ _))

instance (s : NatRun) : ∀ op, Decidable (Stores s op)
  | .add _ _ => inferInstanceAs (Decidable (_ ∨ _ ∧ (_ ∨ _ ∧ _)))
  | .del _ => isTrue trivial

/-- The entries in use are those of the names present, in the order they were added. -/
structure Mapped (s : NatRun) (stored : List NatIface) : Prop where
  array : s.table.pNatIfaces =
    stored ++ List.replicate (s.table.ipaNumIpaInterfaces - stored.length) ({} : NatIface)
  count : s.table.ipaNatIfaceEntries = stored.length
  fits : stored.length ≤ s.table.ipaNumIpaInterfaces
  names : stored.map (·.ifaceName) = present s.log
  short : ∀ e ∈ stored, e.ifaceName.val.length < ipaIfaceNameLen
  up : ∀ e ∈ stored, ∀ t, e.up t = true ↔ AddedSince s.log e.ifaceName t

section mapped

variable {s : NatRun} {stored pre post : List NatIface} {e : NatIface} {name : CString}
  {p : NatIface → Bool}

theorem start_mapped (n : Nat) : Mapped (start n) [] where
  array := rfl
  count := rfl
  fits := Nat.zero_le n
  names := rfl
  short := by simp
  up := by simp

theorem take_eq_iff (he : e.ifaceName.val.length < ipaIfaceNameLen) :
    name.val.take ipaIfaceNameLen = e.ifaceName.val.take ipaIfaceNameLen ↔ name = e.ifaceName := by
  constructor
  · intro h
    rw [List.take_of_length_le (Nat.le_of_lt he)] at h
    have hlen := congrArg List.length h
    simp only [List.length_take] at hlen
    rw [List.take_of_length_le (by omega)] at h
    exact Subtype.ext h
  · rintro rfl
    rfl

theorem Mapped.scan_missing (h : Mapped s stored) (hnone : ∀ x ∈ stored, p x = false) :
    s.table.scan p = some none :=
  NatTable.scan_missing h.array h.count hnone

theorem Mapped.scan_found (h : Mapped s (pre ++ e :: post)) (hnone : ∀ x ∈ pre, p x = false)
    (he : p e = true) : s.table.scan p = some (some pre.length) := by
  have harray := h.array
  rw [List.append_assoc, List.cons_append] at harray
  refine NatTable.scan_found harray ?_ hnone he
  rw [h.count]
  simp

theorem Mapped.mem_iff (h : Mapped s stored) :
    name ∈ present s.log ↔ ∃ e ∈ stored, e.ifaceName = name := by
  rw [← h.names]
  exact List.mem_map

theorem Mapped.split (h : Mapped s stored) (hmem : name ∈ present s.log) :
    ∃ pre e post, stored = pre ++ e :: post ∧ e.ifaceName = name ∧
      (∀ x ∈ pre, x.ifaceName ≠ name) ∧ ∀ x ∈ post, x.ifaceName ≠ name := by
  obtain ⟨e, he, rfl⟩ := h.mem_iff.mp hmem
  obtain ⟨pre, post, rfl⟩ := List.append_of_mem he
  have hnodup := present_nodup s.log
  rw [← h.names, List.map_append, List.map_cons, List.nodup_append] at hnodup
  obtain ⟨-, hpost, hpre⟩ := hnodup
  refine ⟨pre, e, post, rfl, rfl, fun x hx heq => ?_, fun x hx heq => ?_⟩
  · exact hpre _ (List.mem_map_of_mem hx) _ List.mem_cons_self heq
  grind

theorem Mapped.getElem (h : Mapped s (pre ++ e :: post)) :
    s.table.pNatIfaces[pre.length]? = some e := by
  rw [h.array]
  simp

variable {ipType : Option IpaIpType}

theorem Mapped.room (h : Mapped s stored) (hmem : name ∉ present s.log)
    (admits : Admits s (.add name ipType)) :
    stored.length + 1 ≤ s.table.ipaNumIpaInterfaces := by
  have hle : (present (.add name ipType :: s.log)).length ≤ s.table.ipaNumIpaInterfaces := admits
  have hlen : (present s.log).length = stored.length := by rw [← h.names, List.length_map]
  simpa [present, hmem, hlen] using hle

theorem lookup_missing {table : NatTable} (array : table.pNatIfaces = stored ++ post)
    (count : table.ipaNatIfaceEntries = stored.length)
    (hnone : ∀ x ∈ stored, name ≠ x.ifaceName) : lookup table name = some none := by
  have hscan : table.scan (fun e => name = e.ifaceName) = some none :=
    NatTable.scan_missing array count fun x hx => decide_eq_false (hnone x hx)
  simp [lookup, hscan]

theorem lookup_found {table : NatTable} (array : table.pNatIfaces = pre ++ e :: post)
    (count : pre.length < table.ipaNatIfaceEntries) (hnone : ∀ x ∈ pre, name ≠ x.ifaceName)
    (he : name = e.ifaceName) : lookup table name = some (some e) := by
  have hscan : table.scan (fun e => name = e.ifaceName) = some (some pre.length) :=
    NatTable.scan_found array count (fun x hx => decide_eq_false (hnone x hx))
      (decide_eq_true he)
  simp [lookup, hscan, array]

theorem Mapped.scan_absent (h : Mapped s stored) (hmem : name ∉ present s.log) :
    s.table.scan (fun e => name = e.ifaceName) = some none :=
  h.scan_missing fun x hx => decide_eq_false fun heq => hmem (h.mem_iff.mpr ⟨x, hx, heq.symm⟩)

theorem Mapped.scan_name (h : Mapped s (pre ++ e :: post)) (he : e.ifaceName = name)
    (hpre : ∀ x ∈ pre, x.ifaceName ≠ name) :
    s.table.scan (fun e => name = e.ifaceName) = some (some pre.length) :=
  h.scan_found (fun x hx => decide_eq_false fun heq => hpre x hx heq.symm) (decide_eq_true he.symm)

theorem Mapped.right (h : Mapped s stored) : MapRight s where
  entries := by rw [h.count, ← h.names, List.length_map]
  bounded := h.count ▸ h.fits
  absent name hmem := by simp [lookup, h.scan_absent hmem]
  found name hmem := by
    obtain ⟨pre, e, post, rfl, he, hpre, -⟩ := h.split hmem
    refine ⟨e, ?_, ?_⟩
    · simp [lookup, h.scan_name he hpre, h.getElem]
    · exact he ▸ h.up e (by simp)
  check name t := by
    by_cases hmem : name ∈ present s.log
    · obtain ⟨pre, e, post, rfl, he, hpre, -⟩ := h.split hmem
      have hup := he ▸ h.up e (by simp) t
      rw [← hup]
      cases t <;> simp [NatTable.checkNatIfaces, h.scan_name he hpre, h.getElem, NatIface.up]
    · have hnot : ¬AddedSince s.log name t := fun hadd => hmem hadd.present
      simp [NatTable.checkNatIfaces, h.scan_absent hmem, hnot]

theorem Mapped.add_again (h : Mapped s stored) (hmem : name ∈ present s.log)
    (ipType : Option IpaIpType) :
    ∃ t stored', s.step (.add name ipType) = some t ∧ Mapped t stored' := by
  obtain ⟨pre, e, post, rfl, rfl, hpre, hpost⟩ := h.split hmem
  have hscan : s.table.scan (fun x => e.ifaceName.val.take ipaIfaceNameLen =
      x.ifaceName.val.take ipaIfaceNameLen) = some (some pre.length) := by
    refine h.scan_found (fun x hx => decide_eq_false fun heq => ?_) (decide_eq_true rfl)
    exact hpre x hx ((take_eq_iff (h.short x (List.mem_append_left _ hx))).mp heq).symm
  have hstep : s.step (.add e.ifaceName ipType) = some ⟨{ s.table with
      pNatIfaces := s.table.pNatIfaces.modify pre.length (·.setUp ipType) },
      .add e.ifaceName ipType :: s.log⟩ := by
    simp only [step, NatTable.addNatIfaces, hscan, Option.bind_eq_bind, Option.bind_some,
      Option.map_some]
  refine ⟨_, pre ++ e.setUp ipType :: post, hstep, ?_⟩
  have hother : ∀ x ∈ pre ++ post, x.ifaceName ≠ e.ifaceName := by
    intro x hx
    rcases List.mem_append.mp hx with hx | hx
    · exact hpre x hx
    · exact hpost x hx
  have hcases : ∀ x ∈ pre ++ e.setUp ipType :: post, x = e.setUp ipType ∨ x ∈ pre ++ post := by
    intro x hx
    simp only [List.mem_append, List.mem_cons] at hx ⊢
    tauto
  have hold : ∀ x ∈ pre ++ post, x ∈ pre ++ e :: post := by
    intro x hx
    simp only [List.mem_append, List.mem_cons] at hx ⊢
    tauto
  refine ⟨?_, ?_, ?_, ?_, ?_, ?_⟩
  · simp only [h.array, List.append_assoc, List.cons_append, NatTable.modify_middle]
    simp
  · simpa using h.count
  · simpa using h.fits
  · simpa [present, hmem] using h.names
  · intro x hx
    rcases hcases x hx with rfl | hx
    · simpa using h.short e (by simp)
    · exact h.short x (hold x hx)
  · intro x hx t
    rcases hcases x hx with rfl | hx
    · rw [NatIface.setUp_up, NatIface.setUp_ifaceName, h.up e (by simp), addedSince_add]
      simp
    · rw [h.up x (hold x hx), addedSince_add]
      simp [(hother x hx).symm]

theorem Mapped.scan_new (h : Mapped s stored) (hmem : name ∉ present s.log) :
    s.table.scan (fun x => name.val.take ipaIfaceNameLen = x.ifaceName.val.take ipaIfaceNameLen) =
      some none := by
  refine h.scan_missing fun x hx => decide_eq_false fun heq => hmem (h.mem_iff.mpr ⟨x, hx, ?_⟩)
  exact ((take_eq_iff (h.short x hx)).mp heq).symm

theorem Mapped.add_eq (h : Mapped s stored) (hmem : name ∉ present s.log)
    (ipType : Option IpaIpType) :
    s.step (.add name ipType) = some ⟨{ s.table with
      ipaNatIfaceEntries := stored.length + 1
      pNatIfaces := if stored.length + 1 < s.table.ipaNumIpaInterfaces then
        stored ++ NatIface.setUp ⟨name.strlcpy ipaIfaceNameLen, false, false⟩ ipType ::
          List.replicate (s.table.ipaNumIpaInterfaces - (stored.length + 1)) ({} : NatIface)
        else s.table.pNatIfaces }, .add name ipType :: s.log⟩ := by
  simp only [step, NatTable.addNatIfaces, h.scan_new hmem, Option.bind_eq_bind, Option.bind_some,
    h.count]
  split
  next hlt =>
    have hfree : s.table.ipaNumIpaInterfaces - stored.length =
        (s.table.ipaNumIpaInterfaces - (stored.length + 1)) + 1 := by omega
    simp only [h.array, hfree, List.replicate_succ, Nat.add_sub_cancel, NatTable.modify_middle,
      Option.map_some]
  next => rfl

theorem Mapped.add_new (h : Mapped s stored) (hmem : name ∉ present s.log)
    (hlen : name.val.length < ipaIfaceNameLen)
    (hfits : stored.length + 1 ≤ s.table.ipaNumIpaInterfaces)
    (hroom : stored.length + 1 < s.table.ipaNumIpaInterfaces ∨ name.val = [] ∧ ipType = none) :
    ∃ t stored', s.step (.add name ipType) = some t ∧ Mapped t stored' := by
  have hcopy : name.strlcpy ipaIfaceNameLen = name := by
    refine Subtype.ext (List.take_of_length_le ?_)
    exact Nat.le_pred_of_lt hlen
  refine ⟨_, stored ++ [NatIface.setUp ⟨name, false, false⟩ ipType], h.add_eq hmem ipType, ?_⟩
  have hcases : ∀ x ∈ stored ++ [NatIface.setUp ⟨name, false, false⟩ ipType],
      x ∈ stored ∨ x = NatIface.setUp ⟨name, false, false⟩ ipType := by
    intro x hx
    simpa using hx
  refine ⟨?_, ?_, ?_, ?_, ?_, ?_⟩
  · dsimp only
    split
    next => simp [hcopy]
    next hfull =>
      obtain ⟨hempty, rfl⟩ := hroom.resolve_left hfull
      have hone : s.table.ipaNumIpaInterfaces - stored.length = 1 := by omega
      grind [h.array, NatIface.setUp]
  · simp
  · simpa using hfits
  · simp [present, hmem, h.names]
  · intro x hx
    rcases hcases x hx with hx | rfl
    · exact h.short x hx
    · simpa using hlen
  · intro x hx t
    rcases hcases x hx with hx | rfl
    · have hne : name ≠ x.ifaceName := fun heq => hmem (h.mem_iff.mpr ⟨x, hx, heq.symm⟩)
      rw [h.up x hx, addedSince_add]
      simp [hne]
    · have hnot : ¬AddedSince s.log name t := fun hadd => hmem hadd.present
      rw [NatIface.setUp_up, NatIface.setUp_ifaceName, addedSince_add]
      cases t <;> simp [NatIface.up, hnot]

theorem Mapped.del (h : Mapped s stored) (name : CString) :
    ∃ t stored', s.step (.del name) = some t ∧ Mapped t stored' := by
  by_cases hmem : name ∈ present s.log
  · obtain ⟨pre, e, post, rfl, rfl, hpre, hpost⟩ := h.split hmem
    have hlen : (pre ++ e :: post).length = pre.length + post.length + 1 := by
      simp only [List.length_append, List.length_cons]
      omega
    have hleft : s.table.ipaNatIfaceEntries - 1 - pre.length = post.length := by
      rw [h.count, hlen]
      omega
    have hset : s.table.pNatIfaces.set pre.length {} = pre ++ {} :: (post ++ List.replicate
        (s.table.ipaNumIpaInterfaces - (pre ++ e :: post).length) ({} : NatIface)) := by
      simp [h.array]
    have hold : ∀ x ∈ pre ++ post, x ∈ pre ++ e :: post := by
      intro x hx
      simp only [List.mem_append, List.mem_cons] at hx ⊢
      tauto
    have hother : ∀ x ∈ pre ++ post, x.ifaceName ≠ e.ifaceName := by
      intro x hx
      rcases List.mem_append.mp hx with hx | hx
      · exact hpre x hx
      · exact hpost x hx
    have hfits := h.fits
    have hstep : s.step (.del e.ifaceName) = some ⟨{ s.table with
        ipaNatIfaceEntries := s.table.ipaNatIfaceEntries - 1
        pNatIfaces := pre ++ post ++ {} :: List.replicate
          (s.table.ipaNumIpaInterfaces - (pre ++ e :: post).length) ({} : NatIface) },
        .del e.ifaceName :: s.log⟩ := by
      simp only [step, NatTable.delNatIfaces, h.scan_name rfl hpre, Option.bind_eq_bind,
        Option.bind_some, hleft, hset, NatTable.moveDown_gap, Option.map_some]
    refine ⟨_, pre ++ post, hstep, ?_⟩
    have hfree : s.table.ipaNumIpaInterfaces - (pre ++ post).length =
        (s.table.ipaNumIpaInterfaces - (pre ++ e :: post).length) + 1 := by
      rw [List.length_append]
      omega
    refine ⟨?_, ?_, ?_, ?_, ?_, ?_⟩
    · simp only [hfree, List.replicate_succ]
    · simp [h.count]
    · exact Nat.le_trans (by simp) hfits
    · have hnames := h.names
      have hnot : e.ifaceName ∉ pre.map (·.ifaceName) := by
        intro hin
        obtain ⟨x, hx, heq⟩ := List.mem_map.mp hin
        exact hpre x hx heq
      grind [present, List.erase_cons_head]
    · exact fun x hx => h.short x (hold x hx)
    · intro x hx t
      rw [h.up x (hold x hx), addedSince_del]
      simp [(hother x hx).symm]
  · have hstep : s.step (.del name) = some ⟨s.table, .del name :: s.log⟩ := by
      simp only [step, NatTable.delNatIfaces, h.scan_absent hmem, Option.bind_eq_bind, Option.bind_some,
        Option.map_some]
    refine ⟨_, stored, hstep, ?_⟩
    refine ⟨h.array, h.count, h.fits, ?_, h.short, ?_⟩
    · simpa [present, List.erase_of_not_mem hmem] using h.names
    · intro x hx t
      have hne : name ≠ x.ifaceName := fun heq => hmem (h.mem_iff.mpr ⟨x, hx, heq.symm⟩)
      rw [h.up x hx, addedSince_del]
      simp [hne]

theorem Mapped.add_slot (h : Mapped s stored) (hmem : name ∉ present s.log)
    (hfits : stored.length + 1 ≤ s.table.ipaNumIpaInterfaces)
    (bad : ¬Stores s (.add name ipType)) :
    ∃ table, s.step (.add name ipType) = some ⟨table, .add name ipType :: s.log⟩ ∧
      table.ipaNatIfaceEntries = stored.length + 1 ∧ ∃ (slot : NatIface) (rest : List NatIface),
      table.pNatIfaces = stored ++ slot :: rest ∧
      (name = slot.ifaceName → slot = {} ∧ ipType ≠ none) := by
  have hlen : (present s.log).length = stored.length := by rw [← h.names, List.length_map]
  have hfree : s.table.ipaNumIpaInterfaces - stored.length =
      (s.table.ipaNumIpaInterfaces - (stored.length + 1)) + 1 := by omega
  simp only [Stores, hmem, false_or, not_and, not_or, hlen] at bad
  refine ⟨_, h.add_eq hmem ipType, rfl, ?_⟩
  by_cases hroom : stored.length + 1 < s.table.ipaNumIpaInterfaces
  · refine ⟨_, _, if_pos hroom, fun heq => absurd hroom (bad ?_).1⟩
    have hcut := congrArg (fun x : CString => x.val.length) heq
    simp only [NatIface.setUp_ifaceName, CString.strlcpy, List.length_take] at hcut
    simp only [ipaIfaceNameLen] at hcut ⊢
    omega
  · refine ⟨{}, List.replicate (s.table.ipaNumIpaInterfaces - (stored.length + 1)) {}, ?_,
      fun heq => ⟨rfl, ?_⟩⟩
    · dsimp only
      rw [if_neg hroom, h.array, hfree, List.replicate_succ]
    grind

theorem Mapped.breaks (h : Mapped s stored) {op : NatIfaceOp} (admits : Admits s op)
    (bad : ¬Stores s op) : ∃ t, s.step op = some t ∧ ¬MapRight t := by
  cases op with
  | del name => exact absurd trivial bad
  | add name ipType =>
    have hmem : name ∉ present s.log := fun hmem => bad (Or.inl hmem)
    have hother : ∀ x ∈ stored, name ≠ x.ifaceName := fun x hx heq =>
      hmem (h.mem_iff.mpr ⟨x, hx, heq.symm⟩)
    obtain ⟨table, hstep, hcount, slot, rest, harray, hslot⟩ :=
      h.add_slot hmem (h.room hmem admits) bad
    refine ⟨_, hstep, fun hright => ?_⟩
    obtain ⟨e, he, hup⟩ := hright.found name (by simp [present, hmem])
    by_cases heq : name = slot.ifaceName
    · obtain ⟨rfl, htype⟩ := hslot heq
      obtain ⟨t, rfl⟩ := Option.ne_none_iff_exists'.mp htype
      have hlook : lookup table name = some (some {}) :=
        lookup_found harray (by omega) hother heq
      cases hlook.symm.trans he
      have hadd := (hup t).mpr (addedSince_add.mpr (Or.inl ⟨rfl, rfl⟩))
      cases t <;> exact Bool.noConfusion hadd
    · have harray' : table.pNatIfaces = stored ++ [slot] ++ rest := by rw [harray]; simp
      have hlook : lookup table name = some none := by
        refine lookup_missing harray' (by simp [hcount]) fun x hx => ?_
        rcases List.mem_append.mp hx with hx | hx
        · exact hother x hx
        · exact List.mem_singleton.mp hx ▸ heq
      cases hlook.symm.trans he

theorem Mapped.keeps (h : Mapped s stored) {op : NatIfaceOp} (admits : Admits s op)
    (stores : Stores s op) : ∃ t stored', s.step op = some t ∧ Mapped t stored' := by
  cases op with
  | del name => exact h.del name
  | add name ipType =>
    have hlen : (present s.log).length = stored.length := by rw [← h.names, List.length_map]
    by_cases hmem : name ∈ present s.log
    · exact h.add_again hmem ipType
    · obtain ⟨hshort, hroom⟩ := stores.resolve_left hmem
      exact h.add_new hmem hshort (h.room hmem admits) (hlen ▸ hroom)

end mapped

/-- The table is right after every call exactly if each new name fits into an entry that is not the
last one of the table. -/
theorem mapRight_iff (ipaNumIpaInterfaces : Nat) {ops : List NatIfaceOp}
    (admits : OpsMeet step Admits (start ipaNumIpaInterfaces) ops) :
    Always step MapRight (start ipaNumIpaInterfaces) ops ↔
      OpsMeet step Stores (start ipaNumIpaInterfaces) ops := by
  refine @always_iff _ _ step Admits (fun s => ∃ stored, Mapped s stored) MapRight Stores (fun s hs => ?_)
    (fun s op hs hok hgood => ?_) (fun s op hs hok hbad => ?_) _ _ ⟨[], start_mapped _⟩ admits
  · obtain ⟨stored, h⟩ := hs
    exact h.right
  · obtain ⟨stored, h⟩ := hs
    obtain ⟨t, stored', ht, hkept⟩ := h.keeps hok hgood
    exact ⟨t, ht, stored', hkept⟩
  · obtain ⟨stored, h⟩ := hs
    exact h.breaks hok hbad

def wlan0 : CString := ⟨['w', 'l', 'a', 'n', '0'], by decide⟩

def rndis0 : CString := ⟨['r', 'n', 'd', 'i', 's', '0'], by decide⟩

/-- Two interfaces that come up; the first one goes down. -/
def twoIfaces : List NatIfaceOp :=
  [.add wlan0 (some .v4), .add rndis0 (some .v4), .add rndis0 (some .v6), .del wlan0]

theorem three_entries_right : Always step MapRight (start 3) twoIfaces :=
  (mapRight_iff 3 (by decide)).mpr (by decide)

/-- A table of two entries loses the second interface. -/
theorem two_entries_wrong :
    OpsMeet step Admits (start 2) twoIfaces ∧ ¬Always step MapRight (start 2) twoIfaces := by
  refine ⟨by decide, fun always => ?_⟩
  have hlost : ((start 2).step (.add wlan0 (some .v4))).bind (fun s =>
      (s.step (.add rndis0 (some .v4))).bind fun t =>
        t.table.checkNatIfaces rndis0 (some .v4)) = some (-1) := by decide
  obtain ⟨s, hs, hlost⟩ := Option.bind_eq_some_iff.mp hlost
  obtain ⟨t, ht, hlost⟩ := Option.bind_eq_some_iff.mp hlost
  have hright : MapRight t := ((always.2 s hs).2 t ht).first
  have hlog : t.log = .add rndis0 (some .v4) :: s.log := by
    obtain ⟨table, -, rfl⟩ := Option.map_eq_some_iff.mp ht
    rfl
  have hadd : AddedSince t.log rndis0 .v4 := by
    rw [hlog]
    exact addedSince_add.mpr (Or.inl ⟨rfl, rfl⟩)
  have hfound := (hright.check rndis0 .v4).mpr hadd
  rw [hlost] at hfound
  exact absurd hfound (by decide)

end NatRun

end DeviceHal.Ipacm
