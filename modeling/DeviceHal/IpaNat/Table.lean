import DeviceHal.IpaNat.Rule

namespace DeviceHal.IpaNat

/-- `ipa_nat_ip4_table_cache`. The base table is followed by the expansion table in the mapped
memory, so `rules` is indexed by slot number: slots below `tableEntries` are the base table and
slot `tableEntries + i` is entry `i` of the expansion table. `indx` holds the two index tables
the same way. -/
structure Ip4TableCache where
  tableEntries : Nat
  expnTableEntries : Nat
  rules : Nat → IpaNatRule := fun _ => {}
  indx : Nat → IpaNatIndxTblRule := fun _ => {}
  indexExpnTableMeta : Nat → Nat := fun _ => 0
  ruleIdArray : Nat → Nat := fun _ => 0
  curTblCnt : Nat := 0
  curExpnTblCnt : Nat := 0

/-- The table memory together with its contents after each single store made so far. -/
structure NatMem where
  cache : Ip4TableCache
  log : List Ip4TableCache := []

namespace Ip4TableCache

def setRule (c : Ip4TableCache) (e : Nat) (r : IpaNatRule) : Ip4TableCache :=
  { c with rules := Function.update c.rules e r }

def setIndx (c : Ip4TableCache) (e : Nat) (x : IpaNatIndxTblRule) : Ip4TableCache :=
  { c with indx := Function.update c.indx e x }

def setMeta (c : Ip4TableCache) (i prev : Nat) : Ip4TableCache :=
  { c with indexExpnTableMeta := Function.update c.indexExpnTableMeta i prev }

def setRuleId (c : Ip4TableCache) (i id : Nat) : Ip4TableCache :=
  { c with ruleIdArray := Function.update c.ruleIdArray i id }

end Ip4TableCache

def NatMem.store (m : NatMem) (f : Ip4TableCache → Ip4TableCache) : NatMem :=
  ⟨f m.cache, m.log ++ [f m.cache]⟩

@[simp] theorem NatMem.store_cache (m : NatMem) (f : Ip4TableCache → Ip4TableCache) :
    (m.store f).cache = f m.cache := rfl

/-- Subtraction of two `uint16_t` values. -/
def sub16 (a b : Nat) : Nat := (a + 2 ^ 16 - b) % 2 ^ 16

theorem sub16_eq {a b : Nat} (h : b ≤ a) (ha : a < 2 ^ 16) : sub16 a b = a - b := by
  unfold sub16
  omega

/-- `ipa_ioc_nat_dma_one`: 16 bits of data for a byte offset of one of the four tables. -/
structure NatDmaOne where
  baseAddr : NatTableType
  offset : Nat
  data : Nat
deriving DecidableEq, Repr

/-- The device memory starts with the tables, so offsets count from the start of the table. -/
def ipaNatiGetEntryOffset (tblEntry : Nat) : Nat := tblEntry * ipaNatTableEntrySize

def ipaNatiGetIndexEntryOffset (indxTblEntry : Nat) : Nat :=
  indxTblEntry * ipaNatIndexTableEntrySize

/-- What the hardware does with one DMA command. -/
def Ip4TableCache.dmaWrite (c : Ip4TableCache) (d : NatDmaOne) : Ip4TableCache :=
  let rule (start : Nat) :=
    let e := start + d.offset / ipaNatTableEntrySize
    c.setRule e ((c.rules e).write16 (d.offset % ipaNatTableEntrySize) d.data)
  let indx (start : Nat) :=
    let e := start + d.offset / ipaNatIndexTableEntrySize
    c.setIndx e ((c.indx e).write16 (d.offset % ipaNatIndexTableEntrySize) d.data)
  match d.baseAddr with
  | .ipaNatBaseTbl => rule 0
  | .ipaNatExpnTbl => rule c.tableEntries
  | .ipaNatIndxTbl => indx 0
  | .ipaNatIndexExpnTbl => indx c.tableEntries

/-- The `IPA_IOC_NAT_DMA` ioctl: its commands are carried out in order, or none of them is. -/
def ioctlNatDma (ok : Bool) (m : NatMem) (cmds : List NatDmaOne) : Int × NatMem :=
  if ok then (0, cmds.foldl (fun m d => m.store fun c => c.dmaWrite d) m) else (-1, m)

def einval : Int := -22
def eio : Int := -5
def enomem : Int := -12

/-- The loop of `GetNearest2Power`. -/
def getNearest2PowerLoop (number : Nat) : Nat → Nat → Nat → Nat
  | 0, _, tmp => tmp
  | fuel + 1, num, tmp =>
    if num = 1 then (if number ≠ tmp then tmp * 2 % 2 ^ 16 else tmp)
    else getNearest2PowerLoop number fuel (num / 2) (tmp * 2 % 2 ^ 16)

def getNearest2Power (num : Nat) : Option Nat :=
  if num = 0 then none
  else if num = 1 then some 2
  else some (getNearest2PowerLoop num num num 1)

def getNearestEven (num : Nat) : Nat :=
  if num < 2 then 2 else if num % 2 ≠ 0 then num + 1 else num

/-- The table sizes chosen by `ipa_nati_alloc_table`: 80 % of the entries for the base table,
20 % for the expansion table. -/
def ipaNatiAllocTable (numberOfEntries : Nat) : Option (Nat × Nat) :=
  let tableEntries := numberOfEntries * 4 / 5
  let tableEntries := if tableEntries = 0 then 1 else tableEntries
  (getNearest2Power tableEntries).map fun n => (n, getNearestEven (numberOfEntries / 5))

/-- `ipa_nati_add_ipv4_tbl` on success: tables of the chosen sizes, zeroed. -/
def ipaNatiAddIpv4Tbl (numberOfEntries : Nat) : Option Ip4TableCache :=
  (ipaNatiAllocTable numberOfEntries).map fun d =>
    { tableEntries := d.1, expnTableEntries := d.2 }

/-- The sizes of a usable table. -/
structure TableDims (tableEntries expnTableEntries : Nat) : Prop where
  baseLow : 2 ≤ tableEntries
  baseHigh : tableEntries ≤ 2 ^ 15
  expnLow : 2 ≤ expnTableEntries
  expnHigh : expnTableEntries ≤ 2 ^ 14

theorem getNearest2PowerLoop_pow (number fuel num tmp : Nat)
    (ht : ∃ k, tmp = 2 ^ k % 2 ^ 16) :
    ∃ k, getNearest2PowerLoop number fuel num tmp = 2 ^ k % 2 ^ 16 := by
  have double : ∀ t, (∃ k, t = 2 ^ k % 2 ^ 16) → ∃ k, t * 2 % 2 ^ 16 = 2 ^ k % 2 ^ 16 := by
    rintro t ⟨k, rfl⟩
    exact ⟨k + 1, by rw [pow_succ]; omega⟩
  induction fuel generalizing num tmp with
  | zero => exact ht
  | succ fuel ih =>
    unfold getNearest2PowerLoop
    split
    next =>
      split
      next => exact double tmp ht
      next => exact ht
    next => exact ih _ _ (double tmp ht)

theorem getNearest2Power_pow {num n : Nat} (h : getNearest2Power num = some n) :
    ∃ k, n = 2 ^ k % 2 ^ 16 := by
  unfold getNearest2Power at h
  split at h
  next => simp at h
  next =>
    split at h
    next => exact ⟨1, (Option.some.inj h).symm⟩
    next =>
      rw [← Option.some.inj h]
      exact getNearest2PowerLoop_pow _ _ _ _ ⟨0, rfl⟩

theorem getNearestEven_bound {num : Nat} (h : num ≤ 2 ^ 14 - 1) :
    2 ≤ getNearestEven num ∧ getNearestEven num ≤ 2 ^ 14 ∧ getNearestEven num % 2 = 0 := by
  unfold getNearestEven
  split
  next => omega
  next => split <;> omega

/-- Every table the driver creates has usable sizes and a power of two of base entries, unless
the number of base entries overflowed 16 bits to 0. -/
theorem ipaNatiAllocTable_dims {numberOfEntries tableEntries expnTableEntries : Nat}
    (hn : numberOfEntries < 2 ^ 16)
    (h : ipaNatiAllocTable numberOfEntries = some (tableEntries, expnTableEntries))
    (hz : 2 ≤ tableEntries) :
    TableDims tableEntries expnTableEntries ∧ (∃ k, tableEntries = 2 ^ k) ∧
      2 ∣ expnTableEntries := by
  obtain ⟨n, hp, he⟩ := Option.map_eq_some_iff.mp h
  obtain ⟨rfl, rfl⟩ := Prod.mk.inj he
  obtain ⟨k, hk⟩ := getNearest2Power_pow hp
  have hlt : k < 16 := by
    by_contra hge
    obtain ⟨j, rfl⟩ := Nat.exists_eq_add_of_le (Nat.le_of_not_lt hge)
    have hmod : 2 ^ (16 + j) % 2 ^ 16 = 0 := by rw [pow_add]; exact Nat.mul_mod_right _ _
    omega
  have hle : 2 ^ k ≤ 2 ^ 15 := Nat.pow_le_pow_right (by omega) (by omega)
  have hn2 : n = 2 ^ k := by rw [hk]; exact Nat.mod_eq_of_lt (by omega)
  have hnum : numberOfEntries / 5 ≤ 2 ^ 14 - 1 := by omega
  obtain ⟨elow, ehigh, even⟩ := getNearestEven_bound hnum
  exact ⟨⟨hz, by omega, elow, ehigh⟩, ⟨k, hn2⟩, by omega⟩

example : ipaNatiAllocTable 25000 = some (32768, 5000) := by decide

/-- Which of the DMA ioctls of one add succeed: the link of the rule, the link of its index
entry, the command that enables the rule. -/
structure AddIoctls where
  linkRule : Bool := true
  linkIndx : Bool := true
  enable : Bool := true
deriving DecidableEq, Repr

/-- The loop that looks for the last entry of a chain. `some 0` is its error exit, `none` a
walk that never ends: a 16 bit slot number cannot take more steps without coming back. -/
def walkToLast (next : Nat → Nat) (tableEntries : Nat) : Nat → Nat → Nat → Option Nat
  | 0, _, _ => none
  | fuel + 1, prev, nxtIndx =>
    if nxtIndx = ipaNatInvalidNatEntry then some prev
    else
      let nxt := next (tableEntries + sub16 nxtIndx tableEntries)
      if nxtIndx = nxt then some ipaNatInvalidNatEntry
      else walkToLast next tableEntries fuel nxtIndx nxt

def walkFuel : Nat := 2 ^ 16 + 1

/-- The entry a new entry of the chain of base slot `base` is linked behind. -/
def findPrevEntry (next : Nat → Nat) (tableEntries base : Nat) : Option Nat :=
  if next base = ipaNatInvalidNatEntry then some base
  else walkToLast next tableEntries walkFuel ipaNatInvalidNatEntry (next base)

/-- First fit in an expansion table, entry 0 left out; 0 when it is full. -/
def expnFreeEntry (free : Nat → Bool) (size : Nat) : Nat :=
  ((List.range' 1 (size - 1)).find? free).getD 0

def ipaNatiExpnTblFreeEntry (c : Ip4TableCache) : Nat :=
  expnFreeEntry (fun cnt => !(c.rules (c.tableEntries + cnt)).enable) c.expnTableEntries

def ipaNatiIndexExpnGetFreeEntry (c : Ip4TableCache) : Nat :=
  expnFreeEntry (fun cnt => (c.indx (c.tableEntries + cnt)).tblEntry = 0) c.expnTableEntries

/-- The rule as generated from the client's, before it has a place. -/
def swRule (env : NatEnv) (clntRule : IpaNatIpv4Rule) : IpaNatRule :=
  let pubIpAddr := env.pdns clntRule.pdnIndex.toNat
  { privateIp := clntRule.privateIp
    privatePort := clntRule.privatePort
    protocol := clntRule.protocol
    publicPort := clntRule.publicPort
    targetIp := clntRule.targetIp
    targetPort := clntRule.targetPort
    pdnIndex := UInt8.ofNat (clntRule.pdnIndex.toNat % 2 ^ 4)
    ipChksum := ipaNatiCalcIpCksum pubIpAddr clntRule.privateIp
    tcpUdpChksum :=
      if clntRule.protocol = ipprotoTcp ∨ clntRule.protocol = ipprotoUdp then
        ipaNatiCalcTcpUdpCksum pubIpAddr clntRule.publicPort clntRule.privateIp
          clntRule.privatePort
      else 0 }

/-- The generated rule and its slot, slot 0 when there is none. -/
def ipaNatiGenerateTblRule (env : NatEnv) (clntRule : IpaNatIpv4Rule) (c : Ip4TableCache) :
    Option (IpaNatRule × Nat) :=
  let sw := swRule env clntRule
  let base := dstBucket env c.tableEntries clntRule
  if (c.rules base).enable = false then some ({ sw with prevIndex := 0 }, base)
  else (findPrevEntry (fun e => (c.rules e).nextIndex) c.tableEntries base).map fun prev =>
    if prev = ipaNatInvalidNatEntry then (sw, ipaNatInvalidNatEntry)
    else if ipaNatiExpnTblFreeEntry c = ipaNatInvalidNatEntry then
      ({ sw with prevIndex := prev }, ipaNatInvalidNatEntry)
    else ({ sw with prevIndex := prev }, ipaNatiExpnTblFreeEntry c + c.tableEntries)

def ipaNatiGenerateIndexRule (clntRule : IpaNatIpv4Rule) (sw : IpaNatIndxTblSwRule)
    (c : Ip4TableCache) : Option (IpaNatIndxTblSwRule × Nat) :=
  let base := srcBucket c.tableEntries clntRule
  if (c.indx base).tblEntry = 0 then some ({ sw with prevIndex := 0 }, base)
  else (findPrevEntry (fun e => (c.indx e).nextIndex) c.tableEntries base).map fun prev =>
    if prev = ipaNatInvalidNatEntry then (sw, ipaNatInvalidNatEntry)
    else
      let sw := { sw with prevIndex := prev }
      let free := ipaNatiIndexExpnGetFreeEntry c
      if free = ipaNatInvalidNatEntry then (sw, ipaNatInvalidNatEntry)
      else if prev = free + c.tableEntries then (sw, ipaNatInvalidNatEntry)
      else (sw, free + c.tableEntries)

/-- A rule and its index entry with the slots chosen for them. -/
structure NewRule where
  rule : IpaNatRule
  indx : IpaNatIndxTblSwRule
  entry : Nat
  indxEntry : Nat

/-- The choices of `ipa_nati_generate_rule`. The outer `none` is a walk that never ends, the
inner one the error return. -/
def chooseRule (env : NatEnv) (clntRule : IpaNatIpv4Rule) (c : Ip4TableCache) :
    Option (Option NewRule) :=
  (ipaNatiGenerateTblRule env clntRule c).bind fun (sw, entry) =>
    if entry = ipaNatInvalidNatEntry then some none
    else (ipaNatiGenerateIndexRule clntRule { tblEntry := entry } c).map fun (isw, indxEntry) =>
      if indxEntry = ipaNatInvalidNatEntry then none
      else some ⟨{ sw with indxTblEntry := indxEntry }, isw, entry, indxEntry⟩

/-- On success `ipa_nati_generate_rule` notes the predecessor of an index expansion entry. -/
def ipaNatiGenerateRule (env : NatEnv) (clntRule : IpaNatIpv4Rule) (m : NatMem) :
    Option (Option (NewRule × NatMem)) :=
  (chooseRule env clntRule m.cache).map fun choice => choice.map fun n =>
    if n.indxEntry ≥ m.cache.tableEntries then
      (n, m.store fun c => c.setMeta (n.indxEntry - c.tableEntries) n.indx.prevIndex)
    else (n, m)

/-- `uint32_t offset` here, whichever width the caller computed it with. -/
def ipaNatiWriteNextIndex (ok : Bool) (m : NatMem) (tblType : NatTableType)
    (value offset : Nat) : NatMem :=
  (ioctlNatDma ok m [⟨tblType, offset, value⟩]).2

def ipaNatiCopyIpv4RuleToHw (ok : Bool) (m : NatMem) (rule : IpaNatRule) (entry : Nat) :
    NatMem :=
  let tableEntries := m.cache.tableEntries
  let prevEntry := rule.prevIndex
  let m := m.store fun c => c.setRule entry rule
  if prevEntry = ipaNatInvalidNatEntry then m
  else if prevEntry < tableEntries then
    ipaNatiWriteNextIndex ok m .ipaNatBaseTbl entry
      (ipaNatiGetEntryOffset prevEntry + ipaNatRuleNextFieldOffset)
  else
    ipaNatiWriteNextIndex ok m .ipaNatExpnTbl entry
      (ipaNatiGetEntryOffset (prevEntry - tableEntries) + ipaNatRuleNextFieldOffset)

/-- Unlike in the copy of the rule, `offset` is a `uint16_t` here. -/
def ipaNatiCopyIpv4IndexRuleToHw (ok : Bool) (m : NatMem) (sw : IpaNatIndxTblSwRule)
    (entry : Nat) : NatMem :=
  let tableEntries := m.cache.tableEntries
  let prevEntry := sw.prevIndex
  let m := m.store fun c => c.setIndx entry ⟨sw.tblEntry, sw.nextIndex⟩
  if prevEntry = ipaNatInvalidNatEntry then m
  else if prevEntry < tableEntries then
    ipaNatiWriteNextIndex ok m .ipaNatIndxTbl entry
      ((ipaNatiGetIndexEntryOffset prevEntry + ipaNatIndexRuleNextFieldOffset) % 2 ^ 16)
  else
    ipaNatiWriteNextIndex ok m .ipaNatIndexExpnTbl entry
      ((ipaNatiGetIndexEntryOffset (prevEntry - tableEntries)
        + ipaNatIndexRuleNextFieldOffset) % 2 ^ 16)

/-- Enables the rule that was copied to `entry`. -/
def ipaNatiPostIpv4DmaCmd (ok : Bool) (m : NatMem) (entry : Nat) : Int × NatMem :=
  let tableEntries := m.cache.tableEntries
  let cmd : NatDmaOne :=
    if entry < tableEntries then
      ⟨.ipaNatBaseTbl, ipaNatiGetEntryOffset entry + ipaNatRuleFlagFieldOffset,
        ipaNatFlagEnableBitMask⟩
    else
      ⟨.ipaNatExpnTbl, ipaNatiGetEntryOffset (entry - tableEntries) + ipaNatRuleFlagFieldOffset,
        ipaNatFlagEnableBitMask⟩
  let (ret, m) := ioctlNatDma ok m [cmd]
  (if ret ≠ 0 then eio else 0, m)

/-- The 16 bit rule id: the slot within its table above one bit for the table. -/
def ruleId (tableEntries tblEntry : Nat) : Nat :=
  if tblEntry ≥ tableEntries then (tblEntry - tableEntries) * 2 % 2 ^ 16 + 1
  else tblEntry * 2 % 2 ^ 16

def countEntry (tblEntry : Nat) (c : Ip4TableCache) : Ip4TableCache :=
  if tblEntry ≥ c.tableEntries then { c with curExpnTblCnt := (c.curExpnTblCnt + 1) % 2 ^ 16 }
  else { c with curTblCnt := (c.curTblCnt + 1) % 2 ^ 16 }

/-- The new handle is one above the first free position of `rule_id_array`, 0 if there is none. -/
def ipaNatiMakeRuleHdl (m : NatMem) (tblEntry : Nat) : Nat × NatMem :=
  let c := m.cache
  let m := m.store (countEntry tblEntry)
  match (List.range' 0 (c.tableEntries + c.expnTableEntries)).find?
      fun cnt => c.ruleIdArray cnt = ipaNatInvalidNatEntry with
  | some cnt => (cnt + 1, m.store fun c => c.setRuleId cnt (ruleId c.tableEntries tblEntry))
  | none => (0, m)

/-- Return value, handle and memory; `none` when the call does not return. -/
def ipaNatiAddIpv4Rule (env : NatEnv) (io : AddIoctls) (clntRule : IpaNatIpv4Rule)
    (m : NatMem) : Option (Int × Nat × NatMem) :=
  if clntRule.pdnIndex.toNat ≥ env.ipaMaxPdnNum ∨ env.pdns clntRule.pdnIndex.toNat = 0 then
    some (einval, 0, m)
  else (ipaNatiGenerateRule env clntRule m).map fun
    | none => (einval, 0, m)
    | some (n, m) =>
      let m := ipaNatiCopyIpv4RuleToHw io.linkRule m n.rule n.entry
      let m := ipaNatiCopyIpv4IndexRuleToHw io.linkIndx m n.indx n.indxEntry
      let (ret, m) := ipaNatiPostIpv4DmaCmd io.enable m n.entry
      if ret ≠ 0 then (eio, 0, m)
      else
        let (hdl, m) := ipaNatiMakeRuleHdl m n.entry
        if hdl = 0 then (einval, 0, m) else (0, hdl, m)

/-- The API call on the table: every error is reported as `-EINVAL`. -/
def ipaNatAddIpv4Rule (env : NatEnv) (io : AddIoctls) (clntRule : IpaNatIpv4Rule) (m : NatMem) :
    Option (Int × Nat × NatMem) :=
  (ipaNatiAddIpv4Rule env io clntRule m).map fun (ret, hdl, m) =>
    if ret ≠ 0 then (einval, hdl, m) else (0, hdl, m)

end DeviceHal.IpaNat
