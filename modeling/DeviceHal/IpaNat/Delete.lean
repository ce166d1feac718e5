import DeviceHal.IpaNat.Table

namespace DeviceHal.IpaNat

/-- The table (true for expansion) and entry a handle stands for, `(false, 0)` for an invalid
one; `none` is a read outside `rule_id_array`. -/
def ipaNatiParseIpv4RuleHdl (c : Ip4TableCache) (ruleHdl : Nat) : Option (Bool × Nat) :=
  if ruleHdl ≥ c.tableEntries + c.expnTableEntries then some (false, ipaNatInvalidNatEntry)
  else if ruleHdl = 0 then none
  else
    let id := c.ruleIdArray (ruleHdl - 1)
    some (id % 2 = 1, id / 2)

/-- The first slot of the base or of the expansion table. -/
def tblStart (c : Ip4TableCache) (expn : Bool) : Nat := if expn then c.tableEntries else 0

def ipaNatiFindRulePos (c : Ip4TableCache) (expnTbl : Bool) (tblEntry : Nat) : DelType :=
  if expnTbl then
    if (c.rules (c.tableEntries + tblEntry)).nextIndex = ipaNatInvalidNatEntry then .last
    else .middle
  else if (c.rules tblEntry).nextIndex = ipaNatInvalidNatEntry then .onlyOne
  else .head

def ipaNatiFindIndexRulePos (c : Ip4TableCache) (tblEntry : Nat) : DelType :=
  if tblEntry ≥ c.tableEntries then
    if (c.indx tblEntry).nextIndex = ipaNatInvalidNatEntry then .last else .middle
  else if (c.indx tblEntry).nextIndex = ipaNatInvalidNatEntry then .onlyOne
  else .head

/-- The command that overwrites the next index of the rule before the deleted one. -/
def linkRuleCmd (c : Ip4TableCache) (prevEntry data : Nat) : NatDmaOne :=
  if prevEntry ≥ c.tableEntries then
    ⟨.ipaNatExpnTbl, ipaNatiGetEntryOffset (prevEntry - c.tableEntries)
      + ipaNatRuleNextFieldOffset, data⟩
  else ⟨.ipaNatBaseTbl, ipaNatiGetEntryOffset prevEntry + ipaNatRuleNextFieldOffset, data⟩

def linkIndxCmd (c : Ip4TableCache) (prevEntry data : Nat) : NatDmaOne :=
  if prevEntry ≥ c.tableEntries then
    ⟨.ipaNatIndexExpnTbl, ipaNatiGetIndexEntryOffset (prevEntry - c.tableEntries)
      + ipaNatIndexRuleNextFieldOffset, data⟩
  else
    ⟨.ipaNatIndxTbl, ipaNatiGetIndexEntryOffset prevEntry + ipaNatIndexRuleNextFieldOffset, data⟩

/-- The command for the rule: a head only gets the dead protocol, the chain behind it stays. -/
def ruleDelCmd (c : Ip4TableCache) (cur : IpaNatRule) (curTblEntry : Nat) : DelType → NatDmaOne
  | .onlyOne =>
    ⟨.ipaNatBaseTbl, ipaNatiGetEntryOffset curTblEntry + ipaNatRuleFlagFieldOffset,
      ipaNatFlagDisableBitMask⟩
  | .head =>
    ⟨.ipaNatBaseTbl, ipaNatiGetEntryOffset curTblEntry + ipaNatRuleProtoFieldOffset,
      ipaNatInvalidProtoFieldValue⟩
  | .middle => linkRuleCmd c cur.prevIndex cur.nextIndex
  | .last => linkRuleCmd c cur.prevIndex ipaNatInvalidNatEntry

/-- The commands for the index entry: behind a head the next entry is copied into it. -/
def indxDelCmds (c : Ip4TableCache) (indxTblEntry : Nat) : DelType → List NatDmaOne
  | .onlyOne =>
    [⟨.ipaNatIndxTbl, ipaNatiGetIndexEntryOffset indxTblEntry
      + ipaNatIndexRuleNatIndexFieldOffset, ipaNatInvalidNatEntry⟩]
  | .head =>
    let next := c.indx (c.tableEntries + sub16 (c.indx indxTblEntry).nextIndex c.tableEntries)
    [⟨.ipaNatIndxTbl, ipaNatiGetIndexEntryOffset indxTblEntry
      + ipaNatIndexRuleNatIndexFieldOffset, next.tblEntry⟩,
     ⟨.ipaNatIndxTbl, ipaNatiGetIndexEntryOffset indxTblEntry
      + ipaNatIndexRuleNextFieldOffset, next.nextIndex⟩]
  | .middle =>
    [linkIndxCmd c (c.indexExpnTableMeta (indxTblEntry - c.tableEntries))
      (c.indx indxTblEntry).nextIndex]
  | .last =>
    [linkIndxCmd c (c.indexExpnTableMeta (indxTblEntry - c.tableEntries)) ipaNatInvalidNatEntry]

def NatDmaOne.isIndx (d : NatDmaOne) : Bool :=
  d.baseAddr = .ipaNatIndxTbl ∨ d.baseAddr = .ipaNatIndexExpnTbl

/-- Moves the commands from the first index command on to the front. -/
def reorderCmds (cmds : List NatDmaOne) : List NatDmaOne :=
  let indxTblStart := (cmds.findIdx? NatDmaOne.isIndx).getD 0
  if indxTblStart = 0 then cmds else cmds.drop indxTblStart ++ cmds.take indxTblStart

/-- `UpdateSwSpecParams` for the previous index half of the word. -/
def setPrevIndex (e prev : Nat) (c : Ip4TableCache) : Ip4TableCache :=
  c.setRule e { c.rules e with prevIndex := prev }

/-- `UpdateSwSpecParams` for the index table entry half of the word. -/
def setIndxTblEntry (e indxTblEntry : Nat) (c : Ip4TableCache) : Ip4TableCache :=
  c.setRule e { c.rules e with indxTblEntry := indxTblEntry }

/-- The CPU stores to the rule tables once the commands are carried out. -/
def finishRuleDel (m : NatMem) (cur : Nat) (rulePos : DelType) : NatMem :=
  let m :=
    if rulePos = .middle then
      let c := m.cache
      m.store (setPrevIndex (c.tableEntries + sub16 (c.rules cur).nextIndex c.tableEntries)
        (c.rules cur).prevIndex)
    else m
  if rulePos ≠ .head then m.store fun c => c.setRule cur {} else m

/-- The CPU stores to the index tables when the entry after the head was copied into it. The
copied entry, at `nextSlot`, is cleared and its rule told where its index entry is now. -/
def finishIndxHeadDel (m : NatMem) (indxTblEntry nextSlot : Nat) : NatMem :=
  let tableEntries := m.cache.tableEntries
  let nextNext := (m.cache.indx nextSlot).nextIndex
  let m :=
    if nextNext ≠ 0 ∧ nextNext ≥ tableEntries then
      m.store fun c => c.setMeta (nextNext - tableEntries) indxTblEntry
    else m
  let m := m.store fun c => c.setIndx nextSlot {}
  m.store fun c => setIndxTblEntry (c.indx indxTblEntry).tblEntry indxTblEntry c

/-- The CPU stores to the index tables in the other three positions. -/
def finishIndxDel (m : NatMem) (indxTblEntry : Nat) (indxRulePos : DelType) : NatMem :=
  let tableEntries := m.cache.tableEntries
  let m :=
    if indxRulePos = .middle then
      let entry := indxTblEntry - tableEntries
      let next := (m.cache.indx indxTblEntry).nextIndex
      let next := if next ≥ tableEntries then next - tableEntries else next
      let m := m.store fun c => c.setMeta next (c.indexExpnTableMeta entry)
      m.store fun c => c.setMeta entry ipaNatInvalidNatEntry
    else m
  m.store fun c => c.setIndx indxTblEntry {}

def ipaNatiPostDelDmaCmd (ok : Bool) (m : NatMem) (curTblEntry : Nat) (expnTbl : Bool)
    (rulePos : DelType) : Int × NatMem :=
  let c := m.cache
  let cur := c.rules (tblStart c expnTbl + curTblEntry)
  if cur.enable = false then (einval, m)
  else
    let indxTblEntry := cur.indxTblEntry
    let indxRulePos := ipaNatiFindIndexRulePos c indxTblEntry
    let nextSlot := c.tableEntries + sub16 (c.indx indxTblEntry).nextIndex c.tableEntries
    let cmds := ruleDelCmd c cur curTblEntry rulePos :: indxDelCmds c indxTblEntry indxRulePos
    let (ret, m) := ioctlNatDma ok m (reorderCmds cmds)
    if ret ≠ 0 then (eio, m)
    else
      let m := finishRuleDel m (tblStart c expnTbl + curTblEntry) rulePos
      if indxRulePos = .head then (0, finishIndxHeadDel m indxTblEntry nextSlot)
      else (0, finishIndxDel m indxTblEntry indxRulePos)

def isDeadHead (r : IpaNatRule) : Bool :=
  r.protocol = ipaNatInvalidProtoFieldCmp ∧ r.nextIndex = ipaNatInvalidNatEntry

/-- Clears every base slot that holds a dead head without a chain. -/
def ipaNatiDelDeadIpv4HeadNodes (m : NatMem) : NatMem :=
  (List.range' 0 m.cache.tableEntries).foldl (fun m cnt =>
    if isDeadHead (m.cache.rules cnt) then m.store fun c => c.setRule cnt {} else m) m

/-- Return value and memory; `none` is an access outside `rule_id_array`. The handle is cut to
16 bits for the lookup, not for the final store. -/
def ipaNatiDelIpv4Rule (ok : Bool) (ruleHdl : Nat) (m : NatMem) : Option (Int × NatMem) :=
  (ipaNatiParseIpv4RuleHdl m.cache (ruleHdl % 2 ^ 16)).bind fun (expnTbl, tblEntry) =>
    if tblEntry = ipaNatInvalidNatEntry then some (einval, m)
    else
      let rulePos := ipaNatiFindRulePos m.cache expnTbl tblEntry
      let (ret, m) := ipaNatiPostDelDmaCmd ok m tblEntry expnTbl rulePos
      if ret ≠ 0 then some (einval, m)
      else
        let m := ipaNatiDelDeadIpv4HeadNodes m
        if ruleHdl - 1 < m.cache.tableEntries + m.cache.expnTableEntries then
          some (0, m.store fun c => c.setRuleId (ruleHdl - 1) ipaNatInvalidNatEntry)
        else none

def ipaNatDelIpv4Rule (ok : Bool) (ruleHdl : Nat) (m : NatMem) : Option (Int × NatMem) :=
  if ruleHdl = ipaNatInvalidNatEntry then some (einval, m)
  else ipaNatiDelIpv4Rule ok ruleHdl m

/-- Return value and time stamp of `ipa_nat_query_timestamp`; `none` as for the delete. -/
def ipaNatQueryTimestamp (ruleHdl : Nat) (c : Ip4TableCache) : Option (Int × Nat) :=
  (ipaNatiParseIpv4RuleHdl c (ruleHdl % 2 ^ 16)).map fun (expnTbl, tblEntry) =>
    (0, (c.rules (tblStart c expnTbl + tblEntry)).timeStamp)

end DeviceHal.IpaNat
