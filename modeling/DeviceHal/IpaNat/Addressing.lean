import DeviceHal.IpaNat.Delete

namespace DeviceHal.IpaNat

/-- What the addresses of the commands on a table depend on. `tblAddrOffset` is where the kernel
put the table in the device memory. -/
structure TableAddr where
  tblAddrOffset : UInt32
  tableEntries : UInt16
  expnTableEntries : UInt16
deriving DecidableEq, Repr

/-- `ipa_ioc_nat_dma_one` with the widths of its fields. -/
structure DmaOne where
  baseAddr : NatTableType
  offset : UInt32
  data : UInt16
deriving DecidableEq, Repr

def DmaOne.widen (d : DmaOne) : NatDmaOne := ⟨d.baseAddr, d.offset.toNat, d.data.toNat⟩

namespace TableAddr

variable (a : TableAddr)

/-- `ipa_nati_get_entry_offset`. The pointers it subtracts are in one table, whichever it is. -/
def getEntryOffset (tblEntry : UInt16) : UInt32 :=
  UInt32.ofNat (tblEntry.toNat * ipaNatTableEntrySize) + a.tblAddrOffset

def getIndexEntryOffset (indxTblEntry : UInt16) : UInt32 :=
  UInt32.ofNat (indxTblEntry.toNat * ipaNatIndexTableEntrySize) + a.tblAddrOffset

/-- The command of `ipa_nati_post_ipv4_dma_cmd`. -/
def enableCmd (entry : UInt16) : DmaOne :=
  if entry < a.tableEntries then
    ⟨.ipaNatBaseTbl, UInt32.ofNat (entry.toNat * ipaNatTableEntrySize)
      + UInt32.ofNat ipaNatRuleFlagFieldOffset, UInt16.ofNat ipaNatFlagEnableBitMask⟩
  else
    ⟨.ipaNatExpnTbl, UInt32.ofNat ((entry - a.tableEntries).toNat * ipaNatTableEntrySize)
      + UInt32.ofNat ipaNatRuleFlagFieldOffset + a.tblAddrOffset,
      UInt16.ofNat ipaNatFlagEnableBitMask⟩

/-- The command of `ipa_nati_copy_ipv4_rule_to_hw` for the rule before the new one. -/
def ruleLinkCmd (prevEntry entry : UInt16) : DmaOne :=
  if prevEntry < a.tableEntries then
    ⟨.ipaNatBaseTbl, a.getEntryOffset prevEntry + UInt32.ofNat ipaNatRuleNextFieldOffset, entry⟩
  else
    ⟨.ipaNatExpnTbl, a.getEntryOffset (prevEntry - a.tableEntries)
      + UInt32.ofNat ipaNatRuleNextFieldOffset, entry⟩

/-- The command of `ipa_nati_copy_ipv4_index_rule_to_hw`, which keeps the offset in a `uint16_t`
before it passes it on. -/
def indexLinkCmd (prevEntry entry : UInt16) : DmaOne :=
  if prevEntry < a.tableEntries then
    let offset : UInt16 :=
      (a.getIndexEntryOffset prevEntry).toUInt16 + UInt16.ofNat ipaNatIndexRuleNextFieldOffset
    ⟨.ipaNatIndxTbl, offset.toUInt32, entry⟩
  else
    let offset : UInt16 := (a.getIndexEntryOffset (prevEntry - a.tableEntries)).toUInt16
      + UInt16.ofNat ipaNatIndexRuleNextFieldOffset
    ⟨.ipaNatIndexExpnTbl, offset.toUInt32, entry⟩

/-- The command of a delete for the rule before the deleted one. -/
def ruleUnlinkCmd (prevEntry data : UInt16) : DmaOne :=
  if prevEntry ≥ a.tableEntries then
    ⟨.ipaNatExpnTbl, a.getEntryOffset (prevEntry - a.tableEntries)
      + UInt32.ofNat ipaNatRuleNextFieldOffset, data⟩
  else ⟨.ipaNatBaseTbl, a.getEntryOffset prevEntry + UInt32.ofNat ipaNatRuleNextFieldOffset, data⟩

/-- The command of a delete for the index entry before the deleted one. -/
def indexUnlinkCmd (prevEntry data : UInt16) : DmaOne :=
  if prevEntry ≥ a.tableEntries then
    ⟨.ipaNatIndexExpnTbl, a.getIndexEntryOffset (prevEntry - a.tableEntries)
      + UInt32.ofNat ipaNatIndexRuleNextFieldOffset, data⟩
  else
    ⟨.ipaNatIndxTbl, a.getIndexEntryOffset prevEntry
      + UInt32.ofNat ipaNatIndexRuleNextFieldOffset, data⟩

/-- The command of `ipa_nati_post_del_dma_cmd` for the rule. -/
def delCmd (curTblEntry prevIndex nextIndex : UInt16) : DelType → DmaOne
  | .onlyOne =>
    ⟨.ipaNatBaseTbl, a.getEntryOffset curTblEntry + UInt32.ofNat ipaNatRuleFlagFieldOffset,
      UInt16.ofNat ipaNatFlagDisableBitMask⟩
  | .head =>
    ⟨.ipaNatBaseTbl, a.getEntryOffset curTblEntry + UInt32.ofNat ipaNatRuleProtoFieldOffset,
      UInt16.ofNat ipaNatInvalidProtoFieldValue⟩
  | .middle => a.ruleUnlinkCmd prevIndex nextIndex
  | .last => a.ruleUnlinkCmd prevIndex (UInt16.ofNat ipaNatInvalidNatEntry)

/-- The table that holds a rule slot, and the index of the slot within it. -/
def tableOf (entry : UInt16) : NatTableType :=
  if entry < a.tableEntries then .ipaNatBaseTbl else .ipaNatExpnTbl

def indexOf (entry : UInt16) : UInt16 :=
  if entry < a.tableEntries then entry else entry - a.tableEntries

/-- The command is for the field of the slot, counted from where the table starts. -/
def Addresses (cmd : DmaOne) (entry : UInt16) (field : Nat) : Prop :=
  cmd.baseAddr = a.tableOf entry ∧
    cmd.offset = a.tblAddrOffset + UInt32.ofNat (32 * (a.indexOf entry).toNat) + UInt32.ofNat field

/-- The command that enables the slot and those that later link, unlink or delete it address it the
same way, and a delete clears the bit that the add has set. -/
structure AddressingAgrees (entry : UInt16) : Prop where
  enable : a.Addresses (a.enableCmd entry) entry ipaNatRuleFlagFieldOffset
  link : ∀ newEntry, a.Addresses (a.ruleLinkCmd entry newEntry) entry ipaNatRuleNextFieldOffset
  middle : ∀ cur next, a.Addresses (a.delCmd cur entry next .middle) entry ipaNatRuleNextFieldOffset
  last : ∀ cur next, a.Addresses (a.delCmd cur entry next .last) entry ipaNatRuleNextFieldOffset
  onlyOne : entry < a.tableEntries → ∀ prev next,
    a.Addresses (a.delCmd entry prev next .onlyOne) entry ipaNatRuleFlagFieldOffset
  head : entry < a.tableEntries → ∀ prev next,
    a.Addresses (a.delCmd entry prev next .head) entry ipaNatRuleProtoFieldOffset
  sameBit : entry < a.tableEntries → ∀ prev next,
    (a.delCmd entry prev next .onlyOne).baseAddr = (a.enableCmd entry).baseAddr ∧
      (a.delCmd entry prev next .onlyOne).offset = (a.enableCmd entry).offset

/-- The link behind an index entry is written at its exact offset, the one at which the entry is
unlinked later. -/
structure LinkExact (prevEntry : UInt16) : Prop where
  exact : ∀ entry, (a.indexLinkCmd prevEntry entry).offset =
    a.getIndexEntryOffset (a.indexOf prevEntry) + 2
  sameOffset : ∀ entry data,
    (a.indexLinkCmd prevEntry entry).offset = (a.indexUnlinkCmd prevEntry data).offset
  sameTable : ∀ entry data,
    (a.indexLinkCmd prevEntry entry).baseAddr = (a.indexUnlinkCmd prevEntry data).baseAddr

variable {a} {entry : UInt16}

theorem getEntryOffset_field (entry : UInt16) (field : Nat) :
    a.getEntryOffset entry + UInt32.ofNat field =
      a.tblAddrOffset + UInt32.ofNat (32 * entry.toNat) + UInt32.ofNat field := by
  unfold getEntryOffset ipaNatTableEntrySize
  rw [Nat.mul_comm, UInt32.add_comm a.tblAddrOffset]

theorem addresses_base (h : entry < a.tableEntries) {cmd : DmaOne} {field : Nat}
    (htable : cmd.baseAddr = .ipaNatBaseTbl)
    (hoffset : cmd.offset = a.getEntryOffset entry + UInt32.ofNat field) :
    a.Addresses cmd entry field := by
  unfold Addresses tableOf indexOf
  rw [if_pos h, if_pos h]
  exact ⟨htable, hoffset.trans (getEntryOffset_field entry field)⟩

theorem addresses_expn (h : ¬entry < a.tableEntries) {cmd : DmaOne} {field : Nat}
    (htable : cmd.baseAddr = .ipaNatExpnTbl)
    (hoffset : cmd.offset = a.getEntryOffset (entry - a.tableEntries) + UInt32.ofNat field) :
    a.Addresses cmd entry field := by
  unfold Addresses tableOf indexOf
  rw [if_neg h, if_neg h]
  exact ⟨htable, hoffset.trans (getEntryOffset_field _ field)⟩

theorem ruleLinkCmd_addresses (entry newEntry : UInt16) :
    a.Addresses (a.ruleLinkCmd entry newEntry) entry ipaNatRuleNextFieldOffset := by
  unfold ruleLinkCmd
  by_cases h : entry < a.tableEntries
  · rw [if_pos h]
    exact addresses_base h rfl rfl
  · rw [if_neg h]
    exact addresses_expn h rfl rfl

theorem ruleUnlinkCmd_eq (prevEntry data : UInt16) :
    a.ruleUnlinkCmd prevEntry data = a.ruleLinkCmd prevEntry data := by
  grind [ruleUnlinkCmd, ruleLinkCmd]

theorem enableCmd_addresses_iff (entry : UInt16) :
    a.Addresses (a.enableCmd entry) entry ipaNatRuleFlagFieldOffset ↔
      a.tableEntries ≤ entry ∨ a.tblAddrOffset = 0 := by
  by_cases h : entry < a.tableEntries
  · have hcmd : a.enableCmd entry = ⟨.ipaNatBaseTbl, UInt32.ofNat
        (entry.toNat * ipaNatTableEntrySize) + UInt32.ofNat ipaNatRuleFlagFieldOffset,
        UInt16.ofNat ipaNatFlagEnableBitMask⟩ := if_pos h
    have hlow : ¬a.tableEntries ≤ entry := UInt16.not_le.mpr h
    rw [hcmd]
    constructor
    · rintro ⟨-, hoffset⟩
      have hindex : a.indexOf entry = entry := if_pos h
      rw [hindex, ← getEntryOffset_field] at hoffset
      have hsum := (UInt32.add_left_inj _).mp hoffset
      unfold getEntryOffset at hsum
      right
      have hzero : UInt32.ofNat (entry.toNat * ipaNatTableEntrySize) + 0 =
          UInt32.ofNat (entry.toNat * ipaNatTableEntrySize) + a.tblAddrOffset := by
        rw [UInt32.add_zero]
        exact hsum
      exact ((UInt32.add_right_inj _).mp hzero).symm
    · intro hor
      refine addresses_base h rfl ?_
      unfold getEntryOffset
      rw [hor.resolve_left hlow, UInt32.add_zero]
  · have hcmd : a.enableCmd entry = ⟨.ipaNatExpnTbl, UInt32.ofNat
        ((entry - a.tableEntries).toNat * ipaNatTableEntrySize)
        + UInt32.ofNat ipaNatRuleFlagFieldOffset + a.tblAddrOffset,
        UInt16.ofNat ipaNatFlagEnableBitMask⟩ := if_neg h
    rw [hcmd]
    refine ⟨fun _ => Or.inl (UInt16.not_lt.mp h), fun _ => addresses_expn h rfl ?_⟩
    grind [getEntryOffset, UInt32.add_assoc]

/-- All commands on a slot address it the same way exactly for the slots of the expansion table, or
if the table starts at offset 0. -/
theorem addressingAgrees_iff (a : TableAddr) (entry : UInt16) :
    a.AddressingAgrees entry ↔ a.tableEntries ≤ entry ∨ a.tblAddrOffset = 0 := by
  constructor
  · intro agrees
    exact (enableCmd_addresses_iff entry).mp agrees.enable
  · intro hor
    have henable := (enableCmd_addresses_iff entry).mpr hor
    have honlyOne : entry < a.tableEntries → ∀ prev next,
        a.Addresses (a.delCmd entry prev next .onlyOne) entry ipaNatRuleFlagFieldOffset :=
      fun h prev next => addresses_base h rfl rfl
    have hunlink : ∀ data, a.Addresses (a.ruleUnlinkCmd entry data) entry
        ipaNatRuleNextFieldOffset := by
      intro data
      rw [ruleUnlinkCmd_eq]
      exact ruleLinkCmd_addresses entry data
    refine ⟨henable, ruleLinkCmd_addresses entry, ?_, ?_, honlyOne, ?_, ?_⟩
    · exact fun cur next => hunlink next
    · exact fun cur next => hunlink _
    · exact fun h prev next => addresses_base h rfl rfl
    · intro h prev next
      obtain ⟨htable, hoffset⟩ := honlyOne h prev next
      exact ⟨htable.trans henable.1.symm, hoffset.trans henable.2.symm⟩

/-- In a table at offset 32 the first base slot is enabled at the place of the slot before it. -/
theorem enable_misses_offset :
    ¬∀ (a : TableAddr) (entry : UInt16),
      entry.toNat < a.tableEntries.toNat + a.expnTableEntries.toNat → a.AddressingAgrees entry := by
  intro h
  have agrees := h ⟨32, 16, 4⟩ 1 (by decide)
  exact absurd agrees.enable.2 (by decide)

theorem toUInt16_add_two_iff {x : UInt32} (h : x.toNat + 2 < 2 ^ 32) :
    (x.toUInt16 + UInt16.ofNat ipaNatIndexRuleNextFieldOffset).toUInt32 = x + 2 ↔
      x.toNat + 2 < 2 ^ 16 := by
  have hsum : (x + 2).toNat = x.toNat + 2 := by
    rw [UInt32.toNat_add]
    exact Nat.mod_eq_of_lt h
  have hcut : (x.toUInt16 + UInt16.ofNat ipaNatIndexRuleNextFieldOffset).toUInt32.toNat =
      (x.toNat + 2) % 2 ^ 16 := by
    simp [ipaNatIndexRuleNextFieldOffset]
  rw [← UInt32.toNat_inj, hsum, hcut]
  omega

theorem indexOf_lt {entry : UInt16}
    (h : entry.toNat < a.tableEntries.toNat + a.expnTableEntries.toNat) :
    (a.indexOf entry).toNat < a.tableEntries.toNat + a.expnTableEntries.toNat := by
  unfold indexOf
  split
  · exact h
  next hge =>
    have hle : a.tableEntries.toNat ≤ entry.toNat :=
      UInt16.le_iff_toNat_le.mp (UInt16.not_lt.mp hge)
    rw [UInt16.toNat_sub_of_le _ _ (UInt16.not_lt.mp hge)]
    omega

theorem getIndexEntryOffset_toNat {i : UInt16}
    (hi : i.toNat < a.tableEntries.toNat + a.expnTableEntries.toNat)
    (fits : a.tblAddrOffset.toNat + 4 * (a.tableEntries.toNat + a.expnTableEntries.toNat) <
      2 ^ 32) :
    (a.getIndexEntryOffset i).toNat = a.tblAddrOffset.toNat + 4 * i.toNat := by
  unfold getIndexEntryOffset ipaNatIndexTableEntrySize
  rw [UInt32.toNat_add, UInt32.toNat_ofNat']
  omega

theorem indexLinkCmd_eq (prevEntry entry : UInt16) : a.indexLinkCmd prevEntry entry =
    ⟨if prevEntry < a.tableEntries then .ipaNatIndxTbl else .ipaNatIndexExpnTbl,
      ((a.getIndexEntryOffset (a.indexOf prevEntry)).toUInt16
        + UInt16.ofNat ipaNatIndexRuleNextFieldOffset).toUInt32, entry⟩ := by
  unfold indexLinkCmd indexOf
  split <;> rfl

theorem indexUnlinkCmd_eq (prevEntry data : UInt16) : a.indexUnlinkCmd prevEntry data =
    ⟨if prevEntry < a.tableEntries then .ipaNatIndxTbl else .ipaNatIndexExpnTbl,
      a.getIndexEntryOffset (a.indexOf prevEntry) + 2, data⟩ := by
  unfold indexUnlinkCmd indexOf
  by_cases h : prevEntry < a.tableEntries
  · rw [if_neg (UInt16.not_le.mpr h), if_pos h, if_pos h]
    rfl
  · rw [if_pos (UInt16.not_lt.mp h), if_neg h, if_neg h]
    rfl

/-- In a table that fits in the device memory the link behind an index entry is written where it
belongs exactly if its offset fits in 16 bits. -/
theorem linkExact_iff (a : TableAddr) (prevEntry : UInt16)
    (inTable : prevEntry.toNat < a.tableEntries.toNat + a.expnTableEntries.toNat)
    (fits : a.tblAddrOffset.toNat + 4 * (a.tableEntries.toNat + a.expnTableEntries.toNat) <
      2 ^ 32) :
    a.LinkExact prevEntry ↔
      a.tblAddrOffset.toNat + 4 * (a.indexOf prevEntry).toNat + 2 < 2 ^ 16 := by
  have hi := indexOf_lt inTable
  have hoffset := getIndexEntryOffset_toNat hi fits
  have hroom : (a.getIndexEntryOffset (a.indexOf prevEntry)).toNat + 2 < 2 ^ 32 := by omega
  have hiff := toUInt16_add_two_iff hroom
  rw [hoffset] at hiff
  constructor
  · intro link
    have hexact := link.exact 0
    rw [indexLinkCmd_eq] at hexact
    exact hiff.mp hexact
  · intro hlt
    have hexact := hiff.mpr hlt
    refine ⟨fun entry => ?_, fun entry data => ?_, fun entry data => ?_⟩
    · rw [indexLinkCmd_eq]
      exact hexact
    · rw [indexLinkCmd_eq, indexUnlinkCmd_eq]
      exact hexact
    · rw [indexLinkCmd_eq, indexUnlinkCmd_eq]

theorem linkExact_iff_small : LinkExact ⟨0, 32768, 5000⟩ 16383 ↔ 0 + 4 * 16383 + 2 < 2 ^ 16 :=
  linkExact_iff ⟨0, 32768, 5000⟩ 16383 (by decide) (by decide)

/-- In a table for 25000 entries the link behind index entry 16384 is written into entry 0. -/
theorem link_offset_cut : ¬∀ (numberOfEntries : Nat) (a : TableAddr) (prevEntry : UInt16),
    ipaNatiAllocTable numberOfEntries = some (a.tableEntries.toNat, a.expnTableEntries.toNat) →
    a.tblAddrOffset.toNat + 4 * (a.tableEntries.toNat + a.expnTableEntries.toNat) < 2 ^ 32 →
    prevEntry ≠ 0 → prevEntry.toNat < a.tableEntries.toNat + a.expnTableEntries.toNat →
    a.LinkExact prevEntry := by
  intro h
  have link := h 25000 ⟨0, 32768, 5000⟩ 16384 (by decide) (by decide) (by decide)
    (by decide)
  exact absurd (link.exact 0) (by decide)

end TableAddr

section Model

/-- A table at offset 0, as in the table memory of the model. -/
def addrOf (c : Ip4TableCache) : TableAddr :=
  ⟨0, UInt16.ofNat c.tableEntries, UInt16.ofNat c.expnTableEntries⟩

variable {c : Ip4TableCache} {e : Nat}

theorem lt_ofNat_iff {N : Nat} (he : e < 2 ^ 16) (hN : N < 2 ^ 16) :
    UInt16.ofNat e < UInt16.ofNat N ↔ e < N := by
  rw [UInt16.lt_iff_toNat_lt, UInt16.toNat_ofNat', UInt16.toNat_ofNat']
  omega

theorem toNat_ofNat16 (he : e < 2 ^ 16) : (UInt16.ofNat e).toNat = e := by
  rw [UInt16.toNat_ofNat']
  omega

theorem sub_ofNat {N : Nat} (hN : N ≤ e) :
    UInt16.ofNat e - UInt16.ofNat N = UInt16.ofNat (e - N) :=
  (UInt16.ofNat_sub hN).symm

theorem getEntryOffset_addrOf (field : Nat) (he : e < 2 ^ 16) (hf : field < 2 ^ 16) :
    ((addrOf c).getEntryOffset (UInt16.ofNat e) + UInt32.ofNat field).toNat =
      ipaNatiGetEntryOffset e + field := by
  unfold TableAddr.getEntryOffset ipaNatiGetEntryOffset addrOf ipaNatTableEntrySize
  simp only [UInt32.toNat_add, UInt32.toNat_ofNat', UInt16.toNat_ofNat', UInt32.add_zero]
  omega

theorem getIndexEntryOffset_addrOf (he : e < 2 ^ 16) :
    ((addrOf c).getIndexEntryOffset (UInt16.ofNat e)).toNat = ipaNatiGetIndexEntryOffset e := by
  unfold TableAddr.getIndexEntryOffset ipaNatiGetIndexEntryOffset addrOf
    ipaNatIndexTableEntrySize
  simp only [UInt32.toNat_ofNat', UInt16.toNat_ofNat', UInt32.add_zero]
  omega

theorem widen_split {N : Nat} (he : e < 2 ^ 16) (hN : N < 2 ^ 16) {low high : DmaOne}
    {low' high' : NatDmaOne} (hlow : e < N → low.widen = low')
    (hhigh : N ≤ e → high.widen = high') :
    (if UInt16.ofNat e < UInt16.ofNat N then low else high).widen =
      if e < N then low' else high' := by
  by_cases h : e < N
  · rw [if_pos h, if_pos ((lt_ofNat_iff he hN).mpr h)]
    exact hlow h
  · rw [if_neg h, if_neg fun hlt => h ((lt_ofNat_iff he hN).mp hlt)]
    exact hhigh (by omega)

theorem linkRuleCmd_eq (c : Ip4TableCache) (p data : Nat) : linkRuleCmd c p data =
    if p < c.tableEntries then
      ⟨.ipaNatBaseTbl, ipaNatiGetEntryOffset p + ipaNatRuleNextFieldOffset, data⟩
    else ⟨.ipaNatExpnTbl, ipaNatiGetEntryOffset (p - c.tableEntries)
      + ipaNatRuleNextFieldOffset, data⟩ := by
  grind [linkRuleCmd]

theorem linkIndxCmd_eq (c : Ip4TableCache) (p data : Nat) : linkIndxCmd c p data =
    if p < c.tableEntries then
      ⟨.ipaNatIndxTbl, ipaNatiGetIndexEntryOffset p + ipaNatIndexRuleNextFieldOffset, data⟩
    else ⟨.ipaNatIndexExpnTbl, ipaNatiGetIndexEntryOffset (p - c.tableEntries)
      + ipaNatIndexRuleNextFieldOffset, data⟩ := by
  grind [linkIndxCmd]

theorem ruleLinkCmd_addrOf {data : Nat} (hN : c.tableEntries < 2 ^ 16) (he : e < 2 ^ 16)
    (hd : data < 2 ^ 16) :
    ((addrOf c).ruleLinkCmd (UInt16.ofNat e) (UInt16.ofNat data)).widen =
      linkRuleCmd c e data := by
  rw [linkRuleCmd_eq]
  refine widen_split he hN (fun _ => ?_) fun hge => ?_
  · unfold DmaOne.widen
    dsimp only
    rw [getEntryOffset_addrOf _ he (by decide), toNat_ofNat16 hd]
  · have hsub : UInt16.ofNat e - (addrOf c).tableEntries = UInt16.ofNat (e - c.tableEntries) :=
      sub_ofNat hge
    unfold DmaOne.widen
    dsimp only
    rw [hsub, getEntryOffset_addrOf _ (by omega) (by decide), toNat_ofNat16 hd]

theorem indexUnlinkCmd_addrOf {data : Nat} (hN : c.tableEntries < 2 ^ 16) (he : e < 2 ^ 16)
    (hd : data < 2 ^ 16) :
    ((addrOf c).indexUnlinkCmd (UInt16.ofNat e) (UInt16.ofNat data)).widen =
      linkIndxCmd c e data := by
  have hfield : ∀ i < 2 ^ 16, ((addrOf c).getIndexEntryOffset (UInt16.ofNat i) + 2).toNat =
      ipaNatiGetIndexEntryOffset i + ipaNatIndexRuleNextFieldOffset := by
    intro i hi
    rw [UInt32.toNat_add, getIndexEntryOffset_addrOf hi]
    unfold ipaNatiGetIndexEntryOffset ipaNatIndexTableEntrySize ipaNatIndexRuleNextFieldOffset
    simp only [UInt32.reduceToNat]
    omega
  rw [linkIndxCmd_eq, TableAddr.indexUnlinkCmd_eq]
  unfold DmaOne.widen TableAddr.indexOf
  dsimp only
  rw [toNat_ofNat16 hd]
  by_cases h : e < c.tableEntries
  · have hlt : UInt16.ofNat e < (addrOf c).tableEntries := (lt_ofNat_iff he hN).mpr h
    rw [if_pos hlt, if_pos hlt, if_pos h, hfield e he]
  · have hge : ¬UInt16.ofNat e < (addrOf c).tableEntries :=
      fun hlt => h ((lt_ofNat_iff he hN).mp hlt)
    have hsub : UInt16.ofNat e - (addrOf c).tableEntries = UInt16.ofNat (e - c.tableEntries) :=
      sub_ofNat (by omega)
    rw [if_neg hge, if_neg hge, if_neg h, hsub, hfield _ (by omega)]

/-- The command that enables a rule. -/
theorem ipaNatiPostIpv4DmaCmd_addrOf (ok : Bool) (m : NatMem) (hN : m.cache.tableEntries < 2 ^ 16)
    (he : e < 2 ^ 16) :
    ipaNatiPostIpv4DmaCmd ok m e =
      ((if (ioctlNatDma ok m [((addrOf m.cache).enableCmd (UInt16.ofNat e)).widen]).1 ≠ 0 then eio
        else 0), (ioctlNatDma ok m [((addrOf m.cache).enableCmd (UInt16.ofNat e)).widen]).2) := by
  have hoffset : ∀ i < 2 ^ 16, (UInt32.ofNat ((UInt16.ofNat i).toNat * ipaNatTableEntrySize)
      + UInt32.ofNat ipaNatRuleFlagFieldOffset).toNat =
        ipaNatiGetEntryOffset i + ipaNatRuleFlagFieldOffset := by
    intro i hi
    have hfield := getEntryOffset_addrOf (c := m.cache) ipaNatRuleFlagFieldOffset hi (by decide)
    unfold TableAddr.getEntryOffset addrOf at hfield
    rwa [UInt32.add_zero] at hfield
  have hcmd : ((addrOf m.cache).enableCmd (UInt16.ofNat e)).widen =
      if e < m.cache.tableEntries then
        ⟨.ipaNatBaseTbl, ipaNatiGetEntryOffset e + ipaNatRuleFlagFieldOffset,
          ipaNatFlagEnableBitMask⟩
      else ⟨.ipaNatExpnTbl, ipaNatiGetEntryOffset (e - m.cache.tableEntries)
        + ipaNatRuleFlagFieldOffset, ipaNatFlagEnableBitMask⟩ := by
    refine widen_split he hN (fun _ => ?_) fun hge => ?_
    · unfold DmaOne.widen
      dsimp only
      rw [hoffset e he, toNat_ofNat16 (by decide)]
    · have hsub : UInt16.ofNat e - (addrOf m.cache).tableEntries =
          UInt16.ofNat (e - m.cache.tableEntries) := sub_ofNat hge
      have hzero : (addrOf m.cache).tblAddrOffset = 0 := rfl
      unfold DmaOne.widen
      dsimp only
      rw [hsub, hzero, UInt32.add_zero, hoffset _ (by omega), toNat_ofNat16 (by decide)]
  rw [hcmd]
  rfl

end Model

end DeviceHal.IpaNat
