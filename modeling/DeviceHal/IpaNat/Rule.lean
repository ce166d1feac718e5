import Mathlib.Data.Nat.Bitwise
import DeviceHal.Lib.OnesComplement

namespace DeviceHal.IpaNat

/-- `ipa_nat_ipv4_rule`: the connection a client asks the driver to translate. -/
structure IpaNatIpv4Rule where
  targetIp : UInt32
  privateIp : UInt32
  targetPort : UInt16
  privatePort : UInt16
  publicPort : UInt16
  protocol : UInt8
  pdnIndex : UInt8
deriving DecidableEq, Repr

/-- One 32 byte entry of the base or expansion table (`ipa_nat_sw_rule`; `ipa_nat_rule` is the
same layout with the fields packed). Slot numbers and bit fields are natural numbers. -/
structure IpaNatRule where
  privateIp : UInt32 := 0
  targetIp : UInt32 := 0
  nextIndex : Nat := 0
  publicPort : UInt16 := 0
  privatePort : UInt16 := 0
  targetPort : UInt16 := 0
  ipChksum : UInt16 := 0
  rsvd1 : Nat := 0
  redirect : Bool := false
  enable : Bool := false
  timeStamp : Nat := 0
  protocol : UInt8 := 0
  prevIndex : Nat := 0
  indxTblEntry : Nat := 0
  rsvd2 : Nat := 0
  rsvd3 : Nat := 0
  pdnIndex : UInt8 := 0
  tcpUdpChksum : UInt16 := 0
deriving DecidableEq, Repr

/-- One 4 byte entry of the index tables (`ipa_nat_sw_indx_tbl_rule`). -/
structure IpaNatIndxTblRule where
  tblEntry : Nat := 0
  nextIndex : Nat := 0
deriving DecidableEq, Repr

/-- `ipa_nat_indx_tbl_sw_rule`: an index entry with the entry it is to be linked behind. -/
structure IpaNatIndxTblSwRule where
  tblEntry : Nat := 0
  nextIndex : Nat := 0
  prevIndex : Nat := 0
deriving DecidableEq, Repr

/-- `nat_table_type`, the base address a DMA command is relative to. -/
inductive NatTableType where
  | ipaNatBaseTbl
  | ipaNatExpnTbl
  | ipaNatIndxTbl
  | ipaNatIndexExpnTbl
deriving DecidableEq, Repr

/-- `del_type`: where in its chain an entry stands. -/
inductive DelType where
  | onlyOne
  | head
  | middle
  | last
deriving DecidableEq, Repr

def ipaNatRuleFlagFieldOffset : Nat := 18
def ipaNatRuleNextFieldOffset : Nat := 8
def ipaNatRuleProtoFieldOffset : Nat := 22
def ipaNatIndexRuleNextFieldOffset : Nat := 2
def ipaNatIndexRuleNatIndexFieldOffset : Nat := 0
def ipaNatTableEntrySize : Nat := 32
def ipaNatIndexTableEntrySize : Nat := 4
def ipaNatFlagEnableBitMask : Nat := 0x8000
def ipaNatFlagDisableBitMask : Nat := 0x0000
def ipaNatInvalidProtoFieldValue : Nat := 0xFF00
def ipaNatInvalidProtoFieldCmp : UInt8 := 0xFF
def ipaNatInvalidNatEntry : Nat := 0

def ipprotoTcp : UInt8 := 6
def ipprotoUdp : UInt8 := 17

/-- The 16 bits at byte `off` of a rule overwritten: the next index, the flags (14 reserved
bits, redirect, enable) or the top byte of the time stamp with the protocol. -/
def IpaNatRule.write16 (r : IpaNatRule) (off data : Nat) : IpaNatRule :=
  if off = ipaNatRuleNextFieldOffset then { r with nextIndex := data }
  else if off = ipaNatRuleFlagFieldOffset then
    { r with rsvd1 := data % 2 ^ 14, redirect := data.testBit 14, enable := data.testBit 15 }
  else if off = ipaNatRuleProtoFieldOffset then
    { r with
      timeStamp := r.timeStamp % 2 ^ 16 + data % 2 ^ 8 * 2 ^ 16
      protocol := UInt8.ofNat (data / 2 ^ 8) }
  else r

def IpaNatIndxTblRule.write16 (e : IpaNatIndxTblRule) (off data : Nat) : IpaNatIndxTblRule :=
  if off = ipaNatIndexRuleNatIndexFieldOffset then { e with tblEntry := data }
  else if off = ipaNatIndexRuleNextFieldOffset then { e with nextIndex := data }
  else e

@[simp] theorem IpaNatRule.write16_enable (r : IpaNatRule) :
    r.write16 ipaNatRuleFlagFieldOffset ipaNatFlagEnableBitMask =
      { r with rsvd1 := 0, redirect := false, enable := true } := by
  simp [write16, ipaNatRuleFlagFieldOffset, ipaNatRuleNextFieldOffset, ipaNatFlagEnableBitMask]
  decide

@[simp] theorem IpaNatRule.write16_disable (r : IpaNatRule) :
    r.write16 ipaNatRuleFlagFieldOffset ipaNatFlagDisableBitMask =
      { r with rsvd1 := 0, redirect := false, enable := false } := by
  simp [write16, ipaNatRuleFlagFieldOffset, ipaNatRuleNextFieldOffset, ipaNatFlagDisableBitMask]

@[simp] theorem IpaNatRule.write16_proto (r : IpaNatRule) :
    r.write16 ipaNatRuleProtoFieldOffset ipaNatInvalidProtoFieldValue =
      { r with timeStamp := r.timeStamp % 2 ^ 16, protocol := ipaNatInvalidProtoFieldCmp } := by
  simp [write16, ipaNatRuleFlagFieldOffset, ipaNatRuleNextFieldOffset, ipaNatRuleProtoFieldOffset,
    ipaNatInvalidProtoFieldValue, ipaNatInvalidProtoFieldCmp]

/-- What the driver keeps beside the tables: whether the hardware is version 4.0 or later, and
the public addresses of the packet data networks. -/
structure NatEnv where
  verGeV4 : Bool
  ipaMaxPdnNum : Nat
  pdns : Nat → UInt32

/-- The two 16 bit halves of an address folded together. -/
def fold16 (ip : UInt32) : UInt16 := ip.toUInt16 ^^^ (ip >>> 16).toUInt16

/-- The common end of both hashes. Slot 0 stands for "no entry", so it is never a hash. -/
def maskSlot (hash size : UInt16) : UInt16 :=
  let hash := hash &&& size
  if hash = 0 then size else hash

def dstHash (env : NatEnv) (publicIp trgtIp : UInt32) (trgtPort publicPort : UInt16)
    (proto : UInt8) (size : UInt16) : UInt16 :=
  let hash := fold16 trgtIp ^^^ trgtPort ^^^ publicPort ^^^ proto.toUInt16
  let hash := if env.verGeV4 then hash ^^^ fold16 publicIp else hash
  maskSlot hash size

def srcHash (privIp : UInt32) (privPort : UInt16) (trgtIp : UInt32) (trgtPort : UInt16)
    (proto : UInt8) (size : UInt16) : UInt16 :=
  let hash := fold16 privIp ^^^ privPort ^^^ fold16 trgtIp ^^^ trgtPort ^^^ proto.toUInt16
  maskSlot hash size

/-- `size`, the slot number mask a table of `tableEntries` entries is hashed with. -/
def hashSize (tableEntries : Nat) : UInt16 := UInt16.ofNat (tableEntries - 1)

/-- The base slot the rule of a client hashes to. -/
def dstBucket (env : NatEnv) (tableEntries : Nat) (r : IpaNatIpv4Rule) : Nat :=
  (dstHash env (env.pdns r.pdnIndex.toNat) r.targetIp r.targetPort r.publicPort r.protocol
    (hashSize tableEntries)).toNat

/-- The index slot the rule of a client hashes to. -/
def srcBucket (tableEntries : Nat) (r : IpaNatIpv4Rule) : Nat :=
  (srcHash r.privateIp r.privatePort r.targetIp r.targetPort r.protocol
    (hashSize tableEntries)).toNat

/-- One's complement addition of a 16 bit word with the carry folded back. -/
def addCarry (cksum word : UInt32) : UInt32 :=
  let cksum := cksum + word
  if cksum >>> 16 ≠ 0 then (cksum &&& 0xFFFF) + 1 else cksum

def ipaNatiCalcIpCksum (pubIpAddr privIpAddr : UInt32) : UInt16 :=
  let cksum := addCarry (pubIpAddr &&& 0xFFFF) (pubIpAddr >>> 16)
  let priv := ~~~privIpAddr
  (addCarry (addCarry cksum (priv &&& 0xFFFF)) (priv >>> 16)).toUInt16

def ipaNatiCalcTcpUdpCksum (pubIpAddr : UInt32) (pubPort : UInt16) (privIpAddr : UInt32)
    (privPort : UInt16) : UInt16 :=
  let cksum := addCarry (addCarry (pubIpAddr &&& 0xFFFF) (pubIpAddr >>> 16)) pubPort.toUInt32
  let priv := ~~~privIpAddr
  let cksum := addCarry (addCarry cksum (priv &&& 0xFFFF)) (priv >>> 16)
  (addCarry cksum (~~~privPort).toUInt32).toUInt16

theorem maskSlot_bound (hash : UInt16) {size : UInt16} (h : 0 < size.toNat) :
    0 < (maskSlot hash size).toNat ∧ (maskSlot hash size).toNat ≤ size.toNat := by
  by_cases hz : hash &&& size = 0
  · simpa [maskSlot, hz] using h
  · have hm : maskSlot hash size = hash &&& size := by simp [maskSlot, hz]
    rw [hm]
    refine ⟨Nat.pos_of_ne_zero fun he => hz (UInt16.toNat_inj.mp he), ?_⟩
    rw [UInt16.toNat_and]
    exact Nat.and_le_right

variable {tableEntries : Nat}

theorem hashSize_toNat (h : tableEntries ≤ 2 ^ 15) :
    (hashSize tableEntries).toNat = tableEntries - 1 := by
  simp only [hashSize, UInt16.toNat_ofNat']
  omega

theorem dstBucket_bound (env : NatEnv) (low : 2 ≤ tableEntries)
    (high : tableEntries ≤ 2 ^ 15) (r : IpaNatIpv4Rule) :
    0 < dstBucket env tableEntries r ∧ dstBucket env tableEntries r < tableEntries := by
  have hs := hashSize_toNat high
  have hpos : 0 < (hashSize tableEntries).toNat := by omega
  exact ⟨(maskSlot_bound _ hpos).1, Nat.lt_of_le_of_lt (maskSlot_bound _ hpos).2 (by omega)⟩

theorem srcBucket_bound (low : 2 ≤ tableEntries)
    (high : tableEntries ≤ 2 ^ 15) (r : IpaNatIpv4Rule) :
    0 < srcBucket tableEntries r ∧ srcBucket tableEntries r < tableEntries := by
  have hs := hashSize_toNat high
  have hpos : 0 < (hashSize tableEntries).toNat := by omega
  exact ⟨(maskSlot_bound _ hpos).1, Nat.lt_of_le_of_lt (maskSlot_bound _ hpos).2 (by omega)⟩

open Lib

def addrWords (ip : UInt32) : List UInt16 := [ip.toUInt16, (ip >>> 16).toUInt16]

theorem addCarry_fold {cksum word : UInt32} (hc : cksum.toNat < 2 ^ 16) (hw : word.toNat < 2 ^ 16) :
    (addCarry cksum word).toNat = foldCarries (cksum.toNat + word.toNat) ∧
      (addCarry cksum word).toNat < 2 ^ 16 := by
  have hsum : (cksum + word).toNat = cksum.toNat + word.toNat := by
    rw [UInt32.toNat_add]
    exact Nat.mod_eq_of_lt (by omega)
  have hshift : ((cksum + word) >>> 16).toNat = (cksum.toNat + word.toNat) / 2 ^ 16 := by
    rw [UInt32.toNat_shiftRight, hsum]
    exact Nat.shiftRight_eq_div_pow _ _
  have hlow : ((cksum + word) &&& 0xFFFF).toNat = (cksum.toNat + word.toNat) % 2 ^ 16 := by
    rw [UInt32.toNat_and, hsum]
    exact Nat.and_two_pow_sub_one_eq_mod _ 16
  unfold addCarry
  dsimp only
  by_cases hcarry : (cksum + word) >>> 16 = 0
  · rw [if_neg (by simpa using hcarry)]
    have hzero : (cksum.toNat + word.toNat) / 2 ^ 16 = 0 := by
      rw [← hshift, hcarry]
      rfl
    rw [hsum, foldCarries_of_lt (by omega)]
    exact ⟨rfl, by omega⟩
  · rw [if_pos hcarry]
    have hne : (cksum.toNat + word.toNat) / 2 ^ 16 ≠ 0 := by
      rw [← hshift]
      exact fun hz => hcarry (UInt32.toNat_inj.mp hz)
    have hone : (((cksum + word) &&& 0xFFFF) + 1).toNat =
        (cksum.toNat + word.toNat) % 2 ^ 16 + (cksum.toNat + word.toNat) / 2 ^ 16 := by
      rw [UInt32.toNat_add, hlow]
      have h1 : (1 : UInt32).toNat = 1 := rfl
      rw [h1]
      omega
    grind [foldCarries]

/-- The checksum so far is the folded sum of the words added so far. -/
structure Sums (cksum : UInt32) (total : Nat) : Prop where
  eq : cksum.toNat = foldCarries total

variable {cksum : UInt32}

variable {total : Nat}

theorem Sums.lt (h : Sums cksum total) : cksum.toNat < 2 ^ 16 := by
  rw [h.eq]
  exact (foldCarries_spec total).1

theorem Sums.addCarry (h : Sums cksum total) (word : UInt32)
    (hw : word.toNat < 2 ^ 16) : Sums (addCarry cksum word) (total + word.toNat) := by
  refine ⟨(addCarry_fold h.lt hw).1.trans ?_⟩
  rw [h.eq, foldCarries_foldCarries_add]

theorem Sums.toUInt16 (h : Sums cksum total) : cksum.toUInt16.toNat = foldCarries total := by
  rw [UInt32.toNat_toUInt16, ← h.eq]
  exact Nat.mod_eq_of_lt h.lt

theorem low_toNat (ip : UInt32) : (ip &&& 0xFFFF).toNat = ip.toUInt16.toNat := by
  rw [UInt32.toNat_and, UInt32.toNat_toUInt16]
  exact Nat.and_two_pow_sub_one_eq_mod _ 16

theorem high_toNat (ip : UInt32) : (ip >>> 16).toNat = (ip >>> 16).toUInt16.toNat := by
  have hshift : (ip >>> 16).toNat = ip.toNat / 2 ^ 16 := by
    rw [UInt32.toNat_shiftRight]
    exact Nat.shiftRight_eq_div_pow _ _
  have := ip.toNat_lt
  rw [UInt32.toNat_toUInt16, hshift]
  omega

theorem addrWords_complement (ip : UInt32) : addrWords (~~~ip) = complements (addrWords ip) := by
  have hnot : (~~~ip).toNat = 2 ^ 32 - 1 - ip.toNat := by
    rw [UInt32.toNat_not]
    rfl
  have hip := ip.toNat_lt
  have hlow : (~~~ip).toUInt16 = ~~~ip.toUInt16 := by
    have hc := toNat_complement ip.toUInt16
    refine UInt16.toNat_inj.mp ?_
    rw [UInt32.toNat_toUInt16] at hc
    rw [UInt32.toNat_toUInt16, hnot]
    omega
  have hhigh : (~~~ip >>> 16).toUInt16 = ~~~(ip >>> 16).toUInt16 := by
    have hc := toNat_complement (ip >>> 16).toUInt16
    have hs : ((~~~ip) >>> 16).toNat = (~~~ip).toNat / 2 ^ 16 := by
      rw [UInt32.toNat_shiftRight]
      exact Nat.shiftRight_eq_div_pow _ _
    have hs' : (ip >>> 16).toNat = ip.toNat / 2 ^ 16 := by
      rw [UInt32.toNat_shiftRight]
      exact Nat.shiftRight_eq_div_pow _ _
    refine UInt16.toNat_inj.mp ?_
    rw [← high_toNat, hs'] at hc
    rw [← high_toNat, hs, hnot]
    omega
  unfold addrWords
  rw [hlow, hhigh]
  rfl

theorem Sums.addAddr (h : Sums cksum total) (ip : UInt32) :
    Sums (IpaNat.addCarry (IpaNat.addCarry cksum (ip &&& 0xFFFF)) (ip >>> 16))
      (total + wordSum (addrWords ip)) := by
  have hlow := low_toNat ip
  have hhigh := high_toNat ip
  have hl := (ip.toUInt16).toNat_lt
  have hh := ((ip >>> 16).toUInt16).toNat_lt
  have hsum := (h.addCarry (ip &&& 0xFFFF) (by omega)).addCarry (ip >>> 16) (by omega)
  have htotal : total + wordSum (addrWords ip) =
      total + (ip &&& 0xFFFF).toNat + (ip >>> 16).toNat := by
    simp only [addrWords, wordSum, List.map_cons, List.map_nil, List.sum_cons, List.sum_nil]
    omega
  rw [htotal]
  exact hsum

theorem sums_pub (pubIpAddr : UInt32) :
    Sums (addCarry (pubIpAddr &&& 0xFFFF) (pubIpAddr >>> 16)) (wordSum (addrWords pubIpAddr)) := by
  have hlow := low_toNat pubIpAddr
  have hhigh := high_toNat pubIpAddr
  have hl := (pubIpAddr.toUInt16).toNat_lt
  have hh := ((pubIpAddr >>> 16).toUInt16).toNat_lt
  have hfirst : Sums (pubIpAddr &&& 0xFFFF) (pubIpAddr &&& 0xFFFF).toNat :=
    ⟨(foldCarries_of_lt (by omega)).symm⟩
  have hsum := hfirst.addCarry (pubIpAddr >>> 16) (by omega)
  have htotal : wordSum (addrWords pubIpAddr) =
      (pubIpAddr &&& 0xFFFF).toNat + (pubIpAddr >>> 16).toNat := by
    simp only [addrWords, wordSum, List.map_cons, List.map_nil, List.sum_cons, List.sum_nil]
    omega
  rw [htotal]
  exact hsum

theorem ipCksum_eq (pubIpAddr privIpAddr : UInt32) :
    (ipaNatiCalcIpCksum pubIpAddr privIpAddr).toNat =
      foldCarries (wordSum (addrWords pubIpAddr ++ complements (addrWords privIpAddr))) := by
  have hsum := ((sums_pub pubIpAddr).addAddr (~~~privIpAddr)).toUInt16
  rw [wordSum_append, ← addrWords_complement]
  exact hsum

theorem tcpUdpCksum_eq (pubIpAddr : UInt32) (pubPort : UInt16) (privIpAddr : UInt32)
    (privPort : UInt16) :
    (ipaNatiCalcTcpUdpCksum pubIpAddr pubPort privIpAddr privPort).toNat =
      foldCarries (wordSum (addrWords pubIpAddr ++ [pubPort] ++
        complements (addrWords privIpAddr ++ [privPort]))) := by
  have hport := pubPort.toNat_lt
  have hpriv := (~~~privPort).toNat_lt
  have hpub := (sums_pub pubIpAddr).addCarry pubPort.toUInt32 (by rwa [UInt16.toNat_toUInt32])
  have hall := ((hpub.addAddr (~~~privIpAddr)).addCarry (~~~privPort).toUInt32
    (by rwa [UInt16.toNat_toUInt32])).toUInt16
  have htotal : wordSum (addrWords pubIpAddr ++ [pubPort] ++
      complements (addrWords privIpAddr ++ [privPort])) =
        wordSum (addrWords pubIpAddr) + pubPort.toUInt32.toNat +
          wordSum (addrWords (~~~privIpAddr)) + (~~~privPort).toUInt32.toNat := by
    rw [addrWords_complement, UInt16.toNat_toUInt32, UInt16.toNat_toUInt32]
    unfold complements
    rw [List.map_append, wordSum_append, wordSum_append, wordSum_append]
    simp only [wordSum, List.map_cons, List.map_nil, List.sum_cons, List.sum_nil]
    omega
  rw [htotal]
  exact hall

/-- The two checksums are folded sums of the public words and the complements of the private ones,
no addition of them loses a carry, and added to the sum of a packet they give its sum with the
public words in place of the private ones. -/
structure CksumDeltas : Prop where
  noLostCarry : ∀ cksum word : UInt32, cksum.toNat < 2 ^ 16 → word.toNat < 2 ^ 16 →
    (addCarry cksum word).toNat = foldCarries (cksum.toNat + word.toNat) ∧
      (addCarry cksum word).toNat < 2 ^ 16
  ip : ∀ pubIpAddr privIpAddr, (ipaNatiCalcIpCksum pubIpAddr privIpAddr).toNat =
    foldCarries (wordSum (addrWords pubIpAddr ++ complements (addrWords privIpAddr)))
  tcpUdp : ∀ pubIpAddr pubPort privIpAddr privPort,
    (ipaNatiCalcTcpUdpCksum pubIpAddr pubPort privIpAddr privPort).toNat =
      foldCarries (wordSum (addrWords pubIpAddr ++ [pubPort] ++
        complements (addrWords privIpAddr ++ [privPort])))
  ipPacket : ∀ pubIpAddr privIpAddr packet positions, positions.Nodup →
    HoldsWords packet positions (addrWords privIpAddr) →
      foldCarries (foldCarries (wordSum packet) +
        (ipaNatiCalcIpCksum pubIpAddr privIpAddr).toNat) ≡
          foldCarries (wordSum (writeWords packet positions (addrWords pubIpAddr))) [MOD 65535]
  tcpUdpPacket : ∀ pubIpAddr pubPort privIpAddr privPort packet positions, positions.Nodup →
    HoldsWords packet positions (addrWords privIpAddr ++ [privPort]) →
      foldCarries (foldCarries (wordSum packet) +
        (ipaNatiCalcTcpUdpCksum pubIpAddr pubPort privIpAddr privPort).toNat) ≡
          foldCarries (wordSum (writeWords packet positions (addrWords pubIpAddr ++ [pubPort])))
            [MOD 65535]

theorem cksumDeltas : CksumDeltas where
  noLostCarry := fun _ _ hc hw => addCarry_fold hc hw
  ip := ipCksum_eq
  tcpUdp := tcpUdpCksum_eq
  ipPacket := by
    intro pubIpAddr privIpAddr packet positions nodup holds
    have hlen : (addrWords pubIpAddr).length = positions.length := holds.length_eq.symm
    exact foldCarries_add_delta nodup holds hlen (ipCksum_eq pubIpAddr privIpAddr)
  tcpUdpPacket := by
    intro pubIpAddr pubPort privIpAddr privPort packet positions nodup holds
    have hlen : (addrWords pubIpAddr ++ [pubPort]).length = positions.length :=
      holds.length_eq.symm
    exact foldCarries_add_delta nodup holds hlen (tcpUdpCksum_eq _ _ _ _)

example : ipaNatiCalcIpCksum 0x0A000001 0xC0A80002 = 0x4956 := by decide

end DeviceHal.IpaNat
