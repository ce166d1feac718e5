import DeviceHal.Ipacm.OffloadManager
import Mathlib.Data.List.Forall2
import Mathlib.Tactic.SplitIfs

namespace DeviceHal.Ipacm

abbrev ipaIpfltrNumMeq32Eqns : Nat := 2

abbrev ipaIpfltrNumMeq128Eqns : Nat := 2

/-- A masked comparison of a part of the packet, 32 or 128 bits wide. -/
structure OffsetMeq (α : Type) where
  offset : Int8
  mask : α
  value : α
deriving DecidableEq

abbrev Words := Vector UInt32 4

/-- `ipa_ipfltri_rule_eq`, with the equations that are only copied as `others`. -/
structure FltRuleEq (Others : Type) where
  ruleEqBitmap : UInt16
  numOffsetMeq32 : Nat
  offsetMeq32 : Vector (OffsetMeq UInt32) ipaIpfltrNumMeq32Eqns
  numOffsetMeq128 : Nat
  offsetMeq128 : Vector (OffsetMeq Words) ipaIpfltrNumMeq128Eqns
  metadataMeq32Present : Bool
  metadataMeq32 : OffsetMeq UInt32
  others : Others
deriving DecidableEq

/-- A property of the modem. -/
structure ExtProp (Others : Type) where
  eqAttrib : FltRuleEq Others
  rtTblIdx : UInt32
  isXlatRule : Bool
  isRuleHashable : UInt8
  ruleId : UInt16
deriving DecidableEq

inductive FltAction where
  | passToRouting
  | passToSrcNat
deriving DecidableEq

/-- What differs between the rules of one request. -/
structure UplinkFltRule (Others : Type) where
  action : FltAction
  eqAttrib : FltRuleEq Others
  rtTblIdx : UInt32
  hashable : UInt8
  ruleId : UInt16
deriving DecidableEq

structure OffloadPrefix where
  v4Addr : UInt32
  v4Mask : UInt32
  v6Addr : Words
  v6Mask : Words

/-- The attributes of the first rx property. The meta data and their mask are there if the attributes
have `IPA_FLT_META_DATA`. -/
structure RxProp where
  metaData : Option (UInt32 × UInt32)

/-- What an uplink request meets, and which of its calls succeed. `bridged` is set for an ODU while
the WAN is in bridge mode. -/
structure UplinkEnv where
  featureIpaV3 : Bool
  rxProp : Option RxProp
  prefixes : IpaIpType → OffloadPrefix
  maxWanUlFilterRules : Nat
  bridged : Bool
  opened : Bool
  sourcePipe : Bool
  embeddedPipe : Bool
  malloc : Bool
  sendFilteringRuleIndex : Bool
  addFilteringRule : Bool

/-- The meta data that all rules compare, which only newer hardware does. -/
def UplinkEnv.metaData (env : UplinkEnv) : Option (UInt32 × UInt32) :=
  if env.featureIpaV3 then env.rxProp.bind (·.metaData) else none

variable {Others : Type}

namespace FltRuleEq

def withXlat (xlatMuxId : UInt8) (e : FltRuleEq Others) : FltRuleEq Others :=
  { e with
    metadataMeq32Present := true
    metadataMeq32 := ⟨0, 0x00FF0000, xlatMuxId.toUInt32 <<< 16⟩ }

def slotBit32 (featureIpaV3 : Bool) (eqIndex : Nat) : UInt16 :=
  (1 : UInt16) <<< if eqIndex = 0 then (if featureIpaV3 then 5 else 2) else if featureIpaV3 then 6 else 3

def slotBit128 (featureIpaV3 : Bool) (eqIndex : Nat) : UInt16 :=
  (1 : UInt16) <<< if eqIndex = 0 then (if featureIpaV3 then 3 else 9) else if featureIpaV3 then 4 else 10

def prefixEq32 (p : OffloadPrefix) : OffsetMeq UInt32 := ⟨12, p.v4Mask, p.v4Addr⟩

/-- Newer hardware takes the words in the other order. -/
def prefixEq128 (featureIpaV3 : Bool) (p : OffloadPrefix) : OffsetMeq Words :=
  if featureIpaV3 then ⟨8, p.v6Mask.reverse, p.v6Addr.reverse⟩ else ⟨8, p.v6Mask, p.v6Addr⟩

/-- The part under `FEATURE_IPACM_HAL`. -/
def withPrefix (env : UplinkEnv) (iptype : IpaIpType) (e : FltRuleEq Others) : FltRuleEq Others :=
  if iptype = .v4 ∧ e.numOffsetMeq32 < ipaIpfltrNumMeq32Eqns then
    { e with
      numOffsetMeq32 := e.numOffsetMeq32 + 1
      ruleEqBitmap := e.ruleEqBitmap ||| slotBit32 env.featureIpaV3 e.numOffsetMeq32
      offsetMeq32 := e.offsetMeq32.setIfInBounds e.numOffsetMeq32 (prefixEq32 (env.prefixes .v4)) }
  else if e.numOffsetMeq32 > ipaIpfltrNumMeq32Eqns then
    { e with numOffsetMeq32 := e.numOffsetMeq32 - 1 }
  else if e.numOffsetMeq128 < ipaIpfltrNumMeq128Eqns then
    { e with
      numOffsetMeq128 := e.numOffsetMeq128 + 1
      ruleEqBitmap := e.ruleEqBitmap ||| slotBit128 env.featureIpaV3 e.numOffsetMeq128
      offsetMeq128 := e.offsetMeq128.setIfInBounds e.numOffsetMeq128
        (prefixEq128 env.featureIpaV3 (env.prefixes .v6)) }
  else
    { e with numOffsetMeq128 := e.numOffsetMeq128 - 1 }

def withMetaData (env : UplinkEnv) (e : FltRuleEq Others) : FltRuleEq Others :=
  match env.metaData with
  | some (metaData, metaDataMask) =>
    { e with
      ruleEqBitmap := e.ruleEqBitmap ||| (1 : UInt16) <<< 9
      metadataMeq32Present := true
      metadataMeq32 := ⟨0, e.metadataMeq32.mask ||| metaDataMask, e.metadataMeq32.value ||| metaData⟩ }
  | none => e

def eqns32 (e : FltRuleEq Others) : List (OffsetMeq UInt32) :=
  e.offsetMeq32.toList.take e.numOffsetMeq32

def eqns128 (e : FltRuleEq Others) : List (OffsetMeq Words) :=
  e.offsetMeq128.toList.take e.numOffsetMeq128

end FltRuleEq

def ExtProp.xlatEq (iptype : IpaIpType) (xlatMuxId : UInt8) (p : ExtProp Others) : FltRuleEq Others :=
  if iptype = .v4 ∧ p.isXlatRule = true ∧ xlatMuxId ≠ 0 then p.eqAttrib.withXlat xlatMuxId
  else p.eqAttrib

def uplinkFltRule (env : UplinkEnv) (iptype : IpaIpType) (xlatMuxId : UInt8)
    (p : ExtProp Others) : UplinkFltRule Others where
  action :=
    match iptype with
    | .v4 => if env.bridged then .passToRouting else .passToSrcNat
    | .v6 => .passToRouting
  eqAttrib := ((p.xlatEq iptype xlatMuxId).withPrefix env iptype).withMetaData env
  rtTblIdx := p.rtTblIdx
  -- Only newer hardware has these fields.
  hashable := if env.featureIpaV3 then p.isRuleHashable else 0
  ruleId := if env.featureIpaV3 then p.ruleId else 0

/-- `handle_uplink_filter_rule`: the result and the rules that are installed, in the order of the
properties. -/
def handleUplinkFilterRule (env : UplinkEnv) (props : List (ExtProp Others)) (iptype : IpaIpType)
    (xlatMuxId : UInt8) : Bool × List (UplinkFltRule Others) :=
  if env.rxProp.isNone ∨ props = [] then (true, [])
  else if ¬env.opened ∨ props.length > env.maxWanUlFilterRules then (false, [])
  else if ¬env.sourcePipe ∨ ¬env.embeddedPipe ∨ ¬env.malloc then (false, [])
  else if ¬env.sendFilteringRuleIndex ∨ ¬env.addFilteringRule then (false, [])
  else (true, props.map (uplinkFltRule env iptype xlatMuxId))

def UplinkEnv.Installs (env : UplinkEnv) (props : List (ExtProp Others)) : Prop :=
  env.rxProp.isSome ∧ env.opened ∧ props.length ≤ env.maxWanUlFilterRules ∧ env.sourcePipe ∧
    env.embeddedPipe ∧ env.malloc ∧ env.sendFilteringRuleIndex ∧ env.addFilteringRule

/-- The rule compares what the property does, the meta data and the prefix of its family. -/
structure RestrictsTo (env : UplinkEnv) (iptype : IpaIpType) (xlatMuxId : UInt8) (p : ExtProp Others)
    (r : UplinkFltRule Others) : Prop where
  eqns32 : r.eqAttrib.eqns32 = p.eqAttrib.eqns32 ++
    if iptype = .v4 then [FltRuleEq.prefixEq32 (env.prefixes .v4)] else []
  eqns128 : r.eqAttrib.eqns128 = p.eqAttrib.eqns128 ++
    if iptype = .v6 then [FltRuleEq.prefixEq128 env.featureIpaV3 (env.prefixes .v6)] else []
  bitmap : r.eqAttrib.ruleEqBitmap =
    p.eqAttrib.ruleEqBitmap ||| (if iptype = .v4
      then FltRuleEq.slotBit32 env.featureIpaV3 p.eqAttrib.numOffsetMeq32
      else FltRuleEq.slotBit128 env.featureIpaV3 p.eqAttrib.numOffsetMeq128) |||
      if env.metaData.isSome then (1 : UInt16) <<< 9 else 0
  metadata : (r.eqAttrib.metadataMeq32Present, r.eqAttrib.metadataMeq32) =
    let e := (p.xlatEq iptype xlatMuxId).withMetaData env
    (e.metadataMeq32Present, e.metadataMeq32)
  others : r.eqAttrib.others = p.eqAttrib.others

def ExtProp.LeavesSlot (iptype : IpaIpType) (p : ExtProp Others) : Prop :=
  match iptype with
  | .v4 => p.eqAttrib.numOffsetMeq32 < ipaIpfltrNumMeq32Eqns
  | .v6 => p.eqAttrib.numOffsetMeq128 < ipaIpfltrNumMeq128Eqns

/-- The numbers of equations that the hardware has. -/
def ExtProp.WithinLimits (p : ExtProp Others) : Prop :=
  p.eqAttrib.numOffsetMeq32 ≤ ipaIpfltrNumMeq32Eqns ∧
    p.eqAttrib.numOffsetMeq128 ≤ ipaIpfltrNumMeq128Eqns

/-- Every installed rule is one for a property, with the prefix of its family. -/
def PrefixesRight (env : UplinkEnv) (props : List (ExtProp Others)) (iptype : IpaIpType)
    (xlatMuxId : UInt8) : Prop :=
  ∃ installed, installed.Sublist props ∧
    List.Forall₂ (RestrictsTo env iptype xlatMuxId) installed
      (handleUplinkFilterRule env props iptype xlatMuxId).2

theorem take_setIfInBounds {α : Type} {n m : Nat} (v : Vector α n) (hm : m < n) (x : α) :
    (v.setIfInBounds m x).toList.take (m + 1) = v.toList.take m ++ [x] := by
  rw [Vector.toList_setIfInBounds, List.take_succ_eq_append_getElem (by simpa using hm)]
  simp [List.take_set_of_le]

section rule

variable {env : UplinkEnv} {iptype : IpaIpType} {xlatMuxId : UInt8} {p : ExtProp Others}
  {e : FltRuleEq Others}

theorem length_eqns32 : e.eqns32.length = min e.numOffsetMeq32 ipaIpfltrNumMeq32Eqns := by
  simp [FltRuleEq.eqns32]

theorem length_eqns128 : e.eqns128.length = min e.numOffsetMeq128 ipaIpfltrNumMeq128Eqns := by
  simp [FltRuleEq.eqns128]

theorem RestrictsTo.leavesSlot {r : UplinkFltRule Others} (h : RestrictsTo env iptype xlatMuxId p r) :
    p.LeavesSlot iptype := by
  cases iptype with
  | v4 =>
    have hlength := congrArg List.length h.eqns32
    simp only [if_pos, List.length_append, List.length_singleton, length_eqns32] at hlength
    unfold ExtProp.LeavesSlot
    omega
  | v6 =>
    have hlength := congrArg List.length h.eqns128
    simp only [if_pos, List.length_append, List.length_singleton, length_eqns128] at hlength
    unfold ExtProp.LeavesSlot
    omega

theorem xlatEq_keeps : (p.xlatEq iptype xlatMuxId).eqns32 = p.eqAttrib.eqns32 ∧
    (p.xlatEq iptype xlatMuxId).eqns128 = p.eqAttrib.eqns128 ∧
    (p.xlatEq iptype xlatMuxId).numOffsetMeq32 = p.eqAttrib.numOffsetMeq32 ∧
    (p.xlatEq iptype xlatMuxId).numOffsetMeq128 = p.eqAttrib.numOffsetMeq128 ∧
    (p.xlatEq iptype xlatMuxId).ruleEqBitmap = p.eqAttrib.ruleEqBitmap ∧
    (p.xlatEq iptype xlatMuxId).others = p.eqAttrib.others := by
  unfold ExtProp.xlatEq
  split <;> exact ⟨rfl, rfl, rfl, rfl, rfl, rfl⟩

theorem withMetaData_keeps (env : UplinkEnv) (e : FltRuleEq Others) : (e.withMetaData env).eqns32 = e.eqns32 ∧
    (e.withMetaData env).eqns128 = e.eqns128 ∧ (e.withMetaData env).others = e.others ∧
    (e.withMetaData env).ruleEqBitmap =
      e.ruleEqBitmap ||| if env.metaData.isSome then (1 : UInt16) <<< 9 else 0 := by
  unfold FltRuleEq.withMetaData
  cases env.metaData with
  | none => exact ⟨rfl, rfl, rfl, (UInt16.or_zero).symm⟩
  | some m => exact ⟨rfl, rfl, rfl, rfl⟩

theorem withPrefix_v4 (env : UplinkEnv) (h : e.numOffsetMeq32 < ipaIpfltrNumMeq32Eqns) : e.withPrefix env .v4 =
    { e with
      numOffsetMeq32 := e.numOffsetMeq32 + 1
      ruleEqBitmap := e.ruleEqBitmap ||| FltRuleEq.slotBit32 env.featureIpaV3 e.numOffsetMeq32
      offsetMeq32 := e.offsetMeq32.setIfInBounds e.numOffsetMeq32
        (FltRuleEq.prefixEq32 (env.prefixes .v4)) } :=
  if_pos ⟨rfl, h⟩

theorem withPrefix_v6 (env : UplinkEnv) (h32 : e.numOffsetMeq32 ≤ ipaIpfltrNumMeq32Eqns)
    (h : e.numOffsetMeq128 < ipaIpfltrNumMeq128Eqns) : e.withPrefix env .v6 =
    { e with
      numOffsetMeq128 := e.numOffsetMeq128 + 1
      ruleEqBitmap := e.ruleEqBitmap ||| FltRuleEq.slotBit128 env.featureIpaV3 e.numOffsetMeq128
      offsetMeq128 := e.offsetMeq128.setIfInBounds e.numOffsetMeq128
        (FltRuleEq.prefixEq128 env.featureIpaV3 (env.prefixes .v6)) } := by
  unfold FltRuleEq.withPrefix
  rw [if_neg (fun hv4 => nomatch hv4.1), if_neg (Nat.not_lt.mpr h32), if_pos h]

theorem withMetaData_metadata {d : FltRuleEq Others}
    (hpresent : d.metadataMeq32Present = e.metadataMeq32Present)
    (hmeq : d.metadataMeq32 = e.metadataMeq32) :
    ((d.withMetaData env).metadataMeq32Present, (d.withMetaData env).metadataMeq32) =
      ((e.withMetaData env).metadataMeq32Present, (e.withMetaData env).metadataMeq32) := by
  unfold FltRuleEq.withMetaData
  cases env.metaData <;> simp only [hpresent, hmeq]

theorem uplinkFltRule_restricts (h : p.WithinLimits) :
    RestrictsTo env iptype xlatMuxId p (uplinkFltRule env iptype xlatMuxId p) ↔
      p.LeavesSlot iptype := by
  refine ⟨RestrictsTo.leavesSlot, fun hslot => ?_⟩
  obtain ⟨h32, h128, hnum32, hnum128, hbitmap, hothers⟩ :=
    @xlatEq_keeps _ iptype xlatMuxId p
  obtain ⟨hr32, hr128, hrothers, hrbitmap⟩ :=
    withMetaData_keeps env ((p.xlatEq iptype xlatMuxId).withPrefix env iptype)
  unfold ExtProp.LeavesSlot at hslot
  cases iptype with
  | v4 =>
    have hfree : (p.xlatEq .v4 xlatMuxId).numOffsetMeq32 < ipaIpfltrNumMeq32Eqns := hnum32 ▸ hslot
    have hrestricted := withPrefix_v4 env hfree
    refine ⟨hr32.trans ?_, hr128.trans ?_, hrbitmap.trans ?_, withMetaData_metadata ?_ ?_,
      hrothers.trans ?_⟩ <;> rw [hrestricted]
    · exact (take_setIfInBounds _ hfree _).trans (congrArg (· ++ [_]) h32)
    · exact h128.trans (List.append_nil _).symm
    · simp only [hbitmap, hnum32, if_pos]
    · exact hothers
  | v6 =>
    have hfree : (p.xlatEq .v6 xlatMuxId).numOffsetMeq128 < ipaIpfltrNumMeq128Eqns := hnum128 ▸ hslot
    have hrestricted := withPrefix_v6 env (hnum32 ▸ h.1) hfree
    refine ⟨hr32.trans ?_, hr128.trans ?_, hrbitmap.trans ?_, withMetaData_metadata ?_ ?_,
      hrothers.trans ?_⟩ <;> rw [hrestricted]
    · exact h32.trans (List.append_nil _).symm
    · exact (take_setIfInBounds _ hfree _).trans (congrArg (· ++ [_]) h128)
    · simp only [hbitmap, hnum128, reduceCtorEq, if_false]
    · exact hothers

end rule

theorem rules_of_installs {env : UplinkEnv} {props : List (ExtProp Others)} (h : env.Installs props)
    (iptype : IpaIpType) (xlatMuxId : UInt8) :
    (handleUplinkFilterRule env props iptype xlatMuxId).2 =
      props.map (uplinkFltRule env iptype xlatMuxId) := by
  obtain ⟨hrx, hopened, hlength, hsource, hembedded, hmalloc, hsend, hadd⟩ := h
  unfold handleUplinkFilterRule
  rcases props with _ | ⟨p, props⟩
  · simp
  · have hlength' := Nat.not_lt.mpr hlength
    rw [List.length_cons] at hlength'
    simp [Option.isSome_iff_ne_none.mp hrx, hopened, hlength', hsource, hembedded, hmalloc, hsend, hadd]

theorem rules_of_not_installs {env : UplinkEnv} {props : List (ExtProp Others)}
    (h : ¬env.Installs props) (iptype : IpaIpType) (xlatMuxId : UInt8) :
    (handleUplinkFilterRule env props iptype xlatMuxId).2 = [] := by
  unfold handleUplinkFilterRule
  split_ifs with hnone hopened hpipes hadded
  · rfl
  · rfl
  · rfl
  · rfl
  · simp only [not_or, not_not, not_lt, gt_iff_lt] at hnone hopened hpipes hadded
    exact absurd ⟨Option.isSome_iff_ne_none.mpr (by simpa using hnone.1), hopened.1, hopened.2, hpipes.1,
      hpipes.2.1, hpipes.2.2, hadded.1, hadded.2⟩ h

/-- A request is right exactly if it installs nothing or each property leaves a slot for the prefix. -/
theorem prefixesRight_iff (env : UplinkEnv) (props : List (ExtProp Others)) (iptype : IpaIpType)
    (xlatMuxId : UInt8) (h : ∀ p ∈ props, p.WithinLimits) :
    PrefixesRight env props iptype xlatMuxId ↔
      (env.Installs props → ∀ p ∈ props, p.LeavesSlot iptype) := by
  constructor
  · rintro ⟨installed, hsub, hall⟩ hinstalls p hp
    rw [rules_of_installs hinstalls] at hall
    have hsame : installed = props := hsub.eq_of_length (by simpa using hall.length_eq)
    rw [hsame, List.forall₂_map_right_iff, List.forall₂_same] at hall
    exact (hall p hp).leavesSlot
  · intro hslots
    by_cases hinstalls : env.Installs props
    · refine ⟨props, List.Sublist.refl _, ?_⟩
      rw [rules_of_installs hinstalls, List.forall₂_map_right_iff, List.forall₂_same]
      exact fun p hp => (uplinkFltRule_restricts (h p hp)).mpr (hslots hinstalls p hp)
    · rw [PrefixesRight, rules_of_not_installs hinstalls]
      exact ⟨[], List.nil_sublist _, List.Forall₂.nil⟩

/-- A property with `n` own equations of 32 bits and none of 128. -/
def meq32Prop (n : Nat) : ExtProp Unit where
  eqAttrib := ⟨0, n, Vector.replicate _ ⟨0, 0, 0⟩, 0, Vector.replicate _ ⟨0, #v[0, 0, 0, 0], #v[0, 0, 0, 0]⟩,
    false, ⟨0, 0, 0⟩, ()⟩
  rtTblIdx := 0
  isXlatRule := false
  isRuleHashable := 0
  ruleId := 0

def hotspotEnv : UplinkEnv where
  featureIpaV3 := true
  rxProp := some ⟨none⟩
  prefixes := fun _ => ⟨0xC0A82B00, 0xFFFFFF00, #v[0x20010DB8, 0, 0, 0], #v[0xFFFFFFFF, 0xFFFFFFFF, 0, 0]⟩
  maxWanUlFilterRules := 20
  bridged := false
  opened := true
  sourcePipe := true
  embeddedPipe := true
  malloc := true
  sendFilteringRuleIndex := true
  addFilteringRule := true

theorem meq32Prop_one_prefixed : PrefixesRight hotspotEnv [meq32Prop 1] .v4 0 ↔
    (hotspotEnv.Installs [meq32Prop 1] → ∀ p ∈ [meq32Prop 1], p.LeavesSlot .v4) :=
  prefixesRight_iff hotspotEnv [meq32Prop 1] .v4 0 (by simp [ExtProp.WithinLimits, meq32Prop, ipaIpfltrNumMeq32Eqns])

/-- With both slots of IPv4 in use the rule gets the prefix of IPv6. -/
theorem meq32_full_not_prefixed : ¬∀ (Others : Type) (env : UplinkEnv) (props : List (ExtProp Others))
    (iptype : IpaIpType) (xlatMuxId : UInt8), props.length ≤ env.maxWanUlFilterRules →
    (∀ p ∈ props, p.WithinLimits) → PrefixesRight env props iptype xlatMuxId := by
  intro h
  obtain ⟨installed, hsub, hall⟩ := h Unit hotspotEnv [meq32Prop 2] .v4 0 (by decide)
    (by simp [ExtProp.WithinLimits, meq32Prop])
  have hone : installed = [meq32Prop 2] := hsub.eq_of_length hall.length_eq
  rw [hone] at hall
  cases hall with
  | cons hp _ => exact absurd hp.eqns128 (by decide)

end DeviceHal.Ipacm
