import DeviceHal.Ipacm.OffloadManager
import DeviceHal.Lib.Handles

namespace DeviceHal.Ipacm

open Lib

abbrev maxWanUlFilterRules : Nat := 25

abbrev ipaMaxPrivateSubnetEntries : Nat := 3

/-- `IPV4_DEFAULT_FILTERTING_RULES` and `IPV6_DEFAULT_FILTERTING_RULES`. -/
def defaultFilteringRules : IpaIpType → Nat
  | .v4 => 3
  | .v6 => 7

/-- The filter rules that an interface asks for with one call. -/
inductive FltGroup where
  | modemUl (iptype : IpaIpType)
  | staUl (iptype : IpaIpType)
  | ipv6Prefix
  | icmp (iptype : IpaIpType)
  | dft (iptype : IpaIpType)
  | privateSubnet
deriving DecidableEq

def FltGroup.iptype : FltGroup → IpaIpType
  | modemUl iptype => iptype
  | staUl iptype => iptype
  | ipv6Prefix => .v6
  | icmp iptype => iptype
  | dft iptype => iptype
  | privateSubnet => .v4

structure FltRule where
  group : FltGroup
  index : Nat
deriving DecidableEq

def FltGroup.rules (group : FltGroup) (n : Nat) : List FltRule := (List.range n).map (FltRule.mk group)

/-- `ip_type` of an interface. -/
inductive IfaceIpType where
  | null
  | only (iptype : IpaIpType)
  | max
deriving DecidableEq

namespace IfaceIpType

def covers : IfaceIpType → IpaIpType → Bool
  | null, _ => false
  | only own, iptype => own = iptype
  | max, _ => true

def config (iptype : IpaIpType) : IfaceIpType → IfaceIpType
  | null => only iptype
  | only own => if own = iptype then only own else max
  | max => max

theorem covers_config {own : IfaceIpType} {iptype iptype' : IpaIpType} :
    (own.config iptype).covers iptype' = (own.covers iptype' || decide (iptype = iptype')) := by
  cases own with
  | null => rfl
  | max => rfl
  | only own => cases own <;> cases iptype <;> cases iptype' <;> rfl

end IfaceIpType

instance lawfulBEqIpv6Addr : LawfulBEq (BitVec 128) := inferInstance

inductive IfaceAddr where
  | v4 (addr : BitVec 32)
  | v6 (addr : BitVec 128)
deriving DecidableEq

namespace IfaceAddr

def iptype : IfaceAddr → IpaIpType
  | v4 _ => .v4
  | v6 _ => .v6

def isZero : IfaceAddr → Bool
  | v4 addr => addr = 0
  | v6 addr => addr = 0

end IfaceAddr

/-- What `IPACM_Wan` and the configuration say while an event is handled. -/
structure WanView where
  isWanUp : IpaIpType → Bool
  backhaulIsStaMode : Bool
  numExtProps : IpaIpType → Nat

/-- How the calls into the kernel end that are made while an event is handled. -/
structure IpaCalls where
  opens : IpaIpType → Bool := fun _ => true
  writesQmapId : Bool := true
  /-- The device opens, the end points are known and the modem takes the indices. -/
  sendsRuleIndex : Bool := true
  getsRoutingTable : Bool := true
  rtRuleResult : Int := 0
  addsFltRules : FltGroup → Bool := fun _ => true
  ruleStatus : FltRule → Bool := fun _ => true
  deletesFltRule : Nat → Bool := fun _ => true
  deletesOduHeaders : Bool := true

def ipacmFailure : Int := -1

/-- The handle of a rule that the kernel turned down. -/
def unsetHdl : Nat := 0xFFFFFFFF

/-- What is fixed of an interface with receive properties. `lan_wan_fl_rule_hdl[0]` holds whatever
its memory held before, which is the handle of no rule to come. -/
structure UplinkIface where
  isLanIf : Bool
  isOduIf : Bool
  oduBridge : Bool
  lanWanFlRuleHdl : Nat
  firstHdl : Nat
  lanWan_lt : lanWanFlRuleHdl < firstHdl

structure UplinkLan where
  driver : Handles FltRule
  staFlRuleHdl : IpaIpType → Nat
  isActive : Bool := true
  ipType : IfaceIpType := .null
  ipv6Addr : List (BitVec 128) := []
  isUpstreamSet : IpaIpType → Bool := fun _ => false
  isDownstreamSet : IpaIpType → Bool := fun _ => false
  modemUlSet : IpaIpType → Bool := fun _ => false
  wanUlFlRuleHdl : IpaIpType → List Nat := fun _ => []
  staUlSet : IpaIpType → Bool := fun _ => false
  ipv6PrefixFltRuleHdl : Nat := 0
  icmpFltRuleHdl : IpaIpType → Nat := fun _ => 0
  dftFlRuleHdl : IpaIpType → List Nat := fun iptype => List.replicate (defaultFilteringRules iptype) 0
  privateFlRuleHdl : List Nat := List.replicate ipaMaxPrivateSubnetEntries 0
  fltRuleCount : IpaIpType → Int := fun _ => 0
  /-- Handles that a withdrawal of uplink or prefix rules passed on with no rule behind them. -/
  strays : List Nat := []
  /-- The count has differed from the number of rules when a call returned. -/
  miscounted : Bool := false

namespace UplinkLan

def installedCount (s : UplinkLan) (iptype : IpaIpType) : Nat :=
  s.driver.count fun rule => rule.group.iptype = iptype

def Balanced (s : UplinkLan) : Prop := ∀ iptype, s.fltRuleCount iptype = s.installedCount iptype

instance (s : UplinkLan) : Decidable s.Balanced :=
  decidable_of_iff (s.fltRuleCount .v4 = s.installedCount .v4 ∧ s.fltRuleCount .v6 = s.installedCount .v6)
    ⟨fun h iptype => by cases iptype; exacts [h.1, h.2], fun h => ⟨h .v4, h .v6⟩⟩

def audit (s : UplinkLan) : UplinkLan := { s with miscounted := s.miscounted || !decide s.Balanced }

/-- The rules of an `ipa_ioc_add_flt_rule` in their order, each with its own status. -/
def addRules (calls : IpaCalls) (driver : Handles FltRule) : List FltRule → List Nat × Handles FltRule
  | [] => ([], driver)
  | rule :: rules =>
    if calls.ruleStatus rule then
      let r := addRules calls (driver.add rule).2 rules
      ((driver.add rule).1 :: r.1, r.2)
    else
      let r := addRules calls driver rules
      (unsetHdl :: r.1, r.2)

/-- `AddFilteringRule` looks at the result of the call, not at the status of a rule. -/
def addFilteringRule (s : UplinkLan) (calls : IpaCalls) (group : FltGroup) (n : Nat) :
    Option (List Nat × UplinkLan) :=
  if calls.addsFltRules group then
    let r := addRules calls s.driver (group.rules n)
    let count := Function.update s.fltRuleCount group.iptype (s.fltRuleCount group.iptype + n)
    some (r.1, audit { s with driver := r.2, fltRuleCount := count })
  else none

/-- `DeleteFilteringHdls`: one handle after the other, handle 0 is passed over. -/
def deleteHdls (calls : IpaCalls) (driver : Handles FltRule) : List Nat → Bool × Handles FltRule
  | [] => (true, driver)
  | hdl :: hdls =>
    if hdl = 0 then deleteHdls calls driver hdls
    else if calls.deletesFltRule hdl then deleteHdls calls (driver.del hdl) hdls
    else (false, driver)

/-- The count is decreased by the length of the array if all its handles went. -/
def deleteFilteringHdls (s : UplinkLan) (calls : IpaCalls) (iptype : IpaIpType) (hdls : List Nat) :
    Bool × UplinkLan :=
  let r := deleteHdls calls s.driver hdls
  let count := Function.update s.fltRuleCount iptype (s.fltRuleCount iptype - hdls.length)
  (r.1, audit { s with driver := r.2, fltRuleCount := if r.1 then count else s.fltRuleCount })

def strayHdls (s : UplinkLan) (hdls : List Nat) : List Nat :=
  hdls.filter fun hdl => (s.driver.installed hdl).isNone

def withdrawHdls (s : UplinkLan) (calls : IpaCalls) (iptype : IpaIpType) (hdls : List Nat) :
    Bool × UplinkLan :=
  { s with strays := s.strays ++ s.strayHdls hdls }.deleteFilteringHdls calls iptype hdls

def keptHdls (calls : IpaCalls) (group : FltGroup) (old new : List Nat) : List Nat :=
  List.zipWith (fun rule hdls => if calls.ruleStatus rule then hdls.2 else hdls.1)
    (group.rules old.length) (old.zip new)

def initFlRule (s : UplinkLan) (calls : IpaCalls) (iptype : IpaIpType) : UplinkLan :=
  match s.addFilteringRule calls (.dft iptype) (defaultFilteringRules iptype) with
  | none => s
  | some (hdls, s) =>
    { s with
      dftFlRuleHdl := Function.update s.dftFlRuleHdl iptype
        (keptHdls calls (.dft iptype) (s.dftFlRuleHdl iptype) hdls) }

def installIcmpFltRule (s : UplinkLan) (calls : IpaCalls) (iptype : IpaIpType) : UplinkLan :=
  match s.addFilteringRule calls (.icmp iptype) 1 with
  | none => s
  | some (hdls, s) =>
    { s with icmpFltRuleHdl := Function.update s.icmpFltRuleHdl iptype (hdls.headD 0) }

/-- The copying stops at the first rule that was turned down. -/
def addDummyPrivateSubnetFltRule (s : UplinkLan) (calls : IpaCalls) (iptype : IpaIpType) : UplinkLan :=
  match iptype with
  | .v6 => s
  | .v4 =>
    match s.addFilteringRule calls .privateSubnet ipaMaxPrivateSubnetEntries with
    | none => s
    | some (hdls, s) =>
      let taken := ((FltGroup.privateSubnet.rules ipaMaxPrivateSubnetEntries).takeWhile
        calls.ruleStatus).length
      { s with privateFlRuleHdl := hdls.take taken ++ s.privateFlRuleHdl.drop taken }

def handleAddrEvt (s : UplinkLan) (calls : IpaCalls) (addr : IfaceAddr) : Int × UplinkLan :=
  let s := { s with ipType := s.ipType.config addr.iptype }
  match addr with
  | .v4 _ =>
    if calls.rtRuleResult ≠ 0 then (calls.rtRuleResult, s)
    else (0, (s.initFlRule calls .v4).installIcmpFltRule calls .v4)
  | .v6 ip =>
    if ip ∈ s.ipv6Addr then (ipacmFailure, s)
    else if calls.rtRuleResult ≠ 0 then (calls.rtRuleResult, s)
    else
      let base :=
        if s.ipv6Addr = [] then (s.installIcmpFltRule calls .v6).initFlRule calls .v6 else s
      (0, { base with ipv6Addr := base.ipv6Addr ++ [ip] })

abbrev maxDefaultV6RouteRules : Nat := 2

/-- The address is new: a second family, or one of two IPv6 addresses. -/
def admitsAddr (s : UplinkLan) (iptype : IpaIpType) : Bool :=
  (s.ipType ≠ .only iptype && s.ipType ≠ .max) ||
    (iptype = .v6 && s.ipv6Addr.length ≠ maxDefaultV6RouteRules)

/-- `IPA_ADDR_ADD_EVENT`: the upstream flags are set from what `IPACM_Wan` says, for both families. -/
def addrAdd (s : UplinkLan) (iface : UplinkIface) (wan : WanView) (calls : IpaCalls) (addr : IfaceAddr) :
    UplinkLan :=
  if addr.isZero then s
  else if iface.oduBridge then s.addDummyPrivateSubnetFltRule calls addr.iptype
  else if s.admitsAddr addr.iptype then
    match s.handleAddrEvt calls addr with
    | (res, s) =>
      if res = ipacmFailure then s
      else
        let s := s.addDummyPrivateSubnetFltRule calls addr.iptype
        { s with isUpstreamSet := fun iptype => s.isUpstreamSet iptype || wan.isWanUp iptype }
  else s

def handleUplinkFilterRule (s : UplinkLan) (wan : WanView) (calls : IpaCalls) (iptype : IpaIpType) :
    UplinkLan :=
  if wan.numExtProps iptype = 0 then s
  else if maxWanUlFilterRules < wan.numExtProps iptype then s
  else if !calls.sendsRuleIndex then s
  else
    match s.addFilteringRule calls (.modemUl iptype) (wan.numExtProps iptype) with
    | none => s
    | some (hdls, s) =>
      { s with
        wanUlFlRuleHdl := Function.update s.wanUlFlRuleHdl iptype (s.wanUlFlRuleHdl iptype ++ hdls) }

/-- The rules count as installed whatever `handle_uplink_filter_rule` returns. -/
def handleWanUpEx (s : UplinkLan) (wan : WanView) (calls : IpaCalls) (iptype : IpaIpType) : UplinkLan :=
  if !calls.opens iptype || !calls.writesQmapId then s
  else if s.modemUlSet iptype then s
  else
    let s := s.handleUplinkFilterRule wan calls iptype
    { s with modemUlSet := Function.update s.modemUlSet iptype true }

def handleWanUp (s : UplinkLan) (calls : IpaCalls) (iptype : IpaIpType) : UplinkLan :=
  if s.staUlSet iptype then s
  else if !calls.getsRoutingTable then s
  else
    match s.addFilteringRule calls (.staUl iptype) 1 with
    | none => s
    | some (hdls, s) =>
      { s with
        staUlSet := Function.update s.staUlSet iptype true
        staFlRuleHdl := Function.update s.staFlRuleHdl iptype (hdls.headD 0) }

def installIpv6PrefixFltRule (s : UplinkLan) (calls : IpaCalls) : UplinkLan :=
  match s.addFilteringRule calls .ipv6Prefix 1 with
  | none => s
  | some (hdls, s) => { s with ipv6PrefixFltRuleHdl := hdls.headD 0 }

/-- What `IPA_HANDLE_WAN_UP_V6_TETHER` and `IPA_DOWNSTREAM_ADD` install. -/
def installUplink (s : UplinkLan) (wan : WanView) (calls : IpaCalls) (iptype : IpaIpType)
    (isSta : Bool) : UplinkLan :=
  let s := if iptype = .v6 then s.installIpv6PrefixFltRule calls else s
  if isSta then s.handleWanUp calls iptype else s.handleWanUpEx wan calls iptype

def deleteIpv6PrefixFltRule (s : UplinkLan) (calls : IpaCalls) : UplinkLan :=
  (s.withdrawHdls calls .v6 [s.ipv6PrefixFltRuleHdl]).2

/-- Which rules go is decided by the mode of the backhaul and by `modem_ul_v4_set`. What is sent to
the modem afterwards changes nothing here. -/
def withdrawUplink (s : UplinkLan) (calls : IpaCalls) (iptype : IpaIpType) (isStaMode : Bool) :
    UplinkLan :=
  if !isStaMode && s.modemUlSet iptype then
    if maxWanUlFilterRules < (s.wanUlFlRuleHdl iptype).length then s
    else if (s.wanUlFlRuleHdl iptype).length = 0 then s
    else
      match s.withdrawHdls calls iptype (s.wanUlFlRuleHdl iptype) with
      | (false, s) => s
      | (true, s) =>
        { s with
          wanUlFlRuleHdl := Function.update s.wanUlFlRuleHdl iptype []
          modemUlSet := Function.update s.modemUlSet iptype false }
  else
    match s.withdrawHdls calls iptype [s.staFlRuleHdl iptype] with
    | (false, s) => s
    | (true, s) => { s with staUlSet := Function.update s.staUlSet iptype false }

/-- `handle_wan_down` and `handle_wan_down_v6`. -/
def handleWanDown (s : UplinkLan) (calls : IpaCalls) (iptype : IpaIpType) (isStaMode : Bool) :
    UplinkLan :=
  if !calls.opens iptype then s
  else
    let s := if iptype = .v6 then s.deleteIpv6PrefixFltRule calls else s
    s.withdrawUplink calls iptype isStaMode

/-- `IPA_HANDLE_WAN_UP_TETHER` and `IPA_HANDLE_WAN_UP_V6_TETHER`: no IPv4 uplink over a station. -/
def wanUpTether (s : UplinkLan) (wan : WanView) (calls : IpaCalls) (iptype : IpaIpType) (isSta : Bool) :
    UplinkLan :=
  if iptype = .v4 && isSta then s
  else if s.ipType.covers iptype && !s.isUpstreamSet iptype then
    let s := { s with isUpstreamSet := Function.update s.isUpstreamSet iptype true }
    if s.isDownstreamSet iptype then s.installUplink wan calls iptype isSta else s
  else s

def wanDownTether (s : UplinkLan) (calls : IpaCalls) (iptype : IpaIpType) (isSta : Bool) : UplinkLan :=
  if s.ipType.covers iptype && s.isUpstreamSet iptype then
    let s := { s with isUpstreamSet := Function.update s.isUpstreamSet iptype false }
    if s.isDownstreamSet iptype then s.handleWanDown calls iptype isSta else s
  else s

def downstreamAdd (s : UplinkLan) (wan : WanView) (calls : IpaCalls) (iptype : IpaIpType) : UplinkLan :=
  if s.isDownstreamSet iptype then s
  else
    let s := { s with isDownstreamSet := Function.update s.isDownstreamSet iptype true }
    if s.isUpstreamSet iptype && s.ipType.covers iptype then
      s.installUplink wan calls iptype wan.backhaulIsStaMode
    else s

def downstreamDel (s : UplinkLan) (wan : WanView) (calls : IpaCalls) (iptype : IpaIpType) : UplinkLan :=
  if s.isDownstreamSet iptype then
    let s := { s with isDownstreamSet := Function.update s.isDownstreamSet iptype false }
    if s.isUpstreamSet iptype then s.handleWanDown calls iptype wan.backhaulIsStaMode else s
  else s

/-- Arrays of rules go one after the other, up to the first that does not go. -/
def deleteGroups (s : UplinkLan) (calls : IpaCalls) (iptype : IpaIpType) :
    List (List Nat) → Bool × UplinkLan
  | [] => (true, s)
  | hdls :: groups =>
    match s.deleteFilteringHdls calls iptype hdls with
    | (false, s) => (false, s)
    | (true, s) => s.deleteGroups calls iptype groups

/-- The arrays that `handle_down_evt` deletes. The default rules are passed over if the first of them
was not installed. -/
def baseGroups (s : UplinkLan) (iptype : IpaIpType) : List (List Nat) :=
  [s.icmpFltRuleHdl iptype] ::
    (if (s.dftFlRuleHdl iptype).headD 0 = 0 then [] else [s.dftFlRuleHdl iptype]) ++
    (if iptype = .v4 then [s.privateFlRuleHdl] else [])

def deleteBase (s : UplinkLan) (calls : IpaCalls) (iptype : IpaIpType) : Bool × UplinkLan :=
  if s.ipType.covers iptype then s.deleteGroups calls iptype (s.baseGroups iptype)
  else (true, s)

/-- The uplink rules go by what `IPACM_Wan` says, not by the flags of the interface. -/
def handleDownEvt (s : UplinkLan) (iface : UplinkIface) (wan : WanView) (calls : IpaCalls) : UplinkLan :=
  let closed := fun s : UplinkLan => { s with isActive := false }
  if iface.isOduIf && !calls.deletesOduHeaders then closed s
  else if s.ipType = .null then closed s
  else
    let s := if wan.isWanUp .v4 then s.handleWanDown calls .v4 wan.backhaulIsStaMode else s
    let s := if wan.isWanUp .v6 then s.handleWanDown calls .v6 wan.backhaulIsStaMode else s
    match s.deleteBase calls .v4 with
    | (false, s) => closed s
    | (true, s) => closed (s.deleteBase calls .v6).2

end UplinkLan

inductive UplinkEvent where
  | addrAdd (addr : IfaceAddr)
  | wanUpTether (iptype : IpaIpType) (isSta : Bool)
  | wanDownTether (iptype : IpaIpType) (isSta : Bool)
  | downstreamAdd (iptype : IpaIpType)
  | downstreamDel (iptype : IpaIpType)
  | linkDown

/-- An event, and what is met with while it is handled. -/
structure UplinkOp where
  event : UplinkEvent
  wan : WanView
  calls : IpaCalls := {}

namespace UplinkLan

def initial (iface : UplinkIface) (wan : WanView) : UplinkLan where
  driver := { next := iface.firstHdl }
  staFlRuleHdl := fun
    | .v4 => iface.lanWanFlRuleHdl
    | .v6 => 0
  isUpstreamSet := fun iptype => !(iface.isLanIf && wan.backhaulIsStaMode) && wan.isWanUp iptype

def eventCallback (s : UplinkLan) (iface : UplinkIface) (op : UplinkOp) : UplinkLan :=
  if !s.isActive then s
  else match op.event with
    | .addrAdd addr => s.addrAdd iface op.wan op.calls addr
    | .wanUpTether iptype isSta => s.wanUpTether op.wan op.calls iptype isSta
    | .wanDownTether iptype isSta => s.wanDownTether op.calls iptype isSta
    | .downstreamAdd iptype => s.downstreamAdd op.wan op.calls iptype
    | .downstreamDel iptype => s.downstreamDel op.wan op.calls iptype
    | .linkDown => s.handleDownEvt iface op.wan op.calls

end UplinkLan

end DeviceHal.Ipacm
