import DeviceHal.Ipacm.EvtDispatcher
import DeviceHal.Lib.Run

namespace DeviceHal.Ipacm

open Lib

inductive IpacmIfaceType where
  | lanIf
  | wlanIf
  | wanIf
  | virtualIf
  | ethIf
  | embmsIf
  | oduIf
  | unknownIf
deriving DecidableEq

inductive IpacmWanIfaceType where
  | q6Wan
  | wlanWan
  | ecmWan
deriving DecidableEq

/-- What is built for an interface, as far as its registrations and its end depend on it. -/
inductive IfaceKind where
  | lan
  | eth
  | oduRouter
  | oduBridge
  | wlan
  | wan (isStaMode : IpacmWanIfaceType)
  | embms (isStaMode : IpacmWanIfaceType)
deriving DecidableEq

open IpaCmEventId in
/-- The registrations of `create_iface_instance`, in its order, with `FEATURE_IPA_ANDROID` and
`FEATURE_IPACM_HAL`. -/
def IfaceKind.events : IfaceKind → List IpaCmEventId
  | lan => [addrAdd, neighClientIpAddrAdd, neighClientIpAddrDel, swRoutingEnable, swRoutingDisable,
      handleWanUpTether, handleWanUpV6Tether, handleWanDownTether, handleWanDownV6Tether, downstreamAdd,
      downstreamDel, cfgChange, privateSubnetChange, tetheringStatsUpdate, cradleWanModeSwitch, linkDown,
      lanDeleteSelf]
  | eth => [addrAdd, neighClientIpAddrAdd, swRoutingEnable, swRoutingDisable, handleWanUp, handleWanUpV6,
      handleWanDown, handleWanDownV6, cradleWanModeSwitch, linkDown, lanDeleteSelf]
  | oduRouter => [addrAdd, neighClientIpAddrAdd, neighClientIpAddrDel, swRoutingEnable, swRoutingDisable,
      handleWanUp, handleWanUpV6, handleWanDown, handleWanDownV6, cradleWanModeSwitch, linkDown, lanDeleteSelf]
  | oduBridge => [addrAdd, neighClientIpAddrAdd, swRoutingEnable, swRoutingDisable, linkDown, lanDeleteSelf]
  | wlan => [addrAdd, routeDel, wlanClientAdd, wlanClientAddEx, wlanClientDel, wlanClientPowerSave,
      wlanClientRecover, neighClientIpAddrAdd, swRoutingEnable, swRoutingDisable, handleWanUpTether,
      handleWanUpV6Tether, handleWanDownTether, handleWanDownV6Tether, downstreamAdd, downstreamDel, ssrNotice,
      privateSubnetChange, cradleWanModeSwitch, wlanLinkDown, tetheringStatsUpdate, lanDeleteSelf]
  | wan isStaMode => [addrAdd, wanUpstreamRouteAdd, wanUpstreamRouteDel] ++
      (if isStaMode = .q6Wan then [networkStatsUpdate] else []) ++
      [firewallChange, neighClientIpAddrAdd, swRoutingEnable, swRoutingDisable, cfgChange, wanXlatConnect] ++
      [if isStaMode = .wlanWan then wlanLinkDown else linkDown]
  | embms _ => [linkDown]

/-- `wlan_ap_index` of a WLAN interface has to be 0 or 1. A constructor that gets another one deletes
the object, and `create_iface_instance` goes on with it. -/
def maxWlanApIface : Int := 2

structure IfaceInstance where
  kind : IfaceKind
  ipaIfNum : Nat
  ipaIfCate : IpacmIfaceType
  built : Bool
deriving DecidableEq

/-- What the data of an event says: the interface it is about, and the table of categories that
`IPACM_Config` holds by then. -/
structure EventData where
  ipaInterfaceIndex : Nat
  ifCat : Nat → IpacmIfaceType

/-- The callbacks that end with `delete this`. -/
def IfaceInstance.deletesThis (iface : IfaceInstance) (event : IpaCmEventId) (data : EventData) : Bool :=
  match iface.kind, event with
  | .lan, .lanDeleteSelf => data.ipaInterfaceIndex = iface.ipaIfNum
  | .eth, .lanDeleteSelf => data.ipaInterfaceIndex = iface.ipaIfNum
  | .oduRouter, .lanDeleteSelf => data.ipaInterfaceIndex = iface.ipaIfNum
  | .oduBridge, .lanDeleteSelf => data.ipaInterfaceIndex = iface.ipaIfNum
  | .wlan, .lanDeleteSelf => data.ipaInterfaceIndex = iface.ipaIfNum
  | .wan isStaMode, .wlanLinkDown => isStaMode = .wlanWan ∧ data.ipaInterfaceIndex = iface.ipaIfNum
  | .wan isStaMode, .linkDown => isStaMode ≠ .wlanWan ∧ data.ipaInterfaceIndex = iface.ipaIfNum
  | .wan isStaMode, .cfgChange => data.ifCat iface.ipaIfNum ≠ iface.ipaIfCate ∧ isStaMode = .ecmWan
  | .embms isStaMode, .linkDown => isStaMode ≠ .wlanWan ∧ data.ipaInterfaceIndex = iface.ipaIfNum
  | _, _ => false

/-- The instances in the order in which they were made; their place is their address. -/
structure IfaceManager where
  dispatcher : EvtDispatcher := {}
  objs : List IfaceInstance := []
  destroyed : List Nat := []
  /-- `iface_instances`: the interfaces that have an instance. -/
  head : List (Nat × Nat) := []
  numWlanApIface : Int := 0

inductive IfaceManagerOp where
  | createIfaceInstance (ipaInterfaceIndex : Nat) (ifCat : IpacmIfaceType) (ifType : IpacmWanIfaceType)
      (oduEnable oduRouterMode : Bool)
  | processEvt (event : IpaCmEventId) (data : EventData)

namespace IfaceManager

def searchInstance (s : IfaceManager) (ipaIfIndex : Nat) : Bool := s.head.any fun tmp => tmp.1 = ipaIfIndex

def instanceKind (ifCat : IpacmIfaceType) (ifType : IpacmWanIfaceType) (oduEnable oduRouterMode : Bool) :
    Option IfaceKind :=
  match ifCat with
  | .lanIf => some .lan
  | .ethIf => some .eth
  | .oduIf => some (if oduRouterMode then .oduRouter else .oduBridge)
  | .wlanIf => some .wlan
  | .wanIf => if oduEnable = false ∨ oduRouterMode = true then some (.wan ifType) else none
  | .embmsIf => some (.embms ifType)
  | .virtualIf => none
  | .unknownIf => none

/-- The constructor. Only that of a WLAN interface can give up. -/
def build (s : IfaceManager) (kind : IfaceKind) : Bool :=
  kind ≠ .wlan ∨ 0 ≤ s.numWlanApIface ∧ s.numWlanApIface < maxWlanApIface

def register (s : IfaceManager) (kind : IfaceKind) (ipaIfIndex : Nat) (ifCat : IpacmIfaceType) : IfaceManager :=
  let obj := s.objs.length
  let built := s.build kind
  { dispatcher := kind.events.foldl (fun dispatcher event => dispatcher.registr event obj) s.dispatcher
    objs := s.objs ++ [⟨kind, ipaIfIndex, ifCat, built⟩]
    destroyed := if built then s.destroyed else obj :: s.destroyed
    head := s.head ++ [(ipaIfIndex, obj)]
    numWlanApIface := if kind = .wlan ∧ built then s.numWlanApIface + 1 else s.numWlanApIface }

def createIfaceInstance (s : IfaceManager) (ipaInterfaceIndex : Nat) (ifCat : IpacmIfaceType)
    (ifType : IpacmWanIfaceType) (oduEnable oduRouterMode : Bool) : IfaceManager :=
  if s.searchInstance ipaInterfaceIndex then s
  else
    match instanceKind ifCat ifType oduEnable oduRouterMode with
    | some kind => s.register kind ipaInterfaceIndex ifCat
    | none => s

def deletes (s : IfaceManager) (event : IpaCmEventId) (data : EventData) (obj : Nat) : Bool :=
  s.objs[obj]?.any fun iface => iface.deletesThis event data

/-- `ProcessEvt` over the registered instances. -/
def dispatch (s : IfaceManager) (event : IpaCmEventId) (data : EventData) : Dispatch :=
  s.dispatcher.processEvt s.destroyed event (s.deletes event data)

def isWlan (s : IfaceManager) (obj : Nat) : Bool := s.objs[obj]?.any fun iface => iface.kind = .wlan

/-- A dispatch that does not end leaves no state. A destroyed instance is no longer in the list of
instances, and a WLAN interface counts itself out. -/
def step (s : IfaceManager) : IfaceManagerOp → Option IfaceManager
  | .createIfaceInstance ipaInterfaceIndex ifCat ifType oduEnable oduRouterMode =>
    some (s.createIfaceInstance ipaInterfaceIndex ifCat ifType oduEnable oduRouterMode)
  | .processEvt event data =>
    let d := s.dispatch event data
    let gone := d.calls.filter (s.deletes event data)
    if d.ending = .finished then
      some { s with
        dispatcher := { s.dispatcher with head := d.records }
        destroyed := d.destroyed
        head := s.head.filter fun tmp => tmp.2 ∉ gone
        numWlanApIface := s.numWlanApIface - (gone.filter s.isWlan).length }
    else none

end IfaceManager

end DeviceHal.Ipacm
