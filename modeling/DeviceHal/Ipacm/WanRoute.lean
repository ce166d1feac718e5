import DeviceHal.Ipacm.IfaceManager
import DeviceHal.Ipacm.UplinkLan

namespace DeviceHal.Ipacm

/-- `ipacm_event_iface_up`. -/
structure EventIfaceUp where
  ifname : String := ""
  ipv4Addr : BitVec 32 := 0
  ipv6Prefix : BitVec 64 := 0
  isSta : Bool
deriving DecidableEq

/-- `ipacm_event_iface_up_tehter`. -/
structure EventIfaceUpTether where
  ifIndexTether : Nat
  ipv6Prefix : BitVec 64 := 0
  isSta : Bool
deriving DecidableEq

/-- The events that a WAN interface posts, those of IPv6 being the ones with `_V6`. -/
inductive WanEvent where
  | handleWanUp (iptype : IpaIpType) (data : EventIfaceUp)
  | handleWanDown (iptype : IpaIpType) (data : EventIfaceUp)
  | handleWanUpTether (iptype : IpaIpType) (data : EventIfaceUpTether)
  | handleWanDownTether (iptype : IpaIpType) (data : EventIfaceUpTether)
deriving DecidableEq

/-- The static members of `IPACM_Wan`, and the events that were posted. -/
structure WanStatics where
  wanUp : IpaIpType → Bool := fun _ => false
  backhaulIsStaMode : Bool := false
  backhaulIpv6Prefix : BitVec 64 := 0
  ipaIfNumTether : IpaIpType → List Nat := fun _ => []
  posted : List WanEvent := []

def ipaMaxIfaceEntries : Nat := 20

/-- What is fixed of a WAN interface when it is registered. The headers of a STA are constructed. -/
structure WanProps where
  ipaIfNum : Nat
  devName : String
  isStaMode : IpacmWanIfaceType
  hasTxProp : Bool := true
  hasRxProp : Bool := true
  numExtProps : Nat := 1
  headerSet : IpaIpType → Bool := fun _ => true

structure Wan extends WanProps where
  ipType : IfaceIpType := .null
  wanV4AddrSet : Bool := false
  wanV4Addr : BitVec 32 := 0
  ipv6Addr : List (BitVec 128) := []
  ipv6Prefix : BitVec 64 := 0
  headerPartialDefaultWan : IpaIpType → Bool := fun _ => false
  isDefaultGateway : Bool := false
  active : IpaIpType → Bool := fun _ => false

def isGlobalIpv6Addr (addr : BitVec 128) : Bool :=
  addr.extractLsb' 96 32 &&& 0xFFC00000#32 ≠ 0xFE800000#32 &&& 0xFFC00000#32

/-- The events that are dispatched to the WAN interfaces. -/
inductive WanInput where
  | addrAdd (ifNum : Nat) (addr : IfaceAddr)
  | upstreamRouteAdd (ifNum : Nat) (iptype : IpaIpType)
  | upstreamRouteDel (ifNum : Nat) (iptype : IpaIpType)
  | wlanLinkDown (ifNum : Nat)
  | linkDown (ifNum : Nat)
deriving DecidableEq

namespace Wan

def isSta (w : Wan) : Bool := w.isStaMode ≠ .q6Wan

def handleAddrEvt (w : Wan) (addr : IfaceAddr) : Wan :=
  if !w.hasTxProp || !w.hasRxProp then w
  else
    let w := { w with ipType := w.ipType.config addr.iptype }
    match addr with
    | .v6 ip =>
      if ip ∈ w.ipv6Addr then w
      else
        { w with
          ipv6Addr := w.ipv6Addr ++ [ip]
          ipv6Prefix := if isGlobalIpv6Addr ip then ip.extractLsb' 64 64 else w.ipv6Prefix }
    | .v4 ip =>
      if w.wanV4AddrSet && ip = w.wanV4Addr then w
      else { w with wanV4Addr := ip, wanV4AddrSet := true }

/-- `handle_route_add_evt` from the rules on. -/
def setUp (g : WanStatics) (w : Wan) (iptype : IpaIpType) : WanStatics × Wan :=
  let data : EventIfaceUp := match iptype with
    | .v4 => { ifname := w.devName, ipv4Addr := w.wanV4Addr, isSta := w.isSta }
    | .v6 => { ifname := w.devName, ipv6Prefix := w.ipv6Prefix, isSta := w.isSta }
  ({ g with
    wanUp := Function.update g.wanUp iptype true
    backhaulIpv6Prefix := match iptype with
      | .v4 => g.backhaulIpv6Prefix
      | .v6 => w.ipv6Prefix
    posted := g.posted ++ [.handleWanUp iptype data] },
    { w with active := Function.update w.active iptype true })

def handleRouteAddEvt (g : WanStatics) (w : Wan) (iptype : IpaIpType) : WanStatics × Wan :=
  if !w.hasTxProp then (g, w)
  else
    let w := { w with isDefaultGateway := true }
    if w.isSta then
      let g := { g with backhaulIsStaMode := true }
      if !w.headerSet iptype then
        (g, { w with headerPartialDefaultWan := Function.update w.headerPartialDefaultWan iptype true })
      else setUp g w iptype
    else
      let g := { g with backhaulIsStaMode := false }
      if w.numExtProps = 0 then (g, w) else setUp g w iptype

def postWanUpTetherEvt (g : WanStatics) (w : Wan) (iptype : IpaIpType) (ipaIfNumTether : Nat) : WanStatics :=
  let data : EventIfaceUpTether := match iptype with
    | .v4 => { ifIndexTether := ipaIfNumTether, isSta := w.isSta }
    | .v6 => { ifIndexTether := ipaIfNumTether, ipv6Prefix := w.ipv6Prefix, isSta := w.isSta }
  { g with
    ipaIfNumTether := Function.update g.ipaIfNumTether iptype (g.ipaIfNumTether iptype ++ [ipaIfNumTether])
    posted := g.posted ++ [.handleWanUpTether iptype data] }

def postWanDownTetherEvt (g : WanStatics) (w : Wan) (iptype : IpaIpType) (ipaIfNumTether : Nat) : WanStatics :=
  if ipaIfNumTether ∈ g.ipaIfNumTether iptype then
    { g with
      ipaIfNumTether := Function.update g.ipaIfNumTether iptype ((g.ipaIfNumTether iptype).erase ipaIfNumTether)
      posted := g.posted ++ [.handleWanDownTether iptype { ifIndexTether := ipaIfNumTether, isSta := w.isSta }] }
  else g

/-- `handle_route_del_evt`, and `handle_route_del_evt_ex` of a modem interface. -/
def handleRouteDelEvt (g : WanStatics) (w : Wan) (iptype : IpaIpType) : WanStatics × Wan :=
  if !w.hasTxProp then (g, w)
  else
    let w := { w with isDefaultGateway := false }
    if w.active iptype then
      let data : EventIfaceUp := match iptype with
        | .v4 => { ipv4Addr := w.wanV4Addr, isSta := w.isSta }
        | .v6 => { ipv6Prefix := w.ipv6Prefix, isSta := w.isSta }
      ({ g with
        wanUp := Function.update g.wanUp iptype false
        posted := g.posted ++ [.handleWanDown iptype data] },
        { w with active := Function.update w.active iptype false })
    else (g, w)

/-- What `handle_down_evt` does for a family. -/
def downFamily (g : WanStatics) (w : Wan) (iptype : IpaIpType) : WanStatics × Wan :=
  if w.active iptype then
    let (g, w) := handleRouteDelEvt g w iptype
    (postWanDownTetherEvt g w iptype 0, w)
  else (g, w)

def handleDownEvt (g : WanStatics) (w : Wan) : WanStatics :=
  if w.ipType = .null then g
  else
    let (g, w) := downFamily g w .v4
    (downFamily g w .v6).1

/-- What `handle_down_evt_ex` does for a family of the default gateway. -/
def downFamilyEx (g : WanStatics) (w : Wan) (iptype : IpaIpType) (tethers : List Nat) : WanStatics × Wan :=
  let g := { g with wanUp := Function.update g.wanUp iptype false }
  let (g, w) := handleRouteDelEvt g w iptype
  (tethers.foldl (fun g ifNum => postWanDownTetherEvt g w iptype ifNum) g, w)

def handleDownEvtEx (g : WanStatics) (w : Wan) : WanStatics :=
  match w.ipType with
  | .null => g
  | .only iptype =>
    if w.isDefaultGateway then (downFamilyEx g w iptype (g.ipaIfNumTether iptype)).1 else g
  | .max =>
    if w.isDefaultGateway then
      let (g, w) := downFamilyEx g w .v4 [0]
      (downFamilyEx g w .v6 [0]).1
    else g

/-- An upstream route of the family is for the interface. -/
def takesRoute (w : Wan) (iptype : IpaIpType) : Bool :=
  w.ipType.covers iptype && (iptype = .v4 || w.ipv6Prefix ≠ 0)

/-- `event_callback`. After `delete this` there is no interface. -/
def eventCallback (g : WanStatics) (w : Wan) : WanInput → WanStatics × Option Wan
  | .addrAdd ifNum addr =>
    if addr.isZero || ifNum ≠ w.ipaIfNum then (g, some w)
    else if addr.iptype = .v4 || w.ipv6Addr.length ≠ UplinkLan.maxDefaultV6RouteRules then
      (g, some (w.handleAddrEvt addr))
    else (g, some w)
  | .upstreamRouteAdd ifNum iptype =>
    if ifNum = w.ipaIfNum then
      if w.takesRoute iptype then
        let (g, w) := if w.active iptype then (g, w) else handleRouteAddEvt g w iptype
        (postWanUpTetherEvt g w iptype 0, some w)
      else (g, some w)
    -- another interface becomes the upstream
    else if w.active iptype then
      let (g, w) := handleRouteDelEvt g w iptype
      (g, some w)
    else (g, some w)
  | .upstreamRouteDel ifNum iptype =>
    if ifNum = w.ipaIfNum && w.active iptype then
      let (g, w) := handleRouteDelEvt (postWanDownTetherEvt g w iptype 0) w iptype
      (g, some w)
    else (g, some w)
  | .wlanLinkDown ifNum =>
    if w.isStaMode = .wlanWan ∧ ifNum = w.ipaIfNum then (handleDownEvt g w, none) else (g, some w)
  | .linkDown ifNum =>
    if ifNum = w.ipaIfNum then
      match w.isStaMode with
      | .q6Wan => (handleDownEvtEx g w, none)
      | .ecmWan => (handleDownEvt g w, none)
      | .wlanWan => (g, some w)
    else (g, some w)

end Wan

/-- The WAN interfaces, in the order in which they are registered with the dispatcher. -/
structure WanSystem where
  statics : WanStatics := {}
  wans : List Wan := []

inductive WanOp where
  | register (props : WanProps)
  | dispatch (e : WanInput)

namespace WanSystem

/-- An event goes to one interface after another. -/
def dispatch (e : WanInput) (g : WanStatics) : List Wan → WanStatics × List Wan
  | [] => (g, [])
  | w :: ws =>
    let (g, w) := w.eventCallback g e
    let (g, ws) := dispatch e g ws
    (g, w.toList ++ ws)

/-- An interface that is there already is not built again. -/
def step (s : WanSystem) : WanOp → Option WanSystem
  | .register props =>
    if ∃ w ∈ s.wans, w.ipaIfNum = props.ipaIfNum then some s
    else some { s with wans := s.wans ++ [{ props with }] }
  | .dispatch e =>
    let (g, ws) := dispatch e s.statics s.wans
    some ⟨g, ws⟩

end WanSystem

end DeviceHal.Ipacm
