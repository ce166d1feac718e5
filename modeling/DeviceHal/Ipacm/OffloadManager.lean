import DeviceHal.Lib.Run
import Mathlib.Data.List.FinRange

namespace DeviceHal.Ipacm

open Lib

inductive IpFam where
  | v4
  | v6
  | invalid
deriving DecidableEq

structure Ipv6Addr where
  w0 : UInt32 := 0
  w1 : UInt32 := 0
  w2 : UInt32 := 0
  w3 : UInt32 := 0
deriving DecidableEq

structure Prefix where
  fam : IpFam
  v4Addr : UInt32 := 0
  v4Mask : UInt32 := 0
  v6Addr : Ipv6Addr := {}
  v6Mask : Ipv6Addr := {}
deriving DecidableEq

inductive IpaIpType where
  | v4
  | v6
deriving DecidableEq

inductive OffloadEvt where
  | routeAdd (iptype : IpaIpType) (ifIndex : Int) (gwAddr : Prefix)
  | routeDel (iptype : IpaIpType) (ifIndex : Int) (gwAddr : Prefix)
  | downstreamAdd (ifIndex : Nat) (subnet : Prefix)
  | downstreamDel (ifIndex : Nat) (subnet : Prefix)
deriving DecidableEq

inductive Ret where
  | failInputCheck
  | failHardware
  | success
  | successDuplicateConfig
deriving DecidableEq

/-- A request that waits in the cache. -/
inductive FrameworkEvent where
  | downstreamAdd (devName : String) (prefixCache : Prefix)
  | routeAdd (devName : String) (prefixCache prefixCacheV6 : Prefix)
deriving DecidableEq

def FrameworkEvent.devName : FrameworkEvent → String
  | .downstreamAdd devName _ => devName
  | .routeAdd devName _ _ => devName

abbrev maxEventCache : Nat := 10

def invalidIface : Int := -1

/-- What the kernel and the NAT table say about interfaces, and which of the allocations of events
succeed. -/
structure OffloadEnv where
  ifIndex : String → Option Nat
  natIface : String → IpaIpType → Bool
  mallocOk : Nat → Bool

/-- A slot of the cache that is not valid is `none`. History: the number of allocations of events and
the events posted. -/
structure OffloadManager where
  validIfaces : List String := []
  upstreamV4Up : Bool := false
  upstreamV6Up : Bool := false
  defaultGwIndex : Int := invalidIface
  eventCache : Fin maxEventCache → Option FrameworkEvent := fun _ => none
  latestCacheIndex : Fin maxEventCache := 0
  mallocs : Nat := 0
  posted : List OffloadEvt := []

namespace OffloadManager

def up (iptype : IpaIpType) (m : OffloadManager) : Bool :=
  match iptype with
  | .v4 => m.upstreamV4Up
  | .v6 => m.upstreamV6Up

def setUp (iptype : IpaIpType) (b : Bool) (m : OffloadManager) : OffloadManager :=
  match iptype with
  | .v4 => { m with upstreamV4Up := b }
  | .v6 => { m with upstreamV6Up := b }

/-- Posts an event, if its memory can be allocated. -/
def post (env : OffloadEnv) (evt : OffloadEvt) (m : OffloadManager) : OffloadManager :=
  { m with
    mallocs := m.mallocs + 1
    posted := if env.mallocOk m.mallocs then m.posted ++ [evt] else m.posted }

/-- Clears the upstream of a family that is up. The event's fate is not looked at. -/
def cleanUpstream (env : OffloadEnv) (iptype : IpaIpType) (gwAddr : Prefix) (m : OffloadManager) :
    OffloadManager :=
  if m.up iptype then
    (m.post env (.routeDel iptype m.defaultGwIndex gwAddr)).setUp iptype false
  else m

def addUpstream (env : OffloadEnv) (iptype : IpaIpType) (index : Nat) (gwAddr : Prefix)
    (m : OffloadManager) : OffloadManager :=
  if m.up iptype then m
  -- an IPv6 gateway without an address is ignored
  else if iptype = .v6 ∧ gwAddr.v6Addr = {} then m
  else (m.post env (.routeAdd iptype index gwAddr)).setUp iptype true

/-- Looks for a free slot, `tries` slots at most. -/
def cacheEvent (evt : FrameworkEvent) : Nat → OffloadManager → Ret × OffloadManager
  | 0, m => (.failHardware, m)
  | tries + 1, m =>
    match m.eventCache m.latestCacheIndex with
    | none => (.success, { m with
        eventCache := Function.update m.eventCache m.latestCacheIndex (some evt)
        latestCacheIndex := m.latestCacheIndex + 1 })
    | some _ => cacheEvent evt tries { m with latestCacheIndex := m.latestCacheIndex + 1 }

def addDownstream (env : OffloadEnv) (downstreamName : String) (subnet : Prefix)
    (m : OffloadManager) : Ret × OffloadManager :=
  match env.ifIndex downstreamName with
  | none => (.failInputCheck, m)
  | some index =>
    let m := if downstreamName ∈ m.validIfaces then m
      else { m with validIfaces := m.validIfaces ++ [downstreamName] }
    let cacheNeed := subnet.fam = .v4 ∧ env.natIface downstreamName .v4 = false ∨
      subnet.fam = .v6 ∧ env.natIface downstreamName .v6 = false
    if cacheNeed then m.cacheEvent (.downstreamAdd downstreamName subnet) maxEventCache
    else (if env.mallocOk m.mallocs then .success else .failHardware,
      m.post env (.downstreamAdd index subnet))

def removeDownstream (env : OffloadEnv) (downstreamName : String) (subnet : Prefix)
    (m : OffloadManager) : Ret × OffloadManager :=
  if downstreamName = "" then (.failHardware, m)
  else if downstreamName ∉ m.validIfaces then (.failHardware, m)
  else
    match env.ifIndex downstreamName with
    | none => (.success, m)
    | some index =>
      (if env.mallocOk m.mallocs then .success else .failHardware,
        m.post env (.downstreamDel index subnet))

/-- `setUpstream` without an interface. -/
def clearUpstream (env : OffloadEnv) (gwAddrV4 gwAddrV6 : Prefix) (m : OffloadManager) :
    Ret × OffloadManager :=
  if m.defaultGwIndex = invalidIface then (.failInputCheck, m)
  else
    let m := if gwAddrV4.fam = .v4 then m.cleanUpstream env .v4 gwAddrV4 else m
    let m := if gwAddrV6.fam = .v6 then m.cleanUpstream env .v6 gwAddrV6 else m
    (.success, { m with defaultGwIndex := invalidIface })

/-- Both families of another interface are cleared. -/
def switchUpstream (env : OffloadEnv) (index : Nat) (gwAddrV4 gwAddrV6 : Prefix)
    (m : OffloadManager) : OffloadManager :=
  if (index : Int) ≠ m.defaultGwIndex then
    { (m.cleanUpstream env .v4 gwAddrV4).cleanUpstream env .v6 gwAddrV6 with
      defaultGwIndex := invalidIface }
  else m

/-- Clears the family that the gateways do not have. -/
def cleanOther (env : OffloadEnv) (iptype : IpaIpType) (gwAddr : Prefix) (m : OffloadManager) :
    OffloadManager :=
  if m.defaultGwIndex ≠ invalidIface then m.cleanUpstream env iptype gwAddr else m

/-- `setUpstream` for an interface that has finished its configuration. -/
def applyUpstream (env : OffloadEnv) (index : Nat) (gwAddrV4 gwAddrV6 : Prefix)
    (m : OffloadManager) : Ret × OffloadManager :=
  let m := m.switchUpstream env index gwAddrV4 gwAddrV6
  let r : Ret × OffloadManager :=
    if gwAddrV4.fam = .v4 ∧ gwAddrV6.fam = .v6 then
      (.success, (m.addUpstream env .v4 index gwAddrV4).addUpstream env .v6 index gwAddrV6)
    else if gwAddrV4.fam = .v4 then
      let m := m.cleanOther env .v6 gwAddrV6
      (if m.up .v4 then .successDuplicateConfig else .success,
        m.addUpstream env .v4 index gwAddrV4)
    else if gwAddrV6.fam = .v6 then
      let m := m.cleanOther env .v4 gwAddrV4
      (if m.up .v6 then .successDuplicateConfig else .success,
        m.addUpstream env .v6 index gwAddrV6)
    else (.success, m)
  (r.1, { r.2 with defaultGwIndex := index })

/-- An interface has not finished its configuration for a family of the gateways. -/
def CacheNeed (env : OffloadEnv) (upstreamName : String) (gwAddrV4 gwAddrV6 : Prefix) : Prop :=
  gwAddrV4.fam = .v4 ∧ env.natIface upstreamName .v4 = false ∨
    gwAddrV6.fam = .v6 ∧ env.natIface upstreamName .v6 = false

instance (env : OffloadEnv) (upstreamName : String) (gwAddrV4 gwAddrV6 : Prefix) :
    Decidable (CacheNeed env upstreamName gwAddrV4 gwAddrV6) :=
  inferInstanceAs (Decidable (_ ∨ _))

def setUpstream (env : OffloadEnv) (upstreamName : Option String) (gwAddrV4 gwAddrV6 : Prefix)
    (m : OffloadManager) : Ret × OffloadManager :=
  match upstreamName with
  | none => m.clearUpstream env gwAddrV4 gwAddrV6
  | some upstreamName =>
    match env.ifIndex upstreamName with
    | none => (.failInputCheck, m)
    | some index =>
      if CacheNeed env upstreamName gwAddrV4 gwAddrV6 then
        m.cacheEvent (.routeAdd upstreamName gwAddrV4 gwAddrV6) maxEventCache
      else m.applyUpstream env index gwAddrV4 gwAddrV6

def stopAllOffload (env : OffloadEnv) (m : OffloadManager) : Ret × OffloadManager :=
  let r := m.setUpstream env none ⟨.v4, 0, 0, {}, {}⟩ ⟨.v6, 0, 0, {}, {}⟩
  (r.1, { r.2 with
    defaultGwIndex := invalidIface
    upstreamV4Up := false
    upstreamV6Up := false
    eventCache := fun _ => none
    latestCacheIndex := 0
    validIfaces := [] })

def postAgain (env : OffloadEnv) (interfaceName : String) (evt : FrameworkEvent)
    (m : OffloadManager) : OffloadManager :=
  match evt with
  | .downstreamAdd _ prefixCache => (m.addDownstream env interfaceName prefixCache).2
  | .routeAdd _ prefixCache prefixCacheV6 =>
    (m.setUpstream env (some interfaceName) prefixCache prefixCacheV6).2

/-- Makes the request of a slot again if it is for the interface, and frees the slot. -/
def replay (env : OffloadEnv) (interfaceName : String) (m : OffloadManager)
    (i : Fin maxEventCache) : OffloadManager :=
  match m.eventCache i with
  | none => m
  | some evt =>
    if evt.devName = interfaceName then
      let m := m.postAgain env interfaceName evt
      { m with eventCache := Function.update m.eventCache i none }
    else m

def searchFramworkCache (env : OffloadEnv) (interfaceName : String) (m : OffloadManager) :
    OffloadManager :=
  (List.finRange maxEventCache).foldl (replay env interfaceName) m

end OffloadManager

/-- What the framework and the address events call. -/
inductive OffloadOp where
  | addDownstream (downstreamName : String) (subnet : Prefix)
  | removeDownstream (downstreamName : String) (subnet : Prefix)
  | setUpstream (upstreamName : Option String) (gwAddrV4 gwAddrV6 : Prefix)
  | stopAllOffload
  | searchFramworkCache (interfaceName : String)

namespace OffloadManager

def call (env : OffloadEnv) (m : OffloadManager) : OffloadOp → OffloadManager
  | .addDownstream downstreamName subnet => (m.addDownstream env downstreamName subnet).2
  | .removeDownstream downstreamName subnet => (m.removeDownstream env downstreamName subnet).2
  | .setUpstream upstreamName gwAddrV4 gwAddrV6 =>
    (m.setUpstream env upstreamName gwAddrV4 gwAddrV6).2
  | .stopAllOffload => (m.stopAllOffload env).2
  | .searchFramworkCache interfaceName => m.searchFramworkCache env interfaceName

/-- A call, with what the interfaces are like at the time. -/
def step (m : OffloadManager) (op : OffloadEnv × OffloadOp) : Option OffloadManager :=
  some (m.call op.1 op.2)

end OffloadManager

end DeviceHal.Ipacm
