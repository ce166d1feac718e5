import DeviceHal.Ipacm.NatApp

namespace DeviceHal.Ipacm

open Lib

universe v

def maxIfaceAddress : Nat := 50

def maxStaClntIfaces : Nat := 10

def staClntSubnetMask : UInt32 := 0xFFFFFF00

def ipprotoTcp : UInt8 := 6

def ipprotoUdp : UInt8 := 17

def tcpConntrackEstablished : UInt8 := 3

def tcpConntrackFinWait : UInt8 := 4

/-- A connection, by the attributes of its `nf_conntrack` in host order. The last two are the NAT
bits of its status. -/
structure Conntrack where
  origIpv4Src : UInt32
  origIpv4Dst : UInt32
  replIpv4Src : UInt32
  origPortSrc : UInt16
  origPortDst : UInt16
  replPortSrc : UInt16
  replPortDst : UInt16
  origL4proto : UInt8
  replL4proto : UInt8
  dstNat : Bool
  srcNat : Bool
deriving DecidableEq, Repr

inductive NfctMsgType where
  | new
  | update
  | destroy
deriving DecidableEq, Repr

structure CtMessage where
  ct : Conntrack
  type : NfctMsgType
  tcpState : UInt8
deriving DecidableEq, Repr

structure PrivateSubnet where
  subnetAddr : UInt32
  subnetMask : UInt32
deriving DecidableEq, Repr

/-- What the listener reads of the configuration and of the WAN interface. -/
structure IpacmConfig where
  ipPassthroughMode : Bool
  wanIp : UInt32
  privateSubnetTable : List PrivateSubnet
deriving DecidableEq, Repr

def IpacmConfig.isPrivateSubnet (cfg : IpacmConfig) (ipAddr : UInt32) : Bool :=
  cfg.privateSubnetTable.any fun s => s.subnetAddr = s.subnetMask &&& ipAddr

/-- `ipacm_event_data_all`, with what the system says of the interface: its name, if it has one,
and the names of the NAT interfaces. -/
structure NeighEvent where
  ipv4Addr : UInt32
  isV4 : Bool
  ifrName : Option String
  natIfaces : List String
deriving DecidableEq, Repr

/-- Whether the interface is a NAT interface, if that can be found out. -/
def checkNatIface (data : NeighEvent) : Option Bool :=
  if data.ipv4Addr = 0 ∨ data.isV4 = false then none
  else data.ifrName.map fun name => data.natIfaces.any (· = name)

inductive NatStatus where
  | dstNat
  | srcNat
deriving DecidableEq, Repr

structure Listener (δ : Type v) where
  wanUp : Bool
  wanIpaddr : UInt32
  isStaMode : Bool
  natIfaceIpv4Addr : List UInt32
  nonnatIfaceIpv4Addr : List UInt32
  staClntIpv4Addr : List UInt32
  staClntCnt : Nat
  natInst : NatApp Conntrack δ

namespace Listener

variable {δ : Type v}

/-- A new listener. The constructor leaves `wan_ipaddr` and `isStaMode` as they are. -/
def init (wanIpaddr : UInt32) (isStaMode : Bool) (natInst : NatApp Conntrack δ) : Listener δ where
  wanUp := false
  wanIpaddr := wanIpaddr
  isStaMode := isStaMode
  natIfaceIpv4Addr := List.replicate maxIfaceAddress 0
  nonnatIfaceIpv4Addr := List.replicate maxIfaceAddress 0
  staClntIpv4Addr := List.replicate maxStaClntIfaces 0
  staClntCnt := 0
  natInst := natInst

/-- The kind of NAT, from the status or by the WAN address. -/
def natStatus (ct : Conntrack) (s : Listener δ) : Option NatStatus :=
  if ct.dstNat then some .dstNat
  else if ct.srcNat then some .srcNat
  else if ct.origIpv4Src = 0 then none
  else if ct.origIpv4Dst = 0 then none
  else if ct.origIpv4Src = s.wanIpaddr then some .srcNat
  else if ct.origIpv4Dst = s.wanIpaddr then some .dstNat
  else none

/-- The entry of a connection. Its history variable says whose it is. -/
def populateTCPorUDPEntry (ct : Conntrack) (publicIp : UInt32) : NatStatus → NatTableEntry Conntrack
  | .dstNat =>
    { protocol := ct.replL4proto
      dstNat := true
      targetIp := ct.origIpv4Src
      targetPort := ct.origPortSrc
      publicPort := ct.origPortDst
      privateIp := ct.replIpv4Src
      privatePort := ct.replPortSrc
      publicIp
      origin := some ct }
  | .srcNat =>
    { protocol := ct.replL4proto
      dstNat := false
      targetIp := ct.origIpv4Dst
      targetPort := ct.origPortDst
      publicPort := ct.replPortDst
      privateIp := ct.origIpv4Src
      privatePort := ct.origPortSrc
      publicIp
      origin := some ct }

/-- Whether one of the addresses is that of the connection. -/
def matchesIface (addrs : List UInt32) (rule : NatTableEntry Conntrack) : Bool :=
  addrs.any fun addr => addr ≠ 0 ∧ (rule.privateIp = addr ∨ rule.targetIp = addr)

/-- The entry for its interface, and whether it is a temporary one. -/
def addIface (cfg : IpacmConfig) (rule : NatTableEntry Conntrack) (s : Listener δ) :
    Option (NatTableEntry Conntrack × Bool) :=
  if cfg.ipPassthroughMode ∧ rule.privateIp = cfg.wanIp then some (rule, false)
  else if matchesIface s.natIfaceIpv4Addr rule then some (rule, false)
  else if s.isStaMode = false ∧ matchesIface s.nonnatIfaceIpv4Addr rule then
    -- a dummy rule, with the public address for the private one
    some ({ rule with privateIp := rule.publicIp, privatePort := rule.publicPort }, false)
  else if cfg.isPrivateSubnet rule.privateIp ∨ cfg.isPrivateSubnet rule.targetIp then
    some (rule, true)
  else none

/-- Outside of the clients known, a connection in STA mode is temporary. -/
def checkSTAClient (rule : NatTableEntry Conntrack) (isTempEntry : Bool) (s : Listener δ) : Bool :=
  if s.isStaMode = false ∨ s.staClntCnt = 0 then isTempEntry
  else if s.staClntIpv4Addr.headD 0 &&& staClntSubnetMask ≠ rule.targetIp &&& staClntSubnetMask then
    isTempEntry
  else if (s.staClntIpv4Addr.take s.staClntCnt).any (rule.targetIp = ·) then isTempEntry
  else true

/-- The entry for its interface; one of the device itself gets a dummy rule. -/
def ifaceEntry (cfg : IpacmConfig) (rule : NatTableEntry Conntrack) (s : Listener δ) :
    Option (NatTableEntry Conntrack × Bool) :=
  if rule.privateIp ≠ s.wanIpaddr then s.addIface cfg rule
  else if s.isStaMode then none
  else some ({ rule with privatePort := rule.publicPort }, false)

/-- The entry that a message comes to `AddORDeleteNatEntry` with, and whether it is a temporary
one. The message is ignored if there is none. -/
def natEntry (cfg : IpacmConfig) (ct : Conntrack) (s : Listener δ) :
    Option (NatTableEntry Conntrack × Bool) := do
  let status ← s.natStatus ct
  let (rule, isTempEntry) ← s.ifaceEntry cfg (populateTCPorUDPEntry ct s.wanIpaddr status)
  return (rule, s.checkSTAClient rule isTempEntry)

end Listener

/-- What `AddORDeleteNatEntry` does for a message. -/
inductive NatEntryAct where
  | add
  | delete
  | ignore
deriving DecidableEq, Repr

def natEntryAct (protocol : UInt8) (type : NfctMsgType) (tcpState : UInt8) : NatEntryAct :=
  if protocol = ipprotoTcp then
    if tcpState = tcpConntrackEstablished then .add
    else if tcpState = tcpConntrackFinWait ∨ type = .destroy then .delete
    else .ignore
  else if protocol = ipprotoUdp then
    if type = .new then .add
    else if type = .destroy then .delete
    else .ignore
  else .ignore

namespace Listener

variable {δ : Type v} (drv : NatDriver δ)

def addORDeleteNatEntry (msg : CtMessage) (rule : NatTableEntry Conntrack) (isTempEntry : Bool)
    (s : Listener δ) : Listener δ :=
  match natEntryAct rule.protocol msg.type msg.tcpState with
  | .add =>
    if s.wanUp = false then { s with natInst := s.natInst.cacheEntry rule }
    else if isTempEntry then { s with natInst := s.natInst.addTempEntry rule }
    else { s with natInst := (s.natInst.addEntry drv rule).2 }
  | .delete => { s with natInst := (s.natInst.deleteEntry drv rule).2.deleteTempEntry rule }
  | .ignore => s

def processTCPorUDPMsg (cfg : IpacmConfig) (msg : CtMessage) (s : Listener δ) : Listener δ :=
  match s.natEntry cfg msg.ct with
  | none => s
  | some (rule, isTempEntry) => s.addORDeleteNatEntry drv msg rule isTempEntry

def processCTMessage (cfg : IpacmConfig) (msg : CtMessage) (s : Listener δ) : Listener δ :=
  if ipprotoUdp ≠ msg.ct.origL4proto ∧ ipprotoTcp ≠ msg.ct.origL4proto then s
  else s.processTCPorUDPMsg drv cfg msg

def handleNonNatIPAddr (data : NeighEvent) (addOp : Bool) (s : Listener δ) : Listener δ :=
  if s.isStaMode then s
  else if addOp then
    if checkNatIface data = some false then
      let cnt := s.nonnatIfaceIpv4Addr.findIdx (· = 0)
      if cnt < s.nonnatIfaceIpv4Addr.length then
        { s with
          nonnatIfaceIpv4Addr := s.nonnatIfaceIpv4Addr.set cnt data.ipv4Addr
          natInst := s.natInst.flushTempEntries drv data.ipv4Addr true true }
      else s
    else s
  else
    let cnt := s.nonnatIfaceIpv4Addr.findIdx (· = data.ipv4Addr)
    if cnt < s.nonnatIfaceIpv4Addr.length then
      { s with
        nonnatIfaceIpv4Addr := s.nonnatIfaceIpv4Addr.set cnt 0
        natInst := ((s.natInst.flushTempEntries drv data.ipv4Addr false false).delEntriesOnClntDiscon
          drv data.ipv4Addr).2 }
    else s

def handleNeighIpAddrAddEvt (data : NeighEvent) (s : Listener δ) : Listener δ :=
  if checkNatIface data = some true then
    let j := s.natIfaceIpv4Addr.findIdx fun addr => addr = data.ipv4Addr ∨ addr = 0
    if j < s.natIfaceIpv4Addr.length then
      { s with
        natIfaceIpv4Addr := s.natIfaceIpv4Addr.set j data.ipv4Addr
        natInst := (s.natInst.resetPwrSaveIf drv data.ipv4Addr).2.flushTempEntries drv
          data.ipv4Addr true false }
    else s
  else s

def handleNeighIpAddrDelEvt (ipv4Addr : UInt32) (s : Listener δ) : Listener δ :=
  if ipv4Addr = 0 then s
  else
    let (natIfaceIpv4Addr, natInst) := forCells (fun addr (natInst : NatApp Conntrack δ) =>
        if addr = ipv4Addr then
          (0, ((natInst.flushTempEntries drv ipv4Addr false false).delEntriesOnClntDiscon
            drv ipv4Addr).2)
        else (addr, natInst)) s.natIfaceIpv4Addr s.natInst
    { s with natIfaceIpv4Addr, natInst }

def handleSTAClientAddEvt (clntIpAddr : UInt32) (s : Listener δ) : Listener δ :=
  if s.staClntCnt ≥ maxStaClntIfaces then s
  else
    let cnt := s.staClntIpv4Addr.findIdx fun addr => (addr ≠ 0 ∧ addr = clntIpAddr) ∨ addr = 0
    let s := if s.staClntIpv4Addr[cnt]? = some 0 then
        { s with
          staClntIpv4Addr := s.staClntIpv4Addr.set cnt clntIpAddr
          staClntCnt := s.staClntCnt + 1 }
      else s
    { s with natInst := s.natInst.flushTempEntries drv clntIpAddr true false }

def handleSTAClientDelEvt (clntIpAddr : UInt32) (s : Listener δ) : Listener δ :=
  let cnt := s.staClntIpv4Addr.findIdx fun addr => addr ≠ 0 ∧ addr = clntIpAddr
  let s := if cnt < s.staClntIpv4Addr.length then
      { s with
        staClntIpv4Addr := s.staClntIpv4Addr.set cnt 0
        natInst := (s.natInst.delEntriesOnSTAClntDiscon drv clntIpAddr).2
        staClntCnt := s.staClntCnt - 1 }
    else s
  { s with natInst := s.natInst.flushTempEntries drv clntIpAddr false false }

def triggerWANDown (wanAddr : UInt32) (s : Listener δ) : Listener δ :=
  let (ret, natInst) := s.natInst.deleteTable drv wanAddr
  if ret ≠ 0 then { s with natInst } else { s with natInst, wanUp := false, wanIpaddr := 0 }

/-- The state in which `TriggerWANUp` goes on to make a table. It returns before if there is
none. -/
def wanUpReady (ipv4Addr : UInt32) (s : Listener δ) : Option (Listener δ) :=
  if ipv4Addr = 0 then none
  else if s.wanUp then
    if s.wanIpaddr ≠ ipv4Addr then some (s.triggerWANDown drv s.wanIpaddr) else none
  else some s

def triggerWANUp (ipv4Addr : UInt32) (isSta : Bool) (s : Listener δ) : Listener δ :=
  match s.wanUpReady drv ipv4Addr with
  | none => s
  | some s =>
    { s with
      wanUp := true
      isStaMode := isSta
      wanIpaddr := ipv4Addr
      natInst := (s.natInst.addTable drv ipv4Addr).2 }

end Listener

/-- The events of the listener, and the calls of the interface objects. -/
inductive ListenerEvent where
  | ctMessage (cfg : IpacmConfig) (msg : CtMessage)
  | wanUp (ipv4Addr : UInt32) (isSta : Bool)
  | wanDown (ipv4Addr : UInt32)
  | neighClientIpAddrAdd (data : NeighEvent)
  | neighClientIpAddrDel (data : NeighEvent)
  | handleNeighIpAddrAddEvt (data : NeighEvent)
  | handleNeighIpAddrDelEvt (ipv4Addr : UInt32)
  | handleSTAClientAddEvt (clntIpAddr : UInt32)
  | handleSTAClientDelEvt (clntIpAddr : UInt32)

def listenerStep {δ : Type v} (drv : NatDriver δ) (s : Listener δ) : ListenerEvent → Listener δ
  | .ctMessage cfg msg => s.processCTMessage drv cfg msg
  | .wanUp ipv4Addr isSta => s.triggerWANUp drv ipv4Addr isSta
  | .wanDown ipv4Addr => if s.wanUp then s.triggerWANDown drv ipv4Addr else s
  | .neighClientIpAddrAdd data => s.handleNonNatIPAddr drv data true
  | .neighClientIpAddrDel data => s.handleNonNatIPAddr drv data false
  | .handleNeighIpAddrAddEvt data => s.handleNeighIpAddrAddEvt drv data
  | .handleNeighIpAddrDelEvt ipv4Addr => s.handleNeighIpAddrDelEvt drv ipv4Addr
  | .handleSTAClientAddEvt clntIpAddr => s.handleSTAClientAddEvt drv clntIpAddr
  | .handleSTAClientDelEvt clntIpAddr => s.handleSTAClientDelEvt drv clntIpAddr

end DeviceHal.Ipacm
