import DeviceHal.Ipacm.OffloadManager
import DeviceHal.Lib.Handles

namespace DeviceHal.Ipacm

open Lib

abbrev MacAddr := Vector UInt8 6

instance MacAddr.lawfulBEq : LawfulBEq MacAddr := inferInstance

inductive HdrL2Type where
  | none
  | ethII
  | ieee8023
  | l2Max
deriving DecidableEq

abbrev maxNumProp : Nat := 2

abbrev maxNumIface : Nat := 10

abbrev maxNumClient : Nat := 16

abbrev maxNumCachedClientAddEvent : Nat := 10

/-- What is fixed of an interface. The handles of the rules for one family fill an array of
`MAX_NUM_PROP` entries. -/
structure LanProps where
  hasTxAndRxProp : Bool
  hdrL2Type : HdrL2Type
  isWlan : Bool
  isGuestAp : Bool
  eachClientRtRuleCount : IpaIpType → Nat
  ruleCount_le : ∀ iptype, eachClientRtRuleCount iptype ≤ maxNumProp

/-- The names of the routing tables between two header types and within an interface. -/
inductive RtTblName where
  | between (iptype : IpaIpType) (source dest : HdrL2Type)
  | intra (iptype : IpaIpType)
deriving DecidableEq

inductive CtxUse where
  | inter (peerL2Type : HdrL2Type)
  | intra
deriving DecidableEq

/-- What the driver holds: the rules are for a client, on the pipe of an interface. -/
inductive BridgeObject where
  | hdrProcCtx (iface : Nat) (use : CtxUse)
  | rtRule (iface : Nat) (mac : MacAddr) (rtTbl : RtTblName) (hdrProcCtx : Nat) (iptype : IpaIpType)
      (position : Nat)
  | fltRule (iface peer : Nat) (mac : MacAddr) (rtTbl : RtTblName) (iptype : IpaIpType)
deriving DecidableEq

/-- The client is that of the peer with the address: no two clients of an interface share one. -/
structure FltRuleInfo where
  mac : MacAddr
  fltRuleHdl : IpaIpType → Nat

structure PeerIfaceInfo where
  peer : Nat
  rtTblNameForRt : IpaIpType → RtTblName
  rtTblNameForFlt : IpaIpType → RtTblName
  fltRule : List FltRuleInfo := []

structure ClientInfo where
  mac : MacAddr
  interIfaceRtRuleHdl : HdrL2Type → IpaIpType → List Nat := fun _ _ => []
  intraIfaceRtRuleHdl : IpaIpType → List Nat := fun _ => []

structure LanToLanIface where
  isIpAddrAssigned : IpaIpType → Bool
  supportInterIfaceOffload : Bool
  supportIntraIfaceOffload : Bool
  refCntPeerL2HdrType : HdrL2Type → Int := fun _ => 0
  hdrProcCtxForInterInterface : HdrL2Type → Nat := fun _ => 0
  hdrProcCtxForIntraInterface : Nat := 0
  clientInfo : List ClientInfo := []
  peerIfaceInfo : List PeerIfaceInfo := []
  intraInterfaceInfo : PeerIfaceInfo := ⟨0, .intra, .intra, []⟩

/-- The list of interfaces names each by its `IPACM_Lan`. -/
structure LanToLan where
  mIface : List Nat := []
  node : Nat → LanToLanIface := fun _ => ⟨fun _ => false, false, false, fun _ => 0, fun _ => 0, 0, [],
    [], ⟨0, .intra, .intra, []⟩⟩
  cachedClientAddEvent : List (Nat × MacAddr) := []
  driver : Handles BridgeObject := {}

namespace LanToLanIface

variable (n : LanToLanIface)

/-- The entry for a peer. An interface is never its own peer: under its own name is what it keeps
for its own clients. -/
def peerInfo (self peer : Nat) : PeerIfaceInfo :=
  if peer = self then n.intraInterfaceInfo
  else (n.peerIfaceInfo.find? fun info => info.peer = peer).getD n.intraInterfaceInfo

def modifyPeerInfo (self peer : Nat) (f : PeerIfaceInfo → PeerIfaceInfo) : LanToLanIface :=
  if peer = self then { n with intraInterfaceInfo := f n.intraInterfaceInfo }
  else { n with peerIfaceInfo :=
    n.peerIfaceInfo.map fun info => if info.peer = peer then f info else info }

def modifyFltRule (self peer : Nat) (f : List FltRuleInfo → List FltRuleInfo) : LanToLanIface :=
  n.modifyPeerInfo self peer fun info => { info with fltRule := f info.fltRule }

def modifyClient (mac : MacAddr) (f : ClientInfo → ClientInfo) : LanToLanIface :=
  { n with clientInfo := n.clientInfo.map fun client => if client.mac = mac then f client else client }

def macs : List MacAddr := n.clientInfo.map ClientInfo.mac

def peers : List Nat := n.peerIfaceInfo.map PeerIfaceInfo.peer

end LanToLanIface

namespace LanToLan

variable (props : Nat → LanProps)

def modify (s : LanToLan) (i : Nat) (f : LanToLanIface → LanToLanIface) : LanToLan :=
  { s with node := Function.update s.node i (f (s.node i)) }

/-- One rule for each tx property of the family. -/
def ethBridgeAddRtRule (i : Nat) (mac : MacAddr) (rtTbl : RtTblName) (hdrProcCtx : Nat)
    (iptype : IpaIpType) (driver : Handles BridgeObject) : List Nat × Handles BridgeObject :=
  driver.addAll ((List.range ((props i).eachClientRtRuleCount iptype)).map
    (.rtRule i mac rtTbl hdrProcCtx iptype))

def bothHdls (v4 v6 : List Nat) : IpaIpType → List Nat
  | .v4 => v4
  | .v6 => v6

/-- The client with the handles of its rules toward a peer of `i`, or within `i`. -/
def setRtHdl (i peer : Nat) (hdls : IpaIpType → List Nat) (client : ClientInfo) : ClientInfo :=
  if peer = i then { client with intraIfaceRtRuleHdl := hdls }
  else { client with
    interIfaceRtRuleHdl := Function.update client.interIfaceRtRuleHdl (props peer).hdrL2Type hdls }

def rtHdlToward (i peer : Nat) (client : ClientInfo) : IpaIpType → List Nat :=
  if peer = i then client.intraIfaceRtRuleHdl
  else client.interIfaceRtRuleHdl (props peer).hdrL2Type

/-- Adds the routing rules of a client of `i` toward a peer, or of the client within `i`. -/
def addClientRtRule (i peer : Nat) (mac : MacAddr) (s : LanToLan) : LanToLan :=
  let info := (s.node i).peerInfo i peer
  let ctx := if peer = i then (s.node i).hdrProcCtxForIntraInterface
    else (s.node i).hdrProcCtxForInterInterface (props peer).hdrL2Type
  let v4 := ethBridgeAddRtRule props i mac (info.rtTblNameForRt .v4) ctx .v4 s.driver
  let v6 := ethBridgeAddRtRule props i mac (info.rtTblNameForRt .v6) ctx .v6 v4.2
  { s with driver := v6.2 }.modify i fun n =>
    n.modifyClient mac (setRtHdl props i peer (bothHdls v4.1 v6.1))

def delClientRtRule (i peer : Nat) (mac : MacAddr) (s : LanToLan) : LanToLan :=
  match (s.node i).clientInfo.find? fun client => client.mac = mac with
  | none => s
  | some client =>
    let hdls := rtHdlToward props i peer client
    { s with driver := (s.driver.delAll (hdls .v4)).delAll (hdls .v6) }.modify i fun n =>
      n.modifyClient mac (setRtHdl props i peer fun _ => [])

/-- The entry of a client, if there is one, or a new one takes the handle. -/
def insertFltHdl (mac : MacAddr) (iptype : IpaIpType) (hdl : Nat) (fltRule : List FltRuleInfo) :
    List FltRuleInfo :=
  if fltRule.any fun e => e.mac = mac then
    fltRule.map fun e => if e.mac = mac then ⟨mac, Function.update e.fltRuleHdl iptype hdl⟩ else e
  else ⟨mac, Function.update (fun _ => 0) iptype hdl⟩ :: fltRule

/-- Adds the filter rule on `i` for a client of the peer. -/
def addClientFltRule (i peer : Nat) (mac : MacAddr) (iptype : IpaIpType) (s : LanToLan) : LanToLan :=
  let info := (s.node i).peerInfo i peer
  let rule := s.driver.add (.fltRule i peer mac (info.rtTblNameForFlt iptype) iptype)
  { s with driver := rule.2 }.modify i fun n =>
    n.modifyFltRule i peer (insertFltHdl mac iptype rule.1)

/-- Deletes the rules of an entry, for the families that have an address. -/
def delFltHdls (n : LanToLanIface) (e : FltRuleInfo) (driver : Handles BridgeObject) :
    Handles BridgeObject :=
  let driver := if n.isIpAddrAssigned .v4 then driver.del (e.fltRuleHdl .v4) else driver
  if n.isIpAddrAssigned .v6 then driver.del (e.fltRuleHdl .v6) else driver

def delClientFltRule (i peer : Nat) (mac : MacAddr) (s : LanToLan) : LanToLan :=
  match ((s.node i).peerInfo i peer).fltRule.find? fun e => e.mac = mac with
  | none => s
  | some e =>
    { s with driver := delFltHdls (s.node i) e s.driver }.modify i fun n =>
      n.modifyFltRule i peer fun fltRule => fltRule.filter fun e => e.mac ≠ mac

def clearAllFltRuleForOnePeerIface (i peer : Nat) (s : LanToLan) : LanToLan :=
  let driver := ((s.node i).peerInfo i peer).fltRule.foldl
    (fun driver e => delFltHdls (s.node i) e driver) s.driver
  { s with driver }.modify i fun n => n.modifyFltRule i peer fun _ => []

def clearAllRtRuleForOnePeerIface (i peer : Nat) (s : LanToLan) : LanToLan :=
  if (s.node i).refCntPeerL2HdrType (props peer).hdrL2Type = 0 then
    (s.node i).macs.foldl (fun s mac => delClientRtRule props i peer mac s) s
  else s

def addHdrProcCtx (i : Nat) (peerL2Type : HdrL2Type) (s : LanToLan) : LanToLan :=
  if (s.node i).refCntPeerL2HdrType peerL2Type = 1 then
    let ctx := s.driver.add (.hdrProcCtx i (.inter peerL2Type))
    { s with driver := ctx.2 }.modify i fun n =>
      { n with hdrProcCtxForInterInterface :=
          Function.update n.hdrProcCtxForInterInterface peerL2Type ctx.1 }
  else s

def delHdrProcCtx (i : Nat) (peerL2Type : HdrL2Type) (s : LanToLan) : LanToLan :=
  if (s.node i).refCntPeerL2HdrType peerL2Type = 0 then
    { s with driver := s.driver.del ((s.node i).hdrProcCtxForInterInterface peerL2Type) }
  else s

def addRefCnt (i : Nat) (peerL2Type : HdrL2Type) (d : Int) (s : LanToLan) : LanToLan :=
  s.modify i fun n =>
    { n with refCntPeerL2HdrType :=
        Function.update n.refCntPeerL2HdrType peerL2Type (n.refCntPeerL2HdrType peerL2Type + d) }

/-- The peer is new to `i`. -/
def newPeer (i peer : Nat) (s : LanToLan) : LanToLan :=
  let own := (props i).hdrL2Type
  let hdrType := (props peer).hdrL2Type
  let info : PeerIfaceInfo :=
    ⟨peer, fun iptype => .between iptype hdrType own, fun iptype => .between iptype own hdrType, []⟩
  (addHdrProcCtx i hdrType (s.addRefCnt i hdrType 1)).modify i fun n =>
    { n with peerIfaceInfo := info :: n.peerIfaceInfo }

def handleNewIfaceUp (newIface existIface : Nat) (s : LanToLan) : LanToLan :=
  newPeer props newIface existIface (newPeer props existIface newIface s)

def addClientRtRuleForNewIface (i : Nat) (s : LanToLan) : LanToLan :=
  match (s.node i).peerIfaceInfo with
  | [] => s
  | front :: _ =>
    if (s.node i).refCntPeerL2HdrType (props front.peer).hdrL2Type = 1 then
      (s.node i).macs.foldl (fun s mac => addClientRtRule props i front.peer mac s) s
    else s

def addAllInterInterfaceClientFltRule (i : Nat) (iptype : IpaIpType) (s : LanToLan) : LanToLan :=
  (s.node i).peers.foldl (fun s peer =>
    (s.node peer).macs.foldl (fun s mac => addClientFltRule i peer mac iptype s) s) s

def addAllIntraInterfaceClientFltRule (i : Nat) (iptype : IpaIpType) (s : LanToLan) : LanToLan :=
  (s.node i).macs.foldl (fun s mac => addClientFltRule i i mac iptype s) s

def addAssignedFltRule (i peer : Nat) (mac : MacAddr) (iptype : IpaIpType) (s : LanToLan) : LanToLan :=
  if (s.node i).isIpAddrAssigned iptype then addClientFltRule i peer mac iptype s else s

/-- Adds the filter rules on `i` for the families that have an address. -/
def addClientFltRules (i peer : Nat) (mac : MacAddr) (s : LanToLan) : LanToLan :=
  addAssignedFltRule i peer mac .v6 (addAssignedFltRule i peer mac .v4 s)

def addOneClientFltRule (i peer : Nat) (mac : MacAddr) (s : LanToLan) : LanToLan :=
  if peer ∈ (s.node i).peers then addClientFltRules i peer mac s else s

def delOneClientFltRule (i peer : Nat) (mac : MacAddr) (s : LanToLan) : LanToLan :=
  if peer ∈ (s.node i).peers then delClientFltRule i peer mac s else s

/-- The rules toward the peers of `i` for a new client: the routing rules once for each header type,
and a filter rule on each peer. -/
def addRulesTowardPeer (i : Nat) (mac : MacAddr) (r : (HdrL2Type → Bool) × LanToLan) (peer : Nat) :
    (HdrL2Type → Bool) × LanToLan :=
  let hdrType := (props peer).hdrL2Type
  let s := if r.1 hdrType = false then addClientRtRule props i peer mac r.2 else r.2
  (Function.update r.1 hdrType true, addOneClientFltRule peer i mac s)

def addInterInterfaceRules (i : Nat) (mac : MacAddr) (s : LanToLan) : LanToLan :=
  if (s.node i).supportInterIfaceOffload then
    ((s.node i).peers.foldl (addRulesTowardPeer props i mac) (fun _ => false, s)).2
  else s

def addIntraInterfaceRules (i : Nat) (mac : MacAddr) (s : LanToLan) : LanToLan :=
  if (s.node i).supportIntraIfaceOffload then
    addClientFltRules i i mac (addClientRtRule props i i mac s)
  else s

def ifaceClientAdd (i : Nat) (mac : MacAddr) (s : LanToLan) : LanToLan :=
  if mac ∈ (s.node i).macs then s
  else if (s.node i).clientInfo.length = maxNumClient then s
  else
    let s := s.modify i fun n => { n with clientInfo := ⟨mac, fun _ _ => [], fun _ => []⟩ :: n.clientInfo }
    addIntraInterfaceRules props i mac (addInterInterfaceRules props i mac s)

def delRulesTowardPeer (i : Nat) (mac : MacAddr) (r : (HdrL2Type → Bool) × LanToLan) (peer : Nat) :
    (HdrL2Type → Bool) × LanToLan :=
  let hdrType := (props peer).hdrL2Type
  let s := delOneClientFltRule peer i mac r.2
  (Function.update r.1 hdrType true,
    if r.1 hdrType = false then delClientRtRule props i peer mac s else s)

def delInterInterfaceRules (i : Nat) (mac : MacAddr) (s : LanToLan) : LanToLan :=
  if (s.node i).supportInterIfaceOffload then
    ((s.node i).peers.foldl (delRulesTowardPeer props i mac) (fun _ => false, s)).2
  else s

def delIntraInterfaceRules (i : Nat) (mac : MacAddr) (s : LanToLan) : LanToLan :=
  if (s.node i).supportIntraIfaceOffload then
    delClientRtRule props i i mac (delClientFltRule i i mac s)
  else s

def ifaceClientDel (i : Nat) (mac : MacAddr) (s : LanToLan) : LanToLan :=
  if mac ∈ (s.node i).macs then
    (delIntraInterfaceRules props i mac (delInterInterfaceRules props i mac s)).modify i fun n =>
      { n with clientInfo := n.clientInfo.filter fun client => client.mac ≠ mac }
  else s

/-- The peer takes `i` off its list. -/
def leftByPeer (i peer : Nat) (s : LanToLan) : LanToLan :=
  if i ∈ (s.node peer).peers then
    let s := clearAllRtRuleForOnePeerIface props peer i (clearAllFltRuleForOnePeerIface peer i s)
    let s := s.modify peer fun n =>
      { n with peerIfaceInfo := n.peerIfaceInfo.filter fun info => info.peer ≠ i }
    delHdrProcCtx peer (props i).hdrL2Type s
  else s

/-- `i` leaves one of its peers. -/
def leavePeer (i : Nat) (s : LanToLan) (peer : Nat) : LanToLan :=
  let own := (props i).hdrL2Type
  let hdrType := (props peer).hdrL2Type
  let s := (s.addRefCnt i hdrType (-1)).addRefCnt peer own (-1)
  let s := leftByPeer props i peer (clearAllFltRuleForOnePeerIface i peer s)
  delHdrProcCtx i hdrType (clearAllRtRuleForOnePeerIface props i peer s)

def leavePeers (i : Nat) (s : LanToLan) : LanToLan :=
  if (s.node i).supportInterIfaceOffload then
    ((s.node i).peers.foldl (leavePeer props i) s).modify i fun n => { n with peerIfaceInfo := [] }
  else s

def clearIntraInterface (i : Nat) (s : LanToLan) : LanToLan :=
  if (s.node i).supportIntraIfaceOffload then
    let s := clearAllRtRuleForOnePeerIface props i i (clearAllFltRuleForOnePeerIface i i s)
    { s with driver := s.driver.del (s.node i).hdrProcCtxForIntraInterface }
  else s

def handleDownEvent (i : Nat) (s : LanToLan) : LanToLan :=
  (clearIntraInterface props i (leavePeers props i s)).modify i fun n => { n with clientInfo := [] }

def handleIntraInterfaceInfo (i : Nat) (s : LanToLan) : LanToLan :=
  let ctx := s.driver.add (.hdrProcCtx i .intra)
  { s with driver := ctx.2 }.modify i fun n => { n with
    intraInterfaceInfo := { n.intraInterfaceInfo with
      peer := i, rtTblNameForFlt := .intra, rtTblNameForRt := .intra }
    hdrProcCtxForIntraInterface := ctx.1 }

/-- The client is added to its interface, or the event is cached. -/
def handleClientAdd (i : Nat) (mac : MacAddr) (s : LanToLan) : LanToLan :=
  if i ∈ s.mIface then ifaceClientAdd props i mac s
  else if s.cachedClientAddEvent.length < maxNumCachedClientAddEvent then
    { s with cachedClientAddEvent := (i, mac) :: s.cachedClientAddEvent }
  else s

def handleClientDel (i : Nat) (mac : MacAddr) (s : LanToLan) : LanToLan :=
  if i ∈ s.mIface then ifaceClientDel props i mac s else s

def clearCachedClientAddEvent (i : Nat) (s : LanToLan) : LanToLan :=
  { s with cachedClientAddEvent := s.cachedClientAddEvent.filter fun e => e.1 ≠ i }

/-- The events cached for an interface are handled, the newest first. -/
def handleCachedClientAddEvent (i : Nat) (s : LanToLan) : LanToLan :=
  clearCachedClientAddEvent i
    ((s.cachedClientAddEvent.filter fun e => e.1 = i).foldl (fun s e => handleClientAdd props i e.2 s) s)

/-- The peers of a new interface, and the rules for their clients. -/
def meetIface (i : Nat) (s : LanToLan) (exist : Nat) : LanToLan :=
  if (s.node exist).supportInterIfaceOffload then
    addClientRtRuleForNewIface props exist (handleNewIfaceUp props i exist s)
  else s

/-- The interface as it is constructed, with an address of one family. -/
def newIface (i : Nat) (iptype : IpaIpType) : LanToLanIface where
  isIpAddrAssigned iptype' := iptype' = iptype
  supportInterIfaceOffload := !((props i).isWlan && (props i).isGuestAp)
  supportIntraIfaceOffload := (props i).isWlan

/-- The interface has its first address of a family. -/
def assignIpAddr (i : Nat) (iptype : IpaIpType) (s : LanToLan) : LanToLan :=
  s.modify i fun n => { n with isIpAddrAssigned := Function.update n.isIpAddrAssigned iptype true }

def addFltRulesOfPeers (i : Nat) (iptype : IpaIpType) (s : LanToLan) : LanToLan :=
  if (s.node i).supportInterIfaceOffload then addAllInterInterfaceClientFltRule i iptype s else s

def addFltRulesOfOwn (i : Nat) (iptype : IpaIpType) (s : LanToLan) : LanToLan :=
  if (s.node i).supportIntraIfaceOffload then addAllIntraInterfaceClientFltRule i iptype s else s

def meetIfaces (i : Nat) (iptype : IpaIpType) (exist : List Nat) (s : LanToLan) : LanToLan :=
  if (s.node i).supportInterIfaceOffload then
    addAllInterInterfaceClientFltRule i iptype (exist.foldl (meetIface props i) s)
  else s

def populateIntraInterface (i : Nat) (s : LanToLan) : LanToLan :=
  if (s.node i).supportIntraIfaceOffload then handleIntraInterfaceInfo i s else s

def insertIface (i : Nat) (iptype : IpaIpType) (s : LanToLan) : LanToLan :=
  { s with mIface := i :: s.mIface }.modify i fun _ => newIface props i iptype

def handleIfaceUp (i : Nat) (iptype : IpaIpType) (s : LanToLan) : LanToLan :=
  if i ∈ s.mIface then
    if (s.node i).isIpAddrAssigned iptype = false then
      addFltRulesOfOwn i iptype (addFltRulesOfPeers i iptype (assignIpAddr i iptype s))
    else s
  else if s.mIface.length = maxNumIface then s
  else if (props i).hasTxAndRxProp = false then s
  else if (props i).hdrL2Type = .none ∨ (props i).hdrL2Type = .l2Max then s
  else
    handleCachedClientAddEvent props i (populateIntraInterface i
      (meetIfaces props i iptype s.mIface (insertIface props i iptype s)))

def handleIfaceDown (i : Nat) (s : LanToLan) : LanToLan :=
  if i ∈ s.mIface then
    let s := handleDownEvent props i s
    { s with mIface := s.mIface.filter fun j => j ≠ i }
  else clearCachedClientAddEvent i s

end LanToLan

/-- The events of an interface and of its clients. -/
inductive BridgeEvent where
  | ifaceUp (iface : Nat) (iptype : IpaIpType)
  | ifaceDown (iface : Nat)
  | clientAdd (iface : Nat) (mac : MacAddr)
  | clientDel (iface : Nat) (mac : MacAddr)
deriving DecidableEq

namespace LanToLan

def eventCallback (props : Nat → LanProps) (s : LanToLan) : BridgeEvent → LanToLan
  | .ifaceUp i iptype => handleIfaceUp props i iptype s
  | .ifaceDown i => handleIfaceDown props i s
  | .clientAdd i mac => handleClientAdd props i mac s
  | .clientDel i mac => handleClientDel props i mac s

def step (props : Nat → LanProps) (s : LanToLan) (evt : BridgeEvent) : Option LanToLan :=
  some (eventCallback props s evt)

end LanToLan

end DeviceHal.Ipacm
