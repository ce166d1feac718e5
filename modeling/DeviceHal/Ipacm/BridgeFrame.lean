import DeviceHal.Ipacm.LanToLan

namespace DeviceHal.Ipacm

open Lib

/-- What the rules of an interface are for. -/
@[ext]
structure NodeFrame where
  assigned : IpaIpType → Bool
  inter : Bool
  intra : Bool
  refCnt : HdrL2Type → Int
  macs : List MacAddr
  peers : List Nat

namespace LanToLanIface

variable {n : LanToLanIface} {self peer : Nat}

def frame (n : LanToLanIface) : NodeFrame where
  assigned := n.isIpAddrAssigned
  inter := n.supportInterIfaceOffload
  intra := n.supportIntraIfaceOffload
  refCnt := n.refCntPeerL2HdrType
  macs := n.macs
  peers := n.peers

theorem frame_modifyClient {mac : MacAddr} {f : ClientInfo → ClientInfo}
    (h : ∀ client, (f client).mac = client.mac) : (n.modifyClient mac f).frame = n.frame := by
  refine NodeFrame.ext rfl rfl rfl rfl ?_ rfl
  simp only [frame, macs, modifyClient, List.map_map]
  refine List.map_congr_left fun client _ => ?_
  simp only [Function.comp]
  split
  · exact h client
  · rfl

theorem frame_modifyPeerInfo {f : PeerIfaceInfo → PeerIfaceInfo} (h : ∀ info, (f info).peer = info.peer) :
    (n.modifyPeerInfo self peer f).frame = n.frame := by
  unfold modifyPeerInfo
  split
  · rfl
  · refine NodeFrame.ext rfl rfl rfl rfl rfl ?_
    simp only [frame, peers, List.map_map]
    refine List.map_congr_left fun info _ => ?_
    grind

theorem frame_modifyFltRule {f : List FltRuleInfo → List FltRuleInfo} :
    (n.modifyFltRule self peer f).frame = n.frame := frame_modifyPeerInfo fun _ => rfl

end LanToLanIface

namespace LanToLan

variable {props : Nat → LanProps} {s t : LanToLan}

/-- Only rules and their handles differ. -/
structure SameFrame (s t : LanToLan) : Prop where
  mIface : t.mIface = s.mIface
  cached : t.cachedClientAddEvent = s.cachedClientAddEvent
  frame : ∀ i, (t.node i).frame = (s.node i).frame

namespace SameFrame

theorem refl (s : LanToLan) : SameFrame s s := ⟨rfl, rfl, fun _ => rfl⟩

theorem trans {u : LanToLan} (h : SameFrame s t) (h' : SameFrame t u) : SameFrame s u :=
  ⟨h'.mIface.trans h.mIface, h'.cached.trans h.cached, fun i => (h'.frame i).trans (h.frame i)⟩

theorem driver (h : SameFrame s t) (driver : Handles BridgeObject) :
    SameFrame s { t with driver } := ⟨h.mIface, h.cached, h.frame⟩

theorem foldl {α : Type} {f : LanToLan → α → LanToLan} (h : ∀ s x, SameFrame s (f s x))
    (l : List α) (s : LanToLan) : SameFrame s (l.foldl f s) := by
  induction l generalizing s with
  | nil => exact refl s
  | cons x l ih => exact (h s x).trans (ih (f s x))

theorem assigned (h : SameFrame s t) (i : Nat) :
    (t.node i).isIpAddrAssigned = (s.node i).isIpAddrAssigned := congrArg NodeFrame.assigned (h.frame i)

theorem inter (h : SameFrame s t) (i : Nat) :
    (t.node i).supportInterIfaceOffload = (s.node i).supportInterIfaceOffload :=
  congrArg NodeFrame.inter (h.frame i)

theorem intra (h : SameFrame s t) (i : Nat) :
    (t.node i).supportIntraIfaceOffload = (s.node i).supportIntraIfaceOffload :=
  congrArg NodeFrame.intra (h.frame i)

theorem refCnt (h : SameFrame s t) (i : Nat) :
    (t.node i).refCntPeerL2HdrType = (s.node i).refCntPeerL2HdrType :=
  congrArg NodeFrame.refCnt (h.frame i)

theorem macs (h : SameFrame s t) (i : Nat) : (t.node i).macs = (s.node i).macs :=
  congrArg NodeFrame.macs (h.frame i)

theorem peers (h : SameFrame s t) (i : Nat) : (t.node i).peers = (s.node i).peers :=
  congrArg NodeFrame.peers (h.frame i)

end SameFrame

@[simp]
theorem node_modify_self (s : LanToLan) (i : Nat) (f : LanToLanIface → LanToLanIface) :
    (s.modify i f).node i = f (s.node i) := Function.update_self ..

theorem node_modify_of_ne {i j : Nat} (hj : j ≠ i) (f : LanToLanIface → LanToLanIface) :
    (s.modify i f).node j = s.node j := Function.update_of_ne hj ..

variable {f : LanToLanIface → LanToLanIface}

theorem sameFrame_modify {i : Nat}
    (h : (f (s.node i)).frame = (s.node i).frame) : SameFrame s (s.modify i f) := by
  refine ⟨rfl, rfl, fun j => ?_⟩
  by_cases hj : j = i
  · subst hj
    rw [node_modify_self]
    exact h
  · rw [node_modify_of_ne hj]

theorem sameFrame_driver_modify {driver : Handles BridgeObject} {i : Nat}
    (h : (f (s.node i)).frame = (s.node i).frame) :
    SameFrame s ({ s with driver }.modify i f) :=
  ((SameFrame.refl s).driver driver).trans (sameFrame_modify h)

theorem mac_setRtHdl {i peer : Nat} {hdls : IpaIpType → List Nat} (client : ClientInfo) :
    (setRtHdl props i peer hdls client).mac = client.mac := by
  unfold setRtHdl
  split <;> rfl

theorem sameFrame_addClientRtRule (i peer : Nat) (mac : MacAddr) :
    SameFrame s (addClientRtRule props i peer mac s) := by
  unfold addClientRtRule
  apply sameFrame_driver_modify
  exact LanToLanIface.frame_modifyClient mac_setRtHdl

theorem sameFrame_delClientRtRule (i peer : Nat) (mac : MacAddr) :
    SameFrame s (delClientRtRule props i peer mac s) := by
  unfold delClientRtRule
  split
  · exact .refl s
  · apply sameFrame_driver_modify
    exact LanToLanIface.frame_modifyClient mac_setRtHdl

theorem sameFrame_addClientFltRule (i peer : Nat) (mac : MacAddr) (iptype : IpaIpType) :
    SameFrame s (addClientFltRule i peer mac iptype s) := by
  unfold addClientFltRule
  apply sameFrame_driver_modify
  exact LanToLanIface.frame_modifyFltRule

theorem sameFrame_delClientFltRule (i peer : Nat) (mac : MacAddr) :
    SameFrame s (delClientFltRule i peer mac s) := by
  unfold delClientFltRule
  split
  · exact .refl s
  · exact sameFrame_driver_modify LanToLanIface.frame_modifyFltRule

theorem sameFrame_clearAllFltRule (i peer : Nat) :
    SameFrame s (clearAllFltRuleForOnePeerIface i peer s) := by
  unfold clearAllFltRuleForOnePeerIface
  apply sameFrame_driver_modify
  exact LanToLanIface.frame_modifyFltRule

theorem sameFrame_clearAllRtRule (i peer : Nat) :
    SameFrame s (clearAllRtRuleForOnePeerIface props i peer s) := by
  unfold clearAllRtRuleForOnePeerIface
  split
  · exact .foldl (fun s mac => sameFrame_delClientRtRule i peer mac) _ s
  · exact .refl s

theorem sameFrame_addHdrProcCtx (i : Nat) (hdrType : HdrL2Type) :
    SameFrame s (addHdrProcCtx i hdrType s) := by
  unfold addHdrProcCtx
  split
  · exact sameFrame_driver_modify rfl
  · exact .refl s

theorem sameFrame_delHdrProcCtx (i : Nat) (hdrType : HdrL2Type) :
    SameFrame s (delHdrProcCtx i hdrType s) := by
  unfold delHdrProcCtx
  split
  · exact (SameFrame.refl s).driver _
  · exact .refl s

theorem sameFrame_addClientRtRuleForNewIface (i : Nat) :
    SameFrame s (addClientRtRuleForNewIface props i s) := by
  unfold addClientRtRuleForNewIface
  split
  · exact .refl s
  · split
    · exact .foldl (fun s mac => sameFrame_addClientRtRule i _ mac) _ s
    · exact .refl s

theorem sameFrame_addAllInter (i : Nat) (iptype : IpaIpType) :
    SameFrame s (addAllInterInterfaceClientFltRule i iptype s) :=
  .foldl (fun s peer => .foldl (fun _ mac => sameFrame_addClientFltRule i peer mac iptype) _ s) _ s

theorem sameFrame_addAllIntra (i : Nat) (iptype : IpaIpType) :
    SameFrame s (addAllIntraInterfaceClientFltRule i iptype s) :=
  .foldl (fun _ mac => sameFrame_addClientFltRule i i mac iptype) _ s

theorem sameFrame_addFltRulesOfPeers (i : Nat) (iptype : IpaIpType) :
    SameFrame s (addFltRulesOfPeers i iptype s) := by
  unfold addFltRulesOfPeers
  split
  · exact sameFrame_addAllInter i iptype
  · exact .refl s

theorem sameFrame_addFltRulesOfOwn (i : Nat) (iptype : IpaIpType) :
    SameFrame s (addFltRulesOfOwn i iptype s) := by
  unfold addFltRulesOfOwn
  split
  · exact sameFrame_addAllIntra i iptype
  · exact .refl s

theorem sameFrame_addAssignedFltRule (i peer : Nat) (mac : MacAddr) (iptype : IpaIpType) :
    SameFrame s (addAssignedFltRule i peer mac iptype s) := by
  unfold addAssignedFltRule
  split
  · exact sameFrame_addClientFltRule i peer mac iptype
  · exact .refl s

theorem sameFrame_addClientFltRules (i peer : Nat) (mac : MacAddr) :
    SameFrame s (addClientFltRules i peer mac s) :=
  (sameFrame_addAssignedFltRule i peer mac .v4).trans (sameFrame_addAssignedFltRule i peer mac .v6)

theorem sameFrame_addOneClientFltRule (i peer : Nat) (mac : MacAddr) :
    SameFrame s (addOneClientFltRule i peer mac s) := by
  unfold addOneClientFltRule
  split
  · exact sameFrame_addClientFltRules i peer mac
  · exact .refl s

theorem sameFrame_delOneClientFltRule (i peer : Nat) (mac : MacAddr) :
    SameFrame s (delOneClientFltRule i peer mac s) := by
  unfold delOneClientFltRule
  split
  · exact sameFrame_delClientFltRule i peer mac
  · exact .refl s

theorem sameFrame_addRules (i : Nat) (mac : MacAddr) (peers : List Nat) (flag : HdrL2Type → Bool)
    (s : LanToLan) : SameFrame s (peers.foldl (addRulesTowardPeer props i mac) (flag, s)).2 := by
  induction peers generalizing flag s with
  | nil => exact .refl s
  | cons peer peers ih =>
    refine SameFrame.trans ?_ (ih _ _)
    refine SameFrame.trans ?_ (sameFrame_addOneClientFltRule peer i mac)
    split
    · exact sameFrame_addClientRtRule i peer mac
    · exact .refl s

theorem sameFrame_delRules (i : Nat) (mac : MacAddr) (peers : List Nat) (flag : HdrL2Type → Bool)
    (s : LanToLan) : SameFrame s (peers.foldl (delRulesTowardPeer props i mac) (flag, s)).2 := by
  induction peers generalizing flag s with
  | nil => exact .refl s
  | cons peer peers ih =>
    have hflt : SameFrame s (delOneClientFltRule peer i mac s) :=
      sameFrame_delOneClientFltRule peer i mac
    refine SameFrame.trans ?_ (ih _ _)
    split
    · exact hflt.trans (sameFrame_delClientRtRule i peer mac)
    · exact hflt

theorem sameFrame_addInterInterfaceRules (i : Nat) (mac : MacAddr) :
    SameFrame s (addInterInterfaceRules props i mac s) := by
  unfold addInterInterfaceRules
  split
  · exact sameFrame_addRules ..
  · exact .refl s

theorem sameFrame_addIntraInterfaceRules (i : Nat) (mac : MacAddr) :
    SameFrame s (addIntraInterfaceRules props i mac s) := by
  unfold addIntraInterfaceRules
  split
  · exact (sameFrame_addClientRtRule i i mac).trans (sameFrame_addClientFltRules i i mac)
  · exact .refl s

theorem sameFrame_delInterInterfaceRules (i : Nat) (mac : MacAddr) :
    SameFrame s (delInterInterfaceRules props i mac s) := by
  unfold delInterInterfaceRules
  split
  · exact sameFrame_delRules ..
  · exact .refl s

theorem sameFrame_delIntraInterfaceRules (i : Nat) (mac : MacAddr) :
    SameFrame s (delIntraInterfaceRules props i mac s) := by
  unfold delIntraInterfaceRules
  split
  · exact (sameFrame_delClientFltRule i i mac).trans (sameFrame_delClientRtRule i i mac)
  · exact .refl s

theorem sameFrame_clearIntraInterface (i : Nat) : SameFrame s (clearIntraInterface props i s) := by
  unfold clearIntraInterface
  split
  · exact ((sameFrame_clearAllFltRule i i).trans (sameFrame_clearAllRtRule i i)).driver _
  · exact .refl s

theorem sameFrame_handleIntraInterfaceInfo (i : Nat) : SameFrame s (handleIntraInterfaceInfo i s) := by
  unfold handleIntraInterfaceInfo
  apply sameFrame_driver_modify
  rfl

theorem sameFrame_populateIntraInterface (i : Nat) : SameFrame s (populateIntraInterface i s) := by
  unfold populateIntraInterface
  split
  · exact sameFrame_handleIntraInterfaceInfo i
  · exact .refl s

end LanToLan

end DeviceHal.Ipacm
