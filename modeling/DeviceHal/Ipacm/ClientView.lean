import DeviceHal.Ipacm.BridgeFrame

namespace DeviceHal.Ipacm

open Lib

/-- The interfaces, the clients of each and the events in the cache, without any rules. -/
@[ext]
structure ClientView where
  mIface : List Nat
  macs : Nat → List MacAddr
  cached : List (Nat × MacAddr)

namespace ClientView

def setMacs (i : Nat) (macs : List MacAddr) (v : ClientView) : ClientView :=
  { v with macs := Function.update v.macs i macs }

def ifaceAdd (i : Nat) (mac : MacAddr) (v : ClientView) : ClientView :=
  if mac ∈ v.macs i then v
  else if (v.macs i).length = maxNumClient then v
  else v.setMacs i (mac :: v.macs i)

def ifaceDel (i : Nat) (mac : MacAddr) (v : ClientView) : ClientView :=
  if mac ∈ v.macs i then v.setMacs i ((v.macs i).filter fun m => m ≠ mac) else v

def clientAdd (i : Nat) (mac : MacAddr) (v : ClientView) : ClientView :=
  if i ∈ v.mIface then v.ifaceAdd i mac
  else if v.cached.length < maxNumCachedClientAddEvent then
    { v with cached := (i, mac) :: v.cached }
  else v

def clientDel (i : Nat) (mac : MacAddr) (v : ClientView) : ClientView :=
  if i ∈ v.mIface then v.ifaceDel i mac else v

def clearCached (i : Nat) (v : ClientView) : ClientView :=
  { v with cached := v.cached.filter fun e => e.1 ≠ i }

def handleCached (i : Nat) (v : ClientView) : ClientView :=
  clearCached i ((v.cached.filter fun e => e.1 = i).foldl (fun v e => v.clientAdd i e.2) v)

def Bridged (p : LanProps) : Prop :=
  p.hasTxAndRxProp = true ∧ p.hdrL2Type ≠ .none ∧ p.hdrL2Type ≠ .l2Max

instance (p : LanProps) : Decidable (Bridged p) := inferInstanceAs (Decidable (_ ∧ _))

def ifaceUp (props : Nat → LanProps) (i : Nat) (v : ClientView) : ClientView :=
  if i ∉ v.mIface ∧ v.mIface.length ≠ maxNumIface ∧ Bridged (props i) then
    handleCached i ({ v with mIface := i :: v.mIface }.setMacs i [])
  else v

def ifaceDown (i : Nat) (v : ClientView) : ClientView :=
  if i ∈ v.mIface then
    { v with mIface := v.mIface.filter fun j => j ≠ i }.setMacs i []
  else v.clearCached i

def step (props : Nat → LanProps) (v : ClientView) : BridgeEvent → ClientView
  | .ifaceUp i _ => v.ifaceUp props i
  | .ifaceDown i => v.ifaceDown i
  | .clientAdd i mac => v.clientAdd i mac
  | .clientDel i mac => v.clientDel i mac

end ClientView

namespace LanToLan

variable {props : Nat → LanProps} {s t : LanToLan}

def view (s : LanToLan) : ClientView := ⟨s.mIface, fun i => (s.node i).macs, s.cachedClientAddEvent⟩

theorem view_modify (i : Nat) (f : LanToLanIface → LanToLanIface) :
    (s.modify i f).view = s.view.setMacs i (f (s.node i)).macs := by
  refine ClientView.ext rfl ?_ rfl
  funext j
  by_cases hj : j = i
  · subst hj
    simp only [view, modify, ClientView.setMacs, Function.update_self]
  · simp only [view, modify, ClientView.setMacs, Function.update_of_ne hj]

theorem view_modify_of_macs {i : Nat} {f : LanToLanIface → LanToLanIface}
    (h : (f (s.node i)).macs = (s.node i).macs) : (s.modify i f).view = s.view := by
  rw [view_modify, h]
  exact ClientView.ext rfl (Function.update_eq_self ..) rfl

theorem view_foldl {α : Type} {f : LanToLan → α → LanToLan} (h : ∀ s x, (f s x).view = s.view)
    (l : List α) (s : LanToLan) : (l.foldl f s).view = s.view := by
  induction l generalizing s with
  | nil => rfl
  | cons x l ih => exact (ih (f s x)).trans (h s x)

theorem SameFrame.view (h : SameFrame s t) : t.view = s.view :=
  ClientView.ext h.mIface (funext h.macs) h.cached

theorem view_newPeer (i peer : Nat) : (newPeer props i peer s).view = s.view := by
  refine (view_modify_of_macs rfl).trans ((sameFrame_addHdrProcCtx i _).view.trans ?_)
  exact view_modify_of_macs rfl

theorem view_meetIface (i exist : Nat) : (meetIface props i s exist).view = s.view := by
  unfold meetIface
  split
  · rw [(sameFrame_addClientRtRuleForNewIface exist).view]
    unfold handleNewIfaceUp
    rw [view_newPeer, view_newPeer]
  · rfl

theorem view_meetIfaces (i : Nat) (iptype : IpaIpType) (exist : List Nat) :
    (meetIfaces props i iptype exist s).view = s.view := by
  unfold meetIfaces
  split
  · exact (sameFrame_addAllInter i iptype).view.trans
      (view_foldl (fun _ exist => view_meetIface i exist) _ s)
  · rfl

theorem view_leftByPeer (i peer : Nat) : (leftByPeer props i peer s).view = s.view := by
  unfold leftByPeer
  split
  · refine (sameFrame_delHdrProcCtx peer _).view.trans ((view_modify_of_macs rfl).trans ?_)
    exact ((sameFrame_clearAllFltRule peer i).trans (sameFrame_clearAllRtRule peer i)).view
  · rfl

theorem view_addRefCnt (i : Nat) (hdrType : HdrL2Type) (d : Int) :
    (addRefCnt i hdrType d s).view = s.view := view_modify_of_macs rfl

theorem view_leavePeer (i peer : Nat) : (leavePeer props i s peer).view = s.view := by
  unfold leavePeer
  dsimp only
  rw [(sameFrame_delHdrProcCtx i _).view, (sameFrame_clearAllRtRule i peer).view, view_leftByPeer,
    (sameFrame_clearAllFltRule i peer).view, view_addRefCnt, view_addRefCnt]

theorem view_leavePeers (i : Nat) : (leavePeers props i s).view = s.view := by
  unfold leavePeers
  split
  · exact (view_modify_of_macs rfl).trans (view_foldl (fun s peer => view_leavePeer i peer) _ s)
  · rfl

theorem view_ifaceClientAdd (i : Nat) (mac : MacAddr) :
    (ifaceClientAdd props i mac s).view = s.view.ifaceAdd i mac := by
  unfold ifaceClientAdd ClientView.ifaceAdd
  have hlen : (s.node i).clientInfo.length = (s.view.macs i).length := by
    simp [view, LanToLanIface.macs]
  rw [hlen]
  split
  next hmem => rw [if_pos (show mac ∈ s.view.macs i from hmem)]
  next hmem =>
    rw [if_neg (show mac ∉ s.view.macs i from hmem)]
    split
    · rfl
    · dsimp only
      rw [(sameFrame_addIntraInterfaceRules i mac).view, (sameFrame_addInterInterfaceRules i mac).view]
      exact view_modify i _

theorem view_ifaceClientDel (i : Nat) (mac : MacAddr) :
    (ifaceClientDel props i mac s).view = s.view.ifaceDel i mac := by
  unfold ifaceClientDel ClientView.ifaceDel
  split
  next hmem =>
    rw [if_pos (show mac ∈ s.view.macs i from hmem)]
    have hrules : (delIntraInterfaceRules props i mac (delInterInterfaceRules props i mac s)).view =
        s.view :=
      ((sameFrame_delInterInterfaceRules i mac).trans (sameFrame_delIntraInterfaceRules i mac)).view
    have hmacs := congrFun (congrArg ClientView.macs hrules) i
    rw [view_modify, hrules, ← hmacs]
    simp only [view, LanToLanIface.macs, List.filter_map, Function.comp_def]
  next hmem => rw [if_neg (show mac ∉ s.view.macs i from hmem)]

theorem view_handleClientAdd (i : Nat) (mac : MacAddr) :
    (handleClientAdd props i mac s).view = s.view.clientAdd i mac := by
  unfold handleClientAdd ClientView.clientAdd
  split
  next hmem =>
    rw [if_pos (show i ∈ s.view.mIface from hmem)]
    exact view_ifaceClientAdd i mac
  next hmem =>
    rw [if_neg (show i ∉ s.view.mIface from hmem)]
    split
    next hlt => exact (if_pos hlt).symm
    next hlt => exact (if_neg hlt).symm

theorem view_handleClientDel (i : Nat) (mac : MacAddr) :
    (handleClientDel props i mac s).view = s.view.clientDel i mac := by
  unfold handleClientDel ClientView.clientDel
  split
  next hmem =>
    rw [if_pos (show i ∈ s.view.mIface from hmem)]
    exact view_ifaceClientDel i mac
  next hmem => rw [if_neg (show i ∉ s.view.mIface from hmem)]

theorem view_handleCached (i : Nat) :
    (handleCachedClientAddEvent props i s).view = s.view.handleCached i := by
  have hfold : ∀ (l : List (Nat × MacAddr)) (s : LanToLan),
      (l.foldl (fun s e => handleClientAdd props i e.2 s) s).view =
        l.foldl (fun v e => v.clientAdd i e.2) s.view := by
    intro l
    induction l with
    | nil => exact fun _ => rfl
    | cons e l ih =>
      intro s
      rw [List.foldl_cons, List.foldl_cons, ih, view_handleClientAdd]
  exact congrArg (ClientView.clearCached i) (hfold _ s)

theorem view_handleIfaceUp (i : Nat) (iptype : IpaIpType) :
    (handleIfaceUp props i iptype s).view = s.view.ifaceUp props i := by
  unfold handleIfaceUp
  split
  next hmem =>
    have hsame : s.view.ifaceUp props i = s.view := if_neg fun h => h.1 hmem
    rw [hsame]
    split
    · rw [(sameFrame_addFltRulesOfOwn i iptype).view, (sameFrame_addFltRulesOfPeers i iptype).view]
      exact view_modify_of_macs rfl
    · rfl
  next hmem =>
    by_cases hnew : s.mIface.length ≠ maxNumIface ∧ ClientView.Bridged (props i)
    · have hup : s.view.ifaceUp props i = ClientView.handleCached i
          ({ s.view with mIface := i :: s.view.mIface }.setMacs i []) := if_pos ⟨hmem, hnew⟩
      obtain ⟨hlen, hprop, hnone, hmax⟩ := hnew
      rw [hup, if_neg hlen, if_neg (by simp [hprop]), if_neg (by simp [hnone, hmax]),
        view_handleCached, (sameFrame_populateIntraInterface i).view, view_meetIfaces]
      exact congrArg (ClientView.handleCached i) (view_modify i _)
    · have hsame : s.view.ifaceUp props i = s.view := if_neg fun h => hnew h.2
      rw [hsame]
      split
      next => rfl
      next hlen =>
        split
        next => rfl
        next hprop =>
          split
          next => rfl
          next hhdr => exact absurd ⟨hlen, by simpa using hprop, not_or.mp hhdr⟩ hnew

theorem view_handleDownEvent (i : Nat) :
    (handleDownEvent props i s).view = s.view.setMacs i [] := by
  unfold handleDownEvent
  rw [view_modify, (sameFrame_clearIntraInterface i).view, view_leavePeers]
  rfl

theorem view_handleIfaceDown (i : Nat) :
    (handleIfaceDown props i s).view = s.view.ifaceDown i := by
  unfold handleIfaceDown ClientView.ifaceDown
  split
  next hmem =>
    rw [if_pos (show i ∈ s.view.mIface from hmem)]
    have hdown : (handleDownEvent props i s).view = s.view.setMacs i [] := view_handleDownEvent i
    have herase : ∀ v : ClientView, v = s.view.setMacs i [] →
        { v with mIface := v.mIface.filter fun j => j ≠ i } =
          { s.view with mIface := s.view.mIface.filter fun j => j ≠ i }.setMacs i [] := by
      intro v hv
      rw [hv]
      rfl
    exact herase _ hdown
  next hmem =>
    rw [if_neg (show i ∉ s.view.mIface from hmem)]
    rfl

theorem view_eventCallback (evt : BridgeEvent) :
    (eventCallback props s evt).view = s.view.step props evt := by
  cases evt with
  | ifaceUp i iptype => exact view_handleIfaceUp i iptype
  | ifaceDown i => exact view_handleIfaceDown i
  | clientAdd i mac => exact view_handleClientAdd i mac
  | clientDel i mac => exact view_handleClientDel i mac

end LanToLan

end DeviceHal.Ipacm
