import DeviceHal.Ipacm.BridgeClients

namespace DeviceHal.Ipacm

open Lib LanToLan

/-- Which interfaces are bridged, their addresses and their clients, whatever is installed for it. -/
@[ext]
structure Topology where
  assigned : Nat → IpaIpType → Bool
  macs : Nat → List MacAddr
  peers : Nat → List Nat
  intra : Nat → Bool

namespace Topology

variable (props : Nat → LanProps) (T : Topology)

/-- An interface needs a context toward the header types of its peers, and for its own clients. -/
def Uses (i : Nat) : CtxUse → Prop
  | .inter hdrType => ∃ q ∈ T.peers i, (props q).hdrL2Type = hdrType
  | .intra => T.intra i = true

def Wanted : BridgeSlot → Prop
  | .ctx i use => T.Uses props i use
  | .rt i mac use iptype position => mac ∈ T.macs i ∧
    position < (props i).eachClientRtRuleCount iptype ∧ T.Uses props i use
  | .flt i peer mac iptype => T.assigned i iptype = true ∧ mac ∈ T.macs peer ∧
    (peer ∈ T.peers i ∨ peer = i ∧ T.intra i = true)

def setMacs (i : Nat) (macs : List MacAddr) : Topology :=
  { T with macs := Function.update T.macs i macs }

def setPeers (i : Nat) (peers : List Nat) : Topology :=
  { T with peers := Function.update T.peers i peers }

def setIntra (i : Nat) (intra : Bool) : Topology :=
  { T with intra := Function.update T.intra i intra }

def setAssigned (i : Nat) (assigned : IpaIpType → Bool) : Topology :=
  { T with assigned := Function.update T.assigned i assigned }

variable {props T}

variable {i : Nat}

variable {mac : MacAddr}

theorem wanted_rt {use : CtxUse} {slot : BridgeSlot}
    (hslot : rtOf i mac use slot) (h : T.Wanted props slot) :
    mac ∈ T.macs i ∧ T.Uses props i use ∧ rtSlots props i mac use slot := by
  obtain ⟨iptype, position, rfl⟩ := hslot
  exact ⟨h.1, h.2.2, iptype, position, rfl, h.2.1⟩

theorem exists_uses {R : CtxUse → Prop} : (∃ use, T.Uses props i use ∧ R use) ↔
    (∃ q ∈ T.peers i, R (.inter (props q).hdrL2Type)) ∨ T.intra i = true ∧ R .intra := by
  constructor
  · rintro ⟨use, huse, hR⟩
    cases use with
    | inter hdrType =>
      obtain ⟨q, hq, rfl⟩ := huse
      exact Or.inl ⟨q, hq, hR⟩
    | intra => exact Or.inr ⟨huse, hR⟩
  · rintro (⟨q, hq, hR⟩ | ⟨hintra, hR⟩)
    · exact ⟨.inter (props q).hdrL2Type, ⟨q, hq, rfl⟩, hR⟩
    · exact ⟨.intra, hintra, hR⟩

theorem exists_flt {slot : BridgeSlot} :
    (∃ q iptype, T.assigned q iptype = true ∧ (i ∈ T.peers q ∨ i = q ∧ T.intra q = true) ∧
      slot = .flt q i mac iptype) ↔
    (∃ q, i ∈ T.peers q ∧ ∃ iptype, T.assigned q iptype = true ∧ slot = .flt q i mac iptype) ∨
      T.intra i = true ∧ ∃ iptype, T.assigned i iptype = true ∧ slot = .flt i i mac iptype := by
  constructor
  · grind
  grind

theorem wanted_setMacs {macs : List MacAddr} (hmac : mac ∉ T.macs i)
    (hmacs : ∀ m, m ∈ macs ↔ m = mac ∨ m ∈ T.macs i) (slot : BridgeSlot) :
    (T.setMacs i macs).Wanted props slot ↔ T.Wanted props slot ∨
      (∃ use, T.Uses props i use ∧ rtSlots props i mac use slot) ∨
      ∃ q iptype, T.assigned q iptype = true ∧ (i ∈ T.peers q ∨ i = q ∧ T.intra q = true) ∧
        slot = .flt q i mac iptype := by
  have hmem : ∀ j m, m ∈ (T.setMacs i macs).macs j ↔ m ∈ T.macs j ∨ j = i ∧ m = mac := by
    intro j m
    by_cases hj : j = i
    · subst hj
      simp only [setMacs, Function.update_self, hmacs, true_and]
      exact or_comm
    · simp only [setMacs, Function.update_of_ne hj, hj, false_and, or_false]
  cases slot with
  | ctx j use =>
    refine (or_iff_left ?_).symm
    rintro (⟨_, _, _, _, heq, _⟩ | ⟨_, _, _, _, heq⟩) <;> cases heq
  | rt j m use iptype position =>
    have huses : (T.setMacs i macs).Uses props j use ↔ T.Uses props j use := by
      cases use <;> exact Iff.rfl
    simp only [Wanted, hmem, huses]
    constructor
    · rintro ⟨hm | ⟨rfl, rfl⟩, hpos, huse⟩
      · exact Or.inl ⟨hm, hpos, huse⟩
      · exact Or.inr (Or.inl ⟨use, huse, iptype, position, rfl, hpos⟩)
    · rintro (⟨hm, hrest⟩ | ⟨_, huse, _, _, heq, hpos⟩ | ⟨_, _, _, _, heq⟩)
      · exact ⟨Or.inl hm, hrest⟩
      · cases heq
        exact ⟨Or.inr ⟨rfl, rfl⟩, hpos, huse⟩
      · cases heq
  | flt j q m iptype =>
    simp only [Wanted, hmem]
    constructor
    · rintro ⟨ha, hm | ⟨rfl, rfl⟩, hpeer⟩
      · exact Or.inl ⟨ha, hm, hpeer⟩
      · exact Or.inr (Or.inr ⟨j, iptype, ha, hpeer, rfl⟩)
    · rintro (⟨ha, hm, hpeer⟩ | ⟨_, _, _, _, heq, _⟩ | ⟨_, _, ha, hpeer, heq⟩)
      · exact ⟨ha, Or.inl hm, hpeer⟩
      · cases heq
      · cases heq
        exact ⟨ha, Or.inr ⟨rfl, rfl⟩, hpeer⟩

theorem wanted_filterMacs (slot : BridgeSlot) :
    (T.setMacs i ((T.macs i).filter fun m => m ≠ mac)).Wanted props slot ↔ T.Wanted props slot ∧
      (∀ use, ¬rtOf i mac use slot) ∧ ∀ q, ¬fltOf q i mac slot := by
  have hmem : ∀ j m, m ∈ (T.setMacs i ((T.macs i).filter fun m => m ≠ mac)).macs j ↔
      m ∈ T.macs j ∧ ¬(j = i ∧ m = mac) := by
    intro j m
    by_cases hj : j = i
    · subst hj
      simp only [setMacs, Function.update_self, List.mem_filter, decide_eq_true_eq, true_and,
        ne_eq]
    · simp only [setMacs, Function.update_of_ne hj, hj, false_and, not_false_iff, and_true]
  cases slot with
  | ctx j use =>
    refine (and_iff_left ⟨?_, ?_⟩).symm
    · rintro _ ⟨_, _, heq⟩
      cases heq
    · rintro _ ⟨_, heq⟩
      cases heq
  | rt j m use iptype position =>
    have huses : (T.setMacs i ((T.macs i).filter fun m => m ≠ mac)).Uses props j use ↔
        T.Uses props j use := by cases use <;> exact Iff.rfl
    simp only [Wanted, hmem, huses]
    constructor
    · rintro ⟨⟨hm, hno⟩, hrest⟩
      refine ⟨⟨hm, hrest⟩, ?_, ?_⟩
      · rintro _ ⟨_, _, heq⟩
        cases heq
        exact hno ⟨rfl, rfl⟩
      · rintro _ ⟨_, heq⟩
        cases heq
    · rintro ⟨⟨hm, hrest⟩, hno, -⟩
      refine ⟨⟨hm, ?_⟩, hrest⟩
      rintro ⟨rfl, rfl⟩
      exact hno use ⟨iptype, position, rfl⟩
  | flt j q m iptype =>
    simp only [Wanted, hmem]
    constructor
    · rintro ⟨ha, ⟨hm, hno⟩, hpeer⟩
      refine ⟨⟨ha, hm, hpeer⟩, ?_, ?_⟩
      · rintro _ ⟨_, _, heq⟩
        cases heq
      · rintro _ ⟨_, heq⟩
        cases heq
        exact hno ⟨rfl, rfl⟩
    · rintro ⟨⟨ha, hm, hpeer⟩, -, hno⟩
      refine ⟨ha, ⟨hm, ?_⟩, hpeer⟩
      rintro ⟨rfl, rfl⟩
      exact hno j ⟨iptype, rfl⟩

theorem wanted_assign {iptype : IpaIpType} (slot : BridgeSlot) :
    (T.setAssigned i (Function.update (T.assigned i) iptype true)).Wanted props slot ↔
      T.Wanted props slot ∨ ∃ q, (q ∈ T.peers i ∨ q = i ∧ T.intra i = true) ∧
        ∃ mac ∈ T.macs q, slot = .flt i q mac iptype := by
  cases slot with
  | ctx j use =>
    refine (or_iff_left ?_).symm
    rintro ⟨_, _, _, _, heq⟩
    cases heq
  | rt j m use iptype' position =>
    refine (or_iff_left ?_).symm
    rintro ⟨_, _, _, _, heq⟩
    cases heq
  | flt j q m iptype' =>
    simp only [Wanted, setAssigned]
    constructor
    · rintro ⟨ha, hm, hpeer⟩
      by_cases hj : j = i
      · subst hj
        rw [Function.update_self, Function.update_apply] at ha
        grind
      · rw [Function.update_of_ne hj] at ha
        exact Or.inl ⟨ha, hm, hpeer⟩
    · rintro (⟨ha, hm, hpeer⟩ | ⟨_, hpeer, _, hm, heq⟩)
      · refine ⟨?_, hm, hpeer⟩
        by_cases hj : j = i
        · subst hj
          rw [Function.update_self, Function.update_apply]
          split
          · rfl
          · exact ha
        · rw [Function.update_of_ne hj]
          exact ha
      · cases heq
        refine ⟨?_, hm, hpeer⟩
        rw [Function.update_self, Function.update_self]

end Topology

namespace LanToLan

variable (props : Nat → LanProps)

def topology (s : LanToLan) : Topology where
  assigned i := (s.node i).isIpAddrAssigned
  macs i := (s.node i).macs
  peers i := (s.node i).peers
  intra i := decide (i ∈ s.mIface) && (s.node i).supportIntraIfaceOffload

/-- What is wanted is installed, and the peers are counted. -/
structure Tracks (s : LanToLan) (T : Topology) : Prop where
  ledger : Ledger props s (T.Wanted props)
  macs : ∀ i, (s.node i).macs = T.macs i
  refCnt : ∀ i hdrType, (s.node i).refCntPeerL2HdrType hdrType =
    (T.peers i).countP fun q => (props q).hdrL2Type = hdrType

structure BridgeInv (s : LanToLan) : Prop where
  tracks : Tracks props s s.topology
  mIface_nodup : s.mIface.Nodup
  mem_peers : ∀ i q, q ∈ (s.node i).peers ↔ i ∈ s.mIface ∧ q ∈ s.mIface ∧ q ≠ i ∧
    (s.node i).supportInterIfaceOffload = true ∧ (s.node q).supportInterIfaceOffload = true

variable {props} {s t : LanToLan}

theorem BridgeInv.mutual (h : BridgeInv props s) {i q : Nat} :
    q ∈ (s.node i).peers ↔ i ∈ (s.node q).peers := by
  grind [h.mem_peers]

theorem SameFrame.topology (h : SameFrame s t) : t.topology = s.topology := by
  refine Topology.ext ?_ ?_ ?_ ?_
  all_goals funext i
  · exact h.assigned i
  · exact h.macs i
  · exact h.peers i
  · simp only [LanToLan.topology, h.mIface, h.intra]

theorem BridgeInv.change (h : BridgeInv props s) (hmIface : t.mIface = s.mIface)
    (hpeers : ∀ i, (t.node i).peers = (s.node i).peers)
    (hinter : ∀ i, (t.node i).supportInterIfaceOffload = (s.node i).supportInterIfaceOffload)
    (hrefCnt : ∀ i, (t.node i).refCntPeerL2HdrType = (s.node i).refCntPeerL2HdrType)
    (hledger : Ledger props t (t.topology.Wanted props)) : BridgeInv props t := by
  refine ⟨⟨hledger, fun i => rfl, fun i hdrType => ?_⟩, ?_, fun i q => ?_⟩
  · rw [hrefCnt]
    refine (h.tracks.refCnt i hdrType).trans ?_
    simp only [topology, hpeers]
  · rw [hmIface]
    exact h.mIface_nodup
  · rw [hpeers, hmIface, hinter, hinter]
    exact h.mem_peers i q

def setClients (s : LanToLan) (i : Nat) (clients : List ClientInfo) : LanToLan :=
  s.modify i fun n => { n with clientInfo := clients }

theorem node_setClients (s : LanToLan) (i : Nat) (clients : List ClientInfo) (j : Nat) :
    (s.setClients i clients).node j =
      { s.node j with clientInfo := if j = i then clients else (s.node j).clientInfo } := by
  unfold setClients
  by_cases hj : j = i
  · subst hj
    rw [node_modify_self, if_pos rfl]
  · rw [node_modify_of_ne hj, if_neg hj]

section setClients

variable {i j : Nat} {clients : List ClientInfo}

@[simp]
theorem peers_setClients : ((s.setClients i clients).node j).peers = (s.node j).peers := by
  rw [node_setClients]
  rfl

@[simp]
theorem assigned_setClients :
    ((s.setClients i clients).node j).isIpAddrAssigned = (s.node j).isIpAddrAssigned := by
  rw [node_setClients]

@[simp]
theorem inter_setClients : ((s.setClients i clients).node j).supportInterIfaceOffload =
    (s.node j).supportInterIfaceOffload := by
  rw [node_setClients]

@[simp]
theorem intra_setClients : ((s.setClients i clients).node j).supportIntraIfaceOffload =
    (s.node j).supportIntraIfaceOffload := by
  rw [node_setClients]

theorem topology_setClients :
    (s.setClients i clients).topology = s.topology.setMacs i (clients.map ClientInfo.mac) := by
  refine Topology.ext ?_ ?_ ?_ ?_
  all_goals funext j
  · exact assigned_setClients
  · simp only [topology, node_setClients, Topology.setMacs, LanToLanIface.macs,
      Function.update_apply]
    split <;> rfl
  · exact peers_setClients
  · simp only [topology, Topology.setMacs, intra_setClients]
    rfl

end setClients

variable {i : Nat}

theorem BridgeInv.changeClients (h : BridgeInv props s) {clients : List ClientInfo}
    (hframe : SameFrame (s.setClients i clients) t)
    (hledger : Ledger props t
      ((s.topology.setMacs i (clients.map ClientInfo.mac)).Wanted props)) : BridgeInv props t := by
  refine h.change hframe.mIface (fun j => ?_) (fun j => ?_) (fun j => ?_) ?_
  · rw [hframe.peers, peers_setClients]
  · rw [hframe.inter, inter_setClients]
  · rw [hframe.refCnt, node_setClients]
  · rw [hframe.topology, topology_setClients]
    exact hledger

theorem topology_intra (hi : i ∈ s.mIface) :
    s.topology.intra i = (s.node i).supportIntraIfaceOffload := by
  simp only [topology, hi, decide_true, Bool.true_and]

theorem BridgeInv.inter_of_mem (h : BridgeInv props s) {i q : Nat} (hq : q ∈ (s.node i).peers) :
    (s.node i).supportInterIfaceOffload = true := ((h.mem_peers i q).mp hq).2.2.2.1

theorem BridgeInv.ifaceClientAdd (h : BridgeInv props s) (hi : i ∈ s.mIface)
    (mac : MacAddr) : BridgeInv props (ifaceClientAdd props i mac s) := by
  unfold LanToLan.ifaceClientAdd
  split
  · exact h
  · split
    · exact h
    next hmac _ =>
      change BridgeInv props (addIntraInterfaceRules props i mac (addInterInterfaceRules props i mac
        (s.setClients i (⟨mac, fun _ _ => [], fun _ => []⟩ :: (s.node i).clientInfo))))
      have hpush : Ledger props (s.setClients i (_ :: (s.node i).clientInfo)) _ :=
        h.tracks.ledger.pushClient hmac
      have hself : mac ∈ ((s.setClients i
          (⟨mac, fun _ _ => [], fun _ => []⟩ :: (s.node i).clientInfo)).node i).macs := by
        rw [node_setClients, LanToLanIface.macs, if_pos rfl]
        exact List.mem_cons_self
      generalize hs : s.setClients i (⟨mac, fun _ _ => [], fun _ => []⟩ :: (s.node i).clientInfo) =
        pushed at *
      have hpeers : ∀ j, (pushed.node j).peers = (s.node j).peers := fun j => hs ▸ peers_setClients
      have hassigned : ∀ j, (pushed.node j).isIpAddrAssigned = (s.node j).isIpAddrAssigned :=
        fun j => hs ▸ assigned_setClients
      have hsupport : (pushed.node i).supportIntraIfaceOffload =
          (s.node i).supportIntraIfaceOffload := hs ▸ intra_setClients
      have hrt : ∀ slot use, rtOf i mac use slot → ¬s.topology.Wanted props slot :=
        fun slot use hslot hW => hmac (Topology.wanted_rt hslot hW).1
      have hflt : ∀ q iptype, ¬s.topology.Wanted props (.flt q i mac iptype) :=
        fun q iptype hW => hmac hW.2.1
      have hinter := hpush.addInter hself (fun q hq => ?_) (fun q hq => ?_) hrt hflt
      · have hframe : SameFrame pushed (addInterInterfaceRules props i mac pushed) :=
          sameFrame_addInterInterfaceRules i mac
        have hintra := hinter.addIntra (i := i) (by rwa [hframe.macs])
          (fun hsup => ?_) (fun slot hslot hH => ?_) fun iptype hH => ?_
        · have hsame : SameFrame
              (s.setClients i (⟨mac, fun _ _ => [], fun _ => []⟩ :: (s.node i).clientInfo))
              (addIntraInterfaceRules props i mac (addInterInterfaceRules props i mac pushed)) := by
            rw [hs]
            exact hframe.trans (sameFrame_addIntraInterfaceRules i mac)
          refine h.changeClients hsame (hintra.congr fun slot => ?_)
          rw [hframe.intra, hsupport, hframe.assigned, hassigned, hpeers]
          refine (Topology.wanted_setMacs hmac (fun m => List.mem_cons) slot).trans ?_
          rw [Topology.exists_uses, Topology.exists_flt, topology_intra hi]
          simp only [hassigned, topology, h.mutual (i := i), or_assoc]
          exact or_congr Iff.rfl (or_congr Iff.rfl or_left_comm)
        · rw [hframe.intra, hsupport] at hsup
          exact Or.inl (Or.inl ((topology_intra hi).trans hsup))
        · rcases hH with (hH | ⟨_, _, _, _, rfl, _⟩) | ⟨_, _, _, _, rfl⟩
          · exact hrt slot _ hslot hH
          · obtain ⟨_, _, heq⟩ := hslot
            cases heq
          · obtain ⟨_, _, heq⟩ := hslot
            cases heq
        · rcases hH with (hH | ⟨_, _, _, _, heq, _⟩) | ⟨q, hq, _, _, heq⟩
          · exact hflt i iptype hH
          · cases heq
          · cases heq
            exact hpush.peers_ne _ hq
      · rw [hpeers] at hq
        rw [← hs, inter_setClients]
        exact h.inter_of_mem hq
      · rw [hpeers] at hq ⊢
        exact h.mutual.mp hq

theorem sameFrame_filterClients (h : SameFrame s t) (keep : MacAddr → Bool) :
    SameFrame (s.setClients i ((s.node i).clientInfo.filter fun client => keep client.mac))
      (t.setClients i ((t.node i).clientInfo.filter fun client => keep client.mac)) := by
  have hmacs : ∀ n : LanToLanIface, (n.clientInfo.filter fun client => keep client.mac).map
      ClientInfo.mac = n.macs.filter keep := fun n => List.filter_map.symm
  refine ⟨h.mIface, h.cached, fun j => ?_⟩
  rw [node_setClients, node_setClients]
  refine NodeFrame.ext (h.assigned j) (h.inter j) (h.intra j) (h.refCnt j) ?_ (h.peers j)
  simp only [LanToLanIface.frame, LanToLanIface.macs]
  split
  · rw [hmacs, hmacs, h.macs]
  · exact h.macs j

theorem BridgeInv.ifaceClientDel (h : BridgeInv props s) (hi : i ∈ s.mIface)
    (mac : MacAddr) : BridgeInv props (ifaceClientDel props i mac s) := by
  unfold LanToLan.ifaceClientDel
  split
  next hmac =>
    have hframe : SameFrame s (delInterInterfaceRules props i mac s) :=
      sameFrame_delInterInterfaceRules i mac
    have hframe' : SameFrame s (delIntraInterfaceRules props i mac
        (delInterInterfaceRules props i mac s)) :=
      hframe.trans (sameFrame_delIntraInterfaceRules i mac)
    have hinter := h.tracks.ledger.delInter hmac (fun _ => h.inter_of_mem)
      fun _ hq => h.mutual.mp hq
    have hintra := hinter.delIntra (i := i) (by rwa [hframe.macs])
    rw [hframe.intra] at hintra
    have hrules : Ledger props (delIntraInterfaceRules props i mac
        (delInterInterfaceRules props i mac s)) fun slot => s.topology.Wanted props slot ∧
        (∀ use, ¬rtOf i mac use slot) ∧ ∀ q, ¬fltOf q i mac slot := by
      refine hintra.congr fun slot => ?_
      rw [and_assoc]
      refine and_congr_right fun hW => ⟨fun hno => ⟨fun q _ => ⟨hno.2 q, hno.1 _⟩,
        fun _ => ⟨hno.2 i, hno.1 _⟩⟩, fun hno => ⟨fun use hrt => ?_, fun q hflt => ?_⟩⟩
      · have huse := (Topology.wanted_rt hrt hW).2.1
        cases use with
        | inter hdrType =>
          obtain ⟨q, hq, rfl⟩ := huse
          exact (hno.1 q hq).2 hrt
        | intra => exact (hno.2 ((topology_intra hi).symm.trans huse)).2 hrt
      · obtain ⟨iptype, rfl⟩ := hflt
        rcases hW.2.2 with hq | ⟨rfl, hself⟩
        · exact (hno.1 q (h.mutual.mpr hq)).1 ⟨iptype, rfl⟩
        · exact (hno.2 ((topology_intra hi).symm.trans hself)).1 ⟨iptype, rfl⟩
    have hfilter := hrules.filterClients (i := i) (fun m => decide (m ≠ mac))
      fun m use iptype position hkeep hH => ?_
    · refine h.changeClients (sameFrame_filterClients hframe' fun m => decide (m ≠ mac))
        (hfilter.congr fun slot => ?_)
      rw [← Topology.wanted_filterMacs]
      have hmacs : ((s.node i).clientInfo.filter fun client => decide (client.mac ≠ mac)).map
          ClientInfo.mac = (s.topology.macs i).filter fun m => m ≠ mac :=
        (List.filter_map (f := ClientInfo.mac) (p := fun m => decide (m ≠ mac))).symm
      rw [hmacs]
    · obtain rfl : m = mac := by simpa using hkeep
      exact hH.2.1 use ⟨iptype, position, rfl⟩
  next => exact h

theorem BridgeInv.secondFamily (h : BridgeInv props s) (hi : i ∈ s.mIface)
    {iptype : IpaIpType} (hnone : (s.node i).isIpAddrAssigned iptype = false) :
    BridgeInv props (addFltRulesOfOwn i iptype (addFltRulesOfPeers i iptype
      (assignIpAddr i iptype s))) := by
  have hassign := h.tracks.ledger.assignIpAddr i iptype
  have hself : ((assignIpAddr i iptype s).node i).isIpAddrAssigned iptype = true := by
    unfold assignIpAddr
    rw [node_modify_self]
    exact Function.update_self ..
  have hnode : ∀ j, (assignIpAddr i iptype s).node j = { s.node j with isIpAddrAssigned :=
      (s.topology.setAssigned i
        (Function.update (s.topology.assigned i) iptype true)).assigned j } := by
    intro j
    unfold assignIpAddr Topology.setAssigned
    by_cases hj : j = i
    · subst hj
      rw [node_modify_self]
      simp only [Function.update_self]
      rfl
    · rw [node_modify_of_ne hj]
      simp only [Function.update_of_ne hj]
      rfl
  have hmIface : (assignIpAddr i iptype s).mIface = s.mIface := rfl
  generalize assignIpAddr i iptype s = assigned at *
  have hpeers : ∀ j, (assigned.node j).peers = (s.node j).peers := fun j => by rw [hnode]; rfl
  have hmacs : ∀ j, (assigned.node j).macs = (s.node j).macs := fun j => by rw [hnode]; rfl
  have hinter : ∀ j, (assigned.node j).supportInterIfaceOffload =
      (s.node j).supportInterIfaceOffload := fun j => by rw [hnode]
  have hsupport : ∀ j, (assigned.node j).supportIntraIfaceOffload =
      (s.node j).supportIntraIfaceOffload := fun j => by rw [hnode]
  have hunset : ∀ q mac, ¬s.topology.Wanted props (.flt i q mac iptype) := fun q mac hW => by
    have hset : (s.node i).isIpAddrAssigned iptype = true := hW.1
    rw [hnone] at hset
    cases hset
  have hofPeers := hassign.addFltRulesOfPeers hself (fun q hq => ?_) hunset
  · have hframe : SameFrame assigned (addFltRulesOfPeers i iptype assigned) :=
      sameFrame_addFltRulesOfPeers i iptype
    have hframe' := hframe.trans (sameFrame_addFltRulesOfOwn i iptype)
    have hofOwn := hofPeers.addFltRulesOfOwn (i := i)
      (by rwa [hframe.assigned]) (fun hs => ?_) fun mac hH => ?_
    · refine h.change (hframe'.mIface.trans hmIface) (fun j => (hframe'.peers j).trans (hpeers j))
        (fun j => (hframe'.inter j).trans (hinter j)) (fun j => ?_) ?_
      · rw [hframe'.refCnt, hnode]
      · have htopology : (addFltRulesOfOwn i iptype (addFltRulesOfPeers i iptype assigned)).topology =
            s.topology.setAssigned i (Function.update (s.topology.assigned i) iptype true) := by
          rw [hframe'.topology]
          refine Topology.ext ?_ ?_ ?_ ?_
          all_goals funext j
          · simp only [topology, hnode]
          · exact hmacs j
          · exact hpeers j
          · simp only [topology, hmIface, hsupport]
            rfl
        rw [htopology]
        refine hofOwn.congr fun slot => ?_
        rw [Topology.wanted_assign, topology_intra hi, hframe.intra, hsupport, hframe.macs, hmacs,
          hpeers, or_assoc]
        simp only [hmacs]
        refine or_congr Iff.rfl ⟨?_, ?_⟩
        · rintro ⟨q, hq | ⟨rfl, hs⟩, hrest⟩
          · exact Or.inl ⟨q, hq, hrest⟩
          · exact Or.inr ⟨hs, hrest⟩
        · rintro (⟨q, hq, hrest⟩ | ⟨hs, hrest⟩)
          · exact ⟨q, Or.inl hq, hrest⟩
          · exact ⟨i, Or.inr ⟨rfl, hs⟩, hrest⟩
    · rw [hframe.intra, hsupport] at hs
      exact Or.inl ((topology_intra hi).trans hs)
    · rcases hH with hH | ⟨q, hq, _, _, heq⟩
      · exact hunset i mac hH
      · cases heq
        exact hassign.peers_ne _ hq
  · rw [hpeers] at hq
    rw [hinter]
    exact h.inter_of_mem hq

end LanToLan

end DeviceHal.Ipacm
