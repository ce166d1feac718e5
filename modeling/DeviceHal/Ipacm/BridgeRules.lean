import DeviceHal.Ipacm.BridgeFrame

namespace DeviceHal.Ipacm

open Lib

/-- The places where the handles of contexts and rules are kept. -/
inductive BridgeSlot where
  | ctx (iface : Nat) (use : CtxUse)
  | rt (iface : Nat) (mac : MacAddr) (use : CtxUse) (iptype : IpaIpType) (position : Nat)
  | flt (iface peer : Nat) (mac : MacAddr) (iptype : IpaIpType)

def ClientInfo.rtHdl (client : ClientInfo) : CtxUse → IpaIpType → List Nat
  | .inter hdrType => client.interIfaceRtRuleHdl hdrType
  | .intra => client.intraIfaceRtRuleHdl

namespace LanToLanIface

variable {n : LanToLanIface} {self peer : Nat} {info : PeerIfaceInfo}

def ctxHdl (n : LanToLanIface) : CtxUse → Nat
  | .inter hdrType => n.hdrProcCtxForInterInterface hdrType
  | .intra => n.hdrProcCtxForIntraInterface

/-- What an interface keeps for a peer, or for its own clients under its own name. -/
def Entry (n : LanToLanIface) (self peer : Nat) (info : PeerIfaceInfo) : Prop :=
  if peer = self then info = n.intraInterfaceInfo
  else info ∈ n.peerIfaceInfo ∧ info.peer = peer

theorem Entry.unique (hnodup : n.peers.Nodup) {info' : PeerIfaceInfo} (h : n.Entry self peer info)
    (h' : n.Entry self peer info') : info = info' := by
  unfold Entry at h h'
  split at h
  next heq =>
    rw [if_pos heq] at h'
    exact h.trans h'.symm
  next hne =>
    rw [if_neg hne] at h'
    exact List.inj_on_of_nodup_map hnodup h.1 h'.1 (h.2.trans h'.2.symm)

theorem entry_peerInfo (h : peer = self ∨ peer ∈ n.peers) :
    n.Entry self peer (n.peerInfo self peer) := by
  unfold Entry peerInfo
  split
  next => rfl
  next hne =>
    obtain ⟨info, hinfo, hpeer⟩ := List.mem_map.mp (h.resolve_left hne)
    cases hfind : n.peerIfaceInfo.find? fun info => info.peer = peer with
    | none =>
      grind
    | some found => grind

theorem entry_modifyPeerInfo {f : PeerIfaceInfo → PeerIfaceInfo} (hf : ∀ info, (f info).peer = info.peer)
    (q : Nat) (info' : PeerIfaceInfo) : (n.modifyPeerInfo self peer f).Entry self q info' ↔
      ∃ info, n.Entry self q info ∧ info' = if q = peer then f info else info := by
  by_cases hself : peer = self
  · subst hself
    unfold Entry modifyPeerInfo
    grind
  · unfold Entry modifyPeerInfo
    rw [if_neg hself]
    by_cases hq : q = self
    · simp only [hq, if_true, exists_eq_left, if_neg (Ne.symm hself)]
    · simp only [hq, if_false, List.mem_map]
      constructor
      · rintro ⟨⟨info, hinfo, rfl⟩, hpeer⟩
        by_cases hp : info.peer = peer
        · grind
        grind
      grind

end LanToLanIface

namespace LanToLan

variable (props : Nat → LanProps)

def useOf (i peer : Nat) : CtxUse := if peer = i then .intra else .inter (props peer).hdrL2Type

def rtTblOf (i : Nat) : CtxUse → IpaIpType → RtTblName
  | .inter hdrType, iptype => .between iptype hdrType (props i).hdrL2Type
  | .intra, iptype => .intra iptype

def fltTblOf (i peer : Nat) (iptype : IpaIpType) : RtTblName :=
  if peer = i then .intra iptype
  else .between iptype (props i).hdrL2Type (props peer).hdrL2Type

def object (s : LanToLan) : BridgeSlot → BridgeObject
  | .ctx i use => .hdrProcCtx i use
  | .rt i mac use iptype position =>
    .rtRule i mac (rtTblOf props i use iptype) ((s.node i).ctxHdl use) iptype position
  | .flt i peer mac iptype => .fltRule i peer mac (fltTblOf props i peer iptype) iptype

/-- The handle that a slot holds. A context is held where it is said to be, and a filter rule where
its handle is not zero. -/
def Held (H : BridgeSlot → Prop) (s : LanToLan) : BridgeSlot → Nat → Prop
  | .ctx i use, g => H (.ctx i use) ∧ g = (s.node i).ctxHdl use
  | .rt i mac use iptype position, g => ∃ client ∈ (s.node i).clientInfo, client.mac = mac ∧
    (client.rtHdl use iptype)[position]? = some g
  | .flt i peer mac iptype, g => ∃ info, (s.node i).Entry i peer info ∧ ∃ e ∈ info.fltRule,
    e.mac = mac ∧ e.fltRuleHdl iptype = g ∧ g ≠ 0

/-- The driver holds exactly what the interfaces keep, and this is in the slots of the set. -/
structure Ledger (s : LanToLan) (H : BridgeSlot → Prop) : Prop where
  books : s.driver.Books (object props s) (Held H s)
  has : ∀ slot, H slot ↔ ∃ g, Held H s slot g
  macs_nodup : ∀ i, (s.node i).macs.Nodup
  peers_nodup : ∀ i, (s.node i).peers.Nodup
  peers_ne : ∀ i, i ∉ (s.node i).peers
  flt_nodup : ∀ i q info, (s.node i).Entry i q info → (info.fltRule.map FltRuleInfo.mac).Nodup
  flt_assigned : ∀ i q info, (s.node i).Entry i q info → ∀ e ∈ info.fltRule, ∀ iptype,
    e.fltRuleHdl iptype ≠ 0 → (s.node i).isIpAddrAssigned iptype = true
  names : ∀ i q info, (s.node i).Entry i q info → (q = i → H (.ctx i .intra)) →
    info.rtTblNameForRt = rtTblOf props i (useOf props i q) ∧
      info.rtTblNameForFlt = fltTblOf props i q

variable {props} {s : LanToLan} {H : BridgeSlot → Prop}

theorem held_ctx {i : Nat} {use : CtxUse} {g : Nat} :
    Held H s (.ctx i use) g ↔ H (.ctx i use) ∧ g = (s.node i).ctxHdl use := Iff.rfl

variable {iptype : IpaIpType}

theorem held_rt {i : Nat} {mac : MacAddr} {use : CtxUse} {position g : Nat} :
    Held H s (.rt i mac use iptype position) g ↔ ∃ client ∈ (s.node i).clientInfo,
      client.mac = mac ∧ (client.rtHdl use iptype)[position]? = some g := Iff.rfl

theorem held_flt {i peer : Nat} {mac : MacAddr} {g : Nat} :
    Held H s (.flt i peer mac iptype) g ↔ ∃ info, (s.node i).Entry i peer info ∧
      ∃ e ∈ info.fltRule, e.mac = mac ∧ e.fltRuleHdl iptype = g ∧ g ≠ 0 := Iff.rfl

theorem object_congr {t : LanToLan} (h : ∀ i, (t.node i).ctxHdl = (s.node i).ctxHdl) :
    object props t = object props s := by
  funext slot
  simp [object, h]

theorem rtTblOf_injective {i : Nat} {use use' : CtxUse}
    (h : rtTblOf props i use iptype = rtTblOf props i use' iptype) : use = use' := by
  cases use with
  | inter hdrType =>
    cases use' with
    | inter hdrType' =>
      simp only [rtTblOf, RtTblName.between.injEq] at h
      rw [h.2.1]
    | intra => cases h
  | intra =>
    cases use' with
    | inter hdrType' => cases h
    | intra => rfl

theorem object_injective : Function.Injective (object props s) := by
  intro a b h
  cases a with
  | ctx i use =>
    cases b with
    | ctx i' use' =>
      simp only [object, BridgeObject.hdrProcCtx.injEq] at h
      rw [h.1, h.2]
    | rt => cases h
    | flt => cases h
  | rt i mac use iptype position =>
    cases b with
    | rt i' mac' use' iptype' position' =>
      simp only [object, BridgeObject.rtRule.injEq] at h
      obtain ⟨rfl, rfl, htbl, -, rfl, rfl⟩ := h
      rw [rtTblOf_injective htbl]
    | ctx => cases h
    | flt => cases h
  | flt i peer mac iptype =>
    cases b with
    | flt i' peer' mac' iptype' =>
      simp only [object, BridgeObject.fltRule.injEq] at h
      obtain ⟨rfl, rfl, rfl, -, rfl⟩ := h
      rfl
    | ctx => cases h
    | rt => cases h

theorem Ledger.held_unique (h : Ledger props s H) {slot : BridgeSlot} {g g' : Nat}
    (hg : Held H s slot g) (hg' : Held H s slot g') : g = g' := by
  cases slot with
  | ctx i use => exact hg.2.trans hg'.2.symm
  | rt i mac use iptype position =>
    obtain ⟨client, hc, rfl, hp⟩ := hg
    obtain ⟨client', hc', hmac, hp'⟩ := hg'
    have heq : client' = client := List.inj_on_of_nodup_map (h.macs_nodup i) hc' hc hmac
    rw [heq] at hp'
    exact Option.some.inj (hp.symm.trans hp')
  | flt i peer mac iptype =>
    obtain ⟨info, hinfo, e, he, rfl, rfl, -⟩ := hg
    obtain ⟨info', hinfo', e', he', hmac, rfl, -⟩ := hg'
    have heq : info' = info := hinfo'.unique (h.peers_nodup i) hinfo
    rw [heq] at he'
    have heq' : e' = e := List.inj_on_of_nodup_map (h.flt_nodup i peer info hinfo) he' he hmac
    rw [heq']

theorem Ledger.once (h : Ledger props s H) {slot : BridgeSlot} (hH : H slot) :
    ∃ g, s.driver.installed g = some (object props s slot) ∧
      ∀ g', s.driver.installed g' = some (object props s slot) → g' = g :=
  h.books.once object_injective (fun _ _ => h.held_unique) ((h.has slot).mp hH)

theorem Ledger.installed (h : Ledger props s H) {g : Nat} {x : BridgeObject}
    (hx : s.driver.installed g = some x) : ∃ slot, H slot ∧ object props s slot = x := by
  obtain ⟨slot, hg, rfl⟩ := (h.books.installed_iff g x).mp hx
  exact ⟨slot, (h.has slot).mpr ⟨g, hg⟩, rfl⟩

end LanToLan

namespace LanToLan

variable {props : Nat → LanProps} {s t : LanToLan} {H H' : BridgeSlot → Prop}

def rtSlots (props : Nat → LanProps) (i : Nat) (mac : MacAddr) (use : CtxUse) (slot : BridgeSlot) : Prop :=
  ∃ iptype position, slot = .rt i mac use iptype position ∧
    position < (props i).eachClientRtRuleCount iptype

def rtOf (i : Nat) (mac : MacAddr) (use : CtxUse) (slot : BridgeSlot) : Prop :=
  ∃ iptype position, slot = .rt i mac use iptype position

def fltOf (i peer : Nat) (mac : MacAddr) (slot : BridgeSlot) : Prop :=
  ∃ iptype, slot = .flt i peer mac iptype

def fltOfPeer (i peer : Nat) (slot : BridgeSlot) : Prop :=
  ∃ mac iptype, slot = .flt i peer mac iptype

theorem Ledger.change (h : Ledger props s H) (hframe : SameFrame s t)
    (hbooks : t.driver.Books (object props t) (Held H' t))
    (hhas : ∀ slot, H' slot ↔ ∃ g, Held H' t slot g)
    (hentry : ∀ i q info', (t.node i).Entry i q info' → ∃ info, (s.node i).Entry i q info ∧
      info'.rtTblNameForRt = info.rtTblNameForRt ∧ info'.rtTblNameForFlt = info.rtTblNameForFlt ∧
      (info'.fltRule.map FltRuleInfo.mac).Nodup ∧
      ∀ e ∈ info'.fltRule, ∀ iptype, e.fltRuleHdl iptype ≠ 0 →
        (s.node i).isIpAddrAssigned iptype = true)
    (hintra : ∀ i, H' (.ctx i .intra) → H (.ctx i .intra)) : Ledger props t H' := by
  refine ⟨hbooks, hhas, fun i => ?_, fun i => ?_, fun i => ?_, fun i q info' hinfo' => ?_,
    fun i q info' hinfo' e he iptype hne => ?_, fun i q info' hinfo' hq => ?_⟩
  · exact (hframe.macs i).symm ▸ h.macs_nodup i
  · exact (hframe.peers i).symm ▸ h.peers_nodup i
  · exact (hframe.peers i).symm ▸ h.peers_ne i
  · grind
  · obtain ⟨info, -, -, -, -, hassigned⟩ := hentry i q info' hinfo'
    rw [hframe.assigned i]
    exact hassigned e he iptype hne
  · obtain ⟨info, hinfo, hrt, hflt, -, -⟩ := hentry i q info' hinfo'
    rw [hrt, hflt]
    exact h.names i q info hinfo fun he => hintra i (hq he)

variable {driver : Handles BridgeObject} {mac : MacAddr} {iptype : IpaIpType}

variable {i : Nat} {use : CtxUse}

theorem held_modifyClient
    {f : ClientInfo → ClientInfo} (hf : ∀ client, (f client).mac = client.mac) {j : Nat}
    {m : MacAddr} {position g : Nat} :
    Held H' ({ s with driver }.modify i fun n => n.modifyClient mac f)
        (.rt j m use iptype position) g ↔
      ∃ client ∈ (s.node j).clientInfo, client.mac = m ∧
        ((if j = i ∧ m = mac then f client else client).rtHdl use iptype)[position]? = some g := by
  rw [held_rt]
  by_cases hj : j = i
  · subst hj
    rw [node_modify_self]
    simp only [LanToLanIface.modifyClient, List.mem_map, true_and]
    constructor
    · rintro ⟨_, ⟨client, hc, rfl⟩, hm, hp⟩
      by_cases hmac : client.mac = mac
      · grind
      grind
    · rintro ⟨client, hc, rfl, hp⟩
      refine ⟨_, ⟨client, hc, rfl⟩, ?_, hp⟩
      split
      · exact hf client
      · rfl
  · rw [node_modify_of_ne hj]
    simp only [hj, false_and, if_false]

variable {hdls : IpaIpType → List Nat} {i peer : Nat}

theorem rtHdl_setRtHdl (client : ClientInfo)
    (use : CtxUse) : (setRtHdl props i peer hdls client).rtHdl use =
      if use = useOf props i peer then hdls else client.rtHdl use := by
  unfold setRtHdl useOf
  split
  · cases use <;> simp [ClientInfo.rtHdl]
  · cases use with
    | inter hdrType => simp [ClientInfo.rtHdl, Function.update_apply]
    | intra => simp [ClientInfo.rtHdl]

theorem held_setRtHdl (hmac : mac ∈ (s.node i).macs) {j : Nat} {m : MacAddr} {position g : Nat} :
    Held H' ({ s with driver }.modify i fun n => n.modifyClient mac (setRtHdl props i peer hdls))
        (.rt j m use iptype position) g ↔
      if j = i ∧ m = mac ∧ use = useOf props i peer then (hdls iptype)[position]? = some g
      else Held H s (.rt j m use iptype position) g := by
  rw [held_modifyClient mac_setRtHdl]
  by_cases hkey : j = i ∧ m = mac
  · obtain ⟨rfl, rfl⟩ := hkey
    simp only [true_and, and_self, if_true, rtHdl_setRtHdl]
    by_cases huse : use = useOf props j peer
    · simp only [if_pos huse]
      obtain ⟨client, hclient, hm⟩ := List.mem_map.mp hmac
      grind
    · simp only [if_neg huse]
      exact held_rt.symm
  · simp only [if_neg hkey]
    rw [if_neg fun h => hkey ⟨h.1, h.2.1⟩]
    exact held_rt.symm

theorem held_setRtHdl_iff (hmac : mac ∈ (s.node i).macs)
    (hctx : ∀ j use, H' (.ctx j use) ↔ H (.ctx j use)) (slot : BridgeSlot) (g : Nat) :
    Held H' ({ s with driver }.modify i fun n => n.modifyClient mac (setRtHdl props i peer hdls))
        slot g ↔
      Held H s slot g ∧ ¬rtOf i mac (useOf props i peer) slot ∨
        ∃ iptype n, slot = .rt i mac (useOf props i peer) iptype n ∧ (hdls iptype)[n]? = some g := by
  have hnode : ∀ j, (({ s with driver }.modify i fun n =>
      n.modifyClient mac (setRtHdl props i peer hdls)).node j).ctxHdl = (s.node j).ctxHdl ∧
      ∀ q, (({ s with driver }.modify i fun n =>
        n.modifyClient mac (setRtHdl props i peer hdls)).node j).Entry j q = (s.node j).Entry j q := by
    intro j
    by_cases hj : j = i
    · subst hj
      rw [node_modify_self]
      exact ⟨by funext use; cases use <;> rfl, fun _ => rfl⟩
    · rw [node_modify_of_ne hj]
      exact ⟨rfl, fun _ => rfl⟩
  cases slot with
  | ctx j use =>
    rw [held_ctx, held_ctx, hctx, (hnode j).1]
    refine ⟨fun hc => Or.inl ⟨hc, nofun⟩, fun hc => (hc.resolve_right nofun).1⟩
  | flt j q m iptype =>
    rw [held_flt, held_flt, (hnode j).2]
    refine ⟨fun hc => Or.inl ⟨hc, nofun⟩, fun hc => (hc.resolve_right nofun).1⟩
  | rt j m use iptype position =>
    rw [held_setRtHdl hmac]
    split
    next hkey =>
      obtain ⟨rfl, rfl, rfl⟩ := hkey
      constructor
      · intro hp
        exact Or.inr ⟨iptype, position, rfl, hp⟩
      · rintro (⟨-, hno⟩ | ⟨_, _, heq, hp⟩)
        · exact absurd ⟨iptype, position, rfl⟩ hno
        · cases heq
          exact hp
    next hkey =>
      constructor
      · intro hc
        refine Or.inl ⟨hc, ?_⟩
        rintro ⟨_, _, heq⟩
        cases heq
        exact hkey ⟨rfl, rfl, rfl⟩
      grind

theorem ctxHdl_modify {f : LanToLanIface → LanToLanIface}
    (h : (f (s.node i)).ctxHdl = (s.node i).ctxHdl) (j : Nat) :
    (({ s with driver }.modify i f).node j).ctxHdl = (s.node j).ctxHdl := by
  by_cases hj : j = i
  · subst hj
    rw [node_modify_self]
    exact h
  · rw [node_modify_of_ne hj]

def slotsOf (props : Nat → LanProps) (i : Nat) (mac : MacAddr) (use : CtxUse) (iptype : IpaIpType) :
    List BridgeSlot :=
  (List.range ((props i).eachClientRtRuleCount iptype)).map (.rt i mac use iptype)

theorem getElem?_slotsOf {n : Nat}
    {slot : BridgeSlot} : (slotsOf props i mac use iptype)[n]? = some slot ↔
      n < (props i).eachClientRtRuleCount iptype ∧ slot = .rt i mac use iptype n := by
  unfold slotsOf
  rw [List.getElem?_map, Option.map_eq_some_iff]
  constructor
  · grind
  grind

theorem ethBridgeAddRtRule_eq
    {rtTbl : RtTblName} {ctx : Nat} (htbl : rtTbl = rtTblOf props i use iptype)
    (hctx : ctx = (s.node i).ctxHdl use) (k : Handles BridgeObject) :
    ethBridgeAddRtRule props i mac rtTbl ctx iptype k =
      k.addAll ((slotsOf props i mac use iptype).map (object props s)) := by
  rw [htbl, hctx]
  unfold ethBridgeAddRtRule slotsOf
  rw [List.map_map]
  rfl

theorem Ledger.change_of_entries (h : Ledger props s H) (hframe : SameFrame s t)
    (hbooks : t.driver.Books (object props t) (Held H' t))
    (hhas : ∀ slot, H' slot ↔ ∃ g, Held H' t slot g)
    (hpeers : ∀ i, (t.node i).peerIfaceInfo = (s.node i).peerIfaceInfo ∧
      (t.node i).intraInterfaceInfo = (s.node i).intraInterfaceInfo)
    (hintra : ∀ i, H' (.ctx i .intra) → H (.ctx i .intra)) : Ledger props t H' := by
  refine h.change hframe hbooks hhas (fun i q info hinfo => ⟨info, ?_, rfl, rfl, ?_, ?_⟩) hintra
  all_goals
    unfold LanToLanIface.Entry at hinfo
    rw [(hpeers i).1, (hpeers i).2] at hinfo
  · exact hinfo
  · exact h.flt_nodup i q info hinfo
  · exact h.flt_assigned i q info hinfo

theorem entries_modifyClient {f : ClientInfo → ClientInfo} (j : Nat) :
    (({ s with driver }.modify i fun n => n.modifyClient mac f).node j).peerIfaceInfo =
        (s.node j).peerIfaceInfo ∧
      (({ s with driver }.modify i fun n => n.modifyClient mac f).node j).intraInterfaceInfo =
        (s.node j).intraInterfaceInfo := by
  by_cases hj : j = i
  · subst hj
    rw [node_modify_self]
    exact ⟨rfl, rfl⟩
  · rw [node_modify_of_ne hj]
    exact ⟨rfl, rfl⟩

theorem Ledger.addClientRtRule (h : Ledger props s H) (hmac : mac ∈ (s.node i).macs)
    (hpeer : peer = i ∧ H (.ctx i .intra) ∨ peer ∈ (s.node i).peers)
    (hnone : ∀ slot, rtOf i mac (useOf props i peer) slot → ¬H slot) :
    Ledger props (addClientRtRule props i peer mac s)
      fun slot => H slot ∨ rtSlots props i mac (useOf props i peer) slot := by
  have hinfo : (s.node i).Entry i peer ((s.node i).peerInfo i peer) :=
    LanToLanIface.entry_peerInfo (hpeer.imp And.left id)
  have hnames := h.names i peer _ hinfo fun he => (hpeer.resolve_right fun hm =>
    h.peers_ne i (he ▸ hm)).2
  have hctx : (if peer = i then (s.node i).hdrProcCtxForIntraInterface
      else (s.node i).hdrProcCtxForInterInterface (props peer).hdrL2Type) =
      (s.node i).ctxHdl (useOf props i peer) := by
    unfold useOf
    split <;> rfl
  have hadd : ∀ iptype k, ethBridgeAddRtRule props i mac
      (((s.node i).peerInfo i peer).rtTblNameForRt iptype) _ iptype k =
      k.addAll ((slotsOf props i mac (useOf props i peer) iptype).map (object props s)) :=
    fun iptype k => ethBridgeAddRtRule_eq (congrFun hnames.1 iptype) hctx k
  have hframe : SameFrame s (LanToLan.addClientRtRule props i peer mac s) :=
    sameFrame_addClientRtRule i peer mac
  unfold LanToLan.addClientRtRule at hframe ⊢
  simp only [hadd] at hframe ⊢
  have b4 := h.books.addAll (slotsOf props i mac (useOf props i peer) .v4)
  have b6 := b4.addAll (slotsOf props i mac (useOf props i peer) .v6)
  have hlen4 := Handles.length_addAll s.driver
    ((slotsOf props i mac (useOf props i peer) .v4).map (object props s))
  generalize s.driver.addAll _ = v4 at *
  have hlen6 := Handles.length_addAll v4.2
    ((slotsOf props i mac (useOf props i peer) .v6).map (object props s))
  generalize v4.2.addAll _ = v6 at *
  have hlen : ∀ iptype, (bothHdls v4.1 v6.1 iptype).length =
      (props i).eachClientRtRuleCount iptype := by
    intro iptype
    cases iptype
    · simpa [bothHdls, slotsOf] using hlen4
    · simpa [bothHdls, slotsOf] using hlen6
  have hheld : ∀ slot g, Held (fun slot => H slot ∨ rtSlots props i mac (useOf props i peer) slot)
      ({ s with driver := v6.2 }.modify i fun n =>
        n.modifyClient mac (setRtHdl props i peer (bothHdls v4.1 v6.1))) slot g ↔
      Held H s slot g ∨ ∃ iptype n, slot = .rt i mac (useOf props i peer) iptype n ∧
        (bothHdls v4.1 v6.1 iptype)[n]? = some g := by
    intro slot g
    refine (held_setRtHdl_iff (H := H) hmac (fun j use => ?_) slot g).trans (or_congr ?_ Iff.rfl)
    · refine ⟨fun hc => hc.resolve_right ?_, Or.inl⟩
      rintro ⟨_, _, heq, -⟩
      cases heq
    · exact and_iff_left_of_imp fun hc hrt => hnone slot hrt ((h.has slot).mpr ⟨g, hc⟩)
  refine h.change_of_entries hframe ?_ (fun slot => ?_) entries_modifyClient fun j => ?_
  · refine b6.congr (fun slot g => ?_) fun slot g _ => ?_
    · rw [hheld, or_assoc]
      refine or_congr Iff.rfl ?_
      simp only [getElem?_slotsOf]
      constructor
      · rintro ⟨iptype, n, rfl, hg⟩
        have hlt : n < (props i).eachClientRtRuleCount iptype :=
          hlen iptype ▸ (List.getElem?_eq_some_iff.mp hg).1
        cases iptype
        · exact Or.inl ⟨n, ⟨hlt, rfl⟩, hg⟩
        · exact Or.inr ⟨n, ⟨hlt, rfl⟩, hg⟩
      · rintro (⟨n, ⟨-, rfl⟩, hg⟩ | ⟨n, ⟨-, rfl⟩, hg⟩)
        · exact ⟨.v4, n, rfl, hg⟩
        · exact ⟨.v6, n, rfl, hg⟩
    · exact congrFun (object_congr (ctxHdl_modify (by funext use; cases use <;> rfl))) slot
  · rw [exists_congr (hheld slot), exists_or]
    refine or_congr (h.has slot) ⟨?_, ?_⟩
    · rintro ⟨iptype, n, rfl, hlt⟩
      rw [← hlen iptype] at hlt
      exact ⟨_, iptype, n, rfl, List.getElem?_eq_getElem hlt⟩
    · rintro ⟨g, iptype, n, rfl, hg⟩
      exact ⟨iptype, n, rfl, hlen iptype ▸ (List.getElem?_eq_some_iff.mp hg).1⟩
  · rintro (hc | ⟨_, _, heq, -⟩)
    · exact hc
    · cases heq

theorem find?_client {n : LanToLanIface} (hmac : mac ∈ n.macs) :
    ∃ client ∈ n.clientInfo, client.mac = mac ∧
      (n.clientInfo.find? fun client => client.mac = mac) = some client := by
  cases hfind : n.clientInfo.find? fun client => client.mac = mac with
  | none =>
    obtain ⟨client, hc, hm⟩ := List.mem_map.mp hmac
    grind
  | some client =>
    grind

theorem rtHdlToward_eq (client : ClientInfo) :
    rtHdlToward props i peer client = client.rtHdl (useOf props i peer) := by
  unfold rtHdlToward useOf
  split <;> rfl

theorem Ledger.delClientRtRule (h : Ledger props s H) (peer : Nat) (hmac : mac ∈ (s.node i).macs) :
    Ledger props (delClientRtRule props i peer mac s)
      fun slot => H slot ∧ ¬rtOf i mac (useOf props i peer) slot := by
  obtain ⟨client, hclient, hm, hfind⟩ := find?_client hmac
  have hframe : SameFrame s (LanToLan.delClientRtRule props i peer mac s) :=
    sameFrame_delClientRtRule i peer mac
  unfold LanToLan.delClientRtRule at hframe ⊢
  simp only [hfind, rtHdlToward_eq] at hframe ⊢
  rw [← Handles.delAll_append] at hframe ⊢
  have hheld : ∀ {driver : Handles BridgeObject} (slot : BridgeSlot) (g : Nat),
      Held (fun slot => H slot ∧ ¬rtOf i mac (useOf props i peer) slot)
        ({ s with driver }.modify i fun n => n.modifyClient mac (setRtHdl props i peer fun _ => []))
        slot g ↔ Held H s slot g ∧ ¬rtOf i mac (useOf props i peer) slot := by
    intro driver slot g
    refine (held_setRtHdl_iff (H := H) hmac (fun j use => ?_) slot g).trans ?_
    · refine ⟨And.left, fun hc => ⟨hc, ?_⟩⟩
      rintro ⟨_, _, heq⟩
      cases heq
    · simp
  have hget : ∀ iptype position g, Held H s (.rt i mac (useOf props i peer) iptype position) g ↔
      (client.rtHdl (useOf props i peer) iptype)[position]? = some g := by
    intro iptype position g
    rw [held_rt]
    constructor
    · rintro ⟨client', hc', hm', hg⟩
      rwa [List.inj_on_of_nodup_map (h.macs_nodup i) hc' hclient (hm'.trans hm.symm)] at hg
    · exact fun hg => ⟨client, hclient, hm, hg⟩
  have hdel := h.books.delAll object_injective
    (client.rtHdl (useOf props i peer) .v4 ++ client.rtHdl (useOf props i peer) .v6)
    (rtOf i mac (useOf props i peer)) ?_ ?_
  · refine h.change_of_entries hframe (hdel.congr hheld fun slot g _ => ?_) (fun slot => ?_)
      entries_modifyClient fun j hc => hc.1
    · exact congrFun (object_congr (ctxHdl_modify (by funext use; cases use <;> rfl))) slot
    · rw [exists_congr (hheld slot), exists_and_right]
      exact and_congr_left' (h.has slot)
  · rintro _ g ⟨iptype, position, rfl⟩ hg
    have hmem := List.mem_of_getElem? ((hget iptype position g).mp hg)
    cases iptype
    · exact List.mem_append_left _ hmem
    · exact List.mem_append_right _ hmem
  · intro g hg
    have hslot : ∀ iptype, g ∈ client.rtHdl (useOf props i peer) iptype →
        ∃ slot, rtOf i mac (useOf props i peer) slot ∧ Held H s slot g := by
      intro iptype hmem
      obtain ⟨position, hp⟩ := List.mem_iff_getElem?.mp hmem
      exact ⟨_, ⟨iptype, position, rfl⟩, (hget iptype position g).mpr hp⟩
    grind

end LanToLan

end DeviceHal.Ipacm
