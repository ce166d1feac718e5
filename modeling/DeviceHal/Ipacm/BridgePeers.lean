import DeviceHal.Ipacm.BridgeTopology

namespace DeviceHal.Ipacm

open Lib LanToLan

namespace Topology

variable {props : Nat → LanProps} {T : Topology}

/-- Two interfaces become peers, each at the front of the other's list. -/
def link (T : Topology) (i e : Nat) : Topology :=
  (T.setPeers e (i :: T.peers e)).setPeers i (e :: T.peers i)

def unlink (T : Topology) (i q : Nat) : Topology :=
  (T.setPeers q ((T.peers q).filter fun p => p ≠ i)).setPeers i ((T.peers i).filter fun p => p ≠ q)

theorem peers_link {i e : Nat} (j : Nat) : (T.link i e).peers j =
    if j = i then e :: T.peers i else if j = e then i :: T.peers e else T.peers j := by
  unfold link setPeers
  simp only [Function.update_apply]

variable {i q : Nat}

theorem peers_unlink (j : Nat) : (T.unlink i q).peers j =
    if j = i then (T.peers i).filter fun p => p ≠ q
    else if j = q then (T.peers q).filter fun p => p ≠ i else T.peers j := by
  unfold unlink setPeers
  simp only [Function.update_apply]

theorem mem_peers_unlink (hne : q ≠ i) (j p : Nat) : p ∈ (T.unlink i q).peers j ↔
    p ∈ T.peers j ∧ ¬(j = i ∧ p = q) ∧ ¬(j = q ∧ p = i) := by
  grind [peers_unlink]

theorem uses_link {i e : Nat} (hne : e ≠ i) (j : Nat) (use : CtxUse) :
    (T.link i e).Uses props j use ↔ T.Uses props j use ∨
      (j = e ∧ use = .inter (props i).hdrL2Type) ∨ (j = i ∧ use = .inter (props e).hdrL2Type) := by
  cases use with
  | intra =>
    refine (or_iff_left ?_).symm
    rintro (⟨_, heq⟩ | ⟨_, heq⟩) <;> cases heq
  | inter hdrType =>
    simp only [Uses, peers_link, CtxUse.inter.injEq]
    split
    next hj =>
      grind
    grind

theorem wanted_link {i e : Nat} (hne : e ≠ i) (hmacs : T.macs i = [])
    (hassigned : ∀ iptype, T.assigned i iptype = false) (slot : BridgeSlot) :
    (T.link i e).Wanted props slot ↔ ((T.Wanted props slot ∨
      slot = .ctx e (.inter (props i).hdrL2Type)) ∨ slot = .ctx i (.inter (props e).hdrL2Type)) ∨
      ∃ mac ∈ T.macs e, rtSlots props e mac (.inter (props i).hdrL2Type) slot := by
  cases slot with
  | ctx j use =>
    simp only [Wanted, uses_link hne, BridgeSlot.ctx.injEq, or_assoc]
    refine or_congr Iff.rfl (or_congr Iff.rfl (or_iff_left ?_).symm)
    rintro ⟨_, _, _, _, heq, _⟩
    cases heq
  | rt j m use iptype position =>
    simp only [Wanted, uses_link hne]
    constructor
    · rintro ⟨hm, hpos, huse | ⟨rfl, rfl⟩ | ⟨rfl, rfl⟩⟩
      · exact Or.inl (Or.inl (Or.inl ⟨hm, hpos, huse⟩))
      · exact Or.inr ⟨m, hm, iptype, position, rfl, hpos⟩
      · have hm' : m ∈ T.macs j := hm
        rw [hmacs] at hm'
        cases hm'
    · rintro (((⟨hm, hpos, huse⟩ | heq) | heq) | ⟨_, hm, _, _, heq, hpos⟩)
      · exact ⟨hm, hpos, Or.inl huse⟩
      · cases heq
      · cases heq
      · cases heq
        exact ⟨hm, hpos, Or.inr (Or.inl ⟨rfl, rfl⟩)⟩
  | flt j q m iptype =>
    simp only [Wanted, peers_link]
    constructor
    · rintro ⟨ha, hm, hpeer⟩
      refine Or.inl (Or.inl (Or.inl ⟨ha, hm, hpeer.imp_left fun hq => ?_⟩))
      have hm' : m ∈ T.macs q := hm
      have ha' : T.assigned j iptype = true := ha
      split at hq
      next hj =>
        rw [hj, hassigned] at ha'
        cases ha'
      grind
    · rintro (((⟨ha, hm, hpeer⟩ | heq) | heq) | ⟨_, _, _, _, heq, _⟩)
      · refine ⟨ha, hm, hpeer.imp_left fun hq => ?_⟩
        grind
      all_goals cases heq

theorem uses_of_unlink (hne : q ≠ i) {j : Nat} {use : CtxUse}
    (h : (T.unlink i q).Uses props j use) : T.Uses props j use := by
  cases use with
  | inter hdrType =>
    obtain ⟨p, hp, hty⟩ := h
    exact ⟨p, ((mem_peers_unlink hne j p).mp hp).1, hty⟩
  | intra => exact h

theorem uses_unlink (hne : q ≠ i) {j : Nat} {use : CtxUse} (h : T.Uses props j use) :
    (T.unlink i q).Uses props j use ∨ (j = q ∧ use = .inter (props i).hdrL2Type) ∨
      (j = i ∧ use = .inter (props q).hdrL2Type) := by
  cases use with
  | intra => exact Or.inl h
  | inter hdrType =>
    obtain ⟨p, hp, rfl⟩ := h
    by_cases hi : j = i ∧ p = q
    · grind
    · by_cases hq : j = q ∧ p = i
      · grind
      · exact Or.inl ⟨p, (mem_peers_unlink hne j p).mpr ⟨hp, hi, hq⟩, rfl⟩

def ofUse (i : Nat) (use : CtxUse) (slot : BridgeSlot) : Prop :=
  slot = .ctx i use ∨ ∃ mac, rtOf i mac use slot

theorem wanted_unlink (hne : q ≠ i) (slot : BridgeSlot) :
    (T.unlink i q).Wanted props slot ↔ T.Wanted props slot ∧
      (¬fltOfPeer i q slot ∧ ¬fltOfPeer q i slot) ∧
      (¬(T.unlink i q).Uses props q (.inter (props i).hdrL2Type) →
        ¬ofUse q (.inter (props i).hdrL2Type) slot) ∧
      (¬(T.unlink i q).Uses props i (.inter (props q).hdrL2Type) →
        ¬ofUse i (.inter (props q).hdrL2Type) slot) := by
  have hflt : ∀ {j use} {slot : BridgeSlot}, slot = .ctx j use ∨ (∃ mac, rtOf j mac use slot) →
      ∀ a b, ¬fltOfPeer a b slot := by
    rintro j use slot (rfl | ⟨_, _, _, rfl⟩) a b ⟨_, _, heq⟩ <;> cases heq
  have hkept : ∀ {j use}, T.Uses props j use →
      (¬(T.unlink i q).Uses props q (.inter (props i).hdrL2Type) →
        ¬(j = q ∧ use = .inter (props i).hdrL2Type)) →
      (¬(T.unlink i q).Uses props i (.inter (props q).hdrL2Type) →
        ¬(j = i ∧ use = .inter (props q).hdrL2Type)) → (T.unlink i q).Uses props j use := by
    intro j use huse hq hi
    by_contra hgone
    rcases uses_unlink hne huse with hstay | ⟨rfl, rfl⟩ | ⟨rfl, rfl⟩
    · exact hgone hstay
    · exact hq hgone ⟨rfl, rfl⟩
    · exact hi hgone ⟨rfl, rfl⟩
  cases slot with
  | ctx j use =>
    constructor
    · intro huse
      refine ⟨uses_of_unlink hne huse, ⟨hflt (Or.inl rfl) i q, hflt (Or.inl rfl) q i⟩, ?_, ?_⟩
      all_goals
        rintro hgone (heq | ⟨_, _, _, heq⟩) <;> cases heq
        exact hgone huse
    · rintro ⟨huse, -, hq, hi⟩
      refine hkept huse (fun hgone he => hq hgone (Or.inl ?_)) fun hgone he => hi hgone (Or.inl ?_)
      · rw [he.1, he.2]
      · rw [he.1, he.2]
  | rt j m use iptype position =>
    constructor
    · rintro ⟨hm, hpos, huse⟩
      refine ⟨⟨hm, hpos, uses_of_unlink hne huse⟩, ⟨hflt (Or.inr ⟨m, iptype, position, rfl⟩) i q,
        hflt (Or.inr ⟨m, iptype, position, rfl⟩) q i⟩, ?_, ?_⟩
      all_goals
        rintro hgone (heq | ⟨_, _, _, heq⟩) <;> cases heq
        exact hgone huse
    · rintro ⟨⟨hm, hpos, huse⟩, -, hq, hi⟩
      refine ⟨hm, hpos, hkept huse (fun hgone he => hq hgone (Or.inr ⟨m, iptype, position, ?_⟩))
        fun hgone he => hi hgone (Or.inr ⟨m, iptype, position, ?_⟩)⟩
      · rw [he.1, he.2]
      · rw [he.1, he.2]
  | flt j p m iptype =>
    have hother : ∀ a use, ¬ofUse a use (.flt j p m iptype) := by
      rintro a use (heq | ⟨_, _, _, heq⟩) <;> cases heq
    simp only [Wanted, mem_peers_unlink hne]
    constructor
    · rintro ⟨ha, hm, hpeer⟩
      refine ⟨⟨ha, hm, hpeer.imp_left And.left⟩, ⟨?_, ?_⟩, fun _ => hother _ _, fun _ => hother _ _⟩
      all_goals
        rintro ⟨_, _, heq⟩
        cases heq
      · omega
      omega
    · rintro ⟨⟨ha, hm, hpeer⟩, ⟨hi, hq⟩, -⟩
      refine ⟨ha, hm, hpeer.imp_left fun hp => ⟨hp, ?_, ?_⟩⟩
      · rintro ⟨rfl, rfl⟩
        exact hi ⟨m, iptype, rfl⟩
      · rintro ⟨rfl, rfl⟩
        exact hq ⟨m, iptype, rfl⟩

end Topology

namespace LanToLan

variable {props : Nat → LanProps} {s t : LanToLan} {H : BridgeSlot → Prop} {T : Topology}

/-- The peers and their count may differ, and rules. -/
structure SamePorts (s t : LanToLan) : Prop where
  mIface : t.mIface = s.mIface
  assigned : ∀ i, (t.node i).isIpAddrAssigned = (s.node i).isIpAddrAssigned
  inter : ∀ i, (t.node i).supportInterIfaceOffload = (s.node i).supportInterIfaceOffload
  intra : ∀ i, (t.node i).supportIntraIfaceOffload = (s.node i).supportIntraIfaceOffload
  macs : ∀ i, (t.node i).macs = (s.node i).macs

theorem SamePorts.refl (s : LanToLan) : SamePorts s s :=
  ⟨rfl, fun _ => rfl, fun _ => rfl, fun _ => rfl, fun _ => rfl⟩

theorem SamePorts.trans {u : LanToLan} (h : SamePorts s t) (h' : SamePorts t u) : SamePorts s u :=
  ⟨h'.mIface.trans h.mIface, fun i => (h'.assigned i).trans (h.assigned i),
    fun i => (h'.inter i).trans (h.inter i), fun i => (h'.intra i).trans (h.intra i),
    fun i => (h'.macs i).trans (h.macs i)⟩

theorem SameFrame.samePorts (h : SameFrame s t) : SamePorts s t :=
  ⟨h.mIface, h.assigned, h.inter, h.intra, h.macs⟩

variable {i : Nat}

theorem samePorts_modify {f : LanToLanIface → LanToLanIface}
    (hassigned : (f (s.node i)).isIpAddrAssigned = (s.node i).isIpAddrAssigned)
    (hinter : (f (s.node i)).supportInterIfaceOffload = (s.node i).supportInterIfaceOffload)
    (hintra : (f (s.node i)).supportIntraIfaceOffload = (s.node i).supportIntraIfaceOffload)
    (hmacs : (f (s.node i)).macs = (s.node i).macs) : SamePorts s (s.modify i f) := by
  refine ⟨rfl, fun j => ?_, fun j => ?_, fun j => ?_, fun j => ?_⟩
  all_goals
    by_cases hj : j = i
    · subst hj
      rw [node_modify_self]
      assumption
    · rw [node_modify_of_ne hj]

theorem samePorts_addRefCnt (i : Nat) (hdrType : HdrL2Type) (d : Int) :
    SamePorts s (s.addRefCnt i hdrType d) := samePorts_modify rfl rfl rfl rfl

theorem refCnt_addRefCnt (s : LanToLan) (i : Nat) (hdrType : HdrL2Type) (d : Int) (j : Nat)
    (hdrType' : HdrL2Type) : ((s.addRefCnt i hdrType d).node j).refCntPeerL2HdrType hdrType' =
      (s.node j).refCntPeerL2HdrType hdrType' + if j = i ∧ hdrType' = hdrType then d else 0 := by
  unfold addRefCnt
  by_cases hj : j = i
  · subst hj
    rw [node_modify_self]
    grind
  · rw [node_modify_of_ne hj, if_neg fun he => hj he.1]
    exact (Int.add_zero _).symm

theorem peers_addRefCnt (s : LanToLan) (i : Nat) (hdrType : HdrL2Type) (d : Int) (j : Nat) :
    ((s.addRefCnt i hdrType d).node j).peers = (s.node j).peers := by
  unfold addRefCnt
  by_cases hj : j = i
  · subst hj
    rw [node_modify_self]
    rfl
  · rw [node_modify_of_ne hj]

theorem samePorts_newPeer (i peer : Nat) : SamePorts s (newPeer props i peer s) := by
  unfold newPeer
  refine (samePorts_addRefCnt i (props peer).hdrL2Type 1).trans ?_
  exact (sameFrame_addHdrProcCtx i (props peer).hdrL2Type).samePorts.trans
    (samePorts_modify rfl rfl rfl rfl)

theorem refCnt_newPeer (i peer j : Nat) (hdrType : HdrL2Type) :
    ((newPeer props i peer s).node j).refCntPeerL2HdrType hdrType =
      (s.node j).refCntPeerL2HdrType hdrType +
        if j = i ∧ hdrType = (props peer).hdrL2Type then 1 else 0 := by
  rw [← refCnt_addRefCnt]
  have hframe : SameFrame (s.addRefCnt i (props peer).hdrL2Type 1) _ :=
    sameFrame_addHdrProcCtx i (props peer).hdrL2Type
  refine Eq.trans ?_ (congrFun (hframe.refCnt j) hdrType)
  unfold newPeer
  by_cases hj : j = i
  · subst hj
    rw [node_modify_self]
  · rw [node_modify_of_ne hj]

theorem peers_newPeer (i peer j : Nat) : ((newPeer props i peer s).node j).peers =
    if j = i then peer :: (s.node i).peers else (s.node j).peers := by
  have hframe : SameFrame (s.addRefCnt i (props peer).hdrL2Type 1) _ :=
    sameFrame_addHdrProcCtx i (props peer).hdrL2Type
  unfold newPeer
  split
  next hj =>
    subst hj
    rw [node_modify_self, ← peers_addRefCnt s j (props peer).hdrL2Type 1, ← hframe.peers j]
    rfl
  next hj =>
    rw [node_modify_of_ne hj, hframe.peers, peers_addRefCnt]

theorem Ledger.newPeer (h : Ledger props s H) {i peer : Nat} (hne : peer ≠ i)
    (hpeer : peer ∉ (s.node i).peers)
    (hzero : (s.node i).refCntPeerL2HdrType (props peer).hdrL2Type = 0 →
      ∀ slot, Topology.ofUse i (.inter (props peer).hdrL2Type) slot → ¬H slot)
    (hpos : (s.node i).refCntPeerL2HdrType (props peer).hdrL2Type ≠ 0 →
      H (.ctx i (.inter (props peer).hdrL2Type))) :
    Ledger props (newPeer props i peer s) fun slot =>
      H slot ∨ slot = .ctx i (.inter (props peer).hdrL2Type) := by
  have hcount := refCnt_addRefCnt s i (props peer).hdrL2Type 1 i (props peer).hdrL2Type
  rw [if_pos ⟨rfl, rfl⟩] at hcount
  have hframe : SameFrame (s.addRefCnt i (props peer).hdrL2Type 1) _ :=
    sameFrame_addHdrProcCtx i (props peer).hdrL2Type
  have hctx := (h.addRefCnt i (props peer).hdrL2Type 1).addHdrProcCtx (i := i)
    (props peer).hdrL2Type fun hone => ?_
  · have hpush := hctx.pushPeer (i := i) hne ?_ ⟨peer,
      fun iptype => .between iptype (props peer).hdrL2Type (props i).hdrL2Type,
      fun iptype => .between iptype (props i).hdrL2Type (props peer).hdrL2Type, []⟩ rfl rfl ?_
    · refine hpush.congr fun slot => ?_
      constructor
      · grind
      · exact fun hH => hH.imp_right And.right
    · rw [hframe.peers, peers_addRefCnt]
      exact hpeer
    · rw [useOf_of_ne hne]
      refine ⟨rfl, ?_⟩
      funext iptype
      rw [fltTblOf, if_neg hne]
  · have hnone := hzero (by omega)
    exact ⟨hnone _ (Or.inl rfl), fun mac iptype position =>
      hnone _ (Or.inr ⟨mac, iptype, position, rfl⟩)⟩

theorem Ledger.addClientRtRuleForNewIface (h : Ledger props s H) (peer : Nat) (rest : List Nat)
    (hfront : (s.node i).peers = peer :: rest)
    (hone : (s.node i).refCntPeerL2HdrType (props peer).hdrL2Type = 1 →
      ∀ mac slot, rtOf i mac (.inter (props peer).hdrL2Type) slot → ¬H slot)
    (hmany : (s.node i).refCntPeerL2HdrType (props peer).hdrL2Type ≠ 1 →
      ∀ mac ∈ (s.node i).macs, ∀ slot, rtSlots props i mac (.inter (props peer).hdrL2Type) slot →
        H slot) :
    Ledger props (addClientRtRuleForNewIface props i s) fun slot => H slot ∨
      ∃ mac ∈ (s.node i).macs, rtSlots props i mac (.inter (props peer).hdrL2Type) slot := by
  have hmem : peer ∈ (s.node i).peers := hfront ▸ List.mem_cons_self
  have hne : peer ≠ i := fun he => h.peers_ne i (he ▸ hmem)
  unfold LanToLan.addClientRtRuleForNewIface
  cases hinfo : (s.node i).peerIfaceInfo with
  | nil =>
    rw [LanToLanIface.peers, hinfo] at hfront
    cases hfront
  | cons front infos =>
    rw [LanToLanIface.peers, hinfo] at hfront
    obtain rfl : front.peer = peer := (List.cons.inj hfront).1
    dsimp only
    split
    next hcount =>
      refine Ledger.foldl_add (fun mac slot => rtOf i mac (.inter (props front.peer).hdrL2Type) slot)
        (fun mac slot hex => hex.imp fun _ => Exists.imp fun _ => And.left) h
        (fun t mac => sameFrame_addClientRtRule i front.peer mac)
        (fun t K mac hst _ hmac hK hfresh => ?_) ?_ fun mac _ slot => hone hcount mac slot
      · have hadd := hK.addClientRtRule (i := i)
          (by rwa [hst.macs]) (Or.inr (by rwa [hst.peers])) (by rwa [useOf_of_ne hne])
        rw [useOf_of_ne hne] at hadd
        exact hadd
      · refine (h.macs_nodup i).imp fun hmacs slot hx hy => hmacs ?_
        obtain ⟨_, _, rfl⟩ := hx
        obtain ⟨_, _, heq⟩ := hy
        cases heq
        rfl
    next hcount =>
      refine h.congr fun slot => or_iff_left_of_imp ?_
      grind

theorem Topology.uses_inter {hdrType : HdrL2Type} : T.Uses props i (.inter hdrType) ↔
    (T.peers i).countP (fun q => (props q).hdrL2Type = hdrType) ≠ 0 := by
  rw [← Nat.pos_iff_ne_zero, List.countP_pos_iff]
  simp only [decide_eq_true_eq]
  exact Iff.rfl

theorem Tracks.uses_iff (h : Tracks props s T) {hdrType : HdrL2Type} :
    T.Uses props i (.inter hdrType) ↔ (s.node i).refCntPeerL2HdrType hdrType ≠ 0 := by
  rw [h.refCnt, Ne, Int.natCast_eq_zero]
  exact Topology.uses_inter

theorem Topology.not_wanted_ofUse {use : CtxUse} (huse : ¬T.Uses props i use)
    {slot : BridgeSlot} (hslot : Topology.ofUse i use slot) : ¬T.Wanted props slot := by
  rcases hslot with rfl | ⟨mac, hrt⟩
  · exact huse
  · exact fun hW => huse (Topology.wanted_rt hrt hW).2.1

theorem Tracks.meetIface (h : Tracks props s T) (hpeers : ∀ j, (s.node j).peers = T.peers j)
    {i e : Nat} (hne : e ≠ i) (hmacs : T.macs i = [])
    (hassigned : ∀ iptype, T.assigned i iptype = false) (hi : e ∉ T.peers i) (he : i ∉ T.peers e)
    (hinter : (s.node e).supportInterIfaceOffload = true) :
    Tracks props (meetIface props i s e) (T.link i e) ∧ SamePorts s (meetIface props i s e) ∧
      ∀ j, ((meetIface props i s e).node j).peers = (T.link i e).peers j := by
  unfold LanToLan.meetIface
  rw [if_pos hinter]
  unfold handleNewIfaceUp
  have hfirst : Ledger props (newPeer props e i s) fun slot => T.Wanted props slot ∨
      slot = .ctx e (.inter (props i).hdrL2Type) := by
    refine h.ledger.newPeer hne.symm (by rwa [hpeers]) (fun hzero slot hslot => ?_) fun hpos => ?_
    · exact Topology.not_wanted_ofUse (fun huse => h.uses_iff.mp huse hzero) hslot
    · exact h.uses_iff.mpr hpos
  have hsecond : Ledger props (newPeer props i e (newPeer props e i s)) fun slot =>
      (T.Wanted props slot ∨ slot = .ctx e (.inter (props i).hdrL2Type)) ∨
        slot = .ctx i (.inter (props e).hdrL2Type) := by
    refine hfirst.newPeer hne ?_ (fun hzero slot hslot => ?_) fun hpos => ?_
    · rw [peers_newPeer, if_neg hne.symm, hpeers]
      exact hi
    · rw [refCnt_newPeer, if_neg fun hc => hne.symm hc.1, Int.add_zero] at hzero
      rintro (hW | rfl)
      · exact Topology.not_wanted_ofUse (fun huse => h.uses_iff.mp huse hzero) hslot hW
      · rcases hslot with heq | ⟨_, _, _, heq⟩
        · cases heq
          exact hne rfl
        · cases heq
    · rw [refCnt_newPeer, if_neg fun hc => hne.symm hc.1, Int.add_zero] at hpos
      exact Or.inl (h.uses_iff.mpr hpos)
  have hcount : ((newPeer props i e (newPeer props e i s)).node e).refCntPeerL2HdrType
      (props i).hdrL2Type = (s.node e).refCntPeerL2HdrType (props i).hdrL2Type + 1 := by
    rw [refCnt_newPeer, if_neg fun hc => hne hc.1, refCnt_newPeer, if_pos ⟨rfl, rfl⟩, Int.add_zero]
  have hports : SamePorts s (newPeer props i e (newPeer props e i s)) :=
    (samePorts_newPeer e i).trans (samePorts_newPeer i e)
  have hclients := hsecond.addClientRtRuleForNewIface (i := e) i (T.peers e) ?_
    (fun hone mac slot hslot => ?_) fun hmany mac hmac slot hslot => ?_
  · have hframe : SameFrame (newPeer props i e (newPeer props e i s)) _ :=
      @sameFrame_addClientRtRuleForNewIface props _ e
    have hpeers' : ∀ j, ((addClientRtRuleForNewIface props e (newPeer props i e
        (newPeer props e i s))).node j).peers = (T.link i e).peers j := by
      intro j
      rw [hframe.peers, peers_newPeer, peers_newPeer, if_neg hne.symm, peers_newPeer, hpeers, hpeers,
        hpeers, Topology.peers_link]
    refine ⟨⟨hclients.congr fun slot => ?_, fun j => ?_, fun j hdrType => ?_⟩,
      hports.trans hframe.samePorts, hpeers'⟩
    · rw [Topology.wanted_link hne hmacs hassigned, hports.macs, h.macs]
    · rw [hframe.macs, hports.macs, h.macs]
      rfl
    · rw [hframe.refCnt, refCnt_newPeer, refCnt_newPeer, h.refCnt, Topology.peers_link]
      by_cases hj : j = i
      · grind
      · rw [if_neg hj]
        grind
  · rw [peers_newPeer, if_neg hne, peers_newPeer, if_pos rfl, hpeers]
  · have hzero : ¬T.Uses props e (.inter (props i).hdrL2Type) := fun huse =>
      h.uses_iff.mp huse (by omega)
    rintro ((hW | rfl) | rfl)
    · exact Topology.not_wanted_ofUse hzero (Or.inr ⟨mac, hslot⟩) hW
    · obtain ⟨_, _, heq⟩ := hslot
      cases heq
    · obtain ⟨_, _, heq⟩ := hslot
      cases heq
  · obtain ⟨iptype, position, rfl, hpos⟩ := hslot
    refine Or.inl (Or.inl ⟨?_, hpos, h.uses_iff.mpr (by omega)⟩)
    rwa [hports.macs, h.macs] at hmac

theorem Tracks.meetIfaces {l : List Nat} (hl : l.Nodup) (h : Tracks props s T)
    (hpeers : ∀ j, (s.node j).peers = T.peers j) (hi : i ∉ l) (hmacs : T.macs i = [])
    (hassigned : ∀ iptype, T.assigned i iptype = false) (hnew : ∀ e ∈ l, e ∉ T.peers i)
    (hnew' : ∀ e ∈ l, i ∉ T.peers e) :
    ∃ T' : Topology, Tracks props (l.foldl (LanToLan.meetIface props i) s) T' ∧
      SamePorts s (l.foldl (LanToLan.meetIface props i) s) ∧
      (∀ j, ((l.foldl (LanToLan.meetIface props i) s).node j).peers = T'.peers j) ∧
      T'.macs = T.macs ∧ T'.assigned = T.assigned ∧ T'.intra = T.intra ∧
      ∀ j q, q ∈ T'.peers j ↔ q ∈ T.peers j ∨
        (j = i ∧ q ∈ l ∧ (s.node q).supportInterIfaceOffload = true) ∨
        (q = i ∧ j ∈ l ∧ (s.node j).supportInterIfaceOffload = true) := by
  induction l generalizing s T with
  | nil =>
    refine ⟨T, h, .refl s, hpeers, rfl, rfl, rfl, fun j q => ?_⟩
    simp only [List.not_mem_nil, false_and, and_false, or_false]
  | cons e l ih =>
    obtain ⟨he, hl⟩ := List.nodup_cons.mp hl
    have hne : e ≠ i := fun heq => hi (heq ▸ List.mem_cons_self)
    have hil : i ∉ l := fun hmem => hi (List.mem_cons_of_mem _ hmem)
    by_cases hinter : (s.node e).supportInterIfaceOffload = true
    · obtain ⟨hmet, hports, hmetPeers⟩ := h.meetIface hpeers hne hmacs hassigned
        (hnew e List.mem_cons_self) (hnew' e List.mem_cons_self) hinter
      have hnone : ∀ e' ∈ l, e' ∉ (T.link i e).peers i := fun e' he' => by
        grind [Topology.peers_link]
      have hnone' : ∀ e' ∈ l, i ∉ (T.link i e).peers e' := fun e' he' => by
        have hni : e' ≠ i := fun heq => hil (heq ▸ he')
        have hnee : e' ≠ e := fun heq => he (heq ▸ he')
        rw [Topology.peers_link, if_neg hni, if_neg hnee]
        exact hnew' e' (List.mem_cons_of_mem _ he')
      obtain ⟨T', htracks, hports', hpeers', hm, ha, hintra, hmem⟩ :=
        ih hl hmet hmetPeers hil hmacs hassigned hnone hnone'
      refine ⟨T', htracks, hports.trans hports', hpeers', hm, ha, hintra, fun j q => ?_⟩
      rw [hmem, Topology.peers_link, hports.inter, hports.inter]
      grind
    · have hstay : LanToLan.meetIface props i s e = s := by
        unfold LanToLan.meetIface
        rw [if_neg hinter]
      rw [List.foldl_cons, hstay]
      obtain ⟨T', htracks, hports', hpeers', hm, ha, hintra, hmem⟩ := ih hl h hpeers hil hmacs
        hassigned (fun e' he' => hnew e' (List.mem_cons_of_mem _ he')) fun e' he' =>
          hnew' e' (List.mem_cons_of_mem _ he')
      refine ⟨T', htracks, hports', hpeers', hm, ha, hintra, fun j q => ?_⟩
      rw [hmem]
      grind

end LanToLan

end DeviceHal.Ipacm
