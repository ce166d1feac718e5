import DeviceHal.Ipacm.BridgePeers

namespace DeviceHal.Ipacm

open Lib

namespace LanToLan

variable {props : Nat → LanProps} {s t : LanToLan} {H : BridgeSlot → Prop} {T : Topology}

theorem Ledger.mac_mem (h : Ledger props s H) {i : Nat} {mac : MacAddr} {use : CtxUse}
    {slot : BridgeSlot} (hslot : rtOf i mac use slot) (hH : H slot) : mac ∈ (s.node i).macs := by
  obtain ⟨iptype, position, rfl⟩ := hslot
  obtain ⟨g, client, hclient, rfl, -⟩ := (h.has _).mp hH
  exact List.mem_map_of_mem hclient

theorem Ledger.clearAllRt (h : Ledger props s H) (i peer : Nat) :
    Ledger props (clearAllRtRuleForOnePeerIface props i peer s) fun slot => H slot ∧
      ((s.node i).refCntPeerL2HdrType (props peer).hdrL2Type = 0 →
        ∀ mac, ¬rtOf i mac (useOf props i peer) slot) := by
  unfold clearAllRtRuleForOnePeerIface
  split
  next hzero =>
    have hloop := h.foldl_del (l := (s.node i).macs)
      (fun t mac => sameFrame_delClientRtRule i peer mac)
      fun t K mac hst hmac hK => hK.delClientRtRule _ (by rwa [hst.macs])
    refine hloop.congr fun slot => and_congr_right fun hH => ?_
    exact ⟨fun hno mac _ => hno hzero mac, fun hno _ mac hrt => hno mac (h.mac_mem hrt hH) hrt⟩
  next hmany => exact h.congr fun slot => and_iff_left fun hzero => absurd hzero hmany

theorem Ledger.leftByPeer (h : Ledger props s H) {i q : Nat} (hmem : i ∈ (s.node q).peers)
    (hctx : (s.node q).refCntPeerL2HdrType (props i).hdrL2Type = 0 →
      H (.ctx q (.inter (props i).hdrL2Type))) :
    Ledger props (leftByPeer props i q s) fun slot => (H slot ∧ ¬fltOfPeer q i slot) ∧
      ((s.node q).refCntPeerL2HdrType (props i).hdrL2Type = 0 →
        ¬Topology.ofUse q (.inter (props i).hdrL2Type) slot) := by
  have hne : i ≠ q := fun he => h.peers_ne q (he ▸ hmem)
  unfold LanToLan.leftByPeer
  rw [if_pos hmem]
  dsimp only
  have hframe : SameFrame s (clearAllFltRuleForOnePeerIface q i s) := sameFrame_clearAllFltRule q i
  have hrt := (h.clearAllFltRule (Or.inr hmem)).clearAllRt q i
  have hframe' := hframe.trans (@sameFrame_clearAllRtRule props _ q i)
  rw [hframe.refCnt, useOf_of_ne hne] at hrt
  have hfilter := hrt.filterPeers (i := q) (fun p => decide (p ≠ i))
    fun p mac iptype hkeep _ hH => ?_
  · have hdel := hfilter.delHdrProcCtx (i := q) (props i).hdrL2Type ?_
    · rw [node_modify_self] at hdel
      change Ledger props _ fun slot => _ ∧ ¬(((clearAllRtRuleForOnePeerIface props q i
        (clearAllFltRuleForOnePeerIface q i s)).node q).refCntPeerL2HdrType (props i).hdrL2Type = 0 ∧
          _) at hdel
      rw [hframe'.refCnt] at hdel
      refine hdel.congr fun slot => ?_
      rw [and_assoc (c := ¬_)]
      refine and_congr_right fun hH => ?_
      constructor
      · intro hno
        exact ⟨fun hzero mac hrt => hno hzero (Or.inr ⟨mac, hrt⟩),
          fun hz => hno hz.1 (Or.inl hz.2)⟩
      · rintro ⟨hrt, hc⟩ hzero (rfl | ⟨mac, hm⟩)
        · exact hc ⟨hzero, rfl⟩
        · exact hrt hzero mac hm
    · intro hzero
      rw [node_modify_self] at hzero
      change ((clearAllRtRuleForOnePeerIface props q i
        (clearAllFltRuleForOnePeerIface q i s)).node q).refCntPeerL2HdrType (props i).hdrL2Type = 0
        at hzero
      rw [hframe'.refCnt] at hzero
      refine ⟨⟨hctx hzero, ?_⟩, fun _ mac => ?_⟩
      · rintro ⟨_, _, heq⟩
        cases heq
      · rintro ⟨_, _, heq⟩
        cases heq
  · obtain rfl : p = i := by simpa using hkeep
    exact hH.1.2 ⟨mac, iptype, rfl⟩

theorem frame_leftByPeer {i q : Nat} (hmem : i ∈ (s.node q).peers) :
    SamePorts s (leftByPeer props i q s) ∧
      (∀ j, ((leftByPeer props i q s).node j).refCntPeerL2HdrType =
        (s.node j).refCntPeerL2HdrType) ∧
      ∀ j, ((leftByPeer props i q s).node j).peers =
        if j = q then (s.node q).peers.filter fun p => p ≠ i else (s.node j).peers := by
  unfold LanToLan.leftByPeer
  rw [if_pos hmem]
  dsimp only
  have hframe : SameFrame s (clearAllRtRuleForOnePeerIface props q i
      (clearAllFltRuleForOnePeerIface q i s)) :=
    (sameFrame_clearAllFltRule q i).trans (sameFrame_clearAllRtRule q i)
  generalize clearAllRtRuleForOnePeerIface props q i (clearAllFltRuleForOnePeerIface q i s) =
    cleared at *
  have hdel : ∀ u : LanToLan, SameFrame u (delHdrProcCtx q (props i).hdrL2Type u) :=
    fun u => sameFrame_delHdrProcCtx q (props i).hdrL2Type
  refine ⟨hframe.samePorts.trans ((samePorts_modify rfl rfl rfl rfl).trans (hdel _).samePorts),
    fun j => ?_, fun j => ?_⟩
  · rw [(hdel _).refCnt, ← hframe.refCnt]
    by_cases hj : j = q
    · subst hj
      rw [node_modify_self]
    · rw [node_modify_of_ne hj]
  · rw [(hdel _).peers]
    split
    next hj =>
      subst hj
      rw [node_modify_self, ← hframe.peers]
      exact (List.filter_map (f := PeerIfaceInfo.peer) (p := fun p => decide (p ≠ i))).symm
    next hj => rw [node_modify_of_ne hj, hframe.peers]

theorem countP_filter_ne {l : List Nat} (hl : l.Nodup) {a : Nat} (ha : a ∈ l) (p : Nat → Bool) :
    (((l.filter fun x => x ≠ a).countP p : Nat) : Int) = l.countP p - if p a then 1 else 0 := by
  have hpos : p a = true → 0 < l.countP p := fun hp => List.countP_pos_iff.mpr ⟨a, ha, hp⟩
  have hfilter : (l.filter fun x => decide (x ≠ a)) = l.erase a :=
    (List.filter_congr fun x _ => by rw [Bool.eq_iff_iff]; simp).trans
      (List.Nodup.erase_eq_filter hl a).symm
  rw [hfilter, List.countP_erase]
  grind

theorem Tracks.leavePeer (h : Tracks props s T) {i q : Nat}
    (hpeers : ∀ j, j ≠ i → (s.node j).peers = T.peers j)
    (hsub : ∀ p ∈ T.peers i, p ∈ (s.node i).peers) (hnodup : (T.peers i).Nodup)
    (hq : q ∈ T.peers i) (hi : i ∈ T.peers q) :
    Tracks props (leavePeer props i s q) (T.unlink i q) ∧ SamePorts s (leavePeer props i s q) ∧
      (∀ j, j ≠ i → ((leavePeer props i s q).node j).peers = (T.unlink i q).peers j) ∧
      ((leavePeer props i s q).node i).peers = (s.node i).peers := by
  have hne : q ≠ i := fun he => h.ledger.peers_ne i (he ▸ hsub q hq)
  unfold LanToLan.leavePeer
  dsimp only
  have hcount : ∀ j hdrType, (((s.addRefCnt i (props q).hdrL2Type (-1)).addRefCnt q
      (props i).hdrL2Type (-1)).node j).refCntPeerL2HdrType hdrType =
      ((T.unlink i q).peers j).countP fun p => (props p).hdrL2Type = hdrType := by
    intro j hdrType
    have hnodup' : (T.peers q).Nodup := hpeers q hne ▸ h.ledger.peers_nodup q
    rw [refCnt_addRefCnt, refCnt_addRefCnt, h.refCnt, Topology.peers_unlink]
    by_cases hj : j = i
    · subst hj
      rw [if_pos rfl, countP_filter_ne hnodup hq]
      grind
    · rw [if_neg hj]
      by_cases hjq : j = q
      · subst hjq
        rw [if_pos rfl, countP_filter_ne hnodup' hi]
        grind
      · simp [hj, hjq]
  have hports : SamePorts s ((s.addRefCnt i (props q).hdrL2Type (-1)).addRefCnt q
      (props i).hdrL2Type (-1)) :=
    (samePorts_addRefCnt i (props q).hdrL2Type (-1)).trans
      (samePorts_addRefCnt q (props i).hdrL2Type (-1))
  have hcountPeers : ∀ j, (((s.addRefCnt i (props q).hdrL2Type (-1)).addRefCnt q
      (props i).hdrL2Type (-1)).node j).peers = (s.node j).peers := fun j => by
    rw [peers_addRefCnt, peers_addRefCnt]
  have hcounted := (h.ledger.addRefCnt i (props q).hdrL2Type (-1)).addRefCnt q (props i).hdrL2Type (-1)
  generalize (s.addRefCnt i (props q).hdrL2Type (-1)).addRefCnt q (props i).hdrL2Type (-1) = counted
    at *
  have hzero : ∀ j hdrType, (counted.node j).refCntPeerL2HdrType hdrType = 0 ↔
      ¬(T.unlink i q).Uses props j (.inter hdrType) := by
    intro j hdrType
    rw [hcount, Int.natCast_eq_zero, Topology.uses_inter, not_not]
  have hframe : SameFrame counted (clearAllFltRuleForOnePeerIface i q counted) :=
    sameFrame_clearAllFltRule i q
  have hflt := hcounted.clearAllFltRule (i := i)
    (Or.inr (by rw [hcountPeers]; exact hsub q hq))
  have hmem : i ∈ ((clearAllFltRuleForOnePeerIface i q counted).node q).peers := by
    rw [hframe.peers, hcountPeers, hpeers q hne]
    exact hi
  have hleft := hflt.leftByPeer hmem fun _ => ⟨⟨i, hi, rfl⟩, fun ⟨_, _, heq⟩ => by cases heq⟩
  rw [hframe.refCnt] at hleft
  obtain ⟨hleftPorts, hleftCount, hleftPeers⟩ := frame_leftByPeer hmem
  generalize leftByPeer props i q (clearAllFltRuleForOnePeerIface i q counted) = left at *
  have hrt := hleft.clearAllRt i q
  have hframe' : SameFrame left (clearAllRtRuleForOnePeerIface props i q left) :=
    sameFrame_clearAllRtRule i q
  have hdel := hrt.delHdrProcCtx (i := i) (props q).hdrL2Type fun _ => ?_
  · have hframe'' := hframe'.trans (sameFrame_delHdrProcCtx i (props q).hdrL2Type)
    refine ⟨⟨hdel.congr fun slot => ?_, fun j => ?_, fun j hdrType => ?_⟩, ?_, fun j hj => ?_, ?_⟩
    · rw [Topology.wanted_unlink hne, hframe'.refCnt, hleftCount, hframe.refCnt, useOf_of_ne hne]
      simp only [hzero, and_assoc]
      refine and_congr_right fun _ => and_congr_right fun _ => and_congr_right fun _ =>
        and_congr_right fun _ => ?_
      constructor
      · exact fun hno => ⟨fun hgone mac hrt => hno hgone (Or.inr ⟨mac, hrt⟩),
          fun hc => hno hc.1 (Or.inl hc.2)⟩
      · rintro ⟨hrt, hc⟩ hgone (rfl | ⟨mac, hm⟩)
        · exact hc ⟨hgone, rfl⟩
        · exact hrt hgone mac hm
    · rw [hframe''.macs, hleftPorts.macs, hframe.macs, hports.macs, h.macs]
      rfl
    · rw [hframe''.refCnt, hleftCount, hframe.refCnt, hcount]
    · exact hports.trans (hframe.samePorts.trans (hleftPorts.trans hframe''.samePorts))
    · rw [hframe''.peers, hleftPeers, Topology.peers_unlink, if_neg hj]
      split
      · rw [hframe.peers, hcountPeers, hpeers q hne]
      · rw [hframe.peers, hcountPeers, hpeers j hj]
    · rw [hframe''.peers, hleftPeers, if_neg hne.symm, hframe.peers, hcountPeers]
  · refine ⟨⟨⟨⟨⟨q, hq, rfl⟩, ?_⟩, ?_⟩, fun _ => ?_⟩, fun _ mac => ?_⟩
    · rintro ⟨_, _, heq⟩
      cases heq
    · rintro ⟨_, _, heq⟩
      cases heq
    · rintro (heq | ⟨_, _, _, heq⟩)
      · cases heq
        exact hne rfl
      · cases heq
    · rintro ⟨_, _, heq⟩
      cases heq

theorem Tracks.leavePeers {l : List Nat} (h : Tracks props s T) {i : Nat}
    (hpeers : ∀ j, j ≠ i → (s.node j).peers = T.peers j)
    (hsub : ∀ p ∈ T.peers i, p ∈ (s.node i).peers) (hl : T.peers i = l) (hnodup : l.Nodup)
    (hmutual : ∀ q ∈ l, i ∈ T.peers q) :
    ∃ T' : Topology, Tracks props (l.foldl (LanToLan.leavePeer props i) s) T' ∧
      SamePorts s (l.foldl (LanToLan.leavePeer props i) s) ∧
      (∀ j, j ≠ i → ((l.foldl (LanToLan.leavePeer props i) s).node j).peers = T'.peers j) ∧
      T'.macs = T.macs ∧ T'.assigned = T.assigned ∧ T'.intra = T.intra ∧ T'.peers i = [] ∧
      ∀ j q, j ≠ i → (q ∈ T'.peers j ↔ q ∈ T.peers j ∧ ¬(q = i ∧ j ∈ l)) := by
  induction l generalizing s T with
  | nil =>
    refine ⟨T, h, .refl s, hpeers, rfl, rfl, rfl, hl, fun j q _ => ?_⟩
    simp
  | cons q l ih =>
    obtain ⟨hq, hnodup'⟩ := List.nodup_cons.mp hnodup
    have hmem : q ∈ T.peers i := hl ▸ List.mem_cons_self
    have hne : q ≠ i := fun he => h.ledger.peers_ne i (he ▸ hsub q hmem)
    obtain ⟨hleft, hports, hpeers', hown⟩ := h.leavePeer hpeers hsub (hl ▸ hnodup) hmem
      (hmutual q List.mem_cons_self)
    have hrest : (T.unlink i q).peers i = l := by
      rw [Topology.peers_unlink, if_pos rfl, hl, List.filter_cons_of_neg (by simp)]
      refine List.filter_eq_self.mpr fun p hp => ?_
      have hpq : p ≠ q := fun he => hq (he ▸ hp)
      simpa using hpq
    have hsub' : ∀ p ∈ (T.unlink i q).peers i, p ∈ ((LanToLan.leavePeer props i s q).node i).peers :=
      fun p hp => by
        grind
    have hmutual' : ∀ p ∈ l, i ∈ (T.unlink i q).peers p := fun p hp => by
      have hpi : p ≠ i := fun he => h.ledger.peers_ne i (hsub i (hl ▸ List.mem_cons_of_mem _ (he ▸ hp)))
      have hpq : p ≠ q := fun he => hq (he ▸ hp)
      refine (Topology.mem_peers_unlink hne p i).mpr ⟨hmutual p (List.mem_cons_of_mem _ hp), ?_, ?_⟩
      · exact fun hc => hpi hc.1
      · exact fun hc => hpq hc.1
    obtain ⟨T', htracks, hports', hlast, hm, ha, hintra, hnil, hmem'⟩ :=
      ih hleft hpeers' hsub' hrest hnodup' hmutual'
    refine ⟨T', htracks, hports.trans hports', hlast, hm, ha, hintra, hnil, fun j p hj => ?_⟩
    rw [hmem' j p hj, Topology.mem_peers_unlink hne, List.mem_cons]
    grind

end LanToLan

end DeviceHal.Ipacm
