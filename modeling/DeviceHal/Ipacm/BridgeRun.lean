import DeviceHal.Ipacm.BridgeLeave

namespace DeviceHal.Ipacm

open Lib LanToLan

namespace Topology

variable {props : Nat → LanProps} {T : Topology}

theorem wanted_setIntra {i : Nat} (hmacs : T.macs i = []) (slot : BridgeSlot) :
    (T.setIntra i true).Wanted props slot ↔ T.Wanted props slot ∨ slot = .ctx i .intra := by
  have huses : ∀ j use, (T.setIntra i true).Uses props j use ↔
      T.Uses props j use ∨ j = i ∧ use = .intra := by
    intro j use
    cases use with
    | inter hdrType =>
      refine (or_iff_left ?_).symm
      rintro ⟨_, heq⟩
      cases heq
    | intra =>
      simp only [Uses, setIntra, Function.update_apply, and_true]
      by_cases hj : j = i
      · simp [hj]
      · simp [hj]
  cases slot with
  | ctx j use => simp only [Wanted, huses, BridgeSlot.ctx.injEq]
  | rt j m use iptype position =>
    simp only [Wanted, huses, reduceCtorEq, or_false]
    refine and_congr_right fun hm => and_congr_right fun _ => or_iff_left ?_
    rintro ⟨rfl, -⟩
    have hm' : m ∈ T.macs j := hm
    rw [hmacs] at hm'
    cases hm'
  | flt j q m iptype =>
    simp only [Wanted, setIntra, Function.update_apply, reduceCtorEq, or_false]
    grind

theorem wanted_clearIntra {i : Nat} (hpeers : T.peers i = []) (slot : BridgeSlot) :
    (T.setIntra i false).Wanted props slot ↔ ((T.Wanted props slot ∧ ¬fltOfPeer i i slot) ∧
      ∀ mac, ¬rtOf i mac .intra slot) ∧ slot ≠ .ctx i .intra := by
  have huses : ∀ j use, (T.setIntra i false).Uses props j use ↔
      T.Uses props j use ∧ ¬(j = i ∧ use = .intra) := by
    intro j use
    cases use with
    | inter hdrType =>
      refine (and_iff_left ?_).symm
      rintro ⟨_, heq⟩
      cases heq
    | intra =>
      simp only [Uses, setIntra, Function.update_apply, and_true]
      by_cases hj : j = i
      · simp [hj]
      · simp [hj]
  cases slot with
  | ctx j use =>
    simp only [Wanted, huses, ne_eq, BridgeSlot.ctx.injEq]
    refine and_congr_left fun _ => ((and_iff_left ?_).trans (and_iff_left ?_)).symm
    · rintro mac ⟨_, _, heq⟩
      cases heq
    · rintro ⟨_, _, heq⟩
      cases heq
  | rt j m use iptype position =>
    simp only [Wanted, huses]
    constructor
    · rintro ⟨hm, hpos, huse, hno⟩
      refine ⟨⟨⟨⟨hm, hpos, huse⟩, ?_⟩, ?_⟩, fun heq => by cases heq⟩
      · rintro ⟨_, _, heq⟩
        cases heq
      · rintro mac ⟨_, _, heq⟩
        cases heq
        exact hno ⟨rfl, rfl⟩
    · rintro ⟨⟨⟨⟨hm, hpos, huse⟩, -⟩, hno⟩, -⟩
      refine ⟨hm, hpos, huse, ?_⟩
      rintro ⟨rfl, rfl⟩
      exact hno m ⟨iptype, position, rfl⟩
  | flt j q m iptype =>
    simp only [Wanted, setIntra, Function.update_apply]
    constructor
    · rintro ⟨ha, hm, hpeer⟩
      refine ⟨⟨⟨⟨ha, hm, hpeer.imp_right fun hself => ⟨hself.1, ?_⟩⟩, ?_⟩, ?_⟩, fun heq => by cases heq⟩
      · grind
      · rintro ⟨_, _, heq⟩
        grind
      · rintro mac ⟨_, _, heq⟩
        cases heq
    · rintro ⟨⟨⟨⟨ha, hm, hpeer⟩, hno⟩, -⟩, -⟩
      refine ⟨ha, hm, hpeer.imp_right fun hself => ⟨hself.1, ?_⟩⟩
      rw [if_neg ?_]
      · exact hself.2
      · rintro rfl
        obtain rfl := hself.1
        exact hno ⟨m, iptype, rfl⟩

theorem not_wanted_of_alone {i : Nat} (hpeers : T.peers i = []) (hintra : T.intra i = false)
    {slot : BridgeSlot} (hslot : slot.iface = i) : ¬T.Wanted props slot := by
  have huses : ∀ use, ¬T.Uses props i use := by
    intro use huse
    cases use with
    | inter hdrType =>
      obtain ⟨q, hq, -⟩ := huse
      rw [hpeers] at hq
      cases hq
    | intra =>
      have hset : T.intra i = true := huse
      rw [hintra] at hset
      cases hset
  cases slot with
  | ctx j use =>
    obtain rfl : j = i := hslot
    exact huses use
  | rt j m use iptype position =>
    obtain rfl : j = i := hslot
    exact fun hW => huses use hW.2.2
  | flt j q m iptype =>
    obtain rfl : j = i := hslot
    rintro ⟨-, -, hq | ⟨-, hset⟩⟩
    · rw [hpeers] at hq
      cases hq
    · rw [hintra] at hset
      cases hset

theorem wanted_of_alone {i : Nat} (hpeers : T.peers i = []) (hintra : T.intra i = false)
    (hnot : ∀ j, i ∉ T.peers j) (macs : List MacAddr) (assigned : IpaIpType → Bool)
    (slot : BridgeSlot) :
    ((T.setMacs i macs).setAssigned i assigned).Wanted props slot ↔ T.Wanted props slot := by
  by_cases hslot : slot.iface = i
  · refine iff_of_false ?_ (not_wanted_of_alone hpeers hintra hslot)
    exact not_wanted_of_alone (T := (T.setMacs i macs).setAssigned i assigned) hpeers hintra hslot
  · cases slot with
    | ctx j use => cases use <;> exact Iff.rfl
    | rt j m use iptype position =>
      have hj : j ≠ i := hslot
      have huses : ((T.setMacs i macs).setAssigned i assigned).Uses props j use ↔
          T.Uses props j use := by cases use <;> exact Iff.rfl
      have hmacs : ((T.setMacs i macs).setAssigned i assigned).macs j = T.macs j :=
        Function.update_of_ne hj ..
      simp only [Wanted, huses, hmacs]
    | flt j q m iptype =>
      have hj : j ≠ i := hslot
      simp only [Wanted, setMacs, setAssigned, Function.update_of_ne hj]
      grind

end Topology

namespace LanToLan

variable {props : Nat → LanProps} {s t : LanToLan} {H : BridgeSlot → Prop} {T : Topology}

theorem Ledger.relist (h : Ledger props s H) (mIface : List Nat)
    (cachedClientAddEvent : List (Nat × MacAddr)) :
    Ledger props { s with mIface, cachedClientAddEvent } H :=
  ⟨h.books, h.has, h.macs_nodup, h.peers_nodup, h.peers_ne, h.flt_nodup, h.flt_assigned, h.names⟩

theorem BridgeInv.cached (h : BridgeInv props s) (cachedClientAddEvent : List (Nat × MacAddr)) :
    BridgeInv props { s with cachedClientAddEvent } :=
  h.change rfl (fun _ => rfl) (fun _ => rfl) (fun _ => rfl)
    (h.tracks.ledger.relist s.mIface cachedClientAddEvent)

theorem BridgeInv.handleClientAdd (h : BridgeInv props s) (i : Nat) (mac : MacAddr) :
    BridgeInv props (handleClientAdd props i mac s) := by
  unfold LanToLan.handleClientAdd
  split
  next hi => exact h.ifaceClientAdd hi mac
  next =>
    split
    · exact h.cached _
    · exact h

theorem BridgeInv.handleClientDel (h : BridgeInv props s) (i : Nat) (mac : MacAddr) :
    BridgeInv props (handleClientDel props i mac s) := by
  unfold LanToLan.handleClientDel
  split
  next hi => exact h.ifaceClientDel hi mac
  next => exact h

theorem BridgeInv.handleCachedClientAddEvent (h : BridgeInv props s) (i : Nat) :
    BridgeInv props (handleCachedClientAddEvent props i s) := by
  unfold LanToLan.handleCachedClientAddEvent clearCachedClientAddEvent
  refine BridgeInv.cached ?_ _
  generalize s.cachedClientAddEvent.filter (fun e => e.1 = i) = evts
  induction evts generalizing s with
  | nil => exact h
  | cons evt evts ih => exact ih (h.handleClientAdd i evt.2)

theorem node_insertIface (i : Nat) (iptype : IpaIpType) (j : Nat) :
    (insertIface props i iptype s).node j = if j = i then newIface props i iptype else s.node j := by
  unfold insertIface
  split
  next hj =>
    subst hj
    rw [node_modify_self]
  next hj => rw [node_modify_of_ne hj]

variable {i : Nat}

theorem BridgeInv.peers_of_down (h : BridgeInv props s) (hi : i ∉ s.mIface) :
    (s.node i).peers = [] :=
  List.eq_nil_iff_forall_not_mem.mpr fun q hq => hi ((h.mem_peers i q).mp hq).1

theorem BridgeInv.not_peer_of_down (h : BridgeInv props s) (hi : i ∉ s.mIface) (j : Nat) :
    i ∉ (s.node j).peers := fun hq => hi ((h.mem_peers j i).mp hq).2.1

theorem topology_intra_of_down (hi : i ∉ s.mIface) : s.topology.intra i = false := by
  simp only [topology, hi, decide_false, Bool.false_and]

theorem BridgeInv.tracks_insertIface (h : BridgeInv props s) (hi : i ∉ s.mIface)
    (iptype : IpaIpType) : Tracks props (insertIface props i iptype s)
      ((s.topology.setMacs i []).setAssigned i fun _ => false) := by
  have halone : ∀ slot : BridgeSlot, slot.iface = i → ¬s.topology.Wanted props slot :=
    fun slot => Topology.not_wanted_of_alone (h.peers_of_down hi) (topology_intra_of_down hi)
  refine ⟨(h.tracks.ledger.insertIface iptype halone).congr fun slot => ?_, fun j => ?_,
    fun j hdrType => ?_⟩
  · exact Topology.wanted_of_alone (h.peers_of_down hi) (topology_intra_of_down hi)
      (h.not_peer_of_down hi) [] _ slot
  · rw [node_insertIface]
    unfold Topology.setAssigned Topology.setMacs
    simp only [Function.update_apply]
    split <;> rfl
  · rw [node_insertIface]
    split
    next hj =>
      subst hj
      have hnil : s.topology.peers j = [] := h.peers_of_down hi
      change (0 : Int) = ((s.topology.peers j).countP _ : Nat)
      rw [hnil]
      rfl
    next hj => exact h.tracks.refCnt j hdrType

theorem BridgeInv.tracks_meetIfaces (h : BridgeInv props s) (hi : i ∉ s.mIface)
    (iptype : IpaIpType) : ∃ T : Topology,
      Tracks props (meetIfaces props i iptype s.mIface (insertIface props i iptype s)) T ∧
      SamePorts (insertIface props i iptype s)
        (meetIfaces props i iptype s.mIface (insertIface props i iptype s)) ∧
      (∀ j, ((meetIfaces props i iptype s.mIface (insertIface props i iptype s)).node j).peers =
        T.peers j) ∧
      T.assigned = (fun j => ((insertIface props i iptype s).node j).isIpAddrAssigned) ∧
      T.intra = s.topology.intra ∧
      ∀ j q, q ∈ T.peers j ↔ q ∈ (s.node j).peers ∨
        (newIface props i iptype).supportInterIfaceOffload = true ∧
        ((j = i ∧ q ∈ s.mIface ∧ (s.node q).supportInterIfaceOffload = true) ∨
        (q = i ∧ j ∈ s.mIface ∧ (s.node j).supportInterIfaceOffload = true)) := by
  have hinsert := h.tracks_insertIface hi iptype
  have hnode := @node_insertIface props s i iptype
  have hpeers : ∀ j, ((insertIface props i iptype s).node j).peers =
      ((s.topology.setMacs i []).setAssigned i fun _ => false).peers j := by
    intro j
    rw [hnode]
    split
    next hj =>
      subst hj
      exact (h.peers_of_down hi).symm
    next => rfl
  have hmacs : ((s.topology.setMacs i []).setAssigned i fun _ => false).macs i = [] :=
    Function.update_self ..
  have hnone : ∀ iptype', ((s.topology.setMacs i []).setAssigned i fun _ => false).assigned i
      iptype' = false := by
    intro iptype'
    unfold Topology.setAssigned
    simp only [Function.update_self]
  have hassigned : Function.update ((s.topology.setMacs i []).setAssigned i fun _ => false).assigned i
      (Function.update (((s.topology.setMacs i []).setAssigned i fun _ => false).assigned i)
        iptype true) = fun j => ((insertIface props i iptype s).node j).isIpAddrAssigned := by
    funext j iptype'
    rw [hnode]
    unfold Topology.setAssigned
    simp only [Function.update_idem, Function.update_self]
    by_cases hj : j = i
    · subst hj
      rw [if_pos rfl, Function.update_self, Function.update_apply]
      by_cases he : iptype' = iptype
      · rw [if_pos he]
        exact (decide_eq_true he).symm
      · rw [if_neg he]
        exact (decide_eq_false he).symm
    · rw [if_neg hj, Function.update_of_ne hj]
      rfl
  have hintra : ((s.topology.setMacs i []).setAssigned i fun _ => false).intra = s.topology.intra := rfl
  have halone : ∀ q, q ∉ ((s.topology.setMacs i []).setAssigned i fun _ => false).peers i := by
    intro q hq
    have hq' : q ∈ (s.node i).peers := hq
    rw [h.peers_of_down hi] at hq'
    cases hq'
  have hnot : ∀ j, i ∉ ((s.topology.setMacs i []).setAssigned i fun _ => false).peers j :=
    h.not_peer_of_down hi
  have hold : ∀ j, ((s.topology.setMacs i []).setAssigned i fun _ => false).peers j =
      (s.node j).peers := fun _ => rfl
  have hsupport : ∀ q, q ∈ s.mIface → ((insertIface props i iptype s).node q).supportInterIfaceOffload =
      (s.node q).supportInterIfaceOffload := by
    intro q hq
    have hq' : q ≠ i := fun he => hi (he ▸ hq)
    rw [hnode, if_neg hq']
  have hself : ((insertIface props i iptype s).node i).isIpAddrAssigned iptype = true := by
    rw [hnode, if_pos rfl]
    exact decide_eq_true rfl
  have hinter : ((insertIface props i iptype s).node i).supportInterIfaceOffload =
      (newIface props i iptype).supportInterIfaceOffload := by rw [hnode, if_pos rfl]
  unfold LanToLan.meetIfaces
  rw [hinter]
  clear hinter hnode
  generalize (s.topology.setMacs i []).setAssigned i (fun _ => false) = T at *
  generalize insertIface props i iptype s = inserted at *
  by_cases hinter : (newIface props i iptype).supportInterIfaceOffload = true
  · rw [if_pos hinter]
    obtain ⟨T', htracks, hports, hmet, hm, ha, hintra', hmem⟩ := hinsert.meetIfaces h.mIface_nodup
      hpeers hi hmacs hnone (fun e _ => halone e) fun e _ => hnot e
    generalize s.mIface.foldl (meetIface props i) inserted = met at *
    have hunset : ∀ q mac, ¬T'.Wanted props (.flt i q mac iptype) := by
      intro q mac hW
      have hset : T'.assigned i iptype = true := hW.1
      rw [ha, hnone] at hset
      cases hset
    have hflt := htracks.ledger.addAllInter (i := i)
      (by rw [hports.assigned]; exact hself) fun q _ => hunset q
    have hframe : SameFrame met (addAllInterInterfaceClientFltRule i iptype met) :=
      sameFrame_addAllInter i iptype
    refine ⟨T'.setAssigned i (Function.update (T'.assigned i) iptype true),
      ⟨hflt.congr fun slot => ?_, fun j => ?_, fun j hdrType => ?_⟩, hports.trans hframe.samePorts,
      fun j => ?_, ?_, hintra'.trans hintra, fun j q => ?_⟩
    · rw [Topology.wanted_assign, hintra', hintra, topology_intra_of_down hi]
      simp only [hmet, htracks.macs, Bool.false_eq_true, and_false, or_false]
    · rw [hframe.macs]
      exact htracks.macs j
    · rw [hframe.refCnt]
      exact htracks.refCnt j hdrType
    · rw [hframe.peers]
      exact hmet j
    · rw [← hassigned, ← ha]
      rfl
    · refine (hmem j q).trans ?_
      rw [hold]
      grind
  · rw [if_neg hinter]
    refine ⟨T.setAssigned i (Function.update (T.assigned i) iptype true),
      ⟨hinsert.ledger.congr fun slot => ?_, hinsert.macs, hinsert.refCnt⟩, .refl _, hpeers, hassigned,
      hintra, fun j q => ?_⟩
    · grind [Topology.wanted_assign]
    · rw [← hold]
      exact (or_iff_left fun hn => hinter hn.1).symm

theorem BridgeInv.newIface (h : BridgeInv props s) (hi : i ∉ s.mIface)
    (iptype : IpaIpType) : BridgeInv props (populateIntraInterface i
      (meetIfaces props i iptype s.mIface (insertIface props i iptype s))) := by
  obtain ⟨T, htracks, hports, hpeers, hassigned, hintra, hmem⟩ := h.tracks_meetIfaces hi iptype
  have hnode := @node_insertIface props s i iptype
  have hmIface : (insertIface props i iptype s).mIface = i :: s.mIface := rfl
  generalize hmet : meetIfaces props i iptype s.mIface (insertIface props i iptype s) = met at *
  generalize insertIface props i iptype s = inserted at *
  have hmacs : T.macs i = [] := by
    rw [← htracks.macs, hports.macs, hnode, if_pos rfl]
    rfl
  have hdown : T.intra i = false := by
    rw [hintra]
    exact topology_intra_of_down hi
  have hframe : SameFrame met (populateIntraInterface i met) := sameFrame_populateIntraInterface i
  have hsupport : (met.node i).supportIntraIfaceOffload =
      (LanToLan.newIface props i iptype).supportIntraIfaceOffload := by
    rw [hports.intra, hnode, if_pos rfl]
  have htopology : (populateIntraInterface i met).topology =
      if (met.node i).supportIntraIfaceOffload then T.setIntra i true else T := by
    have hthere : ∀ j, met.topology.intra j =
        if j = i then (met.node i).supportIntraIfaceOffload else T.intra j := by
      intro j
      simp only [topology, hports.mIface, hmIface, List.mem_cons]
      split
      next hj => simp [hj]
      next hj =>
        rw [hports.intra, hnode, if_neg hj, hintra]
        simp [hj, topology]
    rw [hframe.topology]
    split
    next hs =>
      refine Topology.ext ?_ ?_ ?_ ?_
      · rw [Topology.setIntra, hassigned]
        exact funext hports.assigned
      · exact funext htracks.macs
      · exact funext hpeers
      · funext j
        rw [hthere, hs]
        exact (Function.update_apply ..).symm
    next hs =>
      refine Topology.ext ?_ (funext htracks.macs) (funext hpeers) ?_
      · rw [hassigned]
        exact funext hports.assigned
      grind
  refine ⟨⟨?_, fun j => rfl, fun j hdrType => ?_⟩, ?_, fun j q => ?_⟩
  · rw [htopology]
    unfold populateIntraInterface
    split
    next hs =>
      refine (htracks.ledger.handleIntraInterfaceInfo (i := i) (fun hW => ?_)
        fun mac _ _ hW => ?_).congr (Topology.wanted_setIntra hmacs)
      · have hset : T.intra i = true := hW
        rw [hdown] at hset
        cases hset
      · have hset : T.intra i = true := hW.2.2
        rw [hdown] at hset
        cases hset
    next hs => exact htracks.ledger
  · have hsame : (populateIntraInterface i met).topology.peers j = T.peers j := by
      rw [htopology]
      split <;> rfl
    rw [hframe.refCnt, htracks.refCnt, hsame]
  · rw [hframe.mIface, hports.mIface, hmIface]
    exact List.nodup_cons.mpr ⟨hi, h.mIface_nodup⟩
  · have hinter : ∀ k, ((populateIntraInterface i met).node k).supportInterIfaceOffload =
        if k = i then (LanToLan.newIface props i iptype).supportInterIfaceOffload
        else (s.node k).supportInterIfaceOffload := by
      intro k
      rw [hframe.inter, hports.inter, hnode]
      split <;> rfl
    rw [hframe.peers, hpeers, hmem, h.mem_peers, hframe.mIface, hports.mIface, hmIface, hinter,
      hinter, List.mem_cons, List.mem_cons]
    grind

theorem BridgeInv.handleIfaceUp (h : BridgeInv props s) (i : Nat) (iptype : IpaIpType) :
    BridgeInv props (handleIfaceUp props i iptype s) := by
  unfold LanToLan.handleIfaceUp
  split
  next hi =>
    split
    next hnone => exact h.secondFamily hi hnone
    next => exact h
  next hi =>
    split
    · exact h
    · split
      · exact h
      · split
        · exact h
        · exact (h.newIface hi iptype).handleCachedClientAddEvent i

theorem BridgeInv.tracks_leavePeers (h : BridgeInv props s) (i : Nat) : ∃ T : Topology,
    Tracks props (leavePeers props i s) T ∧ SamePorts s (leavePeers props i s) ∧
      (∀ j, ((leavePeers props i s).node j).peers = T.peers j) ∧ T.macs = s.topology.macs ∧
      T.assigned = s.topology.assigned ∧ T.intra = s.topology.intra ∧
      ∀ j q, q ∈ T.peers j ↔ q ∈ (s.node j).peers ∧ j ≠ i ∧ q ≠ i := by
  unfold LanToLan.leavePeers
  split
  next =>
    obtain ⟨T, htracks, hports, hpeers, hm, ha, hintra, hnil, hmem⟩ :=
      h.tracks.leavePeers (i := i) (l := (s.node i).peers) (fun _ _ => rfl) (fun _ => id) rfl
        (h.tracks.ledger.peers_nodup i) fun q hq => h.mutual.mp hq
    generalize (s.node i).peers.foldl (leavePeer props i) s = left at *
    have hfilter := htracks.ledger.filterPeers (i := i) (fun _ => false)
      fun q mac iptype _ hne hW => ?_
    · simp only [List.filter_false] at hfilter
      have hnode : ∀ j, ((left.modify i fun n => { n with peerIfaceInfo := [] }).node j) =
          { left.node j with peerIfaceInfo := if j = i then [] else (left.node j).peerIfaceInfo } := by
        intro j
        by_cases hj : j = i
        · subst hj
          rw [node_modify_self, if_pos rfl]
        · rw [node_modify_of_ne hj, if_neg hj]
      refine ⟨T, ⟨hfilter, fun j => ?_, fun j hdrType => ?_⟩,
        hports.trans (samePorts_modify rfl rfl rfl rfl), fun j => ?_, hm, ha, hintra, fun j q => ?_⟩
      · rw [hnode]
        exact htracks.macs j
      · rw [hnode]
        exact htracks.refCnt j hdrType
      · grind [LanToLanIface.peers]
      · by_cases hj : j = i
        · grind
        · rw [hmem j q hj]
          refine and_congr_right fun hq => ⟨fun hno => ⟨hj, fun hqi => hno ⟨hqi, ?_⟩⟩, fun hn hc =>
            hn.2 hc.1⟩
          exact h.mutual.mpr (hqi ▸ hq)
    · rcases hW.2.2 with hq | ⟨hself, -⟩
      · rw [hnil] at hq
        cases hq
      · exact hne hself
  next hinter =>
    have hnil : ∀ q, q ∉ (s.node i).peers := fun q hq => hinter (h.inter_of_mem hq)
    refine ⟨s.topology, h.tracks, .refl s, fun _ => rfl, rfl, rfl, rfl, fun j q => ?_⟩
    refine (and_iff_left_of_imp fun hq => ⟨?_, ?_⟩).symm
    · rintro rfl
      exact hnil q hq
    · rintro rfl
      exact hnil j (h.mutual.mp hq)

theorem Tracks.clearIntraInterface (h : Tracks props s T) (hpeers : T.peers i = [])
    (hintra : T.intra i = (s.node i).supportIntraIfaceOffload) :
    Ledger props (clearIntraInterface props i s) ((T.setIntra i false).Wanted props) := by
  unfold LanToLan.clearIntraInterface
  split
  next hs =>
    have hframe : SameFrame s (clearAllFltRuleForOnePeerIface i i s) := sameFrame_clearAllFltRule i i
    have hrt := (h.ledger.clearAllFltRule (i := i) (Or.inl rfl)).clearAllRt i i
    have hzero : (s.node i).refCntPeerL2HdrType (props i).hdrL2Type = 0 := by
      rw [h.refCnt, hpeers]
      rfl
    rw [hframe.refCnt, useOf_self, hzero] at hrt
    refine (hrt.delCtx .intra ⟨⟨hintra.trans hs, ?_⟩, fun _ mac => ?_⟩).congr fun slot => ?_
    · rintro ⟨_, _, heq⟩
      cases heq
    · rintro ⟨_, _, heq⟩
      cases heq
    · rw [Topology.wanted_clearIntra hpeers, forall_prop_of_true rfl]
  next hs =>
    have hsame : T.setIntra i false = T := by
      refine Topology.ext rfl rfl rfl ?_
      refine (Function.update_eq_self_iff).mpr ?_
      rw [hintra]
      exact (eq_false_of_ne_true hs).symm
    rw [hsame]
    exact h.ledger

theorem BridgeInv.handleIfaceDown (h : BridgeInv props s) (i : Nat) :
    BridgeInv props (handleIfaceDown props i s) := by
  unfold LanToLan.handleIfaceDown
  split
  next hi =>
    obtain ⟨T, htracks, hports, hpeers, hm, ha, hintra, hmem⟩ := h.tracks_leavePeers i
    unfold handleDownEvent
    dsimp only
    generalize leavePeers props i s = left at *
    have hnil : T.peers i = [] :=
      List.eq_nil_iff_forall_not_mem.mpr fun q hq => ((hmem i q).mp hq).2.1 rfl
    have hnot : ∀ j, i ∉ T.peers j := fun j hq => ((hmem j i).mp hq).2.2 rfl
    have hclear := htracks.clearIntraInterface (i := i) hnil (by
      rw [hintra, hports.intra]
      exact topology_intra hi)
    have hframe : SameFrame left (clearIntraInterface props i left) := sameFrame_clearIntraInterface i
    generalize clearIntraInterface props i left = cleared at *
    have hdown : (T.setIntra i false).intra i = false := Function.update_self ..
    have hclients := hclear.filterClients (i := i) (fun _ => false)
      fun mac use iptype position _ =>
        Topology.not_wanted_of_alone (T := T.setIntra i false) hnil hdown rfl
    simp only [List.filter_false] at hclients
    have hnode : ∀ j, (cleared.modify i fun n => { n with clientInfo := [] }).node j =
        { cleared.node j with clientInfo := if j = i then [] else (cleared.node j).clientInfo } :=
      node_setClients cleared i []
    have hcleared : ∀ j, (cleared.node j).peers = T.peers j := fun j => by
      rw [hframe.peers, hpeers]
    have hrefCnt : ∀ j hdrType, (cleared.node j).refCntPeerL2HdrType hdrType =
        (T.peers j).countP fun q => (props q).hdrL2Type = hdrType := fun j hdrType => by
      rw [hframe.refCnt]
      exact htracks.refCnt j hdrType
    have hports' := hports.trans hframe.samePorts
    have hmIface : (cleared.modify i fun n => { n with clientInfo := [] }).mIface = s.mIface :=
      hports'.mIface
    generalize cleared.modify i (fun n => { n with clientInfo := [] }) = emptied at *
    have hpeers' : ∀ j, (emptied.node j).peers = T.peers j := fun j => by
      rw [hnode]
      exact hcleared j
    have hinter : ∀ j, (emptied.node j).supportInterIfaceOffload =
        (s.node j).supportInterIfaceOffload := fun j => by
      rw [hnode]
      exact hports'.inter j
    have htopology : ({ emptied with mIface := emptied.mIface.filter fun j => j ≠ i } :
        LanToLan).topology =
          ((T.setIntra i false).setMacs i []).setAssigned i (T.assigned i) := by
      refine Topology.ext ?_ ?_ (funext hpeers') ?_
      all_goals funext j
      · refine Eq.trans ?_ (congrFun (Function.update_eq_self i T.assigned).symm j)
        rw [ha]
        change (emptied.node j).isIpAddrAssigned = _
        rw [hnode]
        exact hports'.assigned j
      · change (emptied.node j).macs = Function.update T.macs i [] j
        rw [hnode, Function.update_apply, hm]
        unfold LanToLanIface.macs
        split
        · rfl
        · exact hports'.macs j
      · change (decide (j ∈ emptied.mIface.filter fun j => j ≠ i) &&
          (emptied.node j).supportIntraIfaceOffload) = Function.update T.intra i false j
        rw [hnode, hmIface, hports'.intra, Function.update_apply, hintra]
        by_cases hj : j = i
        · simp [hj]
        · simp [hj, topology]
    refine ⟨⟨?_, fun j => rfl, fun j hdrType => ?_⟩, ?_, fun j q => ?_⟩
    · rw [htopology]
      refine (hclients.relist _ emptied.cachedClientAddEvent).congr fun slot => ?_
      exact Topology.wanted_of_alone (T := T.setIntra i false) hnil hdown hnot [] (T.assigned i) slot
    · rw [htopology]
      change (emptied.node j).refCntPeerL2HdrType hdrType = _
      rw [hnode]
      exact hrefCnt j hdrType
    · simpa [hmIface] using h.mIface_nodup.filter _
    · change q ∈ (emptied.node j).peers ↔ j ∈ emptied.mIface.filter (fun j => j ≠ i) ∧
        q ∈ emptied.mIface.filter (fun j => j ≠ i) ∧ q ≠ j ∧
        (emptied.node j).supportInterIfaceOffload = true ∧
        (emptied.node q).supportInterIfaceOffload = true
      rw [hpeers', hmem, h.mem_peers, hmIface, hinter, hinter]
      simp only [List.mem_filter, decide_eq_true_eq]
      constructor
      · grind
      grind
  next => exact h.cached _

end LanToLan

end DeviceHal.Ipacm
