import DeviceHal.Ipacm.BridgeRun

namespace DeviceHal.Ipacm

open Lib

namespace LanToLan

/-- One such object is installed if the condition holds, and none otherwise. -/
def InstalledIff (driver : Handles BridgeObject) (such : BridgeObject → Prop) (cond : Prop) : Prop :=
  (cond → ∃ g, (∃ x, such x ∧ driver.installed g = some x) ∧
    ∀ g' x, such x → driver.installed g' = some x → g' = g) ∧
  (¬cond → ∀ g x, such x → driver.installed g ≠ some x)

/-- The peers, and what is installed for them and for the clients. -/
structure Bridged (props : Nat → LanProps) (s : LanToLan) : Prop where
  peers_once : ∀ i, (s.node i).peers.Nodup
  peers_symm : ∀ i q, q ∈ (s.node i).peers ↔ i ∈ (s.node q).peers
  peers_iff : ∀ i q, q ∈ (s.node i).peers ↔ i ∈ s.mIface ∧ q ∈ s.mIface ∧ q ≠ i ∧
    (s.node i).supportInterIfaceOffload = true ∧ (s.node q).supportInterIfaceOffload = true
  refCnt : ∀ i hdrType, (s.node i).refCntPeerL2HdrType hdrType =
    (s.node i).peers.countP fun q => (props q).hdrL2Type = hdrType
  interCtx : ∀ i hdrType, InstalledIff s.driver (fun x => x = .hdrProcCtx i (.inter hdrType))
    (0 < (s.node i).refCntPeerL2HdrType hdrType)
  intraCtx : ∀ i, InstalledIff s.driver (fun x => x = .hdrProcCtx i .intra)
    (i ∈ s.mIface ∧ (s.node i).supportIntraIfaceOffload = true)
  interRt : ∀ i, ∀ mac ∈ (s.node i).macs, ∀ hdrType iptype position,
    position < (props i).eachClientRtRuleCount iptype →
    InstalledIff s.driver (fun x => ∃ ctx,
      x = .rtRule i mac (.between iptype hdrType (props i).hdrL2Type) ctx iptype position)
      (∃ q ∈ (s.node i).peers, (props q).hdrL2Type = hdrType)
  intraRt : ∀ i, ∀ mac ∈ (s.node i).macs, ∀ iptype position,
    position < (props i).eachClientRtRuleCount iptype →
    InstalledIff s.driver (fun x => ∃ ctx, x = .rtRule i mac (.intra iptype) ctx iptype position)
      (i ∈ s.mIface ∧ (s.node i).supportIntraIfaceOffload = true)
  flt : ∀ i, ∀ mac ∈ (s.node i).macs, ∀ j iptype,
    InstalledIff s.driver (fun x => ∃ rtTbl, x = .fltRule j i mac rtTbl iptype)
      ((j ∈ (s.node i).peers ∨
        j = i ∧ i ∈ s.mIface ∧ (s.node i).supportIntraIfaceOffload = true) ∧
        (s.node j).isIpAddrAssigned iptype = true)
  only : ∀ g x, s.driver.installed g = some x →
    ∃ slot, s.topology.Wanted props slot ∧ object props s slot = x
  none_of_down : s.mIface = [] → ∀ g, s.driver.installed g = none

variable {props : Nat → LanProps} {s t : LanToLan}

theorem BridgeInv.installedIff (h : BridgeInv props s) {such : BridgeObject → Prop} {cond : Prop}
    (slot : BridgeSlot) (hslot : such (object props s slot))
    (hsuch : ∀ slot', s.topology.Wanted props slot' → such (object props s slot') → slot' = slot)
    (hcond : s.topology.Wanted props slot ↔ cond) : InstalledIff s.driver such cond := by
  have hof : ∀ g x, such x → s.driver.installed g = some x →
      s.topology.Wanted props slot ∧ x = object props s slot := by
    intro g x hx hg
    obtain ⟨slot', hW, rfl⟩ := h.tracks.ledger.installed hg
    obtain rfl := hsuch slot' hW hx
    exact ⟨hW, rfl⟩
  refine ⟨fun hc => ?_, fun hc g x hx hg => hc (hcond.mp (hof g x hx hg).1)⟩
  obtain ⟨g, hg, hunique⟩ := h.tracks.ledger.once (hcond.mpr hc)
  grind

theorem topology_intra_iff {i : Nat} : s.topology.intra i = true ↔
    i ∈ s.mIface ∧ (s.node i).supportIntraIfaceOffload = true := by
  simp only [topology, Bool.and_eq_true, decide_eq_true_eq]

theorem object_rtRule {i : Nat} {mac : MacAddr} {use : CtxUse} {iptype : IpaIpType} {position : Nat}
    {slot : BridgeSlot} {ctx : Nat} (h : object props s slot =
      .rtRule i mac (rtTblOf props i use iptype) ctx iptype position) :
    slot = .rt i mac use iptype position := by
  cases slot with
  | ctx => cases h
  | flt => cases h
  | rt i' mac' use' iptype' position' =>
    simp only [object, BridgeObject.rtRule.injEq] at h
    obtain ⟨rfl, rfl, htbl, -, rfl, rfl⟩ := h
    rw [rtTblOf_injective htbl]

theorem BridgeInv.bridged (h : BridgeInv props s) : Bridged props s where
  peers_once := h.tracks.ledger.peers_nodup
  peers_symm _ _ := h.mutual
  peers_iff := h.mem_peers
  refCnt := h.tracks.refCnt
  interCtx i hdrType := by
    refine h.installedIff (.ctx i (.inter hdrType)) rfl (fun slot _ hx => object_injective hx) ?_
    refine Topology.uses_inter.trans ?_
    rw [h.tracks.refCnt i hdrType]
    omega
  intraCtx i := h.installedIff (.ctx i .intra) rfl (fun slot _ hx => object_injective hx)
    topology_intra_iff
  interRt i mac hmac hdrType iptype position hpos := by
    refine h.installedIff (.rt i mac (.inter hdrType) iptype position) ⟨_, rfl⟩
      (fun slot _ ⟨_, hx⟩ => object_rtRule hx) ?_
    exact ⟨fun hW => hW.2.2, fun huse => ⟨hmac, hpos, huse⟩⟩
  intraRt i mac hmac iptype position hpos := by
    refine h.installedIff (.rt i mac .intra iptype position) ⟨_, rfl⟩
      (fun slot _ ⟨_, hx⟩ => object_rtRule hx) ?_
    exact ⟨fun hW => topology_intra_iff.mp hW.2.2,
      fun huse => ⟨hmac, hpos, topology_intra_iff.mpr huse⟩⟩
  flt i mac hmac j iptype := by
    refine h.installedIff (.flt j i mac iptype) ⟨_, rfl⟩ (fun slot _ ⟨rtTbl, hx⟩ => ?_) ?_
    · cases slot with
      | ctx => cases hx
      | rt => cases hx
      | flt j' i' mac' iptype' =>
        simp only [object, BridgeObject.fltRule.injEq] at hx
        obtain ⟨rfl, rfl, rfl, -, rfl⟩ := hx
        rfl
    · constructor
      · rintro ⟨ha, -, hq | ⟨rfl, hself⟩⟩
        · exact ⟨Or.inl (h.mutual.mp hq), ha⟩
        · exact ⟨Or.inr ⟨rfl, topology_intra_iff.mp hself⟩, ha⟩
      · rintro ⟨hq | ⟨rfl, hself⟩, ha⟩
        · exact ⟨ha, hmac, Or.inl (h.mutual.mp hq)⟩
        · exact ⟨ha, hmac, Or.inr ⟨rfl, topology_intra_iff.mpr hself⟩⟩
  only _ _ hx := h.tracks.ledger.installed hx
  none_of_down hdown g := by
    have hnil : ∀ i, i ∉ s.mIface := fun i hi => by
      rw [hdown] at hi
      cases hi
    refine Option.eq_none_iff_forall_not_mem.mpr fun x hx => ?_
    obtain ⟨slot, hW, -⟩ := h.tracks.ledger.installed hx
    exact Topology.not_wanted_of_alone (h.peers_of_down (hnil slot.iface))
      (topology_intra_of_down (hnil slot.iface)) rfl hW

theorem bridgeInv_start : BridgeInv props {} := by
  have hnot : ∀ slot, ¬(topology {}).Wanted props slot :=
    fun slot => Topology.not_wanted_of_alone (i := slot.iface) rfl rfl rfl
  have hheld : ∀ slot g, ¬Held ((topology {}).Wanted props) {} slot g := by
    intro slot g hg
    cases slot with
    | ctx i use => exact hnot _ hg.1
    | rt i mac use iptype position =>
      obtain ⟨client, hclient, -⟩ := hg
      cases hclient
    | flt i q mac iptype =>
      obtain ⟨info, hinfo, e, he, -⟩ := hg
      grind [LanToLanIface.Entry]
  have hentry : ∀ i q info, ((({} : LanToLan).node i).Entry i q info) →
      q = i ∧ info = ⟨0, .intra, .intra, []⟩ := by
    intro i q info hinfo
    unfold LanToLanIface.Entry at hinfo
    split at hinfo
    next hq => exact ⟨hq, hinfo⟩
    next => cases hinfo.1
  refine ⟨⟨⟨?_, fun slot => ?_, fun i => List.nodup_nil, fun i => List.nodup_nil,
    fun i => List.not_mem_nil, fun i q info hinfo => ?_, fun i q info hinfo e he => ?_,
    fun i q info hinfo _ => ?_⟩, fun i => rfl, fun i hdrType => rfl⟩, List.nodup_nil, fun i q => ?_⟩
  · refine (Handles.books_empty (object props {})).congr (fun slot g => ?_) fun _ _ _ => rfl
    exact iff_of_false (hheld slot g) id
  · grind
  · rw [(hentry i q info hinfo).2]
    exact List.nodup_nil
  · rw [(hentry i q info hinfo).2] at he
    cases he
  · grind
  · exact iff_of_false List.not_mem_nil fun hn => List.not_mem_nil hn.1

theorem bridgeInv_step (h : BridgeInv props s) {evt : BridgeEvent} (ht : step props s evt = some t) :
    BridgeInv props t := by
  obtain rfl := Option.some.inj ht
  cases evt with
  | ifaceUp i iptype => exact h.handleIfaceUp i iptype
  | ifaceDown i => exact h.handleIfaceDown i
  | clientAdd i mac => exact h.handleClientAdd i mac
  | clientDel i mac => exact h.handleClientDel i mac

theorem opsMeet_true (evts : List BridgeEvent) (s : LanToLan) :
    OpsMeet (step props) (fun _ _ => True) s evts := by
  induction evts generalizing s with
  | nil => trivial
  | cons evt evts ih => exact ⟨trivial, fun t _ => ih t⟩

end LanToLan

end DeviceHal.Ipacm
