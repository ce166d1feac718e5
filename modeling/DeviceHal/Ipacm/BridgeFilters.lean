import DeviceHal.Ipacm.BridgeRules

namespace DeviceHal.Ipacm

open Lib

namespace LanToLan

variable {props : Nat → LanProps} {s t : LanToLan} {H H' : BridgeSlot → Prop}

variable {f : List FltRuleInfo → List FltRuleInfo} {n : LanToLanIface}

theorem LanToLanIface.entry_modifyFltRule {self peer : Nat} (q : Nat) (info' : PeerIfaceInfo) :
    (n.modifyFltRule self peer f).Entry self q info' ↔
      ∃ info, n.Entry self q info ∧
        info' = if q = peer then { info with fltRule := f info.fltRule } else info :=
  LanToLanIface.entry_modifyPeerInfo (f := fun info => { info with fltRule := f info.fltRule }) (fun _ => rfl)
    q info'

variable {i peer : Nat} {driver : Handles BridgeObject} {iptype : IpaIpType}

theorem held_modifyFltRule {j q : Nat} {m : MacAddr} {g : Nat} :
    Held H' ({ s with driver }.modify i fun n => n.modifyFltRule i peer f) (.flt j q m iptype) g ↔
      ∃ info, (s.node j).Entry j q info ∧
        ∃ e ∈ (if j = i ∧ q = peer then f info.fltRule else info.fltRule),
          e.mac = m ∧ e.fltRuleHdl iptype = g ∧ g ≠ 0 := by
  rw [held_flt]
  by_cases hj : j = i
  · subst hj
    rw [node_modify_self]
    simp only [true_and]
    constructor
    · rintro ⟨info', hinfo', hrest⟩
      obtain ⟨info, hinfo, rfl⟩ := (LanToLanIface.entry_modifyFltRule q info').mp hinfo'
      grind
    · rintro ⟨info, hinfo, hrest⟩
      refine ⟨_, (LanToLanIface.entry_modifyFltRule q _).mpr ⟨info, hinfo, rfl⟩, ?_⟩
      grind
  · rw [node_modify_of_ne hj]
    simp only [hj, false_and, if_false]

theorem ctxHdl_modifyFltRule {self peer : Nat} : (n.modifyFltRule self peer f).ctxHdl = n.ctxHdl ∧
      (n.modifyFltRule self peer f).clientInfo = n.clientInfo := by
  unfold LanToLanIface.modifyFltRule LanToLanIface.modifyPeerInfo
  constructor
  · funext use
    split <;> cases use <;> rfl
  · split <;> rfl

theorem held_modifyFltRule_other {slot : BridgeSlot} {g : Nat}
    (hctx : ∀ j use, H' (.ctx j use) ↔ H (.ctx j use))
    (hslot : ∀ j q m iptype, slot ≠ .flt j q m iptype) :
    Held H' ({ s with driver }.modify i fun n => n.modifyFltRule i peer f) slot g ↔
      Held H s slot g := by
  have hnode : ∀ j, (({ s with driver }.modify i fun n => n.modifyFltRule i peer f).node j).ctxHdl =
      (s.node j).ctxHdl ∧
      (({ s with driver }.modify i fun n => n.modifyFltRule i peer f).node j).clientInfo =
        (s.node j).clientInfo := by
    intro j
    by_cases hj : j = i
    · subst hj
      rw [node_modify_self]
      exact ctxHdl_modifyFltRule
    · rw [node_modify_of_ne hj]
      exact ⟨rfl, rfl⟩
  cases slot with
  | ctx j use => rw [held_ctx, held_ctx, hctx, (hnode j).1]
  | rt j m use iptype position => rw [held_rt, held_rt, (hnode j).2]
  | flt j q m iptype => exact absurd rfl (hslot j q m iptype)

theorem Ledger.change_entry (h : Ledger props s H) (hnodup : ∀ info, (s.node i).Entry i peer info →
      ((f info.fltRule).map FltRuleInfo.mac).Nodup)
    (hassigned : ∀ info, (s.node i).Entry i peer info → ∀ e ∈ f info.fltRule, ∀ iptype,
      e.fltRuleHdl iptype ≠ 0 → (s.node i).isIpAddrAssigned iptype = true)
    (hbooks : driver.Books (object props s)
      (Held H' ({ s with driver }.modify i fun n => n.modifyFltRule i peer f)))
    (hhas : ∀ slot, H' slot ↔
      ∃ g, Held H' ({ s with driver }.modify i fun n => n.modifyFltRule i peer f) slot g)
    (hintra : ∀ i, H' (.ctx i .intra) → H (.ctx i .intra)) :
    Ledger props ({ s with driver }.modify i fun n => n.modifyFltRule i peer f) H' := by
  have hobject : object props ({ s with driver }.modify i fun n => n.modifyFltRule i peer f) =
      object props s := object_congr (ctxHdl_modify ctxHdl_modifyFltRule.1)
  refine h.change (sameFrame_driver_modify LanToLanIface.frame_modifyFltRule)
    (hbooks.congr (fun _ _ => Iff.rfl) fun slot _ _ => congrFun hobject slot)
    hhas (fun j q info' hinfo' => ?_) hintra
  by_cases hj : j = i
  · subst hj
    rw [node_modify_self] at hinfo'
    obtain ⟨info, hinfo, rfl⟩ := (LanToLanIface.entry_modifyFltRule q info').mp hinfo'
    refine ⟨info, hinfo, ?_⟩
    by_cases hq : q = peer
    · grind
    · rw [if_neg hq]
      exact ⟨rfl, rfl, h.flt_nodup j q info hinfo, h.flt_assigned j q info hinfo⟩
  · rw [node_modify_of_ne hj] at hinfo'
    exact ⟨info', hinfo', rfl, rfl, h.flt_nodup j q info' hinfo', h.flt_assigned j q info' hinfo'⟩

theorem macs_insertFltHdl_nodup {mac : MacAddr} {hdl : Nat}
    {l : List FltRuleInfo} (h : (l.map FltRuleInfo.mac).Nodup) :
    ((insertFltHdl mac iptype hdl l).map FltRuleInfo.mac).Nodup := by
  unfold insertFltHdl
  split
  next =>
    rw [List.map_map]
    have hsame : l.map (FltRuleInfo.mac ∘ fun e =>
        if e.mac = mac then ⟨mac, Function.update e.fltRuleHdl iptype hdl⟩ else e) =
        l.map FltRuleInfo.mac := by
      refine List.map_congr_left fun e _ => ?_
      simp only [Function.comp]
      split
      next he => exact he.symm
      next => rfl
    exact hsame ▸ h
  grind

theorem mem_insertFltHdl {mac : MacAddr} {hdl : Nat} {l : List FltRuleInfo}
    {m : MacAddr} {iptype' : IpaIpType} {g : Nat} (hne : hdl ≠ 0) :
    (∃ e ∈ insertFltHdl mac iptype hdl l, e.mac = m ∧ e.fltRuleHdl iptype' = g ∧ g ≠ 0) ↔
      if m = mac ∧ iptype' = iptype then g = hdl
      else ∃ e ∈ l, e.mac = m ∧ e.fltRuleHdl iptype' = g ∧ g ≠ 0 := by
  unfold insertFltHdl
  split
  next hany =>
    obtain ⟨e₀, he₀, hmac₀⟩ := List.any_eq_true.mp hany
    have hmac₀ : e₀.mac = mac := by simpa using hmac₀
    simp only [List.mem_map]
    split
    next hkey =>
      obtain ⟨rfl, rfl⟩ := hkey
      constructor
      · rintro ⟨_, ⟨e, -, rfl⟩, hm, hg, -⟩
        by_cases hmac : e.mac = m
        · rw [if_pos hmac] at hg
          exact hg.symm.trans (Function.update_self ..)
        · rw [if_neg hmac] at hm
          exact absurd hm hmac
      · rintro rfl
        refine ⟨_, ⟨e₀, he₀, rfl⟩, ?_⟩
        rw [if_pos hmac₀]
        exact ⟨rfl, Function.update_self .., hne⟩
    next hkey =>
      constructor
      · rintro ⟨_, ⟨e, he, rfl⟩, hm, hg, hpos⟩
        by_cases hmac : e.mac = mac
        · rw [if_pos hmac] at hm hg
          grind
        grind
      · rintro ⟨e, he, hm, hg, hpos⟩
        refine ⟨_, ⟨e, he, rfl⟩, ?_⟩
        split
        next hmac =>
          grind
        next => exact ⟨hm, hg, hpos⟩
  next hany =>
    have hnone : ∀ e ∈ l, e.mac ≠ mac :=
      fun e he hmac => hany (List.any_eq_true.mpr ⟨e, he, by simpa using hmac⟩)
    simp only [List.mem_cons, exists_eq_or_imp]
    split
    next hkey =>
      obtain ⟨rfl, rfl⟩ := hkey
      grind
    grind

theorem Ledger.addClientFltRule (h : Ledger props s H) {mac : MacAddr}
    (hpeer : peer = i ∧ H (.ctx i .intra) ∨ peer ∈ (s.node i).peers)
    (hassigned : (s.node i).isIpAddrAssigned iptype = true)
    (hnone : ¬H (.flt i peer mac iptype)) :
    Ledger props (addClientFltRule i peer mac iptype s)
      fun slot => H slot ∨ slot = .flt i peer mac iptype := by
  have hinfo : (s.node i).Entry i peer ((s.node i).peerInfo i peer) :=
    LanToLanIface.entry_peerInfo (hpeer.imp And.left id)
  have hnames := h.names i peer _ hinfo fun he => (hpeer.resolve_right fun hm =>
    h.peers_ne i (he ▸ hm)).2
  have hobject : BridgeObject.fltRule i peer mac
      (((s.node i).peerInfo i peer).rtTblNameForFlt iptype) iptype =
      object props s (.flt i peer mac iptype) := by rw [hnames.2]; rfl
  unfold LanToLan.addClientFltRule
  simp only [hobject]
  have hadd := h.books.add (.flt i peer mac iptype)
  have hnext : (s.driver.add (object props s (.flt i peer mac iptype))).1 ≠ 0 :=
    Nat.ne_of_gt h.books.pos
  have hheld : ∀ slot g, Held (fun slot => H slot ∨ slot = .flt i peer mac iptype)
      ({ s with driver := (s.driver.add (object props s (.flt i peer mac iptype))).2 }.modify i
        fun n => n.modifyFltRule i peer (insertFltHdl mac iptype
          (s.driver.add (object props s (.flt i peer mac iptype))).1)) slot g ↔
      Held H s slot g ∨ slot = .flt i peer mac iptype ∧
        g = (s.driver.add (object props s (.flt i peer mac iptype))).1 := by
    intro slot g
    by_cases hslot : ∃ j q m iptype', slot = .flt j q m iptype'
    · obtain ⟨j, q, m, iptype', rfl⟩ := hslot
      rw [held_modifyFltRule]
      by_cases hentry : j = i ∧ q = peer
      · obtain ⟨rfl, rfl⟩ := hentry
        simp only [and_self, if_true, mem_insertFltHdl hnext]
        by_cases hkey : m = mac ∧ iptype' = iptype
        · obtain ⟨rfl, rfl⟩ := hkey
          simp only [and_self, if_true, true_and]
          constructor
          · exact fun ⟨_, _, hg⟩ => Or.inr hg
          · rintro (hg | hg)
            · exact absurd ((h.has _).mpr ⟨g, hg⟩) hnone
            · exact ⟨_, hinfo, hg⟩
        · simp only [hkey, if_false]
          refine ⟨fun hg => Or.inl hg, fun hg => hg.resolve_right ?_⟩
          grind
      · simp only [hentry, if_false]
        refine ⟨fun hg => Or.inl hg, fun hg => hg.resolve_right ?_⟩
        grind
    · have hno : ∀ j q m iptype', slot ≠ .flt j q m iptype' :=
        fun j q m iptype' heq => hslot ⟨j, q, m, iptype', heq⟩
      refine (held_modifyFltRule_other (H := H) (fun j use => ?_) hno).trans ?_
      · exact ⟨fun hc => hc.resolve_right nofun, Or.inl⟩
      grind
  refine h.change_entry (fun info hinfo => ?_) (fun info hinfo e he iptype' hne => ?_)
    (hadd.congr hheld fun _ _ _ => rfl) (fun slot => ?_) fun j hc => hc.resolve_right nofun
  · exact macs_insertFltHdl_nodup (h.flt_nodup i peer info hinfo)
  · by_cases hip : iptype' = iptype
    · rw [hip]
      exact hassigned
    · have hmem := (mem_insertFltHdl hnext).mp ⟨e, he, rfl, rfl, hne⟩
      rw [if_neg fun hkey => hip hkey.2] at hmem
      obtain ⟨e', he', -, heq, -⟩ := hmem
      exact h.flt_assigned i peer info hinfo e' he' iptype' (heq ▸ hne)
  · rw [exists_congr (hheld slot), exists_or]
    exact or_congr (h.has slot) ⟨fun heq => ⟨_, heq, rfl⟩, fun ⟨_, heq, _⟩ => heq⟩

theorem delFltHdls_eq {e : FltRuleInfo} (k : Handles BridgeObject) : delFltHdls n e k = k.delAll
      (([IpaIpType.v4, .v6].filter n.isIpAddrAssigned).map e.fltRuleHdl) := by
  grind [delFltHdls, Handles.delAll]

theorem foldl_delFltHdls (l : List FltRuleInfo) (k : Handles BridgeObject) :
    l.foldl (fun k e => delFltHdls n e k) k = k.delAll
      (l.flatMap fun e => ([IpaIpType.v4, .v6].filter n.isIpAddrAssigned).map e.fltRuleHdl) := by
  induction l generalizing k with
  | nil => rfl
  | cons e l ih =>
    rw [List.foldl_cons, ih, delFltHdls_eq, List.flatMap_cons, Handles.delAll_append]

theorem mem_assignedHdls {e : FltRuleInfo} {g : Nat} :
    g ∈ ([IpaIpType.v4, .v6].filter n.isIpAddrAssigned).map e.fltRuleHdl ↔
      ∃ iptype, n.isIpAddrAssigned iptype = true ∧ e.fltRuleHdl iptype = g := by
  rw [List.mem_map]
  refine exists_congr fun iptype => and_congr_left fun _ => ?_
  rw [List.mem_filter]
  refine and_iff_right ?_
  cases iptype <;> simp

theorem Ledger.filterFltRule (h : Ledger props s H) (keep : MacAddr → Bool)
    (hpeer : peer = i ∨ peer ∈ (s.node i).peers) (hdls : List Nat)
    (hall : ∀ e ∈ ((s.node i).peerInfo i peer).fltRule, keep e.mac = false → ∀ iptype,
      (s.node i).isIpAddrAssigned iptype = true → e.fltRuleHdl iptype ∈ hdls)
    (honly : ∀ g ∈ hdls, ∃ e ∈ ((s.node i).peerInfo i peer).fltRule, keep e.mac = false ∧
      ∃ iptype, e.fltRuleHdl iptype = g) :
    Ledger props ({ s with driver := s.driver.delAll hdls }.modify i fun n =>
        n.modifyFltRule i peer fun fltRule => fltRule.filter fun e => keep e.mac)
      fun slot => H slot ∧ ¬∃ mac iptype, keep mac = false ∧ slot = .flt i peer mac iptype := by
  have hinfo : (s.node i).Entry i peer ((s.node i).peerInfo i peer) :=
    LanToLanIface.entry_peerInfo hpeer
  have hentry : ∀ info, (s.node i).Entry i peer info → info = (s.node i).peerInfo i peer :=
    fun info hinfo' => hinfo'.unique (h.peers_nodup i) hinfo
  have hheld : ∀ slot g, Held
      (fun slot => H slot ∧ ¬∃ mac iptype, keep mac = false ∧ slot = .flt i peer mac iptype)
      ({ s with driver := s.driver.delAll hdls }.modify i fun n =>
        n.modifyFltRule i peer fun fltRule => fltRule.filter fun e => keep e.mac) slot g ↔
      Held H s slot g ∧ ¬∃ mac iptype, keep mac = false ∧ slot = .flt i peer mac iptype := by
    intro slot g
    by_cases hslot : ∃ j q m iptype', slot = .flt j q m iptype'
    · obtain ⟨j, q, m, iptype', rfl⟩ := hslot
      rw [held_modifyFltRule, held_flt]
      by_cases hkey : j = i ∧ q = peer
      · obtain ⟨rfl, rfl⟩ := hkey
        simp only [and_self, if_true, List.mem_filter]
        constructor
        · grind
        grind
      simp [hkey]
    · have hno : ∀ j q m iptype', slot ≠ .flt j q m iptype' :=
        fun j q m iptype' heq => hslot ⟨j, q, m, iptype', heq⟩
      refine (held_modifyFltRule_other (H := H) (fun j use => ?_) hno).trans ?_
      · exact ⟨And.left, fun hc => ⟨hc, nofun⟩⟩
      grind
  have hdel := h.books.delAll object_injective hdls
    (fun slot => ∃ mac iptype, keep mac = false ∧ slot = .flt i peer mac iptype) ?_ ?_
  · refine h.change_entry (fun info hinfo' => ?_) (fun info hinfo' e he iptype hne => ?_)
      (hdel.congr hheld fun _ _ _ => rfl) (fun slot => ?_) fun j hc => hc.1
    · exact (h.flt_nodup i peer info hinfo').sublist (List.filter_sublist.map _)
    · exact h.flt_assigned i peer info hinfo' e (List.mem_filter.mp he).1 iptype hne
    · rw [exists_congr (hheld slot), exists_and_right]
      exact and_congr_left' (h.has slot)
  · rintro _ g ⟨mac, iptype, hkeep, rfl⟩ ⟨info, hinfo', e, he, rfl, rfl, hne⟩
    have hassigned := h.flt_assigned i peer info hinfo' e he iptype hne
    exact hall e (hentry info hinfo' ▸ he) hkeep iptype hassigned
  · intro g hg
    obtain ⟨e, he, hkeep, iptype, rfl⟩ := honly g hg
    by_cases hne : e.fltRuleHdl iptype = 0
    · exact Or.inl hne
    · exact Or.inr ⟨_, ⟨e.mac, iptype, hkeep, rfl⟩, _, hinfo, e, he, rfl, rfl, hne⟩

theorem Ledger.delClientFltRule (h : Ledger props s H) (mac : MacAddr)
    (hpeer : peer = i ∨ peer ∈ (s.node i).peers) :
    Ledger props (delClientFltRule i peer mac s) fun slot => H slot ∧ ¬fltOf i peer mac slot := by
  unfold LanToLan.delClientFltRule
  cases hfind : ((s.node i).peerInfo i peer).fltRule.find? fun e => e.mac = mac with
  | none =>
    have hsame : (fun slot => H slot ∧ ¬fltOf i peer mac slot) = H := by
      funext slot
      refine propext (and_iff_left_of_imp fun hH => ?_)
      rintro ⟨iptype, rfl⟩
      obtain ⟨g, info, hinfo, e, he, hm, -⟩ := (h.has _).mp hH
      rw [hinfo.unique (h.peers_nodup i) (LanToLanIface.entry_peerInfo hpeer)] at he
      have hno := List.find?_eq_none.mp hfind e he
      exact hno (by simpa using hm)
    rw [hsame]
    exact h
  | some e =>
    have he : e ∈ ((s.node i).peerInfo i peer).fltRule := List.mem_of_find?_eq_some hfind
    have hm : e.mac = mac := by simpa using List.find?_some hfind
    have hnodup := h.flt_nodup i peer _ (LanToLanIface.entry_peerInfo hpeer)
    have hfilter := h.filterFltRule (fun m => decide (m ≠ mac)) hpeer
      (([IpaIpType.v4, .v6].filter (s.node i).isIpAddrAssigned).map e.fltRuleHdl)
      (fun e' he' hkeep iptype hassigned => ?_) (fun g hg => ?_)
    · simp only [delFltHdls_eq]
      refine cast (congrArg (Ledger props _) ?_) hfilter
      funext slot
      refine propext (and_congr_right fun _ => not_congr ?_)
      simp only [ne_eq, decide_not, Bool.not_eq_false', decide_eq_true_eq]
      exact ⟨fun ⟨_, iptype, hmac, heq⟩ => ⟨iptype, hmac ▸ heq⟩,
        fun ⟨iptype, heq⟩ => ⟨mac, iptype, rfl, heq⟩⟩
    · have hmac : e'.mac = mac := by simpa using hkeep
      have heq : e' = e := List.inj_on_of_nodup_map hnodup he' he (hmac.trans hm.symm)
      exact heq ▸ mem_assignedHdls.mpr ⟨iptype, hassigned, rfl⟩
    grind

theorem Ledger.clearAllFltRule (h : Ledger props s H) (hpeer : peer = i ∨ peer ∈ (s.node i).peers) :
    Ledger props (clearAllFltRuleForOnePeerIface i peer s)
      fun slot => H slot ∧ ¬fltOfPeer i peer slot := by
  unfold clearAllFltRuleForOnePeerIface
  simp only [foldl_delFltHdls]
  have hfilter := h.filterFltRule (fun _ => false) hpeer _
    (fun e he _ iptype hassigned => List.mem_flatMap.mpr
      ⟨e, he, mem_assignedHdls.mpr ⟨iptype, hassigned, rfl⟩⟩)
    (fun g hg => by
      grind)
  simp only [List.filter_false, true_and] at hfilter
  exact hfilter

end LanToLan

end DeviceHal.Ipacm
