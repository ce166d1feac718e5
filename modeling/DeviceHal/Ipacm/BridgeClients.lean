import DeviceHal.Ipacm.BridgeNodes

namespace DeviceHal.Ipacm

open Lib

namespace LanToLan

variable {props : Nat → LanProps} {s t : LanToLan} {H K : BridgeSlot → Prop} {α : Type}

theorem Ledger.congr (h : Ledger props s H) (hK : ∀ slot, K slot ↔ H slot) : Ledger props s K := by
  have heq : K = H := funext fun slot => propext (hK slot)
  rw [heq]
  exact h

variable {op : LanToLan → α → LanToLan}

theorem Ledger.foldl_add {new : α → BridgeSlot → Prop} {l : List α}
    (area : α → BridgeSlot → Prop) (hsub : ∀ x slot, new x slot → area x slot)
    (h : Ledger props s H) (hframe : ∀ t x, SameFrame t (op t x))
    (hop : ∀ t K x, SameFrame s t → (∀ slot, H slot → K slot) → x ∈ l → Ledger props t K →
      (∀ slot, area x slot → ¬K slot) → Ledger props (op t x) fun slot => K slot ∨ new x slot)
    (hdisj : l.Pairwise fun x y => ∀ slot, area x slot → ¬area y slot)
    (hnone : ∀ x ∈ l, ∀ slot, area x slot → ¬H slot) :
    Ledger props (l.foldl op s) fun slot => H slot ∨ ∃ x ∈ l, new x slot := by
  induction l generalizing s H with
  | nil => exact h.congr fun slot => or_iff_left fun ⟨_, hx, _⟩ => List.not_mem_nil hx
  | cons x l ih =>
    obtain ⟨hx, hdisj⟩ := List.pairwise_cons.mp hdisj
    have hfirst := hop s H x (.refl s) (fun _ => id) List.mem_cons_self h
      (hnone x List.mem_cons_self)
    refine (ih hfirst (fun t K y hst hHK hy => ?_) hdisj fun y hy slot harea => ?_).congr
      fun slot => ?_
    · exact hop t K y ((hframe s x).trans hst) (fun slot hH => hHK slot (Or.inl hH))
        (List.mem_cons_of_mem _ hy)
    · grind
    · rw [or_assoc]
      simp only [List.mem_cons, exists_eq_or_imp]

theorem Ledger.foldl_del {old : α → BridgeSlot → Prop} {l : List α}
    (h : Ledger props s H) (hframe : ∀ t x, SameFrame t (op t x))
    (hop : ∀ t K x, SameFrame s t → x ∈ l → Ledger props t K →
      Ledger props (op t x) fun slot => K slot ∧ ¬old x slot) :
    Ledger props (l.foldl op s) fun slot => H slot ∧ ∀ x ∈ l, ¬old x slot := by
  induction l generalizing s H with
  | nil => exact h.congr fun slot => and_iff_left fun x hx => absurd hx List.not_mem_nil
  | cons x l ih =>
    have hfirst := hop s H x (.refl s) List.mem_cons_self h
    refine (ih hfirst fun t K y hst hy => ?_).congr fun slot => ?_
    · exact hop t K y ((hframe s x).trans hst) (List.mem_cons_of_mem _ hy)
    · rw [and_assoc, List.forall_mem_cons]

variable {iptype : IpaIpType}

variable {i peer : Nat}

theorem Ledger.addAllOfPeer (h : Ledger props s H)
    (hpeer : peer = i ∧ H (.ctx i .intra) ∨ peer ∈ (s.node i).peers)
    (hassigned : (s.node i).isIpAddrAssigned iptype = true)
    (hnone : ∀ mac ∈ (s.node peer).macs, ¬H (.flt i peer mac iptype)) :
    Ledger props
      ((s.node peer).macs.foldl (fun s mac => LanToLan.addClientFltRule i peer mac iptype s) s)
      fun slot => H slot ∨ ∃ mac ∈ (s.node peer).macs, slot = .flt i peer mac iptype := by
  refine Ledger.foldl_add (fun mac slot => slot = .flt i peer mac iptype) (fun _ _ => id) h
    (fun t mac => sameFrame_addClientFltRule i peer mac iptype)
    (fun t K mac hst hHK _ hK hfresh => ?_) ?_ fun mac hmac slot hslot => hslot ▸ hnone mac hmac
  · refine hK.addClientFltRule (hpeer.imp (fun hp => ⟨hp.1, hHK _ hp.2⟩) fun hp => ?_) ?_
      (hfresh _ rfl)
    · rw [hst.peers]
      exact hp
    · rw [hst.assigned]
      exact hassigned
  · refine (h.macs_nodup peer).imp fun hne slot hx hy => hne ?_
    have heq := hx.symm.trans hy
    cases heq
    rfl

variable {i : Nat}

theorem Ledger.addAllInter (h : Ledger props s H)
    (hassigned : (s.node i).isIpAddrAssigned iptype = true)
    (hnone : ∀ peer ∈ (s.node i).peers, ∀ mac, ¬H (.flt i peer mac iptype)) :
    Ledger props (addAllInterInterfaceClientFltRule i iptype s) fun slot => H slot ∨
      ∃ peer ∈ (s.node i).peers, ∃ mac ∈ (s.node peer).macs, slot = .flt i peer mac iptype := by
  refine Ledger.foldl_add (fun peer slot => ∃ mac ∈ (s.node peer).macs,
    slot = .flt i peer mac iptype) (fun _ _ => id) h
    (fun t peer => .foldl (fun _ mac => sameFrame_addClientFltRule i peer mac iptype) _ t)
    (fun t K peer hst _ hpeer hK hfresh => ?_) ?_ fun peer hpeer slot => ?_
  · rw [← hst.macs] at hfresh ⊢
    refine hK.addAllOfPeer (Or.inr ?_) ?_ fun mac hmac => hfresh _ ⟨mac, hmac, rfl⟩
    · rw [hst.peers]
      exact hpeer
    · rw [hst.assigned]
      exact hassigned
  · refine (h.peers_nodup i).imp fun hne slot hx hy => hne ?_
    grind
  · rintro ⟨mac, -, rfl⟩
    exact hnone peer hpeer mac

theorem Ledger.addFltRulesOfPeers (h : Ledger props s H)
    (hassigned : (s.node i).isIpAddrAssigned iptype = true)
    (hinter : ∀ q ∈ (s.node i).peers, (s.node i).supportInterIfaceOffload = true)
    (hnone : ∀ peer mac, ¬H (.flt i peer mac iptype)) :
    Ledger props (addFltRulesOfPeers i iptype s) fun slot => H slot ∨
      ∃ peer ∈ (s.node i).peers, ∃ mac ∈ (s.node peer).macs, slot = .flt i peer mac iptype := by
  unfold LanToLan.addFltRulesOfPeers
  split
  next => exact h.addAllInter hassigned fun peer _ => hnone peer
  next hno => exact h.congr fun slot => or_iff_left fun ⟨q, hq, _⟩ => hno (hinter q hq)

theorem Ledger.addFltRulesOfOwn (h : Ledger props s H)
    (hassigned : (s.node i).isIpAddrAssigned iptype = true)
    (hctx : (s.node i).supportIntraIfaceOffload = true → H (.ctx i .intra))
    (hnone : ∀ mac, ¬H (.flt i i mac iptype)) :
    Ledger props (addFltRulesOfOwn i iptype s) fun slot => H slot ∨
      (s.node i).supportIntraIfaceOffload = true ∧
        ∃ mac ∈ (s.node i).macs, slot = .flt i i mac iptype := by
  unfold LanToLan.addFltRulesOfOwn
  split
  next hsupport =>
    simp only [hsupport, true_and]
    exact h.addAllOfPeer (Or.inl ⟨rfl, hctx hsupport⟩) hassigned fun mac _ => hnone mac
  next hno => exact h.congr fun slot => or_iff_left fun hn => hno hn.1

theorem Ledger.addAssignedFltRule (h : Ledger props s H) (mac : MacAddr)
    (iptype : IpaIpType) (hpeer : peer = i ∧ H (.ctx i .intra) ∨ peer ∈ (s.node i).peers)
    (hnone : ¬H (.flt i peer mac iptype)) :
    Ledger props (addAssignedFltRule i peer mac iptype s) fun slot => H slot ∨
      (s.node i).isIpAddrAssigned iptype = true ∧ slot = .flt i peer mac iptype := by
  unfold LanToLan.addAssignedFltRule
  split
  next hassigned =>
    simp only [hassigned, true_and]
    exact h.addClientFltRule hpeer hassigned hnone
  next hassigned => exact h.congr fun slot => or_iff_left fun hn => hassigned hn.1

theorem Ledger.addClientFltRules (h : Ledger props s H) (mac : MacAddr)
    (hpeer : peer = i ∧ H (.ctx i .intra) ∨ peer ∈ (s.node i).peers)
    (hnone : ∀ iptype, ¬H (.flt i peer mac iptype)) :
    Ledger props (addClientFltRules i peer mac s) fun slot => H slot ∨
      ∃ iptype, (s.node i).isIpAddrAssigned iptype = true ∧ slot = .flt i peer mac iptype := by
  have hframe : SameFrame s (LanToLan.addAssignedFltRule i peer mac .v4 s) :=
    sameFrame_addAssignedFltRule i peer mac .v4
  have h4 := h.addAssignedFltRule mac .v4 hpeer (hnone .v4)
  have h6 := h4.addAssignedFltRule mac .v6
    (hpeer.imp (fun hp => ⟨hp.1, Or.inl hp.2⟩) fun hp => by rwa [hframe.peers]) ?_
  · rw [hframe.assigned] at h6
    refine h6.congr fun slot => ?_
    rw [or_assoc]
    refine or_congr Iff.rfl ⟨?_, ?_⟩
    · rintro ⟨iptype, hslot⟩
      cases iptype
      · exact Or.inl hslot
      · exact Or.inr hslot
    grind
  grind

theorem useOf_of_ne (hne : peer ≠ i) :
    useOf props i peer = .inter (props peer).hdrL2Type := if_neg hne

theorem useOf_self (i : Nat) : useOf props i i = .intra := if_pos rfl

variable {mac : MacAddr}

theorem Ledger.addRulesTowardPeer (h : Ledger props s H)
    {flag : HdrL2Type → Bool} (hmac : mac ∈ (s.node i).macs) (hpeer : peer ∈ (s.node i).peers)
    (hmutual : i ∈ (s.node peer).peers)
    (hrt : flag (props peer).hdrL2Type = false →
      ∀ slot, rtOf i mac (.inter (props peer).hdrL2Type) slot → ¬H slot)
    (hflt : ∀ iptype, ¬H (.flt peer i mac iptype)) :
    Ledger props (addRulesTowardPeer props i mac (flag, s) peer).2 fun slot => (H slot ∨
      flag (props peer).hdrL2Type = false ∧
        rtSlots props i mac (.inter (props peer).hdrL2Type) slot) ∨
      ∃ iptype, (s.node peer).isIpAddrAssigned iptype = true ∧ slot = .flt peer i mac iptype := by
  have hne : peer ≠ i := fun he => h.peers_ne i (he ▸ hpeer)
  unfold LanToLan.addRulesTowardPeer addOneClientFltRule
  dsimp only
  by_cases hflag : flag (props peer).hdrL2Type = false
  · rw [if_pos hflag]
    have hframe : SameFrame s (LanToLan.addClientRtRule props i peer mac s) :=
      sameFrame_addClientRtRule i peer mac
    have hadd := h.addClientRtRule hmac (Or.inr hpeer) (by rw [useOf_of_ne hne]; exact hrt hflag)
    rw [useOf_of_ne hne] at hadd
    have hrules := hadd.addClientFltRules (i := peer) mac
      (Or.inr (by rwa [hframe.peers])) fun iptype hH => ?_
    · simp only [hflag, true_and]
      rw [hframe.peers, if_pos hmutual]
      rw [hframe.assigned] at hrules
      exact hrules
    · rcases hH with hH | ⟨_, _, heq, -⟩
      · exact hflt iptype hH
      · cases heq
  · rw [if_neg hflag, if_pos hmutual]
    refine (h.addClientFltRules mac (Or.inr hmutual) hflt).congr fun slot => ?_
    exact or_congr (or_iff_left fun hn => hflag hn.1) Iff.rfl

theorem Ledger.addRules {l : List Nat} (hl : l.Nodup)
    (flag : HdrL2Type → Bool) (h : Ledger props s H) (hmac : mac ∈ (s.node i).macs)
    (hpeers : ∀ q ∈ l, q ∈ (s.node i).peers) (hmutual : ∀ q ∈ l, i ∈ (s.node q).peers)
    (hrt : ∀ q ∈ l, flag (props q).hdrL2Type = false →
      ∀ slot, rtOf i mac (.inter (props q).hdrL2Type) slot → ¬H slot)
    (hflt : ∀ q ∈ l, ∀ iptype, ¬H (.flt q i mac iptype)) :
    Ledger props (l.foldl (LanToLan.addRulesTowardPeer props i mac) (flag, s)).2 fun slot =>
      (H slot ∨ ∃ q ∈ l, flag (props q).hdrL2Type = false ∧
        rtSlots props i mac (.inter (props q).hdrL2Type) slot) ∨
      ∃ q ∈ l, ∃ iptype, (s.node q).isIpAddrAssigned iptype = true ∧
        slot = .flt q i mac iptype := by
  induction l generalizing flag s H with
  | nil =>
    refine h.congr fun slot => ?_
    simp only [List.not_mem_nil, false_and, exists_false, or_false]
  | cons peer l ih =>
    obtain ⟨hpeer, hl⟩ := List.nodup_cons.mp hl
    have hfirst := h.addRulesTowardPeer hmac (hpeers peer List.mem_cons_self)
      (hmutual peer List.mem_cons_self) (hrt peer List.mem_cons_self)
      (hflt peer List.mem_cons_self)
    have hframe : SameFrame s (LanToLan.addRulesTowardPeer props i mac (flag, s) peer).2 :=
      sameFrame_addRules i mac [peer] flag s
    have hrest := ih hl (Function.update flag (props peer).hdrL2Type true) hfirst
      (by rwa [hframe.macs])
      (fun q hq => by rw [hframe.peers]; exact hpeers q (List.mem_cons_of_mem _ hq))
      (fun q hq => by rw [hframe.peers]; exact hmutual q (List.mem_cons_of_mem _ hq))
      (fun q hq hflag slot hslot hH => ?_) fun q hq iptype hH => ?_
    · refine hrest.congr fun slot => ?_
      simp only [hframe.assigned, List.mem_cons, exists_eq_or_imp, Function.update_apply]
      constructor
      · rintro ((hH | ⟨hflag, hr⟩ | ⟨q, hq, hflag, hr⟩) | hf | ⟨q, hq, hf⟩)
        · exact Or.inl (Or.inl (Or.inl (Or.inl hH)))
        · exact Or.inl (Or.inl (Or.inl (Or.inr ⟨hflag, hr⟩)))
        · by_cases hty : (props q).hdrL2Type = (props peer).hdrL2Type
          · grind
          · exact Or.inl (Or.inr ⟨q, hq, by rwa [if_neg hty], hr⟩)
        · exact Or.inl (Or.inl (Or.inr hf))
        · exact Or.inr ⟨q, hq, hf⟩
      · rintro (((((hH | hr) | hf)) | ⟨q, hq, hflag, hr⟩) | ⟨q, hq, hf⟩)
        · exact Or.inl (Or.inl hH)
        · exact Or.inl (Or.inr (Or.inl hr))
        · exact Or.inr (Or.inl hf)
        · split at hflag
          next => cases hflag
          next => exact Or.inl (Or.inr (Or.inr ⟨q, hq, hflag, hr⟩))
        · exact Or.inr (Or.inr ⟨q, hq, hf⟩)
    · rw [Function.update_apply] at hflag
      split at hflag
      next => cases hflag
      next hty =>
        rcases hH with (hH | ⟨-, _, _, rfl, -⟩) | ⟨_, -, rfl⟩
        · exact hrt q (List.mem_cons_of_mem _ hq) hflag slot hslot hH
        · obtain ⟨_, _, heq⟩ := hslot
          grind
        · obtain ⟨_, _, heq⟩ := hslot
          cases heq
    · rcases hH with (hH | ⟨-, _, _, heq, -⟩) | ⟨_, -, heq⟩
      · exact hflt q (List.mem_cons_of_mem _ hq) iptype hH
      · cases heq
      · cases heq
        exact hpeer hq

theorem Ledger.addInter (h : Ledger props s H) (hmac : mac ∈ (s.node i).macs)
    (hinter : ∀ q ∈ (s.node i).peers, (s.node i).supportInterIfaceOffload = true)
    (hmutual : ∀ q ∈ (s.node i).peers, i ∈ (s.node q).peers)
    (hrt : ∀ slot use, rtOf i mac use slot → ¬H slot) (hflt : ∀ q iptype, ¬H (.flt q i mac iptype)) :
    Ledger props (addInterInterfaceRules props i mac s) fun slot =>
      (H slot ∨ ∃ q ∈ (s.node i).peers, rtSlots props i mac (.inter (props q).hdrL2Type) slot) ∨
      ∃ q ∈ (s.node i).peers, ∃ iptype, (s.node q).isIpAddrAssigned iptype = true ∧
        slot = .flt q i mac iptype := by
  unfold addInterInterfaceRules
  split
  next =>
    have hrules := h.addRules (h.peers_nodup i) (fun _ => false) hmac (fun _ => id) hmutual
      (fun q _ _ slot => hrt slot _) fun q _ => hflt q
    simpa only [true_and] using hrules
  next hno =>
    have hnil : ∀ q, q ∉ (s.node i).peers := fun q hq => hno (hinter q hq)
    refine h.congr fun slot => ?_
    simp only [hnil, false_and, exists_false, or_false]

theorem Ledger.addIntra (h : Ledger props s H) (hmac : mac ∈ (s.node i).macs)
    (hctx : (s.node i).supportIntraIfaceOffload = true → H (.ctx i .intra))
    (hrt : ∀ slot, rtOf i mac .intra slot → ¬H slot) (hflt : ∀ iptype, ¬H (.flt i i mac iptype)) :
    Ledger props (addIntraInterfaceRules props i mac s) fun slot =>
      (H slot ∨ (s.node i).supportIntraIfaceOffload = true ∧ rtSlots props i mac .intra slot) ∨
      (s.node i).supportIntraIfaceOffload = true ∧
        ∃ iptype, (s.node i).isIpAddrAssigned iptype = true ∧ slot = .flt i i mac iptype := by
  unfold addIntraInterfaceRules
  split
  next hsupport =>
    have hframe : SameFrame s (LanToLan.addClientRtRule props i i mac s) :=
      sameFrame_addClientRtRule i i mac
    have hadd := h.addClientRtRule hmac (Or.inl ⟨rfl, hctx hsupport⟩)
      (by rw [useOf_self]; exact hrt)
    rw [useOf_self] at hadd
    have hrules := hadd.addClientFltRules (i := i) mac
      (Or.inl ⟨rfl, Or.inl (hctx hsupport)⟩) fun iptype hH => ?_
    · simp only [hsupport, true_and]
      rw [hframe.assigned] at hrules
      exact hrules
    · rcases hH with hH | ⟨_, _, heq, -⟩
      · exact hflt iptype hH
      · cases heq
  next hno =>
    refine h.congr fun slot => ?_
    grind

theorem Ledger.delRulesTowardPeer (h : Ledger props s H)
    (flag : HdrL2Type → Bool) (hmac : mac ∈ (s.node i).macs) (hpeer : peer ∈ (s.node i).peers)
    (hmutual : i ∈ (s.node peer).peers) :
    Ledger props (delRulesTowardPeer props i mac (flag, s) peer).2 fun slot =>
      H slot ∧ ¬fltOf peer i mac slot ∧ ¬(flag (props peer).hdrL2Type = false ∧
        rtOf i mac (.inter (props peer).hdrL2Type) slot) := by
  have hne : peer ≠ i := fun he => h.peers_ne i (he ▸ hpeer)
  have hframe : SameFrame s (LanToLan.delClientFltRule peer i mac s) :=
    sameFrame_delClientFltRule peer i mac
  have hdel := h.delClientFltRule mac (Or.inr hmutual)
  unfold LanToLan.delRulesTowardPeer delOneClientFltRule
  dsimp only
  rw [if_pos hmutual]
  by_cases hflag : flag (props peer).hdrL2Type = false
  · rw [if_pos hflag]
    have hrt := hdel.delClientRtRule peer (by rwa [hframe.macs] : mac ∈ _)
    rw [useOf_of_ne hne] at hrt
    grind
  grind

theorem Ledger.delRules {l : List Nat} (flag : HdrL2Type → Bool)
    (h : Ledger props s H) (hmac : mac ∈ (s.node i).macs)
    (hpeers : ∀ q ∈ l, q ∈ (s.node i).peers) (hmutual : ∀ q ∈ l, i ∈ (s.node q).peers) :
    Ledger props (l.foldl (LanToLan.delRulesTowardPeer props i mac) (flag, s)).2 fun slot =>
      H slot ∧ ∀ q ∈ l, ¬fltOf q i mac slot ∧ ¬(flag (props q).hdrL2Type = false ∧
        rtOf i mac (.inter (props q).hdrL2Type) slot) := by
  induction l generalizing flag s H with
  | nil => exact h.congr fun slot => and_iff_left fun q hq => absurd hq List.not_mem_nil
  | cons peer l ih =>
    have hfirst := h.delRulesTowardPeer flag hmac (hpeers peer List.mem_cons_self)
      (hmutual peer List.mem_cons_self)
    have hframe : SameFrame s (LanToLan.delRulesTowardPeer props i mac (flag, s) peer).2 :=
      sameFrame_delRules i mac [peer] flag s
    have hrest := ih (Function.update flag (props peer).hdrL2Type true) hfirst
      (by rwa [hframe.macs])
      (fun q hq => by rw [hframe.peers]; exact hpeers q (List.mem_cons_of_mem _ hq))
      (fun q hq => by rw [hframe.peers]; exact hmutual q (List.mem_cons_of_mem _ hq))
    refine hrest.congr fun slot => ?_
    rw [and_assoc, List.forall_mem_cons]
    refine and_congr_right fun _ => and_congr_right fun hhead => ?_
    refine forall₂_congr fun q hq => and_congr_right fun _ => not_congr ?_
    rw [Function.update_apply]
    split
    next hty =>
      grind
    next => rfl

theorem Ledger.delInter (h : Ledger props s H) (hmac : mac ∈ (s.node i).macs)
    (hinter : ∀ q ∈ (s.node i).peers, (s.node i).supportInterIfaceOffload = true)
    (hmutual : ∀ q ∈ (s.node i).peers, i ∈ (s.node q).peers) :
    Ledger props (delInterInterfaceRules props i mac s) fun slot =>
      H slot ∧ ∀ q ∈ (s.node i).peers, ¬fltOf q i mac slot ∧
        ¬rtOf i mac (.inter (props q).hdrL2Type) slot := by
  unfold delInterInterfaceRules
  split
  next =>
    have hrules := h.delRules (fun _ => false) hmac (fun _ => id) hmutual
    simpa only [true_and] using hrules
  next hno =>
    exact h.congr fun slot => and_iff_left fun q hq => absurd (hinter q hq) hno

theorem Ledger.delIntra (h : Ledger props s H) (hmac : mac ∈ (s.node i).macs) :
    Ledger props (delIntraInterfaceRules props i mac s) fun slot =>
      H slot ∧ ((s.node i).supportIntraIfaceOffload = true →
        ¬fltOf i i mac slot ∧ ¬rtOf i mac .intra slot) := by
  unfold delIntraInterfaceRules
  split
  next hsupport =>
    have hframe : SameFrame s (LanToLan.delClientFltRule i i mac s) :=
      sameFrame_delClientFltRule i i mac
    have hrt := (h.delClientFltRule mac (Or.inl rfl)).delClientRtRule i
      (by rwa [hframe.macs] : mac ∈ _)
    rw [useOf_self] at hrt
    grind
  next hno => exact h.congr fun slot => and_iff_left fun hs => absurd hs hno

end LanToLan

end DeviceHal.Ipacm
