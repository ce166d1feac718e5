import DeviceHal.Ipacm.BridgeFilters

namespace DeviceHal.Ipacm

open Lib

def BridgeSlot.iface : BridgeSlot → Nat
  | .ctx i _ => i
  | .rt i _ _ _ _ => i
  | .flt i _ _ _ => i

/-- The interface with another handle of a context. -/
def LanToLanIface.setCtxHdl (n : LanToLanIface) (use : CtxUse) (hdl : Nat) : LanToLanIface :=
  match use with
  | .inter hdrType => { n with
      hdrProcCtxForInterInterface := Function.update n.hdrProcCtxForInterInterface hdrType hdl }
  | .intra => { n with hdrProcCtxForIntraInterface := hdl }

theorem LanToLanIface.ctxHdl_setCtxHdl {n : LanToLanIface} {use : CtxUse} {hdl : Nat} :
    (n.setCtxHdl use hdl).ctxHdl = Function.update n.ctxHdl use hdl := by
  funext use'
  cases use with
  | inter hdrType =>
    cases use' with
    | inter hdrType' => simp [setCtxHdl, ctxHdl, Function.update_apply]
    | intra => simp [setCtxHdl, ctxHdl]
  | intra => cases use' <;> simp [setCtxHdl, ctxHdl]

namespace LanToLan

variable {props : Nat → LanProps} {s t : LanToLan} {H H' : BridgeSlot → Prop}

theorem held_congr {slot : BridgeSlot} {g : Nat} (hH : H' slot ↔ H slot)
    (hnode : t.node slot.iface = s.node slot.iface) : Held H' t slot g ↔ Held H s slot g := by
  cases slot with
  | ctx i use =>
    change t.node i = s.node i at hnode
    rw [held_ctx, held_ctx, hH, hnode]
  | rt i mac use iptype position =>
    change t.node i = s.node i at hnode
    rw [held_rt, held_rt, hnode]
  | flt i peer mac iptype =>
    change t.node i = s.node i at hnode
    rw [held_flt, held_flt, hnode]

variable {i : Nat}

variable {f : LanToLanIface → LanToLanIface}

theorem Ledger.modify (h : Ledger props s H)
    (hheld : ∀ slot g, slot.iface = i → (Held H (s.modify i f) slot g ↔ Held H s slot g))
    (hctx : ∀ mac use iptype position, H (.rt i mac use iptype position) →
      (f (s.node i)).ctxHdl use = (s.node i).ctxHdl use)
    (hmacs : (f (s.node i)).macs.Nodup) (hpeers : (f (s.node i)).peers.Nodup)
    (hne : i ∉ (f (s.node i)).peers)
    (hentry : ∀ q info, (f (s.node i)).Entry i q info →
      (info.fltRule.map FltRuleInfo.mac).Nodup ∧
      (∀ e ∈ info.fltRule, ∀ iptype, e.fltRuleHdl iptype ≠ 0 →
        (f (s.node i)).isIpAddrAssigned iptype = true) ∧
      ((q = i → H (.ctx i .intra)) → info.rtTblNameForRt = rtTblOf props i (useOf props i q) ∧
        info.rtTblNameForFlt = fltTblOf props i q)) :
    Ledger props (s.modify i f) H := by
  have hsame : ∀ slot g, Held H (s.modify i f) slot g ↔ Held H s slot g := by
    intro slot g
    by_cases hi : slot.iface = i
    · exact hheld slot g hi
    · exact held_congr Iff.rfl (node_modify_of_ne hi f)
  refine ⟨h.books.congr hsame fun slot g hg => ?_, fun slot => ?_, fun j => ?_, fun j => ?_,
    fun j => ?_, fun j => ?_, fun j => ?_, fun j => ?_⟩
  · cases slot with
    | ctx j use => rfl
    | flt j q mac iptype => rfl
    | rt j mac use iptype position =>
      simp only [object]
      congr 1
      by_cases hj : j = i
      · subst hj
        rw [node_modify_self]
        exact hctx mac use iptype position ((h.has _).mpr ⟨g, hg⟩)
      · rw [node_modify_of_ne hj]
  · exact (h.has slot).trans (exists_congr fun g => (hsame slot g).symm)
  all_goals
    by_cases hj : j = i
    · subst hj
      rw [node_modify_self]
      first
        | exact hmacs
        | exact hpeers
        | exact hne
        | exact fun q info hinfo => (hentry q info hinfo).1
        | exact fun q info hinfo => (hentry q info hinfo).2.1
        | exact fun q info hinfo => (hentry q info hinfo).2.2
    · rw [node_modify_of_ne hj]
      first
        | exact h.macs_nodup j
        | exact h.peers_nodup j
        | exact h.peers_ne j
        | exact h.flt_nodup j
        | exact h.flt_assigned j
        | exact h.names j

theorem Ledger.modify_clients (h : Ledger props s H)
    (hctx : (f (s.node i)).ctxHdl = (s.node i).ctxHdl)
    (hrt : ∀ mac use iptype position g, Held H (s.modify i f) (.rt i mac use iptype position) g ↔
      Held H s (.rt i mac use iptype position) g)
    (hmacs : (f (s.node i)).macs.Nodup)
    (hpeers : (f (s.node i)).peerIfaceInfo = (s.node i).peerIfaceInfo)
    (hintra : (f (s.node i)).intraInterfaceInfo = (s.node i).intraInterfaceInfo)
    (hassigned : ∀ iptype, (s.node i).isIpAddrAssigned iptype = true →
      (f (s.node i)).isIpAddrAssigned iptype = true) : Ledger props (s.modify i f) H := by
  have hentry : (f (s.node i)).Entry i = (s.node i).Entry i := by
    funext q info
    unfold LanToLanIface.Entry
    rw [hpeers, hintra]
  refine h.modify (fun slot g hi => ?_) (fun _ use _ _ _ => congrFun hctx use) hmacs ?_ ?_
    fun q info hinfo => ?_
  · cases slot with
    | ctx j use =>
      obtain rfl : j = i := hi
      rw [held_ctx, held_ctx, node_modify_self, hctx]
    | rt j mac use iptype position =>
      obtain rfl : j = i := hi
      exact hrt mac use iptype position g
    | flt j q mac iptype =>
      obtain rfl : j = i := hi
      rw [held_flt, held_flt, node_modify_self, hentry]
  · unfold LanToLanIface.peers
    rw [hpeers]
    exact h.peers_nodup i
  · unfold LanToLanIface.peers
    rw [hpeers]
    exact h.peers_ne i
  · rw [hentry] at hinfo
    exact ⟨h.flt_nodup i q info hinfo, fun e he iptype hg =>
      hassigned iptype (h.flt_assigned i q info hinfo e he iptype hg), h.names i q info hinfo⟩

theorem Ledger.addRefCnt (h : Ledger props s H) (i : Nat) (hdrType : HdrL2Type) (d : Int) :
    Ledger props (s.addRefCnt i hdrType d) H := by
  refine h.modify_clients ?_ (fun _ _ _ _ _ => ?_) (h.macs_nodup i) rfl rfl fun _ => id
  · funext use
    cases use <;> rfl
  · rw [held_rt, held_rt, node_modify_self]

theorem Ledger.assignIpAddr (h : Ledger props s H) (i : Nat) (iptype : IpaIpType) :
    Ledger props (assignIpAddr i iptype s) H := by
  refine h.modify_clients ?_ (fun _ _ _ _ _ => ?_) (h.macs_nodup i) rfl rfl fun iptype' ha => ?_
  · funext use
    cases use <;> rfl
  · rw [held_rt, held_rt, node_modify_self]
  grind

theorem Ledger.pushClient (h : Ledger props s H) {mac : MacAddr} (hmac : mac ∉ (s.node i).macs) :
    Ledger props (s.modify i fun n =>
      { n with clientInfo := ⟨mac, fun _ _ => [], fun _ => []⟩ :: n.clientInfo }) H := by
  refine h.modify_clients ?_ (fun m use iptype position g => ?_) ?_ rfl rfl fun _ => id
  · funext use
    cases use <;> rfl
  · rw [held_rt, held_rt, node_modify_self]
    simp only [List.mem_cons, exists_eq_or_imp]
    refine or_iff_right ?_
    rintro ⟨-, hg⟩
    cases use <;> cases hg
  · exact List.nodup_cons.mpr ⟨hmac, h.macs_nodup i⟩

theorem Ledger.filterClients (h : Ledger props s H) (keep : MacAddr → Bool)
    (hnone : ∀ mac use iptype position, keep mac = false →
      ¬H (.rt i mac use iptype position)) :
    Ledger props (s.modify i fun n =>
      { n with clientInfo := n.clientInfo.filter fun client => keep client.mac }) H := by
  refine h.modify_clients ?_ (fun m use iptype position g => ?_) ?_ rfl rfl fun _ => id
  · funext use
    cases use <;> rfl
  · rw [held_rt, held_rt, node_modify_self]
    refine exists_congr fun client => ?_
    rw [List.mem_filter, and_assoc]
    refine and_congr_right fun hclient => ⟨And.right, fun hg => ⟨?_, hg⟩⟩
    by_contra hkeep
    refine hnone m use iptype position (hg.1 ▸ by simpa using hkeep) ((h.has _).mpr ⟨g, ?_⟩)
    exact held_rt.mpr ⟨client, hclient, hg⟩
  · exact (h.macs_nodup i).sublist (List.filter_sublist.map _)

theorem Ledger.insertIface (h : Ledger props s H) (iptype : IpaIpType)
    (hnone : ∀ slot, slot.iface = i → ¬H slot) :
    Ledger props (insertIface props i iptype s) H := by
  have hframe : Ledger props (s.modify i fun _ => newIface props i iptype) H := by
    have hentry : ∀ q info, (newIface props i iptype).Entry i q info →
        q = i ∧ info = ⟨0, .intra, .intra, []⟩ := by
      intro q info hinfo
      unfold LanToLanIface.Entry at hinfo
      split at hinfo
      next hq => exact ⟨hq, hinfo⟩
      next hq => exact absurd hinfo.1 List.not_mem_nil
    refine h.modify (fun slot g hi => ?_) (fun mac use iptype' position hH => ?_) List.nodup_nil
      List.nodup_nil List.not_mem_nil fun q info hinfo => ?_
    · refine iff_of_false (fun hg => ?_) fun hg => hnone slot hi ((h.has slot).mpr ⟨g, hg⟩)
      cases slot with
      | ctx j use => exact hnone _ hi hg.1
      | rt j mac use iptype' position =>
        obtain rfl : j = i := hi
        rw [held_rt, node_modify_self] at hg
        obtain ⟨client, hclient, -⟩ := hg
        exact absurd hclient List.not_mem_nil
      | flt j q mac iptype' =>
        obtain rfl : j = i := hi
        grind [held_flt, node_modify_self]
    · exact absurd hH (hnone _ rfl)
    · obtain ⟨rfl, rfl⟩ := hentry q info hinfo
      refine ⟨List.nodup_nil, fun e he => absurd he List.not_mem_nil, fun _ => ⟨?_, ?_⟩⟩
      · funext iptype'
        simp only [useOf, if_pos, rtTblOf]
      · funext iptype'
        simp only [fltTblOf, if_pos]
  exact ⟨hframe.books, hframe.has, hframe.macs_nodup, hframe.peers_nodup, hframe.peers_ne,
    hframe.flt_nodup, hframe.flt_assigned, hframe.names⟩

theorem Ledger.filterPeers (h : Ledger props s H) (keep : Nat → Bool)
    (hnone : ∀ q mac iptype, keep q = false → q ≠ i → ¬H (.flt i q mac iptype)) :
    Ledger props (s.modify i fun n =>
      { n with peerIfaceInfo := n.peerIfaceInfo.filter fun info => keep info.peer }) H := by
  have hentry : ∀ q info, LanToLanIface.Entry { s.node i with
      peerIfaceInfo := (s.node i).peerIfaceInfo.filter fun info => keep info.peer } i q info ↔
      (s.node i).Entry i q info ∧ (q ≠ i → keep q = true) := by
    intro q info
    unfold LanToLanIface.Entry
    split
    next hq => exact (and_iff_left fun hne => absurd hq hne).symm
    next hq =>
      grind
  refine h.modify (fun slot g hi => ?_) (fun mac use iptype position _ => ?_) (h.macs_nodup i)
    ((h.peers_nodup i).sublist (List.filter_sublist.map _))
    (fun hmem => h.peers_ne i ((List.filter_sublist.map _).subset hmem)) fun q info hinfo => ?_
  · cases slot with
    | ctx j use =>
      obtain rfl : j = i := hi
      rw [held_ctx, held_ctx, node_modify_self]
      cases use <;> rfl
    | rt j mac use iptype position =>
      obtain rfl : j = i := hi
      rw [held_rt, held_rt, node_modify_self]
    | flt j q mac iptype =>
      obtain rfl : j = i := hi
      rw [held_flt, held_flt, node_modify_self]
      refine exists_congr fun info => ?_
      rw [hentry, and_assoc]
      refine and_congr_right fun hinfo => and_iff_right_of_imp fun hg hne => ?_
      by_contra hkeep
      exact hnone q mac iptype (by simpa using hkeep) hne ((h.has _).mpr ⟨g, info, hinfo, hg⟩)
  · cases use <;> rfl
  · have hinfo' := ((hentry q info).mp hinfo).1
    exact ⟨h.flt_nodup i q info hinfo', h.flt_assigned i q info hinfo', h.names i q info hinfo'⟩

theorem Ledger.pushPeer (h : Ledger props s H) {i peer : Nat} (hne : peer ≠ i)
    (hpeer : peer ∉ (s.node i).peers) (info : PeerIfaceInfo) (hinfo : info.peer = peer)
    (hflt : info.fltRule = [])
    (hnames : info.rtTblNameForRt = rtTblOf props i (useOf props i peer) ∧
      info.rtTblNameForFlt = fltTblOf props i peer) :
    Ledger props (s.modify i fun n => { n with peerIfaceInfo := info :: n.peerIfaceInfo }) H := by
  have hentry : ∀ q info', LanToLanIface.Entry { s.node i with
      peerIfaceInfo := info :: (s.node i).peerIfaceInfo } i q info' ↔
      (s.node i).Entry i q info' ∨ q = peer ∧ info' = info := by
    intro q info'
    unfold LanToLanIface.Entry
    split
    next hq =>
      grind
    next hq =>
      grind
  refine h.modify (fun slot g hi => ?_) (fun mac use iptype position _ => ?_) (h.macs_nodup i)
    (List.nodup_cons.mpr ⟨?_, h.peers_nodup i⟩)
    (fun hmem => (List.mem_cons.mp hmem).elim (fun he => hne (hinfo.symm.trans he.symm))
      (h.peers_ne i)) fun q info' hinfo' => ?_
  · cases slot with
    | ctx j use =>
      obtain rfl : j = i := hi
      rw [held_ctx, held_ctx, node_modify_self]
      cases use <;> rfl
    | rt j mac use iptype position =>
      obtain rfl : j = i := hi
      rw [held_rt, held_rt, node_modify_self]
    | flt j q mac iptype =>
      obtain rfl : j = i := hi
      rw [held_flt, held_flt, node_modify_self]
      constructor
      · grind
      grind
  · cases use <;> rfl
  · rw [hinfo]
    exact hpeer
  · rcases (hentry q info').mp hinfo' with hold | ⟨rfl, rfl⟩
    · exact ⟨h.flt_nodup i q info' hold, h.flt_assigned i q info' hold, h.names i q info' hold⟩
    grind

theorem Ledger.addCtx (h : Ledger props s H) {use : CtxUse} (hctx : ¬H (.ctx i use))
    (hrt : ∀ mac iptype position, ¬H (.rt i mac use iptype position))
    (hnames : use = .intra → (s.node i).intraInterfaceInfo.rtTblNameForRt = rtTblOf props i .intra ∧
      (s.node i).intraInterfaceInfo.rtTblNameForFlt = fltTblOf props i i) :
    Ledger props ({ s with driver := (s.driver.add (.hdrProcCtx i use)).2 }.modify i fun n =>
        n.setCtxHdl use s.driver.next) fun slot => H slot ∨ slot = .ctx i use := by
  have hnode : ∀ j, ∃ hdl : CtxUse → Nat,
      ({ s with driver := (s.driver.add (.hdrProcCtx i use)).2 }.modify i fun n =>
        n.setCtxHdl use s.driver.next).node j = (s.node j).setCtxHdl use (hdl use) := by
    intro j
    by_cases hj : j = i
    · subst hj
      exact ⟨fun _ => s.driver.next, node_modify_self ..⟩
    · refine ⟨(s.node j).ctxHdl, (node_modify_of_ne hj _).trans ?_⟩
      cases use with
      | inter hdrType => simp [LanToLanIface.setCtxHdl, LanToLanIface.ctxHdl]
      | intra => simp [LanToLanIface.setCtxHdl, LanToLanIface.ctxHdl]
  have hself : ∀ use', (({ s with driver := (s.driver.add (.hdrProcCtx i use)).2 }.modify i fun n =>
      n.setCtxHdl use s.driver.next).node i).ctxHdl use' =
      if use' = use then s.driver.next else (s.node i).ctxHdl use' := by
    intro use'
    rw [node_modify_self, LanToLanIface.ctxHdl_setCtxHdl, Function.update_apply]
  have hclients : ∀ (n : LanToLanIface) hdl, (n.setCtxHdl use hdl).clientInfo = n.clientInfo := by
    intro n hdl
    cases use <;> rfl
  have hentries : ∀ (n : LanToLanIface) hdl, (n.setCtxHdl use hdl).Entry = n.Entry := by
    intro n hdl
    cases use <;> rfl
  have hheld : ∀ slot g, Held (fun slot => H slot ∨ slot = .ctx i use)
      ({ s with driver := (s.driver.add (.hdrProcCtx i use)).2 }.modify i fun n =>
        n.setCtxHdl use s.driver.next) slot g ↔
      Held H s slot g ∨ slot = .ctx i use ∧ g = s.driver.next := by
    intro slot g
    cases slot with
    | ctx j use' =>
      rw [held_ctx, held_ctx]
      by_cases hkey : j = i ∧ use' = use
      · grind
      · have hne : BridgeSlot.ctx j use' ≠ .ctx i use := fun heq => by
          cases heq
          exact hkey ⟨rfl, rfl⟩
        simp only [hne, or_false, false_and]
        refine and_congr_right fun _ => ?_
        by_cases hj : j = i
        · grind
        · rw [node_modify_of_ne hj]
    | rt j mac use' iptype position =>
      obtain ⟨hdl, hj⟩ := hnode j
      rw [held_rt, held_rt, hj, hclients]
      simp only [reduceCtorEq, false_and, or_false]
    | flt j q mac iptype =>
      obtain ⟨hdl, hj⟩ := hnode j
      rw [held_flt, held_flt, hj, hentries]
      simp only [reduceCtorEq, false_and, or_false]
  refine ⟨(h.books.add (.ctx i use)).congr hheld fun slot g hg => ?_, fun slot => ?_,
    fun j => ?_, fun j => ?_, fun j => ?_, fun j q info hinfo => ?_, fun j q info hinfo => ?_,
    fun j q info hinfo hq => ?_⟩
  · cases slot with
    | ctx j use' => rfl
    | flt j q mac iptype => rfl
    | rt j mac use' iptype position =>
      simp only [object]
      congr 1
      by_cases hj : j = i
      · subst hj
        rw [hself]
        refine if_neg fun hu => ?_
        have hold := hg.resolve_right fun heq => by cases heq.1
        exact hrt mac iptype position (hu ▸ (h.has _).mpr ⟨g, hold⟩)
      · rw [node_modify_of_ne hj]
  · rw [exists_congr (hheld slot), exists_or]
    exact or_congr (h.has slot) ⟨fun heq => ⟨_, heq, rfl⟩, fun hex => hex.elim fun _ heq => heq.1⟩
  all_goals obtain ⟨hdl, hj⟩ := hnode j
  · rw [hj, LanToLanIface.macs, hclients]
    exact h.macs_nodup j
  · rw [hj]
    cases use <;> exact h.peers_nodup j
  · rw [hj]
    cases use <;> exact h.peers_ne j
  all_goals rw [hj, hentries] at hinfo
  · exact h.flt_nodup j q info hinfo
  · rw [hj]
    cases use <;> exact h.flt_assigned j q info hinfo
  · by_cases hown : q = j ∧ j = i ∧ use = .intra
    · grind [LanToLanIface.Entry, useOf]
    · refine h.names j q info hinfo fun he => (hq he).resolve_right fun heq => ?_
      cases heq
      exact hown ⟨he, rfl, rfl⟩

theorem Ledger.delCtx (h : Ledger props s H) (use : CtxUse) (hctx : H (.ctx i use)) :
    Ledger props { s with driver := s.driver.del ((s.node i).ctxHdl use) }
      fun slot => H slot ∧ slot ≠ .ctx i use := by
  have hheld : ∀ slot g, Held (fun slot => H slot ∧ slot ≠ .ctx i use)
      { s with driver := s.driver.del ((s.node i).ctxHdl use) } slot g ↔
      Held H s slot g ∧ slot ≠ .ctx i use := by
    intro slot g
    cases slot with
    | ctx j use' => exact and_right_comm
    | rt j mac use' iptype position => exact (and_iff_left nofun).symm
    | flt j q mac iptype => exact (and_iff_left nofun).symm
  have hdel := h.books.delAll object_injective [(s.node i).ctxHdl use]
    (fun slot => slot = .ctx i use) ?_ ?_
  · refine ⟨hdel.congr hheld fun _ _ _ => rfl, fun slot => ?_, h.macs_nodup, h.peers_nodup,
      h.peers_ne, h.flt_nodup, h.flt_assigned, fun j q info hinfo hq => ?_⟩
    · rw [exists_congr (hheld slot), exists_and_right]
      exact and_congr_left' (h.has slot)
    · exact h.names j q info hinfo fun he => (hq he).1
  · rintro _ g rfl ⟨-, rfl⟩
    exact List.mem_singleton_self _
  · intro g hg
    rw [List.mem_singleton.mp hg]
    exact Or.inr ⟨_, rfl, hctx, rfl⟩

theorem Ledger.addHdrProcCtx (h : Ledger props s H) (hdrType : HdrL2Type)
    (hnone : (s.node i).refCntPeerL2HdrType hdrType = 1 → ¬H (.ctx i (.inter hdrType)) ∧
      ∀ mac iptype position, ¬H (.rt i mac (.inter hdrType) iptype position)) :
    Ledger props (addHdrProcCtx i hdrType s) fun slot => H slot ∨
      (s.node i).refCntPeerL2HdrType hdrType = 1 ∧ slot = .ctx i (.inter hdrType) := by
  unfold LanToLan.addHdrProcCtx
  split
  next hone =>
    simp only [hone, true_and]
    exact h.addCtx (hnone hone).1 (hnone hone).2 nofun
  next hone =>
    simp only [hone, false_and, or_false]
    exact h

theorem Ledger.delHdrProcCtx (h : Ledger props s H) (hdrType : HdrL2Type)
    (hctx : (s.node i).refCntPeerL2HdrType hdrType = 0 → H (.ctx i (.inter hdrType))) :
    Ledger props (delHdrProcCtx i hdrType s) fun slot => H slot ∧
      ¬((s.node i).refCntPeerL2HdrType hdrType = 0 ∧ slot = .ctx i (.inter hdrType)) := by
  unfold LanToLan.delHdrProcCtx
  split
  next hzero =>
    simp only [hzero, true_and]
    exact h.delCtx _ (hctx hzero)
  next hzero =>
    simp only [hzero, false_and, not_false_iff, and_true]
    exact h

theorem Ledger.handleIntraInterfaceInfo (h : Ledger props s H)
    (hctx : ¬H (.ctx i .intra)) (hrt : ∀ mac iptype position, ¬H (.rt i mac .intra iptype position)) :
    Ledger props (handleIntraInterfaceInfo i s) fun slot => H slot ∨ slot = .ctx i .intra := by
  have hnames : Ledger props (s.modify i fun n => { n with intraInterfaceInfo :=
      { n.intraInterfaceInfo with peer := i, rtTblNameForFlt := .intra, rtTblNameForRt := .intra } })
      H := by
    have hentry : ∀ q info, LanToLanIface.Entry { s.node i with intraInterfaceInfo :=
        { (s.node i).intraInterfaceInfo with
          peer := i, rtTblNameForFlt := .intra, rtTblNameForRt := .intra } } i q info →
        ∃ info', (s.node i).Entry i q info' ∧ info.fltRule = info'.fltRule ∧
          (info = info' ∧ q ≠ i ∨
            info.rtTblNameForRt = .intra ∧ info.rtTblNameForFlt = .intra ∧ q = i) := by
      intro q info hinfo
      unfold LanToLanIface.Entry at hinfo ⊢
      split at hinfo
      next hq =>
        grind
      next hq =>
        grind
    refine h.modify (fun slot g hi => ?_) (fun mac use iptype position _ => ?_) (h.macs_nodup i)
      (h.peers_nodup i) (h.peers_ne i) fun q info hinfo => ?_
    · cases slot with
      | ctx j use =>
        obtain rfl : j = i := hi
        rw [held_ctx, held_ctx, node_modify_self]
        cases use <;> rfl
      | rt j mac use iptype position =>
        obtain rfl : j = i := hi
        rw [held_rt, held_rt, node_modify_self]
      | flt j q mac iptype =>
        obtain rfl : j = i := hi
        rw [held_flt, held_flt, node_modify_self]
        unfold LanToLanIface.Entry
        by_cases hq : q = j
        · simp only [hq, if_true, exists_eq_left]
        · simp only [hq, if_false]
    · cases use <;> rfl
    · obtain ⟨info', hinfo', hflt, hcase⟩ := hentry q info hinfo
      rw [hflt]
      refine ⟨h.flt_nodup i q info' hinfo', h.flt_assigned i q info' hinfo', fun hq => ?_⟩
      rcases hcase with ⟨rfl, -⟩ | ⟨hr, hf, rfl⟩
      · exact h.names i q info hinfo' hq
      grind
  have hadd := hnames.addCtx (i := i) hctx hrt fun _ => ?_
  · have hsame : LanToLan.handleIntraInterfaceInfo i s = ({ s.modify i fun n =>
        { n with intraInterfaceInfo := { n.intraInterfaceInfo with
          peer := i, rtTblNameForFlt := .intra, rtTblNameForRt := .intra } } with
        driver := (s.driver.add (.hdrProcCtx i .intra)).2 }.modify i fun n =>
          n.setCtxHdl .intra s.driver.next) := by
      simp only [LanToLan.handleIntraInterfaceInfo, LanToLan.modify, Function.update_idem,
        Function.update_self]
      rfl
    rw [hsame]
    exact hadd
  · rw [node_modify_self]
    refine ⟨rfl, ?_⟩
    funext iptype
    rw [fltTblOf, if_pos rfl]

end LanToLan

end DeviceHal.Ipacm
