import DeviceHal.IpaNat.Hitless

namespace DeviceHal.IpaNat

open Lib

variable {env : NatEnv} {s : NatSys} {dst src dst' src' : Nat → List Nat} {l : LiveRule}

/-- The links of the rules before the command for the deleted rule `e`. -/
def RulesOld (c t : Ip4TableCache) : Prop :=
  ∀ k, (t.rules k).nextIndex = (c.rules k).nextIndex

/-- The links of the rules after it. A deleted cell is off the chains and may hold anything. -/
def RulesNew (c : Ip4TableCache) (e : Nat) (t : Ip4TableCache) : Prop :=
  ∀ k, k ≠ e ∨ e < c.tableEntries → (t.rules k).nextIndex = (ruleAfter c e k).nextIndex

/-- The index tables before the last of the commands for the index entry `x`. -/
def IndxOld (c : Ip4TableCache) (x : Nat) (t : Ip4TableCache) : Prop :=
  ∀ k, (t.indx k).nextIndex = (c.indx k).nextIndex ∧
    (k ≠ x → (t.indx k).tblEntry = (c.indx k).tblEntry)

/-- The index tables after them. A freed cell may hold anything. -/
def IndxNew (c : Ip4TableCache) (x : Nat) (t : Ip4TableCache) : Prop :=
  ∀ k, (k ≠ freedIndx c x ∨ k < c.tableEntries →
      (t.indx k).nextIndex = (indxAfter c x k).nextIndex) ∧
    (k ≠ freedIndx c x → (t.indx k).tblEntry = (indxAfter c x k).tblEntry)

/-- The tables at some point of the delete of the rule in slot `e`. -/
structure MidDelete (c : Ip4TableCache) (e : Nat) (t : Ip4TableCache) : Prop where
  base : t.tableEntries = c.tableEntries
  rules : RulesOld c t ∨ RulesNew c e t
  indx : IndxOld c (c.rules e).indxTblEntry t ∨ IndxNew c (c.rules e).indxTblEntry t

/-- The tables once all links around the deleted rule and index entry are made. -/
structure Unlinked (c : Ip4TableCache) (e : Nat) (t : Ip4TableCache) : Prop where
  base : t.tableEntries = c.tableEntries
  rules : RulesNew c e t
  indx : IndxNew c (c.rules e).indxTblEntry t

variable {c t : Ip4TableCache} {e : Nat}

theorem Unlinked.mid (h : Unlinked c e t) : MidDelete c e t :=
  ⟨h.base, Or.inr h.rules, Or.inr h.indx⟩

theorem retired_next (c : Ip4TableCache) (e k : Nat) :
    ((retired c e).rules k).nextIndex = (ruleAfter c e k).nextIndex := by
  rw [retired_rules]
  split
  next hd => exact ((isDeadHead_iff _).mp hd.2).2.symm
  next => rfl

theorem TableInv.midDelete_shows (inv : TableInv env s dst src) (hl : l ∈ s.live)
    {ids : Nat → Nat} {cnt expnCnt : Nat}
    (inv' : TableInv env ⟨(IpaNat.retired s.cache l.slot).withIds ids cnt expnCnt,
      s.live.filter fun k => k.hdl ≠ l.hdl⟩ dst' src')
    {t : Ip4TableCache} (mid : MidDelete s.cache l.slot t) {k : LiveRule} (hk : k ∈ s.live)
    (hne : k.hdl ≠ l.hdl) : Shows env t k := by
  have hd := (dstBucket_bound env inv.dims.baseLow inv.dims.baseHigh k.rule).2
  have hs := (srcBucket_bound inv.dims.baseLow inv.dims.baseHigh k.rule).2
  have hk' : k ∈ s.live.filter fun k => k.hdl ≠ l.hdl := by
    simpa using ⟨hk, hne⟩
  unfold Shows
  rw [mid.base]
  constructor
  · rcases mid.rules with old | new
    · have chains := inv.ruleChains.toChains.congr fun e _ => old e
      exact (chains.linked _ hd).reaches.mpr (List.mem_cons.mp (inv.onDst k hk))
    · have chains := inv'.ruleChains.toChains
      have off : ∀ h, h < s.cache.tableEntries → l.slot ∈ dst' h → l.slot < s.cache.tableEntries := by
        intro h hh hm
        have hon := inv'.ruleChains.cell_used hh hm
        change ((IpaNat.retired s.cache l.slot).rules l.slot).enable = true at hon
        rw [retired_rules] at hon
        split at hon
        next hdead => exact hdead.1
        next =>
          rcases ruleAfter_self s.cache l.slot with ⟨hlt, -, -⟩ | ⟨-, hself⟩
          · exact hlt
          · rw [hself] at hon
            exact Bool.noConfusion hon
      have chains' : Chains 0 (· < s.cache.tableEntries) (IsExpn s.cache)
          (fun e => (t.rules e).nextIndex) dst' := chains.congr fun e he => by
        refine (new e ?_).trans (retired_next s.cache l.slot e).symm
        by_cases hel : e = l.slot
        · rcases he with hb | ⟨h, hh, hm⟩
          · exact Or.inr (hel ▸ hb)
          · exact Or.inr (off h hh (hel ▸ hm))
        · exact Or.inl hel
      exact (chains'.linked _ hd).reaches.mpr (List.mem_cons.mp (inv'.onDst k hk'))
  · rcases mid.indx with old | new
    · have chains := inv.indxChains.toChains.congr fun x _ => (old x).1
      refine ⟨_, (chains.linked _ hs).reaches.mpr (List.mem_cons.mp (inv.onSrc k hk)), ?_⟩
      rw [(old _).2 fun he => hne (congrArg LiveRule.hdl (inv.eq_of_indx hk hl he))]
      exact inv.points k hk
    · have chains := inv'.indxChains.toChains
      have used : ∀ x, (indxAfter s.cache (s.cache.rules l.slot).indxTblEntry x).tblEntry ≠ 0 →
          x ≠ freedIndx s.cache (s.cache.rules l.slot).indxTblEntry := by
        rintro x hx rfl
        rw [indxAfter_freed] at hx
        exact hx rfl
      have chains' : Chains 0 (· < s.cache.tableEntries) (IsExpn s.cache)
          (fun x => (t.indx x).nextIndex) src' := chains.congr fun x hx => by
        refine (new x).1 ?_
        rcases hx with hb | ⟨h, hh, hm⟩
        · exact Or.inr hb
        · exact Or.inl (used x (inv'.indxChains.cell_used hh hm))
      refine ⟨_, (chains'.linked _ hs).reaches.mpr (List.mem_cons.mp (inv'.onSrc k hk')), ?_⟩
      rw [(new _).2 (used _ (inv'.points_ne hk'))]
      exact inv'.points k hk'

theorem MidDelete.quiet {c t u : Ip4TableCache} (h : MidDelete c e t)
    (hN : u.tableEntries = t.tableEntries) (hr : ∀ k, (u.rules k).nextIndex = (t.rules k).nextIndex)
    (hi : u.indx = t.indx) : MidDelete c e u := by
  refine ⟨hN.trans h.base, h.rules.imp (fun old k => (hr k).trans (old k))
    (fun new k hk => (hr k).trans (new k hk)), ?_⟩
  unfold IndxOld IndxNew
  rw [hi]
  exact h.indx

theorem Unlinked.quiet {c t u : Ip4TableCache} (h : Unlinked c e t)
    (hN : u.tableEntries = t.tableEntries) (hr : ∀ k, (u.rules k).nextIndex = (t.rules k).nextIndex)
    (hi : u.indx = t.indx) : Unlinked c e u := by
  refine ⟨hN.trans h.base, fun k hk => (hr k).trans (h.rules k hk), ?_⟩
  unfold IndxNew
  rw [hi]
  exact h.indx

theorem Unlinked.clearRule (h : Unlinked c e t)
    (he : e < c.tableEntries → (c.rules e).nextIndex = 0) : Unlinked c e (t.setRule e {}) := by
  refine ⟨h.base, fun k hk => ?_, h.indx⟩
  by_cases hke : k = e
  · have hlt : e < c.tableEntries := hk.resolve_left fun hne => hne hke
    rw [hke]
    simp only [Ip4TableCache.setRule, Function.update_self]
    rcases ruleAfter_self c e with ⟨-, hn, -⟩ | ⟨-, hself⟩
    · exact absurd (he hlt) hn
    · rw [hself]
  · simp only [Ip4TableCache.setRule, Function.update_of_ne hke]
    exact h.rules k hk

theorem Unlinked.clearIndx {e x : Nat} (h : Unlinked c e t)
    (hx : x = freedIndx c (c.rules e).indxTblEntry) : Unlinked c e (t.setIndx x {}) := by
  refine ⟨h.base, h.rules, fun k => ⟨fun hk => ?_, fun hk => ?_⟩⟩
  · by_cases hkx : k = x
    · rw [hkx, hx, indxAfter_freed]
      simp only [Ip4TableCache.setIndx, Function.update_self]
    · simp only [Ip4TableCache.setIndx, Function.update_of_ne hkx]
      exact (h.indx k).1 hk
  · have hkx : k ≠ x := hx ▸ hk
    simp only [Ip4TableCache.setIndx, Function.update_of_ne hkx]
    exact (h.indx k).2 hk

/-- All links are made, and at every store before the tables were in the middle of the delete. -/
def UnlinkedLog (c : Ip4TableCache) (e : Nat) (m : NatMem) : Prop :=
  LogAll (MidDelete c e) m ∧ Unlinked c e m.cache

variable {c : Ip4TableCache}

theorem UnlinkedLog.store {m : NatMem} {f : Ip4TableCache → Ip4TableCache} (h : UnlinkedLog c e m)
    (hf : Unlinked c e m.cache → Unlinked c e (f m.cache)) : UnlinkedLog c e (m.store f) :=
  ⟨h.1.store (hf h.2).mid, hf h.2⟩

theorem UnlinkedLog.finishRuleDel {m : NatMem} {pos : DelType} (h : UnlinkedLog c e m)
    (hpos : pos ≠ .head → e < c.tableEntries → (c.rules e).nextIndex = 0) :
    UnlinkedLog c e (finishRuleDel m e pos) := by
  unfold IpaNat.finishRuleDel
  dsimp only
  have hmid : UnlinkedLog c e (if pos = .middle then m.store (setPrevIndex
      (m.cache.tableEntries + sub16 (m.cache.rules e).nextIndex m.cache.tableEntries)
      (m.cache.rules e).prevIndex) else m) := by
    split
    next => exact h.store fun hu => hu.quiet rfl (setRule_next rfl) rfl
    next => exact h
  generalize (if pos = .middle then _ else m) = m' at hmid ⊢
  split
  next hne => exact hmid.store fun hu => hu.clearRule (hpos hne)
  next => exact hmid

theorem UnlinkedLog.finishIndx {e y : Nat} {m : NatMem} {pos : DelType} (h : UnlinkedLog c e m)
    (hhead : pos = .head → y = freedIndx c (c.rules e).indxTblEntry)
    (hother : pos ≠ .head → (c.rules e).indxTblEntry = freedIndx c (c.rules e).indxTblEntry) :
    UnlinkedLog c e (finishIndx m (c.rules e).indxTblEntry y pos) := by
  unfold IpaNat.finishIndx
  split
  next hp =>
    unfold finishIndxHeadDel
    dsimp only
    have hmeta : UnlinkedLog c e (if (m.cache.indx y).nextIndex ≠ 0 ∧
        (m.cache.indx y).nextIndex ≥ m.cache.tableEntries then m.store fun t =>
          t.setMeta ((m.cache.indx y).nextIndex - m.cache.tableEntries)
            (c.rules e).indxTblEntry else m) := by
      split
      next => exact h.store fun hu => hu.quiet rfl (fun _ => rfl) rfl
      next => exact h
    refine (hmeta.store fun hu => hu.clearIndx (hhead hp)).store fun hu => ?_
    exact hu.quiet rfl (setRule_next rfl) rfl
  next hp =>
    unfold finishIndxDel
    dsimp only
    split
    next =>
      refine ((h.store fun hu => ?_).store fun hu => ?_).store fun hu => hu.clearIndx (hother hp)
      · exact hu.quiet rfl (fun _ => rfl) rfl
      · exact hu.quiet rfl (fun _ => rfl) rfl
    next => exact h.store fun hu => hu.clearIndx (hother hp)

theorem indxCmds_log {x : Nat} (hx : InTable c x)
    (hy : MovesUp c x → c.tableEntries < (c.indx x).nextIndex ∧ (c.indx x).nextIndex < 2 ^ 16) :
    LogAll (fun t => t.tableEntries = c.tableEntries ∧ t.rules = c.rules ∧
      (IndxOld c x t ∨ IndxNew c x t))
      (ioctlNatDma true ⟨c, []⟩ (indxDelCmds c x (ipaNatiFindIndexRulePos c x))).2 ∧
    IndxNew c x
      (ioctlNatDma true ⟨c, []⟩ (indxDelCmds c x (ipaNatiFindIndexRulePos c x))).2.cache := by
  rcases findIndexRulePos_cases hx with ⟨hlt, hn, hpos⟩ | ⟨hm, hpos⟩ | ⟨hlt, -⟩
  · have hmove : ¬MovesUp c x := fun h => h.2 hn
    have hcell : ¬c.tableEntries < x := by omega
    have new : IndxNew c x (c.pointIndx x 0) := by
      intro k
      unfold indxAfter freedIndx
      rw [if_neg hmove, if_neg hmove, pointIndx_indx]
      by_cases hk : k = x
      · grind
      · grind
    rw [hpos, indxDelCmds_onlyOne]
    exact ⟨(LogAll.nil _ _).store ⟨rfl, rfl, Or.inr new⟩, new⟩
  · obtain ⟨hge, hmax⟩ := hy hm
    have old : IndxOld c x (c.pointIndx x (c.indx (c.indx x).nextIndex).tblEntry) := by
      intro k
      rw [pointIndx_indx]
      by_cases hk : k = x
      · rw [if_pos hk]
        exact ⟨rfl, fun hne => absurd hk hne⟩
      · rw [if_neg hk]
        exact ⟨rfl, fun _ => rfl⟩
    have new : IndxNew c x ((c.pointIndx x (c.indx (c.indx x).nextIndex).tblEntry).linkIndx x
        (c.indx (c.indx x).nextIndex).nextIndex) := by
      intro k
      unfold indxAfter freedIndx
      rw [if_pos hm, if_pos hm, linkIndx_indx, pointIndx_indx]
      by_cases hky : k = (c.indx x).nextIndex
      · omega
      · grind
    rw [hpos, indxDelCmds_head _ _ hge.le hmax]
    exact ⟨((LogAll.nil _ _).store ⟨rfl, rfl, Or.inl old⟩).store ⟨rfl, rfl, Or.inr new⟩, new⟩
  · have hmove : ¬MovesUp c x := fun h => isExpn_not_base x h.1 hlt
    have new : IndxNew c x (c.linkIndx (c.indexExpnTableMeta (x - c.tableEntries))
        (c.indx x).nextIndex) := by
      intro k
      unfold indxAfter freedIndx
      rw [if_neg hmove, if_neg hmove, linkIndx_indx]
      by_cases hk : k = x
      · refine ⟨fun h => ?_, fun hne => absurd hk hne⟩
        rcases h with hne | hbase
        · exact absurd hk hne
        · exact absurd hlt (isExpn_not_base x (hk ▸ hbase))
      · rw [if_neg hk]
        by_cases hp : k = c.indexExpnTableMeta (x - c.tableEntries)
        · rw [if_pos hp, if_pos ⟨hlt.1, hp⟩]
          exact ⟨fun _ => rfl, fun _ => rfl⟩
        grind
    rw [indxDelCmds_cell ⟨c, []⟩ rfl hlt.1.le]
    exact ⟨(LogAll.nil _ _).store ⟨rfl, rfl, Or.inr new⟩, new⟩

theorem ruleDelCmd_self (hr : t.rules = c.rules) :
    ((t.dmaWrite (ruleDelCmd c (c.rules e) e (ipaNatiFindRulePos c false e))).rules e).nextIndex =
      (c.rules e).nextIndex := by
  unfold ipaNatiFindRulePos
  simp only [Bool.false_eq_true, ↓reduceIte]
  split
  next =>
    simp only [ruleDelCmd]
    rw [dmaWrite_base _ _ _ _ (by decide)]
    simp [Ip4TableCache.setRule, hr]
  next =>
    simp only [ruleDelCmd]
    rw [dmaWrite_base _ _ _ _ (by decide)]
    simp [Ip4TableCache.setRule, hr]

theorem ruleDelCmd_rulesNew (ht : t.tableEntries = c.tableEntries)
    (hr : t.rules = c.rules) {expn : Bool} {e entry : Nat}
    (hb : expn = true ↔ c.tableEntries ≤ e) (he : tblStart c expn + entry = e)
    (hN : e ≠ c.tableEntries) :
    RulesNew c e (t.dmaWrite (ruleDelCmd c (c.rules e) entry
      (ipaNatiFindRulePos c expn entry))) := by
  intro k hk
  by_cases hke : k = e
  · have hlt : e < c.tableEntries := hk.resolve_left fun hne => hne hke
    have hfalse : expn = false := by
      cases expn with
      | true => exact absurd (hb.mp rfl) (by omega)
      | false => rfl
    subst hfalse
    have hee : entry = e := by simpa [tblStart] using he
    rw [hke, hee, ruleDelCmd_self hr]
    rcases ruleAfter_self c e with ⟨-, -, hself⟩ | ⟨hno, hself⟩
    · rw [hself]
    · rw [hself]
      by_contra hne
      exact hno ⟨hlt, hne⟩
  · have hb' : expn = true ↔ c.tableEntries < tblStart c expn + entry := by
      rw [hb, he]
      omega
    have hnext := ruleDelCmd_next ht hr hb' (he.symm ▸ hke)
    rw [he] at hnext
    rw [hnext, (ruleAfter_other c hke).2.2]

theorem TableInv.del_mid (inv : TableInv env s dst src) (hl : l ∈ s.live) {expn : Bool}
    {entry : Nat} (hb : expn = true ↔ s.cache.tableEntries ≤ l.slot)
    (hs : tblStart s.cache expn + entry = l.slot) (i : Nat) :
    LogAll (MidDelete s.cache l.slot) ((ipaNatiDelDeadIpv4HeadNodes (dropRule ⟨s.cache, []⟩ l.slot
      entry (ipaNatiFindRulePos s.cache expn entry))).store fun c => c.setRuleId i 0) := by
  have hvalid := inv.slot l hl
  have hx := inv.indx_inTable hl
  have hy : MovesUp s.cache (s.cache.rules l.slot).indxTblEntry →
      s.cache.tableEntries < (s.cache.indx (s.cache.rules l.slot).indxTblEntry).nextIndex ∧
        (s.cache.indx (s.cache.rules l.slot).indxTblEntry).nextIndex < 2 ^ 16 := fun hm => by
    obtain ⟨k, -, -, -, -, hcell⟩ := inv.movesUp hl hm
    exact (inv.indxChains.isCell _ hm.1 _ hcell).lt inv.dims
  have hi := indxDelCmds_isIndx s.cache (s.cache.rules l.slot).indxTblEntry
    (ipaNatiFindIndexRulePos s.cache (s.cache.rules l.slot).indxTblEntry)
  have hrules := indxCmds_rules ⟨s.cache, []⟩ hi
  have hlinks : LinksOnly (fun _ => False) s.cache (ioctlNatDma true ⟨s.cache, []⟩ _).2.cache :=
    LinksOnly.indxCmds ⟨s.cache, []⟩ hi
  obtain ⟨hlog, hnew⟩ := indxCmds_log hx hy
  have hmid : UnlinkedLog s.cache l.slot (dropRule ⟨s.cache, []⟩ l.slot entry
      (ipaNatiFindRulePos s.cache expn entry)) := by
    unfold dropRule
    dsimp only
    generalize (ioctlNatDma true ⟨s.cache, []⟩ _).2 = u at hlog hnew hrules hlinks ⊢
    obtain ⟨gi, -, gN⟩ := ruleCmd_indx u.cache (ruleDelCmd_isIndx s.cache (s.cache.rules l.slot)
      entry (ipaNatiFindRulePos s.cache expn entry))
    have hun : Unlinked s.cache l.slot (u.cache.dmaWrite (ruleDelCmd s.cache
        (s.cache.rules l.slot) entry (ipaNatiFindRulePos s.cache expn entry))) := by
      refine ⟨gN.trans hlinks.base, ?_, ?_⟩
      · refine ruleDelCmd_rulesNew hlinks.base hrules hb hs ?_
        unfold ValidSlot at hvalid
        omega
      · unfold IndxNew
        rw [gi]
        exact hnew
    have start : UnlinkedLog s.cache l.slot (u.store fun t => t.dmaWrite (ruleDelCmd s.cache
        (s.cache.rules l.slot) entry (ipaNatiFindRulePos s.cache expn entry))) := by
      refine ⟨LogAll.store (hlog.mono fun t ht => ?_) hun.mid, hun⟩
      obtain ⟨hN, hr, hcase⟩ := ht
      exact ⟨hN, Or.inl fun k => by rw [hr], hcase⟩
    refine (start.finishRuleDel fun hpos hlt => ?_).finishIndx (fun hpos => ?_) fun hpos => ?_
    · have hfalse : expn = false := by
        cases expn with
        | true => exact absurd (hb.mp rfl) (by omega)
        | false => rfl
      subst hfalse
      have hee : entry = l.slot := by simpa [tblStart] using hs
      by_contra hn
      refine hpos ?_
      unfold ipaNatiFindRulePos
      rw [if_neg (by decide), hee]
      exact if_neg hn
    · rcases findIndexRulePos_cases hx with ⟨-, -, hp⟩ | ⟨hm, -⟩ | ⟨-, hp⟩
      · rw [hp] at hpos
        exact absurd hpos (by decide)
      · obtain ⟨hge, hmax⟩ := hy hm
        unfold freedIndx
        rw [if_pos hm, sub16_eq hge.le hmax]
        omega
      grind
    · unfold freedIndx
      rcases findIndexRulePos_cases hx with ⟨-, hn, -⟩ | ⟨-, hp⟩ | ⟨hexpn, -⟩
      · rw [if_neg fun h => h.2 hn]
      · exact absurd hp hpos
      · rw [if_neg fun h => isExpn_not_base _ h.1 hexpn]
  have hsweep := sweep_logAll hmid.1 hmid.2.mid fun c e hc hd =>
    hc.quiet rfl (setRule_next ((isDeadHead_iff _).mp hd).2.symm) rfl
  exact hsweep.1.store (hsweep.2.quiet rfl (fun _ => rfl) rfl)

/-- At every point of a sound call every live rule but one being deleted is found by both of its
hashes. -/
def Hitless (env : NatEnv) (s : NatSys) : NatOp → Prop
  | .add clntRule io => ∀ ret hdl t,
      ipaNatAddIpv4Rule env io clntRule ⟨s.cache, []⟩ = some (ret, hdl, t) →
      ∀ c ∈ t.log, ∀ l ∈ s.live, Shows env c l
  | .del ruleHdl ok => ∀ ret t, ipaNatDelIpv4Rule ok ruleHdl.toNat ⟨s.cache, []⟩ = some (ret, t) →
      ∀ c ∈ t.log, ∀ l ∈ s.live, l.hdl ≠ ruleHdl.toNat → Shows env c l

theorem TableInv.hitless (inv : TableInv env s dst src) {op : NatOp} (ok : SafeOp env s op) :
    Hitless env s op := by
  cases op with
  | add clntRule io =>
    intro ret hdl t h c hc l hl
    exact (inv.add_grows ok.2 h c hc).shows (Nat.ne_of_gt (inv.slot l hl).pos) (inv.shows hl)
  | del ruleHdl ok' =>
    intro ret t h c hc k hk hne
    rcases inv.toHandleInv.del_cases h with
      ⟨-, rfl, -⟩ | ⟨rfl, -, l, hl, hh, expn, entry, hb, hs, ht⟩
    · simp at hc
    · have hmid := inv.del_mid hl hb hs (ruleHdl.toNat - 1)
      rw [← ht] at hmid
      obtain ⟨dst', src', inv'⟩ := inv.del ok.2 h
      rcases inv.del_cases h with ⟨hret, -⟩ | ⟨-, l', hl', hh', cnt, expnCnt, hcache⟩
      · exact absurd rfl hret
      · cases inv.eq_of_hdl hl' hl (hh'.trans hh.symm)
        unfold afterDel at inv'
        rw [if_pos rfl, hcache, ← hh] at inv'
        exact inv.midDelete_shows hl inv' (hmid c hc) hk (hh.symm ▸ hne)

/-- No call of a sound run ever hides a live rule from the hardware, not even for one store. -/
theorem run_hitless {N M : Nat} (dims : TableDims N M)
    (reach : Reached (natStep env) (SoundOp env) (newTable N M) s) {op : NatOp}
    (ok : SoundOp env s op) : Hitless env s op := by
  obtain ⟨hproto, dst, src, inv⟩ := sound_reached dims reach
  exact inv.hitless (ok.safe hproto)

theorem run_hitless_small : ∃ s, runOps (natStep oneNetwork) (newTable 2 2)
    [.add (tcpRule 1) {}] = some s ∧ Hitless oneNetwork s (.del 1 true) := by
  have meet : OpsMeet (natStep oneNetwork) (SoundOp oneNetwork) (newTable 2 2)
      [.add (tcpRule 1) {}] := by
    refine ⟨⟨by decide, fun _ _ _ => ⟨rfl, fun _ => rfl, fun _ => rfl⟩, fun h => ?_⟩,
      fun _ _ => trivial⟩
    have hlarge := wrapsLink_large (by decide) (by decide) h
    exact absurd hlarge (by decide)
  obtain ⟨s, hs⟩ := Option.isSome_iff_exists.mp (show (runOps (natStep oneNetwork) (newTable 2 2)
    [.add (tcpRule 1) {}]).isSome = true by decide)
  exact ⟨s, hs, run_hitless ⟨by decide, by decide, by decide, by decide⟩ ⟨_, meet, hs⟩
    (Or.inl (by decide))⟩

/-- After two connections with the source hash 16662, no store of a third add leaves the second
one visible. -/
theorem second_rule_hidden : ¬∀ (env : NatEnv) (N M : Nat) (ops : List NatOp) (op : NatOp)
    (s : NatSys), TableDims N M → (∀ op ∈ ops, PlainOp op) → PlainOp op →
    runOps (natStep env) (newTable N M) ops = some s → Hitless env s op := by
  intro h
  have plain : ∀ op ∈ [NatOp.add (tcpRule 1) {}, .add { tcpRule 1 with publicPort := 2 } {}],
      PlainOp op := by
    intro op hop
    simp only [List.mem_cons, List.not_mem_nil, or_false] at hop
    rcases hop with rfl | rfl <;> exact ⟨by decide, rfl⟩
  obtain ⟨s, hs⟩ := Option.isSome_iff_exists.mp (show (runOps (natStep oneNetwork)
    (newTable 32768 5000)
    [.add (tcpRule 1) {}, .add { tcpRule 1 with publicPort := 2 } {}]).isSome = true by
      decide)
  have live : (runOps (natStep oneNetwork) (newTable 32768 5000)
      [.add (tcpRule 1) {}, .add { tcpRule 1 with publicPort := 2 } {}]).map NatSys.live =
      some [⟨2, 3006, { tcpRule 1 with publicPort := 2 }⟩, ⟨1, 3005, tcpRule 1⟩] := by
    decide
  have seen : ((runOps (natStep oneNetwork) (newTable 32768 5000)
      [.add (tcpRule 1) {}, .add { tcpRule 1 with publicPort := 2 } {}]).bind fun s =>
        (ipaNatAddIpv4Rule oneNetwork {} (tcpRule 3) ⟨s.cache, []⟩).map fun p =>
          p.2.2.log.head?.map fun c => (srcBucket c.tableEntries (tcpRule 1),
            (c.indx 16662).nextIndex, (c.indx 16662).tblEntry)) =
      some (some (16662, 0, 3005)) := by decide
  rw [hs] at live seen
  obtain ⟨⟨ret, hdl, t⟩, ha, hlog⟩ := Option.map_eq_some_iff.mp seen
  obtain ⟨c, hc, hvals⟩ := Option.map_eq_some_iff.mp hlog
  obtain ⟨hb, hn, he⟩ : _ ∧ _ ∧ _ := by simpa only [Prod.mk.injEq] using hvals
  have hl : (⟨2, 3006, { tcpRule 1 with publicPort := 2 }⟩ : LiveRule) ∈ s.live := by
    rw [Option.some.inj live]
    simp
  obtain ⟨-, x, hreach, hx⟩ := h oneNetwork 32768 5000 _ (.add (tcpRule 3) {}) s
    ⟨by decide, by decide, by decide, by decide⟩ plain ⟨by decide, rfl⟩ hs ret hdl t ha c
    (List.mem_of_mem_head? hc) _ hl
  change Reaches _ 0 (srcBucket c.tableEntries (tcpRule 1)) x at hreach
  have hlink : Linked (fun e => (c.indx e).nextIndex) 0 16662 [] := hn
  grind [hlink.reaches]

end DeviceHal.IpaNat
