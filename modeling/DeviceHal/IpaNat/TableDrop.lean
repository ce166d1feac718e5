import DeviceHal.IpaNat.TableInv

namespace DeviceHal.IpaNat

open Lib

/-- The delete of a rule with index entry `x` moves the entry behind a base entry into it. -/
def MovesUp (c : Ip4TableCache) (x : Nat) : Prop :=
  x < c.tableEntries ∧ (c.indx x).nextIndex ≠ 0

instance (c : Ip4TableCache) (x : Nat) : Decidable (MovesUp c x) :=
  inferInstanceAs (Decidable (_ ∧ _))

/-- What the commands and stores for the rule at `e` leave in slot `k` of the rule tables. -/
def ruleAfter (c : Ip4TableCache) (e k : Nat) : IpaNatRule :=
  let x := (c.rules e).indxTblEntry
  if k = e then
    if e < c.tableEntries ∧ (c.rules e).nextIndex ≠ 0 then
      { c.rules e with
        timeStamp := (c.rules e).timeStamp % 2 ^ 16
        protocol := ipaNatInvalidProtoFieldCmp }
    else {}
  else
    { c.rules k with
      nextIndex := nextAfterDel c e k
      prevIndex :=
        if c.tableEntries < e ∧ (c.rules e).nextIndex ≠ 0 ∧ k = (c.rules e).nextIndex then
          (c.rules e).prevIndex
        else (c.rules k).prevIndex
      indxTblEntry :=
        if MovesUp c x ∧ k = (c.indx (c.indx x).nextIndex).tblEntry then x
        else (c.rules k).indxTblEntry }

/-- What they leave in slot `k` of the index tables. -/
def indxAfter (c : Ip4TableCache) (x k : Nat) : IpaNatIndxTblRule :=
  if MovesUp c x then
    if k = (c.indx x).nextIndex then {}
    else if k = x then c.indx (c.indx x).nextIndex
    else c.indx k
  else if k = x then {}
  else if c.tableEntries < x ∧ k = c.indexExpnTableMeta (x - c.tableEntries) then
    { c.indx k with nextIndex := (c.indx x).nextIndex }
  else c.indx k

/-- What they leave of the back links beside the index tables. -/
def metaAfter (c : Ip4TableCache) (x : Nat) : Nat → Nat :=
  let y := (c.indx x).nextIndex
  if MovesUp c x then
    if (c.indx y).nextIndex ≠ 0 ∧ (c.indx y).nextIndex ≥ c.tableEntries then
      Function.update c.indexExpnTableMeta ((c.indx y).nextIndex - c.tableEntries) x
    else c.indexExpnTableMeta
  else if c.tableEntries < x ∧ y ≠ 0 then
    Function.update (Function.update c.indexExpnTableMeta
      (if y ≥ c.tableEntries then y - c.tableEntries else y)
      (c.indexExpnTableMeta (x - c.tableEntries))) (x - c.tableEntries) ipaNatInvalidNatEntry
  else c.indexExpnTableMeta

/-- The tables after the commands and stores of a delete, before the dead heads are swept. -/
def dropped (c : Ip4TableCache) (e : Nat) : Ip4TableCache :=
  { c with
    rules := ruleAfter c e
    indx := indxAfter c (c.rules e).indxTblEntry
    indexExpnTableMeta := metaAfter c (c.rules e).indxTblEntry }

theorem indxDelCmds_onlyOne (m : NatMem) (c : Ip4TableCache) (x : Nat) :
    (ioctlNatDma true m (indxDelCmds c x .onlyOne)).2 = m.store fun t => t.pointIndx x 0 := by
  rw [indxDelCmds, ioctlNatDma_cons, ioctlNatDma_nil]
  refine congrArg m.store (funext fun t => ?_)
  rw [dmaWrite_indx _ _ _ _ (by decide)]
  rfl

theorem indxDelCmds_head (m : NatMem) (c : Ip4TableCache) {x : Nat}
    (hy : c.tableEntries ≤ (c.indx x).nextIndex) (hlt : (c.indx x).nextIndex < 2 ^ 16) :
    (ioctlNatDma true m (indxDelCmds c x .head)).2 =
      (m.store fun t => t.pointIndx x (c.indx (c.indx x).nextIndex).tblEntry).store
        fun t => t.linkIndx x (c.indx (c.indx x).nextIndex).nextIndex := by
  have hslot : c.tableEntries + sub16 (c.indx x).nextIndex c.tableEntries =
      (c.indx x).nextIndex := by
    rw [sub16_eq hy hlt]
    omega
  rw [indxDelCmds, hslot, ioctlNatDma_cons, ioctlNatDma_cons, ioctlNatDma_nil]
  refine congrArg₂ NatMem.store (congrArg m.store (funext fun t => ?_)) (funext fun t => ?_)
  · rw [dmaWrite_indx _ _ _ _ (by decide)]
    rfl
  · rw [dmaWrite_indx _ _ _ _ (by decide)]
    rfl

variable {c : Ip4TableCache}

theorem indxDelCmds_cell (m : NatMem) {x : Nat}
    (hc : m.cache.tableEntries = c.tableEntries) (hx : c.tableEntries ≤ x) :
    (ioctlNatDma true m (indxDelCmds c x (ipaNatiFindIndexRulePos c x))).2 =
      m.store fun t => t.linkIndx (c.indexExpnTableMeta (x - c.tableEntries))
        (c.indx x).nextIndex := by
  unfold ipaNatiFindIndexRulePos
  rw [if_pos hx]
  split
  next hn =>
    rw [indxDelCmds, ioctlNatDma_cons, ioctlNatDma_nil, hn]
    simp only [NatMem.store, dmaWrite_linkIndxCmd c m.cache hc]
  next =>
    rw [indxDelCmds, ioctlNatDma_cons, ioctlNatDma_nil]
    simp only [NatMem.store, dmaWrite_linkIndxCmd c m.cache hc]

theorem ruleCmd_indx (t : Ip4TableCache) {d : NatDmaOne} (h : d.isIndx = false) :
    (t.dmaWrite d).indx = t.indx ∧ (t.dmaWrite d).indexExpnTableMeta = t.indexExpnTableMeta ∧
      (t.dmaWrite d).tableEntries = t.tableEntries := by
  obtain ⟨tbl, off, data⟩ := d
  cases tbl
  case ipaNatBaseTbl => exact ⟨rfl, rfl, rfl⟩
  case ipaNatExpnTbl => exact ⟨rfl, rfl, rfl⟩
  case ipaNatIndxTbl => simp [NatDmaOne.isIndx] at h
  case ipaNatIndexExpnTbl => simp [NatDmaOne.isIndx] at h

theorem finishRuleDel_indx (m : NatMem) (cur : Nat) (pos : DelType) :
    (finishRuleDel m cur pos).cache.indx = m.cache.indx ∧
      (finishRuleDel m cur pos).cache.indexExpnTableMeta = m.cache.indexExpnTableMeta ∧
      (finishRuleDel m cur pos).cache.tableEntries = m.cache.tableEntries := by
  unfold finishRuleDel
  dsimp only
  split <;> split <;> exact ⟨rfl, rfl, rfl⟩

theorem finishIndxHeadDel_fields (m : NatMem) (x y : Nat) :
    (finishIndxHeadDel m x y).cache.indx = Function.update m.cache.indx y {} ∧
    (finishIndxHeadDel m x y).cache.indexExpnTableMeta =
      (if (m.cache.indx y).nextIndex ≠ 0 ∧ (m.cache.indx y).nextIndex ≥ m.cache.tableEntries then
        Function.update m.cache.indexExpnTableMeta
          ((m.cache.indx y).nextIndex - m.cache.tableEntries) x
      else m.cache.indexExpnTableMeta) ∧
    (finishIndxHeadDel m x y).cache.rules =
      fun k => if k = (Function.update m.cache.indx y {} x).tblEntry then
        { m.cache.rules k with indxTblEntry := x } else m.cache.rules k := by
  have rules : ∀ c : Ip4TableCache, c.rules = m.cache.rules → c.indx = m.cache.indx →
      (setIndxTblEntry ((c.setIndx y {}).indx x).tblEntry x (c.setIndx y {})).rules =
      fun k => if k = (Function.update m.cache.indx y {} x).tblEntry then
        { m.cache.rules k with indxTblEntry := x } else m.cache.rules k := by
    intro c hr hi
    funext k
    simp only [setIndxTblEntry, Ip4TableCache.setRule, Ip4TableCache.setIndx, hr, hi]
    by_cases hk : k = (Function.update m.cache.indx y {} x).tblEntry
    · rw [if_pos hk, ← hk, Function.update_self]
    · rw [if_neg hk, Function.update_of_ne hk]
  unfold finishIndxHeadDel
  dsimp only
  split
  next => exact ⟨rfl, rfl, rules _ rfl rfl⟩
  next => exact ⟨rfl, rfl, rules _ rfl rfl⟩

theorem finishIndxDel_fields (m : NatMem) (x : Nat) (pos : DelType) :
    (finishIndxDel m x pos).cache.indx = Function.update m.cache.indx x {} ∧
    (finishIndxDel m x pos).cache.indexExpnTableMeta =
      (if pos = .middle then Function.update (Function.update m.cache.indexExpnTableMeta
        (if (m.cache.indx x).nextIndex ≥ m.cache.tableEntries then
          (m.cache.indx x).nextIndex - m.cache.tableEntries else (m.cache.indx x).nextIndex)
        (m.cache.indexExpnTableMeta (x - m.cache.tableEntries)))
        (x - m.cache.tableEntries) ipaNatInvalidNatEntry
      else m.cache.indexExpnTableMeta) ∧
    (finishIndxDel m x pos).cache.rules = m.cache.rules := by
  unfold finishIndxDel
  dsimp only
  split
  next => exact ⟨rfl, rfl, rfl⟩
  next => exact ⟨rfl, rfl, rfl⟩

theorem ruleStores_indx (u : NatMem) (c : Ip4TableCache) (r : IpaNatRule) (e entry : Nat)
    (pos : DelType) :
    (finishRuleDel (u.store fun t => t.dmaWrite (ruleDelCmd c r entry pos)) e pos).cache.indx =
      u.cache.indx ∧
    (finishRuleDel (u.store fun t => t.dmaWrite (ruleDelCmd c r entry pos)) e
      pos).cache.indexExpnTableMeta = u.cache.indexExpnTableMeta ∧
    (finishRuleDel (u.store fun t => t.dmaWrite (ruleDelCmd c r entry pos)) e
      pos).cache.tableEntries = u.cache.tableEntries := by
  obtain ⟨f1, f2, f3⟩ := finishRuleDel_indx
    (u.store fun t => t.dmaWrite (ruleDelCmd c r entry pos)) e pos
  obtain ⟨g1, g2, g3⟩ := ruleCmd_indx u.cache (ruleDelCmd_isIndx c r entry pos)
  exact ⟨f1.trans g1, f2.trans g2, f3.trans g3⟩

theorem findIndexRulePos_cases {x : Nat} (hx : x < c.tableEntries ∨ IsExpn c x) :
    (x < c.tableEntries ∧ (c.indx x).nextIndex = 0 ∧ ipaNatiFindIndexRulePos c x = .onlyOne) ∨
    (MovesUp c x ∧ ipaNatiFindIndexRulePos c x = .head) ∨
    (IsExpn c x ∧ ipaNatiFindIndexRulePos c x =
      if (c.indx x).nextIndex = 0 then .last else .middle) := by
  unfold ipaNatiFindIndexRulePos ipaNatInvalidNatEntry
  rcases hx with hx | hx
  · rw [if_neg (by omega)]
    by_cases hn : (c.indx x).nextIndex = 0
    · exact Or.inl ⟨hx, hn, if_pos hn⟩
    · exact Or.inr (Or.inl ⟨⟨hx, hn⟩, if_neg hn⟩)
  grind [IsExpn]

theorem dropRule_indx {e entry : Nat} (pos : DelType) (hx : InTable c (c.rules e).indxTblEntry)
    (hy : MovesUp c (c.rules e).indxTblEntry →
      c.tableEntries < (c.indx (c.rules e).indxTblEntry).nextIndex ∧
        (c.indx (c.rules e).indxTblEntry).nextIndex < 2 ^ 16) :
    (dropRule ⟨c, []⟩ e entry pos).cache.indx = indxAfter c (c.rules e).indxTblEntry ∧
    (dropRule ⟨c, []⟩ e entry pos).cache.indexExpnTableMeta =
      metaAfter c (c.rules e).indxTblEntry := by
  unfold dropRule
  dsimp only
  have mid := fun u : NatMem => ruleStores_indx u c (c.rules e) e entry pos
  generalize (c.rules e).indxTblEntry = x at hx hy ⊢
  rcases findIndexRulePos_cases hx with ⟨hlt, hn, hpos⟩ | ⟨hm, hpos⟩ | ⟨hlt, hpos⟩
  · have hmove : ¬MovesUp c x := fun h => h.2 hn
    have hcell : ¬c.tableEntries < x := by omega
    rw [hpos, indxDelCmds_onlyOne]
    unfold finishIndx
    rw [if_neg (by decide), (finishIndxDel_fields _ _ _).1, (finishIndxDel_fields _ _ _).2.1,
      (mid _).1, (mid _).2.1, if_neg (by decide)]
    refine ⟨funext fun k => ?_, ?_⟩
    · unfold indxAfter
      rw [if_neg hmove]
      by_cases hk : k = x
      · subst hk
        rw [Function.update_self, if_pos rfl]
      · rw [Function.update_of_ne hk, if_neg hk, if_neg fun h => hcell h.1]
        exact Function.update_of_ne hk _ _
    · unfold metaAfter
      dsimp only
      rw [if_neg hmove, if_neg fun h => hcell h.1]
      rfl
  · obtain ⟨hge, hlt⟩ := hy hm
    have hslot : c.tableEntries + sub16 (c.indx x).nextIndex c.tableEntries =
        (c.indx x).nextIndex := by
      rw [sub16_eq hge.le hlt]
      omega
    have hne : (c.indx x).nextIndex ≠ x := by
      have := hm.1
      omega
    rw [hpos, indxDelCmds_head _ _ hge.le hlt, hslot]
    unfold finishIndx
    rw [if_pos rfl, (finishIndxHeadDel_fields _ _ _).1, (finishIndxHeadDel_fields _ _ _).2.1,
      (mid _).1, (mid _).2.1, (mid _).2.2]
    simp only [NatMem.store_cache, Ip4TableCache.pointIndx, Ip4TableCache.linkIndx,
      Ip4TableCache.setIndx, Function.update_self, Function.update_idem, Function.update_of_ne hne]
    refine ⟨funext fun k => ?_, ?_⟩
    · unfold indxAfter
      rw [if_pos hm]
      by_cases hk : k = (c.indx x).nextIndex
      · rw [if_pos hk, hk, Function.update_self]
      · rw [if_neg hk, Function.update_of_ne hk]
        by_cases hkx : k = x
        · rw [if_pos hkx, hkx, Function.update_self]
        · rw [if_neg hkx, Function.update_of_ne hkx]
    · unfold metaAfter
      dsimp only
      rw [if_pos hm]
  · have hmove : ¬MovesUp c x := fun h => by
      unfold IsExpn at hlt
      have := h.1
      omega
    have hge : c.tableEntries ≤ x := hlt.1.le
    have hhead : ipaNatiFindIndexRulePos c x ≠ .head := by
      rw [hpos]
      split <;> decide
    rw [indxDelCmds_cell ⟨c, []⟩ rfl hge]
    unfold finishIndx
    rw [if_neg hhead, (finishIndxDel_fields _ _ _).1, (finishIndxDel_fields _ _ _).2.1,
      (mid _).1, (mid _).2.1, (mid _).2.2, hpos]
    have hnext : ((c.linkIndx (c.indexExpnTableMeta (x - c.tableEntries))
        (c.indx x).nextIndex).indx x).nextIndex = (c.indx x).nextIndex := by
      by_cases hp : x = c.indexExpnTableMeta (x - c.tableEntries)
      · simp only [Ip4TableCache.linkIndx, Ip4TableCache.setIndx]
        rw [← hp, Function.update_self]
      · exact congrArg IpaNatIndxTblRule.nextIndex (Function.update_of_ne hp _ _)
    simp only [NatMem.store_cache, hnext]
    refine ⟨funext fun k => ?_, ?_⟩
    · unfold indxAfter
      rw [if_neg hmove]
      by_cases hk : k = x
      · rw [if_pos hk, hk, Function.update_self]
      · rw [if_neg hk, Function.update_of_ne hk]
        by_cases hp : k = c.indexExpnTableMeta (x - c.tableEntries)
        · rw [if_pos ⟨hlt.1, hp⟩, hp]
          exact Function.update_self _ _ _
        · rw [if_neg fun h => hp h.2]
          exact Function.update_of_ne hp _ _
    · unfold metaAfter
      dsimp only
      rw [if_neg hmove]
      by_cases hn : (c.indx x).nextIndex = 0
      · rw [if_pos hn, if_neg (by decide), if_neg fun h => h.2 hn]
        rfl
      · rw [if_neg hn]
        exact (if_pos rfl).trans (if_pos ⟨hlt.1, hn⟩).symm

/-- The rule tables after the command and the stores for the rule itself. -/
def ruleUnlinked (c : Ip4TableCache) (e k : Nat) : IpaNatRule :=
  if k = e then
    if e < c.tableEntries ∧ (c.rules e).nextIndex ≠ 0 then
      { c.rules e with
        timeStamp := (c.rules e).timeStamp % 2 ^ 16
        protocol := ipaNatInvalidProtoFieldCmp }
    else {}
  else
    { c.rules k with
      nextIndex := nextAfterDel c e k
      prevIndex :=
        if c.tableEntries < e ∧ (c.rules e).nextIndex ≠ 0 ∧ k = (c.rules e).nextIndex then
          (c.rules e).prevIndex
        else (c.rules k).prevIndex }

theorem ruleUnlinked_base {e k : Nat} (he : e < c.tableEntries) (hk : k ≠ e) :
    ruleUnlinked c e k = c.rules k := by
  unfold ruleUnlinked nextAfterDel
  rw [if_neg hk, if_neg (by omega), if_neg (by omega)]

theorem ruleUnlinked_cell {e k : Nat} (he : c.tableEntries < e) (hk : k ≠ e) : ruleUnlinked c e k =
      { c.rules k with
        nextIndex := if (c.rules e).prevIndex = k then (c.rules e).nextIndex
          else (c.rules k).nextIndex
        prevIndex := if (c.rules e).nextIndex ≠ 0 ∧ k = (c.rules e).nextIndex then
          (c.rules e).prevIndex else (c.rules k).prevIndex } := by
  unfold ruleUnlinked nextAfterDel
  simp only [hk, he, true_and, ↓reduceIte]

/-- What a delete needs to know of the rule `e` it takes out. -/
structure RuleLinks (c : Ip4TableCache) (e : Nat) : Prop where
  prev_ne : c.tableEntries < e → (c.rules e).prevIndex ≠ e
  next_cell : c.tableEntries < e → (c.rules e).nextIndex ≠ 0 →
    c.tableEntries < (c.rules e).nextIndex ∧ (c.rules e).nextIndex < 2 ^ 16 ∧
      (c.rules e).nextIndex ≠ e

theorem finishRuleDel_base (u : NatMem) {e : Nat} (he : e < c.tableEntries)
    (hu : u.cache.rules = c.rules) :
    (finishRuleDel (u.store fun t => t.dmaWrite (ruleDelCmd c (c.rules e) e
      (ipaNatiFindRulePos c false e))) e (ipaNatiFindRulePos c false e)).cache.rules =
      ruleUnlinked c e := by
  have write : ∀ (off data k : Nat), off < ipaNatTableEntrySize →
      (u.cache.dmaWrite ⟨.ipaNatBaseTbl, ipaNatiGetEntryOffset e + off, data⟩).rules k =
      if k = e then (c.rules e).write16 off data else c.rules k := by
    intro off data k hoff
    rw [dmaWrite_base _ _ _ _ hoff, hu]
    by_cases hk : k = e
    · subst hk
      simp [Ip4TableCache.setRule]
    · simp [Ip4TableCache.setRule, hu, hk]
  funext k
  unfold ipaNatiFindRulePos ipaNatInvalidNatEntry
  simp only [Bool.false_eq_true, ↓reduceIte]
  by_cases hn : (c.rules e).nextIndex = 0
  · simp only [hn, ↓reduceIte, ruleDelCmd, finishRuleDel, reduceCtorEq, ne_eq, not_false_eq_true,
      NatMem.store_cache, Ip4TableCache.setRule]
    by_cases hk : k = e
    · grind [Function.update_self, ruleUnlinked]
    · rw [Function.update_of_ne hk, write _ _ _ (by decide), if_neg hk, ruleUnlinked_base he hk]
  · simp only [hn, ↓reduceIte, ruleDelCmd, finishRuleDel, reduceCtorEq, ne_eq, not_true_eq_false,
      NatMem.store_cache, write _ _ k (show ipaNatRuleProtoFieldOffset < _ by decide)]
    by_cases hk : k = e
    · grind [ruleUnlinked, IpaNatRule.write16_proto]
    · rw [if_neg hk, ruleUnlinked_base he hk]

theorem finishRuleDel_cell (u : NatMem) {e entry : Nat}
    (he : c.tableEntries + entry = e) (hlt : c.tableEntries < e) (links : RuleLinks c e)
    (hu : u.cache.rules = c.rules) (hN : u.cache.tableEntries = c.tableEntries) :
    (finishRuleDel (u.store fun t => t.dmaWrite (ruleDelCmd c (c.rules e) entry
      (ipaNatiFindRulePos c true entry))) e (ipaNatiFindRulePos c true entry)).cache.rules =
      ruleUnlinked c e := by
  have link : ∀ p d k : Nat, (u.cache.linkRule p d).rules k =
      { c.rules k with nextIndex := if p = k then d else (c.rules k).nextIndex } := by
    intro p d k
    by_cases hk : k = p
    · subst hk
      simp [Ip4TableCache.linkRule, Ip4TableCache.setRule, hu]
    · simp [Ip4TableCache.linkRule, Ip4TableCache.setRule, hu, hk, Ne.symm hk]
  have hself : ruleUnlinked c e e = {} := by
    unfold ruleUnlinked
    rw [if_pos rfl, if_neg (by omega)]
  have hprev := links.prev_ne hlt
  funext k
  unfold ipaNatiFindRulePos ipaNatInvalidNatEntry
  simp only [↓reduceIte, he]
  by_cases hn : (c.rules e).nextIndex = 0
  · simp only [hn, ↓reduceIte, ruleDelCmd, finishRuleDel, reduceCtorEq, ne_eq, not_false_eq_true,
      NatMem.store_cache, Ip4TableCache.setRule, dmaWrite_linkRuleCmd c u.cache hN]
    by_cases hk : k = e
    · rw [hk, Function.update_self, hself]
    · rw [Function.update_of_ne hk, ruleUnlinked_cell hlt hk, link]
      simp [hn, ipaNatInvalidNatEntry]
  · obtain ⟨hge, hmax, hne⟩ := links.next_cell hlt hn
    have hslot : c.tableEntries + sub16 (c.rules e).nextIndex c.tableEntries =
        (c.rules e).nextIndex := by
      rw [sub16_eq hge.le hmax]
      omega
    have hkeep : (u.cache.linkRule (c.rules e).prevIndex (c.rules e).nextIndex).rules e =
        c.rules e := by
      rw [link, if_neg hprev]
    have hbase : (u.cache.linkRule (c.rules e).prevIndex (c.rules e).nextIndex).tableEntries =
        c.tableEntries := hN
    simp only [hn, ↓reduceIte, ruleDelCmd, finishRuleDel, reduceCtorEq, ne_eq, not_false_eq_true,
      NatMem.store_cache, dmaWrite_linkRuleCmd c u.cache hN, hkeep, hbase, hslot, setPrevIndex,
      Ip4TableCache.setRule]
    by_cases hk : k = e
    · rw [hk, Function.update_self, hself]
    · rw [Function.update_of_ne hk, ruleUnlinked_cell hlt hk]
      by_cases hq : k = (c.rules e).nextIndex
      · grind
      grind

theorem dropRule_rules {expn : Bool} {e entry : Nat}
    (hb : expn = true ↔ c.tableEntries ≤ e) (he : tblStart c expn + entry = e)
    (hN : e ≠ c.tableEntries) (links : RuleLinks c e)
    (hx : InTable c (c.rules e).indxTblEntry)
    (hy : MovesUp c (c.rules e).indxTblEntry →
      c.tableEntries < (c.indx (c.rules e).indxTblEntry).nextIndex ∧
        (c.indx (c.rules e).indxTblEntry).nextIndex < 2 ^ 16 ∧
        (c.indx (c.indx (c.rules e).indxTblEntry).nextIndex).tblEntry ≠ e) :
    (dropRule ⟨c, []⟩ e entry (ipaNatiFindRulePos c expn entry)).cache.rules = ruleAfter c e := by
  unfold dropRule
  dsimp only
  have mid : ∀ u : NatMem, u.cache.rules = c.rules → u.cache.tableEntries = c.tableEntries →
      (finishRuleDel (u.store fun t => t.dmaWrite (ruleDelCmd c (c.rules e) entry
        (ipaNatiFindRulePos c expn entry))) e (ipaNatiFindRulePos c expn entry)).cache.rules =
        ruleUnlinked c e := by
    intro u hu hn
    cases expn with
    | true =>
      have hge := hb.mp rfl
      exact finishRuleDel_cell u he (by omega) links hu hn
    | false =>
      have hlt : ¬c.tableEntries ≤ e := fun h => absurd (hb.mpr h) (by decide)
      have heq : entry = e := by simpa [tblStart] using he
      subst heq
      exact finishRuleDel_base u (by omega) hu
  have stores := fun u : NatMem => (ruleStores_indx u c (c.rules e) e entry
    (ipaNatiFindRulePos c expn entry)).1
  have hi := indxDelCmds_isIndx c (c.rules e).indxTblEntry
    (ipaNatiFindIndexRulePos c (c.rules e).indxTblEntry)
  have hlinks : LinksOnly (fun _ => False) c (ioctlNatDma true ⟨c, []⟩ (indxDelCmds c
    (c.rules e).indxTblEntry (ipaNatiFindIndexRulePos c (c.rules e).indxTblEntry))).2.cache :=
    LinksOnly.indxCmds ⟨c, []⟩ hi
  have hmid := mid _ (indxCmds_rules ⟨c, []⟩ hi) hlinks.base
  have after : ∀ k, ruleAfter c e k = { ruleUnlinked c e k with
      indxTblEntry := if k ≠ e ∧ MovesUp c (c.rules e).indxTblEntry ∧
        k = (c.indx (c.indx (c.rules e).indxTblEntry).nextIndex).tblEntry then
          (c.rules e).indxTblEntry else (ruleUnlinked c e k).indxTblEntry } := by
    intro k
    unfold ruleAfter ruleUnlinked
    by_cases hk : k = e
    · grind
    · simp only [hk, ↓reduceIte, ne_eq, not_false_eq_true, true_and]
  funext k
  rw [after k]
  generalize (c.rules e).indxTblEntry = x at hx hy hmid ⊢
  unfold finishIndx
  split
  next hpos =>
    have hm : MovesUp c x := by
      rcases findIndexRulePos_cases hx with ⟨-, -, hp⟩ | ⟨hm, -⟩ | ⟨-, hp⟩
      · rw [hp] at hpos
        exact absurd hpos (by decide)
      · exact hm
      · grind
    obtain ⟨hge, hmax, howner⟩ := hy hm
    have hne : x ≠ (c.indx x).nextIndex := by
      have := hm.1
      omega
    have hslot : c.tableEntries + sub16 (c.indx x).nextIndex c.tableEntries =
        (c.indx x).nextIndex := by
      rw [sub16_eq hge.le hmax]
      omega
    rw [(finishIndxHeadDel_fields _ _ _).2.2, hmid, stores, hslot, Function.update_of_ne hne, hpos,
      indxDelCmds_head _ _ hge.le hmax]
    simp only [NatMem.store_cache, Ip4TableCache.pointIndx, Ip4TableCache.linkIndx,
      Ip4TableCache.setIndx, Function.update_self, hm, true_and]
    by_cases hk : k = (c.indx (c.indx x).nextIndex).tblEntry
    · grind
    · rw [if_neg hk, if_neg fun h => hk h.2]
  next hpos =>
    have hm : ¬MovesUp c x := by
      rcases findIndexRulePos_cases hx with ⟨-, hn, -⟩ | ⟨-, hp⟩ | ⟨hlt, -⟩
      · exact fun h => h.2 hn
      · exact absurd hp hpos
      · exact fun h => isExpn_not_base x h.1 hlt
    rw [(finishIndxDel_fields _ _ _).2.2, hmid, if_neg fun h => hm h.2.1]

end DeviceHal.IpaNat
