import DeviceHal.IpaNat.Stages

namespace DeviceHal.IpaNat

def IpaNatRule.body (r : IpaNatRule) : IpaNatRule :=
  { r with nextIndex := 0, prevIndex := 0, indxTblEntry := 0 }

/-- What a delete of the rule at `e` leaves in the next index of slot `k`. -/
def nextAfterDel (c : Ip4TableCache) (e k : Nat) : Nat :=
  if c.tableEntries < e ∧ (c.rules e).prevIndex = k then (c.rules e).nextIndex
  else (c.rules k).nextIndex

/-- From `c` to `t` nothing but links changed in the rules outside `changed`. -/
structure LinksOnly (changed : Nat → Prop) (c t : Ip4TableCache) : Prop where
  base : t.tableEntries = c.tableEntries
  expn : t.expnTableEntries = c.expnTableEntries
  ids : t.ruleIdArray = c.ruleIdArray
  body : ∀ e, ¬changed e → (t.rules e).body = (c.rules e).body

namespace LinksOnly

variable {changed other : Nat → Prop} {c t u : Ip4TableCache}

theorem refl (changed : Nat → Prop) (c : Ip4TableCache) : LinksOnly changed c c :=
  ⟨rfl, rfl, rfl, fun _ _ => rfl⟩

theorem trans (h : LinksOnly changed c t) (k : LinksOnly changed t u) : LinksOnly changed c u :=
  ⟨k.base.trans h.base, k.expn.trans h.expn, k.ids.trans h.ids,
    fun e he => (k.body e he).trans (h.body e he)⟩

theorem setIndx (c : Ip4TableCache) (e : Nat) (x : IpaNatIndxTblRule) :
    LinksOnly changed c (c.setIndx e x) :=
  ⟨rfl, rfl, rfl, fun _ _ => rfl⟩

theorem setMeta (c : Ip4TableCache) (i prev : Nat) : LinksOnly changed c (c.setMeta i prev) :=
  ⟨rfl, rfl, rfl, fun _ _ => rfl⟩

theorem setRule (c : Ip4TableCache) (e : Nat) (r : IpaNatRule)
    (h : changed e ∨ r.body = (c.rules e).body) : LinksOnly changed c (c.setRule e r) := by
  refine ⟨rfl, rfl, rfl, fun k hk => ?_⟩
  by_cases he : k = e
  · subst he
    simp only [Ip4TableCache.setRule, Function.update_self]
    exact h.resolve_left hk
  · simp only [Ip4TableCache.setRule, Function.update_of_ne he]

theorem linkRule (c : Ip4TableCache) (e data : Nat) : LinksOnly changed c (c.linkRule e data) :=
  setRule c e _ (Or.inr rfl)

theorem indxCmd (c : Ip4TableCache) {d : NatDmaOne} (h : d.isIndx = true) :
    LinksOnly changed c (c.dmaWrite d) := by
  obtain ⟨tbl, off, data⟩ := d
  cases tbl
  case ipaNatBaseTbl => simp [NatDmaOne.isIndx] at h
  case ipaNatExpnTbl => simp [NatDmaOne.isIndx] at h
  case ipaNatIndxTbl => exact setIndx c _ _
  case ipaNatIndexExpnTbl => exact setIndx c _ _

theorem indxCmds (m : NatMem) {cmds : List NatDmaOne} (h : ∀ d ∈ cmds, d.isIndx = true) :
    LinksOnly changed m.cache (ioctlNatDma true m cmds).2.cache := by
  induction cmds generalizing m with
  | nil => exact refl _ _
  | cons d cmds ih =>
    rw [ioctlNatDma_cons]
    exact (indxCmd m.cache (h d (by simp))).trans
      (ih (m.store fun c => c.dmaWrite d) fun x hx => h x (List.mem_cons_of_mem d hx))

theorem ruleDelCmd (c t : Ip4TableCache) (ht : t.tableEntries = c.tableEntries)
    (cur : IpaNatRule) (expn : Bool) (entry : Nat) :
    LinksOnly (· = tblStart c expn + entry) t
      (t.dmaWrite (ruleDelCmd c cur entry (ipaNatiFindRulePos c expn entry))) := by
  unfold ipaNatiFindRulePos tblStart
  cases expn with
  | true =>
    simp only [↓reduceIte]
    split <;> simp only [IpaNat.ruleDelCmd, dmaWrite_linkRuleCmd c t ht] <;> exact linkRule t _ _
  | false =>
    simp only [Bool.false_eq_true, ↓reduceIte, Nat.zero_add]
    split <;> simp only [IpaNat.ruleDelCmd] <;> rw [dmaWrite_base _ _ _ _ (by decide)] <;>
      exact setRule t _ _ (Or.inl rfl)

theorem setPrev (c : Ip4TableCache) (e prev : Nat) : LinksOnly changed c (setPrevIndex e prev c) :=
  setRule c e _ (Or.inr rfl)

theorem finishRuleDel (m : NatMem) (cur : Nat) (pos : DelType) :
    LinksOnly (· = cur) m.cache (finishRuleDel m cur pos).cache := by
  unfold IpaNat.finishRuleDel
  have h : LinksOnly (· = cur) m.cache (if pos = .middle then
      m.store (setPrevIndex (m.cache.tableEntries + sub16 (m.cache.rules cur).nextIndex
        m.cache.tableEntries) (m.cache.rules cur).prevIndex) else m).cache := by
    split
    next => exact setPrev m.cache _ _
    next => exact refl _ _
  dsimp only
  generalize (if pos = .middle then _ else m) = m' at h ⊢
  split
  next => exact h.trans (setRule _ _ _ (Or.inl rfl))
  next => exact h

theorem finishIndxHeadDel (m : NatMem) (s nextSlot : Nat) :
    LinksOnly changed m.cache (finishIndxHeadDel m s nextSlot).cache := by
  have last : ∀ c : Ip4TableCache, LinksOnly changed c
      (setIndxTblEntry ((c.setIndx nextSlot {}).indx s).tblEntry s (c.setIndx nextSlot {})) :=
    fun c => (setIndx c _ _).trans (setRule _ _ _ (Or.inr rfl))
  unfold IpaNat.finishIndxHeadDel
  dsimp only
  split
  next => exact (setMeta m.cache _ _).trans (last _)
  next => exact last m.cache

theorem finishIndxDel (m : NatMem) (s : Nat) (pos : DelType) :
    LinksOnly changed m.cache (finishIndxDel m s pos).cache := by
  unfold IpaNat.finishIndxDel
  dsimp only
  split
  next => exact ((setMeta _ _ _).trans (setMeta _ _ _)).trans (setIndx _ _ _)
  next => exact setIndx _ _ _

theorem sweep (m : NatMem) :
    LinksOnly (fun e => e < m.cache.tableEntries ∧ isDeadHead (m.cache.rules e) = true) m.cache
      (ipaNatiDelDeadIpv4HeadNodes m).cache := by
  rw [ipaNatiDelDeadIpv4HeadNodes_cache]
  refine ⟨rfl, rfl, rfl, fun e he => ?_⟩
  simp only [sweptRules]
  rw [if_neg he]

theorem dropRule (m : NatMem) (expn : Bool) (entry : Nat) :
    LinksOnly (· = tblStart m.cache expn + entry) m.cache
      (dropRule m (tblStart m.cache expn + entry) entry
        (ipaNatiFindRulePos m.cache expn entry)).cache := by
  unfold IpaNat.dropRule IpaNat.finishIndx
  dsimp only
  generalize hi : indxDelCmds m.cache _ _ = icmds
  have hindx : ∀ d ∈ icmds, d.isIndx = true := hi ▸ indxDelCmds_isIndx _ _ _
  have h1 : LinksOnly (· = tblStart m.cache expn + entry) m.cache
    (ioctlNatDma true m icmds).2.cache := indxCmds m hindx
  have h2 := h1.trans (LinksOnly.ruleDelCmd m.cache _ h1.base
    (m.cache.rules (tblStart m.cache expn + entry)) expn entry)
  have h3 := h2.trans (finishRuleDel ((ioctlNatDma true m icmds).2.store fun t => t.dmaWrite _)
    (tblStart m.cache expn + entry) (ipaNatiFindRulePos m.cache expn entry))
  split
  next => exact h3.trans (finishIndxHeadDel _ _ _)
  next => exact h3.trans (finishIndxDel _ _ _)

theorem copyRule (ok : Bool) (m : NatMem) (rule : IpaNatRule) (e : Nat) :
    LinksOnly (· = e) m.cache (ipaNatiCopyIpv4RuleToHw ok m rule e).cache := by
  have h : LinksOnly (· = e) m.cache (m.cache.setRule e rule) := setRule _ _ _ (Or.inl rfl)
  rw [ipaNatiCopyIpv4RuleToHw_stages]
  split
  next => exact h
  next => exact h.trans (linkRule _ _ _)

theorem copyIndexRule (ok : Bool) (m : NatMem) (sw : IpaNatIndxTblSwRule) (s : Nat) :
    LinksOnly changed m.cache (ipaNatiCopyIpv4IndexRuleToHw ok m sw s).cache := by
  rw [ipaNatiCopyIpv4IndexRuleToHw_stages]
  split
  next => exact setIndx _ _ _
  next => exact (setIndx m.cache _ _).trans (setIndx _ _ _)

theorem placeRule (io : AddIoctls) (n : NewRule) (m : NatMem) :
    LinksOnly (· = n.entry) m.cache (placeRule io n m).cache := by
  unfold IpaNat.placeRule
  dsimp only
  have h : LinksOnly (· = n.entry) m.cache (if n.indxEntry ≥ m.cache.tableEntries then
      m.store fun c => c.setMeta (n.indxEntry - c.tableEntries) n.indx.prevIndex else m).cache := by
    split
    next => exact setMeta _ _ _
    next => exact refl _ _
  exact (h.trans (copyRule _ _ _ _)).trans (copyIndexRule _ _ _ _)

end LinksOnly

theorem indxCmd_rules (c : Ip4TableCache) {d : NatDmaOne} (h : d.isIndx = true) :
    (c.dmaWrite d).rules = c.rules := by
  obtain ⟨tbl, off, data⟩ := d
  cases tbl
  case ipaNatBaseTbl => simp [NatDmaOne.isIndx] at h
  case ipaNatExpnTbl => simp [NatDmaOne.isIndx] at h
  case ipaNatIndxTbl => rfl
  case ipaNatIndexExpnTbl => rfl

theorem indxCmds_rules (m : NatMem) {cmds : List NatDmaOne} (h : ∀ d ∈ cmds, d.isIndx = true) :
    (ioctlNatDma true m cmds).2.cache.rules = m.cache.rules := by
  induction cmds generalizing m with
  | nil => rfl
  | cons d cmds ih =>
    rw [ioctlNatDma_cons, ih _ fun x hx => h x (List.mem_cons_of_mem d hx)]
    exact indxCmd_rules m.cache (h d (by simp))

theorem finishRuleDel_next (m : NatMem) {cur k : Nat} (pos : DelType) (hk : k ≠ cur) :
    ((finishRuleDel m cur pos).cache.rules k).nextIndex = (m.cache.rules k).nextIndex := by
  have keep : ∀ (e prev : Nat) (c : Ip4TableCache),
      ((setPrevIndex e prev c).rules k).nextIndex = (c.rules k).nextIndex := by
    intro e prev c
    by_cases he : k = e
    · subst he
      simp [setPrevIndex, Ip4TableCache.setRule]
    · simp [setPrevIndex, Ip4TableCache.setRule, he]
  have clear : ∀ c : Ip4TableCache, ((c.setRule cur {}).rules k).nextIndex =
      (c.rules k).nextIndex := by
    intro c
    simp [Ip4TableCache.setRule, hk]
  unfold finishRuleDel
  dsimp only
  split <;> split <;> simp only [NatMem.store_cache, clear, keep]

theorem finishIndx_next (m : NatMem) (s nextSlot k : Nat) (pos : DelType) :
    ((finishIndx m s nextSlot pos).cache.rules k).nextIndex = (m.cache.rules k).nextIndex := by
  have keep : ∀ (e prev : Nat) (c : Ip4TableCache),
      ((setIndxTblEntry e prev c).rules k).nextIndex = (c.rules k).nextIndex := by
    intro e prev c
    by_cases he : k = e
    · subst he
      simp [setIndxTblEntry, Ip4TableCache.setRule]
    · simp [setIndxTblEntry, Ip4TableCache.setRule, he]
  unfold finishIndx finishIndxHeadDel finishIndxDel
  dsimp only
  split
  next =>
    simp only [NatMem.store_cache, keep]
    split <;> rfl
  next =>
    split <;> rfl

theorem linkRule_next (t : Ip4TableCache) (p d k : Nat) :
    ((t.linkRule p d).rules k).nextIndex = if p = k then d else (t.rules k).nextIndex := by
  by_cases hp : k = p
  · subst hp
    simp [Ip4TableCache.linkRule, Ip4TableCache.setRule]
  · simp [Ip4TableCache.linkRule, Ip4TableCache.setRule, hp, Ne.symm hp]

theorem ruleDelCmd_next {c t : Ip4TableCache} (ht : t.tableEntries = c.tableEntries)
    (hr : t.rules = c.rules) {expn : Bool} {entry k : Nat}
    (hb : expn = true ↔ c.tableEntries < tblStart c expn + entry)
    (hk : k ≠ tblStart c expn + entry) :
    ((t.dmaWrite (ruleDelCmd c (c.rules (tblStart c expn + entry)) entry
      (ipaNatiFindRulePos c expn entry))).rules k).nextIndex =
      nextAfterDel c (tblStart c expn + entry) k := by
  unfold nextAfterDel ipaNatiFindRulePos
  cases expn with
  | true =>
    have hlt := hb.mp rfl
    simp only [tblStart, ↓reduceIte] at hlt ⊢
    simp only [hlt, true_and]
    split
    next hn =>
      simp only [ruleDelCmd, dmaWrite_linkRuleCmd c t ht, linkRule_next, hr, hn]
    next => simp only [ruleDelCmd, dmaWrite_linkRuleCmd c t ht, linkRule_next, hr]
  | false =>
    have hge : ¬c.tableEntries < tblStart c false + entry := fun h => absurd (hb.mpr h) (by decide)
    have hk0 : k ≠ entry := by simpa [tblStart] using hk
    simp only [Bool.false_eq_true, ↓reduceIte, hge, false_and]
    split
    next =>
      simp only [ruleDelCmd]
      rw [dmaWrite_base _ _ _ _ (by decide)]
      simp [Ip4TableCache.setRule, hk0, hr]
    next =>
      simp only [ruleDelCmd]
      rw [dmaWrite_base _ _ _ _ (by decide)]
      simp [Ip4TableCache.setRule, hk0, hr]

theorem dropRule_next (m : NatMem) {expn : Bool} {entry k : Nat}
    (hb : expn = true ↔ m.cache.tableEntries < tblStart m.cache expn + entry)
    (hk : k ≠ tblStart m.cache expn + entry) :
    ((dropRule m (tblStart m.cache expn + entry) entry
      (ipaNatiFindRulePos m.cache expn entry)).cache.rules k).nextIndex =
      nextAfterDel m.cache (tblStart m.cache expn + entry) k := by
  have hi := indxDelCmds_isIndx m.cache (m.cache.rules (tblStart m.cache expn + entry)).indxTblEntry
    (ipaNatiFindIndexRulePos m.cache (m.cache.rules (tblStart m.cache expn + entry)).indxTblEntry)
  have hlinks : LinksOnly (fun _ => False) m.cache (ioctlNatDma true m _).2.cache :=
    LinksOnly.indxCmds m hi
  unfold dropRule
  dsimp only
  rw [finishIndx_next, finishRuleDel_next _ _ hk]
  exact ruleDelCmd_next hlinks.base (indxCmds_rules m hi) hb hk

end DeviceHal.IpaNat
