import DeviceHal.IpaNat.TableInv

namespace DeviceHal.IpaNat

open Lib

/-- The add links a new index entry behind a base entry whose offset does not fit in 16 bits. -/
def WrapsLink (env : NatEnv) (r : IpaNatIpv4Rule) (c : Ip4TableCache) : Prop :=
  PdnValid env r ∧ (∃ n, chooseRule env r c = some (some n)) ∧
    2 ^ 14 ≤ srcBucket c.tableEntries r ∧ (c.indx (srcBucket c.tableEntries r)).tblEntry ≠ 0 ∧
    (c.indx (srcBucket c.tableEntries r)).nextIndex = 0

def IoctlsMeet (env : NatEnv) (r : IpaNatIpv4Rule) (io : AddIoctls) (c : Ip4TableCache) : Prop :=
  ∀ n, PdnValid env r → chooseRule env r c = some (some n) → io.enable = true ∧
    (n.rule.prevIndex ≠ 0 → io.linkRule = true) ∧ (n.indx.prevIndex ≠ 0 → io.linkIndx = true)

def linkedRules (rules : Nat → IpaNatRule) (p e : Nat) : Nat → IpaNatRule :=
  fun k => if p ≠ 0 ∧ k = p then { rules k with nextIndex := e } else rules k

def linkedIndx (indx : Nat → IpaNatIndxTblRule) (q x : Nat) : Nat → IpaNatIndxTblRule :=
  fun k => if q ≠ 0 ∧ k = q then { indx k with nextIndex := x } else indx k

/-- The tables after an add that found a place and whose ioctls succeeded. -/
def added (c : Ip4TableCache) (n : NewRule) : Ip4TableCache :=
  { c with
    rules := Function.update (linkedRules c.rules n.rule.prevIndex n.entry) n.entry
      { n.rule with enable := true }
    indx := Function.update (linkedIndx c.indx n.indx.prevIndex n.indxEntry) n.indxEntry
      ⟨n.entry, 0⟩
    indexExpnTableMeta := if n.indxEntry ≥ c.tableEntries then
      Function.update c.indexExpnTableMeta (n.indxEntry - c.tableEntries) n.indx.prevIndex
      else c.indexExpnTableMeta }

variable {env : NatEnv} {s : NatSys} {dst src : Nat → List Nat}

@[simp] theorem linkedRules_zero (rules : Nat → IpaNatRule) (e : Nat) :
    linkedRules rules 0 e = rules :=
  funext fun _ => if_neg fun h => h.1 rfl

@[simp] theorem linkedIndx_zero (indx : Nat → IpaNatIndxTblRule) (x : Nat) :
    linkedIndx indx 0 x = indx :=
  funext fun _ => if_neg fun h => h.1 rfl

theorem copyRule_cache {ok : Bool} (m : NatMem) {rule : IpaNatRule} {e : Nat}
    (hp : rule.prevIndex ≠ e) (link : rule.prevIndex ≠ 0 → ok = true) :
    (ipaNatiCopyIpv4RuleToHw ok m rule e).cache =
      { m.cache with
        rules := Function.update (linkedRules m.cache.rules rule.prevIndex e) e rule } := by
  rw [ipaNatiCopyIpv4RuleToHw_stages]
  by_cases hz : rule.prevIndex = 0
  · rw [if_pos (Or.inl hz), hz, linkedRules_zero]
    rfl
  · rw [if_neg (by simp [hz, link hz])]
    refine congrArg (fun rules => ({ m.cache with rules } : Ip4TableCache)) (funext fun k => ?_)
    by_cases he : k = e
    · subst he
      simp [Ip4TableCache.setRule, hp.symm]
    · by_cases hk : k = rule.prevIndex
      · subst hk
        simp [Ip4TableCache.setRule, linkedRules, hp, hz]
      · simp [Ip4TableCache.setRule, linkedRules, he, hk]

theorem copyIndexRule_cache {ok : Bool} (m : NatMem) {sw : IpaNatIndxTblSwRule} {x : Nat}
    (hq : sw.prevIndex ≠ x) (link : sw.prevIndex ≠ 0 → ok = true)
    (fits : linkSlot m.cache.tableEntries sw.prevIndex = sw.prevIndex) :
    (ipaNatiCopyIpv4IndexRuleToHw ok m sw x).cache =
      { m.cache with
        indx := Function.update (linkedIndx m.cache.indx sw.prevIndex x) x
          ⟨sw.tblEntry, sw.nextIndex⟩ } := by
  rw [ipaNatiCopyIpv4IndexRuleToHw_stages]
  by_cases hz : sw.prevIndex = 0
  · rw [if_pos (Or.inl hz), hz, linkedIndx_zero]
    rfl
  · rw [if_neg (by simp [hz, link hz])]
    refine congrArg (fun indx => ({ m.cache with indx } : Ip4TableCache)) (funext fun k => ?_)
    by_cases he : k = x
    · subst he
      simp [Ip4TableCache.setIndx, fits, hq.symm]
    · by_cases hk : k = sw.prevIndex
      · subst hk
        simp [Ip4TableCache.setIndx, fits, linkedIndx, hq, hz]
      · simp [Ip4TableCache.setIndx, fits, linkedIndx, he, hk]

variable {r : IpaNatIpv4Rule} {n : NewRule} {io : AddIoctls}

theorem placeRule_added {c : Ip4TableCache}
    (h : Placed env r c n) (hp : n.rule.prevIndex ≠ n.entry) (hq : n.indx.prevIndex ≠ n.indxEntry)
    (fits : linkSlot c.tableEntries n.indx.prevIndex = n.indx.prevIndex)
    (linkRule : n.rule.prevIndex ≠ 0 → io.linkRule = true)
    (linkIndx : n.indx.prevIndex ≠ 0 → io.linkIndx = true) :
    (placeRule io n ⟨c, []⟩).cache.enableRule n.entry = added c n := by
  have hflags : ({ n.rule with rsvd1 := 0, redirect := false, enable := true } : IpaNatRule) =
      { n.rule with enable := true } := by
    rw [h.rule]
    rfl
  have hentry : n.indx.tblEntry = n.entry ∧ n.indx.nextIndex = 0 := by
    rw [h.indx]
    exact ⟨rfl, rfl⟩
  have hcopy : ∀ m : NatMem, m.cache.tableEntries = c.tableEntries →
      (ipaNatiCopyIpv4IndexRuleToHw io.linkIndx
        (ipaNatiCopyIpv4RuleToHw io.linkRule m n.rule n.entry) n.indx n.indxEntry).cache.enableRule
          n.entry = { m.cache with
            rules := Function.update (linkedRules m.cache.rules n.rule.prevIndex n.entry) n.entry
              { n.rule with enable := true }
            indx := Function.update (linkedIndx m.cache.indx n.indx.prevIndex n.indxEntry)
              n.indxEntry ⟨n.entry, 0⟩ } := by
    intro m hm
    have hrule := copyRule_cache m hp linkRule
    rw [copyIndexRule_cache _ hq linkIndx (by rw [hrule, hm]; exact fits), hrule]
    simp only [Ip4TableCache.enableRule, Ip4TableCache.setRule, Function.update_self,
      Function.update_idem, hflags, hentry]
  unfold placeRule added
  dsimp only
  split
  next => exact hcopy _ rfl
  next => exact hcopy _ rfl

theorem TableInv.link_fits (inv : TableInv env s dst src)
    (valid : PdnValid env r) (choice : chooseRule env r s.cache = some (some n))
    (fits : ¬WrapsLink env r s.cache) :
    linkSlot s.cache.tableEntries n.indx.prevIndex = n.indx.prevIndex := by
  have hM := inv.dims.expnHigh
  have hb := (srcBucket_bound inv.dims.baseLow inv.dims.baseHigh r).2
  rcases inv.indxChoice (chooseRule_placed choice) with ⟨-, -, hq⟩ | ⟨hu, hq, -, -⟩
  · rw [hq]
    exact linkSlot_fits (by omega) (by omega)
  · have hlast := lastCell_mem (srcBucket s.cache.tableEntries r)
      (src (srcBucket s.cache.tableEntries r))
    rw [← hq] at hlast
    rcases List.mem_cons.mp hlast with heq | hm
    · have hnext := (inv.indxChains.linked _ hb).last
      rw [← hq, heq] at hnext
      rw [heq]
      refine linkSlot_fits (fun _ => ?_) (by omega)
      by_contra hge
      exact fits ⟨valid, ⟨n, choice⟩, Nat.le_of_not_lt hge, hu, hnext⟩
    · have hcell := inv.indxChains.isCell _ hb _ hm
      unfold IsExpn at hcell
      exact linkSlot_fits (by omega) (by omega)

theorem TableInv.placeRule_added (inv : TableInv env s dst src) (valid : PdnValid env r)
    (choice : chooseRule env r s.cache = some (some n)) (meet : IoctlsMeet env r io s.cache)
    (fits : ¬WrapsLink env r s.cache) :
    (placeRule io n ⟨s.cache, []⟩).cache.enableRule n.entry = added s.cache n := by
  have h := chooseRule_placed choice
  have hd := (dstBucket_bound env inv.dims.baseLow inv.dims.baseHigh r).2
  have hb := (srcBucket_bound inv.dims.baseLow inv.dims.baseHigh r).2
  obtain ⟨-, linkRule, linkIndx⟩ := meet n valid choice
  exact IpaNat.placeRule_added h ((inv.ruleChoice h).prev_ne inv.ruleChains hd h.entry_ne)
    ((inv.indxChoice h).prev_ne inv.indxChains hb h.indxEntry_ne)
    (inv.link_fits valid choice fits) linkRule linkIndx

theorem TableInv.added_ruleChains (inv : TableInv env s dst src) (h : Placed env r s.cache n) :
    ∃ dst', RuleChains (added s.cache n) dst' ∧ (∀ b, ∀ e ∈ dst b, e ∈ dst' b) ∧
      n.entry ∈ dstBucket env s.cache.tableEntries r ::
        dst' (dstBucket env s.cache.tableEntries r) := by
  obtain ⟨hpos, hb⟩ := dstBucket_bound env inv.dims.baseLow inv.dims.baseHigh r
  have hzero : n.rule.nextIndex = 0 := by
    rw [h.rule]
    rfl
  refine (inv.ruleChoice h).insert inv.ruleChains isExpn_not_base hb (by omega) h.entry_ne
    ?_ ?_ ?_ ?_ ?_
  · intro y hy
    simp only [added, Function.update_of_ne hy, linkedRules]
    split <;> rfl
  · simp only [added, Function.update_self, hzero]
  · intro y _ hy
    simp only [added, Function.update_of_ne hy, linkedRules]
    split <;> rfl
  · intro _
    simp only [added, Function.update_self]
  · intro y
    by_cases hy : y = n.entry
    · subst hy
      simp [added]
    · simp only [added, Function.update_of_ne hy, linkedRules, hy, or_false]
      split <;> rfl

theorem TableInv.added_indxChains (inv : TableInv env s dst src) (h : Placed env r s.cache n) :
    ∃ src', IndxChains (added s.cache n) src' ∧ (∀ b, ∀ x ∈ src b, x ∈ src' b) ∧
      n.indxEntry ∈ srcBucket s.cache.tableEntries r ::
        src' (srcBucket s.cache.tableEntries r) := by
  obtain ⟨hpos, hb⟩ := srcBucket_bound inv.dims.baseLow inv.dims.baseHigh r
  refine (inv.indxChoice h).insert inv.indxChains isExpn_not_base hb (by omega) h.indxEntry_ne
    ?_ ?_ ?_ ?_ ?_
  · intro y hy
    simp only [added, Function.update_of_ne hy, linkedIndx]
    split <;> rfl
  · simp only [added, Function.update_self]
  · intro y hy hyx
    unfold IsExpn at hy
    simp only [added]
    grind
  · intro hx
    unfold IsExpn at hx
    simp only [added]
    rw [if_pos (by omega), Function.update_self]
  · intro y
    by_cases hy : y = n.indxEntry
    · subst hy
      simp [added, h.entry_ne]
    · simp only [added, Function.update_of_ne hy, linkedIndx, hy, or_false]
      split <;> rfl

theorem countEntry_setRuleId (c : Ip4TableCache) (e i id : Nat) :
    ∃ cnt expnCnt, (countEntry e c).setRuleId i id =
      c.withIds (Function.update c.ruleIdArray i id) cnt expnCnt := by
  unfold countEntry
  split
  next => exact ⟨_, _, rfl⟩
  next => exact ⟨_, _, rfl⟩

theorem linkedRules_enable (rules : Nat → IpaNatRule) (p e k : Nat) :
    (linkedRules rules p e k).enable = (rules k).enable := by
  unfold linkedRules
  split <;> rfl

theorem linkedRules_indxTblEntry (rules : Nat → IpaNatRule) (p e k : Nat) :
    (linkedRules rules p e k).indxTblEntry = (rules k).indxTblEntry := by
  unfold linkedRules
  split <;> rfl

theorem linkedRules_protocol (rules : Nat → IpaNatRule) (p e k : Nat) :
    (linkedRules rules p e k).protocol = (rules k).protocol := by
  unfold linkedRules
  split <;> rfl

theorem linkedIndx_tblEntry (indx : Nat → IpaNatIndxTblRule) (q x k : Nat) :
    (linkedIndx indx q x k).tblEntry = (indx k).tblEntry := by
  unfold linkedIndx
  split <;> rfl

theorem TableInv.rulePrev_used (inv : TableInv env s dst src)
    (h : Placed env r s.cache n) (hp : n.rule.prevIndex ≠ 0) :
    (s.cache.rules n.rule.prevIndex).enable = true := by
  have hb := (dstBucket_bound env inv.dims.baseLow inv.dims.baseHigh r).2
  rcases inv.ruleChoice h with ⟨-, -, hz⟩ | ⟨hu, hp', -, -⟩
  · exact absurd hz hp
  · rw [hp']
    exact inv.ruleChains.last_used hb hu

theorem TableInv.indxPrev_used (inv : TableInv env s dst src)
    (h : Placed env r s.cache n) (hq : n.indx.prevIndex ≠ 0) :
    (s.cache.indx n.indx.prevIndex).tblEntry ≠ 0 := by
  have hb := (srcBucket_bound inv.dims.baseLow inv.dims.baseHigh r).2
  rcases inv.indxChoice h with ⟨-, -, hz⟩ | ⟨hu, hq', -, -⟩
  · exact absurd hz hq
  · rw [hq']
    exact inv.indxChains.last_used hb hu

theorem TableInv.added (inv : TableInv env s dst src)
    (h : Placed env r s.cache n) {ids : Nat → Nat} {cnt expnCnt hdl : Nat}
    (hinv : HandleInv env ⟨(added s.cache n).withIds ids cnt expnCnt,
      ⟨hdl, n.entry, r⟩ :: s.live⟩) :
    ∃ dst' src', TableInv env ⟨(IpaNat.added s.cache n).withIds ids cnt expnCnt,
      ⟨hdl, n.entry, r⟩ :: s.live⟩ dst' src' := by
  obtain ⟨dst', hrule, hdmono, hdnew⟩ := inv.added_ruleChains h
  obtain ⟨src', hindx, hsmono, hsnew⟩ := inv.added_indxChains h
  have fresh := inv.fresh h
  have hrules : ∀ k, k ≠ n.entry → (IpaNat.added s.cache n).rules k =
      linkedRules s.cache.rules n.rule.prevIndex n.entry k := fun k hk =>
    Function.update_of_ne hk _ _
  have hself : (IpaNat.added s.cache n).rules n.entry = { n.rule with enable := true } :=
    Function.update_self _ _ _
  have hentries : ∀ x, x ≠ n.indxEntry → (IpaNat.added s.cache n).indx x =
      linkedIndx s.cache.indx n.indx.prevIndex n.indxEntry x := fun x hx =>
    Function.update_of_ne hx _ _
  have hpoint : (IpaNat.added s.cache n).indx n.indxEntry = ⟨n.entry, 0⟩ :=
    Function.update_self _ _ _
  have hfree : (s.cache.indx n.indxEntry).tblEntry = 0 := by
    simpa using h.indxSlot.unused
  have holder : ∀ l ∈ s.live, ((IpaNat.added s.cache n).rules l.slot).indxTblEntry =
      (s.cache.rules l.slot).indxTblEntry := by
    intro l hl
    rw [hrules _ (fresh l hl), linkedRules_indxTblEntry]
  have hnew : ((IpaNat.added s.cache n).rules n.entry).indxTblEntry = n.indxEntry := by
    rw [hself, h.rule]
  refine ⟨dst', src', hinv, hrule, hindx, ?_, ?_, ?_, ?_, ?_, ?_, ?_⟩
  · intro e he hoff
    change ((IpaNat.added s.cache n).rules e).enable = false at hoff
    change (IpaNat.added s.cache n).rules e = {}
    have hne : e ≠ n.entry := by
      rintro rfl
      rw [hself] at hoff
      exact absurd hoff Bool.noConfusion
    rw [hrules e hne] at hoff ⊢
    rw [linkedRules_enable] at hoff
    unfold linkedRules
    rw [if_neg, inv.zeroRule e he hoff]
    rintro ⟨hp, rfl⟩
    rw [inv.rulePrev_used h hp] at hoff
    exact absurd hoff (by decide)
  · intro x hx hoff
    change ((IpaNat.added s.cache n).indx x).tblEntry = 0 at hoff
    change (IpaNat.added s.cache n).indx x = {}
    have hne : x ≠ n.indxEntry := by
      rintro rfl
      rw [hpoint] at hoff
      exact h.entry_ne hoff
    rw [hentries x hne] at hoff ⊢
    rw [linkedIndx_tblEntry] at hoff
    unfold linkedIndx
    rw [if_neg, inv.zeroIndx x hx hoff]
    rintro ⟨hq, rfl⟩
    exact inv.indxPrev_used h hq hoff
  · intro l hl
    rcases List.mem_cons.mp hl with rfl | hl
    · exact hdnew
    · rcases List.mem_cons.mp (inv.onDst l hl) with he | hm
      · exact List.mem_cons.mpr (Or.inl he)
      · exact List.mem_cons_of_mem _ (hdmono _ _ hm)
  · intro l hl
    rcases List.mem_cons.mp hl with rfl | hl
    · change ((IpaNat.added s.cache n).rules n.entry).indxTblEntry ∈ _
      rw [hnew]
      exact hsnew
    · change ((IpaNat.added s.cache n).rules l.slot).indxTblEntry ∈ _
      rw [holder l hl]
      rcases List.mem_cons.mp (inv.onSrc l hl) with he | hm
      · exact List.mem_cons.mpr (Or.inl he)
      · exact List.mem_cons_of_mem _ (hsmono _ _ hm)
  · intro l hl
    rcases List.mem_cons.mp hl with rfl | hl
    · change ((IpaNat.added s.cache n).indx
        ((IpaNat.added s.cache n).rules n.entry).indxTblEntry).tblEntry = n.entry
      rw [hnew, hpoint]
    · change ((IpaNat.added s.cache n).indx
        ((IpaNat.added s.cache n).rules l.slot).indxTblEntry).tblEntry = l.slot
      have hne : (s.cache.rules l.slot).indxTblEntry ≠ n.indxEntry := fun he =>
        inv.points_ne hl (he ▸ hfree)
      rw [holder l hl, hentries _ hne, linkedIndx_tblEntry]
      exact inv.points l hl
  · intro x hx hused
    change ((IpaNat.added s.cache n).indx x).tblEntry ≠ 0 at hused
    by_cases hne : x = n.indxEntry
    · exact ⟨_, List.mem_cons_self, hne ▸ hnew⟩
    · rw [hentries x hne, linkedIndx_tblEntry] at hused
      obtain ⟨l, hl, he⟩ := inv.owner x hx hused
      exact ⟨l, List.mem_cons_of_mem _ hl, (holder l hl).trans he⟩
  · intro e he hon
    change ((IpaNat.added s.cache n).rules e).enable = true at hon
    by_cases hne : e = n.entry
    · exact Or.inl ⟨_, List.mem_cons_self, hne.symm⟩
    · rw [hrules e hne, linkedRules_enable] at hon
      rcases inv.inUse e he hon with ⟨l, hl, hs⟩ | ⟨hpos, hbase, hp, hn⟩
      · exact Or.inl ⟨l, List.mem_cons_of_mem _ hl, hs⟩
      · refine Or.inr ⟨hpos, hbase, ?_, ?_⟩
        · change ((IpaNat.added s.cache n).rules e).protocol = _
          rw [hrules e hne, linkedRules_protocol]
          exact hp
        · change ((IpaNat.added s.cache n).rules e).nextIndex ≠ 0
          rw [hrules e hne]
          unfold linkedRules
          split
          next => exact h.entry_ne
          next => exact hn

theorem HandleInv.add_placed (inv : HandleInv env s)
    {ret : Int} {hdl : Nat} {t : NatMem} (hv : PdnValid env r)
    (hc : chooseRule env r s.cache = some (some n)) (enable : io.enable = true)
    (h : ipaNatAddIpv4Rule env io r ⟨s.cache, []⟩ = some (ret, hdl, t)) :
    ret = 0 ∧ newSlot env r s.cache = n.entry ∧ ∃ i id cnt expnCnt, hdl = i + 1 ∧
      s.cache.ruleIdArray i = 0 ∧
      t.cache = ((placeRule io n ⟨s.cache, []⟩).cache.enableRule n.entry).withIds
        (Function.update s.cache.ruleIdArray i id) cnt expnCnt := by
  have hslot : newSlot env r s.cache = n.entry := by
    simp only [newSlot, hc]
  rcases ipaNatAddIpv4Rule_cases h with ⟨-, -, hnone⟩ | ⟨n', -, hc', h⟩
  · exact absurd ((hnone hv).symm.trans hc) (by simp)
  · cases Option.some.inj (Option.some.inj (hc.symm.trans hc'))
    rcases h with ⟨hoff, -, -⟩ | ⟨-, hmk, hret⟩
    · exact absurd (enable.symm.trans hoff) (by decide)
    · rcases ipaNatiMakeRuleHdl_cases hmk with ⟨hz, -, -⟩ | ⟨i, rfl, -, hi, -, rfl⟩
      · exact absurd hz (inv.hdl_ne_zero (chooseRule_placed hc) hmk)
      · refine ⟨hret.mpr (Nat.succ_ne_zero i), hslot, ?_⟩
        have hids : ((placeRule io n ⟨s.cache, []⟩).cache.enableRule n.entry).ruleIdArray =
            s.cache.ruleIdArray := (LinksOnly.placeRule io n _).ids
        simp only [NatMem.store_cache] at hi ⊢
        obtain ⟨cnt, expnCnt, heq⟩ := countEntry_setRuleId
          ((placeRule io n ⟨s.cache, []⟩).cache.enableRule n.entry) n.entry i
          (ruleId ((placeRule io n ⟨s.cache, []⟩).cache.enableRule n.entry).tableEntries n.entry)
        grind

theorem TableInv.add_cache (inv : TableInv env s dst src)
    {hdl : Nat} {t : NatMem} (meet : IoctlsMeet env r io s.cache) (fits : ¬WrapsLink env r s.cache)
    (h : ipaNatAddIpv4Rule env io r ⟨s.cache, []⟩ = some (0, hdl, t)) :
    ∃ n i id cnt expnCnt, Placed env r s.cache n ∧ newSlot env r s.cache = n.entry ∧
      hdl = i + 1 ∧ s.cache.ruleIdArray i = 0 ∧ t.cache = (IpaNat.added s.cache n).withIds
        (Function.update s.cache.ruleIdArray i id) cnt expnCnt := by
  rcases ipaNatAddIpv4Rule_cases h with ⟨hret, -, -⟩ | ⟨n, hv, hc, -⟩
  · exact absurd rfl hret
  · obtain ⟨-, hslot, i, id, cnt, expnCnt, hhdl, hi, hcache⟩ :=
      inv.toHandleInv.add_placed hv hc (meet n hv hc).1 h
    rw [inv.placeRule_added hv hc meet fits] at hcache
    exact ⟨n, i, id, cnt, expnCnt, chooseRule_placed hc, hslot, hhdl, hi, hcache⟩

theorem TableInv.add (inv : TableInv env s dst src) {ret : Int} {hdl : Nat} {t : NatMem}
    (meet : IoctlsMeet env r io s.cache) (fits : ¬WrapsLink env r s.cache)
    (h : ipaNatAddIpv4Rule env io r ⟨s.cache, []⟩ = some (ret, hdl, t)) :
    ∃ dst' src', TableInv env (afterAdd env s r ret hdl t) dst' src' := by
  have hinv := inv.toHandleInv.add h
  unfold afterAdd at hinv ⊢
  by_cases hret : ret = 0
  · subst hret
    obtain ⟨n, i, id, cnt, expnCnt, hplaced, hslot, -, -, hcache⟩ := inv.add_cache meet fits h
    rw [if_pos rfl, hslot, hcache] at hinv ⊢
    exact inv.added hplaced hinv
  · rcases ipaNatAddIpv4Rule_cases h with ⟨-, rfl, -⟩ | ⟨n, hv, hc, -⟩
    · rw [if_neg hret]
      exact ⟨dst, src, inv⟩
    · exact absurd (inv.toHandleInv.add_placed hv hc (meet n hv hc).1 h).1 hret

end DeviceHal.IpaNat
