import DeviceHal.IpaNat.Representation

namespace DeviceHal.IpaNat

open Lib

variable {env : NatEnv} {s : NatSys} {dst src : Nat → List Nat}

/-- What the hardware needs to translate the connection of `l` both ways: its slot is found from
the base slot of one hash, and an index entry pointing to it from that of the other. -/
def Shows (env : NatEnv) (c : Ip4TableCache) (l : LiveRule) : Prop :=
  Reaches (fun e => (c.rules e).nextIndex) 0 (dstBucket env c.tableEntries l.rule) l.slot ∧
    ∃ x, Reaches (fun e => (c.indx e).nextIndex) 0 (srcBucket c.tableEntries l.rule) x ∧
      (c.indx x).tblEntry = l.slot

theorem TableInv.shows (inv : TableInv env s dst src) {l : LiveRule} (hl : l ∈ s.live) :
    Shows env s.cache l := by
  have hd := (dstBucket_bound env inv.dims.baseLow inv.dims.baseHigh l.rule).2
  have hs := (srcBucket_bound inv.dims.baseLow inv.dims.baseHigh l.rule).2
  refine ⟨(inv.ruleChains.linked _ hd).reaches.mpr (List.mem_cons.mp (inv.onDst l hl)), _,
    (inv.indxChains.linked _ hs).reaches.mpr (List.mem_cons.mp (inv.onSrc l hl)), inv.points l hl⟩

/-- From `c` to `t` entries were only taken into use and linked behind ends of chains. -/
structure Grows (c t : Ip4TableCache) : Prop where
  base : t.tableEntries = c.tableEntries
  rule : ∀ e, (c.rules e).nextIndex ≠ 0 → (t.rules e).nextIndex = (c.rules e).nextIndex
  indx : ∀ x, (c.indx x).nextIndex ≠ 0 → (t.indx x).nextIndex = (c.indx x).nextIndex
  entry : ∀ x, (c.indx x).tblEntry ≠ 0 → (t.indx x).tblEntry = (c.indx x).tblEntry

namespace Grows

variable {c t : Ip4TableCache}

theorem refl (c : Ip4TableCache) : Grows c c :=
  ⟨rfl, fun _ _ => rfl, fun _ _ => rfl, fun _ _ => rfl⟩

theorem shows (g : Grows c t) {l : LiveRule} (hl : l.slot ≠ 0) (h : Shows env c l) :
    Shows env t l := by
  obtain ⟨hrule, x, hx, hp⟩ := h
  unfold Shows
  rw [g.base]
  refine ⟨hrule.mono g.rule, x, hx.mono g.indx, ?_⟩
  rw [g.entry x (by rw [hp]; exact hl), hp]

theorem same (g : Grows c t) {u : Ip4TableCache} (hN : u.tableEntries = t.tableEntries)
    (hr : u.rules = t.rules) (hi : u.indx = t.indx) : Grows c u := by
  refine ⟨hN.trans g.base, ?_, ?_, ?_⟩
  · rw [hr]
    exact g.rule
  · rw [hi]
    exact g.indx
  · rw [hi]
    exact g.entry

theorem setRule (g : Grows c t) {e : Nat} (he : (c.rules e).nextIndex = 0) (r : IpaNatRule) :
    Grows c (t.setRule e r) := by
  refine ⟨g.base, fun k hk => ?_, g.indx, g.entry⟩
  have hne : k ≠ e := fun h => hk (h ▸ he)
  simp only [Ip4TableCache.setRule, Function.update_of_ne hne]
  exact g.rule k hk

theorem setIndx (g : Grows c t) {x : Nat} (hx : (c.indx x).nextIndex = 0)
    {v : IpaNatIndxTblRule} (hv : (c.indx x).tblEntry ≠ 0 → v.tblEntry = (c.indx x).tblEntry) :
    Grows c (t.setIndx x v) := by
  refine ⟨g.base, g.rule, fun k hk => ?_, fun k hk => ?_⟩
  · have hne : k ≠ x := fun h => hk (h ▸ hx)
    simp only [Ip4TableCache.setIndx, Function.update_of_ne hne]
    exact g.indx k hk
  · by_cases hne : k = x
    · subst hne
      simp only [Ip4TableCache.setIndx, Function.update_self]
      exact hv hk
    · simp only [Ip4TableCache.setIndx, Function.update_of_ne hne]
      exact g.entry k hk

end Grows

theorem LogAll.mono {P Q : Ip4TableCache → Prop} {m : NatMem} (h : LogAll P m)
    (sub : ∀ c, P c → Q c) : LogAll Q m :=
  fun c hc => sub c (h c hc)

/-- The tables grew up to now and at every store before. -/
def GrowsLog (c : Ip4TableCache) (m : NatMem) : Prop := LogAll (Grows c) m ∧ Grows c m.cache

theorem GrowsLog.store {c : Ip4TableCache} {m : NatMem} {f : Ip4TableCache → Ip4TableCache}
    (h : GrowsLog c m) (hf : Grows c m.cache → Grows c (f m.cache)) : GrowsLog c (m.store f) :=
  ⟨h.1.store (hf h.2), hf h.2⟩

variable {r : IpaNatIpv4Rule}

theorem TableInv.add_ends (inv : TableInv env s dst src) {n : NewRule}
    (h : Placed env r s.cache n) :
    (s.cache.rules n.entry).nextIndex = 0 ∧
    (n.rule.prevIndex ≠ 0 → (s.cache.rules n.rule.prevIndex).nextIndex = 0) ∧
    (s.cache.indx n.indxEntry).nextIndex = 0 ∧ (s.cache.indx n.indxEntry).tblEntry = 0 ∧
    (n.indx.prevIndex ≠ 0 → (s.cache.indx n.indx.prevIndex).nextIndex = 0) := by
  have hd := (dstBucket_bound env inv.dims.baseLow inv.dims.baseHigh r).2
  have hs := (srcBucket_bound inv.dims.baseLow inv.dims.baseHigh r).2
  have hfree : (s.cache.indx n.indxEntry).tblEntry = 0 := by
    simpa using h.indxSlot.unused
  have hzero := inv.zeroIndx _ (h.validIndxEntry inv.dims).inTable hfree
  refine ⟨?_, fun hp => ?_, ?_, hfree, fun hq => ?_⟩
  · rw [inv.zeroRule _ (h.validEntry inv.dims).inTable h.ruleSlot.unused]
  · rcases inv.ruleChoice h with ⟨-, -, hz⟩ | ⟨-, hlast, -, -⟩
    · exact absurd hz hp
    · rw [hlast]
      exact (inv.ruleChains.linked _ hd).last
  · rw [hzero]
  · rcases inv.indxChoice h with ⟨-, -, hz⟩ | ⟨-, hlast, -, -⟩
    · exact absurd hz hq
    · rw [hlast]
      exact (inv.indxChains.linked _ hs).last

theorem TableInv.placeRule_grows (inv : TableInv env s dst src) (io : AddIoctls)
    {n : NewRule} (h : Placed env r s.cache n)
    (fits : linkSlot s.cache.tableEntries n.indx.prevIndex = n.indx.prevIndex) :
    GrowsLog s.cache (placeRule io n ⟨s.cache, []⟩) := by
  obtain ⟨he, hp, hx, hfree, hq⟩ := inv.add_ends h
  have start : GrowsLog s.cache ⟨s.cache, []⟩ := ⟨LogAll.nil _ _, Grows.refl _⟩
  have noted : GrowsLog s.cache (if n.indxEntry ≥ s.cache.tableEntries then
      (⟨s.cache, []⟩ : NatMem).store fun c => c.setMeta (n.indxEntry - c.tableEntries)
        n.indx.prevIndex else ⟨s.cache, []⟩) := by
    split
    next => exact start.store fun g => g.same rfl rfl rfl
    next => exact start
  unfold placeRule
  dsimp only
  generalize (if n.indxEntry ≥ s.cache.tableEntries then _ else _) = u at noted ⊢
  have copied : GrowsLog s.cache (ipaNatiCopyIpv4RuleToHw io.linkRule u n.rule n.entry) := by
    rw [ipaNatiCopyIpv4RuleToHw_stages]
    split
    next => exact noted.store fun g => g.setRule he _
    next hlink =>
      have hp0 : n.rule.prevIndex ≠ 0 := fun hz => hlink (Or.inl hz)
      exact (noted.store fun g => g.setRule he _).store fun g => g.setRule (hp hp0) _
  generalize ipaNatiCopyIpv4RuleToHw io.linkRule u n.rule n.entry = v at copied ⊢
  rw [ipaNatiCopyIpv4IndexRuleToHw_stages]
  split
  next => exact copied.store fun g => g.setIndx hx fun hne => absurd hfree hne
  next hlink =>
    have hq0 : n.indx.prevIndex ≠ 0 := fun hz => hlink (Or.inl hz)
    refine (copied.store fun g => g.setIndx hx fun hne => absurd hfree hne).store fun g => ?_
    have hN : (v.store fun c => c.setIndx n.indxEntry
        ⟨n.indx.tblEntry, n.indx.nextIndex⟩).cache.tableEntries = s.cache.tableEntries := g.base
    rw [hN, fits]
    exact g.setIndx (hq hq0) fun hne => g.entry _ hne

theorem TableInv.add_grows (inv : TableInv env s dst src) {io : AddIoctls}
    {ret : Int} {hdl : Nat} {t : NatMem} (fits : ¬WrapsLink env r s.cache)
    (h : ipaNatAddIpv4Rule env io r ⟨s.cache, []⟩ = some (ret, hdl, t)) :
    LogAll (Grows s.cache) t := by
  rcases ipaNatAddIpv4Rule_cases h with ⟨-, rfl, -⟩ | ⟨n, hv, hc, h⟩
  · exact LogAll.nil _ _
  · have hp := chooseRule_placed hc
    have placed := inv.placeRule_grows io hp (inv.link_fits hv hc fits)
    rcases h with ⟨-, -, rfl⟩ | ⟨-, hmk, -⟩
    · exact placed.1
    · have enabled := placed.store (f := fun c => c.enableRule n.entry) fun g =>
        g.setRule (inv.add_ends hp).1 _
      have counted := enabled.store (f := countEntry n.entry) fun g =>
        g.same (countEntry_base _ _) (countEntry_rules _ _) (countEntry_indx _ _)
      rcases ipaNatiMakeRuleHdl_cases hmk with ⟨-, rfl, -⟩ | ⟨i, -, -, -, -, rfl⟩
      · exact counted.1
      · exact (counted.store fun g => g.same rfl rfl rfl).1

end DeviceHal.IpaNat

namespace DeviceHal.IpaNat

open Lib

variable {env : NatEnv} {s : NatSys} {dst src : Nat → List Nat}

/-- The four tables and `rule_id_array` have the same contents. -/
def SameTables (c t : Ip4TableCache) : Prop :=
  t.rules = c.rules ∧ t.indx = c.indx ∧ t.ruleIdArray = c.ruleIdArray

/-- An add that fails leaves the tables as they were; one that succeeds leaves its rule enabled and
found by both hashes. -/
def AddAtomic (env : NatEnv) (s : NatSys) (r : IpaNatIpv4Rule) (io : AddIoctls) : Prop :=
  ∀ ret hdl t, ipaNatAddIpv4Rule env io r ⟨s.cache, []⟩ = some (ret, hdl, t) →
    (ret ≠ 0 → SameTables s.cache t.cache) ∧
    (ret = 0 → (t.cache.rules (newSlot env r s.cache)).enable = true ∧
      Shows env t.cache ⟨hdl, newSlot env r s.cache, r⟩)

def DelAtomic (s : NatSys) (h : Nat) (ok : Bool) : Prop :=
  ∀ ret t, ipaNatDelIpv4Rule ok h ⟨s.cache, []⟩ = some (ret, t) → ret ≠ 0 →
    SameTables s.cache t.cache

theorem ipaNatDelIpv4Rule_atomic (s : NatSys) (h : Nat) (ok : Bool) : DelAtomic s h ok := by
  intro ret t hd hret
  rcases ipaNatDelIpv4Rule_cases hd with ⟨-, rfl, -⟩ | ⟨hz, -⟩
  · exact ⟨rfl, rfl, rfl⟩
  · exact absurd hz hret

theorem placeRule_tables (io : AddIoctls) (n : NewRule) (c : Ip4TableCache) :
    (placeRule io n ⟨c, []⟩).cache.rules =
      (if n.rule.prevIndex = 0 ∨ io.linkRule = false then c.setRule n.entry n.rule
      else (c.setRule n.entry n.rule).linkRule n.rule.prevIndex n.entry).rules ∧
    (placeRule io n ⟨c, []⟩).cache.indx =
      (if n.indx.prevIndex = 0 ∨ io.linkIndx = false then
        c.setIndx n.indxEntry ⟨n.indx.tblEntry, n.indx.nextIndex⟩
      else (c.setIndx n.indxEntry ⟨n.indx.tblEntry, n.indx.nextIndex⟩).linkIndx
        (linkSlot c.tableEntries n.indx.prevIndex) n.indxEntry).indx := by
  unfold placeRule
  dsimp only
  rw [ipaNatiCopyIpv4IndexRuleToHw_stages, ipaNatiCopyIpv4RuleToHw_stages]
  constructor
  · split <;> split <;> split <;> rfl
  · split <;> split <;> split <;> rfl

theorem placeRule_entry (io : AddIoctls) (n : NewRule) (c : Ip4TableCache) :
    ((placeRule io n ⟨c, []⟩).cache.indx n.indxEntry).tblEntry = n.indx.tblEntry := by
  have hset : (c.setIndx n.indxEntry ⟨n.indx.tblEntry, n.indx.nextIndex⟩).indx n.indxEntry =
      ⟨n.indx.tblEntry, n.indx.nextIndex⟩ := Function.update_self _ _ _
  rw [(placeRule_tables io n c).2]
  grind [linkIndx_indx]

variable {r : IpaNatIpv4Rule}

theorem TableInv.add_atomic (inv : TableInv env s dst src) {io : AddIoctls}
    (meet : IoctlsMeet env r io s.cache) (fits : ¬WrapsLink env r s.cache) :
    AddAtomic env s r io := by
  intro ret hdl t h
  constructor
  · intro hret
    rcases ipaNatAddIpv4Rule_cases h with ⟨-, rfl, -⟩ | ⟨n, hv, hc, -⟩
    · exact ⟨rfl, rfl, rfl⟩
    · exact absurd (inv.toHandleInv.add_placed hv hc (meet n hv hc).1 h).1 hret
  · intro hret
    obtain ⟨dst', src', inv'⟩ := inv.add meet fits h
    unfold afterAdd at inv'
    rw [if_pos hret] at inv'
    exact ⟨inv'.enabled List.mem_cons_self, inv'.shows List.mem_cons_self⟩

theorem TableInv.rule_hidden (inv : TableInv env s dst src) {n : NewRule}
    (h : Placed env r s.cache n) (hp : n.rule.prevIndex ≠ 0) {t : Ip4TableCache}
    (same : ∀ k, (t.rules k).nextIndex = (s.cache.rules k).nextIndex) :
    ¬Reaches (fun e => (t.rules e).nextIndex) 0 (dstBucket env s.cache.tableEntries r) n.entry := by
  have hb := (dstBucket_bound env inv.dims.baseLow inv.dims.baseHigh r).2
  intro hreach
  have chains := inv.ruleChains.toChains.congr fun e _ => same e
  have hfree := h.ruleSlot.unused
  rcases inv.ruleChoice h with ⟨-, -, hz⟩ | ⟨hu, -, -, -⟩
  · exact hp hz
  · rcases (chains.linked _ hb).reaches.mp hreach with he | hm
    · grind
    · exact Bool.noConfusion (hfree.symm.trans (inv.ruleChains.cell_used hb hm))

theorem TableInv.indx_hidden (inv : TableInv env s dst src) {n : NewRule}
    (h : Placed env r s.cache n) {t : Ip4TableCache}
    (same : ∀ k ∈ srcBucket s.cache.tableEntries r :: src (srcBucket s.cache.tableEntries r),
      (t.indx k).nextIndex = (s.cache.indx k).nextIndex ∧
        (t.indx k).tblEntry = (s.cache.indx k).tblEntry) :
    ¬∃ x, Reaches (fun e => (t.indx e).nextIndex) 0 (srcBucket s.cache.tableEntries r) x ∧
      (t.indx x).tblEntry = n.entry := by
  have hb := (srcBucket_bound inv.dims.baseLow inv.dims.baseHigh r).2
  rintro ⟨x, hreach, hx⟩
  have hlink := (inv.indxChains.linked _ hb).congr fun k hk => (same k hk).1
  have hm := List.mem_cons.mpr (hlink.reaches.mp hreach)
  rw [(same x hm).2] at hx
  have htable : InTable s.cache x := by
    rcases List.mem_cons.mp hm with he | hc
    · exact Or.inl (he ▸ hb)
    · exact Or.inr (inv.indxChains.isCell _ hb _ hc)
  obtain ⟨l, hl, hlx⟩ := inv.owner x htable (hx ▸ h.entry_ne)
  refine inv.fresh h l hl ?_
  rw [← inv.points l hl, hlx, hx]

theorem TableInv.indx_fresh (inv : TableInv env s dst src) {n : NewRule}
    (h : Placed env r s.cache n) (hq : n.indx.prevIndex ≠ 0) :
    n.indxEntry ∉
      srcBucket s.cache.tableEntries r :: src (srcBucket s.cache.tableEntries r) := by
  have hb := (srcBucket_bound inv.dims.baseLow inv.dims.baseHigh r).2
  intro hm
  rcases inv.indxChoice h with ⟨-, -, hz⟩ | ⟨hu, -, -, hfree⟩
  · exact hq hz
  · rcases List.mem_cons.mp hm with he | hc
    · exact hfree (he ▸ hu)
    · exact hfree (inv.indxChains.cell_used hb hc)

theorem TableInv.add_safe (inv : TableInv env s dst src) {io : AddIoctls}
    (atomic : AddAtomic env s r io) :
    IoctlsMeet env r io s.cache ∧ ¬WrapsLink env r s.cache := by
  have hreturns : (ipaNatAddIpv4Rule env io r ⟨s.cache, []⟩).isSome :=
    ipaNatAddIpv4Rule_returns io fun _ => inv.chooseRule_returns r
  obtain ⟨⟨ret, hdl, t⟩, hadd⟩ := Option.isSome_iff_exists.mp hreturns
  obtain ⟨herr, hok⟩ := atomic ret hdl t hadd
  have key : ∀ n, PdnValid env r → chooseRule env r s.cache = some (some n) →
      io.enable = true ∧ newSlot env r s.cache = n.entry ∧
      t.cache.rules = ((placeRule io n ⟨s.cache, []⟩).cache.enableRule n.entry).rules ∧
      t.cache.indx = (placeRule io n ⟨s.cache, []⟩).cache.indx ∧
      Shows env t.cache ⟨hdl, n.entry, r⟩ ∧ t.cache.tableEntries = s.cache.tableEntries := by
    intro n hv hc
    have h := chooseRule_placed hc
    have hslot : newSlot env r s.cache = n.entry := by
      simp only [newSlot, hc]
    have hen : io.enable = true := by
      rcases ipaNatAddIpv4Rule_cases hadd with ⟨-, -, hnone⟩ | ⟨n', -, hc', hcase⟩
      · exact absurd ((hnone hv).symm.trans hc) (by simp)
      · cases Option.some.inj (Option.some.inj (hc.symm.trans hc'))
        rcases hcase with ⟨-, hret, rfl⟩ | ⟨hen, -, -⟩
        · -- the new index entry is left behind although the call failed
          exfalso
          have hsame := (herr hret).2.1
          have hfree : (s.cache.indx n.indxEntry).tblEntry = 0 := by
            simpa using h.indxSlot.unused
          rw [← hsame, placeRule_entry, h.indx] at hfree
          exact h.entry_ne hfree
        · exact hen
    obtain ⟨hret, -, i, id, cnt, expnCnt, -, -, ht⟩ := inv.toHandleInv.add_placed hv hc hen hadd
    have hshow := (hok hret).2
    rw [hslot] at hshow
    have hN : t.cache.tableEntries = s.cache.tableEntries := by
      rw [ht]
      exact (LinksOnly.placeRule io n _).base
    refine ⟨hen, hslot, ?_, ?_, hshow, hN⟩
    · rw [ht]
      rfl
    · rw [ht]
      rfl
  have meet : IoctlsMeet env r io s.cache := by
    intro n hv hc
    have h := chooseRule_placed hc
    obtain ⟨hen, -, hrules, hindx, ⟨hdst, hsrc⟩, hN⟩ := key n hv hc
    rw [hN] at hdst hsrc
    refine ⟨hen, fun hp => ?_, fun hq => ?_⟩
    · by_contra hoff
      refine inv.rule_hidden h hp (fun k => ?_) hdst
      have hzero : n.rule.nextIndex = 0 := by
        rw [h.rule]
        rfl
      have hcopy := (placeRule_tables io n s.cache).1
      rw [if_pos (Or.inr (by simpa using hoff))] at hcopy
      rw [hrules, enableRule_next, hcopy]
      exact setRule_next (hzero.trans (inv.add_ends h).1.symm) k
    · by_contra hoff
      refine inv.indx_hidden h (fun k hk => ?_) hsrc
      have hcopy := (placeRule_tables io n s.cache).2
      rw [if_pos (Or.inr (by simpa using hoff))] at hcopy
      have hne : k ≠ n.indxEntry := fun he => inv.indx_fresh h hq (he ▸ hk)
      have hsame : t.cache.indx k = s.cache.indx k := by
        rw [hindx, hcopy]
        exact Function.update_of_ne hne _ _
      rw [hsame]
      exact ⟨rfl, rfl⟩
  refine ⟨meet, ?_⟩
  rintro ⟨hv, ⟨n, hc⟩, hge, hu, hn⟩
  have h := chooseRule_placed hc
  obtain ⟨-, -, -, hindx, ⟨-, hsrc⟩, hN⟩ := key n hv hc
  obtain ⟨hpos, hb⟩ := srcBucket_bound inv.dims.baseLow inv.dims.baseHigh r
  have hnil := (inv.indxChains.linked _ hb).nil_iff.mp hn
  have hq : n.indx.prevIndex = srcBucket s.cache.tableEntries r := by
    rcases inv.indxChoice h with ⟨hfree, -, -⟩ | ⟨-, hlast, -, -⟩
    · exact absurd hu hfree
    · rw [hlast, hnil]
      rfl
  have hq0 : n.indx.prevIndex ≠ 0 := by omega
  rw [hN] at hsrc
  refine inv.indx_hidden h (fun k hk => ?_) hsrc
  have hne : k ≠ n.indxEntry := fun he => inv.indx_fresh h hq0 (he ▸ hk)
  rw [hnil, List.mem_singleton] at hk
  have hcopy := (placeRule_tables io n s.cache).2
  rw [if_neg (by simp [hq0, (meet n hv hc).2.2 hq0])] at hcopy
  have hslot : k ≠ linkSlot s.cache.tableEntries n.indx.prevIndex := by
    unfold linkSlot
    rw [hk, hq, if_pos hb]
    omega
  have hsame : t.cache.indx k = s.cache.indx k := by
    rw [hindx, hcopy, linkIndx_indx, if_neg hslot]
    exact Function.update_of_ne hne _ _
  rw [hsame]
  exact ⟨rfl, rfl⟩

end DeviceHal.IpaNat
