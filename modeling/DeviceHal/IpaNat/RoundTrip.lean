import DeviceHal.IpaNat.Hitless

namespace DeviceHal.IpaNat

open Lib

variable {env : NatEnv} {s : NatSys} {dst src : Nat → List Nat} {r : IpaNatIpv4Rule} {n : NewRule}

/-- The tables and handles are bit for bit the same again, and so are the back links of the index
entries in use. -/
structure Restored (c u : Ip4TableCache) : Prop where
  base : u.tableEntries = c.tableEntries
  expn : u.expnTableEntries = c.expnTableEntries
  rules : u.rules = c.rules
  indx : u.indx = c.indx
  ids : u.ruleIdArray = c.ruleIdArray
  back : ∀ x, IsExpn c x → (c.indx x).tblEntry ≠ 0 →
    u.indexExpnTableMeta (x - c.tableEntries) = c.indexExpnTableMeta (x - c.tableEntries)

/-- A successful add is undone by the delete of its handle. -/
def RoundTrip (env : NatEnv) (s : NatSys) (r : IpaNatIpv4Rule) : Prop :=
  ∀ hdl t, ipaNatAddIpv4Rule env {} r ⟨s.cache, []⟩ = some (0, hdl, t) →
    ∃ u, ipaNatDelIpv4Rule true hdl ⟨t.cache, []⟩ = some (0, u) ∧ Restored s.cache u.cache

theorem added_rules_self (c : Ip4TableCache) (n : NewRule) :
    (added c n).rules n.entry = { n.rule with enable := true } :=
  Function.update_self _ _ _

theorem added_indx_self (c : Ip4TableCache) (n : NewRule) :
    (added c n).indx n.indxEntry = ⟨n.entry, 0⟩ :=
  Function.update_self _ _ _

theorem added_not_movesUp (c : Ip4TableCache) (n : NewRule) :
    ¬MovesUp (added c n) n.indxEntry := by
  intro hm
  have hnext := hm.2
  rw [added_indx_self] at hnext
  exact hnext rfl

theorem TableInv.added_nextAfterDel (inv : TableInv env s dst src) (h : Placed env r s.cache n)
    {k : Nat} (hk : k ≠ n.entry) :
    nextAfterDel (IpaNat.added s.cache n) n.entry k = (s.cache.rules k).nextIndex := by
  obtain ⟨hpos, hb⟩ := dstBucket_bound env inv.dims.baseLow inv.dims.baseHigh r
  have hrest : (IpaNat.added s.cache n).rules k =
      linkedRules s.cache.rules n.rule.prevIndex n.entry k := Function.update_of_ne hk _ _
  have hnext : n.rule.nextIndex = 0 := by
    rw [h.rule]
    rfl
  unfold nextAfterDel
  rw [added_rules_self, hrest]
  unfold linkedRules
  rcases (inv.ruleChoice h).prev_zero_or inv.ruleChains hb (by omega) with ⟨hp, he⟩ | ⟨hp, hcell⟩
  · have hbase : ¬s.cache.tableEntries < n.entry := by omega
    rw [if_neg fun h => hbase h.1, if_neg fun h => h.1 hp]
  · by_cases hkp : k = n.rule.prevIndex
    · rw [if_pos ⟨hcell.1, hkp.symm⟩, hkp]
      exact hnext.trans ((inv.add_ends h).2.1 hp).symm
    · rw [if_neg fun h => hkp h.2.symm, if_neg fun h => hkp h.2]

theorem TableInv.added_ruleAfter (inv : TableInv env s dst src) (h : Placed env r s.cache n)
    (k : Nat) : ruleAfter (IpaNat.added s.cache n) n.entry k = s.cache.rules k := by
  have hmove := added_not_movesUp s.cache n
  have hnext : n.rule.nextIndex = 0 := by
    rw [h.rule]
    rfl
  have hindx : n.rule.indxTblEntry = n.indxEntry := by
    rw [h.rule]
  unfold ruleAfter
  dsimp only
  rw [added_rules_self]
  dsimp only
  rw [hindx, hnext]
  by_cases hk : k = n.entry
  · rw [if_pos hk, if_neg fun h => h.2 rfl, hk]
    exact (inv.zeroRule _ (h.validEntry inv.dims).inTable h.ruleSlot.unused).symm
  · have hrest : (IpaNat.added s.cache n).rules k =
        linkedRules s.cache.rules n.rule.prevIndex n.entry k := Function.update_of_ne hk _ _
    rw [if_neg hk, if_neg fun h => h.2.1 rfl, if_neg fun h => hmove h.1,
      inv.added_nextAfterDel h hk, hrest]
    unfold linkedRules
    split <;> rfl

theorem TableInv.added_indxAfter (inv : TableInv env s dst src) (h : Placed env r s.cache n)
    (k : Nat) : indxAfter (IpaNat.added s.cache n) n.indxEntry k = s.cache.indx k := by
  obtain ⟨hpos, hb⟩ := srcBucket_bound inv.dims.baseLow inv.dims.baseHigh r
  unfold indxAfter
  rw [if_neg (added_not_movesUp s.cache n), added_indx_self]
  by_cases hk : k = n.indxEntry
  · rw [if_pos hk, hk]
    exact (inv.zeroIndx _ (h.validIndxEntry inv.dims).inTable (inv.add_ends h).2.2.2.1).symm
  · have hrest : (IpaNat.added s.cache n).indx k =
        linkedIndx s.cache.indx n.indx.prevIndex n.indxEntry k := Function.update_of_ne hk _ _
    rw [if_neg hk, hrest]
    unfold linkedIndx
    rcases (inv.indxChoice h).prev_zero_or inv.indxChains hb (by omega) with
      ⟨hq, he⟩ | ⟨hq, hcell⟩
    · have hbase : ¬s.cache.tableEntries < n.indxEntry := by omega
      rw [if_neg fun h => hbase h.1, if_neg fun h => h.1 hq]
    · have hmeta : (IpaNat.added s.cache n).indexExpnTableMeta
          (n.indxEntry - s.cache.tableEntries) = n.indx.prevIndex := by
        unfold IpaNat.added
        dsimp only
        rw [if_pos hcell.1.le, Function.update_self]
      by_cases hkq : k = n.indx.prevIndex
      · rw [if_pos ⟨hcell.1, hkq.trans hmeta.symm⟩, if_pos ⟨hq, hkq⟩, hkq]
        rw [← (inv.add_ends h).2.2.2.2 hq]
      · rw [if_neg fun h => hkq (h.2.trans hmeta), if_neg fun h => hkq h.2]

theorem TableInv.added_metaAfter (inv : TableInv env s dst src) (h : Placed env r s.cache n)
    {x : Nat} (hx : IsExpn s.cache x) (hu : (s.cache.indx x).tblEntry ≠ 0) :
    metaAfter (IpaNat.added s.cache n) n.indxEntry (x - s.cache.tableEntries) =
      s.cache.indexExpnTableMeta (x - s.cache.tableEntries) := by
  have hne : x ≠ n.indxEntry := fun he => hu (he ▸ (inv.add_ends h).2.2.2.1)
  have hlt := hx.1
  unfold metaAfter
  rw [if_neg (added_not_movesUp s.cache n), added_indx_self, if_neg fun h => h.2 rfl]
  unfold IpaNat.added
  grind

theorem TableInv.not_deadHead (inv : TableInv env s dst src) (proto : NoDeadProto s) {e : Nat}
    (he : e < s.cache.tableEntries) : ¬isDeadHead (s.cache.rules e) = true := by
  rw [isDeadHead_iff]
  rintro ⟨hp, hn⟩
  cases hon : (s.cache.rules e).enable with
  | false =>
    rw [inv.zeroRule e (Or.inl he) hon] at hp
    exact absurd hp (by decide)
  | true =>
    rcases inv.inUse e (Or.inl he) hon with ⟨l, hl, rfl⟩ | ⟨-, -, -, hn'⟩
    · rw [inv.protocol hl] at hp
      exact proto l hl hp
    · exact hn' hn

theorem TableInv.added_retired (inv : TableInv env s dst src) (proto : NoDeadProto s)
    (h : Placed env r s.cache n) (ids : Nat → Nat) {i id cnt expnCnt cnt' expnCnt' : Nat}
    (hi : s.cache.ruleIdArray i = 0) (hids : ids = Function.update s.cache.ruleIdArray i id) :
    Restored s.cache ((IpaNat.retired ((IpaNat.added s.cache n).withIds ids cnt expnCnt)
      n.entry).withIds (Function.update ids i 0) cnt' expnCnt') := by
  have hself : (((IpaNat.added s.cache n).withIds ids cnt expnCnt).rules n.entry).indxTblEntry =
      n.indxEntry := by
    change ((IpaNat.added s.cache n).rules n.entry).indxTblEntry = _
    rw [added_rules_self, h.rule]
  refine ⟨rfl, rfl, funext fun k => ?_, funext fun k => ?_, ?_, fun x hx hu => ?_⟩
  · change (IpaNat.retired (IpaNat.added s.cache n) n.entry).rules k = _
    rw [retired_rules, inv.added_ruleAfter h]
    exact if_neg fun hd => inv.not_deadHead proto hd.1 hd.2
  · change indxAfter (IpaNat.added s.cache n) (((IpaNat.added s.cache n).withIds ids cnt
      expnCnt).rules n.entry).indxTblEntry k = _
    rw [hself, inv.added_indxAfter h]
  · change Function.update ids i 0 = _
    rw [hids, Function.update_idem, ← hi, Function.update_eq_self]
  · change metaAfter (IpaNat.added s.cache n) (((IpaNat.added s.cache n).withIds ids cnt
      expnCnt).rules n.entry).indxTblEntry _ = _
    rw [hself, inv.added_metaAfter h hx hu]

theorem TableInv.roundTrip (inv : TableInv env s dst src) (proto : NoDeadProto s)
    (fits : ¬WrapsLink env r s.cache) : RoundTrip env s r := by
  intro hdl t hadd
  have meet : IoctlsMeet env r {} s.cache := fun _ _ _ => ⟨rfl, fun _ => rfl, fun _ => rfl⟩
  obtain ⟨n, i, id, cnt, expnCnt, hplaced, hslot, rfl, hi, hcache⟩ := inv.add_cache meet fits hadd
  obtain ⟨dst', src', inv'⟩ := inv.add meet fits hadd
  unfold afterAdd at inv'
  rw [if_pos rfl, hslot] at inv'
  have hlive : (⟨i + 1, n.entry, r⟩ : LiveRule) ∈ (⟨i + 1, n.entry, r⟩ :: s.live) :=
    List.mem_cons_self
  have hbound := (inv'.hdl _ hlive).2
  have hbase := inv'.dims.baseHigh
  have hexpn := inv'.dims.expnHigh
  have hsmall : i + 1 < 2 ^ 16 := by
    dsimp only at hbound hbase hexpn
    omega
  obtain ⟨⟨ret, u⟩, hd⟩ := Option.isSome_iff_exists.mp
    (inv'.toHandleInv.del_returns true (Or.inl hsmall))
  rcases inv'.del_cases hd with ⟨-, -, hno⟩ | ⟨rfl, l, hl, hh, cnt', expnCnt', hu⟩
  · exact absurd rfl (hno rfl _ hlive)
  · cases inv'.eq_of_hdl hl hlive hh
    refine ⟨u, hd, ?_⟩
    rw [hu]
    dsimp only
    rw [hcache]
    exact inv.added_retired proto hplaced _ hi rfl

theorem placeRule_meta (io : AddIoctls) (n : NewRule) (c : Ip4TableCache)
    (hx : c.tableEntries ≤ n.indxEntry) :
    (placeRule io n ⟨c, []⟩).cache.indexExpnTableMeta (n.indxEntry - c.tableEntries) =
      n.indx.prevIndex := by
  unfold placeRule
  dsimp only
  rw [ipaNatiCopyIpv4IndexRuleToHw_stages, ipaNatiCopyIpv4RuleToHw_stages, if_pos hx]
  have hset : Function.update c.indexExpnTableMeta (n.indxEntry - c.tableEntries)
      n.indx.prevIndex (n.indxEntry - c.tableEntries) = n.indx.prevIndex :=
    Function.update_self _ _ _
  split <;> split <;> exact hset

theorem placeRule_indxTblEntry (io : AddIoctls) (n : NewRule) (c : Ip4TableCache) :
    ((placeRule io n ⟨c, []⟩).cache.rules n.entry).indxTblEntry = n.rule.indxTblEntry := by
  have hset : (c.setRule n.entry n.rule).rules n.entry = n.rule := Function.update_self _ _ _
  rw [(placeRule_tables io n c).1]
  split
  next => rw [hset]
  next =>
    by_cases he : n.entry = n.rule.prevIndex
    · rw [← he]
      simp [Ip4TableCache.linkRule, Ip4TableCache.setRule]
    · simp [Ip4TableCache.linkRule, Ip4TableCache.setRule, he]

theorem TableInv.wrap_stays (inv : TableInv env s dst src) (wrap : WrapsLink env r s.cache) :
    ¬RoundTrip env s r := by
  intro trip
  obtain ⟨hv, ⟨n, hc⟩, hge, hu, hn⟩ := wrap
  have h := chooseRule_placed hc
  obtain ⟨hpos, hb⟩ := srcBucket_bound inv.dims.baseLow inv.dims.baseHigh r
  have hN := inv.dims.baseHigh
  have hnil := (inv.indxChains.linked _ hb).nil_iff.mp hn
  obtain ⟨hq, hcell, hfree⟩ : n.indx.prevIndex = srcBucket s.cache.tableEntries r ∧
      IsExpn s.cache n.indxEntry ∧ ¬(s.cache.indx n.indxEntry).tblEntry ≠ 0 := by
    rcases inv.indxChoice h with ⟨hno, -, -⟩ | ⟨-, hlast, hcell, hfree⟩
    · exact absurd hu hno
    · rw [hnil] at hlast
      exact ⟨hlast, hcell, hfree⟩
  generalize srcBucket s.cache.tableEntries r = b at hpos hb hge hu hn hnil hq
  have hreturns : (ipaNatAddIpv4Rule env {} r ⟨s.cache, []⟩).isSome :=
    ipaNatAddIpv4Rule_returns {} fun _ => inv.chooseRule_returns r
  obtain ⟨⟨ret, hdl, t⟩, hadd⟩ := Option.isSome_iff_exists.mp hreturns
  have hinv := inv.toHandleInv.add hadd
  obtain ⟨rfl, hslot, i, id, cnt, expnCnt, -, -, ht⟩ := inv.toHandleInv.add_placed hv hc rfl hadd
  have hbase : t.cache.tableEntries = s.cache.tableEntries := by
    rw [ht]
    exact (LinksOnly.placeRule {} n _).base
  have hexpn : t.cache.expnTableEntries = s.cache.expnTableEntries := by
    rw [ht]
    exact (LinksOnly.placeRule {} n _).expn
  have hself : (t.cache.rules n.entry).indxTblEntry = n.indxEntry := by
    rw [ht]
    simp only [Ip4TableCache.withIds, Ip4TableCache.enableRule, Ip4TableCache.setRule,
      Function.update_self]
    rw [placeRule_indxTblEntry, h.rule]
  have hmeta : t.cache.indexExpnTableMeta (n.indxEntry - s.cache.tableEntries) = b := by
    rw [ht, ← hq]
    exact placeRule_meta {} n s.cache hcell.1.le
  have hlink : (t.cache.indx (b % 2 ^ 14)).nextIndex = n.indxEntry := by
    have hto : linkSlot s.cache.tableEntries b = b % 2 ^ 14 := if_pos hb
    have hplace := (placeRule_tables {} n s.cache).2
    rw [hq, hto, if_neg (by simp; omega)] at hplace
    rw [ht]
    change ((placeRule {} n ⟨s.cache, []⟩).cache.indx _).nextIndex = _
    rw [hplace, linkIndx_indx, if_pos rfl]
  obtain ⟨u, hd, back⟩ := trip hdl t hadd
  unfold afterAdd at hinv
  rw [if_pos rfl, hslot] at hinv
  have hlive : (⟨hdl, n.entry, r⟩ : LiveRule) ∈ (⟨hdl, n.entry, r⟩ :: s.live) :=
    List.mem_cons_self
  rcases hinv.del_cases hd with ⟨hne, -, -⟩ | ⟨-, -, l, hl, hh, expn, entry, -, -, hu'⟩
  · exact hne rfl
  cases hinv.eq_of_hdl hl hlive hh
  have hmove : ¬MovesUp t.cache n.indxEntry := by
    rintro ⟨hlt, -⟩
    have := hcell.1
    omega
  have htable : InTable t.cache n.indxEntry := by
    unfold InTable IsExpn
    rw [hbase, hexpn]
    exact Or.inr hcell
  have hdrop := (@dropRule_indx t.cache n.entry entry (ipaNatiFindRulePos t.cache expn entry)
    (hself.symm ▸ htable) (hself.symm ▸ fun hm => absurd hm hmove)).1
  have hindx : u.cache.indx = indxAfter t.cache n.indxEntry := by
    rw [hu', NatMem.store_cache, ipaNatiDelDeadIpv4HeadNodes_cache, ← hself]
    exact hdrop
  have hlost : (s.cache.indx (b % 2 ^ 14)).nextIndex = n.indxEntry := by
    rw [← back.indx, hindx]
    unfold indxAfter
    have hlt := hcell.1
    rw [if_neg hmove, if_neg (by omega), if_neg, hlink]
    rintro ⟨-, he⟩
    rw [hbase, hmeta] at he
    omega
  have hnew := inv.indxChains.next_cell isExpn_not_base (h := b % 2 ^ 14) (by omega)
    List.mem_cons_self (by rw [hlost]; exact h.indxEntry_ne)
  rw [hlost] at hnew
  exact hfree (inv.indxChains.cell_used (by omega) hnew.1)

/-- An add is undone by the delete of its handle exactly if its index link does not wrap. -/
theorem roundTrip_iff {N M : Nat} (dims : TableDims N M)
    (reach : Reached (natStep env) (SoundOp env) (newTable N M) s) (r : IpaNatIpv4Rule) :
    RoundTrip env s r ↔ ¬WrapsLink env r s.cache := by
  obtain ⟨proto, dst, src, inv⟩ := sound_reached dims reach
  exact ⟨fun trip wrap => inv.wrap_stays wrap trip, inv.roundTrip proto⟩

theorem roundTrip_iff_second : ∃ s,
    runOps (natStep oneNetwork) (newTable 2 2) [.add (tcpRule 1) {}] = some s ∧
      (RoundTrip oneNetwork s { tcpRule 1 with publicPort := 2 } ↔
        ¬WrapsLink oneNetwork { tcpRule 1 with publicPort := 2 } s.cache) := by
  have meet : OpsMeet (natStep oneNetwork) (SoundOp oneNetwork) (newTable 2 2)
      [.add (tcpRule 1) {}] := by
    refine ⟨⟨by decide, fun _ _ _ => ⟨rfl, fun _ => rfl, fun _ => rfl⟩, fun h => ?_⟩,
      fun _ _ => trivial⟩
    exact absurd (wrapsLink_large (by decide) (by decide) h) (by decide)
  have hrun : (runOps (natStep oneNetwork) (newTable 2 2) [.add (tcpRule 1) {}]).isSome = true := by
    decide
  obtain ⟨s, hs⟩ := Option.isSome_iff_exists.mp hrun
  exact ⟨s, hs, roundTrip_iff ⟨by decide, by decide, by decide, by decide⟩ ⟨_, meet, hs⟩ _⟩

/-- With the connection of source hash 16662 in a table for 25000 entries, a second one of the same
hash leaves a link in the index entry 278 behind. -/
theorem second_indx_not_restored : ¬∀ (env : NatEnv) (N M : Nat) (s : NatSys) (r : IpaNatIpv4Rule),
    TableDims N M → Reached (natStep env) (fun _ op => PlainOp op) (newTable N M) s →
    r.protocol ≠ ipaNatInvalidProtoFieldCmp → RoundTrip env s r := by
  intro h
  have dims : TableDims 32768 5000 := ⟨by decide, by decide, by decide, by decide⟩
  have hrun : (runOps (natStep oneNetwork) (newTable 32768 5000)
      [.add (tcpRule 1) {}]).isSome = true := by
    decide
  obtain ⟨s, hs⟩ := Option.isSome_iff_exists.mp hrun
  have seen : (runOps (natStep oneNetwork) (newTable 32768 5000) [.add (tcpRule 1) {}]).map
      (fun t => ((chooseRule oneNetwork { tcpRule 1 with publicPort := 2 } t.cache).map Option.isSome,
        srcBucket t.cache.tableEntries { tcpRule 1 with publicPort := 2 },
        decide ((t.cache.indx 16662).tblEntry ≠ 0), (t.cache.indx 16662).nextIndex)) =
      some (some true, 16662, true, 0) := by decide
  rw [hs] at seen
  obtain ⟨hsome, hsrc, hused, hnext⟩ : _ ∧ _ ∧ _ ∧ _ := by
    simpa only [Option.map_some, Option.some.injEq, Prod.mk.injEq] using seen
  obtain ⟨choice, hc, hn⟩ := Option.map_eq_some_iff.mp hsome
  obtain ⟨n, rfl⟩ := Option.isSome_iff_exists.mp hn
  have wrap : WrapsLink oneNetwork { tcpRule 1 with publicPort := 2 } s.cache := by
    unfold WrapsLink
    rw [hsrc]
    exact ⟨⟨by decide, by decide⟩, ⟨n, hc⟩, by decide, of_decide_eq_true hused, hnext⟩
  have meet : OpsMeet (natStep oneNetwork) (SafeOp oneNetwork) (newTable 32768 5000)
      [.add (tcpRule 1) {}] := by
    refine ⟨⟨fun _ _ _ => ⟨rfl, fun _ => rfl, fun _ => rfl⟩, fun h => ?_⟩, fun _ _ => trivial⟩
    exact h.2.2.2.1 rfl
  obtain ⟨dst, src, inv⟩ := safe_reached dims ⟨_, meet, hs⟩
  have trip := h oneNetwork 32768 5000 s { tcpRule 1 with publicPort := 2 } dims
    ⟨[.add (tcpRule 1) {}], ⟨⟨by decide, rfl⟩, fun _ _ => trivial⟩, hs⟩ (by decide)
  exact inv.wrap_stays wrap trip

end DeviceHal.IpaNat
