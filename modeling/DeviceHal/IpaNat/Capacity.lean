import DeviceHal.IpaNat.Representation

namespace DeviceHal.IpaNat

open Lib

variable {env : NatEnv} {s : NatSys} {dst src : Nat → List Nat}

/-- The base slot of the rule is in use, and so is every slot of the expansion table. -/
def RulesFull (env : NatEnv) (r : IpaNatIpv4Rule) (c : Ip4TableCache) : Prop :=
  (c.rules (dstBucket env c.tableEntries r)).enable = true ∧
    ∀ i, 0 < i → i < c.expnTableEntries → (c.rules (c.tableEntries + i)).enable = true

def IndxFull (r : IpaNatIpv4Rule) (c : Ip4TableCache) : Prop :=
  (c.indx (srcBucket c.tableEntries r)).tblEntry ≠ 0 ∧
    ∀ i, 0 < i → i < c.expnTableEntries → (c.indx (c.tableEntries + i)).tblEntry ≠ 0

/-- An add of a rule of a configured network fails exactly if one of the tables is full for it,
and gives a handle otherwise. -/
def CapacityLaw (env : NatEnv) (s : NatSys) : Prop :=
  ∀ r, PdnValid env r → ∃ ret hdl t, ipaNatAddIpv4Rule env {} r ⟨s.cache, []⟩ = some (ret, hdl, t) ∧
    (ret ≠ 0 ↔ RulesFull env r s.cache ∨ IndxFull r s.cache) ∧ (ret = 0 → hdl ≠ 0)

theorem expnFreeEntry_eq_zero_iff {free : Nat → Bool} {size : Nat} :
    expnFreeEntry free size = 0 ↔ ∀ i, 0 < i → i < size → free i = false := by
  unfold expnFreeEntry
  constructor
  · intro h i hpos hlt
    cases hf : (List.range' 1 (size - 1)).find? free with
    | none =>
      grind
    | some j =>
      grind
  · intro h
    have hnone : (List.range' 1 (size - 1)).find? free = none := by
      refine List.find?_eq_none.mpr fun i hi => ?_
      have hm := List.mem_range'_1.mp hi
      simp [h i (by omega) (by omega)]
    simp [hnone]

theorem TableInv.tblRule_full_iff (inv : TableInv env s dst src) (r : IpaNatIpv4Rule) :
    ∃ sw e, ipaNatiGenerateTblRule env r s.cache = some (sw, e) ∧
      (e = 0 ↔ RulesFull env r s.cache) := by
  obtain ⟨hpos, hb⟩ := dstBucket_bound env inv.dims.baseLow inv.dims.baseHigh r
  have hlast := inv.ruleChains.last_ne_null hb (Nat.ne_of_gt hpos)
  unfold ipaNatiGenerateTblRule RulesFull
  dsimp only
  split
  next hfree =>
    refine ⟨_, _, rfl, ?_⟩
    simp [hfree, Nat.ne_of_gt hpos]
  next hused =>
    rw [inv.rule_prevEntry hb, Option.map_some, ipaNatInvalidNatEntry, if_neg hlast]
    have hzero : ipaNatiExpnTblFreeEntry s.cache = 0 ↔ ∀ i, 0 < i →
        i < s.cache.expnTableEntries →
          (s.cache.rules (s.cache.tableEntries + i)).enable = true := by
      unfold ipaNatiExpnTblFreeEntry
      rw [expnFreeEntry_eq_zero_iff]
      simp
    split
    next hnone =>
      grind
    grind

theorem TableInv.indexRule_full_iff (inv : TableInv env s dst src) (r : IpaNatIpv4Rule)
    (isw : IpaNatIndxTblSwRule) :
    ∃ sw x, ipaNatiGenerateIndexRule r isw s.cache = some (sw, x) ∧
      (x = 0 ↔ IndxFull r s.cache) := by
  obtain ⟨hpos, hb⟩ := srcBucket_bound inv.dims.baseLow inv.dims.baseHigh r
  have hlast := inv.indxChains.last_ne_null hb (Nat.ne_of_gt hpos)
  unfold ipaNatiGenerateIndexRule IndxFull
  dsimp only
  split
  next hfree =>
    refine ⟨_, _, rfl, ?_⟩
    simp [hfree, Nat.ne_of_gt hpos]
  next hused =>
    have hprev := inv.indxChains.last_used hb hused
    rw [inv.indx_prevEntry hb, Option.map_some, ipaNatInvalidNatEntry, if_neg hlast]
    have hzero : ipaNatiIndexExpnGetFreeEntry s.cache = 0 ↔ ∀ i, 0 < i →
        i < s.cache.expnTableEntries →
          (s.cache.indx (s.cache.tableEntries + i)).tblEntry ≠ 0 := by
      unfold ipaNatiIndexExpnGetFreeEntry
      rw [expnFreeEntry_eq_zero_iff]
      simp
    split
    next hnone =>
      grind
    next hsome =>
      obtain ⟨-, -, hfree⟩ := expnFreeEntry_found
        (k := ipaNatiIndexExpnGetFreeEntry s.cache) rfl hsome
      have hother : lastCell (srcBucket s.cache.tableEntries r)
          (src (srcBucket s.cache.tableEntries r)) ≠
            ipaNatiIndexExpnGetFreeEntry s.cache + s.cache.tableEntries := by
        intro he
        rw [he, Nat.add_comm] at hprev
        exact hprev (of_decide_eq_true hfree)
      grind

theorem TableInv.chooseRule_none_iff (inv : TableInv env s dst src) (r : IpaNatIpv4Rule) :
    chooseRule env r s.cache = some none ↔ RulesFull env r s.cache ∨ IndxFull r s.cache := by
  obtain ⟨sw, e, hg, he⟩ := inv.tblRule_full_iff r
  unfold chooseRule
  rw [hg, Option.bind_some]
  dsimp only
  split
  next hz => exact ⟨fun _ => Or.inl (he.mp hz), fun _ => rfl⟩
  next hn =>
    obtain ⟨isw, x, hi, hx⟩ := inv.indexRule_full_iff r { tblEntry := e }
    rw [hi, Option.map_some]
    dsimp only
    split
    next hz => exact ⟨fun _ => Or.inr (hx.mp hz), fun _ => rfl⟩
    next hp =>
      constructor
      · intro h
        simp at h
      · rintro (hfull | hfull)
        · exact absurd (he.mpr hfull) hn
        · exact absurd (hx.mpr hfull) hp

theorem TableInv.capacityLaw (inv : TableInv env s dst src) : CapacityLaw env s := by
  intro r hv
  have hreturns : (ipaNatAddIpv4Rule env {} r ⟨s.cache, []⟩).isSome :=
    ipaNatAddIpv4Rule_returns {} fun _ => inv.chooseRule_returns r
  obtain ⟨⟨ret, hdl, t⟩, h⟩ := Option.isSome_iff_exists.mp hreturns
  refine ⟨ret, hdl, t, h, ?_⟩
  rw [← inv.chooseRule_none_iff r]
  rcases ipaNatAddIpv4Rule_cases h with ⟨hret, -, hnone⟩ | ⟨n, -, hc, -⟩
  · grind
  · obtain ⟨hz, -, i, -, -, -, rfl, -, -⟩ := inv.toHandleInv.add_placed hv hc rfl h
    grind

theorem HandleInv.notAlias_of_del (inv : HandleInv env s) {h : Nat} {ret : Int} {t : NatMem}
    (hd : ipaNatDelIpv4Rule true h ⟨s.cache, []⟩ = some (ret, t)) : NotAlias s h := by
  by_cases hsmall : h < 2 ^ 16
  · exact Or.inl hsmall
  have h0 : h ≠ 0 := by omega
  have hb := inv.dims.baseHigh
  have hx := inv.dims.expnHigh
  rcases ipaNatDelIpv4Rule_cases hd with ⟨-, -, hwhy⟩ | ⟨-, -, -, -, -, -, -, -, hlt, -⟩
  · obtain ⟨expn, entry, hp, hdead⟩ := hwhy rfl h0
    refine Or.inr ⟨fun hz => ?_, fun l hl hh => ?_⟩
    · have hnone := inv.parse_dead (g := 0) fun l hl => Nat.ne_of_gt (inv.hdl l hl).1
      rw [hz] at hp
      exact absurd (hp.symm.trans hnone) (by simp)
    · obtain ⟨expn', entry', hp', hne, -, hs⟩ := inv.parse hl
      rw [hh] at hp'
      obtain ⟨rfl, rfl⟩ := Prod.mk.inj (Option.some.inj (hp.symm.trans hp'))
      rcases hdead with hz | hoff
      · exact hne hz
      · have hon := inv.enabled hl
        rw [← hs, hoff] at hon
        exact Bool.noConfusion hon
  · dsimp only at hlt
    omega

/-- A client call of a rule with a live protocol, all its ioctls succeed, and the index link of an
add does not wrap. -/
def FitsOp (env : NatEnv) (s : NatSys) : NatOp → Prop
  | .add clntRule _ => ¬WrapsLink env clntRule s.cache
  | .del _ _ => True

theorem run_soundOp {op : NatOp} {t : NatSys} (inv : HandleInv env s) (plain : PlainOp op)
    (fits : FitsOp env s op) (hstep : natStep env s op = some t) : SoundOp env s op := by
  cases op with
  | add clntRule io =>
    obtain ⟨hproto, rfl⟩ := plain
    exact ⟨hproto, fun _ _ _ => ⟨rfl, fun _ => rfl, fun _ => rfl⟩, fits⟩
  | del ruleHdl ok =>
    obtain ⟨⟨ret, m⟩, hd, -⟩ := Option.map_eq_some_iff.mp hstep
    have hok : ok = true := plain
    rw [hok] at hd
    exact inv.notAlias_of_del hd

/-- In every table that plain calls lead to, none of which wraps its index link, an add fails
exactly if a table is full for its rule. -/
theorem run_capacityLaw {N M : Nat} (dims : TableDims N M) {ops : List NatOp} {t : NatSys}
    (plain : ∀ op ∈ ops, PlainOp op) (fits : OpsMeet (natStep env) (FitsOp env) (newTable N M) ops)
    (run : runOps (natStep env) (newTable N M) ops = some t) : CapacityLaw env t := by
  have keeps : ∀ s op t, (NoDeadProto s ∧ ∃ dst src, TableInv env s dst src) →
      (PlainOp op ∧ FitsOp env s op) → natStep env s op = some t →
        (NoDeadProto t ∧ ∃ dst src, TableInv env t dst src) := by
    rintro s op t ⟨hproto, dst, src, inv⟩ ⟨hplain, hfits⟩ hstep
    have hsound := run_soundOp inv.toHandleInv hplain hfits hstep
    obtain ⟨u, hu, inv'⟩ := inv.step (hsound.safe hproto)
    cases Option.some.inj (hstep.symm.trans hu)
    exact ⟨hproto.step hsound hstep, inv'⟩
  have meet := (opsMeet_of_forall fun op hop _ => plain op hop).and fits
  have first : NoDeadProto (newTable N M) := by simp [NoDeadProto, newTable]
  obtain ⟨-, dst, src, inv⟩ :=
    run_invariant keeps ⟨first, _, _, newTable_tableInv env dims⟩ meet run
  exact inv.capacityLaw

theorem run_capacityLaw_small : ∃ t, runOps (natStep oneNetwork) (newTable 2 2)
    [.add (tcpRule 1) {}, .del 1 true] = some t ∧ CapacityLaw oneNetwork t := by
  obtain ⟨t, ht⟩ := Option.isSome_iff_exists.mp (show (runOps (natStep oneNetwork) (newTable 2 2)
    [.add (tcpRule 1) {}, .del 1 true]).isSome = true by decide)
  refine ⟨t, ht, run_capacityLaw ⟨by decide, by decide, by decide, by decide⟩ ?_ ?_ ht⟩
  · intro op hop
    simp only [List.mem_cons, List.not_mem_nil, or_false] at hop
    rcases hop with rfl | rfl
    · exact ⟨by decide, rfl⟩
    · rfl
  · refine ⟨fun h => ?_, fun _ _ => ⟨trivial, fun _ _ => trivial⟩⟩
    exact absurd (wrapsLink_large (by decide) (by decide) h) (by decide)

def deletedTables (c : Ip4TableCache) (hdl entry : Nat) (expn : Bool) : Ip4TableCache :=
  (sweptRules (dropRule ⟨c, []⟩ (tblStart c expn + entry) entry
    (ipaNatiFindRulePos c expn entry)).cache c.tableEntries).setRuleId (hdl - 1) 0

theorem HandleInv.del_live (inv : HandleInv env s) {l : LiveRule} (hl : l ∈ s.live) :
    ∃ t expn entry, ipaNatDelIpv4Rule true l.hdl ⟨s.cache, []⟩ = some (0, t) ∧
      ipaNatiParseIpv4RuleHdl s.cache l.hdl = some (expn, entry) ∧
        t.cache = deletedTables s.cache l.hdl entry expn := by
  have hb := inv.dims.baseHigh
  have hx := inv.dims.expnHigh
  obtain ⟨hpos, hlt⟩ := inv.hdl l hl
  have hmod : l.hdl % 2 ^ 16 = l.hdl := Nat.mod_eq_of_lt (by omega)
  obtain ⟨expn, entry, hp, hne, -, hs⟩ := inv.parse hl
  obtain ⟨⟨ret, t⟩, hd⟩ := Option.isSome_iff_exists.mp
    (inv.del_returns true (Or.inl (by omega) : NotAlias s l.hdl))
  rcases ipaNatDelIpv4Rule_cases hd with ⟨-, -, hwhy⟩ | ⟨rfl, -, expn', entry', hp', -, -, -, -, ht⟩
  · obtain ⟨expn', entry', hp', hdead⟩ := hwhy rfl (by omega)
    dsimp only at hp' hdead
    rw [hmod] at hp'
    obtain ⟨rfl, rfl⟩ := Prod.mk.inj (Option.some.inj (hp.symm.trans hp'))
    rcases hdead with hz | hoff
    · exact absurd hz hne
    · rw [hs, inv.enabled hl] at hoff
      exact Bool.noConfusion hoff
  · dsimp only at hp' ht
    rw [hmod] at hp'
    obtain ⟨rfl, rfl⟩ := Prod.mk.inj (Option.some.inj (hp.symm.trans hp'))
    refine ⟨t, expn, entry, hd, hp, ?_⟩
    rw [ht, NatMem.store_cache, ipaNatiDelDeadIpv4HeadNodes_cache,
      (LinksOnly.dropRule ⟨s.cache, []⟩ expn entry).base]
    rfl

/-- A connection with the source hash 278 in a table of 32768 base entries. -/
def lowRule (publicPort : UInt16) : IpaNatIpv4Rule :=
  { tcpRule 16385 with publicPort := publicPort }

/-- A wrapped link to an index entry stays when the entry is deleted, and then keeps the next rule
of the wrong chain out of a table with room for it. -/
theorem wrapped_link_refuses : ¬∀ (env : NatEnv) (N M : Nat) (ops : List NatOp) (t : NatSys),
    TableDims N M → (∀ op ∈ ops, PlainOp op) → runOps (natStep env) (newTable N M) ops = some t →
      CapacityLaw env t := by
  intro h
  have dims : TableDims 32768 5000 := ⟨by decide, by decide, by decide, by decide⟩
  obtain ⟨s, hs⟩ := Option.isSome_iff_exists.mp
    (show (runOps (natStep oneNetwork) (newTable 32768 5000) [.add (lowRule 3) {},
      .add (tcpRule 1) {}, .add { tcpRule 1 with publicPort := 2 } {}]).isSome = true by
        decide)
  have live : (runOps (natStep oneNetwork) (newTable 32768 5000) [.add (lowRule 3) {},
      .add (tcpRule 1) {}, .add { tcpRule 1 with publicPort := 2 } {}]).map (fun s =>
        (s.live.map LiveRule.hdl, ipaNatiParseIpv4RuleHdl s.cache 3)) =
      some ([3, 2, 1], some (false, 3006)) := by decide
  have seen : (runOps (natStep oneNetwork) (newTable 32768 5000) [.add (lowRule 3) {},
      .add (tcpRule 1) {}, .add { tcpRule 1 with publicPort := 2 } {}]).map (fun s =>
        let c := deletedTables s.cache 3 3006 false
        ((ipaNatAddIpv4Rule oneNetwork {} (lowRule 4) ⟨c, []⟩).map Prod.fst,
          (c.rules (dstBucket oneNetwork c.tableEntries (lowRule 4))).enable,
          c.expnTableEntries, (c.indx (c.tableEntries + 1)).tblEntry)) =
      some (some (-22), false, 5000, 0) := by decide
  rw [hs] at live seen
  obtain ⟨hhdl, hparse⟩ : _ ∧ _ := by
    simpa only [Option.map_some, Option.some.injEq, Prod.mk.injEq] using live
  have inv : HandleInv oneNetwork s := reached_handleInv dims
    ⟨[.add (lowRule 3) {}, .add (tcpRule 1) {}, .add { tcpRule 1 with publicPort := 2 } {}],
      ⟨trivial, fun _ _ => ⟨trivial, fun _ _ => ⟨trivial, fun _ _ => trivial⟩⟩⟩, hs⟩
  have hm : 3 ∈ s.live.map LiveRule.hdl := by
    rw [hhdl]
    decide
  obtain ⟨l, hl, h3⟩ := List.mem_map.mp hm
  obtain ⟨m, expn, entry, hd, hp, hcache⟩ := inv.del_live hl
  rw [h3] at hd hp hcache
  obtain ⟨rfl, rfl⟩ := Prod.mk.inj (Option.some.inj (hparse.symm.trans hp))
  have hstep : natStep oneNetwork s (.del 3 true) = some (afterDel s 3 0 m) := by
    exact Option.map_eq_some_iff.mpr ⟨_, hd, rfl⟩
  have hrun : runOps (natStep oneNetwork) (newTable 32768 5000) ([.add (lowRule 3) {},
      .add (tcpRule 1) {}, .add { tcpRule 1 with publicPort := 2 } {}] ++ [.del 3 true]) =
        some (afterDel s 3 0 m) := by
    rw [runOps_append, hs, Option.bind_some]
    exact Option.bind_eq_some_iff.mpr ⟨_, hstep, rfl⟩
  have law := h oneNetwork 32768 5000 _ _ dims ?_ hrun
  · obtain ⟨hadd, hdst, hM, hfree⟩ : _ ∧ _ ∧ _ ∧ _ := by
      simpa only [Option.map_some, Option.some.injEq, Prod.mk.injEq, ← hcache] using seen
    obtain ⟨ret, hdl, t, ha, hiff, -⟩ := law (lowRule 4) ⟨by decide, by decide⟩
    simp only [afterDel] at ha hiff
    rw [ha] at hadd
    have hret : ret ≠ 0 := by
      rw [show ret = -22 from Option.some.inj hadd]
      decide
    rcases hiff.mp hret with ⟨hused, -⟩ | ⟨-, hall⟩
    · rw [hdst] at hused
      exact Bool.noConfusion hused
    · exact hall 1 (by decide) (by omega) hfree
  · intro op hop
    simp only [List.cons_append, List.nil_append, List.mem_cons, List.not_mem_nil, or_false] at hop
    rcases hop with rfl | rfl | rfl | rfl
    · exact ⟨by decide, rfl⟩
    · exact ⟨by decide, rfl⟩
    · exact ⟨by decide, rfl⟩
    · rfl

end DeviceHal.IpaNat
