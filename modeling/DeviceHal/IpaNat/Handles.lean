import DeviceHal.IpaNat.LinksOnly
import Mathlib.Order.Interval.Finset.Nat

namespace DeviceHal.IpaNat

@[simp] theorem countEntry_rules (e : Nat) (c : Ip4TableCache) :
    (countEntry e c).rules = c.rules := by
  unfold countEntry
  split <;> rfl

@[simp] theorem countEntry_indx (e : Nat) (c : Ip4TableCache) :
    (countEntry e c).indx = c.indx := by
  unfold countEntry
  split <;> rfl

@[simp] theorem countEntry_meta (e : Nat) (c : Ip4TableCache) :
    (countEntry e c).indexExpnTableMeta = c.indexExpnTableMeta := by
  unfold countEntry
  split <;> rfl

@[simp] theorem countEntry_ids (e : Nat) (c : Ip4TableCache) :
    (countEntry e c).ruleIdArray = c.ruleIdArray := by
  unfold countEntry
  split <;> rfl

@[simp] theorem countEntry_base (e : Nat) (c : Ip4TableCache) :
    (countEntry e c).tableEntries = c.tableEntries := by
  unfold countEntry
  split <;> rfl

@[simp] theorem countEntry_expn (e : Nat) (c : Ip4TableCache) :
    (countEntry e c).expnTableEntries = c.expnTableEntries := by
  unfold countEntry
  split <;> rfl

theorem ipaNatiMakeRuleHdl_cases {m t : NatMem} {e hdl : Nat}
    (h : ipaNatiMakeRuleHdl m e = (hdl, t)) :
    (hdl = 0 ∧ t = m.store (countEntry e) ∧
      ∀ i < m.cache.tableEntries + m.cache.expnTableEntries, m.cache.ruleIdArray i ≠ 0) ∨
    ∃ i, hdl = i + 1 ∧ i < m.cache.tableEntries + m.cache.expnTableEntries ∧
      m.cache.ruleIdArray i = 0 ∧ (∀ j < i, m.cache.ruleIdArray j ≠ 0) ∧
      t = (m.store (countEntry e)).store
        fun c => c.setRuleId i (ruleId m.cache.tableEntries e) := by
  unfold ipaNatiMakeRuleHdl at h
  dsimp only at h
  cases hf : (List.range' 0 (m.cache.tableEntries + m.cache.expnTableEntries)).find?
      fun cnt => decide (m.cache.ruleIdArray cnt = ipaNatInvalidNatEntry) with
  | none =>
    rw [hf] at h
    cases h
    refine Or.inl ⟨rfl, rfl, fun i hi => ?_⟩
    have hm : i ∈ List.range' 0 (m.cache.tableEntries + m.cache.expnTableEntries) := by simp [hi]
    exact fun hz => List.find?_eq_none.mp hf i hm (decide_eq_true hz)
  | some i =>
    rw [hf] at h
    obtain ⟨hp, hm, hb⟩ := List.find?_range'_eq_some.mp hf
    have hlt := List.mem_range'_1.mp hm
    refine Or.inr ⟨i, ?_⟩
    dsimp only at h
    obtain ⟨rfl, rfl⟩ := Prod.mk.inj h
    refine ⟨rfl, by omega, of_decide_eq_true hp, fun j hj hz => ?_, ?_⟩
    · have hne := hb j (Nat.zero_le j) hj
      rw [Bool.not_eq_true', decide_eq_false_iff_not] at hne
      exact hne hz
    · simp [NatMem.store]

theorem ipaNatDelIpv4Rule_cases {ok : Bool} {h : Nat} {m t : NatMem} {ret : Int}
    (hd : ipaNatDelIpv4Rule ok h m = some (ret, t)) :
    (ret ≠ 0 ∧ t = m ∧ (ok = true → h ≠ 0 → ∃ expn entry,
      ipaNatiParseIpv4RuleHdl m.cache (h % 2 ^ 16) = some (expn, entry) ∧
      (entry = 0 ∨ (m.cache.rules (tblStart m.cache expn + entry)).enable = false))) ∨
    (ret = 0 ∧ ok = true ∧ ∃ expn entry,
      ipaNatiParseIpv4RuleHdl m.cache (h % 2 ^ 16) = some (expn, entry) ∧ entry ≠ 0 ∧ h ≠ 0 ∧
      (m.cache.rules (tblStart m.cache expn + entry)).enable = true ∧
      h - 1 < m.cache.tableEntries + m.cache.expnTableEntries ∧
      t = (ipaNatiDelDeadIpv4HeadNodes (dropRule m (tblStart m.cache expn + entry) entry
        (ipaNatiFindRulePos m.cache expn entry))).store fun c => c.setRuleId (h - 1) 0) := by
  unfold ipaNatDelIpv4Rule at hd
  split at hd
  next hz =>
    cases hd
    exact Or.inl ⟨by decide, rfl, fun _ h0 => absurd hz h0⟩
  next hz =>
    unfold ipaNatiDelIpv4Rule at hd
    replace hd := Option.bind_eq_some_iff.mp hd
    obtain ⟨⟨expn, entry⟩, hp, hd⟩ := hd
    dsimp only at hd
    split at hd
    next h0 =>
      cases hd
      exact Or.inl ⟨by decide, rfl, fun _ _ => ⟨expn, entry, hp, Or.inl h0⟩⟩
    next he =>
      generalize hq : ipaNatiPostDelDmaCmd ok m entry expn
        (ipaNatiFindRulePos m.cache expn entry) = q at hd
      obtain ⟨r, u⟩ := q
      dsimp only at hd
      rcases ipaNatiPostDelDmaCmd_cases hq with ⟨hr, rfl, hwhy⟩ | ⟨rfl, hok, hen, rfl⟩
      · rw [if_pos hr] at hd
        cases hd
        refine Or.inl ⟨by decide, rfl, fun hok _ => ⟨expn, entry, hp, Or.inr ?_⟩⟩
        exact hwhy.resolve_right (by rw [hok]; decide)
      · simp only [ne_eq, not_true_eq_false, ↓reduceIte] at hd
        split at hd
        next hlt =>
          cases hd
          have keep := LinksOnly.dropRule m expn entry
          have sweep := LinksOnly.sweep (dropRule m (tblStart m.cache expn + entry) entry
            (ipaNatiFindRulePos m.cache expn entry))
          rw [sweep.base, sweep.expn, keep.base, keep.expn] at hlt
          exact Or.inr ⟨rfl, hok, expn, entry, hp, he, hz, hen, hlt, rfl⟩
        next => simp at hd

open Lib

/-- The body of an enabled slot with the rule of a client. -/
def liveBody (env : NatEnv) (r : IpaNatIpv4Rule) : IpaNatRule := { swRule env r with enable := true }

/-- What holds of the handles and of the slots they name after every call, whatever the links
look like. -/
structure HandleInv (env : NatEnv) (s : NatSys) : Prop where
  dims : TableDims s.cache.tableEntries s.cache.expnTableEntries
  slot : ∀ l ∈ s.live, ValidSlot s.cache l.slot
  slots : (s.live.map LiveRule.slot).Nodup
  hdl : ∀ l ∈ s.live, 0 < l.hdl ∧ l.hdl < s.cache.tableEntries + s.cache.expnTableEntries
  hdls : (s.live.map LiveRule.hdl).Nodup
  id : ∀ l ∈ s.live, s.cache.ruleIdArray (l.hdl - 1) = ruleId s.cache.tableEntries l.slot
  ids : ∀ i < s.cache.tableEntries + s.cache.expnTableEntries, s.cache.ruleIdArray i ≠ 0 →
    ∃ l ∈ s.live, l.hdl = i + 1
  carried : ∀ l ∈ s.live, (s.cache.rules l.slot).body = liveBody env l.rule

/-- No other live rule with the dead protocol is a base head that the delete of handle `h` leaves
without a chain. -/
def SweepSafe (s : NatSys) (h : Nat) : Prop :=
  ∀ l ∈ s.live, l.hdl = h → ∀ k ∈ s.live, k.hdl ≠ h → k.slot < s.cache.tableEntries →
    k.rule.protocol = ipaNatInvalidProtoFieldCmp → nextAfterDel s.cache l.slot k.slot ≠ 0

/-- The low 16 bits of a handle that does not fit in them name no rule and not position -1. -/
def NotAlias (s : NatSys) (h : Nat) : Prop :=
  h < 2 ^ 16 ∨ (h % 2 ^ 16 ≠ 0 ∧ ∀ l ∈ s.live, l.hdl ≠ h % 2 ^ 16)

/-- The handle is looked up to slot `e`. -/
def Resolves (c : Ip4TableCache) (h e : Nat) : Prop :=
  ∃ expn entry, ipaNatiParseIpv4RuleHdl c h = some (expn, entry) ∧
    entry ≠ ipaNatInvalidNatEntry ∧ tblStart c expn + entry = e

theorem newTable_handleInv (env : NatEnv) {N M : Nat} (dims : TableDims N M) :
    HandleInv env (newTable N M) where
  dims := dims
  slot := by simp [newTable]
  slots := by simp [newTable]
  hdl := by simp [newTable]
  hdls := by simp [newTable]
  id := by simp [newTable]
  ids := by simp [newTable]
  carried := by simp [newTable]

variable {c : Ip4TableCache}

theorem slots_length (dims : TableDims c.tableEntries c.expnTableEntries)
    {slots : List Nat} (nodup : slots.Nodup) (valid : ∀ e ∈ slots, ValidSlot c e) :
    slots.length ≤ c.tableEntries + c.expnTableEntries - 2 := by
  have sub : slots.toFinset ⊆ Finset.Ioo 0 c.tableEntries ∪
      Finset.Ioo c.tableEntries (c.tableEntries + c.expnTableEntries) := by
    intro e he
    have hv := valid e (List.mem_toFinset.mp he)
    simp only [Finset.mem_union, Finset.mem_Ioo]
    exact hv
  have hle := Finset.card_le_card sub
  have hun := Finset.card_union_le (Finset.Ioo 0 c.tableEntries)
    (Finset.Ioo c.tableEntries (c.tableEntries + c.expnTableEntries))
  rw [List.toFinset_card_of_nodup nodup] at hle
  rw [Nat.card_Ioo, Nat.card_Ioo] at hun
  have := dims.baseLow
  have := dims.expnLow
  omega

variable {env : NatEnv} {s : NatSys}

theorem HandleInv.taken (inv : HandleInv env s) {i : Nat}
    (hi : i ≤ s.cache.tableEntries + s.cache.expnTableEntries)
    (full : ∀ j < i, s.cache.ruleIdArray j ≠ 0) : i ≤ s.live.length := by
  have sub : Finset.range i ⊆ (s.live.map fun l => l.hdl - 1).toFinset := by
    intro j hj
    have hlt := Finset.mem_range.mp hj
    obtain ⟨l, hl, hh⟩ := inv.ids j (by omega) (full j hlt)
    exact List.mem_toFinset.mpr (List.mem_map.mpr ⟨l, hl, by omega⟩)
  have hle := Finset.card_le_card sub
  have hlen := List.toFinset_card_le (s.live.map fun l => l.hdl - 1)
  grind

theorem HandleInv.enabled (inv : HandleInv env s) {l : LiveRule}
    (hl : l ∈ s.live) : (s.cache.rules l.slot).enable = true :=
  congrArg IpaNatRule.enable (inv.carried l hl)

theorem HandleInv.eq_of_slot (inv : HandleInv env s) {l k : LiveRule}
    (hl : l ∈ s.live) (hk : k ∈ s.live) (h : l.slot = k.slot) : l = k :=
  List.inj_on_of_nodup_map inv.slots hl hk h

theorem HandleInv.eq_of_hdl (inv : HandleInv env s) {l k : LiveRule}
    (hl : l ∈ s.live) (hk : k ∈ s.live) (h : l.hdl = k.hdl) : l = k :=
  List.inj_on_of_nodup_map inv.hdls hl hk h

theorem HandleInv.parse (inv : HandleInv env s) {l : LiveRule}
    (hl : l ∈ s.live) : ∃ expn entry, ipaNatiParseIpv4RuleHdl s.cache l.hdl = some (expn, entry) ∧
      entry ≠ 0 ∧ (expn = true ↔ s.cache.tableEntries ≤ l.slot) ∧
      tblStart s.cache expn + entry = l.slot := by
  obtain ⟨hlow, hhigh⟩ := inv.hdl l hl
  obtain ⟨h0, hb, hs⟩ := ruleId_decode inv.dims (inv.slot l hl)
  refine ⟨_, _, ?_, h0, hb, hs⟩
  unfold ipaNatiParseIpv4RuleHdl
  rw [if_neg (by omega), if_neg (by omega), inv.id l hl]

theorem HandleInv.resolves (inv : HandleInv env s) {l : LiveRule}
    (hl : l ∈ s.live) : Resolves s.cache l.hdl l.slot := by
  obtain ⟨expn, entry, hp, h0, -, hs⟩ := inv.parse hl
  exact ⟨expn, entry, hp, h0, hs⟩

theorem HandleInv.parse_dead (inv : HandleInv env s) {g : Nat} (hg : ∀ l ∈ s.live, l.hdl ≠ g) :
    ipaNatiParseIpv4RuleHdl s.cache g = if g = 0 then none else some (false, 0) := by
  have hb := inv.dims.baseLow
  unfold ipaNatiParseIpv4RuleHdl
  by_cases hge : g ≥ s.cache.tableEntries + s.cache.expnTableEntries
  · rw [if_pos hge, if_neg (by omega)]
    rfl
  · rw [if_neg hge]
    by_cases hz : g = 0
    · rw [if_pos hz, if_pos hz]
    · rw [if_neg hz, if_neg hz]
      have hid : s.cache.ruleIdArray (g - 1) = 0 := by
        by_contra hne
        obtain ⟨l, hl, hh⟩ := inv.ids (g - 1) (by omega) hne
        exact hg l hl (by omega)
      rw [hid]
      rfl

variable {env : NatEnv} {s : NatSys}

theorem HandleInv.linksOnly (inv : HandleInv env s) {changed : Nat → Prop}
    (h : LinksOnly changed s.cache c) (other : ∀ l ∈ s.live, ¬changed l.slot) :
    HandleInv env ⟨c, s.live⟩ where
  dims := by
    rw [h.base, h.expn]
    exact inv.dims
  slot := by
    intro l hl
    have hv := inv.slot l hl
    unfold ValidSlot at hv ⊢
    rw [h.base, h.expn]
    exact hv
  slots := inv.slots
  hdl := by
    rw [h.base, h.expn]
    exact inv.hdl
  hdls := inv.hdls
  id := by
    intro l hl
    rw [h.ids, h.base]
    exact inv.id l hl
  ids := by
    rw [h.base, h.expn, h.ids]
    exact inv.ids
  carried := fun l hl => (h.body l.slot (other l hl)).trans (inv.carried l hl)

variable {r : IpaNatIpv4Rule} {n : NewRule}

theorem Placed.body (h : Placed env r c n) : n.rule.body = (swRule env r).body := by
  rw [h.rule]
  rfl

theorem placeRule_body (io : AddIoctls) (n : NewRule) (m : NatMem) :
    ((placeRule io n m).cache.rules n.entry).body = n.rule.body := by
  unfold placeRule
  dsimp only
  generalize (if n.indxEntry ≥ m.cache.tableEntries then _ else m) = u
  have hindx : LinksOnly (fun _ => False) (ipaNatiCopyIpv4RuleToHw io.linkRule u n.rule n.entry).cache
      (ipaNatiCopyIpv4IndexRuleToHw io.linkIndx
        (ipaNatiCopyIpv4RuleToHw io.linkRule u n.rule n.entry) n.indx n.indxEntry).cache :=
    LinksOnly.copyIndexRule _ _ _ _
  rw [hindx.body n.entry id, ipaNatiCopyIpv4RuleToHw_stages]
  split
  next => simp [Ip4TableCache.setRule]
  next =>
    have hlink : LinksOnly (fun _ => False) (u.cache.setRule n.entry n.rule)
        ((u.cache.setRule n.entry n.rule).linkRule n.rule.prevIndex n.entry) :=
      LinksOnly.linkRule _ _ _
    refine (hlink.body n.entry id).trans ?_
    simp [Ip4TableCache.setRule]

theorem enableRule_body (c : Ip4TableCache) (e : Nat) :
    ((c.enableRule e).rules e).body =
      { (c.rules e).body with rsvd1 := 0, redirect := false, enable := true } := by
  simp [Ip4TableCache.enableRule, Ip4TableCache.setRule, IpaNatRule.body]

theorem LinksOnly.enableRule (c : Ip4TableCache) (e : Nat) :
    LinksOnly (· = e) c (c.enableRule e) :=
  LinksOnly.setRule c e _ (Or.inl rfl)

theorem HandleInv.fresh (inv : HandleInv env s)
    (h : Placed env r s.cache n) : ∀ l ∈ s.live, l.slot ≠ n.entry := by
  intro l hl he
  have hen := inv.enabled hl
  have hfree := h.ruleSlot.unused
  grind

theorem HandleInv.placed (inv : HandleInv env s) (io : AddIoctls) (h : Placed env r s.cache n) :
    HandleInv env ⟨((placeRule io n ⟨s.cache, []⟩).cache.enableRule n.entry), s.live⟩ :=
  inv.linksOnly ((LinksOnly.placeRule io n ⟨s.cache, []⟩).trans (LinksOnly.enableRule _ _))
    (inv.fresh h)

theorem HandleInv.room (inv : HandleInv env s) {e i : Nat} (he : ValidSlot s.cache e)
    (fresh : ∀ l ∈ s.live, l.slot ≠ e)
    (hi : i ≤ s.cache.tableEntries + s.cache.expnTableEntries)
    (full : ∀ j < i, s.cache.ruleIdArray j ≠ 0) :
    i + 1 < s.cache.tableEntries + s.cache.expnTableEntries := by
  have htaken := inv.taken hi full
  have nodup : (e :: s.live.map LiveRule.slot).Nodup := by
    refine List.nodup_cons.mpr ⟨fun hm => ?_, inv.slots⟩
    obtain ⟨l, hl, hs⟩ := List.mem_map.mp hm
    exact fresh l hl hs
  have hlen := slots_length inv.dims nodup fun x hx => by
    rcases List.mem_cons.mp hx with rfl | hx
    · exact he
    · obtain ⟨l, hl, rfl⟩ := List.mem_map.mp hx
      exact inv.slot l hl
  grind

theorem HandleInv.issue (inv : HandleInv env s) {e i : Nat}
    (he : ValidSlot s.cache e) (fresh : ∀ l ∈ s.live, l.slot ≠ e)
    (carried : (s.cache.rules e).body = liveBody env r)
    (hi : i < s.cache.tableEntries + s.cache.expnTableEntries) (free : s.cache.ruleIdArray i = 0)
    (full : ∀ j < i, s.cache.ruleIdArray j ≠ 0) :
    HandleInv env ⟨(countEntry e s.cache).setRuleId i (ruleId s.cache.tableEntries e),
      ⟨i + 1, e, r⟩ :: s.live⟩ := by
  have hroom := inv.room he fresh hi.le full
  have notHdl : ∀ l ∈ s.live, l.hdl ≠ i + 1 := by
    intro l hl hh
    have hid := inv.id l hl
    rw [hh, Nat.add_sub_cancel, free] at hid
    exact ruleId_ne_zero inv.dims (inv.slot l hl) hid.symm
  have base : ((countEntry e s.cache).setRuleId i (ruleId s.cache.tableEntries e)).tableEntries =
      s.cache.tableEntries := countEntry_base e s.cache
  have expn : ((countEntry e s.cache).setRuleId i
      (ruleId s.cache.tableEntries e)).expnTableEntries = s.cache.expnTableEntries :=
    countEntry_expn e s.cache
  have ids : ((countEntry e s.cache).setRuleId i (ruleId s.cache.tableEntries e)).ruleIdArray =
      Function.update s.cache.ruleIdArray i (ruleId s.cache.tableEntries e) := by
    simp [Ip4TableCache.setRuleId]
  have rules : ((countEntry e s.cache).setRuleId i (ruleId s.cache.tableEntries e)).rules =
      s.cache.rules := countEntry_rules e s.cache
  refine ⟨?_, ?_, ?_, ?_, ?_, ?_, ?_, ?_⟩
  · rw [base, expn]
    exact inv.dims
  · intro l hl
    unfold ValidSlot
    rw [base, expn]
    rcases List.mem_cons.mp hl with rfl | hl
    · exact he
    · exact inv.slot l hl
  · refine List.nodup_cons.mpr ⟨fun hm => ?_, inv.slots⟩
    grind
  · intro l hl
    rw [base, expn]
    rcases List.mem_cons.mp hl with rfl | hl
    · exact ⟨Nat.succ_pos i, hroom⟩
    · exact inv.hdl l hl
  · refine List.nodup_cons.mpr ⟨fun hm => ?_, inv.hdls⟩
    grind
  · intro l hl
    rw [ids, base]
    rcases List.mem_cons.mp hl with rfl | hl
    · simp
    · have hpos := (inv.hdl l hl).1
      have hne := notHdl l hl
      rw [Function.update_of_ne (by omega)]
      exact inv.id l hl
  · intro j hj hne
    rw [base, expn] at hj
    rw [ids] at hne
    by_cases hji : j = i
    · subst hji
      exact ⟨⟨j + 1, e, r⟩, List.mem_cons_self, rfl⟩
    · rw [Function.update_of_ne hji] at hne
      obtain ⟨l, hl, hh⟩ := inv.ids j hj hne
      exact ⟨l, List.mem_cons_of_mem _ hl, hh⟩
  · intro l hl
    rw [rules]
    rcases List.mem_cons.mp hl with rfl | hl
    · exact carried
    · exact inv.carried l hl

theorem HandleInv.validEntry (inv : HandleInv env s) (io : AddIoctls) (h : Placed env r s.cache n) :
    ValidSlot ((placeRule io n ⟨s.cache, []⟩).cache.enableRule n.entry) n.entry := by
  have hl := (LinksOnly.placeRule io n ⟨s.cache, []⟩).trans (LinksOnly.enableRule _ n.entry)
  have hve := h.validEntry inv.dims
  unfold ValidSlot at hve ⊢
  rw [hl.base, hl.expn]
  exact hve

theorem HandleInv.hdl_ne_zero (inv : HandleInv env s) {io : AddIoctls}
    (h : Placed env r s.cache n) {hdl : Nat} {t : NatMem}
    (hmk : ipaNatiMakeRuleHdl ((placeRule io n ⟨s.cache, []⟩).store fun c => c.enableRule n.entry)
      n.entry = (hdl, t)) : hdl ≠ 0 := by
  rcases ipaNatiMakeRuleHdl_cases hmk with ⟨-, -, hfull⟩ | ⟨i, rfl, -⟩
  · rw [NatMem.store_cache] at hfull
    have hroom := (inv.placed io h).room (inv.validEntry io h) (inv.fresh h) le_rfl hfull
    exact absurd hroom (by simp only [not_lt]; omega)
  · exact Nat.succ_ne_zero i

theorem HandleInv.add (inv : HandleInv env s) {io : AddIoctls} {ret : Int}
    {hdl : Nat} {t : NatMem} (h : ipaNatAddIpv4Rule env io r ⟨s.cache, []⟩ = some (ret, hdl, t)) :
    HandleInv env (afterAdd env s r ret hdl t) := by
  unfold afterAdd
  rcases ipaNatAddIpv4Rule_cases h with ⟨hret, rfl, -⟩ | ⟨n, hv, hc, h⟩
  · rw [if_neg hret]
    exact inv
  · have hplaced := chooseRule_placed hc
    rcases h with ⟨-, hret, rfl⟩ | ⟨-, hmk, hret⟩
    · rw [if_neg hret]
      have hlinks := LinksOnly.placeRule io n ⟨s.cache, []⟩
      exact inv.linksOnly hlinks (inv.fresh hplaced)
    · have hp := inv.placed io hplaced
      have hvalid := inv.validEntry io hplaced
      have hne := inv.hdl_ne_zero hplaced hmk
      have hfresh := inv.fresh hplaced
      generalize hm : (placeRule io n ⟨s.cache, []⟩).cache.enableRule n.entry = c at hp hvalid
      have hbody : (c.rules n.entry).body = liveBody env r := by
        rw [← hm, enableRule_body, placeRule_body, hplaced.body]
        rfl
      rcases ipaNatiMakeRuleHdl_cases hmk with ⟨hz, -, -⟩ | ⟨i, rfl, hi, hfree, hfull, rfl⟩
      · exact absurd hz hne
      · rw [NatMem.store_cache, hm] at hi hfree hfull
        rw [if_pos (hret.mpr (Nat.succ_ne_zero i))]
        have hslot : newSlot env r s.cache = n.entry := by
          simp only [newSlot, hc]
        rw [hslot]
        simp only [NatMem.store_cache, hm]
        exact hp.issue hvalid hfresh hbody hi hfree hfull

end DeviceHal.IpaNat
