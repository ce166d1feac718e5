import DeviceHal.IpaNat.System
import DeviceHal.Lib.Chain

namespace DeviceHal.IpaNat

open Lib

/-- The slot `e` an add may take in a table hashed to `base`, and the slot `p` it is linked
behind, 0 for a free base slot. -/
def SlotChoice (next : Nat → Nat) (used : Nat → Bool) (tableEntries expnTableEntries base e p : Nat) :
    Prop :=
  (used base = false ∧ e = base ∧ p = 0) ∨
    (used base = true ∧ findPrevEntry next tableEntries base = some p ∧ p ≠ 0 ∧
      tableEntries < e ∧ e < tableEntries + expnTableEntries ∧ used e = false)

theorem SlotChoice.unused {next : Nat → Nat} {used : Nat → Bool} {N M base e p : Nat}
    (h : SlotChoice next used N M base e p) : used e = false := by
  rcases h with ⟨h, rfl, -⟩ | ⟨-, -, -, -, -, h⟩
  · exact h
  · exact h

theorem expnFreeEntry_found {free : Nat → Bool} {size k : Nat} (h : expnFreeEntry free size = k)
    (hk : k ≠ 0) : 0 < k ∧ k < size ∧ free k = true := by
  unfold expnFreeEntry at h
  cases hf : (List.range' 1 (size - 1)).find? free with
  | none =>
    rw [hf] at h
    exact absurd h.symm hk
  | some j =>
    grind

variable {r : IpaNatIpv4Rule} {c : Ip4TableCache} {env : NatEnv}

theorem ipaNatiGenerateTblRule_choice
    {sw : IpaNatRule} {e : Nat} (h : ipaNatiGenerateTblRule env r c = some (sw, e)) (he : e ≠ 0) :
    ∃ p, sw = { swRule env r with prevIndex := p } ∧
      SlotChoice (fun k => (c.rules k).nextIndex) (fun k => (c.rules k).enable) c.tableEntries
        c.expnTableEntries (dstBucket env c.tableEntries r) e p := by
  unfold ipaNatiGenerateTblRule at h
  dsimp only at h
  split at h
  next hb =>
    obtain ⟨rfl, rfl⟩ := Prod.mk.inj (Option.some.inj h)
    exact ⟨0, rfl, Or.inl ⟨hb, rfl, rfl⟩⟩
  next hb =>
    obtain ⟨p, hp, h⟩ := Option.map_eq_some_iff.mp h
    split at h
    next => exact absurd (Prod.mk.inj h).2.symm he
    next hp0 =>
      split at h
      next => exact absurd (Prod.mk.inj h).2.symm he
      next hf =>
        obtain ⟨rfl, rfl⟩ := Prod.mk.inj h
        obtain ⟨low, high, free⟩ := expnFreeEntry_found (k := ipaNatiExpnTblFreeEntry c) rfl hf
        have hfree : (c.rules (ipaNatiExpnTblFreeEntry c + c.tableEntries)).enable = false := by
          rw [Nat.add_comm]
          simpa using free
        exact ⟨p, rfl, Or.inr ⟨by simpa using hb, hp, hp0, by omega, by omega, hfree⟩⟩

theorem ipaNatiGenerateIndexRule_choice {isw sw : IpaNatIndxTblSwRule} {s : Nat}
    (h : ipaNatiGenerateIndexRule r isw c = some (sw, s)) (hs : s ≠ 0) :
    ∃ p, sw = { isw with prevIndex := p } ∧
      SlotChoice (fun k => (c.indx k).nextIndex) (fun k => (c.indx k).tblEntry != 0) c.tableEntries
        c.expnTableEntries (srcBucket c.tableEntries r) s p := by
  unfold ipaNatiGenerateIndexRule at h
  dsimp only at h
  split at h
  next hb =>
    obtain ⟨rfl, rfl⟩ := Prod.mk.inj (Option.some.inj h)
    exact ⟨0, rfl, Or.inl ⟨by simpa using hb, rfl, rfl⟩⟩
  next hb =>
    obtain ⟨p, hp, h⟩ := Option.map_eq_some_iff.mp h
    split at h
    next => exact absurd (Prod.mk.inj h).2.symm hs
    next hp0 =>
      split at h
      next => exact absurd (Prod.mk.inj h).2.symm hs
      next hf =>
        split at h
        next => exact absurd (Prod.mk.inj h).2.symm hs
        next =>
          obtain ⟨rfl, rfl⟩ := Prod.mk.inj h
          obtain ⟨low, high, free⟩ := expnFreeEntry_found (k := ipaNatiIndexExpnGetFreeEntry c) rfl hf
          have hfree : ((c.indx (ipaNatiIndexExpnGetFreeEntry c + c.tableEntries)).tblEntry != 0)
              = false := by
            rw [Nat.add_comm]
            simpa using free
          exact ⟨p, rfl, Or.inr ⟨by simpa using hb, hp, hp0, by omega, by omega, hfree⟩⟩

/-- A rule found a place: what is stored, and where. -/
structure Placed (env : NatEnv) (r : IpaNatIpv4Rule) (c : Ip4TableCache) (n : NewRule) : Prop where
  rule : n.rule = { swRule env r with prevIndex := n.rule.prevIndex, indxTblEntry := n.indxEntry }
  indx : n.indx = { tblEntry := n.entry, prevIndex := n.indx.prevIndex }
  entry_ne : n.entry ≠ 0
  indxEntry_ne : n.indxEntry ≠ 0
  ruleSlot : SlotChoice (fun k => (c.rules k).nextIndex) (fun k => (c.rules k).enable)
    c.tableEntries c.expnTableEntries (dstBucket env c.tableEntries r) n.entry n.rule.prevIndex
  indxSlot : SlotChoice (fun k => (c.indx k).nextIndex) (fun k => (c.indx k).tblEntry != 0)
    c.tableEntries c.expnTableEntries (srcBucket c.tableEntries r) n.indxEntry n.indx.prevIndex

theorem chooseRule_placed {n : NewRule}
    (h : chooseRule env r c = some (some n)) : Placed env r c n := by
  obtain ⟨⟨sw, e⟩, hg, h⟩ := Option.bind_eq_some_iff.mp h
  dsimp only at h
  split at h
  next => simp at h
  next he =>
    obtain ⟨⟨isw, s⟩, hi, h⟩ := Option.map_eq_some_iff.mp h
    dsimp only at h
    split at h
    next => simp at h
    next hs =>
      obtain ⟨p, rfl, hp⟩ := ipaNatiGenerateTblRule_choice hg he
      obtain ⟨q, rfl, hq⟩ := ipaNatiGenerateIndexRule_choice hi hs
      cases Option.some.inj h
      exact ⟨rfl, rfl, he, hs, hp, hq⟩

theorem Placed.validEntry {n : NewRule}
    (h : Placed env r c n) (dims : TableDims c.tableEntries c.expnTableEntries) :
    ValidSlot c n.entry := by
  have hb := dstBucket_bound env dims.baseLow dims.baseHigh r
  rcases h.ruleSlot with ⟨-, he, -⟩ | ⟨-, -, -, low, high, -⟩
  · rw [he]
    exact Or.inl hb
  · exact Or.inr ⟨low, high⟩

theorem Placed.validIndxEntry {n : NewRule}
    (h : Placed env r c n) (dims : TableDims c.tableEntries c.expnTableEntries) :
    ValidSlot c n.indxEntry := by
  have hb := srcBucket_bound dims.baseLow dims.baseHigh r
  rcases h.indxSlot with ⟨-, he, -⟩ | ⟨-, -, -, low, high, -⟩
  · rw [he]
    exact Or.inl hb
  · exact Or.inr ⟨low, high⟩

/-- The index entry behind which the hardware links a new one: the 16 bit offset keeps the slot
number within its table only modulo 2 ^ 14. -/
def linkSlot (tableEntries prev : Nat) : Nat :=
  if prev < tableEntries then prev % 2 ^ 14 else tableEntries + (prev - tableEntries) % 2 ^ 14

theorem linkSlot_fits {N p : Nat} (h : p < N → p < 2 ^ 14) (hx : p - N < 2 ^ 14) :
    linkSlot N p = p := by
  grind [linkSlot]

theorem ipaNatiCopyIpv4RuleToHw_stages (ok : Bool) (m : NatMem) (rule : IpaNatRule) (e : Nat) :
    ipaNatiCopyIpv4RuleToHw ok m rule e =
      if rule.prevIndex = 0 ∨ ok = false then m.store fun c => c.setRule e rule
      else (m.store fun c => c.setRule e rule).store fun c => c.linkRule rule.prevIndex e := by
  unfold ipaNatiCopyIpv4RuleToHw ipaNatiWriteNextIndex
  dsimp only
  by_cases hp : rule.prevIndex = 0
  · simp [hp, ipaNatInvalidNatEntry]
  · cases ok with
    | false => simp [ioctlNatDma]
    | true =>
      simp only [ipaNatInvalidNatEntry, hp, ↓reduceIte, ioctlNatDma_cons, ioctlNatDma_nil,
        Bool.true_eq_false, or_self]
      split
      next =>
        refine congrArg (NatMem.store _) (funext fun c => ?_)
        rw [dmaWrite_base _ _ _ _ (by decide)]
        rfl
      next h =>
        have he : m.cache.tableEntries + (rule.prevIndex - m.cache.tableEntries) =
            rule.prevIndex := by omega
        simp only [NatMem.store]
        rw [dmaWrite_expn _ _ _ _ (by decide)]
        simp only [Ip4TableCache.linkRule, Ip4TableCache.setRule, he]
        rfl

theorem indexOffset_wrap (e : Nat) :
    (ipaNatiGetIndexEntryOffset e + ipaNatIndexRuleNextFieldOffset) % 2 ^ 16 =
      ipaNatiGetIndexEntryOffset (e % 2 ^ 14) + ipaNatIndexRuleNextFieldOffset := by
  simp only [ipaNatiGetIndexEntryOffset, ipaNatIndexRuleNextFieldOffset,
    ipaNatIndexTableEntrySize]
  omega

theorem ipaNatiCopyIpv4IndexRuleToHw_stages (ok : Bool) (m : NatMem) (sw : IpaNatIndxTblSwRule)
    (s : Nat) :
    ipaNatiCopyIpv4IndexRuleToHw ok m sw s =
      if sw.prevIndex = 0 ∨ ok = false then m.store fun c => c.setIndx s ⟨sw.tblEntry, sw.nextIndex⟩
      else (m.store fun c => c.setIndx s ⟨sw.tblEntry, sw.nextIndex⟩).store
        fun c => c.linkIndx (linkSlot c.tableEntries sw.prevIndex) s := by
  unfold ipaNatiCopyIpv4IndexRuleToHw ipaNatiWriteNextIndex
  dsimp only
  by_cases hp : sw.prevIndex = 0
  · simp [hp, ipaNatInvalidNatEntry]
  · cases ok with
    | false => simp [ioctlNatDma]
    | true =>
      simp only [ipaNatInvalidNatEntry, hp, ↓reduceIte, ioctlNatDma_cons, ioctlNatDma_nil,
        Bool.true_eq_false, or_self, indexOffset_wrap]
      split
      next h =>
        simp only [NatMem.store]
        rw [dmaWrite_indx _ _ _ _ (by decide)]
        simp only [Ip4TableCache.linkIndx, Ip4TableCache.setIndx, linkSlot, h, ↓reduceIte]
        rfl
      next h =>
        simp only [NatMem.store]
        rw [dmaWrite_indexExpn _ _ _ _ (by decide)]
        simp only [Ip4TableCache.linkIndx, Ip4TableCache.setIndx, linkSlot, h, ↓reduceIte]
        rfl

/-- The rule at `e` enabled. -/
def Ip4TableCache.enableRule (c : Ip4TableCache) (e : Nat) : Ip4TableCache :=
  c.setRule e { c.rules e with rsvd1 := 0, redirect := false, enable := true }

theorem enableRule_next (c : Ip4TableCache) (e k : Nat) :
    ((c.enableRule e).rules k).nextIndex = (c.rules k).nextIndex := by
  have hr : ({ c.rules e with rsvd1 := 0, redirect := false, enable := true } :
      IpaNatRule).nextIndex = (c.rules e).nextIndex := rfl
  exact setRule_next hr k

theorem ipaNatiPostIpv4DmaCmd_stages (ok : Bool) (m : NatMem) (e : Nat) :
    ipaNatiPostIpv4DmaCmd ok m e =
      if ok = true then (0, m.store fun c => c.enableRule e) else (eio, m) := by
  unfold ipaNatiPostIpv4DmaCmd
  cases ok with
  | false => simp [ioctlNatDma]
  | true =>
    simp only [ioctlNatDma, ↓reduceIte, List.foldl_cons, List.foldl_nil, ne_eq,
      not_true_eq_false]
    refine congrArg (Prod.mk 0) ?_
    simp only [NatMem.store]
    split
    next =>
      rw [dmaWrite_base _ _ _ _ (by decide)]
      simp [Ip4TableCache.enableRule]
    next h =>
      have he : m.cache.tableEntries + (e - m.cache.tableEntries) = e := by omega
      rw [dmaWrite_expn _ _ _ _ (by decide), he]
      simp [Ip4TableCache.enableRule]

/-- The memory after the two copies of an add that found a place. -/
def placeRule (io : AddIoctls) (n : NewRule) (m : NatMem) : NatMem :=
  let m := if n.indxEntry ≥ m.cache.tableEntries then
    m.store fun c => c.setMeta (n.indxEntry - c.tableEntries) n.indx.prevIndex else m
  ipaNatiCopyIpv4IndexRuleToHw io.linkIndx
    (ipaNatiCopyIpv4RuleToHw io.linkRule m n.rule n.entry) n.indx n.indxEntry

/-- An add of a rule whose network is configured. -/
def PdnValid (env : NatEnv) (r : IpaNatIpv4Rule) : Prop :=
  r.pdnIndex.toNat < env.ipaMaxPdnNum ∧ env.pdns r.pdnIndex.toNat ≠ 0

/-- Everything an add can do: it finds no place, it cannot enable the rule it stored, it has no
handle for it, or it succeeds. -/
theorem ipaNatAddIpv4Rule_cases {io : AddIoctls}
    {m t : NatMem} {ret : Int} {hdl : Nat} (h : ipaNatAddIpv4Rule env io r m = some (ret, hdl, t)) :
    (ret ≠ 0 ∧ t = m ∧ (PdnValid env r → chooseRule env r m.cache = some none)) ∨
    ∃ n, PdnValid env r ∧ chooseRule env r m.cache = some (some n) ∧
      ((io.enable = false ∧ ret ≠ 0 ∧ t = placeRule io n m) ∨
       (io.enable = true ∧
        ipaNatiMakeRuleHdl ((placeRule io n m).store fun c => c.enableRule n.entry) n.entry
          = (hdl, t) ∧ (ret = 0 ↔ hdl ≠ 0))) := by
  obtain ⟨⟨ret', hdl', t'⟩, h, he⟩ := Option.map_eq_some_iff.mp h
  unfold ipaNatiAddIpv4Rule at h
  dsimp only at he
  split at h
  next hp =>
    obtain ⟨rfl, rfl, rfl⟩ := Option.some.inj h
    cases he
    refine Or.inl ⟨by decide, rfl, fun hv => ?_⟩
    obtain ⟨hlt, hne⟩ := hv
    exact absurd hp (not_or.mpr ⟨by omega, hne⟩)
  next hp =>
    obtain ⟨choice, hg, h⟩ := Option.map_eq_some_iff.mp h
    obtain ⟨choice', hc, rfl⟩ := Option.map_eq_some_iff.mp hg
    have hv : PdnValid env r := by
      push Not at hp
      exact hp
    cases choice' with
    | none =>
      obtain ⟨rfl, rfl, rfl⟩ := h
      cases he
      exact Or.inl ⟨by decide, rfl, fun _ => hc⟩
    | some n =>
      refine Or.inr ⟨n, hv, hc, ?_⟩
      have hm : Option.map (fun n : NewRule =>
          if n.indxEntry ≥ m.cache.tableEntries then
            (n, m.store fun c => c.setMeta (n.indxEntry - c.tableEntries) n.indx.prevIndex)
          else (n, m)) (some n) = some (n, if n.indxEntry ≥ m.cache.tableEntries then
            m.store fun c => c.setMeta (n.indxEntry - c.tableEntries) n.indx.prevIndex else m) := by
        rw [Option.map_some]
        split <;> rfl
      rw [hm] at h
      dsimp only at h
      rw [ipaNatiPostIpv4DmaCmd_stages] at h
      cases hio : io.enable with
      | false =>
        rw [hio] at h
        simp only [Bool.false_eq_true, ↓reduceIte] at h
        rw [if_pos (by decide)] at h
        obtain ⟨rfl, rfl, rfl⟩ := h
        cases he
        exact Or.inl ⟨rfl, by decide, rfl⟩
      | true =>
        rw [hio] at h
        simp only [↓reduceIte, ne_eq, not_true_eq_false] at h
        refine Or.inr ⟨rfl, ?_⟩
        change (if (ipaNatiMakeRuleHdl ((placeRule io n m).store fun c => c.enableRule n.entry)
          n.entry).1 = 0 then _ else _) = _ at h
        split at h
        next hz =>
          obtain ⟨rfl, rfl, rfl⟩ := h
          cases he
          exact ⟨Prod.ext hz rfl, by decide⟩
        next hz =>
          obtain ⟨rfl, rfl, rfl⟩ := h
          cases he
          exact ⟨rfl, fun _ => hz, fun _ => rfl⟩

theorem ipaNatAddIpv4Rule_returns (io : AddIoctls)
    {m : NatMem} (h : PdnValid env r → (chooseRule env r m.cache).isSome) :
    (ipaNatAddIpv4Rule env io r m).isSome := by
  unfold ipaNatAddIpv4Rule ipaNatiAddIpv4Rule ipaNatiGenerateRule
  rw [Option.isSome_map]
  split
  next => rfl
  next hp =>
    rw [Option.isSome_map, Option.isSome_map]
    refine h ?_
    push Not at hp
    exact hp

/-- The CPU stores to the index tables once the commands of a delete are carried out. -/
def finishIndx (m : NatMem) (s nextSlot : Nat) (indxRulePos : DelType) : NatMem :=
  if indxRulePos = .head then finishIndxHeadDel m s nextSlot else finishIndxDel m s indxRulePos

/-- The memory after the commands and the stores of a delete, the index commands first. -/
def dropRule (m : NatMem) (cur entry : Nat) (rulePos : DelType) : NatMem :=
  let c := m.cache
  let s := (c.rules cur).indxTblEntry
  let m := (ioctlNatDma true m (indxDelCmds c s (ipaNatiFindIndexRulePos c s))).2
  let m := m.store fun t => t.dmaWrite (ruleDelCmd c (c.rules cur) entry rulePos)
  finishIndx (finishRuleDel m cur rulePos) s
    (c.tableEntries + sub16 (c.indx s).nextIndex c.tableEntries) (ipaNatiFindIndexRulePos c s)

theorem ipaNatiPostDelDmaCmd_cases {ok expn : Bool} {m t : NatMem} {entry : Nat} {pos : DelType}
    {ret : Int} (h : ipaNatiPostDelDmaCmd ok m entry expn pos = (ret, t)) :
    (ret ≠ 0 ∧ t = m ∧ ((m.cache.rules (tblStart m.cache expn + entry)).enable = false ∨
      ok = false)) ∨
    (ret = 0 ∧ ok = true ∧ (m.cache.rules (tblStart m.cache expn + entry)).enable = true ∧
      t = dropRule m (tblStart m.cache expn + entry) entry pos) := by
  unfold ipaNatiPostDelDmaCmd at h
  dsimp only at h
  split at h
  next hd =>
    cases h
    exact Or.inl ⟨by decide, rfl, Or.inl hd⟩
  next hd =>
    cases ok with
    | false =>
      simp only [ioctlNatDma_fail, ne_eq, Int.reduceNeg, neg_eq_zero, one_ne_zero,
        not_false_eq_true, ↓reduceIte] at h
      cases h
      exact Or.inl ⟨by decide, rfl, Or.inr rfl⟩
    | true =>
      have hret : ∀ cmds, (ioctlNatDma true m cmds).1 = 0 := fun _ => rfl
      rw [hret, reorderCmds_del, ioctlNatDma_append, ioctlNatDma_cons, ioctlNatDma_nil] at h
      simp only [ne_eq, not_true_eq_false, ↓reduceIte] at h
      refine Or.inr ?_
      unfold dropRule finishIndx
      grind

end DeviceHal.IpaNat
