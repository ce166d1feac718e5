import DeviceHal.IpaNat.Handles
import DeviceHal.Lib.OverflowOps

namespace DeviceHal.IpaNat

open Lib

/-- The slots of an expansion table but its first, which stands for "no entry". -/
def IsExpn (c : Ip4TableCache) (e : Nat) : Prop :=
  c.tableEntries < e ∧ e < c.tableEntries + c.expnTableEntries

def InTable (c : Ip4TableCache) (e : Nat) : Prop := e < c.tableEntries ∨ IsExpn c e

/-- The same tables with other handles and counters. -/
def Ip4TableCache.withIds (c : Ip4TableCache) (ids : Nat → Nat) (cnt expnCnt : Nat) :
    Ip4TableCache :=
  { c with ruleIdArray := ids, curTblCnt := cnt, curExpnTblCnt := expnCnt }

def RuleChains (c : Ip4TableCache) (cells : Nat → List Nat) : Prop :=
  OverflowTable 0 (· < c.tableEntries) (IsExpn c) (fun e => (c.rules e).enable = true)
    (fun e => (c.rules e).nextIndex) (fun e => (c.rules e).prevIndex) cells

/-- The collision chains of the index tables. Their back links are kept beside the tables. -/
def IndxChains (c : Ip4TableCache) (cells : Nat → List Nat) : Prop :=
  OverflowTable 0 (· < c.tableEntries) (IsExpn c) (fun e => (c.indx e).tblEntry ≠ 0)
    (fun e => (c.indx e).nextIndex) (fun e => c.indexExpnTableMeta (e - c.tableEntries)) cells

/-- The two chain structures, and how the rules and their index entries name each other. -/
structure TableInv (env : NatEnv) (s : NatSys) (dst src : Nat → List Nat) : Prop
    extends HandleInv env s where
  ruleChains : RuleChains s.cache dst
  indxChains : IndxChains s.cache src
  zeroRule : ∀ e, InTable s.cache e → (s.cache.rules e).enable = false → s.cache.rules e = {}
  zeroIndx : ∀ x, InTable s.cache x → (s.cache.indx x).tblEntry = 0 → s.cache.indx x = {}
  onDst : ∀ l ∈ s.live, l.slot ∈ dstBucket env s.cache.tableEntries l.rule ::
    dst (dstBucket env s.cache.tableEntries l.rule)
  onSrc : ∀ l ∈ s.live, (s.cache.rules l.slot).indxTblEntry ∈
    srcBucket s.cache.tableEntries l.rule :: src (srcBucket s.cache.tableEntries l.rule)
  points : ∀ l ∈ s.live, (s.cache.indx (s.cache.rules l.slot).indxTblEntry).tblEntry = l.slot
  owner : ∀ x, InTable s.cache x → (s.cache.indx x).tblEntry ≠ 0 →
    ∃ l ∈ s.live, (s.cache.rules l.slot).indxTblEntry = x
  inUse : ∀ e, InTable s.cache e → (s.cache.rules e).enable = true →
    (∃ l ∈ s.live, l.slot = e) ∨ (0 < e ∧ e < s.cache.tableEntries ∧
      (s.cache.rules e).protocol = ipaNatInvalidProtoFieldCmp ∧ (s.cache.rules e).nextIndex ≠ 0)

variable {c : Ip4TableCache}

theorem isExpn_not_base (e : Nat) (h : e < c.tableEntries) : ¬IsExpn c e := by
  unfold IsExpn
  omega

theorem ValidSlot.inTable {e : Nat} (h : ValidSlot c e) : InTable c e :=
  h.imp (fun h => h.2) id

theorem ValidSlot.pos {e : Nat} (h : ValidSlot c e) : 0 < e := by
  unfold ValidSlot at h
  omega

theorem walkToLast_linked {next : Nat → Nat} {N h p : Nat} {l : List Nat} {fuel : Nat}
    (linked : Linked next 0 h l) (nodup : l.Nodup) (cells : ∀ x ∈ l, N ≤ x ∧ x < 2 ^ 16)
    (hf : l.length < fuel) : walkToLast next N fuel p (next h) = some (lastCell p l) := by
  induction l generalizing h p fuel with
  | nil =>
    obtain ⟨k, rfl⟩ := Nat.exists_eq_succ_of_ne_zero (Nat.ne_of_gt hf)
    have hz : next h = 0 := linked
    simp [walkToLast, hz, lastCell, ipaNatInvalidNatEntry]
  | cons x l ih =>
    obtain ⟨k, rfl⟩ := Nat.exists_eq_succ_of_ne_zero (Nat.ne_of_gt (Nat.zero_lt_of_lt hf))
    obtain ⟨hx, hn, hl⟩ := linked
    obtain ⟨hout, hrest⟩ := List.nodup_cons.mp nodup
    obtain ⟨hge, hlt⟩ := cells x (by simp)
    have hnext : N + sub16 x N = x := by
      rw [sub16_eq hge hlt]
      omega
    have hself : x ≠ next x := by
      cases l with
      | nil => exact fun he => hn (he.trans hl)
      | cons y l => exact fun he => hout (by simp [he.trans hl.1])
    have hstep : walkToLast next N (k + 1) p x = walkToLast next N k x (next x) := by
      rw [walkToLast]
      simp only [ipaNatInvalidNatEntry, hn, ↓reduceIte, hnext, hself]
    rw [List.length_cons] at hf
    rw [hx, hstep]
    exact ih hl hrest (fun y hy => cells y (List.mem_cons_of_mem x hy)) (by omega)

theorem findPrevEntry_linked {next : Nat → Nat} {N M b : Nat} {l : List Nat}
    (linked : Linked next 0 b l) (nodup : l.Nodup)
    (cells : ∀ x ∈ l, N < x ∧ x < N + M) (hN : N ≤ 2 ^ 15) (hM : M ≤ 2 ^ 14) :
    findPrevEntry next N b = some (lastCell b l) := by
  have hlen : l.length ≤ M := by
    have sub : l.toFinset ⊆ Finset.Ioo N (N + M) := fun y hy =>
      Finset.mem_Ioo.mpr (cells y (List.mem_toFinset.mp hy))
    have hcard := Finset.card_le_card sub
    rw [List.toFinset_card_of_nodup nodup, Nat.card_Ioo] at hcard
    omega
  have hcells : ∀ y ∈ l, N ≤ y ∧ y < 2 ^ 16 := fun y hy => by
    have := cells y hy
    omega
  have hfuel : l.length < walkFuel := by
    unfold walkFuel
    omega
  have hwalk := walkToLast_linked (p := 0) linked nodup hcells hfuel
  unfold findPrevEntry
  by_cases hz : next b = 0
  · have hnil := linked.nil_iff.mp hz
    subst hnil
    exact if_pos hz
  · cases l with
    | nil => exact absurd linked hz
    | cons x l => exact (if_neg hz).trans hwalk

variable {env : NatEnv} {s : NatSys} {dst src : Nat → List Nat}

theorem newTable_tableInv (env : NatEnv) {N M : Nat} (dims : TableDims N M) :
    TableInv env (newTable N M) (fun _ => []) (fun _ => []) where
  toHandleInv := newTable_handleInv env dims
  ruleChains := OverflowTable.empty (by simp [newTable]) (by simp [newTable])
  indxChains := OverflowTable.empty (by simp [newTable]) (by simp [newTable])
  zeroRule := fun _ _ _ => rfl
  zeroIndx := fun _ _ _ => rfl
  onDst := by simp [newTable]
  onSrc := by simp [newTable]
  points := by simp [newTable]
  owner := by simp [newTable]
  inUse := by simp [newTable]

theorem TableInv.points_ne (inv : TableInv env s dst src) {l : LiveRule} (hl : l ∈ s.live) :
    (s.cache.indx (s.cache.rules l.slot).indxTblEntry).tblEntry ≠ 0 := by
  rw [inv.points l hl]
  exact Nat.ne_of_gt (inv.slot l hl).pos

theorem TableInv.rule_prevEntry (inv : TableInv env s dst src) {b : Nat}
    (hb : b < s.cache.tableEntries) :
    findPrevEntry (fun e => (s.cache.rules e).nextIndex) s.cache.tableEntries b =
      some (lastCell b (dst b)) :=
  findPrevEntry_linked (inv.ruleChains.linked b hb) (inv.ruleChains.nodup b hb)
    (inv.ruleChains.isCell b hb) inv.dims.baseHigh inv.dims.expnHigh

theorem TableInv.indx_prevEntry (inv : TableInv env s dst src) {b : Nat}
    (hb : b < s.cache.tableEntries) :
    findPrevEntry (fun e => (s.cache.indx e).nextIndex) s.cache.tableEntries b =
      some (lastCell b (src b)) :=
  findPrevEntry_linked (inv.indxChains.linked b hb) (inv.indxChains.nodup b hb)
    (inv.indxChains.isCell b hb) inv.dims.baseHigh inv.dims.expnHigh

theorem TableInv.chooseRule_returns (inv : TableInv env s dst src) (r : IpaNatIpv4Rule) :
    (chooseRule env r s.cache).isSome := by
  have hd := (dstBucket_bound env inv.dims.baseLow inv.dims.baseHigh r).2
  have hs := (srcBucket_bound inv.dims.baseLow inv.dims.baseHigh r).2
  have hrule : (ipaNatiGenerateTblRule env r s.cache).isSome := by
    unfold ipaNatiGenerateTblRule
    dsimp only
    split
    next => rfl
    next => rw [inv.rule_prevEntry hd]; rfl
  have hindx : ∀ sw, (ipaNatiGenerateIndexRule r sw s.cache).isSome := by
    intro sw
    unfold ipaNatiGenerateIndexRule
    dsimp only
    split
    next => rfl
    next => rw [inv.indx_prevEntry hs]; rfl
  obtain ⟨⟨sw, e⟩, hg⟩ := Option.isSome_iff_exists.mp hrule
  grind [chooseRule, Option.isSome_map]

/-- A slot choice in terms of the chains: a free head, or a free cell behind the last entry. -/
def ChainChoice (used : Nat → Prop) (cell : Nat → Prop) (cells : Nat → List Nat) (b e p : Nat) :
    Prop :=
  (¬used b ∧ e = b ∧ p = 0) ∨ (used b ∧ p = lastCell b (cells b) ∧ cell e ∧ ¬used e)

theorem TableInv.ruleChoice (inv : TableInv env s dst src) {r : IpaNatIpv4Rule} {n : NewRule}
    (h : Placed env r s.cache n) :
    ChainChoice (fun e => (s.cache.rules e).enable = true) (IsExpn s.cache) dst
      (dstBucket env s.cache.tableEntries r) n.entry n.rule.prevIndex := by
  have hb := (dstBucket_bound env inv.dims.baseLow inv.dims.baseHigh r).2
  rcases h.ruleSlot with ⟨hu, he, hp⟩ | ⟨hu, hp, -, low, high, hfree⟩
  · exact Or.inl ⟨by simp [hu], he, hp⟩
  · rw [inv.rule_prevEntry hb] at hp
    exact Or.inr ⟨hu, (Option.some.inj hp).symm, ⟨low, high⟩, by simp [hfree]⟩

theorem TableInv.indxChoice (inv : TableInv env s dst src) {r : IpaNatIpv4Rule} {n : NewRule}
    (h : Placed env r s.cache n) :
    ChainChoice (fun e => (s.cache.indx e).tblEntry ≠ 0) (IsExpn s.cache) src
      (srcBucket s.cache.tableEntries r) n.indxEntry n.indx.prevIndex := by
  have hb := (srcBucket_bound inv.dims.baseLow inv.dims.baseHigh r).2
  rcases h.indxSlot with ⟨hu, he, hp⟩ | ⟨hu, hp, -, low, high, hfree⟩
  · exact Or.inl ⟨by simpa using hu, he, hp⟩
  · rw [inv.indx_prevEntry hb] at hp
    exact Or.inr ⟨by simpa using hu, (Option.some.inj hp).symm, ⟨low, high⟩, by simpa using hfree⟩

variable {cells : Nat → List Nat}

theorem ChainChoice.prev_ne {used head cell : Nat → Prop} {next prev : Nat → Nat}
    {b e p : Nat} (h : ChainChoice used cell cells b e p)
    (t : OverflowTable 0 head cell used next prev cells) (hb : head b) (he : e ≠ 0) : p ≠ e := by
  rcases h with ⟨-, -, rfl⟩ | ⟨hu, rfl, -, hfree⟩
  · exact he.symm
  · exact fun heq => hfree (heq ▸ t.last_used hb hu)

theorem ChainChoice.prev_zero_or {used head cell : Nat → Prop} {next prev : Nat → Nat}
    {b e p : Nat} (h : ChainChoice used cell cells b e p)
    (t : OverflowTable 0 head cell used next prev cells) (hb : head b) (hpos : b ≠ 0) :
    (p = 0 ∧ e = b) ∨ (p ≠ 0 ∧ cell e) := by
  rcases h with ⟨-, he, hp⟩ | ⟨-, rfl, hcell, -⟩
  · exact Or.inl ⟨hp, he⟩
  · exact Or.inr ⟨t.last_ne_null hb hpos, hcell⟩

theorem ChainChoice.insert {used used' head cell : Nat → Prop} {next next' prev prev' : Nat → Nat}
    {b e p : Nat} (h : ChainChoice used cell cells b e p)
    (t : OverflowTable 0 head cell used next prev cells) (sep : ∀ x, head x → ¬cell x)
    (hb : head b) (hpos : b ≠ 0) (he : e ≠ 0)
    (links : ∀ y, y ≠ e → next' y = if p ≠ 0 ∧ y = p then e else next y) (stop : next' e = 0)
    (back : ∀ y, cell y → y ≠ e → prev' y = prev y) (first : cell e → prev' e = p)
    (use : ∀ y, used' y ↔ used y ∨ y = e) :
    ∃ cells', OverflowTable 0 head cell used' next' prev' cells' ∧
      (∀ k, ∀ y ∈ cells k, y ∈ cells' k) ∧ e ∈ b :: cells' b := by
  have hne := h.prev_ne t hb he
  have hlast := t.last_ne_null hb hpos
  refine t.insert sep hb he ?_ ?_ ?_ stop back ?_ use
  · exact h.imp (fun h => ⟨h.1, h.2.1⟩) fun h => ⟨h.1, h.2.2⟩
  · intro y hy hno
    rw [links y hy, if_neg]
    rintro ⟨hp0, rfl⟩
    rcases h with ⟨-, -, hp⟩ | ⟨hu, hp, -, -⟩
    · exact hp0 hp
    · exact hno ⟨hu, hp⟩
  · intro hu
    rcases h with ⟨hu', -, -⟩ | ⟨-, hp, -, -⟩
    · exact absurd hu hu'
    grind
  · intro hu
    rcases h with ⟨hu', -, -⟩ | ⟨-, hp, hcell, -⟩
    · exact absurd hu hu'
    · rw [first hcell, hp]

end DeviceHal.IpaNat
