import DeviceHal.IpaNat.TableDrop
import DeviceHal.IpaNat.DeleteFrame

namespace DeviceHal.IpaNat

open Lib

variable {env : NatEnv} {s : NatSys} {dst src : Nat → List Nat} {l : LiveRule}

theorem TableInv.rule_entry (inv : TableInv env s dst src) (hl : l ∈ s.live) :
    ∃ b, b < s.cache.tableEntries ∧ l.slot ∈ b :: dst b :=
  ⟨_, (dstBucket_bound env inv.dims.baseLow inv.dims.baseHigh l.rule).2, inv.onDst l hl⟩

theorem TableInv.indx_entry (inv : TableInv env s dst src) (hl : l ∈ s.live) :
    ∃ b, 0 < b ∧ b < s.cache.tableEntries ∧ (s.cache.rules l.slot).indxTblEntry ∈ b :: src b :=
  have hb := srcBucket_bound inv.dims.baseLow inv.dims.baseHigh l.rule
  ⟨_, hb.1, hb.2, inv.onSrc l hl⟩

theorem TableInv.indx_inTable (inv : TableInv env s dst src) (hl : l ∈ s.live) :
    InTable s.cache (s.cache.rules l.slot).indxTblEntry := by
  obtain ⟨b, -, hb, hx⟩ := inv.indx_entry hl
  rcases List.mem_cons.mp hx with he | hm
  · rw [he]
    exact Or.inl hb
  · exact Or.inr (inv.indxChains.isCell b hb _ hm)

theorem IsExpn.lt {c : Ip4TableCache} {e : Nat} (dims : TableDims c.tableEntries c.expnTableEntries)
    (h : IsExpn c e) : c.tableEntries < e ∧ e < 2 ^ 16 := by
  have := dims.baseHigh
  have := dims.expnHigh
  unfold IsExpn at h
  omega

theorem TableInv.ruleLinks (inv : TableInv env s dst src) (hl : l ∈ s.live) :
    RuleLinks s.cache l.slot := by
  obtain ⟨b, hb, hx⟩ := inv.rule_entry hl
  constructor
  · intro hlt
    rcases List.mem_cons.mp hx with he | hm
    · omega
    · exact (inv.ruleChains.prev_entry isExpn_not_base hb hm).2.1
  · intro _ hn
    obtain ⟨hm, hne, -⟩ := inv.ruleChains.next_cell isExpn_not_base hb hx hn
    have hcell := (inv.ruleChains.isCell b hb _ hm).lt inv.dims
    exact ⟨hcell.1, hcell.2, hne⟩

theorem TableInv.movesUp (inv : TableInv env s dst src) (hl : l ∈ s.live)
    (hm : MovesUp s.cache (s.cache.rules l.slot).indxTblEntry) :
    ∃ k ∈ s.live, k.hdl ≠ l.hdl ∧
      (s.cache.rules k.slot).indxTblEntry =
        (s.cache.indx (s.cache.rules l.slot).indxTblEntry).nextIndex ∧
      (s.cache.indx (s.cache.indx (s.cache.rules l.slot).indxTblEntry).nextIndex).tblEntry =
        k.slot ∧
      (s.cache.indx (s.cache.rules l.slot).indxTblEntry).nextIndex ∈
        src (s.cache.rules l.slot).indxTblEntry := by
  obtain ⟨b, -, hb, hx⟩ := inv.indx_entry hl
  have hxb : (s.cache.rules l.slot).indxTblEntry = b := by
    rcases List.mem_cons.mp hx with he | hc
    · exact he
    · exact absurd (inv.indxChains.isCell b hb _ hc) (isExpn_not_base _ hm.1)
  obtain ⟨hcell, hne, -⟩ := inv.indxChains.next_cell isExpn_not_base hb hx hm.2
  have hexpn := inv.indxChains.isCell b hb _ hcell
  have hused := (inv.indxChains.usedCell _ hexpn).mpr ⟨b, hb, hcell⟩
  obtain ⟨k, hk, hkx⟩ := inv.owner _ (Or.inr hexpn) hused
  refine ⟨k, hk, ?_, hkx, hkx ▸ inv.points k hk, hxb.symm ▸ hcell⟩
  intro hh
  cases inv.eq_of_hdl hk hl hh
  exact hne hkx.symm

theorem TableInv.eq_of_indx (inv : TableInv env s dst src) {k : LiveRule} (hl : l ∈ s.live)
    (hk : k ∈ s.live)
    (h : (s.cache.rules l.slot).indxTblEntry = (s.cache.rules k.slot).indxTblEntry) : l = k := by
  refine inv.eq_of_slot hl hk ?_
  rw [← inv.points l hl, ← inv.points k hk, h]

theorem TableInv.dropRule_fields (inv : TableInv env s dst src) (hl : l ∈ s.live) {expn : Bool}
    {entry : Nat} (hb : expn = true ↔ s.cache.tableEntries ≤ l.slot)
    (hs : tblStart s.cache expn + entry = l.slot) :
    ∃ cnt expnCnt, (dropRule ⟨s.cache, []⟩ l.slot entry
      (ipaNatiFindRulePos s.cache expn entry)).cache =
      (dropped s.cache l.slot).withIds s.cache.ruleIdArray cnt expnCnt := by
  have hvalid := inv.slot l hl
  have hx := inv.indx_inTable hl
  have hlinks := LinksOnly.dropRule ⟨s.cache, []⟩ expn entry
  dsimp only at hlinks
  rw [hs] at hlinks
  have hindx := @dropRule_indx s.cache l.slot entry (ipaNatiFindRulePos s.cache expn entry) hx
    fun hm => by
      obtain ⟨k, -, -, -, -, hcell⟩ := inv.movesUp hl hm
      exact (inv.indxChains.isCell _ hm.1 _ hcell).lt inv.dims
  have hrules := dropRule_rules hb hs (by unfold ValidSlot at hvalid; omega) (inv.ruleLinks hl) hx
    fun hm => by
      obtain ⟨k, hk, hne, -, hp, hcell⟩ := inv.movesUp hl hm
      have hlt := (inv.indxChains.isCell _ hm.1 _ hcell).lt inv.dims
      refine ⟨hlt.1, hlt.2, ?_⟩
      rw [hp]
      exact fun he => hne (congrArg LiveRule.hdl (inv.eq_of_slot hk hl he))
  generalize (dropRule ⟨s.cache, []⟩ l.slot entry _).cache = t at hlinks hindx hrules
  obtain ⟨N, M, rules, indx, meta', ids, cnt, expnCnt⟩ := t
  refine ⟨cnt, expnCnt, ?_⟩
  have hN : N = s.cache.tableEntries := hlinks.base
  have hM : M = s.cache.expnTableEntries := hlinks.expn
  have hids : ids = s.cache.ruleIdArray := hlinks.ids
  have hr : rules = _ := hrules
  have hi : indx = _ := hindx.1
  have hm : meta' = _ := hindx.2
  rw [hN, hM, hids, hr, hi, hm]
  rfl

theorem ruleAfter_other (c : Ip4TableCache) {e k : Nat} (hk : k ≠ e) :
    (ruleAfter c e k).enable = (c.rules k).enable ∧
    (ruleAfter c e k).protocol = (c.rules k).protocol ∧
    (ruleAfter c e k).nextIndex = nextAfterDel c e k := by
  unfold ruleAfter
  dsimp only
  rw [if_neg hk]
  exact ⟨rfl, rfl, rfl⟩

theorem ruleAfter_prev (c : Ip4TableCache) {e k : Nat} (hk : k ≠ e) :
    (ruleAfter c e k).prevIndex =
      if c.tableEntries < e ∧ (c.rules e).nextIndex ≠ 0 ∧ k = (c.rules e).nextIndex then
        (c.rules e).prevIndex
      else (c.rules k).prevIndex := by
  unfold ruleAfter
  dsimp only
  rw [if_neg hk]

theorem ruleAfter_indx (c : Ip4TableCache) {e k : Nat} (hk : k ≠ e) :
    (ruleAfter c e k).indxTblEntry =
      if MovesUp c (c.rules e).indxTblEntry ∧
        k = (c.indx (c.indx (c.rules e).indxTblEntry).nextIndex).tblEntry then
        (c.rules e).indxTblEntry
      else (c.rules k).indxTblEntry := by
  unfold ruleAfter
  dsimp only
  rw [if_neg hk]

theorem ruleAfter_self (c : Ip4TableCache) (e : Nat) :
    (e < c.tableEntries ∧ (c.rules e).nextIndex ≠ 0 ∧ ruleAfter c e e = { c.rules e with
      timeStamp := (c.rules e).timeStamp % 2 ^ 16
      protocol := ipaNatInvalidProtoFieldCmp }) ∨
    (¬(e < c.tableEntries ∧ (c.rules e).nextIndex ≠ 0) ∧ ruleAfter c e e = {}) := by
  grind [ruleAfter]

theorem TableInv.dropped_ruleChains (inv : TableInv env s dst src) (hl : l ∈ s.live) :
    ∃ dst', RuleChains (dropped s.cache l.slot) dst' ∧
      ∀ b, b < s.cache.tableEntries → ∀ e ∈ dst b, e ≠ l.slot → e ∈ dst' b := by
  obtain ⟨b, hb, hx⟩ := inv.rule_entry hl
  have other := fun k (hk : k ≠ l.slot) => ruleAfter_other s.cache hk
  rcases List.mem_cons.mp hx with he | hm
  · have hbase : ¬s.cache.tableEntries < l.slot := by omega
    have hnext : ∀ k, k ≠ l.slot → (ruleAfter s.cache l.slot k).nextIndex =
        (s.cache.rules k).nextIndex := by
      intro k hk
      rw [(other k hk).2.2, nextAfterDel, if_neg fun h => hbase h.1]
    have hcells : ∀ k, IsExpn s.cache k → k ≠ l.slot := fun k hk he' =>
      hbase (he' ▸ hk.1)
    refine ⟨dst, OverflowTable.congr inv.ruleChains ?_ ?_ ?_ ?_, fun _ _ _ hy _ => hy⟩
    · intro k _
      by_cases hk : k = l.slot
      · change (ruleAfter s.cache l.slot k).nextIndex = _
        rw [hk]
        rcases ruleAfter_self s.cache l.slot with ⟨-, -, hself⟩ | ⟨hno, hself⟩
        · rw [hself]
        grind
      · exact hnext k hk
    · intro k hk _
      exact (ruleAfter_prev s.cache (hcells k hk)).trans (if_neg fun h => hbase h.1)
    · intro k hk
      change (ruleAfter s.cache l.slot k).enable = true ↔ _
      rw [(other k (hcells k hk)).1]
    · intro k hk hfree
      by_cases hkl : k = l.slot
      · rw [hkl]
        refine (inv.ruleChains.linked l.slot (he ▸ hb)).nil_iff.mp ?_
        rcases ruleAfter_self s.cache l.slot with ⟨-, -, hself⟩ | ⟨hno, -⟩
        · refine absurd ?_ hfree
          change (ruleAfter s.cache l.slot k).enable = true
          rw [hkl, hself]
          exact inv.enabled hl
        · by_contra hne
          exact hno ⟨he ▸ hb, hne⟩
      · refine inv.ruleChains.freeHead k hk fun hu => hfree ?_
        exact (other k hkl).1.trans hu
  · have hexpn := inv.ruleChains.isCell b hb _ hm
    obtain ⟨-, hpne, -⟩ := inv.ruleChains.prev_entry isExpn_not_base hb hm
    refine ⟨_, OverflowTable.remove inv.ruleChains isExpn_not_base hb hm ?_ ?_ ?_ ?_ ?_,
      fun h hh y hy hne => (inv.ruleChains.mem_erase hb hm hh).mpr ⟨hy, hne⟩⟩
    · exact (other _ hpne).2.2.trans (if_pos ⟨hexpn.1, rfl⟩)
    · intro k hk hkp
      exact (other k hk).2.2.trans (if_neg fun h => hkp h.2.symm)
    · intro hn
      obtain ⟨-, hnne, -⟩ := inv.ruleChains.next_cell isExpn_not_base hb hx hn
      exact (ruleAfter_prev s.cache hnne).trans (if_pos ⟨hexpn.1, hn, rfl⟩)
    · intro k _ hk hkn
      exact (ruleAfter_prev s.cache hk).trans (if_neg fun h => hkn h.2.2)
    · intro k
      change (ruleAfter s.cache l.slot k).enable = true ↔ _
      by_cases hk : k = l.slot
      · rcases ruleAfter_self s.cache l.slot with ⟨hlt, -, -⟩ | ⟨-, hself⟩
        · exact absurd hexpn (isExpn_not_base _ hlt)
        · rw [hk, hself]
          simp
      · rw [(other k hk).1]
        simp [hk]

theorem RuleChains.swept {c : Ip4TableCache} {cells : Nat → List Nat} (h : RuleChains c cells) :
    RuleChains (sweptRules c c.tableEntries) cells := by
  have hnext : ∀ e, ((sweptRules c c.tableEntries).rules e).nextIndex = (c.rules e).nextIndex := by
    intro e
    simp only [sweptRules]
    split
    next hd =>
      have hdead := hd.2
      unfold isDeadHead at hdead
      rw [decide_eq_true_eq] at hdead
      exact hdead.2.symm
    next => rfl
  have hcell : ∀ e, IsExpn c e → (sweptRules c c.tableEntries).rules e = c.rules e := fun e he =>
    if_neg fun hd => isExpn_not_base e hd.1 he
  refine OverflowTable.congr h (fun e _ => hnext e) (fun e he _ => ?_) (fun e he => ?_) ?_
  · rw [hcell e he]
  · rw [hcell e he]
  · intro e he hfree
    by_cases hd : isDeadHead (c.rules e) = true
    · have hdead := hd
      unfold isDeadHead at hdead
      rw [decide_eq_true_eq] at hdead
      exact (h.linked e he).nil_iff.mp hdead.2
    · refine h.freeHead e he fun hu => hfree ?_
      simp only [sweptRules]
      rw [if_neg fun hh => hd hh.2]
      exact hu

/-- The index entry a delete frees: the deleted one, or the one moved into it. -/
def freedIndx (c : Ip4TableCache) (x : Nat) : Nat :=
  if MovesUp c x then (c.indx x).nextIndex else x

theorem indxAfter_freed (c : Ip4TableCache) (x : Nat) : indxAfter c x (freedIndx c x) = {} := by
  grind [indxAfter, freedIndx]

theorem indxAfter_tblEntry (c : Ip4TableCache) {x k : Nat} (hk : k ≠ freedIndx c x) :
    (indxAfter c x k).tblEntry =
      if k = x then (c.indx (c.indx x).nextIndex).tblEntry else (c.indx k).tblEntry := by
  grind [freedIndx, indxAfter]

theorem TableInv.dropped_indxChains (inv : TableInv env s dst src) (hl : l ∈ s.live) :
    ∃ src', IndxChains (dropped s.cache l.slot) src' ∧
      ∀ b, b < s.cache.tableEntries → ∀ x ∈ src b,
        x ≠ freedIndx s.cache (s.cache.rules l.slot).indxTblEntry → x ∈ src' b := by
  have hpos := inv.points_ne hl
  by_cases hm : MovesUp s.cache (s.cache.rules l.slot).indxTblEntry
  · obtain ⟨k, hk, -, -, hp, hcell⟩ := inv.movesUp hl hm
    have hslot : k.slot ≠ 0 := Nat.ne_of_gt (inv.slot k hk).pos
    unfold freedIndx
    rw [if_pos hm]
    have hprev := (inv.indxChains.next_cell isExpn_not_base hm.1 List.mem_cons_self hm.2).2.2
    have hnext := fun hn => inv.indxChains.next_cell isExpn_not_base hm.1
      (List.mem_cons_of_mem _ hcell) hn
    have hexpn := inv.indxChains.isCell _ hm.1 _ hcell
    generalize hx : (s.cache.rules l.slot).indxTblEntry = x at *
    have hne : x ≠ (s.cache.indx x).nextIndex := fun he =>
      isExpn_not_base _ hm.1 (he ▸ hexpn)
    have after : ∀ k, indxAfter s.cache x k =
        if k = (s.cache.indx x).nextIndex then {}
        else if k = x then s.cache.indx (s.cache.indx x).nextIndex else s.cache.indx k :=
      fun k => if_pos hm
    have back : metaAfter s.cache x =
        if (s.cache.indx (s.cache.indx x).nextIndex).nextIndex ≠ 0 ∧
          (s.cache.indx (s.cache.indx x).nextIndex).nextIndex ≥ s.cache.tableEntries then
          Function.update s.cache.indexExpnTableMeta
            ((s.cache.indx (s.cache.indx x).nextIndex).nextIndex - s.cache.tableEntries) x
        else s.cache.indexExpnTableMeta := if_pos hm
    have hdrop : (dropped s.cache l.slot).indx = indxAfter s.cache x ∧
        (dropped s.cache l.slot).indexExpnTableMeta = metaAfter s.cache x := by
      rw [← hx]
      exact ⟨rfl, rfl⟩
    refine ⟨_, OverflowTable.remove inv.indxChains isExpn_not_base hm.1 hcell ?_ ?_ ?_ ?_ ?_,
      fun h hh y hy hne => (inv.indxChains.mem_erase hm.1 hcell hh).mpr ⟨hy, hne⟩⟩
    · rw [hprev, hdrop.1, after, if_neg hne, if_pos rfl]
    · intro j hj hjp
      rw [hprev] at hjp
      rw [hdrop.1, after, if_neg hj, if_neg hjp]
    · intro hn
      have hc := inv.indxChains.isCell _ hm.1 _ (hnext hn).1
      have hge : (s.cache.indx (s.cache.indx x).nextIndex).nextIndex ≥ s.cache.tableEntries :=
        hc.1.le
      rw [hprev, hdrop.2, back, if_pos ⟨hn, hge⟩]
      exact Function.update_self _ _ _
    · intro j hj hjy hjn
      have hlt := hj.1
      rw [hdrop.2, back]
      by_cases hn : (s.cache.indx (s.cache.indx x).nextIndex).nextIndex ≠ 0 ∧
          (s.cache.indx (s.cache.indx x).nextIndex).nextIndex ≥ s.cache.tableEntries
      · rw [if_pos hn]
        have hge := hn.2
        refine Function.update_of_ne ?_ _ _
        change j - s.cache.tableEntries ≠
          (s.cache.indx (s.cache.indx x).nextIndex).nextIndex - s.cache.tableEntries
        omega
      · rw [if_neg hn]
        rfl
    · intro j
      rw [hdrop.1, after]
      by_cases hj : j = (s.cache.indx x).nextIndex
      · rw [if_pos hj]
        simp [hj]
      grind
  · obtain ⟨b, -, hb, hxb⟩ := inv.indx_entry hl
    have htable := inv.indx_inTable hl
    unfold freedIndx
    rw [if_neg hm]
    generalize hx : (s.cache.rules l.slot).indxTblEntry = x at *
    have after : ∀ k, indxAfter s.cache x k =
        if k = x then {}
        else if s.cache.tableEntries < x ∧
          k = s.cache.indexExpnTableMeta (x - s.cache.tableEntries) then
          { s.cache.indx k with nextIndex := (s.cache.indx x).nextIndex }
        else s.cache.indx k := fun k => if_neg hm
    have back : metaAfter s.cache x =
        if s.cache.tableEntries < x ∧ (s.cache.indx x).nextIndex ≠ 0 then
          Function.update (Function.update s.cache.indexExpnTableMeta
            (if (s.cache.indx x).nextIndex ≥ s.cache.tableEntries then
              (s.cache.indx x).nextIndex - s.cache.tableEntries else (s.cache.indx x).nextIndex)
            (s.cache.indexExpnTableMeta (x - s.cache.tableEntries))) (x - s.cache.tableEntries)
            ipaNatInvalidNatEntry
        else s.cache.indexExpnTableMeta := if_neg hm
    have hdrop : (dropped s.cache l.slot).indx = indxAfter s.cache x ∧
        (dropped s.cache l.slot).indexExpnTableMeta = metaAfter s.cache x := by
      rw [← hx]
      exact ⟨rfl, rfl⟩
    rcases List.mem_cons.mp hxb with he | hcell
    · have hbase : ¬s.cache.tableEntries < x := by omega
      have hlast : (s.cache.indx x).nextIndex = 0 := by
        by_contra hn
        exact hm ⟨by omega, hn⟩
      have other : ∀ k, k ≠ x → indxAfter s.cache x k = s.cache.indx k := by
        intro k hk
        rw [after, if_neg hk, if_neg fun h => hbase h.1]
      have hcells : ∀ k, IsExpn s.cache k → k ≠ x := fun k hk he' => hbase (he' ▸ hk.1)
      refine ⟨src, OverflowTable.congr inv.indxChains ?_ ?_ ?_ ?_, fun _ _ _ hy _ => hy⟩
      · intro k _
        rw [hdrop.1]
        grind
      · intro k _ _
        rw [hdrop.2, back, if_neg fun h => hbase h.1]
        rfl
      · intro k hk
        rw [hdrop.1, other k (hcells k hk)]
      · intro k hk hfree
        rw [hdrop.1] at hfree
        by_cases hkx : k = x
        · rw [hkx]
          exact (inv.indxChains.linked x (by omega)).nil_iff.mp hlast
        · rw [other k hkx] at hfree
          exact inv.indxChains.freeHead k hk hfree
    · have hexpn := inv.indxChains.isCell b hb _ hcell
      obtain ⟨-, hpne, -⟩ := inv.indxChains.prev_entry isExpn_not_base hb hcell
      refine ⟨_, OverflowTable.remove inv.indxChains isExpn_not_base hb hcell ?_ ?_ ?_ ?_ ?_,
        fun h hh y hy hne => (inv.indxChains.mem_erase hb hcell hh).mpr ⟨hy, hne⟩⟩
      · rw [hdrop.1, after, if_neg hpne, if_pos ⟨hexpn.1, rfl⟩]
      · intro j hj hjp
        rw [hdrop.1, after, if_neg hj, if_neg fun h => hjp h.2]
      · intro hn
        obtain ⟨hnm, hnne, -⟩ := inv.indxChains.next_cell isExpn_not_base hb hxb hn
        have hnc := inv.indxChains.isCell b hb _ hnm
        have hge : (s.cache.indx x).nextIndex ≥ s.cache.tableEntries := hnc.1.le
        have hlt := hexpn.1
        have hltn := hnc.1
        rw [hdrop.2, back, if_pos ⟨hexpn.1, hn⟩, if_pos hge]
        refine (Function.update_of_ne ?_ _ _).trans (Function.update_self _ _ _)
        change (s.cache.indx x).nextIndex - s.cache.tableEntries ≠ x - s.cache.tableEntries
        omega
      · intro j hj hjx hjn
        have hlt := hexpn.1
        have hltj := hj.1
        rw [hdrop.2, back]
        by_cases hn : (s.cache.indx x).nextIndex = 0
        · rw [if_neg fun h => h.2 hn]
          rfl
        · obtain ⟨hnm, -, -⟩ := inv.indxChains.next_cell isExpn_not_base hb hxb hn
          have hltn := (inv.indxChains.isCell b hb _ hnm).1
          rw [if_pos ⟨hexpn.1, hn⟩, if_pos hltn.le]
          refine (Function.update_of_ne ?_ _ _).trans (Function.update_of_ne ?_ _ _)
          · change j - s.cache.tableEntries ≠ x - s.cache.tableEntries
            omega
          · change j - s.cache.tableEntries ≠ (s.cache.indx x).nextIndex - s.cache.tableEntries
            omega
      · intro j
        rw [hdrop.1, after]
        grind

end DeviceHal.IpaNat
