import DeviceHal.IpaNat.TableUnlink

namespace DeviceHal.IpaNat

open Lib

variable {env : NatEnv} {s : NatSys} {dst src : Nat → List Nat} {l k : LiveRule}

/-- The tables after a delete of the rule in slot `e`. -/
def retired (c : Ip4TableCache) (e : Nat) : Ip4TableCache :=
  sweptRules (dropped c e) c.tableEntries

theorem isDeadHead_iff (r : IpaNatRule) : isDeadHead r = true ↔
    r.protocol = ipaNatInvalidProtoFieldCmp ∧ r.nextIndex = 0 := by
  unfold isDeadHead
  rw [decide_eq_true_eq]
  rfl

theorem retired_rules (c : Ip4TableCache) (e k : Nat) : (retired c e).rules k =
    if k < c.tableEntries ∧ isDeadHead (ruleAfter c e k) = true then {} else ruleAfter c e k := rfl

theorem TableInv.slot_ne (inv : TableInv env s dst src) (hl : l ∈ s.live) (hk : k ∈ s.live)
    (hne : k.hdl ≠ l.hdl) : k.slot ≠ l.slot :=
  fun he => hne (congrArg LiveRule.hdl (inv.eq_of_slot hk hl he))

theorem TableInv.retired_live (inv : TableInv env s dst src) (safe : SweepSafe s l.hdl)
    (hl : l ∈ s.live) (hk : k ∈ s.live) (hne : k.hdl ≠ l.hdl) :
    (retired s.cache l.slot).rules k.slot = ruleAfter s.cache l.slot k.slot := by
  obtain ⟨-, hproto, hnext⟩ := ruleAfter_other s.cache (inv.slot_ne hl hk hne)
  rw [retired_rules, if_neg]
  rintro ⟨hlt, hd⟩
  rw [isDeadHead_iff, hproto, hnext, inv.protocol hk] at hd
  exact safe l hl rfl k hk hne hlt hd.1 hd.2

theorem TableInv.retired_indx (inv : TableInv env s dst src) (safe : SweepSafe s l.hdl)
    (hl : l ∈ s.live) (hk : k ∈ s.live) (hne : k.hdl ≠ l.hdl) :
    (((retired s.cache l.slot).rules k.slot).indxTblEntry = (s.cache.rules k.slot).indxTblEntry ∧
      (s.cache.rules k.slot).indxTblEntry ≠
        freedIndx s.cache (s.cache.rules l.slot).indxTblEntry ∧
      (s.cache.rules k.slot).indxTblEntry ≠ (s.cache.rules l.slot).indxTblEntry) ∨
    (((retired s.cache l.slot).rules k.slot).indxTblEntry =
        (s.cache.rules l.slot).indxTblEntry ∧
      MovesUp s.cache (s.cache.rules l.slot).indxTblEntry ∧
      (s.cache.rules k.slot).indxTblEntry =
        (s.cache.indx (s.cache.rules l.slot).indxTblEntry).nextIndex) := by
  rw [inv.retired_live safe hl hk hne, ruleAfter_indx s.cache (inv.slot_ne hl hk hne)]
  have hother : (s.cache.rules k.slot).indxTblEntry ≠ (s.cache.rules l.slot).indxTblEntry :=
    fun he => hne (congrArg LiveRule.hdl (inv.eq_of_indx hk hl he))
  by_cases hm : MovesUp s.cache (s.cache.rules l.slot).indxTblEntry
  · obtain ⟨j, hj, -, hjx, hjs, -⟩ := inv.movesUp hl hm
    unfold freedIndx
    rw [if_pos hm, hjs]
    by_cases hkj : k.slot = j.slot
    · grind
    · rw [if_neg fun h => hkj h.2]
      refine Or.inl ⟨rfl, fun he => hkj ?_, hother⟩
      exact congrArg LiveRule.slot (inv.eq_of_indx hk hj (he.trans hjx.symm))
  grind [freedIndx]

theorem TableInv.ruleAfter_unused (inv : TableInv env s dst src) (hl : l ∈ s.live) {e : Nat}
    (hoff : (s.cache.rules e).enable = false) :
    ruleAfter s.cache l.slot e = s.cache.rules e := by
  have hon := inv.enabled hl
  have hne : e ≠ l.slot := by
    rintro rfl
    rw [hon] at hoff
    exact Bool.noConfusion hoff
  have used : ∀ x, (s.cache.rules x).enable = true → e ≠ x := by
    rintro x hx rfl
    rw [hx] at hoff
    exact Bool.noConfusion hoff
  obtain ⟨b, hb, hx⟩ := inv.rule_entry hl
  unfold ruleAfter
  dsimp only
  rw [if_neg hne]
  have hnext : nextAfterDel s.cache l.slot e = (s.cache.rules e).nextIndex := by
    refine if_neg fun h => ?_
    rcases List.mem_cons.mp hx with he | hm
    · have := h.1
      omega
    · exact used _ (inv.ruleChains.prev_used isExpn_not_base hb hm) h.2.symm
  have hprev : (if s.cache.tableEntries < l.slot ∧ (s.cache.rules l.slot).nextIndex ≠ 0 ∧
      e = (s.cache.rules l.slot).nextIndex then (s.cache.rules l.slot).prevIndex
      else (s.cache.rules e).prevIndex) = (s.cache.rules e).prevIndex := by
    refine if_neg fun h => ?_
    obtain ⟨hm, -, -⟩ := inv.ruleChains.next_cell isExpn_not_base hb hx h.2.1
    exact used _ (inv.ruleChains.cell_used hb hm) h.2.2
  have hindx : (if MovesUp s.cache (s.cache.rules l.slot).indxTblEntry ∧
      e = (s.cache.indx (s.cache.indx (s.cache.rules l.slot).indxTblEntry).nextIndex).tblEntry then
      (s.cache.rules l.slot).indxTblEntry else (s.cache.rules e).indxTblEntry) =
      (s.cache.rules e).indxTblEntry := by
    refine if_neg fun h => ?_
    obtain ⟨j, hj, -, -, hjs, -⟩ := inv.movesUp hl h.1
    exact used _ (inv.enabled hj) (h.2.trans hjs)
  rw [hnext, hprev, hindx]

theorem TableInv.indxAfter_unused (inv : TableInv env s dst src) (hl : l ∈ s.live) {x : Nat}
    (hx : InTable s.cache x)
    (hoff : (indxAfter s.cache (s.cache.rules l.slot).indxTblEntry x).tblEntry = 0) :
    indxAfter s.cache (s.cache.rules l.slot).indxTblEntry x = {} := by
  by_cases hf : x = freedIndx s.cache (s.cache.rules l.slot).indxTblEntry
  · rw [hf, indxAfter_freed]
  · have htbl := indxAfter_tblEntry s.cache hf
    rw [hoff] at htbl
    by_cases hm : MovesUp s.cache (s.cache.rules l.slot).indxTblEntry
    · obtain ⟨j, hj, -, -, hjs, -⟩ := inv.movesUp hl hm
      have hpos := (inv.slot j hj).pos
      by_cases hxl : x = (s.cache.rules l.slot).indxTblEntry
      · rw [if_pos hxl, hjs] at htbl
        omega
      · rw [if_neg hxl] at htbl
        unfold freedIndx at hf
        rw [if_pos hm] at hf
        unfold indxAfter
        rw [if_pos hm, if_neg hf, if_neg hxl]
        exact inv.zeroIndx x hx htbl.symm
    · unfold freedIndx at hf
      rw [if_neg hm] at hf
      rw [if_neg hf] at htbl
      unfold indxAfter
      rw [if_neg hm, if_neg hf, if_neg, inv.zeroIndx x hx htbl.symm]
      rintro ⟨hlt, he⟩
      obtain ⟨b, -, hb, hxb⟩ := inv.indx_entry hl
      rcases List.mem_cons.mp hxb with hbase | hcell
      · omega
      · rw [he] at htbl
        exact inv.indxChains.prev_used isExpn_not_base hb hcell htbl.symm

theorem TableInv.retired (inv : TableInv env s dst src) (safe : SweepSafe s l.hdl)
    (hl : l ∈ s.live) {ids : Nat → Nat} {cnt expnCnt : Nat}
    (hinv : HandleInv env ⟨(retired s.cache l.slot).withIds ids cnt expnCnt,
      s.live.filter fun k => k.hdl ≠ l.hdl⟩) :
    ∃ dst' src', TableInv env ⟨(IpaNat.retired s.cache l.slot).withIds ids cnt expnCnt,
      s.live.filter fun k => k.hdl ≠ l.hdl⟩ dst' src' := by
  obtain ⟨dst', hrule, hdst⟩ := inv.dropped_ruleChains hl
  obtain ⟨src', hindx, hsrc⟩ := inv.dropped_indxChains hl
  have sub : ∀ k ∈ s.live.filter fun k => k.hdl ≠ l.hdl, k ∈ s.live ∧ k.hdl ≠ l.hdl := by
    intro k hk
    simpa using hk
  have mem : ∀ k ∈ s.live, k.hdl ≠ l.hdl → k ∈ s.live.filter fun k => k.hdl ≠ l.hdl := by
    intro k hk hne
    simpa using ⟨hk, hne⟩
  refine ⟨dst', src', hinv, hrule.swept, hindx, ?_, ?_, ?_, ?_, ?_, ?_, ?_⟩
  · intro e _ hoff
    change ((IpaNat.retired s.cache l.slot).rules e).enable = false at hoff
    change (IpaNat.retired s.cache l.slot).rules e = {}
    rw [retired_rules] at hoff ⊢
    split at hoff
    next hd => rw [if_pos hd]
    next hd =>
      rw [if_neg hd]
      by_cases he : e = l.slot
      · rw [he] at hoff ⊢
        rcases ruleAfter_self s.cache l.slot with ⟨-, -, hself⟩ | ⟨-, hself⟩
        · rw [hself] at hoff
          exact Bool.noConfusion ((inv.enabled hl).symm.trans hoff)
        · exact hself
      · rw [(ruleAfter_other s.cache he).1] at hoff
        rw [inv.ruleAfter_unused hl hoff]
        exact inv.zeroRule e ‹_› hoff
  · intro x hx hoff
    exact inv.indxAfter_unused hl hx hoff
  · intro k hk
    obtain ⟨hk, hne⟩ := sub k hk
    have hb := (dstBucket_bound env inv.dims.baseLow inv.dims.baseHigh k.rule).2
    rcases List.mem_cons.mp (inv.onDst k hk) with he | hm
    · exact List.mem_cons.mpr (Or.inl he)
    · exact List.mem_cons_of_mem _ (hdst _ hb _ hm (inv.slot_ne hl hk hne))
  · intro k hk
    obtain ⟨hk, hne⟩ := sub k hk
    have hb := (srcBucket_bound inv.dims.baseLow inv.dims.baseHigh k.rule).2
    change ((IpaNat.retired s.cache l.slot).rules k.slot).indxTblEntry ∈ _
    rcases inv.retired_indx safe hl hk hne with ⟨hx, hfree, -⟩ | ⟨hx, hm, hy⟩
    · rw [hx]
      rcases List.mem_cons.mp (inv.onSrc k hk) with he | hmem
      · exact List.mem_cons.mpr (Or.inl he)
      · exact List.mem_cons_of_mem _ (hsrc _ hb _ hmem hfree)
    · obtain ⟨-, -, -, -, -, hcell⟩ := inv.movesUp hl hm
      have hon := inv.onSrc k hk
      rw [hy] at hon
      rw [hx, inv.indxChains.toChains.entry_apart isExpn_not_base hm.1 hb
        (List.mem_cons_of_mem _ hcell) hon]
      exact List.mem_cons_self
  · intro k hk
    obtain ⟨hk, hne⟩ := sub k hk
    change (indxAfter s.cache (s.cache.rules l.slot).indxTblEntry
      ((IpaNat.retired s.cache l.slot).rules k.slot).indxTblEntry).tblEntry = k.slot
    rcases inv.retired_indx safe hl hk hne with ⟨hx, hfree, hxl⟩ | ⟨hx, hm, hy⟩
    · rw [hx, indxAfter_tblEntry s.cache hfree, if_neg hxl]
      exact inv.points k hk
    · have hxf : (s.cache.rules l.slot).indxTblEntry ≠
          freedIndx s.cache (s.cache.rules l.slot).indxTblEntry := by
        obtain ⟨-, -, -, -, -, hcell⟩ := inv.movesUp hl hm
        unfold freedIndx
        rw [if_pos hm]
        exact fun he => isExpn_not_base _ hm.1 (he ▸ inv.indxChains.isCell _ hm.1 _ hcell)
      rw [hx, indxAfter_tblEntry s.cache hxf, if_pos rfl, ← hy]
      exact inv.points k hk
  · intro x hx hused
    change (indxAfter s.cache (s.cache.rules l.slot).indxTblEntry x).tblEntry ≠ 0 at hused
    have hfree : x ≠ freedIndx s.cache (s.cache.rules l.slot).indxTblEntry := by
      intro he
      rw [he, indxAfter_freed] at hused
      exact hused rfl
    by_cases hxl : x = (s.cache.rules l.slot).indxTblEntry
    · have hm : MovesUp s.cache (s.cache.rules l.slot).indxTblEntry := by
        by_contra hm
        unfold freedIndx at hfree
        rw [if_neg hm] at hfree
        exact hfree hxl
      obtain ⟨k, hk, hne, hkx, -, -⟩ := inv.movesUp hl hm
      refine ⟨k, mem k hk hne, ?_⟩
      rcases inv.retired_indx safe hl hk hne with ⟨-, hkf, -⟩ | ⟨hx', -, -⟩
      · grind [freedIndx]
      · exact hx'.trans hxl.symm
    · rw [indxAfter_tblEntry s.cache hfree, if_neg hxl] at hused
      obtain ⟨k, hk, hkx⟩ := inv.owner x hx hused
      have hne : k.hdl ≠ l.hdl := by
        intro hh
        cases inv.eq_of_hdl hk hl hh
        exact hxl hkx.symm
      refine ⟨k, mem k hk hne, ?_⟩
      rcases inv.retired_indx safe hl hk hne with ⟨hx', -, -⟩ | ⟨-, hm, hy⟩
      · exact hx'.trans hkx
      grind [freedIndx]
  · intro e he hon
    change ((IpaNat.retired s.cache l.slot).rules e).enable = true at hon
    rw [retired_rules] at hon
    split at hon
    next => exact Bool.noConfusion hon
    next hd =>
      have hrest : (IpaNat.retired s.cache l.slot).rules e = ruleAfter s.cache l.slot e :=
        if_neg hd
      by_cases hel : e = l.slot
      · rw [hel] at hon hrest
        rcases ruleAfter_self s.cache l.slot with ⟨hlt, hn, hself⟩ | ⟨-, hself⟩
        · refine Or.inr ⟨hel ▸ (inv.slot l hl).pos, hel ▸ hlt, ?_, ?_⟩
          · change ((IpaNat.retired s.cache l.slot).rules e).protocol = _
            rw [hel, hrest, hself]
          · change ((IpaNat.retired s.cache l.slot).rules e).nextIndex ≠ 0
            rw [hel, hrest, hself]
            exact hn
        · rw [hself] at hon
          exact Bool.noConfusion hon
      · obtain ⟨hen, hproto, -⟩ := ruleAfter_other s.cache hel
        rw [hen] at hon
        rcases inv.inUse e he hon with ⟨k, hk, hke⟩ | ⟨hpos, hbase, hp, -⟩
        · refine Or.inl ⟨k, mem k hk ?_, hke⟩
          intro hh
          cases inv.eq_of_hdl hk hl hh
          exact hel hke.symm
        · refine Or.inr ⟨hpos, hbase, ?_, ?_⟩
          · change ((IpaNat.retired s.cache l.slot).rules e).protocol = _
            rw [hrest, hproto]
            exact hp
          · change ((IpaNat.retired s.cache l.slot).rules e).nextIndex ≠ 0
            rw [hrest]
            exact fun hz => hd ⟨hbase, (isDeadHead_iff _).mpr ⟨hproto.trans hp, hz⟩⟩

theorem TableInv.del_cases (inv : TableInv env s dst src) {ok : Bool} {h : Nat} {ret : Int}
    {t : NatMem} (hd : ipaNatDelIpv4Rule ok h ⟨s.cache, []⟩ = some (ret, t)) :
    (ret ≠ 0 ∧ t = ⟨s.cache, []⟩ ∧ (ok = true → ∀ l ∈ s.live, l.hdl ≠ h)) ∨
    (ret = 0 ∧ ∃ l ∈ s.live, l.hdl = h ∧ ∃ cnt expnCnt, t.cache =
      (IpaNat.retired s.cache l.slot).withIds
        (Function.update s.cache.ruleIdArray (l.hdl - 1) 0) cnt expnCnt) := by
  rcases inv.toHandleInv.del_cases hd with herr | ⟨hret, -, l, hl, hh, expn, entry, hb, hs, rfl⟩
  · exact Or.inl herr
  · obtain ⟨cnt, expnCnt, hcache⟩ := inv.dropRule_fields hl hb hs
    refine Or.inr ⟨hret, l, hl, hh, cnt, expnCnt, ?_⟩
    rw [NatMem.store_cache, ipaNatiDelDeadIpv4HeadNodes_cache, hcache, hh]
    rfl

theorem TableInv.del (inv : TableInv env s dst src) {ok : Bool} {h : Nat} {ret : Int} {t : NatMem}
    (safe : SweepSafe s h) (hd : ipaNatDelIpv4Rule ok h ⟨s.cache, []⟩ = some (ret, t)) :
    ∃ dst' src', TableInv env (afterDel s h ret t) dst' src' := by
  have hinv := inv.toHandleInv.del safe hd
  unfold afterDel at hinv ⊢
  rcases inv.del_cases hd with ⟨hret, rfl, -⟩ | ⟨rfl, l, hl, rfl, cnt, expnCnt, hcache⟩
  · rw [if_neg hret]
    exact ⟨dst, src, inv⟩
  · rw [if_pos rfl, hcache] at hinv ⊢
    exact inv.retired safe hl hinv

end DeviceHal.IpaNat
