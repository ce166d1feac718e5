import DeviceHal.Ipacm.UplinkBooks

namespace DeviceHal.Ipacm

open Lib

namespace UplinkLan

variable {s t : UplinkLan} {wan : WanView} {iface : UplinkIface} {iptype : IpaIpType}

/-- Every uplink rule of the family is there once: those of the modem, or the one for a station. -/
def UplinkOnce (s : UplinkLan) (iptype : IpaIpType) : Prop :=
  (∃ n, 0 < n ∧ ∀ k, (k < n → ∃ g, ∀ g', s.driver.installed g' = some ⟨.modemUl iptype, k⟩ ↔ g' = g) ∧
      (n ≤ k → ∀ g, s.driver.installed g ≠ some ⟨.modemUl iptype, k⟩) ∧
      ∀ g, s.driver.installed g ≠ some ⟨.staUl iptype, k⟩) ∨
    (∃ g, ∀ g' k, s.driver.installed g' = some ⟨.staUl iptype, k⟩ ↔ g' = g ∧ k = 0) ∧
      ∀ g k, s.driver.installed g ≠ some ⟨.modemUl iptype, k⟩

def NoUplink (s : UplinkLan) (iptype : IpaIpType) : Prop :=
  ∀ g k, s.driver.installed g ≠ some ⟨.modemUl iptype, k⟩ ∧
    s.driver.installed g ≠ some ⟨.staUl iptype, k⟩

/-- The uplink of each family is offloaded when it should be, and only then. -/
def Offloaded (s : UplinkLan) : Prop :=
  ∀ iptype,
    (s.isUpstreamSet iptype = true → s.isDownstreamSet iptype = true →
      s.ipType.covers iptype = true → s.UplinkOnce iptype) ∧
    (s.isUpstreamSet iptype = false ∨ s.isDownstreamSet iptype = false → s.NoUplink iptype)

/-- What an interface may hold to be installed for a family, by whether the family is complete. -/
inductive Settled : Bool → Bool × List Nat × Bool → Prop
  | absent : Settled false (false, [], false)
  | modem {hdls : List Nat} (hne : hdls ≠ []) (hle : hdls.length ≤ maxWanUlFilterRules) :
      Settled true (true, hdls, false)
  | sta : Settled true (false, [], true)

variable {place : Bool × List Nat × Bool}

theorem Settled.of_complete (h : Settled true place) :
    place.1 = true ∧ place.2.1 ≠ [] ∧ place.2.1.length ≤ maxWanUlFilterRules ∧ place.2.2 = false ∨
      place.1 = false ∧ place.2.1 = [] ∧ place.2.2 = true := by
  cases h with
  | modem hne hle => exact Or.inl ⟨rfl, hne, hle, rfl⟩
  | sta => exact Or.inr ⟨rfl, rfl, rfl⟩

theorem Settled.of_incomplete (h : Settled false place) : place = (false, [], false) := by
  cases h
  rfl

theorem Books.uplinkOnce_iff (h : s.Books) : s.UplinkOnce iptype ↔
    s.wanUlFlRuleHdl iptype ≠ [] ∧ s.staUlSet iptype = false ∨
      s.wanUlFlRuleHdl iptype = [] ∧ s.staUlSet iptype = true := by
  have hmodem := h.modem iptype
  have hsta := h.sta iptype
  constructor
  · rintro (⟨n, hn, hall⟩ | ⟨⟨g, hg⟩, hnone⟩)
    · obtain ⟨g, hg⟩ := (hall 0).1 hn
      have hfirst := (hmodem 0 g).mpr ((hg g).mpr rfl)
      refine Or.inl ⟨fun hnil => ?_, ?_⟩
      · rw [hnil] at hfirst
        cases hfirst
      · cases hset : s.staUlSet iptype with
        | false => rfl
        | true => exact absurd (h.installed_sta hset) ((hall 0).2.2 _)
    · refine Or.inr ⟨?_, ?_⟩
      · refine List.eq_nil_iff_forall_not_mem.mpr fun g' hmem => ?_
        obtain ⟨k, hk⟩ := hmodem.group_of_mem hmem
        exact hnone g' k hk
      · cases hset : s.staUlSet iptype with
        | true => rfl
        | false =>
          have hself := (hsta 0 g).mpr ((hg g 0).mpr ⟨rfl, rfl⟩)
          grind
  · rintro (⟨hne, hset⟩ | ⟨hnil, hset⟩)
    · refine Or.inl ⟨_, List.length_pos_iff.mpr hne, fun k => ⟨fun hk => ?_, fun hk g hg => ?_, fun g hg => ?_⟩⟩
      · refine ⟨(s.wanUlFlRuleHdl iptype)[k], fun g' => ?_⟩
        rw [← hmodem k g', List.getElem?_eq_getElem hk, Option.some.injEq]
        exact eq_comm
      · have hlt := (List.getElem?_eq_some_iff.mp ((hmodem k g).mpr hg)).1
        omega
      · have hself := (hsta k g).mpr hg
        grind
    · refine Or.inr ⟨⟨s.staFlRuleHdl iptype, fun g' k => ?_⟩, fun g k hg => ?_⟩
      · rw [← hsta k g', hset, if_pos rfl]
        grind
      · have hself := (hmodem k g).mpr hg
        rw [hnil] at hself
        cases hself

theorem Books.noUplink_iff (h : s.Books) : s.NoUplink iptype ↔
    s.wanUlFlRuleHdl iptype = [] ∧ s.staUlSet iptype = false := by
  constructor
  · intro hnone
    refine ⟨List.eq_nil_iff_forall_not_mem.mpr fun g hmem => ?_, ?_⟩
    · obtain ⟨k, hk⟩ := (h.modem iptype).group_of_mem hmem
      exact (hnone g k).1 hk
    · cases hset : s.staUlSet iptype with
      | false => rfl
      | true => exact absurd (h.installed_sta hset) (hnone _ 0).2
  · rintro ⟨hnil, hset⟩ g k
    refine ⟨fun hg => ?_, fun hg => ?_⟩
    · have hself := (h.modem iptype k g).mpr hg
      rw [hnil] at hself
      cases hself
    · have hself := (h.sta iptype k g).mpr hg
      rw [hset, if_neg Bool.false_ne_true] at hself
      cases hself

/-- An interface that is up, with the rules of the complete families in place. -/
structure Sorted (s : UplinkLan) : Prop where
  active : s.isActive = true
  books : s.Books
  addrs : s.ipv6Addr ≠ [] → s.ipType.covers .v6 = true
  settled : ∀ iptype, Settled (s.complete iptype) (s.inPlace iptype)

theorem Sorted.offloaded (h : s.Sorted) : s.Offloaded := by
  intro iptype
  have hsettled := h.settled iptype
  constructor
  · intro hup hdown hcovers
    have hcomplete : s.complete iptype = true := by
      simp [complete, hup, hdown, hcovers]
    rw [hcomplete] at hsettled
    rw [h.books.uplinkOnce_iff]
    rcases hsettled.of_complete with ⟨-, hne, -, hsta⟩ | ⟨-, hnil, hsta⟩
    · exact Or.inl ⟨hne, hsta⟩
    · exact Or.inr ⟨hnil, hsta⟩
  · intro hdown
    have hcomplete : s.complete iptype = false := by
      rcases hdown with hdown | hdown <;> simp [complete, hdown]
    rw [hcomplete] at hsettled
    rw [h.books.noUplink_iff]
    exact (Prod.mk.inj hsettled.of_incomplete).2 |> Prod.mk.inj

/-- Other rules come or go: nothing of the uplink changes. -/
structure OnlyBase (s t : UplinkLan) : Prop where
  books : t.Books
  flags : t.flags = s.flags
  inPlace : t.inPlace = s.inPlace
  addrs : t.ipv6Addr = s.ipv6Addr

theorem OnlyBase.trans {u : UplinkLan} (h : OnlyBase s t) (h' : OnlyBase t u) : OnlyBase s u :=
  ⟨h'.books, h'.flags.trans h.flags, h'.inPlace.trans h.inPlace, h'.addrs.trans h.addrs⟩

/-- A call leaves the flags and the other family alone. -/
structure OnlyFamily (s t : UplinkLan) (iptype : IpaIpType) : Prop where
  flags : t.flags = s.flags
  addrs : t.ipv6Addr = s.ipv6Addr
  other : ∀ iptype', iptype' ≠ iptype → t.inPlace iptype' = s.inPlace iptype'

theorem OnlyFamily.complete (h : OnlyFamily s t iptype) : t.complete = s.complete := by
  have hflags := h.flags
  simp only [UplinkLan.flags, Prod.mk.injEq] at hflags
  funext iptype'
  simp only [UplinkLan.complete, hflags.2.1, hflags.2.2.1, hflags.2.2.2]

theorem OnlyFamily.active (h : OnlyFamily s t iptype) : t.isActive = s.isActive :=
  (Prod.mk.inj h.flags).1

theorem OnlyFamily.trans {u : UplinkLan} (h : OnlyFamily s t iptype) (h' : OnlyFamily t u iptype) :
    OnlyFamily s u iptype :=
  ⟨h'.flags.trans h.flags, h'.addrs.trans h.addrs,
    fun iptype' hne => (h'.other iptype' hne).trans (h.other iptype' hne)⟩

theorem OnlyBase.onlyFamily (h : OnlyBase s t) : OnlyFamily s t iptype :=
  ⟨h.flags, h.addrs, fun iptype' _ => congrFun h.inPlace iptype'⟩

theorem installIpv6PrefixFltRule_spec (h : s.Books) : OnlyBase s (s.installIpv6PrefixFltRule {}) := by
  have hadd := addFilteringRule_ok {} s .ipv6Prefix 1 rfl
    fun _ _ => rfl
  have hhead : (s.driver.addAll (FltGroup.ipv6Prefix.rules 1)).1.headD 0 = s.driver.next := by
    rw [Handles.addAll_handles]
    rfl
  unfold installIpv6PrefixFltRule
  rw [hadd]
  refine ⟨?_, rfl, rfl, rfl⟩
  unfold Books
  simp only [hhead]
  exact UplinkBooks.add_prefix h

theorem handleWanUp_spec (h : s.Books) (hunset : s.staUlSet iptype = false) :
    (s.handleWanUp {} iptype).Books ∧ OnlyFamily s (s.handleWanUp {} iptype) iptype ∧
      (s.handleWanUp {} iptype).inPlace iptype =
        (s.modemUlSet iptype, s.wanUlFlRuleHdl iptype, true) := by
  have hadd := addFilteringRule_ok {} s (.staUl iptype) 1 rfl
    fun _ _ => rfl
  have hhead : (s.driver.addAll ((FltGroup.staUl iptype).rules 1)).1.headD 0 = s.driver.next := by
    rw [Handles.addAll_handles]
    rfl
  unfold handleWanUp
  rw [hadd, hunset]
  refine ⟨?_, ⟨rfl, rfl, fun iptype' hne => ?_⟩, ?_⟩
  · unfold Books
    simp only [hhead]
    exact UplinkBooks.add_sta h hunset
  · change (s.modemUlSet iptype', s.wanUlFlRuleHdl iptype',
      Function.update s.staUlSet iptype true iptype') = _
    rw [Function.update_of_ne hne]
    rfl
  · change (s.modemUlSet iptype, s.wanUlFlRuleHdl iptype,
      Function.update s.staUlSet iptype true iptype) = _
    rw [Function.update_self]

theorem handleUplinkFilterRule_spec (h : s.Books) (hnil : s.wanUlFlRuleHdl iptype = []) :
    (s.handleUplinkFilterRule wan {} iptype).Books ∧
      OnlyFamily s (s.handleUplinkFilterRule wan {} iptype) iptype ∧
      ∃ hdls, (s.handleUplinkFilterRule wan {} iptype).inPlace iptype =
          (s.modemUlSet iptype, hdls, s.staUlSet iptype) ∧
        hdls.length = if wan.numExtProps iptype ≤ maxWanUlFilterRules then wan.numExtProps iptype else 0 := by
  have hadd := addFilteringRule_ok {} s (.modemUl iptype) (wan.numExtProps iptype) rfl
    fun _ _ => rfl
  have hsame : s.inPlace iptype = (s.modemUlSet iptype, [], s.staUlSet iptype) := by
    rw [inPlace, hnil]
  unfold handleUplinkFilterRule
  split
  next hzero =>
    refine ⟨h, ⟨rfl, rfl, fun _ _ => rfl⟩, [], hsame, ?_⟩
    rw [hzero]
    rfl
  split
  next hmany =>
    refine ⟨h, ⟨rfl, rfl, fun _ _ => rfl⟩, [], hsame, ?_⟩
    rw [if_neg (Nat.not_le_of_lt hmany)]
    rfl
  next hfits =>
    rw [hadd]
    refine ⟨?_, ⟨rfl, rfl, fun iptype' hne => ?_⟩,
      (s.driver.addAll ((FltGroup.modemUl iptype).rules (wan.numExtProps iptype))).1, ?_, ?_⟩
    · have hbooks := UplinkBooks.add_modem h hnil (wan.numExtProps iptype)
      simp only [Bool.not_true, Bool.false_eq_true, if_false]
      unfold Books
      have happ : ∀ hdls : List Nat, (s.added (.modemUl iptype) (wan.numExtProps iptype)).wanUlFlRuleHdl
          iptype ++ hdls = hdls := by
        intro hdls
        change s.wanUlFlRuleHdl iptype ++ hdls = hdls
        rw [hnil, List.nil_append]
      simp only [happ]
      exact hbooks
    · change (s.modemUlSet iptype', Function.update s.wanUlFlRuleHdl iptype _ iptype',
        s.staUlSet iptype') = _
      rw [Function.update_of_ne hne]
      rfl
    · change (s.modemUlSet iptype, Function.update s.wanUlFlRuleHdl iptype _ iptype,
        s.staUlSet iptype) = _
      rw [Function.update_self]
      have happ : (s.added (.modemUl iptype) (wan.numExtProps iptype)).wanUlFlRuleHdl iptype = [] := hnil
      rw [happ, List.nil_append]
    · rw [if_pos (Nat.le_of_not_lt hfits), Handles.length_addAll, FltGroup.length_rules]

theorem handleWanUpEx_spec (h : s.Books) (hplace : s.inPlace iptype = (false, [], false)) :
    (s.handleWanUpEx wan {} iptype).Books ∧ OnlyFamily s (s.handleWanUpEx wan {} iptype) iptype ∧
      ∃ hdls, (s.handleWanUpEx wan {} iptype).inPlace iptype = (true, hdls, false) ∧
        hdls.length = if wan.numExtProps iptype ≤ maxWanUlFilterRules then wan.numExtProps iptype else 0 := by
  simp only [inPlace, Prod.mk.injEq] at hplace
  obtain ⟨hunset, hnil, hsta⟩ := hplace
  obtain ⟨hbooks, honly, hdls, hat, hlength⟩ := handleUplinkFilterRule_spec h hnil
  simp only [inPlace, Prod.mk.injEq] at hat
  unfold handleWanUpEx
  rw [hunset]
  refine ⟨hbooks, ⟨honly.flags, honly.addrs, fun iptype' hne => ?_⟩, hdls, ?_, hlength⟩
  · have hother := honly.other iptype' hne
    simp only [inPlace, Prod.mk.injEq] at hother ⊢
    refine ⟨?_, hother.2⟩
    refine Eq.trans ?_ hother.1
    exact Function.update_of_ne hne ..
  · simp only [inPlace, Prod.mk.injEq]
    exact ⟨Function.update_self .., hat.2.1, hat.2.2.trans hsta⟩

variable (wan) in
theorem installUplink_spec (h : s.Books) (hplace : s.inPlace iptype = (false, [], false)) (isSta : Bool) :
    (s.installUplink wan {} iptype isSta).Books ∧
      OnlyFamily s (s.installUplink wan {} iptype isSta) iptype ∧
      (isSta = true → (s.installUplink wan {} iptype isSta).inPlace iptype = (false, [], true)) ∧
      (isSta = false → ∃ hdls, (s.installUplink wan {} iptype isSta).inPlace iptype = (true, hdls, false) ∧
        hdls.length = if wan.numExtProps iptype ≤ maxWanUlFilterRules then wan.numExtProps iptype else 0) := by
  have hprefix : ∃ u : UplinkLan,
      u = (if iptype = .v6 then s.installIpv6PrefixFltRule {} else s) ∧ u.Books ∧
        OnlyFamily s u iptype ∧ u.inPlace iptype = (false, [], false) := by
    refine ⟨_, rfl, ?_⟩
    split
    · have hbase := installIpv6PrefixFltRule_spec h
      exact ⟨hbase.books, hbase.onlyFamily, (congrFun hbase.inPlace iptype).trans hplace⟩
    · exact ⟨h, ⟨rfl, rfl, fun _ _ => rfl⟩, hplace⟩
  obtain ⟨u, hu, hbooks, honly, hat⟩ := hprefix
  have hfields := hat
  simp only [inPlace, Prod.mk.injEq] at hfields
  unfold installUplink
  simp only [← hu]
  cases isSta with
  | true =>
    obtain ⟨hbooks', honly', hat'⟩ := handleWanUp_spec hbooks hfields.2.2
    refine ⟨hbooks', honly.trans honly', fun _ => ?_, nofun⟩
    rw [hfields.1, hfields.2.1] at hat'
    exact hat'
  | false =>
    obtain ⟨hbooks', honly', hat'⟩ := handleWanUpEx_spec hbooks hat
    exact ⟨hbooks', honly.trans honly', nofun, fun _ => hat'⟩

theorem deleteIpv6PrefixFltRule_spec (h : s.Books) : OnlyBase s (s.deleteIpv6PrefixFltRule {}) := by
  have hdel := withdrawHdls_ok {} s .v6 [s.ipv6PrefixFltRuleHdl]
    h.sound.zero fun _ _ _ => rfl
  unfold deleteIpv6PrefixFltRule
  rw [hdel]
  refine ⟨?_, rfl, rfl, rfl⟩
  refine UplinkBooks.del_other .ipv6Prefix h (fun g hg rule hrule => ?_) (fun _ => nofun)
    fun _ => nofun
  rw [List.mem_singleton.mp hg] at hrule
  exact congrArg FltRule.group (h.prefixRule rule hrule)

theorem withdrawSta_books (h : s.Books) : UplinkBooks (s.driver.delAll [s.staFlRuleHdl iptype])
    s.wanUlFlRuleHdl (Function.update s.staUlSet iptype false) s.staFlRuleHdl
    s.ipv6PrefixFltRuleHdl := by
  cases hset : s.staUlSet iptype with
  | true => exact UplinkBooks.del_sta h hset
  | false =>
    have hsame : s.driver.delAll [s.staFlRuleHdl iptype] = s.driver :=
      Handles.del_of_absent (h.staUnset iptype hset)
    rw [hsame, ← hset, Function.update_eq_self]
    exact h

theorem withdrawUplink_spec (h : s.Books) {c : Bool} (hsettled : Settled c (s.inPlace iptype))
    (isStaMode : Bool) :
    (s.withdrawUplink {} iptype isStaMode).Books ∧
      OnlyFamily s (s.withdrawUplink {} iptype isStaMode) iptype ∧
      (s.withdrawUplink {} iptype isStaMode).inPlace iptype =
        if isStaMode && s.modemUlSet iptype then s.inPlace iptype else (false, [], false) := by
  have hmodem := withdrawHdls_ok {} s iptype (s.wanUlFlRuleHdl iptype) h.sound.zero fun _ _ _ => rfl
  have hsta := withdrawHdls_ok {} s iptype [s.staFlRuleHdl iptype] h.sound.zero fun _ _ _ => rfl
  unfold withdrawUplink
  split
  next hcase =>
    simp only [Bool.and_eq_true, Bool.not_eq_true'] at hcase
    obtain ⟨hmode, hset⟩ := hcase
    have hplace : s.wanUlFlRuleHdl iptype ≠ [] ∧
        (s.wanUlFlRuleHdl iptype).length ≤ maxWanUlFilterRules ∧ s.staUlSet iptype = false := by
      cases c with
      | true =>
        rcases hsettled.of_complete with ⟨-, hrest⟩ | ⟨hunset, -⟩
        · exact hrest
        · rw [inPlace, hset] at hunset
          cases hunset
      | false =>
        have hnone := (Prod.mk.inj hsettled.of_incomplete).1
        rw [hset] at hnone
        cases hnone
    obtain ⟨hne, hle, hunset⟩ := hplace
    rw [if_neg (Nat.not_lt_of_le hle), if_neg (by simpa using hne), hmodem]
    refine ⟨UplinkBooks.del_modem h iptype, ⟨rfl, rfl, fun iptype' hother => ?_⟩, ?_⟩
    · change (Function.update s.modemUlSet iptype false iptype',
        Function.update s.wanUlFlRuleHdl iptype [] iptype', s.staUlSet iptype') = _
      rw [Function.update_of_ne hother, Function.update_of_ne hother]
      rfl
    · change (Function.update s.modemUlSet iptype false iptype,
        Function.update s.wanUlFlRuleHdl iptype [] iptype, s.staUlSet iptype) = _
      rw [Function.update_self, Function.update_self, hunset, hmode]
      rfl
  next hcase =>
    rw [hsta]
    refine ⟨withdrawSta_books h, ⟨rfl, rfl, fun iptype' hother => ?_⟩, ?_⟩
    · change (s.modemUlSet iptype', s.wanUlFlRuleHdl iptype',
        Function.update s.staUlSet iptype false iptype') = _
      rw [Function.update_of_ne hother]
      rfl
    · change (s.modemUlSet iptype, s.wanUlFlRuleHdl iptype,
        Function.update s.staUlSet iptype false iptype) = _
      rw [Function.update_self]
      cases c with
      | true =>
        rcases hsettled.of_complete with ⟨hset, -, -, hunset⟩ | ⟨hunset, hnil, -⟩
        · simp only [inPlace] at hset hunset
          have hmode : isStaMode = true := by
            simpa [hset] using hcase
          rw [hmode, hset, Bool.true_and, if_pos rfl, inPlace, hset, hunset]
        · simp only [inPlace] at hunset hnil
          rw [hunset, hnil, Bool.and_false, if_neg Bool.false_ne_true]
      | false =>
        have hnone := hsettled.of_incomplete
        simp only [inPlace, Prod.mk.injEq] at hnone
        grind

theorem handleWanDown_spec (h : s.Books) {c : Bool} (hsettled : Settled c (s.inPlace iptype))
    (isStaMode : Bool) :
    (s.handleWanDown {} iptype isStaMode).Books ∧
      OnlyFamily s (s.handleWanDown {} iptype isStaMode) iptype ∧
      (s.handleWanDown {} iptype isStaMode).inPlace iptype =
        if isStaMode && s.modemUlSet iptype then s.inPlace iptype else (false, [], false) := by
  have hprefix : ∃ u : UplinkLan,
      u = (if iptype = .v6 then s.deleteIpv6PrefixFltRule {} else s) ∧ u.Books ∧
        OnlyFamily s u iptype ∧ u.inPlace iptype = s.inPlace iptype := by
    refine ⟨_, rfl, ?_⟩
    split
    · have hbase := deleteIpv6PrefixFltRule_spec h
      exact ⟨hbase.books, hbase.onlyFamily, congrFun hbase.inPlace iptype⟩
    · exact ⟨h, ⟨rfl, rfl, fun _ _ => rfl⟩, rfl⟩
  obtain ⟨u, hu, hbooks, honly, hat⟩ := hprefix
  rw [← hat] at hsettled
  obtain ⟨hbooks', honly', hat'⟩ := withdrawUplink_spec hbooks hsettled isStaMode
  have hset : u.modemUlSet iptype = s.modemUlSet iptype := (Prod.mk.inj hat).1
  rw [hset, hat] at hat'
  have hunfold : s.handleWanDown {} iptype isStaMode = u.withdrawUplink {} iptype isStaMode := by
    unfold handleWanDown
    simp only [← hu]
    rfl
  rw [hunfold]
  exact ⟨hbooks', honly.trans honly', hat'⟩

variable (iptype) in
theorem initFlRule_spec (h : s.Books) : OnlyBase s (s.initFlRule {} iptype) := by
  have hadd := addFilteringRule_ok {} s (.dft iptype) (defaultFilteringRules iptype) rfl
    fun _ _ => rfl
  unfold initFlRule
  rw [hadd]
  exact ⟨UplinkBooks.add_other _ h _ (fun _ => nofun) fun _ => nofun, rfl, rfl, rfl⟩

variable (iptype) in
theorem installIcmpFltRule_spec (h : s.Books) : OnlyBase s (s.installIcmpFltRule {} iptype) := by
  have hadd := addFilteringRule_ok {} s (.icmp iptype) 1 rfl
    fun _ _ => rfl
  unfold installIcmpFltRule
  rw [hadd]
  exact ⟨UplinkBooks.add_other _ h _ (fun _ => nofun) fun _ => nofun, rfl, rfl, rfl⟩

variable (iptype) in
theorem addDummyPrivateSubnetFltRule_spec (h : s.Books) :
    OnlyBase s (s.addDummyPrivateSubnetFltRule {} iptype) := by
  have hadd := addFilteringRule_ok {} s .privateSubnet ipaMaxPrivateSubnetEntries rfl
    fun _ _ => rfl
  cases iptype with
  | v6 => exact ⟨h, rfl, rfl, rfl⟩
  | v4 =>
    unfold addDummyPrivateSubnetFltRule
    rw [hadd]
    exact ⟨UplinkBooks.add_other _ h _ (fun _ => nofun) fun _ => nofun, rfl, rfl, rfl⟩

def isDuplicate (s : UplinkLan) : IfaceAddr → Bool
  | .v4 _ => false
  | .v6 ip => ip ∈ s.ipv6Addr

/-- The event is about a new address of this interface, and one is wanted. -/
def takesAddr (s : UplinkLan) (iface : UplinkIface) (addr : IfaceAddr) : Bool :=
  !addr.isZero && !iface.oduBridge && s.admitsAddr addr.iptype && !s.isDuplicate addr

/-- The family would be complete with one more address and with what is up by now. -/
def completeWith (s : UplinkLan) (wan : WanView) (addr : IfaceAddr) (iptype : IpaIpType) : Bool :=
  (s.isUpstreamSet iptype || wan.isWanUp iptype) && s.isDownstreamSet iptype &&
    (s.ipType.covers iptype || decide (addr.iptype = iptype))

theorem handleAddrEvt_spec (h : s.Books) (addr : IfaceAddr) :
    (s.handleAddrEvt {} addr).2.Books ∧
      (s.handleAddrEvt {} addr).2.inPlace = s.inPlace ∧
      (s.handleAddrEvt {} addr).2.flags =
        (s.isActive, s.ipType.config addr.iptype, s.isUpstreamSet, s.isDownstreamSet) ∧
      ((s.handleAddrEvt {} addr).2.ipv6Addr ≠ [] → s.ipv6Addr ≠ [] ∨ addr.iptype = .v6) ∧
      ((s.handleAddrEvt {} addr).1 = ipacmFailure ↔ s.isDuplicate addr = true) := by
  have hconfig : ∃ u : UplinkLan, u = { s with ipType := s.ipType.config addr.iptype } ∧ u.Books :=
    ⟨_, rfl, h⟩
  obtain ⟨u, hu, hbooks⟩ := hconfig
  have haddrs : u.ipv6Addr = s.ipv6Addr := by rw [hu]
  have hplace : u.inPlace = s.inPlace := by rw [hu]; rfl
  have hflags : u.flags =
      (s.isActive, s.ipType.config addr.iptype, s.isUpstreamSet, s.isDownstreamSet) := by
    rw [hu]
    rfl
  have htaken : ¬(0 : Int) = ipacmFailure := by decide
  unfold handleAddrEvt
  simp only [← hu]
  cases addr with
  | v4 ip =>
    have hdft := initFlRule_spec .v4 hbooks
    have hbase := hdft.trans (installIcmpFltRule_spec .v4 hdft.books)
    refine ⟨hbase.books, hbase.inPlace.trans hplace, hbase.flags.trans hflags, fun hne => Or.inl ?_, ?_⟩
    · intro hnil
      exact hne (hbase.addrs.trans (haddrs.trans hnil))
    · exact iff_of_false htaken Bool.false_ne_true
  | v6 ip =>
    by_cases hmem : ip ∈ s.ipv6Addr
    · grind [isDuplicate]
    · have hbase : ∃ v : UplinkLan, v = (if s.ipv6Addr = [] then
          (u.installIcmpFltRule {} .v6).initFlRule {} .v6 else u) ∧ OnlyBase u v := by
        refine ⟨_, rfl, ?_⟩
        split
        · have hicmp := installIcmpFltRule_spec .v6 hbooks
          exact hicmp.trans (initFlRule_spec _ hicmp.books)
        · exact ⟨hbooks, rfl, rfl, rfl⟩
      obtain ⟨v, hv, hbase⟩ := hbase
      simp only [if_neg hmem, ← hv]
      refine ⟨hbase.books, hbase.inPlace.trans hplace, hbase.flags.trans hflags, fun _ => Or.inr rfl,
        fun hfail => absurd hfail htaken, fun hdup => ?_⟩
      exact absurd (by simpa [isDuplicate] using hdup) hmem

theorem addrAdd_spec (h : s.Sorted) (addr : IfaceAddr) :
    (s.addrAdd iface wan {} addr).Books ∧ (s.addrAdd iface wan {} addr).isActive = true ∧
      ((s.addrAdd iface wan {} addr).ipv6Addr ≠ [] →
        (s.addrAdd iface wan {} addr).ipType.covers .v6 = true) ∧
      (s.addrAdd iface wan {} addr).inPlace = s.inPlace ∧
      (s.addrAdd iface wan {} addr).complete =
        if s.takesAddr iface addr then s.completeWith wan addr else s.complete := by
  unfold addrAdd takesAddr
  split
  next hzero => exact ⟨h.books, h.active, h.addrs, rfl, by simp [hzero]⟩
  next hzero =>
  split
  next hbridge =>
    have hbase := addDummyPrivateSubnetFltRule_spec addr.iptype h.books
    have hflags := hbase.flags
    simp only [UplinkLan.flags, Prod.mk.injEq] at hflags
    refine ⟨hbase.books, hflags.1.trans h.active, fun hne => ?_, hbase.inPlace, ?_⟩
    · rw [hflags.2.1]
      rw [hbase.addrs] at hne
      exact h.addrs hne
    · simp only [hzero, hbridge]
      funext iptype'
      simp [complete, hflags]
  next hbridge =>
  split
  next hadmits =>
    obtain ⟨hbooks, hplace, hflags, haddrs, hres⟩ := handleAddrEvt_spec h.books addr
    generalize s.handleAddrEvt {} addr = r at hbooks hplace hflags haddrs hres
    obtain ⟨res, u⟩ := r
    simp only [UplinkLan.flags, Prod.mk.injEq] at hflags
    obtain ⟨hactive, htype, hup, hdown⟩ := hflags
    have hcovers : ∀ iptype', u.ipType.covers iptype' =
        (s.ipType.covers iptype' || decide (addr.iptype = iptype')) := by
      intro iptype'
      rw [htype]
      exact IfaceIpType.covers_config
    have hknown : u.ipv6Addr ≠ [] → u.ipType.covers .v6 = true := by
      intro hne
      rw [hcovers]
      rcases haddrs hne with hne | hsix
      · rw [h.addrs hne]
        rfl
      · simp [hsix]
    simp only at hres hbooks hplace
    by_cases hdup : s.isDuplicate addr = true
    · have hfails : res = ipacmFailure := hres.mpr hdup
      simp only [hfails, if_true]
      refine ⟨hbooks, hactive.trans h.active, hknown, hplace, ?_⟩
      simp only [hdup, Bool.not_true, Bool.and_false, Bool.false_eq_true, if_false]
      have hsame : ∀ iptype', u.ipType.covers iptype' = s.ipType.covers iptype' := by
        intro iptype'
        rw [hcovers]
        cases addr with
        | v4 ip => cases hdup
        | v6 ip =>
          have hne : s.ipv6Addr ≠ [] := List.ne_nil_of_mem (by simpa [isDuplicate] using hdup)
          cases iptype' with
          | v4 => simp [IfaceAddr.iptype]
          | v6 => simp [h.addrs hne]
      funext iptype'
      simp only [complete, hup, hdown, hsame]
    · have hgoes : res ≠ ipacmFailure := fun he => hdup (hres.mp he)
      have hbase := addDummyPrivateSubnetFltRule_spec addr.iptype hbooks
      have hlater := hbase.flags
      simp only [UplinkLan.flags, Prod.mk.injEq] at hlater
      simp only [hgoes, if_false]
      refine ⟨hbase.books, ?_, fun hne => ?_, hbase.inPlace.trans hplace, ?_⟩
      · exact hlater.1.trans (hactive.trans h.active)
      · rw [hlater.2.1]
        exact hknown fun hnil => hne (hbase.addrs.trans hnil)
      · simp only [hzero, hbridge, hadmits, hdup, Bool.not_false, Bool.and_self, if_true]
        funext iptype'
        simp only [complete, completeWith, hlater, hup, hdown, hcovers]
  next hadmits => exact ⟨h.books, h.active, h.addrs, rfl, by simp [hadmits]⟩

end UplinkLan

end DeviceHal.Ipacm
