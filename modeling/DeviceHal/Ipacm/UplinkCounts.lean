import DeviceHal.Ipacm.UplinkBooks

namespace DeviceHal.Ipacm

open Lib

variable {calls : IpaCalls} {driver : Handles FltRule} {group group' : FltGroup} {hdls hs : List Nat}

/-- The handles of an array are those of the rules of a group, if not of all of them. -/
def Held (driver : Handles FltRule) (group : FltGroup) (hdls : List Nat) : Prop :=
  ∀ k hdl, hdls[k]? = some hdl → driver.installed hdl = some ⟨group, k⟩

theorem Recorded.held (h : Recorded driver group hdls) : Held driver group hdls :=
  fun k hdl => (h k hdl).mp

namespace Held

theorem group_of_mem (h : Held driver group hdls) {g : Nat} (hg : g ∈ hdls) :
    ∃ k, driver.installed g = some ⟨group, k⟩ := by
  obtain ⟨k, hk⟩ := List.mem_iff_getElem?.mp hg
  exact ⟨k, h k g hk⟩

theorem nodup (h : Held driver group hdls) : hdls.Nodup := by
  refine List.nodup_iff_getElem?_ne_getElem?.mpr fun i j hij hj heq => ?_
  have hsome := List.getElem?_eq_getElem hj
  have hfirst := h i _ (heq.trans hsome)
  have hsecond := h j _ hsome
  grind

theorem ne_zero (h : Held driver group hdls) (hsound : driver.Sound) {g : Nat} (hg : g ∈ hdls) : g ≠ 0 := by
  obtain ⟨k, hk⟩ := h.group_of_mem hg
  rintro rfl
  rw [hsound.zero] at hk
  cases hk

theorem addAll (h : Held driver group hdls) (hsound : driver.Sound) (xs : List FltRule) :
    Held (driver.addAll xs).2 group hdls := by
  intro k g hg
  have hold := h k g hg
  rw [Handles.addAll_installed_of_lt (hsound.lt_next hold)]
  exact hold

theorem add_self (hsound : driver.Sound) (group : FltGroup) (n : Nat) :
    Held (driver.addAll (group.rules n)).2 group (driver.addAll (group.rules n)).1 := by
  intro k g hg
  rw [Handles.addAll_handles, FltGroup.length_rules] at hg
  obtain ⟨hlt, heq⟩ := List.getElem?_eq_some_iff.mp hg
  rw [List.length_range'] at hlt
  rw [List.getElem_range'] at heq
  refine (Handles.addAll_iff hsound.fresh).mpr (Or.inr ⟨k, by omega, ?_⟩)
  exact FltGroup.getElem?_rules.mpr ⟨hlt, rfl⟩

theorem del_other (h : Held driver group hdls) (hother : Held driver group' hs) (hne : group ≠ group') :
    Held (driver.delAll hs) group hdls := by
  intro k g hg
  have hold := h k g hg
  refine Handles.delAll_iff.mpr ⟨fun hmem => ?_, hold⟩
  obtain ⟨k', hk'⟩ := hother.group_of_mem hmem
  grind

end Held

theorem count_addRules (calls : IpaCalls) (driver : Handles FltRule) (rules : List FltRule)
    (p : FltRule → Bool) : (UplinkLan.addRules calls driver rules).2.count p =
      driver.count p + (rules.filter calls.ruleStatus).countP p := by
  induction rules generalizing driver with
  | nil => rfl
  | cons rule rules ih =>
    unfold UplinkLan.addRules
    split
    next htaken =>
      have hrest := ih (driver.add rule).2
      have hfirst := Handles.count_add driver rule p
      grind
    grind

theorem FltGroup.countP_rules (group : FltGroup) (n : Nat) (iptype : IpaIpType) :
    (group.rules n).countP (fun rule => rule.group.iptype = iptype) =
      if group.iptype = iptype then n else 0 := by
  split
  next he =>
    rw [List.countP_eq_length.mpr fun rule hrule => by simp [FltGroup.group_of_mem hrule, he]]
    exact FltGroup.length_rules group n
  next he =>
    rw [List.countP_eq_zero]
    intro rule hrule
    simp [FltGroup.group_of_mem hrule, he]

namespace UplinkLan

variable {s t : UplinkLan} {n : Nat} {iptype : IpaIpType}

theorem audit_eq (h : s.Balanced) : s.audit = s := by
  unfold audit
  simp only [h, decide_true, Bool.not_true, Bool.or_false]

theorem audit_miscounted (h : ¬s.Balanced) : s.audit.miscounted = true := by
  unfold audit
  simp only [h, decide_false, Bool.not_false, Bool.or_true]

theorem balanced_update {d : Handles FltRule} {change : Int}
    (h : s.Balanced) (hother : ∀ iptype', iptype' ≠ iptype →
      d.count (fun rule => rule.group.iptype = iptype') = s.installedCount iptype') :
    ({ s with
        driver := d
        fltRuleCount := Function.update s.fltRuleCount iptype (s.fltRuleCount iptype + change) }).Balanced ↔
      (d.count (fun rule => rule.group.iptype = iptype) : Int) = s.installedCount iptype + change := by
  constructor
  · intro hbalanced
    have hself := hbalanced iptype
    simp only [installedCount, Function.update_self] at hself
    have hwas := h iptype
    simp only [installedCount] at hwas ⊢
    omega
  · intro hself iptype'
    have hwas := h iptype'
    by_cases he : iptype' = iptype
    · subst he
      simp only [installedCount, Function.update_self] at hself hwas ⊢
      omega
    grind [installedCount]

/-- A call for rules takes all of them, or fails as a whole. -/
def TakesWhole (calls : IpaCalls) (group : FltGroup) (n : Nat) : Prop :=
  calls.addsFltRules group = true → ∀ rule ∈ group.rules n, calls.ruleStatus rule = true

theorem added_balanced (h : s.Balanced) (group : FltGroup) (n : Nat) :
    ({ s with
        driver := (s.driver.addAll (group.rules n)).2
        fltRuleCount := Function.update s.fltRuleCount group.iptype
          (s.fltRuleCount group.iptype + n) }).Balanced := by
  refine (balanced_update h fun iptype' hne => ?_).mpr ?_
  · rw [Handles.count_addAll, FltGroup.countP_rules, if_neg (Ne.symm hne)]
    rfl
  · rw [Handles.count_addAll, FltGroup.countP_rules, if_pos rfl]
    exact Int.natCast_add _ _

theorem added_eq (h : s.Balanced) (group : FltGroup) (n : Nat) : s.added group n =
    { s with
      driver := (s.driver.addAll (group.rules n)).2
      fltRuleCount := Function.update s.fltRuleCount group.iptype (s.fltRuleCount group.iptype + n) } :=
  audit_eq (added_balanced h group n)

theorem addFilteringRule_miscounted (h : s.Balanced) (hpart : ¬TakesWhole calls group n) :
    ∃ hdls t, s.addFilteringRule calls group n = some (hdls, t) ∧ t.miscounted = true := by
  simp only [TakesWhole, Classical.not_imp, not_forall] at hpart
  obtain ⟨hadds, rule, hmem, hturned⟩ := hpart
  unfold addFilteringRule
  rw [if_pos hadds]
  refine ⟨_, _, rfl, audit_miscounted fun hbalanced => ?_⟩
  have hcount := (balanced_update h fun iptype' hne => ?_).mp hbalanced
  · rw [count_addRules] at hcount
    have hless : ((group.rules n).filter calls.ruleStatus).countP
        (fun rule => rule.group.iptype = group.iptype) < n := by
      have hle := List.countP_le_length (p := fun rule : FltRule => decide (rule.group.iptype = group.iptype))
        (l := (group.rules n).filter calls.ruleStatus)
      have hlt := (List.length_filter_lt_length_iff_exists (p := calls.ruleStatus)).mpr ⟨rule, hmem, hturned⟩
      rw [FltGroup.length_rules] at hlt
      omega
    simp only [installedCount] at hcount
    omega
  · rw [count_addRules]
    have hnone : ((group.rules n).filter calls.ruleStatus).countP
        (fun rule => rule.group.iptype = iptype') = 0 := by
      refine List.countP_eq_zero.mpr fun rule' hmem' => ?_
      have hgroup := FltGroup.group_of_mem (List.mem_of_mem_filter hmem')
      simp [hgroup, Ne.symm hne]
    rw [hnone]
    rfl

/-- The handles of an array all go, or the first of them does not. -/
def GoesWhole (calls : IpaCalls) : List Nat → Prop
  | [] => True
  | hdl :: hdls => calls.deletesFltRule hdl = true → ∀ hdl' ∈ hdls, calls.deletesFltRule hdl' = true

variable (calls driver) in
theorem deleteHdls_takeWhile (h : ∀ hdl ∈ hdls, hdl ≠ 0) : deleteHdls calls driver hdls =
    (hdls.all calls.deletesFltRule, driver.delAll (hdls.takeWhile calls.deletesFltRule)) := by
  induction hdls generalizing driver with
  | nil => rfl
  | cons hdl hdls ih =>
    have hne := h hdl List.mem_cons_self
    have hrest := ih (driver.del hdl) fun hdl' hmem => h hdl' (List.mem_cons_of_mem _ hmem)
    unfold deleteHdls
    rw [if_neg hne]
    cases hgoes : calls.deletesFltRule hdl with
    | true =>
      rw [if_pos rfl, hrest, List.all_cons, hgoes, Bool.true_and, List.takeWhile_cons_of_pos hgoes]
      rfl
    | false =>
      rw [if_neg Bool.false_ne_true, List.all_cons, hgoes, Bool.false_and,
        List.takeWhile_cons_of_neg (by simp [hgoes])]
      rfl

theorem deleteHdls_zero (h : ∀ hdl ∈ hdls, hdl = 0) : deleteHdls calls driver hdls = (true, driver) := by
  induction hdls with
  | nil => rfl
  | cons hdl hdls ih =>
    unfold deleteHdls
    rw [if_pos (h hdl List.mem_cons_self)]
    exact ih fun hdl' hmem => h hdl' (List.mem_cons_of_mem _ hmem)

theorem count_delAll_held (hsound : driver.Sound) (hheld : Held driver group hdls)
    (hsub : hs.Sublist hdls) :
    (driver.delAll hs).count (fun rule => rule.group.iptype = group.iptype) + hs.length =
      driver.count fun rule => rule.group.iptype = group.iptype := by
  refine Handles.count_delAll hsound (hheld.nodup.sublist hsub) fun g hg => ?_
  obtain ⟨k, hk⟩ := hheld.group_of_mem (hsub.subset hg)
  exact ⟨_, hk, by simp⟩

theorem count_delAll_other_family (hsound : driver.Sound) (hheld : Held driver group hdls)
    (hsub : hs.Sublist hdls) (hne : iptype ≠ group.iptype) :
    (driver.delAll hs).count (fun rule => rule.group.iptype = iptype) =
      driver.count fun rule => rule.group.iptype = iptype := by
  refine Handles.count_delAll_other hsound fun g hg rule hrule => ?_
  obtain ⟨k, hk⟩ := hheld.group_of_mem (hsub.subset hg)
  rw [hk] at hrule
  cases hrule
  simp [Ne.symm hne]

theorem deleted_balanced (h : s.Balanced) (hsound : s.driver.Sound) (hheld : Held s.driver group hdls)
    (hgroup : group.iptype = iptype) :
    ({ s with
        driver := s.driver.delAll hdls
        fltRuleCount := Function.update s.fltRuleCount iptype
          (s.fltRuleCount iptype - hdls.length) }).Balanced := by
  subst hgroup
  have hcount := count_delAll_held hsound hheld (List.Sublist.refl hdls)
  refine (balanced_update h fun iptype' hne => ?_).mpr ?_
  · exact count_delAll_other_family hsound hheld (List.Sublist.refl hdls) hne
  · simp only [installedCount]
    omega

variable (iptype) in
theorem deleted_eq (h : s.Balanced) (hsound : s.driver.Sound) (hheld : Held s.driver group hdls)
    (hgroup : group.iptype = iptype) : s.deleted iptype hdls =
      { s with
        driver := s.driver.delAll hdls
        fltRuleCount := Function.update s.fltRuleCount iptype (s.fltRuleCount iptype - hdls.length) } :=
  audit_eq (deleted_balanced h hsound hheld hgroup)

theorem deleteFilteringHdls_cases (h : s.Balanced) (hsound : s.driver.Sound)
    (hheld : Held s.driver group hdls) (hgoes : GoesWhole calls hdls) :
    (∀ hdl ∈ hdls, calls.deletesFltRule hdl = true) ∧
        s.deleteFilteringHdls calls iptype hdls = (true, s.deleted iptype hdls) ∨
      ¬(∀ hdl ∈ hdls, calls.deletesFltRule hdl = true) ∧
        s.deleteFilteringHdls calls iptype hdls = (false, s) := by
  by_cases hall : ∀ hdl ∈ hdls, calls.deletesFltRule hdl = true
  · exact Or.inl ⟨hall, deleteFilteringHdls_ok s hsound.zero fun hdl hmem _ => hall hdl hmem⟩
  · refine Or.inr ⟨hall, ?_⟩
    cases hdls with
    | nil => exact absurd (fun hdl hmem => nomatch hmem) hall
    | cons hdl hdls =>
      have hfirst : calls.deletesFltRule hdl = false := by
        refine Bool.eq_false_iff.mpr fun hdel => hall fun hdl' hmem => ?_
        rcases List.mem_cons.mp hmem with rfl | hmem
        · exact hdel
        · exact hgoes hdel hdl' hmem
      have hne : hdl ≠ 0 := hheld.ne_zero hsound List.mem_cons_self
      have hstop : deleteHdls calls s.driver (hdl :: hdls) = (false, s.driver) := by
        simp only [deleteHdls, hne, hfirst, if_false, Bool.false_eq_true]
      unfold deleteFilteringHdls
      simp only [hstop, Bool.false_eq_true, if_false]
      exact congrArg (Prod.mk false) (audit_eq h)

theorem deleteFilteringHdls_miscounted (h : s.Balanced) (hsound : s.driver.Sound)
    (hheld : Held s.driver group hdls) (hgroup : group.iptype = iptype) (hpart : ¬GoesWhole calls hdls) :
    (s.deleteFilteringHdls calls iptype hdls).2.miscounted = true := by
  subst hgroup
  cases hdls with
  | nil => exact absurd trivial hpart
  | cons hdl hdls =>
    simp only [GoesWhole, Classical.not_imp, not_forall] at hpart
    obtain ⟨hfirst, hdl', hmem, hstays⟩ := hpart
    have htake := deleteHdls_takeWhile calls s.driver
      fun g hg => hheld.ne_zero hsound hg
    have hsub := (hdl :: hdls).takeWhile_sublist calls.deletesFltRule
    have hcount := count_delAll_held hsound hheld hsub
    have hsome : 0 < ((hdl :: hdls).takeWhile calls.deletesFltRule).length := by
      rw [List.takeWhile_cons_of_pos hfirst]
      exact Nat.succ_pos _
    have hall : (hdl :: hdls).all calls.deletesFltRule = false := by
      refine List.all_eq_false.mpr ⟨hdl', List.mem_cons_of_mem _ hmem, ?_⟩
      simpa using hstays
    rw [hall] at htake
    unfold deleteFilteringHdls
    simp only [htake, Bool.false_eq_true, if_false]
    refine audit_miscounted fun hbalanced => ?_
    have hself := hbalanced group.iptype
    have hwas := h group.iptype
    simp only [installedCount] at hself hwas
    omega

theorem deleteFilteringHdls_zero (h : s.Balanced) (hne : hdls ≠ []) (hzero : ∀ hdl ∈ hdls, hdl = 0) :
    (s.deleteFilteringHdls calls iptype hdls).2.miscounted = true := by
  unfold deleteFilteringHdls
  simp only [deleteHdls_zero hzero, if_true]
  refine audit_miscounted fun hbalanced => ?_
  have hself := hbalanced iptype
  have hwas := h iptype
  have hlength := List.length_pos_iff.mpr hne
  simp only [installedCount, Function.update_self] at hself hwas
  omega

theorem strayed_eq (hheld : Held s.driver group hdls) : s.strayed hdls = s := by
  have hnone : s.strayHdls hdls = [] := by
    refine List.filter_eq_nil_iff.mpr fun g hg => ?_
    obtain ⟨k, hk⟩ := hheld.group_of_mem hg
    simp [hk]
  unfold strayed
  rw [hnone, List.append_nil]

theorem strayHdls_ne_nil {hdl : Nat} (h : s.driver.installed hdl = none) : s.strayHdls [hdl] ≠ [] := by
  simp [strayHdls, h]

end UplinkLan

end DeviceHal.Ipacm

namespace DeviceHal.Ipacm

open Lib

namespace UplinkLan

variable {s t : UplinkLan} {calls : IpaCalls} {wan : WanView} {group : FltGroup} {n : Nat}
  {iptype : IpaIpType} {hdls : List Nat}

/-- A withdrawal named a rule that was not there, or the count was wrong once. -/
def Damaged (s : UplinkLan) : Prop := s.strays ≠ [] ∨ s.miscounted = true

namespace Damaged

variable (h : s.Damaged)

include h

theorem audit : s.audit.Damaged := by
  refine h.imp id fun hmis => ?_
  unfold UplinkLan.audit
  simp only [hmis, Bool.true_or]

theorem addFilteringRule (hadd : s.addFilteringRule calls group n = some (hdls, t)) : t.Damaged := by
  unfold UplinkLan.addFilteringRule at hadd
  split at hadd
  · cases hadd
    exact audit h
  · cases hadd

theorem deleteFilteringHdls : (s.deleteFilteringHdls calls iptype hdls).2.Damaged := audit h

theorem strayed : (s.strayed hdls).Damaged := by
  refine h.imp (fun hne hnil => ?_) id
  exact hne (List.append_eq_nil_iff.mp hnil).1

theorem withdrawHdls : (s.withdrawHdls calls iptype hdls).2.Damaged := (strayed h).deleteFilteringHdls

theorem initFlRule : (s.initFlRule calls iptype).Damaged := by
  unfold UplinkLan.initFlRule
  split
  · exact h
  next hadd =>
    have hadded := h.addFilteringRule hadd
    exact hadded

theorem installIcmpFltRule : (s.installIcmpFltRule calls iptype).Damaged := by
  unfold UplinkLan.installIcmpFltRule
  split
  · exact h
  next hadd =>
    have hadded := h.addFilteringRule hadd
    exact hadded

theorem addDummyPrivateSubnetFltRule : (s.addDummyPrivateSubnetFltRule calls iptype).Damaged := by
  unfold UplinkLan.addDummyPrivateSubnetFltRule
  split
  · exact h
  split
  · exact h
  next hadd =>
    have hadded := h.addFilteringRule hadd
    exact hadded

theorem handleUplinkFilterRule : (s.handleUplinkFilterRule wan calls iptype).Damaged := by
  unfold UplinkLan.handleUplinkFilterRule
  split
  · exact h
  split
  · exact h
  split
  · exact h
  split
  · exact h
  next hadd =>
    have hadded := h.addFilteringRule hadd
    exact hadded

theorem handleWanUpEx : (s.handleWanUpEx wan calls iptype).Damaged := by
  unfold UplinkLan.handleWanUpEx
  split
  · exact h
  split
  · exact h
  · exact h.handleUplinkFilterRule

theorem handleWanUp : (s.handleWanUp calls iptype).Damaged := by
  unfold UplinkLan.handleWanUp
  split
  · exact h
  split
  · exact h
  split
  · exact h
  next hadd =>
    have hadded := h.addFilteringRule hadd
    exact hadded

theorem withdrawUplink (isSta : Bool) : (s.withdrawUplink calls iptype isSta).Damaged := by
  unfold UplinkLan.withdrawUplink
  split
  · split
    · exact h
    split
    · exact h
    have hgone : (s.withdrawHdls calls iptype (s.wanUlFlRuleHdl iptype)).2.Damaged := h.withdrawHdls
    split <;> rename_i heq <;> rw [heq] at hgone <;> exact hgone
  · have hgone : (s.withdrawHdls calls iptype [s.staFlRuleHdl iptype]).2.Damaged := h.withdrawHdls
    split <;> rename_i heq <;> rw [heq] at hgone <;> exact hgone

theorem handleWanDown (isSta : Bool) : (s.handleWanDown calls iptype isSta).Damaged := by
  unfold UplinkLan.handleWanDown
  split
  · exact h
  simp only
  split
  · exact Damaged.withdrawUplink (h.withdrawHdls) isSta
  · exact h.withdrawUplink isSta

theorem deleteGroups (groups : List (List Nat)) : (s.deleteGroups calls iptype groups).2.Damaged := by
  induction groups generalizing s with
  | nil => exact h
  | cons hdls groups ih =>
    have hgone : (s.deleteFilteringHdls calls iptype hdls).2.Damaged := h.deleteFilteringHdls
    grind [UplinkLan.deleteGroups]

theorem deleteBase : (s.deleteBase calls iptype).2.Damaged := by
  unfold UplinkLan.deleteBase
  split
  · exact h.deleteGroups _
  · exact h

end Damaged

end UplinkLan

end DeviceHal.Ipacm
