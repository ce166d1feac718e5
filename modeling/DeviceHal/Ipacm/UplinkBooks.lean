import DeviceHal.Ipacm.UplinkLan

namespace DeviceHal.Ipacm

open Lib

/-- An array holds the handles of the rules of a group, each at the place of its rule. -/
def Recorded (driver : Handles FltRule) (group : FltGroup) (hdls : List Nat) : Prop :=
  ∀ k hdl, hdls[k]? = some hdl ↔ driver.installed hdl = some ⟨group, k⟩

variable {driver : Handles FltRule} {group group' : FltGroup} {hdls : List Nat} {calls : IpaCalls}

@[simp]
theorem FltGroup.length_rules (group : FltGroup) (n : Nat) : (group.rules n).length = n := by
  simp [FltGroup.rules]

theorem FltGroup.getElem?_rules {n i : Nat} {rule : FltRule} :
    (group.rules n)[i]? = some rule ↔ i < n ∧ rule = ⟨group, i⟩ := by
  unfold FltGroup.rules
  grind

theorem FltGroup.group_of_mem {n : Nat} {rule : FltRule} (h : rule ∈ group.rules n) : rule.group = group := by
  obtain ⟨i, hi⟩ := List.mem_iff_getElem?.mp h
  rw [(FltGroup.getElem?_rules.mp hi).2]

namespace Recorded

theorem group_of_mem (h : Recorded driver group hdls) {g : Nat} (hg : g ∈ hdls) :
    ∃ k, driver.installed g = some ⟨group, k⟩ := by
  obtain ⟨k, hk⟩ := List.mem_iff_getElem?.mp hg
  exact ⟨k, (h k g).mp hk⟩

theorem add_other (h : Recorded driver group hdls) (hsound : driver.Sound) {xs : List FltRule}
    (hne : ∀ x ∈ xs, x.group ≠ group) : Recorded (driver.addAll xs).2 group hdls := by
  intro k g
  rw [Handles.addAll_iff hsound.fresh, h k g]
  refine ⟨Or.inl, fun hor => hor.resolve_right ?_⟩
  rintro ⟨i, -, hi⟩
  exact hne _ (List.mem_of_getElem? hi) rfl

theorem add_self (h : Recorded driver group []) (hsound : driver.Sound) (n : Nat) :
    Recorded (driver.addAll (group.rules n)).2 group (driver.addAll (group.rules n)).1 := by
  intro k g
  rw [Handles.addAll_iff hsound.fresh, Handles.addAll_handles, ← h k g, FltGroup.length_rules]
  constructor
  · intro hk
    obtain ⟨hlt, heq⟩ := List.getElem?_eq_some_iff.mp hk
    rw [List.length_range'] at hlt
    rw [List.getElem_range'] at heq
    exact Or.inr ⟨k, by omega, FltGroup.getElem?_rules.mpr ⟨hlt, rfl⟩⟩
  · rintro (hnil | ⟨i, rfl, hi⟩)
    · cases hnil
    · obtain ⟨hlt, heq⟩ := FltGroup.getElem?_rules.mp hi
      grind

theorem del_other (h : Recorded driver group hdls) {hs : List Nat}
    (hne : ∀ g ∈ hs, ∀ rule, driver.installed g = some rule → rule.group ≠ group) :
    Recorded (driver.delAll hs) group hdls := by
  intro k g
  rw [Handles.delAll_iff, h k g]
  grind

theorem del_self (h : Recorded driver group hdls) : Recorded (driver.delAll hdls) group [] := by
  intro k g
  rw [Handles.delAll_iff, ← h k g]
  grind

end Recorded

/-- What the records of an interface and the driver say about its uplink rules. The handle of a
station rule that is gone, or was never there, is no rule's. -/
structure UplinkBooks (driver : Handles FltRule) (wanUl : IpaIpType → List Nat)
    (staSet : IpaIpType → Bool) (staHdl : IpaIpType → Nat) (prefixHdl : Nat) : Prop where
  sound : driver.Sound
  modem : ∀ iptype, Recorded driver (.modemUl iptype) (wanUl iptype)
  sta : ∀ iptype, Recorded driver (.staUl iptype) (if staSet iptype then [staHdl iptype] else [])
  staUnset : ∀ iptype, staSet iptype = false → driver.installed (staHdl iptype) = none
  staLt : ∀ iptype, staHdl iptype < driver.next
  prefixLt : prefixHdl < driver.next
  prefixRule : ∀ rule, driver.installed prefixHdl = some rule → rule = ⟨.ipv6Prefix, 0⟩

namespace UplinkBooks

variable {wanUl wanUl' : IpaIpType → List Nat} {staSet : IpaIpType → Bool}
  {staHdl : IpaIpType → Nat} {prefixHdl : Nat}

variable {iptype : IpaIpType}

theorem installed_sta (h : UplinkBooks driver wanUl staSet staHdl prefixHdl)
    (hset : staSet iptype = true) : driver.installed (staHdl iptype) = some ⟨.staUl iptype, 0⟩ := by
  refine (h.sta iptype 0 _).mp ?_
  rw [if_pos hset]
  rfl

theorem addAll (h : UplinkBooks driver wanUl staSet staHdl prefixHdl) {n : Nat}
    (hne : ∀ iptype, group ≠ .staUl iptype)
    (hmodem : ∀ iptype, Recorded (driver.addAll (group.rules n)).2 (.modemUl iptype) (wanUl' iptype)) :
    UplinkBooks (driver.addAll (group.rules n)).2 wanUl' staSet staHdl prefixHdl := by
  have hnext := Handles.addAll_next driver (group.rules n)
  refine ⟨h.sound.addAll _, hmodem, fun iptype => ?_, fun iptype hunset => ?_, fun iptype => ?_, ?_,
    fun rule hrule => ?_⟩
  · refine (h.sta iptype).add_other h.sound fun x hx => ?_
    rw [FltGroup.group_of_mem hx]
    exact hne iptype
  · rw [Handles.addAll_installed_of_lt (h.staLt iptype)]
    exact h.staUnset iptype hunset
  · have hlt := h.staLt iptype
    omega
  · have hlt := h.prefixLt
    omega
  · rw [Handles.addAll_installed_of_lt h.prefixLt] at hrule
    exact h.prefixRule rule hrule

variable (group) in
theorem add_other (h : UplinkBooks driver wanUl staSet staHdl prefixHdl) (n : Nat)
    (hmodem : ∀ iptype, group ≠ .modemUl iptype) (hsta : ∀ iptype, group ≠ .staUl iptype) :
    UplinkBooks (driver.addAll (group.rules n)).2 wanUl staSet staHdl prefixHdl := by
  refine h.addAll hsta fun iptype => ?_
  refine (h.modem iptype).add_other h.sound fun x hx => ?_
  rw [FltGroup.group_of_mem hx]
  exact hmodem iptype

theorem add_modem (h : UplinkBooks driver wanUl staSet staHdl prefixHdl)
    (hnil : wanUl iptype = []) (n : Nat) :
    UplinkBooks (driver.addAll ((FltGroup.modemUl iptype).rules n)).2
      (Function.update wanUl iptype (driver.addAll ((FltGroup.modemUl iptype).rules n)).1) staSet staHdl
      prefixHdl := by
  refine h.addAll (fun iptype' => nofun) fun iptype' => ?_
  by_cases he : iptype' = iptype
  · subst he
    rw [Function.update_self]
    have hnone := h.modem iptype'
    rw [hnil] at hnone
    exact hnone.add_self h.sound n
  · rw [Function.update_of_ne he]
    refine (h.modem iptype').add_other h.sound fun x hx => ?_
    rw [FltGroup.group_of_mem hx]
    intro heq
    exact he (FltGroup.modemUl.inj heq).symm

theorem add_prefix (h : UplinkBooks driver wanUl staSet staHdl prefixHdl) :
    UplinkBooks (driver.addAll (FltGroup.ipv6Prefix.rules 1)).2 wanUl staSet staHdl driver.next := by
  have hadded := h.add_other .ipv6Prefix 1 (fun _ => nofun) fun _ => nofun
  have hnext := Handles.addAll_next driver (FltGroup.ipv6Prefix.rules 1)
  have hone := FltGroup.length_rules .ipv6Prefix 1
  refine ⟨hadded.sound, hadded.modem, hadded.sta, hadded.staUnset, hadded.staLt, by omega,
    fun rule hrule => ?_⟩
  have hself := driver.addAll_installed (FltGroup.ipv6Prefix.rules 1) (i := 0) (by omega)
  rw [Nat.add_zero] at hself
  rw [hself] at hrule
  exact (FltGroup.getElem?_rules.mp hrule).2

theorem add_sta (h : UplinkBooks driver wanUl staSet staHdl prefixHdl)
    (hunset : staSet iptype = false) :
    UplinkBooks (driver.addAll ((FltGroup.staUl iptype).rules 1)).2 wanUl
      (Function.update staSet iptype true) (Function.update staHdl iptype driver.next) prefixHdl := by
  have hnext := Handles.addAll_next driver ((FltGroup.staUl iptype).rules 1)
  have hone := FltGroup.length_rules (.staUl iptype) 1
  refine ⟨h.sound.addAll _, fun iptype' => ?_, fun iptype' => ?_, fun iptype' hunset' => ?_,
    fun iptype' => ?_, ?_, fun rule hrule => ?_⟩
  · refine (h.modem iptype').add_other h.sound fun x hx => ?_
    rw [FltGroup.group_of_mem hx]
    exact nofun
  · by_cases he : iptype' = iptype
    · subst he
      have hnone := h.sta iptype'
      rw [hunset, if_neg Bool.false_ne_true] at hnone
      have hadded := hnone.add_self h.sound 1
      rw [Handles.addAll_handles, hone] at hadded
      rw [Function.update_self, Function.update_self, if_pos rfl]
      exact hadded
    · rw [Function.update_of_ne he, Function.update_of_ne he]
      refine (h.sta iptype').add_other h.sound fun x hx => ?_
      rw [FltGroup.group_of_mem hx]
      intro heq
      exact he (FltGroup.staUl.inj heq).symm
  · by_cases he : iptype' = iptype
    · rw [he, Function.update_self] at hunset'
      cases hunset'
    · rw [Function.update_of_ne he] at hunset' ⊢
      rw [Handles.addAll_installed_of_lt (h.staLt iptype')]
      exact h.staUnset iptype' hunset'
  · by_cases he : iptype' = iptype
    · rw [he, Function.update_self]
      omega
    · rw [Function.update_of_ne he]
      have hlt := h.staLt iptype'
      omega
  · have hlt := h.prefixLt
    omega
  · rw [Handles.addAll_installed_of_lt h.prefixLt] at hrule
    exact h.prefixRule rule hrule

theorem delAll (h : UplinkBooks driver wanUl staSet staHdl prefixHdl) {hs : List Nat}
    (hne : ∀ g ∈ hs, ∀ rule, driver.installed g = some rule → ∀ iptype, rule.group ≠ .staUl iptype)
    (hmodem : ∀ iptype, Recorded (driver.delAll hs) (.modemUl iptype) (wanUl' iptype)) :
    UplinkBooks (driver.delAll hs) wanUl' staSet staHdl prefixHdl := by
  have hnext := Handles.next_delAll driver hs
  refine ⟨h.sound.delAll hs, hmodem, fun iptype => ?_, fun iptype hunset => ?_, fun iptype => ?_, ?_,
    fun rule hrule => ?_⟩
  · exact (h.sta iptype).del_other fun g hg rule hrule => hne g hg rule hrule iptype
  · rw [Handles.installed_delAll, h.staUnset iptype hunset]
    split <;> rfl
  · rw [hnext]
    exact h.staLt iptype
  · rw [hnext]
    exact h.prefixLt
  · exact h.prefixRule rule (Handles.delAll_iff.mp hrule).2

variable (group) in
theorem del_other (h : UplinkBooks driver wanUl staSet staHdl prefixHdl) {hs : List Nat}
    (hgroup : ∀ g ∈ hs, ∀ rule, driver.installed g = some rule → rule.group = group)
    (hmodem : ∀ iptype, group ≠ .modemUl iptype) (hsta : ∀ iptype, group ≠ .staUl iptype) :
    UplinkBooks (driver.delAll hs) wanUl staSet staHdl prefixHdl := by
  refine h.delAll (fun g hg rule hrule iptype => ?_) fun iptype => ?_
  · rw [hgroup g hg rule hrule]
    exact hsta iptype
  · refine (h.modem iptype).del_other fun g hg rule hrule => ?_
    rw [hgroup g hg rule hrule]
    exact hmodem iptype

theorem del_modem (h : UplinkBooks driver wanUl staSet staHdl prefixHdl) (iptype : IpaIpType) :
    UplinkBooks (driver.delAll (wanUl iptype)) (Function.update wanUl iptype []) staSet staHdl
      prefixHdl := by
  have hgroup : ∀ g ∈ wanUl iptype, ∀ rule, driver.installed g = some rule →
      rule.group = .modemUl iptype := by
    intro g hg rule hrule
    obtain ⟨k, hk⟩ := (h.modem iptype).group_of_mem hg
    rw [hk] at hrule
    cases hrule
    rfl
  refine h.delAll (fun g hg rule hrule iptype' => ?_) fun iptype' => ?_
  · rw [hgroup g hg rule hrule]
    exact nofun
  · by_cases he : iptype' = iptype
    · subst he
      rw [Function.update_self]
      exact (h.modem iptype').del_self
    · rw [Function.update_of_ne he]
      refine (h.modem iptype').del_other fun g hg rule hrule heq => ?_
      grind

theorem del_sta (h : UplinkBooks driver wanUl staSet staHdl prefixHdl)
    (hset : staSet iptype = true) :
    UplinkBooks (driver.delAll [staHdl iptype]) wanUl (Function.update staSet iptype false) staHdl
      prefixHdl := by
  have hself := h.installed_sta hset
  have hgroup : ∀ g ∈ [staHdl iptype], ∀ rule, driver.installed g = some rule →
      rule.group = .staUl iptype := by
    intro g hg rule hrule
    rw [List.mem_singleton.mp hg, hself] at hrule
    cases hrule
    rfl
  have hnext := Handles.next_delAll driver [staHdl iptype]
  refine ⟨h.sound.delAll _, fun iptype' => ?_, fun iptype' => ?_, fun iptype' hunset' => ?_,
    fun iptype' => ?_, ?_, fun rule hrule => ?_⟩
  · refine (h.modem iptype').del_other fun g hg rule hrule heq => ?_
    rw [hgroup g hg rule hrule] at heq
    cases heq
  · by_cases he : iptype' = iptype
    · subst he
      rw [Function.update_self, if_neg Bool.false_ne_true]
      have hown := h.sta iptype'
      rw [hset, if_pos rfl] at hown
      exact hown.del_self
    · rw [Function.update_of_ne he]
      refine (h.sta iptype').del_other fun g hg rule hrule heq => ?_
      grind
  · rw [Handles.installed_delAll]
    split
    · rfl
    next hmem =>
      by_cases he : iptype' = iptype
      · exact absurd (List.mem_singleton.mpr (congrArg staHdl he)) hmem
      · rw [Function.update_of_ne he] at hunset'
        exact h.staUnset iptype' hunset'
  · rw [hnext]
    exact h.staLt iptype'
  · rw [hnext]
    exact h.prefixLt
  · exact h.prefixRule rule (Handles.delAll_iff.mp hrule).2

end UplinkBooks

end DeviceHal.Ipacm

namespace DeviceHal.Ipacm

open Lib

variable {calls : IpaCalls} {driver : Handles FltRule}

variable (driver) in
theorem addRules_eq {rules : List FltRule} (h : ∀ rule ∈ rules, calls.ruleStatus rule = true) :
    UplinkLan.addRules calls driver rules = driver.addAll rules := by
  induction rules generalizing driver with
  | nil => rfl
  | cons rule rules ih =>
    have hrest := ih (driver.add rule).2 fun rule' hmem =>
      h rule' (List.mem_cons_of_mem _ hmem)
    simp only [UplinkLan.addRules, h rule List.mem_cons_self, if_true, hrest]
    rfl

theorem deleteHdls_eq (hzero : driver.installed 0 = none) {hdls : List Nat}
    (h : ∀ hdl ∈ hdls, hdl ≠ 0 → calls.deletesFltRule hdl = true) :
    UplinkLan.deleteHdls calls driver hdls = (true, driver.delAll hdls) := by
  induction hdls generalizing driver with
  | nil => rfl
  | cons hdl hdls ih =>
    have hlater : ∀ hdl' ∈ hdls, hdl' ≠ 0 → calls.deletesFltRule hdl' = true :=
      fun hdl' hmem => h hdl' (List.mem_cons_of_mem _ hmem)
    have hcons : driver.delAll (hdl :: hdls) = (driver.del hdl).delAll hdls := rfl
    by_cases he : hdl = 0
    · subst he
      rw [hcons, Handles.del_of_absent hzero]
      simp only [UplinkLan.deleteHdls, if_true]
      exact ih hzero hlater
    · have hgone : (driver.del hdl).installed 0 = none :=
        (Function.update_of_ne (Ne.symm he) ..).trans hzero
      have hdel := h hdl List.mem_cons_self he
      simp only [UplinkLan.deleteHdls, he, hdel, if_false, if_true]
      rw [hcons]
      exact ih hgone hlater

namespace UplinkLan

variable {s : UplinkLan} {group : FltGroup} {n : Nat} {iptype : IpaIpType} {hdls : List Nat}

/-- The state after all rules of a group were taken. -/
def added (s : UplinkLan) (group : FltGroup) (n : Nat) : UplinkLan :=
  audit { s with
    driver := (s.driver.addAll (group.rules n)).2
    fltRuleCount := Function.update s.fltRuleCount group.iptype (s.fltRuleCount group.iptype + n) }

/-- The state after all handles of an array went. -/
def deleted (s : UplinkLan) (iptype : IpaIpType) (hdls : List Nat) : UplinkLan :=
  audit { s with
    driver := s.driver.delAll hdls
    fltRuleCount := Function.update s.fltRuleCount iptype (s.fltRuleCount iptype - hdls.length) }

def strayed (s : UplinkLan) (hdls : List Nat) : UplinkLan :=
  { s with strays := s.strays ++ s.strayHdls hdls }

variable (calls s group n) in
theorem addFilteringRule_ok (hadds : calls.addsFltRules group = true)
    (hstatus : ∀ rule ∈ group.rules n, calls.ruleStatus rule = true) :
    s.addFilteringRule calls group n = some ((s.driver.addAll (group.rules n)).1, s.added group n) := by
  simp only [addFilteringRule, hadds, if_true, addRules_eq s.driver hstatus]
  rfl

variable (s) in
theorem deleteFilteringHdls_ok (hzero : s.driver.installed 0 = none)
    (h : ∀ hdl ∈ hdls, hdl ≠ 0 → calls.deletesFltRule hdl = true) :
    s.deleteFilteringHdls calls iptype hdls = (true, s.deleted iptype hdls) := by
  simp only [deleteFilteringHdls, deleteHdls_eq hzero h, if_true]
  rfl

variable (calls s iptype hdls) in
theorem withdrawHdls_ok (hzero : s.driver.installed 0 = none)
    (h : ∀ hdl ∈ hdls, hdl ≠ 0 → calls.deletesFltRule hdl = true) :
    s.withdrawHdls calls iptype hdls = (true, (s.strayed hdls).deleted iptype hdls) :=
  deleteFilteringHdls_ok (s.strayed hdls) hzero h

def Books (s : UplinkLan) : Prop :=
  UplinkBooks s.driver s.wanUlFlRuleHdl s.staUlSet s.staFlRuleHdl s.ipv6PrefixFltRuleHdl

/-- The family has an address, and traffic on both sides. -/
def complete (s : UplinkLan) (iptype : IpaIpType) : Bool :=
  s.isUpstreamSet iptype && s.isDownstreamSet iptype && s.ipType.covers iptype

/-- What the interface holds to be installed for a family. -/
def inPlace (s : UplinkLan) (iptype : IpaIpType) : Bool × List Nat × Bool :=
  (s.modemUlSet iptype, s.wanUlFlRuleHdl iptype, s.staUlSet iptype)

def flags (s : UplinkLan) : Bool × IfaceIpType × (IpaIpType → Bool) × (IpaIpType → Bool) :=
  (s.isActive, s.ipType, s.isUpstreamSet, s.isDownstreamSet)

end UplinkLan

end DeviceHal.Ipacm
