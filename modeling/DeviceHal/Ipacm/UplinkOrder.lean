import Mathlib.Data.List.TakeWhile
import DeviceHal.Ipacm.UplinkCounts

namespace DeviceHal.Ipacm

open Lib

variable {driver : Handles FltRule} {calls : IpaCalls} {group : FltGroup} {hdls hs : List Nat} {n : Nat}

/-- The rules of an array are all there, or none of them was ever installed. -/
def HeldOrZero (driver : Handles FltRule) (group : FltGroup) (n : Nat) (hdls : List Nat) : Prop :=
  hdls.length = n ∧ (hdls = List.replicate n 0 ∨ Held driver group hdls)

/-- What the records say about the rules that come with an address. -/
structure BaseBooks (driver : Handles FltRule) (icmp : IpaIpType → Nat) (dft : IpaIpType → List Nat)
    (priv : List Nat) : Prop where
  icmp : ∀ iptype, HeldOrZero driver (.icmp iptype) 1 [icmp iptype]
  dft : ∀ iptype, HeldOrZero driver (.dft iptype) (defaultFilteringRules iptype) (dft iptype)
  priv : HeldOrZero driver .privateSubnet ipaMaxPrivateSubnetEntries priv

theorem HeldOrZero.addAll (h : HeldOrZero driver group n hdls) (hsound : driver.Sound) (xs : List FltRule) :
    HeldOrZero (driver.addAll xs).2 group n hdls :=
  ⟨h.1, h.2.imp id fun hheld => hheld.addAll hsound xs⟩

theorem HeldOrZero.del_other (h : HeldOrZero driver group n hdls) {group' : FltGroup}
    (hother : Held driver group' hs) (hne : group ≠ group') :
    HeldOrZero (driver.delAll hs) group n hdls :=
  ⟨h.1, h.2.imp id fun hheld => hheld.del_other hother hne⟩

theorem HeldOrZero.add_self (hsound : driver.Sound) (group : FltGroup) (n : Nat) :
    HeldOrZero (driver.addAll (group.rules n)).2 group n (driver.addAll (group.rules n)).1 := by
  refine ⟨?_, Or.inr (Held.add_self hsound group n)⟩
  rw [Handles.length_addAll, FltGroup.length_rules]

namespace BaseBooks

variable {icmp : IpaIpType → Nat} {dft : IpaIpType → List Nat} {priv : List Nat} {iptype : IpaIpType}

theorem addAll (h : BaseBooks driver icmp dft priv) (hsound : driver.Sound) (xs : List FltRule) :
    BaseBooks (driver.addAll xs).2 icmp dft priv :=
  ⟨fun iptype => (h.icmp iptype).addAll hsound xs, fun iptype => (h.dft iptype).addAll hsound xs,
    h.priv.addAll hsound xs⟩

theorem del_other (h : BaseBooks driver icmp dft priv) (hother : Held driver group hs)
    (hicmp : ∀ iptype, group ≠ .icmp iptype) (hdft : ∀ iptype, group ≠ .dft iptype)
    (hpriv : group ≠ .privateSubnet) : BaseBooks (driver.delAll hs) icmp dft priv :=
  ⟨fun iptype => (h.icmp iptype).del_other hother (hicmp iptype).symm,
    fun iptype => (h.dft iptype).del_other hother (hdft iptype).symm, h.priv.del_other hother hpriv.symm⟩

end BaseBooks

namespace UplinkLan

variable {s t : UplinkLan} {wan : WanView} {iptype : IpaIpType}

/-- All records agree with what is installed. -/
structure InOrder (s : UplinkLan) : Prop where
  books : s.Books
  base : BaseBooks s.driver s.icmpFltRuleHdl s.dftFlRuleHdl s.privateFlRuleHdl
  balanced : s.Balanced
  strays : s.strays = []
  miscounted : s.miscounted = false
  modem : ∀ iptype, s.modemUlSet iptype = true ↔ s.wanUlFlRuleHdl iptype ≠ []
  fits : ∀ iptype, (s.wanUlFlRuleHdl iptype).length ≤ maxWanUlFilterRules

/-- What the interface owes the modem and the kernel: no withdrawal ever named a rule that was not
there, the count is the number of rules, and the modem's rules are marked as set if there are any. -/
def FltBooksRight (s : UplinkLan) : Prop :=
  s.strays = [] ∧ s.miscounted = false ∧ s.Balanced ∧ ∀ iptype,
    (s.wanUlFlRuleHdl iptype).length ≤ maxWanUlFilterRules ∧
      (0 < (s.wanUlFlRuleHdl iptype).length ↔ s.modemUlSet iptype = true)

theorem InOrder.right (h : s.InOrder) : s.FltBooksRight := by
  refine ⟨h.strays, h.miscounted, h.balanced, fun iptype => ⟨h.fits iptype, ?_⟩⟩
  rw [h.modem iptype]
  exact List.length_pos_iff

theorem Damaged.wrong (h : s.Damaged) : ¬s.FltBooksRight := by
  rintro ⟨hstrays, hmis, -⟩
  rcases h with h | h
  · exact h hstrays
  · rw [hmis] at h
    cases h

theorem InOrder.reflag (h : s.InOrder) (up down : IpaIpType → Bool) (type : IfaceIpType)
    (addrs : List (BitVec 128)) :
    ({ s with isUpstreamSet := up, isDownstreamSet := down, ipType := type, ipv6Addr := addrs }).InOrder :=
  ⟨h.books, h.base, h.balanced, h.strays, h.miscounted, h.modem, h.fits⟩

variable (group) in
theorem InOrder.added (h : s.InOrder) (n : Nat) (hmodem : ∀ iptype, group ≠ .modemUl iptype)
    (hsta : ∀ iptype, group ≠ .staUl iptype) : (s.added group n).InOrder := by
  rw [added_eq h.balanced]
  exact ⟨UplinkBooks.add_other group h.books n hmodem hsta, h.base.addAll h.books.sound _,
    added_balanced h.balanced group n, h.strays, h.miscounted, h.modem, h.fits⟩

theorem keptHdls_eq (hstatus : ∀ rule ∈ group.rules n, calls.ruleStatus rule = true) {old new : List Nat}
    (hold : old.length = n) (hnew : new.length = n) : keptHdls calls group old new = new := by
  subst hold
  have hlength : (keptHdls calls group old new).length = new.length := by
    unfold keptHdls
    rw [List.length_zipWith, List.length_zip, FltGroup.length_rules, hnew]
    omega
  refine List.ext_getElem hlength fun i hi hi' => ?_
  simp only [keptHdls, List.getElem_zipWith, List.getElem_zip]
  exact if_pos (hstatus _ (List.getElem_mem _))

theorem initFlRule_inOrder (h : s.InOrder)
    (hwhole : TakesWhole calls (.dft iptype) (defaultFilteringRules iptype)) :
    (s.initFlRule calls iptype).InOrder := by
  unfold initFlRule
  cases hadds : calls.addsFltRules (.dft iptype) with
  | false =>
    unfold addFilteringRule
    rw [hadds]
    exact h
  | true =>
    have hstatus := hwhole hadds
    have hadd := addFilteringRule_ok _ s _ _ hadds hstatus
    have hadded := h.added (.dft iptype) (defaultFilteringRules iptype) (fun _ => nofun)
      fun _ => nofun
    have hself := HeldOrZero.add_self h.books.sound (.dft iptype) (defaultFilteringRules iptype)
    have hkept := keptHdls_eq hstatus (h.base.dft iptype).1 hself.1
    rw [hadd]
    refine ⟨hadded.books, ⟨hadded.base.icmp, fun iptype' => ?_, hadded.base.priv⟩, hadded.balanced,
      hadded.strays, hadded.miscounted, hadded.modem, hadded.fits⟩
    by_cases he : iptype' = iptype
    · subst he
      simp only [Function.update_self]
      change HeldOrZero _ _ _ (keptHdls calls _ (s.dftFlRuleHdl iptype') _)
      rw [hkept]
      exact hself
    · simp only [Function.update_of_ne he]
      exact hadded.base.dft iptype'

theorem initFlRule_damaged (h : s.Balanced)
    (hpart : ¬TakesWhole calls (.dft iptype) (defaultFilteringRules iptype)) :
    (s.initFlRule calls iptype).Damaged := by
  obtain ⟨hdls, t, hadd, hmis⟩ := addFilteringRule_miscounted h hpart
  unfold initFlRule
  rw [hadd]
  exact Or.inr hmis

theorem installIcmpFltRule_inOrder (h : s.InOrder) (hwhole : TakesWhole calls (.icmp iptype) 1) :
    (s.installIcmpFltRule calls iptype).InOrder := by
  unfold installIcmpFltRule
  cases hadds : calls.addsFltRules (.icmp iptype) with
  | false =>
    unfold addFilteringRule
    rw [hadds]
    exact h
  | true =>
    have hadd := addFilteringRule_ok _ s _ _ hadds (hwhole hadds)
    have hadded := h.added (.icmp iptype) 1 (fun _ => nofun) fun _ => nofun
    have hself := HeldOrZero.add_self h.books.sound (.icmp iptype) 1
    have hhdls : (s.driver.addAll ((FltGroup.icmp iptype).rules 1)).1 = [s.driver.next] := by
      rw [Handles.addAll_handles]
      rfl
    rw [hadd, hhdls]
    rw [hhdls] at hself
    refine ⟨hadded.books, ⟨fun iptype' => ?_, hadded.base.dft, hadded.base.priv⟩, hadded.balanced,
      hadded.strays, hadded.miscounted, hadded.modem, hadded.fits⟩
    by_cases he : iptype' = iptype
    · subst he
      simp only [Function.update_self]
      exact hself
    · simp only [Function.update_of_ne he]
      exact hadded.base.icmp iptype'

theorem installIcmpFltRule_damaged (h : s.Balanced) (hpart : ¬TakesWhole calls (.icmp iptype) 1) :
    (s.installIcmpFltRule calls iptype).Damaged := by
  obtain ⟨hdls, t, hadd, hmis⟩ := addFilteringRule_miscounted h hpart
  unfold installIcmpFltRule
  rw [hadd]
  exact Or.inr hmis

theorem addDummyPrivateSubnetFltRule_inOrder (h : s.InOrder)
    (hwhole : iptype = .v4 → TakesWhole calls .privateSubnet ipaMaxPrivateSubnetEntries) :
    (s.addDummyPrivateSubnetFltRule calls iptype).InOrder := by
  cases iptype with
  | v6 => exact h
  | v4 =>
    unfold addDummyPrivateSubnetFltRule
    cases hadds : calls.addsFltRules .privateSubnet with
    | false =>
      unfold addFilteringRule
      rw [hadds]
      exact h
    | true =>
      have hstatus := hwhole rfl hadds
      have hadd := addFilteringRule_ok _ s _ _ hadds hstatus
      have hadded := h.added .privateSubnet ipaMaxPrivateSubnetEntries (fun _ => nofun)
        fun _ => nofun
      have hself := HeldOrZero.add_self h.books.sound .privateSubnet ipaMaxPrivateSubnetEntries
      have htaken : (FltGroup.privateSubnet.rules ipaMaxPrivateSubnetEntries).takeWhile calls.ruleStatus =
          FltGroup.privateSubnet.rules ipaMaxPrivateSubnetEntries :=
        List.takeWhile_eq_self_iff.mpr hstatus
      have hold := h.base.priv.1
      rw [hadd]
      refine ⟨hadded.books, ⟨hadded.base.icmp, hadded.base.dft, ?_⟩, hadded.balanced, hadded.strays,
        hadded.miscounted, hadded.modem, hadded.fits⟩
      simp only [htaken, FltGroup.length_rules]
      change HeldOrZero _ _ _ (_ ++ s.privateFlRuleHdl.drop ipaMaxPrivateSubnetEntries)
      rw [List.drop_of_length_le (by omega), List.append_nil, List.take_of_length_le (Nat.le_of_eq hself.1)]
      exact hself

theorem addDummyPrivateSubnetFltRule_damaged (h : s.Balanced)
    (hpart : ¬TakesWhole calls .privateSubnet ipaMaxPrivateSubnetEntries) :
    (s.addDummyPrivateSubnetFltRule calls .v4).Damaged := by
  obtain ⟨hdls, t, hadd, hmis⟩ := addFilteringRule_miscounted h hpart
  unfold addDummyPrivateSubnetFltRule
  rw [hadd]
  exact Or.inr hmis

theorem installIpv6PrefixFltRule_inOrder (h : s.InOrder) (hwhole : TakesWhole calls .ipv6Prefix 1) :
    (s.installIpv6PrefixFltRule calls).InOrder := by
  unfold installIpv6PrefixFltRule
  cases hadds : calls.addsFltRules .ipv6Prefix with
  | false =>
    unfold addFilteringRule
    rw [hadds]
    exact h
  | true =>
    have hadd := addFilteringRule_ok _ s _ _ hadds (hwhole hadds)
    have hadded := h.added .ipv6Prefix 1 (fun _ => nofun) fun _ => nofun
    have hhdls : (s.driver.addAll (FltGroup.ipv6Prefix.rules 1)).1 = [s.driver.next] := by
      rw [Handles.addAll_handles]
      rfl
    rw [hadd, hhdls]
    exact ⟨UplinkBooks.add_prefix h.books, hadded.base, hadded.balanced, hadded.strays,
      hadded.miscounted, hadded.modem, hadded.fits⟩

theorem installIpv6PrefixFltRule_damaged (h : s.Balanced) (hpart : ¬TakesWhole calls .ipv6Prefix 1) :
    (s.installIpv6PrefixFltRule calls).Damaged := by
  obtain ⟨hdls, t, hadd, hmis⟩ := addFilteringRule_miscounted h hpart
  unfold installIpv6PrefixFltRule
  rw [hadd]
  exact Or.inr hmis

/-- The rule for a station is taken if it is asked for and the call does not fail. -/
def TakesSta (s : UplinkLan) (calls : IpaCalls) (iptype : IpaIpType) : Prop :=
  s.staUlSet iptype = false → calls.getsRoutingTable = true → TakesWhole calls (.staUl iptype) 1

theorem handleWanUp_inOrder (h : s.InOrder) (htakes : s.TakesSta calls iptype) :
    (s.handleWanUp calls iptype).InOrder := by
  unfold handleWanUp
  split
  · exact h
  next hunset =>
  split
  · exact h
  next hgets =>
    have hunset : s.staUlSet iptype = false := by simpa using hunset
    have hwhole := htakes hunset (by simpa using hgets)
    cases hadds : calls.addsFltRules (.staUl iptype) with
    | false =>
      unfold addFilteringRule
      rw [hadds]
      exact h
    | true =>
      have hadd := addFilteringRule_ok _ s _ _ hadds (hwhole hadds)
      have hhdls : (s.driver.addAll ((FltGroup.staUl iptype).rules 1)).1 = [s.driver.next] := by
        rw [Handles.addAll_handles]
        rfl
      rw [hadd, hhdls, added_eq h.balanced]
      exact ⟨UplinkBooks.add_sta h.books hunset, h.base.addAll h.books.sound _,
        added_balanced h.balanced _ _, h.strays, h.miscounted, h.modem, h.fits⟩

theorem handleWanUp_damaged (h : s.Balanced) (hpart : ¬s.TakesSta calls iptype) :
    (s.handleWanUp calls iptype).Damaged := by
  simp only [TakesSta, Classical.not_imp] at hpart
  obtain ⟨hunset, hgets, hpart⟩ := hpart
  obtain ⟨hdls, t, hadd, hmis⟩ := addFilteringRule_miscounted h hpart
  unfold handleWanUp
  rw [hunset, hgets, hadd]
  exact Or.inr hmis

/-- If the modem's rules are asked for, there are some, and all of them are taken. -/
def TakesModem (s : UplinkLan) (wan : WanView) (calls : IpaCalls) (iptype : IpaIpType) : Prop :=
  calls.opens iptype = true → calls.writesQmapId = true → s.modemUlSet iptype = false →
    0 < wan.numExtProps iptype ∧ wan.numExtProps iptype ≤ maxWanUlFilterRules ∧
      calls.sendsRuleIndex = true ∧ calls.addsFltRules (.modemUl iptype) = true ∧
      ∀ rule ∈ (FltGroup.modemUl iptype).rules (wan.numExtProps iptype), calls.ruleStatus rule = true

theorem InOrder.wanUl_nil (h : s.InOrder) (hunset : s.modemUlSet iptype = false) :
    s.wanUlFlRuleHdl iptype = [] := by
  refine Classical.byContradiction fun hne => ?_
  rw [(h.modem iptype).mpr hne] at hunset
  cases hunset

theorem handleWanUpEx_inOrder (h : s.InOrder) (htakes : s.TakesModem wan calls iptype) :
    (s.handleWanUpEx wan calls iptype).InOrder := by
  unfold handleWanUpEx
  split
  · exact h
  next hready =>
  split
  · exact h
  next hunset =>
    simp only [Bool.or_eq_true, Bool.not_eq_true', not_or, Bool.not_eq_false] at hready
    have hunset : s.modemUlSet iptype = false := by simpa using hunset
    obtain ⟨hpos, hle, hsends, hadds, hstatus⟩ := htakes hready.1 hready.2 hunset
    have hnil := h.wanUl_nil hunset
    have hadd := addFilteringRule_ok _ s _ _ hadds hstatus
    have hlength : (s.driver.addAll
        ((FltGroup.modemUl iptype).rules (wan.numExtProps iptype))).1.length = wan.numExtProps iptype := by
      rw [Handles.length_addAll, FltGroup.length_rules]
    unfold handleUplinkFilterRule
    rw [if_neg (Nat.ne_of_gt hpos), if_neg (Nat.not_lt_of_le hle), hsends, hadd, added_eq h.balanced]
    simp only [Bool.not_true, Bool.false_eq_true, if_false, hnil, List.nil_append]
    refine ⟨UplinkBooks.add_modem h.books hnil _, h.base.addAll h.books.sound _,
      added_balanced h.balanced _ _, h.strays, h.miscounted, fun iptype' => ?_, fun iptype' => ?_⟩
    · by_cases he : iptype' = iptype
      · grind
      · simp only [Function.update_of_ne he]
        exact h.modem iptype'
    · by_cases he : iptype' = iptype
      · subst he
        simp only [Function.update_self]
        omega
      · simp only [Function.update_of_ne he]
        exact h.fits iptype'

theorem handleWanUpEx_wrong (h : s.InOrder) (hpart : ¬s.TakesModem wan calls iptype) :
    ¬(s.handleWanUpEx wan calls iptype).FltBooksRight := by
  simp only [TakesModem, Classical.not_imp] at hpart
  obtain ⟨hopens, hwrites, hunset, hpart⟩ := hpart
  have hnil := h.wanUl_nil hunset
  have hunfold : s.handleWanUpEx wan calls iptype =
      { s.handleUplinkFilterRule wan calls iptype with
        modemUlSet := Function.update (s.handleUplinkFilterRule wan calls iptype).modemUlSet iptype true } := by
    unfold handleWanUpEx
    rw [hopens, hwrites, hunset]
    rfl
  rw [hunfold]
  rintro ⟨hstrays, hmis, -, hmodem⟩
  obtain ⟨hle, hiff⟩ := hmodem iptype
  have hrules := hiff.mpr (Function.update_self ..)
  simp only at hrules hmis
  have hsame : ∀ u : UplinkLan, u = s → ¬0 < (u.wanUlFlRuleHdl iptype).length := by
    rintro _ rfl
    rw [hnil]
    exact Nat.lt_irrefl 0
  unfold handleUplinkFilterRule at hrules hmis
  split at hrules
  · exact hsame s rfl hrules
  next hne =>
  split at hrules
  · exact hsame s rfl hrules
  next hle =>
  split at hrules
  · exact hsame s rfl hrules
  next hsends =>
    rw [if_neg hne, if_neg hle, if_neg hsends] at hmis
    cases hadds : calls.addsFltRules (.modemUl iptype) with
    | false =>
      grind [addFilteringRule]
    | true =>
      have hturned : ¬TakesWhole calls (.modemUl iptype) (wan.numExtProps iptype) := by
        intro hwhole
        refine hpart ⟨by omega, by omega, by simpa using hsends, hadds, hwhole hadds⟩
      obtain ⟨hdls, t, hadd, hwrong⟩ := addFilteringRule_miscounted h.balanced hturned
      grind

/-- What an event that completes a family needs from the kernel and from the modem. -/
def TakesUplink (s : UplinkLan) (wan : WanView) (calls : IpaCalls) (iptype : IpaIpType)
    (isSta : Bool) : Prop :=
  (iptype = .v6 → TakesWhole calls .ipv6Prefix 1) ∧
    if isSta then s.TakesSta calls iptype else s.TakesModem wan calls iptype

theorem addFilteringRule_frame {u : UplinkLan} (hadd : s.addFilteringRule calls group n = some (hdls, u)) :
    ∃ d count mis, u = { s with driver := d, fltRuleCount := count, miscounted := mis } := by
  unfold addFilteringRule at hadd
  split at hadd
  · cases hadd
    exact ⟨_, _, _, rfl⟩
  · cases hadd

theorem installIpv6PrefixFltRule_frame : (s.installIpv6PrefixFltRule calls).inPlace = s.inPlace := by
  unfold installIpv6PrefixFltRule
  split
  · rfl
  next hadd =>
    obtain ⟨d, count, mis, rfl⟩ := addFilteringRule_frame hadd
    rfl

theorem InOrder.withPrefix (h : s.InOrder) (hwhole : iptype = .v6 → TakesWhole calls .ipv6Prefix 1) :
    ∃ u : UplinkLan, u = (if iptype = .v6 then s.installIpv6PrefixFltRule calls else s) ∧
      u.InOrder ∧ u.inPlace = s.inPlace := by
  refine ⟨_, rfl, ?_⟩
  split
  next hsix => exact ⟨installIpv6PrefixFltRule_inOrder h (hwhole hsix), installIpv6PrefixFltRule_frame⟩
  next => exact ⟨h, rfl⟩

variable (calls wan iptype) in
theorem takes_congr {u : UplinkLan} (hsame : u.inPlace = s.inPlace) :
    (u.TakesSta calls iptype ↔ s.TakesSta calls iptype) ∧
      (u.TakesModem wan calls iptype ↔ s.TakesModem wan calls iptype) := by
  have hat := congrFun hsame iptype
  simp only [inPlace, Prod.mk.injEq] at hat
  simp only [TakesSta, TakesModem, hat.1, hat.2.2, iff_self, and_self]

theorem installUplink_inOrder (h : s.InOrder) {isSta : Bool}
    (htakes : s.TakesUplink wan calls iptype isSta) : (s.installUplink wan calls iptype isSta).InOrder := by
  obtain ⟨u, hu, horder, hsame⟩ := h.withPrefix htakes.1
  have hcongr := takes_congr calls wan iptype hsame
  have hrest := htakes.2
  unfold installUplink
  simp only [← hu]
  cases isSta with
  | true => exact handleWanUp_inOrder horder (hcongr.1.mpr hrest)
  | false => exact handleWanUpEx_inOrder horder (hcongr.2.mpr hrest)

theorem installUplink_wrong (h : s.InOrder) {isSta : Bool}
    (hpart : ¬s.TakesUplink wan calls iptype isSta) :
    ¬(s.installUplink wan calls iptype isSta).FltBooksRight := by
  by_cases hwhole : iptype = .v6 → TakesWhole calls .ipv6Prefix 1
  · obtain ⟨u, hu, horder, hsame⟩ := h.withPrefix hwhole
    have hcongr := takes_congr calls wan iptype hsame
    have hrest := fun hok => hpart ⟨hwhole, hok⟩
    unfold installUplink
    simp only [← hu]
    cases isSta with
    | true => exact (handleWanUp_damaged horder.balanced fun hok => hrest (hcongr.1.mp hok)).wrong
    | false => exact handleWanUpEx_wrong horder fun hok => hrest (hcongr.2.mp hok)
  · simp only [Classical.not_imp] at hwhole
    obtain ⟨rfl, hturned⟩ := hwhole
    have hdamaged := installIpv6PrefixFltRule_damaged h.balanced hturned
    unfold installUplink
    cases isSta with
    | true => exact hdamaged.handleWanUp.wrong
    | false => exact hdamaged.handleWanUpEx.wrong

/-- The handle of the IPv6 prefix rule has a rule behind it. -/
def PrefixUp (s : UplinkLan) : Prop := (s.driver.installed s.ipv6PrefixFltRuleHdl).isSome = true

theorem deleteIpv6PrefixFltRule_damaged (hnone : ¬s.PrefixUp) :
    (s.deleteIpv6PrefixFltRule calls).Damaged := by
  have hnone : s.driver.installed s.ipv6PrefixFltRuleHdl = none := by
    simpa [PrefixUp] using hnone
  have hstray : (s.strayed [s.ipv6PrefixFltRuleHdl]).Damaged := by
    refine Or.inl fun hnil => ?_
    exact strayHdls_ne_nil hnone (List.append_eq_nil_iff.mp hnil).2
  exact hstray.deleteFilteringHdls

theorem InOrder.withdraw_cases (h : s.InOrder) (hheld : Held s.driver group hdls)
    (hgoes : GoesWhole calls hdls) :
    (∀ hdl ∈ hdls, calls.deletesFltRule hdl = true) ∧
        s.withdrawHdls calls iptype hdls = (true, s.deleted iptype hdls) ∨
      ¬(∀ hdl ∈ hdls, calls.deletesFltRule hdl = true) ∧
        s.withdrawHdls calls iptype hdls = (false, s) := by
  have hsame : s.withdrawHdls calls iptype hdls = s.deleteFilteringHdls calls iptype hdls :=
    congrArg (fun u => deleteFilteringHdls u calls iptype hdls) (strayed_eq hheld)
  rw [hsame]
  exact deleteFilteringHdls_cases h.balanced h.books.sound hheld hgoes

theorem goesWhole_singleton (calls : IpaCalls) (hdl : Nat) : GoesWhole calls [hdl] :=
  fun _ _ hmem => nomatch hmem

theorem InOrder.deleted (h : s.InOrder) (hheld : Held s.driver group hdls) (hgroup : group.iptype = iptype)
    (hbooks : (s.deleted iptype hdls).Books) (hicmp : ∀ iptype, group ≠ .icmp iptype)
    (hdft : ∀ iptype, group ≠ .dft iptype) (hpriv : group ≠ .privateSubnet) :
    (s.deleted iptype hdls).InOrder := by
  rw [deleted_eq _ h.balanced h.books.sound hheld hgroup] at hbooks ⊢
  exact ⟨hbooks, h.base.del_other hheld hicmp hdft hpriv,
    deleted_balanced h.balanced h.books.sound hheld hgroup, h.strays, h.miscounted, h.modem, h.fits⟩

theorem deleteIpv6PrefixFltRule_inOrder (h : s.InOrder) (hup : s.PrefixUp) :
    (s.deleteIpv6PrefixFltRule calls).InOrder ∧
      (s.deleteIpv6PrefixFltRule calls).inPlace = s.inPlace ∧
      (s.deleteIpv6PrefixFltRule calls).flags = s.flags ∧
      (s.deleteIpv6PrefixFltRule calls).baseGroups = s.baseGroups := by
  obtain ⟨rule, hrule⟩ := Option.isSome_iff_exists.mp hup
  have hself := h.books.prefixRule rule hrule
  subst hself
  have hheld : Held s.driver .ipv6Prefix [s.ipv6PrefixFltRuleHdl] := by
    intro k hdl hk
    cases k with
    | zero =>
      cases hk
      exact hrule
    | succ k => cases hk
  have hgone : (s.deleted .v6 [s.ipv6PrefixFltRuleHdl]).InOrder := by
    refine h.deleted hheld rfl ?_ (fun _ => nofun) (fun _ => nofun) nofun
    refine UplinkBooks.del_other .ipv6Prefix h.books (fun g hg rule hrule' => ?_)
      (fun _ => nofun) fun _ => nofun
    obtain ⟨k, hk⟩ := hheld.group_of_mem hg
    rw [hk] at hrule'
    cases hrule'
    rfl
  unfold deleteIpv6PrefixFltRule
  rcases h.withdraw_cases hheld (goesWhole_singleton calls _) with ⟨-, heq⟩ | ⟨-, heq⟩
  · rw [heq]
    exact ⟨hgone, rfl, rfl, rfl⟩
  · rw [heq]
    exact ⟨h, rfl, rfl, rfl⟩

/-- What a withdrawal for a family needs: the rules that are asked for are there, and they go or
stay together. -/
def Withdraws (s : UplinkLan) (calls : IpaCalls) (iptype : IpaIpType) (isStaMode : Bool) : Prop :=
  if !isStaMode && s.modemUlSet iptype then GoesWhole calls (s.wanUlFlRuleHdl iptype)
  else s.staUlSet iptype = true

theorem InOrder.prefix_stays (h : s.InOrder) (hheld : Held s.driver group hdls) (hne : group ≠ .ipv6Prefix) :
    (s.driver.delAll hdls).installed s.ipv6PrefixFltRuleHdl = s.driver.installed s.ipv6PrefixFltRuleHdl := by
  rw [Handles.installed_delAll, if_neg]
  intro hmem
  obtain ⟨k, hk⟩ := hheld.group_of_mem hmem
  have hself := h.books.prefixRule _ hk
  exact hne (congrArg FltRule.group hself)

theorem InOrder.modem_withdrawn (h : s.InOrder) :
    { s.deleted iptype (s.wanUlFlRuleHdl iptype) with
      wanUlFlRuleHdl := Function.update s.wanUlFlRuleHdl iptype []
      modemUlSet := Function.update s.modemUlSet iptype false : UplinkLan }.InOrder := by
  have hheld := (h.books.modem iptype).held
  have hgone := deleted_eq iptype h.balanced h.books.sound hheld rfl
  rw [hgone]
  refine ⟨UplinkBooks.del_modem h.books iptype,
    h.base.del_other hheld (fun _ => nofun) (fun _ => nofun) nofun,
    deleted_balanced h.balanced h.books.sound hheld rfl, h.strays, h.miscounted, fun iptype' => ?_,
    fun iptype' => ?_⟩
  · by_cases he : iptype' = iptype
    · grind
    · simp only [Function.update_of_ne he]
      exact h.modem iptype'
  · by_cases he : iptype' = iptype
    · grind
    · simp only [Function.update_of_ne he]
      exact h.fits iptype'

theorem InOrder.sta_held (h : s.InOrder) (hset : s.staUlSet iptype = true) :
    Held s.driver (.staUl iptype) [s.staFlRuleHdl iptype] := by
  have hrecorded := h.books.sta iptype
  rw [if_pos hset] at hrecorded
  exact hrecorded.held

theorem InOrder.sta_withdrawn (h : s.InOrder) (hset : s.staUlSet iptype = true) :
    { s.deleted iptype [s.staFlRuleHdl iptype] with
      staUlSet := Function.update s.staUlSet iptype false : UplinkLan }.InOrder := by
  have hheld := h.sta_held hset
  have hgone := deleted_eq iptype h.balanced h.books.sound hheld rfl
  rw [hgone]
  exact ⟨UplinkBooks.del_sta h.books hset,
    h.base.del_other hheld (fun _ => nofun) (fun _ => nofun) nofun,
    deleted_balanced h.balanced h.books.sound hheld rfl, h.strays, h.miscounted, h.modem, h.fits⟩

/-- What a withdrawal leaves of the rest. -/
structure OnlyUplink (s t : UplinkLan) (iptype : IpaIpType) : Prop where
  flags : t.flags = s.flags
  other : ∀ iptype', iptype' ≠ iptype → t.inPlace iptype' = s.inPlace iptype'
  base : t.baseGroups = s.baseGroups
  prefixUp : t.PrefixUp ↔ s.PrefixUp

variable {isStaMode : Bool}

theorem withdrawUplink_inOrder (h : s.InOrder) (hgoes : s.Withdraws calls iptype isStaMode) :
    (s.withdrawUplink calls iptype isStaMode).InOrder ∧
      OnlyUplink s (s.withdrawUplink calls iptype isStaMode) iptype := by
  have hsame : OnlyUplink s s iptype := ⟨rfl, fun _ _ => rfl, rfl, Iff.rfl⟩
  unfold Withdraws at hgoes
  unfold withdrawUplink
  split at hgoes
  next hcase =>
    have hset : s.modemUlSet iptype = true := (Bool.and_eq_true_iff.mp hcase).2
    have hne := (h.modem iptype).mp hset
    have hheld := (h.books.modem iptype).held
    rw [if_pos hcase, if_neg (Nat.not_lt_of_le (h.fits iptype)), if_neg (by simpa using hne)]
    rcases h.withdraw_cases hheld hgoes with ⟨-, heq⟩ | ⟨-, heq⟩
    · rw [heq]
      refine ⟨h.modem_withdrawn, rfl, fun iptype' hother => ?_, rfl, ?_⟩
      · change (Function.update s.modemUlSet iptype false iptype',
          Function.update s.wanUlFlRuleHdl iptype [] iptype', s.staUlSet iptype') = _
        rw [Function.update_of_ne hother, Function.update_of_ne hother]
        rfl
      · exact iff_of_eq (congrArg (fun o => Option.isSome o = true) (h.prefix_stays hheld nofun))
    · rw [heq]
      exact ⟨h, hsame⟩
  next hcase =>
    have hheld := h.sta_held hgoes
    rw [if_neg hcase]
    rcases h.withdraw_cases hheld (goesWhole_singleton calls _) with ⟨-, heq⟩ | ⟨-, heq⟩
    · rw [heq]
      refine ⟨h.sta_withdrawn hgoes, rfl, fun iptype' hother => ?_, rfl, ?_⟩
      · change (s.modemUlSet iptype', s.wanUlFlRuleHdl iptype',
          Function.update s.staUlSet iptype false iptype') = _
        rw [Function.update_of_ne hother]
        rfl
      · exact iff_of_eq (congrArg (fun o => Option.isSome o = true) (h.prefix_stays hheld nofun))
    · rw [heq]
      exact ⟨h, hsame⟩

theorem withdrawUplink_damaged (h : s.InOrder) (hpart : ¬s.Withdraws calls iptype isStaMode) :
    (s.withdrawUplink calls iptype isStaMode).Damaged := by
  unfold Withdraws at hpart
  unfold withdrawUplink
  split at hpart
  next hcase =>
    have hset : s.modemUlSet iptype = true := (Bool.and_eq_true_iff.mp hcase).2
    have hne := (h.modem iptype).mp hset
    have hheld := (h.books.modem iptype).held
    rw [if_pos hcase, if_neg (Nat.not_lt_of_le (h.fits iptype)), if_neg (by simpa using hne)]
    have hmis : (s.withdrawHdls calls iptype (s.wanUlFlRuleHdl iptype)).2.Damaged := by
      have hsame : s.withdrawHdls calls iptype (s.wanUlFlRuleHdl iptype) =
          s.deleteFilteringHdls calls iptype (s.wanUlFlRuleHdl iptype) :=
        congrArg (fun u => deleteFilteringHdls u calls iptype _) (strayed_eq hheld)
      rw [hsame]
      exact Or.inr (deleteFilteringHdls_miscounted h.balanced h.books.sound hheld rfl hpart)
    split <;> rename_i heq <;> rw [heq] at hmis <;> exact hmis
  next hcase =>
    have hnone := h.books.staUnset iptype (by simpa using hpart)
    have hstray : (s.withdrawHdls calls iptype [s.staFlRuleHdl iptype]).2.Damaged := by
      refine Damaged.deleteFilteringHdls (Or.inl fun hnil => ?_)
      exact strayHdls_ne_nil hnone (List.append_eq_nil_iff.mp hnil).2
    rw [if_neg hcase]
    split <;> rename_i heq <;> rw [heq] at hstray <;> exact hstray

/-- What `handle_wan_down` and `handle_wan_down_v6` need. -/
def TakesDown (s : UplinkLan) (calls : IpaCalls) (iptype : IpaIpType) (isStaMode : Bool) : Prop :=
  calls.opens iptype = true → (iptype = .v6 → s.PrefixUp) ∧ s.Withdraws calls iptype isStaMode

theorem withdraws_congr {u : UplinkLan} (hsame : u.inPlace iptype = s.inPlace iptype) :
    u.Withdraws calls iptype isStaMode ↔ s.Withdraws calls iptype isStaMode := by
  simp only [inPlace, Prod.mk.injEq] at hsame
  unfold Withdraws
  rw [hsame.1, hsame.2.1, hsame.2.2]

theorem handleWanDown_inOrder (h : s.InOrder) (htakes : s.TakesDown calls iptype isStaMode) :
    (s.handleWanDown calls iptype isStaMode).InOrder ∧
      (s.handleWanDown calls iptype isStaMode).flags = s.flags ∧
      (∀ iptype', iptype' ≠ iptype →
        (s.handleWanDown calls iptype isStaMode).inPlace iptype' = s.inPlace iptype') ∧
      (s.handleWanDown calls iptype isStaMode).baseGroups = s.baseGroups ∧
      (iptype = .v4 → ((s.handleWanDown calls iptype isStaMode).PrefixUp ↔ s.PrefixUp)) := by
  unfold handleWanDown
  split
  · exact ⟨h, rfl, fun _ _ => rfl, rfl, fun _ => Iff.rfl⟩
  next hopens =>
    obtain ⟨hpre, hgoes⟩ := htakes (by simpa using hopens)
    cases iptype with
    | v4 =>
      obtain ⟨horder, honly⟩ := withdrawUplink_inOrder h hgoes
      exact ⟨horder, honly.flags, honly.other, honly.base, fun _ => honly.prefixUp⟩
    | v6 =>
      obtain ⟨horder, hplace, hflags, hbase⟩ := deleteIpv6PrefixFltRule_inOrder h (hpre rfl)
      have hgoes' := (withdraws_congr (congrFun hplace .v6)).mpr hgoes
      obtain ⟨horder', honly⟩ := withdrawUplink_inOrder horder hgoes'
      refine ⟨horder', honly.flags.trans hflags, fun iptype' hother => ?_, honly.base.trans hbase, nofun⟩
      exact (honly.other iptype' hother).trans (congrFun hplace iptype')

theorem handleWanDown_damaged (h : s.InOrder) (hpart : ¬s.TakesDown calls iptype isStaMode) :
    (s.handleWanDown calls iptype isStaMode).Damaged := by
  simp only [TakesDown, Classical.not_imp] at hpart
  obtain ⟨hopens, hpart⟩ := hpart
  unfold handleWanDown
  rw [hopens]
  cases iptype with
  | v4 => exact withdrawUplink_damaged h fun hgoes => hpart ⟨nofun, hgoes⟩
  | v6 =>
    by_cases hup : s.PrefixUp
    · obtain ⟨horder, hplace, -⟩ := deleteIpv6PrefixFltRule_inOrder h hup
      refine withdrawUplink_damaged horder fun hgoes => hpart ⟨fun _ => hup, ?_⟩
      exact (withdraws_congr (congrFun hplace .v6)).mp hgoes
    · exact (deleteIpv6PrefixFltRule_damaged hup).withdrawUplink isStaMode

end UplinkLan

end DeviceHal.Ipacm
