import DeviceHal.Ipacm.UplinkRules

namespace DeviceHal.Ipacm

open Lib

/-- The modem has rules for the family, and not more than the array holds. -/
def WanView.GivesRules (wan : WanView) (iptype : IpaIpType) : Prop :=
  0 < wan.numExtProps iptype ∧ wan.numExtProps iptype ≤ maxWanUlFilterRules

namespace UplinkLan

variable {s t : UplinkLan} {wan : WanView} {iface : UplinkIface} {iptype : IpaIpType}

/-- Flags of one family change. -/
structure Toggled (s t : UplinkLan) (iptype : IpaIpType) : Prop where
  books : t.Books
  active : t.isActive = true
  addrs : t.ipv6Addr ≠ [] → t.ipType.covers .v6 = true
  inPlace : t.inPlace = s.inPlace
  other : ∀ iptype', iptype' ≠ iptype → t.complete iptype' = s.complete iptype'

theorem Sorted.toggleUpstream (h : s.Sorted) (iptype : IpaIpType) (flag : Bool) :
    Toggled s { s with isUpstreamSet := Function.update s.isUpstreamSet iptype flag } iptype := by
  refine ⟨h.books, h.active, h.addrs, rfl, fun iptype' hne => ?_⟩
  simp only [complete]
  rw [Function.update_of_ne hne]

theorem Sorted.toggleDownstream (h : s.Sorted) (iptype : IpaIpType) (flag : Bool) :
    Toggled s { s with isDownstreamSet := Function.update s.isDownstreamSet iptype flag } iptype := by
  refine ⟨h.books, h.active, h.addrs, rfl, fun iptype' hne => ?_⟩
  simp only [complete]
  rw [Function.update_of_ne hne]

namespace Toggled

variable (h : s.Sorted) (htoggled : Toggled s t iptype)

include h htoggled

theorem sorted (hsame : t.complete iptype = s.complete iptype) : t.Sorted := by
  refine ⟨htoggled.active, htoggled.books, htoggled.addrs, fun iptype' => ?_⟩
  have hsettled := h.settled iptype'
  rw [htoggled.inPlace]
  by_cases he : iptype' = iptype
  · subst he
    rw [hsame]
    exact hsettled
  · rw [htoggled.other iptype' he]
    exact hsettled

theorem sorted_of_only {u : UplinkLan} (hbooks : u.Books) (honly : OnlyFamily t u iptype)
    (hsettled : Settled (t.complete iptype) (u.inPlace iptype)) : u.Sorted := by
  refine ⟨honly.active.trans htoggled.active, hbooks, fun hne => ?_, fun iptype' => ?_⟩
  · have hflags := honly.flags
    simp only [UplinkLan.flags, Prod.mk.injEq] at hflags
    rw [honly.addrs] at hne
    rw [hflags.2.1]
    exact htoggled.addrs hne
  · rw [honly.complete]
    by_cases he : iptype' = iptype
    · rw [he]
      exact hsettled
    · rw [honly.other iptype' he, htoggled.inPlace, htoggled.other iptype' he]
      exact h.settled iptype'

theorem installUplink_sorted (hwas : s.complete iptype = false) (his : t.complete iptype = true)
    {isSta : Bool} (hgives : isSta = false → wan.GivesRules iptype) :
    (t.installUplink wan {} iptype isSta).Sorted := by
  have hplace : t.inPlace iptype = (false, [], false) := by
    rw [htoggled.inPlace]
    exact (hwas ▸ h.settled iptype).of_incomplete
  obtain ⟨hbooks, honly, hsta, hmodem⟩ := installUplink_spec wan htoggled.books hplace isSta
  refine htoggled.sorted_of_only h hbooks honly ?_
  rw [his]
  cases isSta with
  | true =>
    rw [hsta rfl]
    exact Settled.sta
  | false =>
    obtain ⟨hpos, hle⟩ := hgives rfl
    obtain ⟨hdls, hat, hlength⟩ := hmodem rfl
    rw [if_pos hle] at hlength
    rw [hat]
    refine Settled.modem (fun hnil => ?_) (by omega)
    rw [hnil, List.length_nil] at hlength
    omega

theorem installUplink_broken (hwas : s.complete iptype = false) (his : t.complete iptype = true)
    (hgives : ¬wan.GivesRules iptype) : ¬(t.installUplink wan {} iptype false).Offloaded := by
  have hplace : t.inPlace iptype = (false, [], false) := by
    rw [htoggled.inPlace]
    exact (hwas ▸ h.settled iptype).of_incomplete
  obtain ⟨hbooks, honly, -, hmodem⟩ := installUplink_spec wan htoggled.books hplace false
  obtain ⟨hdls, hat, hlength⟩ := hmodem rfl
  have hnil : hdls = [] := by
    refine List.eq_nil_of_length_eq_zero ?_
    unfold WanView.GivesRules at hgives
    split at hlength <;> omega
  intro hoff
  have hcomplete : (t.installUplink wan {} iptype false).complete iptype = true := by
    rw [honly.complete]
    exact his
  simp only [complete, Bool.and_eq_true] at hcomplete
  have honce := (hoff iptype).1 hcomplete.1.1 hcomplete.1.2 hcomplete.2
  rw [hbooks.uplinkOnce_iff] at honce
  simp only [UplinkLan.inPlace, Prod.mk.injEq] at hat
  rw [hat.2.1, hat.2.2, hnil] at honce
  simp at honce

theorem handleWanDown_sorted (his : t.complete iptype = false) {isSta : Bool}
    (hmode : s.modemUlSet iptype = true → isSta = false) :
    (t.handleWanDown {} iptype isSta).Sorted := by
  have hsettled : Settled (s.complete iptype) (t.inPlace iptype) := by
    rw [htoggled.inPlace]
    exact h.settled iptype
  have hset : t.modemUlSet iptype = s.modemUlSet iptype :=
    (Prod.mk.inj (congrFun htoggled.inPlace iptype)).1
  obtain ⟨hbooks, honly, hat⟩ := handleWanDown_spec htoggled.books hsettled isSta
  refine htoggled.sorted_of_only h hbooks honly ?_
  have hgone : ¬(isSta && t.modemUlSet iptype) = true := by
    intro hboth
    simp only [Bool.and_eq_true] at hboth
    rw [hset] at hboth
    rw [hmode hboth.2] at hboth
    cases hboth.1
  rw [if_neg hgone] at hat
  rw [hat, his]
  exact Settled.absent

theorem handleWanDown_broken (hflag : t.isUpstreamSet iptype = false ∨ t.isDownstreamSet iptype = false)
    (hset : s.modemUlSet iptype = true) : ¬(t.handleWanDown {} iptype true).Offloaded := by
  have hsettled : Settled (s.complete iptype) (t.inPlace iptype) := by
    rw [htoggled.inPlace]
    exact h.settled iptype
  have hset' : t.modemUlSet iptype = true :=
    (Prod.mk.inj (congrFun htoggled.inPlace iptype)).1.trans hset
  obtain ⟨hbooks, honly, hat⟩ := handleWanDown_spec htoggled.books hsettled true
  rw [hset', Bool.and_self, if_pos rfl] at hat
  have hflags := honly.flags
  simp only [UplinkLan.flags, Prod.mk.injEq] at hflags
  intro hoff
  have hnone := (hoff iptype).2 (by rw [hflags.2.2.1, hflags.2.2.2]; exact hflag)
  rw [hbooks.noUplink_iff] at hnone
  have hrules : t.wanUlFlRuleHdl iptype ≠ [] := by
    generalize s.complete iptype = c at hsettled
    cases c with
    | true =>
      rcases hsettled.of_complete with ⟨-, hne, -⟩ | ⟨hunset, -⟩
      · exact hne
      · exact absurd (hset'.symm.trans hunset) Bool.noConfusion
    | false =>
      have hunset := (Prod.mk.inj hsettled.of_incomplete).1
      exact absurd (hset'.symm.trans hunset) Bool.noConfusion
  simp only [UplinkLan.inPlace, Prod.mk.injEq] at hat
  exact hrules (hat.2.1.symm.trans hnone.1)

end Toggled

/-- The events after which the rules are in place, by what is known when they are handled: no address
completes a family, the modem has rules when its rules are wanted, and they are withdrawn only
while the backhaul is not a station's. -/
def KeepsUplink (s : UplinkLan) (iface : UplinkIface) (op : UplinkOp) : Prop :=
  match op.event with
  | .addrAdd addr => s.takesAddr iface addr = true →
      ∀ iptype, s.completeWith op.wan addr iptype = true → s.complete iptype = true
  | .wanUpTether iptype isSta => s.isUpstreamSet iptype = false → s.isDownstreamSet iptype = true →
      s.ipType.covers iptype = true → isSta = false → op.wan.GivesRules iptype
  | .downstreamAdd iptype => s.isDownstreamSet iptype = false → s.isUpstreamSet iptype = true →
      s.ipType.covers iptype = true → op.wan.backhaulIsStaMode = false → op.wan.GivesRules iptype
  | .wanDownTether iptype isSta => s.isUpstreamSet iptype = true → s.isDownstreamSet iptype = true →
      s.ipType.covers iptype = true → s.modemUlSet iptype = true → isSta = false
  | .downstreamDel iptype => s.isDownstreamSet iptype = true → s.isUpstreamSet iptype = true →
      s.modemUlSet iptype = true → op.wan.backhaulIsStaMode = false
  | .linkDown => True

variable {addr : IfaceAddr}

theorem completeWith_of_complete (h : s.complete iptype = true) :
    s.completeWith wan addr iptype = true := by
  simp only [complete, Bool.and_eq_true] at h
  simp [completeWith, h]

theorem addrAdd_sorted (h : s.Sorted) (hkeeps : s.takesAddr iface addr = true →
      ∀ iptype, s.completeWith wan addr iptype = true → s.complete iptype = true) :
    (s.addrAdd iface wan {} addr).Sorted := by
  obtain ⟨hbooks, hactive, haddrs, hplace, hcomplete⟩ := addrAdd_spec h addr
  refine ⟨hactive, hbooks, haddrs, fun iptype => ?_⟩
  have hsame : (s.addrAdd iface wan {} addr).complete iptype = s.complete iptype := by
    rw [hcomplete]
    split
    next htakes =>
      cases hnow : s.complete iptype with
      | true => exact completeWith_of_complete hnow
      | false =>
        grind
    next => rfl
  rw [hplace, hsame]
  exact h.settled iptype

variable (iface wan iptype) in
theorem addrAdd_broken (h : s.Sorted) (htakes : s.takesAddr iface addr = true)
    (hwith : s.completeWith wan addr iptype = true) (hwas : s.complete iptype = false) :
    ¬(s.addrAdd iface wan {} addr).Offloaded := by
  obtain ⟨hbooks, -, -, hplace, hcomplete⟩ := addrAdd_spec h addr
  rw [if_pos htakes] at hcomplete
  have hnone := (hwas ▸ h.settled iptype).of_incomplete
  rw [← hplace] at hnone
  simp only [inPlace, Prod.mk.injEq] at hnone
  intro hoff
  have his : (s.addrAdd iface wan {} addr).complete iptype = true := by
    rw [hcomplete]
    exact hwith
  simp only [complete, Bool.and_eq_true] at his
  have honce := (hoff iptype).1 his.1.1 his.1.2 his.2
  rw [hbooks.uplinkOnce_iff, hnone.2.1, hnone.2.2] at honce
  simp at honce

theorem wanUpTether_sorted (h : s.Sorted) {isSta : Bool}
    (hkeeps : s.isUpstreamSet iptype = false → s.isDownstreamSet iptype = true →
      s.ipType.covers iptype = true → isSta = false → wan.GivesRules iptype) :
    (s.wanUpTether wan {} iptype isSta).Sorted := by
  unfold wanUpTether
  split
  · exact h
  split
  next hup =>
    simp only [Bool.and_eq_true, Bool.not_eq_true'] at hup
    obtain ⟨hcovers, hunset⟩ := hup
    have htoggled := h.toggleUpstream iptype true
    have hwas : s.complete iptype = false := by
      simp [complete, hunset]
    simp only
    split
    next hdown =>
      refine htoggled.installUplink_sorted h hwas ?_ (hkeeps hunset hdown hcovers)
      simp [complete, Function.update_self, hdown, hcovers]
    next hdown =>
      refine htoggled.sorted h ?_
      simp [complete, hdown]
  · exact h

theorem downstreamAdd_sorted (h : s.Sorted)
    (hkeeps : s.isDownstreamSet iptype = false → s.isUpstreamSet iptype = true →
      s.ipType.covers iptype = true → wan.backhaulIsStaMode = false → wan.GivesRules iptype) :
    (s.downstreamAdd wan {} iptype).Sorted := by
  unfold downstreamAdd
  split
  · exact h
  next hunset =>
    have hunset : s.isDownstreamSet iptype = false := by simpa using hunset
    have htoggled := h.toggleDownstream iptype true
    have hwas : s.complete iptype = false := by
      simp [complete, hunset]
    simp only
    split
    next hup =>
      simp only [Bool.and_eq_true] at hup
      refine htoggled.installUplink_sorted h hwas ?_ (hkeeps hunset hup.1 hup.2)
      simp [complete, Function.update_self, hup.1, hup.2]
    next hup =>
      refine htoggled.sorted h ?_
      simp only [Bool.and_eq_true, not_and, Bool.not_eq_true] at hup
      grind [complete, Function.update_self]

theorem wanDownTether_sorted (h : s.Sorted) {isSta : Bool}
    (hkeeps : s.isUpstreamSet iptype = true → s.isDownstreamSet iptype = true →
      s.ipType.covers iptype = true → s.modemUlSet iptype = true → isSta = false) :
    (s.wanDownTether {} iptype isSta).Sorted := by
  unfold wanDownTether
  split
  next hup =>
    simp only [Bool.and_eq_true] at hup
    have htoggled := h.toggleUpstream iptype false
    simp only
    split
    next hdown =>
      refine htoggled.handleWanDown_sorted h ?_ (hkeeps hup.2 hdown hup.1)
      simp [complete, Function.update_self]
    next hdown =>
      refine htoggled.sorted h ?_
      simp [complete, hdown]
  · exact h

theorem downstreamDel_sorted (h : s.Sorted)
    (hkeeps : s.isDownstreamSet iptype = true → s.isUpstreamSet iptype = true →
      s.modemUlSet iptype = true → wan.backhaulIsStaMode = false) :
    (s.downstreamDel wan {} iptype).Sorted := by
  unfold downstreamDel
  split
  next hdown =>
    have htoggled := h.toggleDownstream iptype false
    simp only
    split
    next hup =>
      refine htoggled.handleWanDown_sorted h ?_ (hkeeps hdown hup)
      simp [complete, Function.update_self]
    next hup =>
      refine htoggled.sorted h ?_
      simp [complete, hup]
  · exact h

/-- The runs in question: the kernel does what it is asked, and the link stays up. -/
def Served (op : UplinkOp) : Prop := op.calls = {} ∧ op.event ≠ .linkDown

theorem eventCallback_sorted {op : UplinkOp} (h : s.Sorted) (hserved : Served op)
    (hkeeps : s.KeepsUplink iface op) : (s.eventCallback iface op).Sorted := by
  obtain ⟨event, wan, calls⟩ := op
  obtain ⟨hcalls, hevent⟩ := hserved
  simp only at hcalls hevent
  subst hcalls
  unfold eventCallback
  rw [h.active]
  cases event with
  | addrAdd addr => exact addrAdd_sorted h hkeeps
  | wanUpTether iptype isSta => exact wanUpTether_sorted h hkeeps
  | wanDownTether iptype isSta => exact wanDownTether_sorted h hkeeps
  | downstreamAdd iptype => exact downstreamAdd_sorted h hkeeps
  | downstreamDel iptype => exact downstreamDel_sorted h hkeeps
  | linkDown => exact absurd rfl hevent

theorem wanUpTether_broken (h : s.Sorted) (hunset : s.isUpstreamSet iptype = false)
    (hdown : s.isDownstreamSet iptype = true) (hcovers : s.ipType.covers iptype = true)
    (hgives : ¬wan.GivesRules iptype) : ¬(s.wanUpTether wan {} iptype false).Offloaded := by
  have htoggled := h.toggleUpstream iptype true
  have hwas : s.complete iptype = false := by
    simp [complete, hunset]
  have hbroken := htoggled.installUplink_broken h hwas
    (by simp [complete, Function.update_self, hdown, hcovers]) hgives
  unfold wanUpTether
  grind

theorem downstreamAdd_broken (h : s.Sorted) (hunset : s.isDownstreamSet iptype = false)
    (hup : s.isUpstreamSet iptype = true) (hcovers : s.ipType.covers iptype = true)
    (hmode : wan.backhaulIsStaMode = false) (hgives : ¬wan.GivesRules iptype) :
    ¬(s.downstreamAdd wan {} iptype).Offloaded := by
  have htoggled := h.toggleDownstream iptype true
  have hwas : s.complete iptype = false := by
    simp [complete, hunset]
  have hbroken := htoggled.installUplink_broken h hwas
    (by simp [complete, Function.update_self, hup, hcovers]) hgives
  unfold downstreamAdd
  grind

theorem wanDownTether_broken (h : s.Sorted) (hup : s.isUpstreamSet iptype = true)
    (hdown : s.isDownstreamSet iptype = true) (hcovers : s.ipType.covers iptype = true)
    (hset : s.modemUlSet iptype = true) : ¬(s.wanDownTether {} iptype true).Offloaded := by
  have htoggled := h.toggleUpstream iptype false
  have hbroken := htoggled.handleWanDown_broken h (Or.inl (Function.update_self ..)) hset
  unfold wanDownTether
  grind

theorem downstreamDel_broken (h : s.Sorted) (hdown : s.isDownstreamSet iptype = true)
    (hup : s.isUpstreamSet iptype = true) (hset : s.modemUlSet iptype = true)
    (hmode : wan.backhaulIsStaMode = true) : ¬(s.downstreamDel wan {} iptype).Offloaded := by
  have htoggled := h.toggleDownstream iptype false
  have hbroken := htoggled.handleWanDown_broken h (Or.inr (Function.update_self ..)) hset
  unfold downstreamDel
  simp only [hdown, if_true, hup, hmode]
  exact hbroken

theorem eventCallback_broken {op : UplinkOp} (h : s.Sorted) (hserved : Served op)
    (hkeeps : ¬s.KeepsUplink iface op) : ¬(s.eventCallback iface op).Offloaded := by
  obtain ⟨event, wan, calls⟩ := op
  obtain ⟨hcalls, hevent⟩ := hserved
  simp only at hcalls hevent
  subst hcalls
  unfold eventCallback
  rw [h.active]
  unfold KeepsUplink at hkeeps
  cases event with
  | addrAdd addr =>
    simp only [Classical.not_imp, not_forall] at hkeeps
    obtain ⟨htakes, iptype, hwith, hwas⟩ := hkeeps
    exact addrAdd_broken _ _ _ h htakes hwith (by simpa using hwas)
  | wanUpTether iptype isSta =>
    simp only [Classical.not_imp] at hkeeps
    obtain ⟨hunset, hdown, hcovers, rfl, hgives⟩ := hkeeps
    exact wanUpTether_broken h hunset hdown hcovers hgives
  | wanDownTether iptype isSta =>
    simp only [Classical.not_imp, Bool.not_eq_false] at hkeeps
    obtain ⟨hup, hdown, hcovers, hset, rfl⟩ := hkeeps
    exact wanDownTether_broken h hup hdown hcovers hset
  | downstreamAdd iptype =>
    simp only [Classical.not_imp] at hkeeps
    obtain ⟨hunset, hup, hcovers, hmode, hgives⟩ := hkeeps
    exact downstreamAdd_broken h hunset hup hcovers hmode hgives
  | downstreamDel iptype =>
    simp only [Classical.not_imp, Bool.not_eq_false] at hkeeps
    obtain ⟨hdown, hup, hset, hmode⟩ := hkeeps
    exact downstreamDel_broken h hdown hup hset hmode
  | linkDown => exact absurd trivial hkeeps

theorem initial_books (iface : UplinkIface) (wan : WanView) : (initial iface wan).Books := by
  have hlt := iface.lanWan_lt
  have hnone : ∀ group, Recorded (initial iface wan).driver group [] := by
    intro group k g
    exact ⟨nofun, nofun⟩
  refine ⟨⟨?_, rfl, fun _ _ => rfl⟩, fun iptype => hnone _, fun iptype => hnone _, fun _ _ => rfl,
    fun iptype => ?_, ?_, fun rule hrule => nomatch hrule⟩
  · change 0 < iface.firstHdl
    omega
  · cases iptype with
    | v4 => exact hlt
    | v6 =>
      change 0 < iface.firstHdl
      omega
  · change 0 < iface.firstHdl
    omega

theorem initial_sorted (iface : UplinkIface) (wan : WanView) : (initial iface wan).Sorted := by
  refine ⟨rfl, initial_books iface wan, fun hne => absurd rfl hne, fun iptype => ?_⟩
  have hwas : (initial iface wan).complete iptype = false := by
    simp [complete, initial]
  rw [hwas]
  exact Settled.absent

def step (iface : UplinkIface) (s : UplinkLan) (op : UplinkOp) : Option UplinkLan :=
  some (s.eventCallback iface op)

/-- The uplink is offloaded all along a run exactly if each of its events keeps it so. -/
theorem offloaded_iff_keepsUplink (iface : UplinkIface) (wan : WanView) (ops : List UplinkOp)
    (hserved : ∀ op ∈ ops, Served op) :
    Always (step iface) Offloaded (initial iface wan) ops ↔
      OpsMeet (step iface) (fun s op => s.KeepsUplink iface op) (initial iface wan) ops := by
  refine always_iff_of_keeps (fun s h => h.offloaded)
    (fun s op t h hop hkeeps ht => ?_) (fun s op h hop hkeeps => ?_) (initial_sorted iface wan)
    (opsMeet_of_forall fun op hop _ => hserved op hop)
  · cases ht
    exact eventCallback_sorted h hop hkeeps
  · exact ⟨_, rfl, eventCallback_broken h hop hkeeps⟩

def usbIface : UplinkIface where
  isLanIf := true
  isOduIf := false
  oduBridge := false
  lanWanFlRuleHdl := 0
  firstHdl := 1
  lanWan_lt := Nat.one_pos

/-- A mobile backhaul that gives two rules for a family. -/
def mobileWan (isUp : Bool) : WanView where
  isWanUp := fun _ => isUp
  backhaulIsStaMode := false
  numExtProps := fun _ => 2

def tetherSession : List UplinkOp :=
  [⟨.addrAdd (.v4 1), mobileWan false, {}⟩, ⟨.downstreamAdd .v4, mobileWan false, {}⟩,
    ⟨.wanUpTether .v4 false, mobileWan true, {}⟩, ⟨.wanDownTether .v4 false, mobileWan false, {}⟩]

theorem tetherSession_offloaded :
    Always (step usbIface) Offloaded (initial usbIface (mobileWan false)) tetherSession := by
  refine (offloaded_iff_keepsUplink usbIface (mobileWan false) tetherSession ?_).mpr ?_
  · simp [tetherSession, Served]
  · refine ⟨fun _ iptype hwith => ?_, fun t ht => ?_⟩
    · cases iptype <;> revert hwith <;> decide
    cases ht
    refine ⟨nofun, fun t ht => ?_⟩
    cases ht
    refine ⟨fun _ _ _ _ => ⟨by decide, by decide⟩, fun t ht => ?_⟩
    cases ht
    exact ⟨fun _ _ _ _ => rfl, fun _ _ => trivial⟩

/-- The address arrives while the event that says so of the upstream is still queued: the flag is
set, and the event will find it set. -/
theorem polled_upstream_not_offloaded :
    ¬Always (step usbIface) Offloaded (initial usbIface (mobileWan false))
      [⟨.downstreamAdd .v4, mobileWan false, {}⟩, ⟨.addrAdd (.v4 1), mobileWan true, {}⟩] := by
  intro halways
  have hfirst := initial_sorted usbIface (mobileWan false)
  have hsorted : ((initial usbIface (mobileWan false)).downstreamAdd (mobileWan false) {} .v4).Sorted :=
    downstreamAdd_sorted hfirst fun _ hup => nomatch hup
  have htakes : ((initial usbIface (mobileWan false)).downstreamAdd (mobileWan false) {} .v4).takesAddr
      usbIface (.v4 1) = true := by
    decide
  have hbroken := addrAdd_broken (mobileWan true) usbIface .v4 hsorted htakes (by decide) (by decide)
  exact hbroken (halways.2 _ rfl |>.2 _ rfl)

end UplinkLan

end DeviceHal.Ipacm
