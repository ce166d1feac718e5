import DeviceHal.Ipacm.WlanNat

namespace DeviceHal.Ipacm

open Lib

namespace WlanClient

variable {tx : List IpaIpType} {k : Handles WlanRtRule} {c c' next : WlanClient} {iptype : IpaIpType}

theorem routeRule_resting (hsleep : c.powerSaveSet = true) (iptype : IpaIpType) :
    c.handleWlanClientRouteRule tx k iptype = (k, c) := by
  cases iptype <;> exact if_pos hsleep

theorem routeRule_v4_flags (hawake : c.powerSaveSet = false) :
    (c.handleWlanClientRouteRule tx k .v4).2.routeRuleSetV4 = (c.routeRuleSetV4 || c.ipv4Set) ∧
      (c.handleWlanClientRouteRule tx k .v4).2.routeRuleSetV6 = c.routeRuleSetV6 := by
  have hadds := @addRtRules_adds k c _ (nodup_rtSlots tx 0 0 .v4)
  unfold handleWlanClientRouteRule
  dsimp only
  rw [if_neg (by rw [hawake]; exact Bool.false_ne_true)]
  split
  next hset =>
    rw [hset.1, hset.2, hadds.same]
    exact ⟨rfl, rfl⟩
  grind

theorem routeRule_v6_flags (hawake : c.powerSaveSet = false) (hle : c.routeRuleSetV6 ≤ c.ipv6Set) :
    (c.handleWlanClientRouteRule tx k .v6).2.routeRuleSetV6 = c.ipv6Set ∧
      (c.handleWlanClientRouteRule tx k .v6).2.routeRuleSetV4 = c.routeRuleSetV4 := by
  have hadds := @addRtRules_adds k c _ (nodup_rtSlots tx c.routeRuleSetV6 c.ipv6Set .v6)
  grind [handleWlanClientRouteRule, hadds.same]

theorem deleteRules_v4_flags : (c.deleteDefaultQosRtrules tx k .v4).2.routeRuleSetV4 = false ∧
    (c.deleteDefaultQosRtrules tx k .v4).2.routeRuleSetV6 = c.routeRuleSetV6 := by
  grind [deleteDefaultQosRtrules]

theorem Kept.le (h : c.Kept) : c.routeRuleSetV6 ≤ c.ipv6Set := by
  cases hsleep : c.powerSaveSet with
  | true =>
    rw [(h.resting hsleep).2]
    exact Nat.zero_le _
  | false => exact Nat.le_of_eq (h.awake hsleep).2

theorem RulesKept.of_addr (hmac : c'.mac = c.mac) (h₄ : c'.routeRuleSetV4 = c.routeRuleSetV4)
    (h₆ : c'.routeRuleSetV6 = c.routeRuleSetV6) (hhdl : c'.wifiRtHdl = c.wifiRtHdl)
    (haddr : ∀ slot, c.RuleSet tx slot → c'.addr slot.dst = c.addr slot.dst) : RulesKept tx k c k c' := by
  refine .of_holds hmac fun rule hdl => ?_
  have hset : c'.RuleSet tx rule.slot ↔ c.RuleSet tx rule.slot := by
    unfold RuleSet
    rw [h₄, h₆]
  unfold Holds
  grind

theorem RulesKept.of_v4Addr (h₄ : c.routeRuleSetV4 = false) (ip : UInt32) (set : Bool) :
    RulesKept tx k c k { c with v4Addr := ip, ipv4Set := set } := by
  refine .of_addr rfl rfl rfl rfl fun slot hset => ?_
  rcases hset with ⟨-, hyes⟩ | hv6
  · rw [h₄] at hyes
    cases hyes
  · obtain ⟨-, num, -, -, hdst | hdst⟩ := mem_rtSlots_v6.mp hv6
    · rw [hdst]
      rfl
    · rw [hdst]
      rfl

theorem RulesKept.of_v6Addr (hle : c.routeRuleSetV6 ≤ c.ipv6Set) (ip : BitVec 128) :
    RulesKept tx k c k
      { c with v6Addr := Function.update c.v6Addr c.ipv6Set ip, ipv6Set := c.ipv6Set + 1 } := by
  refine .of_addr rfl rfl rfl rfl fun slot hset => ?_
  rcases hset with ⟨hv4, -⟩ | hv6
  · rw [(mem_rtSlots_v4.mp hv4).2]
    rfl
  · obtain ⟨-, num, -, hlt, hdst⟩ := mem_rtSlots_v6.mp hv6
    have hother : Function.update c.v6Addr c.ipv6Set ip num = c.v6Addr num := Function.update_of_ne (by omega) ..
    rcases hdst with hdst | hdst
    · rw [hdst]
      exact congrArg IfaceAddr.v6 hother
    · rw [hdst]
      exact congrArg IfaceAddr.v6 hother

theorem RulesKept.of_sleep (b : Bool) : RulesKept tx k c k { c with powerSaveSet := b } :=
  .of_addr rfl rfl rfl rfl fun _ _ => rfl

/-- All rules of a client are deleted. -/
structure Emptied (tx : List IpaIpType) (k : Handles WlanRtRule) (c : WlanClient) (k' : Handles WlanRtRule)
    (c' : WlanClient) : Prop where
  rules : RulesKept tx k c k' c'
  addrs : SameAddrs c c'
  routeRuleSetV4 : c'.routeRuleSetV4 = false
  routeRuleSetV6 : c'.routeRuleSetV6 = 0

theorem deleteRules_both {k₄ k₆ : Handles WlanRtRule} {c₄ c₆ : WlanClient}
    (h₄ : c.deleteDefaultQosRtrules tx k .v4 = (k₄, c₄)) (h₆ : c₄.deleteDefaultQosRtrules tx k₄ .v6 = (k₆, c₆)) :
    Emptied tx k c k₆ c₆ := by
  have hrules₄ := deleteRules_kept tx k c .v4
  have haddrs₄ := deleteRules_sameAddrs tx k c .v4
  have hflags₄ := @deleteRules_v4_flags tx k c
  have hrules₆ := deleteRules_kept tx k₄ c₄ .v6
  have haddrs₆ := deleteRules_sameAddrs tx k₄ c₄ .v6
  rw [h₄] at hrules₄ haddrs₄ hflags₄
  rw [h₆] at hrules₆ haddrs₆
  refine ⟨hrules₄.trans hrules₆, haddrs₄.trans haddrs₆, ?_, ?_⟩
  · cases h₆
    exact hflags₄.1
  · cases h₆
    rfl

variable {k' : Handles WlanRtRule}

theorem Emptied.kept (h : Emptied tx k c k' c') (haddr : c.ipv4Set = true → c.v4Addr ≠ 0) :
    { c' with powerSaveSet := true : WlanClient }.Kept := by
  refine ⟨fun _ => ⟨h.routeRuleSetV4, h.routeRuleSetV6⟩, nofun, fun hset => ?_⟩
  have hold : c.ipv4Set = true := h.addrs.ipv4Set.symm.trans hset
  exact fun hz => haddr hold (h.addrs.v4Addr.symm.trans hz)

theorem routeRule_if_sameAddrs {cond : Prop} [Decidable cond]
    (h : (if cond then c.handleWlanClientRouteRule tx k iptype else (k, c)) = (k', c')) : SameAddrs c c' := by
  have haddrs := routeRule_sameAddrs tx k c iptype
  split at h
  next =>
    rw [h] at haddrs
    exact haddrs
  next =>
    cases h
    exact .refl c

/-- A client that wakes up gets the rules of all its addresses. -/
structure Woken (tx : List IpaIpType) (k : Handles WlanRtRule) (c : WlanClient) (k' : Handles WlanRtRule)
    (c' : WlanClient) : Prop where
  rules : RulesKept tx k c k' c'
  addrs : SameAddrs { c with powerSaveSet := false } c'
  kept : c'.Kept

theorem recover_woken (h : c.Kept) (hsleep : c.powerSaveSet = true) {k₄ k₆ : Handles WlanRtRule}
    {c₀ c₄ c₆ : WlanClient} (h₀ : c₀ = { c with powerSaveSet := false })
    (h₄ : (if c₀.ipv4Set then c₀.handleWlanClientRouteRule tx k .v4 else (k, c₀)) = (k₄, c₄))
    (h₆ : (if c₄.ipv6Set ≠ 0 then c₄.handleWlanClientRouteRule tx k₄ .v6 else (k₄, c₄)) = (k₆, c₆)) :
    Woken tx k c k₆ c₆ := by
  obtain ⟨hflag₄, hflag₆⟩ := h.resting hsleep
  have hawake₀ : c₀.powerSaveSet = false := by rw [h₀]
  have hrules₀ : RulesKept tx k c k c₀ := h₀ ▸ .of_sleep false
  have haddr₀ : c₀.ipv4Set = true → c₀.v4Addr ≠ 0 := by
    rw [h₀]
    exact h.addr
  have hfirst : RulesKept tx k c₀ k₄ c₄ ∧ SameAddrs c₀ c₄ ∧ c₄.routeRuleSetV4 = c₀.ipv4Set ∧ c₄.routeRuleSetV6 = 0 := by
    have hrules := routeRule_kept tx k c₀ .v4
    have haddrs := routeRule_sameAddrs tx k c₀ .v4
    have hflags := @routeRule_v4_flags tx k c₀ hawake₀
    cases hset : c₀.ipv4Set with
    | true =>
      grind
    | false =>
      rw [hset, if_neg Bool.false_ne_true] at h₄
      cases h₄
      rw [h₀]
      exact ⟨.refl .., .refl _, hflag₄, hflag₆⟩
  obtain ⟨hrules₄, haddrs₄, hset₄, hset₆⟩ := hfirst
  have hawake₄ : c₄.powerSaveSet = false := haddrs₄.powerSaveSet.trans hawake₀
  have hrules := routeRule_kept tx k₄ c₄ .v6
  have haddrs := routeRule_sameAddrs tx k₄ c₄ .v6
  have hflags := @routeRule_v6_flags tx k₄ c₄ hawake₄ (hset₆ ▸ Nat.zero_le _)
  have hlast : RulesKept tx k₄ c₄ k₆ c₆ ∧ SameAddrs c₄ c₆ ∧ c₆.routeRuleSetV4 = c₄.routeRuleSetV4 ∧
      c₆.routeRuleSetV6 = c₄.ipv6Set := by
    by_cases hnum : c₄.ipv6Set = 0
    · rw [if_neg (not_not.mpr hnum)] at h₆
      cases h₆
      exact ⟨.refl .., .refl _, rfl, hset₆.trans hnum.symm⟩
    · grind
  obtain ⟨hrules₆, haddrs₆, hflags₆⟩ := hlast
  have hall := haddrs₄.trans haddrs₆
  refine ⟨(hrules₀.trans hrules₄).trans hrules₆, h₀ ▸ hall, fun hyes => ?_, fun _ => ⟨?_, ?_⟩, fun hset => ?_⟩
  · rw [hall.powerSaveSet, hawake₀] at hyes
    cases hyes
  · rw [hflags₆.1, hset₄, hall.ipv4Set]
  · rw [hflags₆.2, haddrs₆.ipv6Set]
  · rw [hall.ipv4Set] at hset
    rw [hall.v4Addr]
    exact haddr₀ hset

theorem routeRule_v4_kept (hrules : RulesKept tx k c k' c') (h₄ : c'.routeRuleSetV4 = false)
    (h₆ : c'.routeRuleSetV6 = if c'.powerSaveSet then 0 else c'.ipv6Set) (hip : c'.v4Addr ≠ 0)
    (hset : c'.ipv4Set = true) :
    RulesKept tx k c (c'.handleWlanClientRouteRule tx k' .v4).1 (c'.handleWlanClientRouteRule tx k' .v4).2 ∧
      (c'.handleWlanClientRouteRule tx k' .v4).2.Kept := by
  have haddrs := routeRule_sameAddrs tx k' c' .v4
  refine ⟨hrules.trans (routeRule_kept tx k' c' .v4), ?_⟩
  cases hsleep : c'.powerSaveSet with
  | true =>
    rw [routeRule_resting hsleep]
    rw [hsleep] at h₆
    refine ⟨fun _ => ⟨h₄, h₆⟩, fun hno => ?_, fun _ => hip⟩
    rw [hsleep] at hno
    cases hno
  | false =>
    obtain ⟨hflag₄, hflag₆⟩ := @routeRule_v4_flags tx k' c' hsleep
    rw [hsleep] at h₆
    refine ⟨fun hyes => ?_, fun _ => ⟨?_, ?_⟩, fun _ => ?_⟩
    · rw [haddrs.powerSaveSet, hsleep] at hyes
      cases hyes
    · rw [hflag₄, haddrs.ipv4Set, hset, Bool.or_true]
    · rw [hflag₆, haddrs.ipv6Set]
      exact h₆
    · rw [haddrs.v4Addr]
      exact hip

theorem routeRule_v6_kept (hrules : RulesKept tx k c k' c')
    (hresting : c'.powerSaveSet = true → c'.Kept) (hle : c'.routeRuleSetV6 ≤ c'.ipv6Set)
    (h₄ : c'.routeRuleSetV4 = if c'.powerSaveSet then false else c'.ipv4Set)
    (hip : c'.ipv4Set = true → c'.v4Addr ≠ 0) :
    RulesKept tx k c (c'.handleWlanClientRouteRule tx k' .v6).1 (c'.handleWlanClientRouteRule tx k' .v6).2 ∧
      (c'.handleWlanClientRouteRule tx k' .v6).2.Kept := by
  have haddrs := routeRule_sameAddrs tx k' c' .v6
  refine ⟨hrules.trans (routeRule_kept tx k' c' .v6), ?_⟩
  cases hsleep : c'.powerSaveSet with
  | true =>
    rw [routeRule_resting hsleep]
    exact hresting hsleep
  | false =>
    obtain ⟨hflag₆, hflag₄⟩ := @routeRule_v6_flags tx k' c' hsleep hle
    rw [hsleep] at h₄
    refine ⟨fun hyes => ?_, fun _ => ⟨?_, ?_⟩, fun hset => ?_⟩
    · rw [haddrs.powerSaveSet, hsleep] at hyes
      cases hyes
    · rw [hflag₄, haddrs.ipv4Set]
      exact h₄
    · rw [hflag₆, haddrs.ipv6Set]
    · rw [haddrs.ipv4Set] at hset
      rw [haddrs.v4Addr]
      exact hip hset

theorem Kept.flag_v4 (h : c.Kept) : c.routeRuleSetV4 = if c.powerSaveSet then false else c.ipv4Set := by
  cases hsleep : c.powerSaveSet with
  | true => exact (h.resting hsleep).1
  | false => exact (h.awake hsleep).1

theorem Kept.flag_v6 (h : c.Kept) : c.routeRuleSetV6 = if c.powerSaveSet then 0 else c.ipv6Set := by
  cases hsleep : c.powerSaveSet with
  | true => exact (h.resting hsleep).2
  | false => exact (h.awake hsleep).2

theorem copyFrom_holds (hle : next.routeRuleSetV6 ≤ next.ipv6Set) (rule : WlanRtRule) (hdl : Nat) :
    (c.copyFrom tx next).Holds tx rule hdl ↔ next.Holds tx rule hdl := by
  have hset : (c.copyFrom tx next).RuleSet tx rule.slot ↔ next.RuleSet tx rule.slot := Iff.rfl
  have hplace : next.RuleSet tx rule.slot → (c.copyFrom tx next).addr rule.slot.dst = next.addr rule.slot.dst ∧
      (c.copyFrom tx next).wifiRtHdl rule.slot = next.wifiRtHdl rule.slot := by
    rintro (⟨hv4, -⟩ | hv6)
    · obtain ⟨htx, hdst⟩ := mem_rtSlots_v4.mp hv4
      have hlt := (List.getElem?_eq_some_iff.mp htx).1
      constructor
      · rw [hdst]
        rfl
      · simp only [copyFrom, if_pos hlt, hdst]
    · obtain ⟨htx, num, -, hnum, hdst⟩ := mem_rtSlots_v6.mp hv6
      have hlt := (List.getElem?_eq_some_iff.mp htx).1
      have hnum' : num < next.ipv6Set := Nat.lt_of_lt_of_le hnum hle
      rcases hdst with hdst | hdst
      · rw [hdst]
        simp only [copyFrom, addr, if_pos hlt, hdst, if_pos hnum, if_pos hnum', and_self]
      · rw [hdst]
        simp only [copyFrom, addr, if_pos hlt, hdst, if_pos hnum, if_pos hnum', and_self]
  unfold Holds
  rw [hset]
  constructor
  · rintro ⟨hclient, hr, ha, hg⟩
    rw [(hplace hr).1] at ha
    rw [(hplace hr).2] at hg
    exact ⟨hclient, hr, ha, hg⟩
  · rintro ⟨hclient, hr, ha, hg⟩
    rw [← (hplace hr).1] at ha
    rw [← (hplace hr).2] at hg
    exact ⟨hclient, hr, ha, hg⟩

/-- A client in the slot before its own, with the sleep state of that slot. -/
structure MovedTo (tx : List IpaIpType) (next c' : WlanClient) : Prop where
  mac : c'.mac = next.mac
  v4Addr : c'.v4Addr = next.v4Addr
  ipv4Set : c'.ipv4Set = next.ipv4Set
  ipv6Set : c'.ipv6Set = next.ipv6Set
  routeRuleSetV4 : c'.routeRuleSetV4 = next.routeRuleSetV4
  routeRuleSetV6 : c'.routeRuleSetV6 = next.routeRuleSetV6
  holds : next.routeRuleSetV6 ≤ next.ipv6Set → ∀ rule hdl, c'.Holds tx rule hdl ↔ next.Holds tx rule hdl

theorem closeGap_moved (tx : List IpaIpType) (c : WlanClient) (clients : List WlanClient) :
    List.Forall₂ (MovedTo tx) clients (c.closeGap tx clients) := by
  induction clients generalizing c with
  | nil => exact List.Forall₂.nil
  | cons next clients ih =>
    exact List.Forall₂.cons ⟨rfl, rfl, rfl, rfl, rfl, rfl, fun hle => copyFrom_holds hle⟩ (ih next)

theorem closeGap_macs (tx : List IpaIpType) (c : WlanClient) (clients : List WlanClient) :
    (c.closeGap tx clients).map (fun c => c.mac) = clients.map fun c => c.mac := by
  induction clients generalizing c with
  | nil => rfl
  | cons next clients ih => exact congrArg (next.mac :: ·) (ih next)

theorem closeGap_state (asleep : MacAddr → Bool) (c : WlanClient) (clients : List WlanClient)
    (h : ∀ a ∈ clients, a.powerSaveSet = asleep a.mac) :
    (∀ a ∈ c.closeGap tx clients, a.powerSaveSet = asleep a.mac) ↔
      ∀ a ∈ clients, a.powerSaveSet = c.powerSaveSet := by
  induction clients generalizing c with
  | nil => exact ⟨fun _ => nofun, fun _ => nofun⟩
  | cons next clients ih =>
    obtain ⟨hnext, hrest⟩ := List.forall_mem_cons.mp h
    have hgap : c.closeGap tx (next :: clients) = c.copyFrom tx next :: next.closeGap tx clients := rfl
    have hself : (c.copyFrom tx next).powerSaveSet = asleep (c.copyFrom tx next).mac ↔
        next.powerSaveSet = c.powerSaveSet := by
      rw [hnext]
      exact eq_comm
    rw [hgap, List.forall_mem_cons, List.forall_mem_cons, ih next hrest, hself]
    refine and_congr_right fun he => ?_
    rw [he]

end WlanClient

open Lib WlanClient

universe v

namespace WlanSystem

variable {δ : Type v} {drv : NatDriver δ} {s t : WlanSystem δ} {mac : MacAddr} {c c' : WlanClient}
variable {left right : List WlanClient} {ip : UInt32}

/-- Another client is in power save with the address. -/
def OtherSleeps (s : WlanSystem δ) (mac : MacAddr) (ip : UInt32) : Prop :=
  ∃ a ∈ s.wlanClient, a.mac ≠ mac ∧ a.SleepsAt ip

theorem otherSleeps_iff (h : s.Booked) (hsplit : s.wlanClient = left ++ c :: right) :
    s.OtherSleeps c.mac ip ↔ ∃ a ∈ left ++ right, a.SleepsAt ip := by
  have hmacs := h.macs
  rw [hsplit] at hmacs
  unfold OtherSleeps
  rw [hsplit]
  constructor
  · grind
  · rintro ⟨a, ha, hsleeps⟩
    exact ⟨a, mem_split.mpr (.inr ha), macs_split hmacs a ha, hsleeps⟩

theorem natRight_split (h : s.Booked) (hsplit : s.wlanClient = left ++ c :: right) :
    s.NatRight ↔ ∀ ip, ip ≠ 0 → (ip ∈ s.listener.pwrSaveIfs ↔ c.SleepsAt ip ∨ s.OtherSleeps c.mac ip) := by
  unfold NatRight
  refine forall_congr' fun ip => forall_congr' fun _ => ?_
  rw [otherSleeps_iff h hsplit, hsplit]
  simp only [mem_split, or_and_right, exists_or, exists_eq_left]

/-- What an event does: `cond` is when the power-save list is right after it. -/
structure Settles (t : WlanSystem δ) (cond : Prop) : Prop where
  booked : t.Booked
  state : t.StateRight
  nat : t.NatRight ↔ cond

theorem Settles.iff {cond cond' : Prop} (h : Settles t cond) (hcond : cond ↔ cond') : Settles t cond' :=
  ⟨h.booked, h.state, h.nat.trans hcond⟩

theorem settles_replaced (h : s.Booked) (hstate : s.StateRight) (hsplit : s.wlanClient = left ++ c :: right)
    {k : Handles WlanRtRule} (hrules : RulesKept s.tx s.routing c k c') (hkept : c'.Kept) {listener : Listener δ}
    (hlist : listener.PwrIfs) {asleep : MacAddr → Bool} (hself : c'.powerSaveSet = asleep c.mac)
    (hothers : ∀ m, m ≠ c.mac → asleep m = s.asleep m) :
    Settles { s.replaced left right k c' listener with asleep }
      (∀ ip, ip ≠ 0 → (ip ∈ listener.pwrSaveIfs ↔ c'.SleepsAt ip ∨ s.OtherSleeps c.mac ip)) := by
  have hbooked := h.replaced hsplit hrules hkept hlist
  have hmacs := h.macs
  rw [hsplit] at hmacs
  refine ⟨⟨hbooked.macs, hbooked.room, hbooked.clients, hbooked.books, hbooked.pwrIfs⟩, fun a ha => ?_, ?_⟩
  · rcases mem_split.mp ha with rfl | ha
    · exact hself.trans (congrArg asleep hrules.mac.symm)
    · have hold := hstate a (hsplit ▸ mem_split.mpr (.inr ha))
      exact hold.trans (hothers a.mac (macs_split hmacs a ha)).symm
  · have hthis := natRight_split hbooked (c := c') rfl
    refine Iff.trans hthis ?_
    have hsame : ∀ ip, (s.replaced left right k c' listener).OtherSleeps c'.mac ip ↔ s.OtherSleeps c.mac ip :=
      fun ip => (otherSleeps_iff hbooked rfl).trans (otherSleeps_iff h hsplit).symm
    simp only [hsame]
    exact Iff.rfl

theorem set_split (left right : List WlanClient) (c c' : WlanClient) :
    (left ++ c :: right).set left.length c' = left ++ c' :: right := by
  simp

theorem storeClient_split (hsplit : s.wlanClient = left ++ c :: right) (k : Handles WlanRtRule) (c' : WlanClient)
    (listener : Listener δ) :
    s.storeClient left.length k c' listener = s.replaced left right k c' listener := by
  unfold storeClient replaced
  rw [hsplit, set_split]

theorem settles_same (h : s.Booked) (hnat : s.NatRight) {asleep : MacAddr → Bool}
    (hstate : ∀ a ∈ s.wlanClient, a.powerSaveSet = asleep a.mac) : Settles { s with asleep } True :=
  ⟨⟨h.macs, h.room, h.clients, h.books, h.pwrIfs⟩, hstate, fun _ => trivial, fun _ => hnat⟩

theorem state_update_of_ne (hstate : s.StateRight) (hne : ∀ c ∈ s.wlanClient, c.mac ≠ mac) (b : Bool) :
    ∀ a ∈ s.wlanClient, a.powerSaveSet = Function.update s.asleep mac b a.mac :=
  fun a ha => (hstate a ha).trans (Function.update_of_ne (hne a ha) ..).symm

theorem state_update_self (h : s.Booked) (hstate : s.StateRight) (hc : c ∈ s.wlanClient) {b : Bool}
    (hsleep : c.powerSaveSet = b) : ∀ a ∈ s.wlanClient, a.powerSaveSet = Function.update s.asleep c.mac b a.mac := by
  intro a ha
  by_cases he : a.mac = c.mac
  · rw [he, Function.update_self, mac_unique h.macs hc ha he]
    exact hsleep
  · rw [Function.update_of_ne he]
    exact hstate a ha

theorem not_sleepsAt (hawake : c.powerSaveSet = false) : ¬c.SleepsAt ip := by
  intro hs
  have hsleep := hs.1
  rw [hawake] at hsleep
  cases hsleep

theorem room_of_awake (h : s.Booked) (hnat : s.NatRight) (hc : c ∈ s.wlanClient) (hawake : c.powerSaveSet = false) :
    0 ∈ s.listener.pwrSaveIfs := by
  by_contra hfull
  have hne : ∀ ip ∈ s.listener.pwrSaveIfs, ip ≠ 0 := fun ip hip he => hfull (he ▸ hip)
  have hnodup : s.listener.pwrSaveIfs.Nodup := by
    refine List.nodup_iff_count_le_one.mpr fun ip => ?_
    by_cases hz : ip = 0
    · rw [hz, List.count_eq_zero.mpr hfull]
      exact Nat.zero_le 1
    · exact h.pwrIfs.once ip hz
  obtain ⟨left, right, hsplit⟩ := List.append_of_mem hc
  have hsub : s.listener.pwrSaveIfs ⊆ (left ++ right).map fun a => a.v4Addr := by
    intro ip hip
    rcases ((natRight_split h hsplit).mp hnat ip (hne ip hip)).mp hip with ⟨hsleep, -⟩ | hother
    · rw [hawake] at hsleep
      cases hsleep
    · obtain ⟨a, ha, -, -, haddr⟩ := (otherSleeps_iff h hsplit).mp hother
      exact List.mem_map.mpr ⟨a, ha, haddr⟩
  have hle := (hnodup.subperm hsub).length_le
  have hroom := h.room
  grind [h.pwrIfs.length, List.length_map, List.length_append, List.length_cons]

theorem powerSave_settles (h : s.Booked) (hstate : s.StateRight) (hnat : s.NatRight) (mac : MacAddr) :
    Settles { s.handleWlanClientPwrsave drv mac with asleep := Function.update s.asleep mac true } True := by
  unfold handleWlanClientPwrsave
  rcases s.client_cases mac with ⟨hnone, hne⟩ | ⟨c, left, right, hcell, rfl, hsplit, hidx⟩
  · dsimp only
    rw [hnone]
    exact settles_same h hnat (state_update_of_ne hstate hne true)
  · have hc : c ∈ s.wlanClient := hsplit ▸ mem_split.mpr (.inl rfl)
    dsimp only
    rw [hcell]
    dsimp only
    cases hsleep : c.powerSaveSet with
    | true =>
      rw [if_pos rfl]
      exact settles_same h hnat (state_update_self h hstate hc hsleep)
    | false =>
      rw [if_neg Bool.false_ne_true, hidx, storeClient_split hsplit]
      obtain ⟨⟨k₄, c₄⟩, he₄⟩ : ∃ r, c.deleteDefaultQosRtrules s.tx s.routing .v4 = r := ⟨_, rfl⟩
      obtain ⟨⟨k₆, c₆⟩, he₆⟩ : ∃ r, c₄.deleteDefaultQosRtrules s.tx k₄ .v6 = r := ⟨_, rfl⟩
      rw [he₄]
      dsimp only
      rw [he₆]
      dsimp only
      have hempty := deleteRules_both he₄ he₆
      have hkept := hempty.kept (h.clients c hc).addr
      have hrules := hempty.rules.trans (RulesKept.of_sleep true)
      have hsplitNat := (natRight_split h hsplit).mp hnat
      have hself : ({ c₆ with powerSaveSet := true } : WlanClient).powerSaveSet =
          Function.update s.asleep c.mac true c.mac := (Function.update_self c.mac true s.asleep).symm
      have hsleeps : ∀ ip, ({ c₆ with powerSaveSet := true } : WlanClient).SleepsAt ip ↔
          c.ipv4Set = true ∧ c.v4Addr = ip := by
        intro ip
        rw [← hempty.addrs.ipv4Set, ← hempty.addrs.v4Addr]
        exact ⟨fun hs => hs.2, fun hs => ⟨rfl, hs⟩⟩
      have hbefore : ∀ ip, ip ≠ 0 → (ip ∈ s.listener.pwrSaveIfs ↔ s.OtherSleeps c.mac ip) := by
        intro ip hip
        rw [hsplitNat ip hip]
        exact ⟨fun ho => ho.resolve_left (not_sleepsAt hsleep), .inr⟩
      cases hset : c.ipv4Set with
      | false =>
        rw [if_neg Bool.false_ne_true]
        refine (settles_replaced h hstate hsplit hrules hkept h.pwrIfs hself
          fun m hm => Function.update_of_ne hm ..).iff ⟨fun _ => trivial, fun _ ip hip => ?_⟩
        rw [hbefore ip hip, hsleeps, hset]
        simp
      | true =>
        rw [if_pos rfl]
        obtain ⟨hlist, hmem⟩ := @Listener.updatePwrSaveIf_mem δ drv _ s.listener h.pwrIfs ((h.clients c hc).addr hset)
          (room_of_awake h hnat hc hsleep)
        refine (settles_replaced h hstate hsplit hrules hkept hlist hself
          fun m hm => Function.update_of_ne hm ..).iff ⟨fun _ => trivial, fun _ ip hip => ?_⟩
        refine (hmem ip hip).trans ?_
        rw [hbefore ip hip, hsleeps, hset]
        simp [eq_comm, or_comm]

theorem recover_settles (h : s.Booked) (hstate : s.StateRight) (hnat : s.NatRight) (mac : MacAddr) :
    Settles { s.handleWlanClientRecover drv mac with asleep := Function.update s.asleep mac false }
      (∀ c ∈ s.wlanClient, c.mac = mac → c.powerSaveSet = true → c.ipv4Set = true → ¬s.OtherSleeps mac c.v4Addr) := by
  unfold handleWlanClientRecover
  rcases s.client_cases mac with ⟨hnone, hne⟩ | ⟨c, left, right, hcell, rfl, hsplit, hidx⟩
  · dsimp only
    rw [hnone]
    refine (settles_same h hnat (state_update_of_ne hstate hne false)).iff ?_
    grind
  · have hc : c ∈ s.wlanClient := hsplit ▸ mem_split.mpr (.inl rfl)
    have honly : (∀ a ∈ s.wlanClient, a.mac = c.mac → a.powerSaveSet = true → a.ipv4Set = true →
        ¬s.OtherSleeps c.mac a.v4Addr) ↔
          (c.powerSaveSet = true → c.ipv4Set = true → ¬s.OtherSleeps c.mac c.v4Addr) := by
      refine ⟨fun hall => hall c hc rfl, fun hone a ha he => ?_⟩
      rw [mac_unique h.macs hc ha he]
      exact hone
    dsimp only
    rw [hcell]
    dsimp only
    cases hsleep : c.powerSaveSet with
    | false =>
      rw [if_neg Bool.false_ne_true]
      refine (settles_same h hnat (state_update_self h hstate hc hsleep)).iff ?_
      rw [honly, hsleep]
      exact ⟨fun _ => nofun, fun _ => trivial⟩
    | true =>
      rw [if_pos rfl, hidx]
      obtain ⟨⟨k₄, c₄⟩, he₄⟩ : ∃ r, (if ({ c with powerSaveSet := false } : WlanClient).ipv4Set then
        ({ c with powerSaveSet := false } : WlanClient).handleWlanClientRouteRule s.tx s.routing .v4
        else (s.routing, { c with powerSaveSet := false })) = r := ⟨_, rfl⟩
      obtain ⟨⟨k₆, c₆⟩, he₆⟩ : ∃ r, (if c₄.ipv6Set ≠ 0 then c₄.handleWlanClientRouteRule s.tx k₄ .v6
        else (k₄, c₄)) = r := ⟨_, rfl⟩
      have hwoken := recover_woken (h.clients c hc) hsleep rfl he₄ he₆
      rw [he₄]
      dsimp only
      rw [he₆]
      dsimp only
      rw [storeClient_split hsplit, honly]
      have haddrs₄ := routeRule_if_sameAddrs he₄
      have hawake₆ : c₆.powerSaveSet = false := hwoken.addrs.powerSaveSet
      have hself : c₆.powerSaveSet = Function.update s.asleep c.mac false c.mac :=
        hawake₆.trans (Function.update_self c.mac false s.asleep).symm
      have hsplitNat := (natRight_split h hsplit).mp hnat
      rw [haddrs₄.ipv4Set, haddrs₄.v4Addr]
      dsimp only
      cases hset : c.ipv4Set with
      | false =>
        rw [if_neg Bool.false_ne_true]
        refine (settles_replaced h hstate hsplit hwoken.rules hwoken.kept h.pwrIfs hself
          fun m hm => Function.update_of_ne hm ..).iff ⟨fun _ _ => nofun, fun _ ip hip => ?_⟩
        rw [hsplitNat ip hip]
        refine or_congr_left ⟨fun hs => ?_, fun hs => absurd hs (not_sleepsAt hawake₆)⟩
        have hyes := hs.2.1
        rw [hset] at hyes
        cases hyes
      | true =>
        rw [if_pos rfl]
        have hip₀ := (h.clients c hc).addr hset
        have htakes := @Listener.resetPwrSaveIf_takesOut δ drv c.v4Addr s.listener hip₀
        refine (settles_replaced h hstate hsplit hwoken.rules hwoken.kept (htakes.pwrIfs h.pwrIfs) hself
          fun m hm => Function.update_of_ne hm ..).iff ?_
        constructor
        · intro hall _ _ hother
          have hgone := (htakes.mem h.pwrIfs c.v4Addr hip₀).mp ((hall c.v4Addr hip₀).mpr (.inr hother))
          exact hgone.2 ⟨rfl, trivial⟩
        · intro hno ip hip
          rw [htakes.mem h.pwrIfs ip hip, hsplitNat ip hip]
          constructor
          · rintro ⟨hs | ho, hne⟩
            · exact absurd ⟨hs.2.2.symm, trivial⟩ hne
            · exact .inr ho
          · rintro (hs | ho)
            · exact absurd hs (not_sleepsAt hawake₆)
            grind

theorem clientAdd_settles (h : s.Booked) (hstate : s.StateRight) (hnat : s.NatRight)
    (hnew : ∀ c ∈ s.wlanClient, c.mac ≠ mac) (others : Nat) :
    Settles { s.handleWlanClientInitEx mac others with asleep := Function.update s.asleep mac false } True := by
  have hold := state_update_of_ne hstate hnew false
  unfold handleWlanClientInitEx
  split
  next => exact settles_same h hnat hold
  next hroom =>
    split
    next => exact settles_same h hnat hold
    next =>
      have hempty : ∀ rule hdl, ¬({ mac } : WlanClient).Holds s.tx rule hdl := by
        rintro rule hdl ⟨-, ⟨-, hno⟩ | hv6, -⟩
        · cases hno
        · exact not_mem_rtSlots_v6_empty hv6
      refine ⟨⟨?_, ?_, fun c hc => ?_, ?_, h.pwrIfs⟩, fun c hc => ?_, fun _ => trivial, fun _ ip hip => ?_⟩
      · change ((s.wlanClient ++ [({ mac } : WlanClient)]).map fun c => c.mac).Nodup
        rw [List.map_append, List.nodup_append]
        refine ⟨h.macs, List.nodup_singleton _, fun m hm m' hm' => ?_⟩
        grind
      · grind
      · rcases List.mem_append.mp hc with hc | hc
        · exact h.clients c hc
        · rw [List.mem_singleton.mp hc]
          exact ⟨nofun, fun _ => ⟨rfl, rfl⟩, nofun⟩
      · refine h.books.congr (fun rule hdl => ?_) fun _ _ _ => rfl
        grind
      · grind
      · have hawake : ¬({ mac } : WlanClient).SleepsAt ip := not_sleepsAt rfl
        refine (hnat ip hip).trans ?_
        grind

theorem resetClient_kept (hkept : c.Kept) (k : Handles WlanRtRule) (tx : List IpaIpType) :
    RulesKept tx k c (c.deleteDefaultQosRtrules tx k .v6).1
        { (c.deleteDefaultQosRtrules tx k .v6).2 with ipv6Set := 0 } ∧
      { (c.deleteDefaultQosRtrules tx k .v6).2 with ipv6Set := 0 : WlanClient }.Kept := by
  refine ⟨(deleteRules_kept tx k c .v6).trans (.of_addr rfl rfl rfl rfl fun _ _ => rfl), ?_⟩
  refine ⟨fun hs => ⟨(hkept.resting hs).1, rfl⟩, fun hs => ⟨(hkept.awake hs).1, rfl⟩, hkept.addr⟩

theorem resetRtV6_settles (h : s.Booked) (hstate : s.StateRight) (hnat : s.NatRight) :
    Settles (s.handleWlanClientResetRt) True := by
  have hloop := forCells_each
    (fun (clients : List WlanClient) (k : Handles WlanRtRule) => (clients.map fun c => c.mac).Nodup ∧
      (∀ c ∈ clients, c.Kept) ∧ k.Books id fun rule hdl => ∃ c ∈ clients, c.Holds s.tx rule hdl)
    (fun (c c' : WlanClient) => c'.mac = c.mac ∧ c'.powerSaveSet = c.powerSaveSet ∧ ∀ ip, c'.SleepsAt ip ↔ c.SleepsAt ip)
    (f := fun c k => ({ (c.deleteDefaultQosRtrules s.tx k .v6).2 with ipv6Set := 0 },
      (c.deleteDefaultQosRtrules s.tx k .v6).1)) ?_ ⟨h.macs, h.clients, h.books⟩
  · obtain ⟨⟨hmacs, hclients, hbooks⟩, heach⟩ := hloop
    refine ⟨⟨hmacs, ?_, hclients, hbooks, h.pwrIfs⟩, fun c' hc' => ?_, fun _ => trivial, fun _ ip hip => ?_⟩
    · exact le_of_eq_of_le (forCells_length _ _) h.room
    · obtain ⟨c, hc, hmac, hsleep, -⟩ := forall₂_mem_right heach hc'
      exact (hsleep.trans (hstate c hc)).trans (congrArg s.asleep hmac.symm)
    · refine (hnat ip hip).trans ⟨fun hold => ?_, fun hnew => ?_⟩
      · obtain ⟨c, hc, hs⟩ := hold
        obtain ⟨c', hc', -, -, hiff⟩ := forall₂_mem_left heach hc
        exact ⟨c', hc', (hiff ip).mpr hs⟩
      · obtain ⟨c', hc', hs⟩ := hnew
        obtain ⟨c, hc, -, -, hiff⟩ := forall₂_mem_right heach hc'
        exact ⟨c, hc, (hiff ip).mp hs⟩
  · rintro left c right k ⟨hmacs, hclients, hbooks⟩
    obtain ⟨hrules, hkept⟩ := resetClient_kept (hclients c (mem_split.mpr (.inl rfl))) k s.tx
    refine ⟨⟨?_, fun a ha => ?_, books_replaced hmacs hbooks hrules⟩, rfl, rfl, fun ip => Iff.rfl⟩
    · rw [List.map_append, List.map_cons] at hmacs ⊢
      exact hmacs
    grind

end WlanSystem

end DeviceHal.Ipacm
