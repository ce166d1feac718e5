import DeviceHal.Ipacm.WlanFlags

namespace DeviceHal.Ipacm

open Lib WlanClient

universe v

namespace WlanSystem

variable {δ : Type v} {drv : NatDriver δ} {s t : WlanSystem δ} {mac : MacAddr} {c c' : WlanClient}
variable {left right : List WlanClient} {ip : UInt32}

/-- The address of a client that goes is taken out of the power-save list if no one else sleeps at it. -/
def LeavesNat (s : WlanSystem δ) (c : WlanClient) : Prop :=
  (c.v4Addr ∈ s.listener.natIfaceIpv4Addr → ¬s.OtherSleeps c.mac c.v4Addr) ∧
    (c.v4Addr ∉ s.listener.natIfaceIpv4Addr → c.powerSaveSet = true → s.OtherSleeps c.mac c.v4Addr)

/-- The new address of a client is in the list as it ought to be. -/
def JoinsNat (s : WlanSystem δ) (c : WlanClient) (l : Listener δ) (data : NeighEvent) : Prop :=
  (l.takesNeigh data → c.powerSaveSet = false ∧ ¬s.OtherSleeps c.mac data.ipv4Addr) ∧
    (¬l.takesNeigh data → c.powerSaveSet = true → s.OtherSleeps c.mac data.ipv4Addr)

/-- The listener after the old address of a client, if it has one. -/
def afterOld (drv : NatDriver δ) (s : WlanSystem δ) (c : WlanClient) : Listener δ :=
  if c.ipv4Set then s.listener.handleNeighIpAddrDelEvt drv c.v4Addr else s.listener

/-- An event keeps the power-save state right: the clients behind one that goes sleep as it does, no one
else sleeps at an address that is woken up, and a client that sleeps has no new address. -/
def KeepsPwrSave (drv : NatDriver δ) (s : WlanSystem δ) : WlanOp → Prop
  | .clientAdd _ _ => True
  | .clientDel mac =>
    (s.wlanClient.Pairwise fun a b => a.mac = mac → b.powerSaveSet = a.powerSaveSet) ∧
      ∀ c ∈ s.wlanClient, c.mac = mac → c.ipv4Set = true → s.LeavesNat c
  | .powerSave _ => True
  | .recover mac =>
    ∀ c ∈ s.wlanClient, c.mac = mac → c.powerSaveSet = true → c.ipv4Set = true → ¬s.OtherSleeps mac c.v4Addr
  | .neighClientIpAddrAdd mac (.v4 ip ifrName natIfaces) =>
    ∀ c ∈ s.wlanClient, c.mac = mac → ip ≠ 0 → ¬(c.ipv4Set = true ∧ ip = c.v4Addr) →
      (c.ipv4Set = true → s.LeavesNat c) ∧ s.JoinsNat c (s.afterOld drv c) ⟨ip, true, ifrName, natIfaces⟩
  | .neighClientIpAddrAdd _ (.v6 _ _) => True
  | .resetRtV6 => True

/-- A client is not added again before it is deleted. -/
def AddsNew (s : WlanSystem δ) : WlanOp → Prop
  | .clientAdd mac _ => ∀ c ∈ s.wlanClient, c.mac ≠ mac
  | _ => True

variable (drv) in
theorem afterOld_pwrIfs (h : s.Booked) (hc : c ∈ s.wlanClient) : (s.afterOld drv c).PwrIfs := by
  unfold afterOld
  split
  next hset =>
    exact (Listener.handleNeighIpAddrDelEvt_takesOut s.listener ((h.clients c hc).addr hset)).pwrIfs h.pwrIfs
  next => exact h.pwrIfs

theorem mem_afterOld (h : s.Booked) (hc : c ∈ s.wlanClient) {ip : UInt32} (hip : ip ≠ 0) :
    ip ∈ (s.afterOld drv c).pwrSaveIfs ↔ ip ∈ s.listener.pwrSaveIfs ∧
      ¬(c.ipv4Set = true ∧ ip = c.v4Addr ∧ c.v4Addr ∈ s.listener.natIfaceIpv4Addr) := by
  unfold afterOld
  cases hset : c.ipv4Set with
  | true =>
    rw [if_pos rfl, (Listener.handleNeighIpAddrDelEvt_takesOut s.listener ((h.clients c hc).addr hset)).mem
      h.pwrIfs ip hip]
    simp
  | false => simp

theorem leavesNat_iff (h : s.Booked) (hnat : s.NatRight) (hc : c ∈ s.wlanClient) :
    (∀ ip, ip ≠ 0 → (ip ∈ (s.afterOld drv c).pwrSaveIfs ↔ s.OtherSleeps c.mac ip)) ↔
      (c.ipv4Set = true → s.LeavesNat c) := by
  obtain ⟨left, right, hsplit⟩ := List.append_of_mem hc
  have hbefore := (natRight_split h hsplit).mp hnat
  constructor
  · intro hall hset
    have hip := (h.clients c hc).addr hset
    have hown := hall c.v4Addr hip
    rw [mem_afterOld h hc hip, hbefore _ hip] at hown
    refine ⟨fun hmem ho => ?_, fun hmem hsleep => ?_⟩
    · exact (hown.mpr ho).2 ⟨hset, rfl, hmem⟩
    · exact hown.mp ⟨.inl ⟨hsleep, hset, rfl⟩, fun hno => hmem hno.2.2⟩
  · intro hleaves ip hip
    rw [mem_afterOld h hc hip, hbefore ip hip]
    constructor
    · rintro ⟨⟨hsleep, hset, rfl⟩ | ho, hkeep⟩
      · exact (hleaves hset).2 (fun hmem => hkeep ⟨hset, rfl, hmem⟩) hsleep
      · exact ho
    · intro ho
      refine ⟨.inr ho, ?_⟩
      rintro ⟨hset, rfl, hmem⟩
      exact (hleaves hset).1 hmem ho

theorem kept_of_moved {next : WlanClient} (h : MovedTo s.tx next c') (hsleep : c'.powerSaveSet = next.powerSaveSet)
    (hkept : next.Kept) : c'.Kept := by
  refine ⟨fun hs => ?_, fun hs => ?_, fun hset => ?_⟩
  · rw [h.routeRuleSetV4, h.routeRuleSetV6]
    exact hkept.resting (hsleep.symm.trans hs)
  · rw [h.routeRuleSetV4, h.routeRuleSetV6, h.ipv4Set, h.ipv6Set]
    exact hkept.awake (hsleep.symm.trans hs)
  · rw [h.ipv4Set] at hset
    rw [h.v4Addr]
    exact hkept.addr hset

theorem clientDel_result (h : s.Booked) (hcell : s.wlanClient[s.getWlanClientIndex c.mac]? = some c)
    (hsplit : s.wlanClient = left ++ c :: right) (hidx : s.getWlanClientIndex c.mac = left.length) :
    ∃ (k : Handles WlanRtRule) (c₀ : WlanClient), s.handleWlanClientDownEvt drv c.mac =
        { s with routing := k, wlanClient := left ++ c₀.closeGap s.tx right, listener := s.afterOld drv c } ∧
      c₀.powerSaveSet = c.powerSaveSet ∧
      k.Books id fun rule hdl => ∃ a ∈ left ++ c₀.closeGap s.tx right, a.Holds s.tx rule hdl := by
  have hmacs := h.macs
  have hbooks := h.books
  have hclients := h.clients
  rw [hsplit] at hmacs hbooks hclients
  obtain ⟨⟨k₄, c₄⟩, he₄⟩ : ∃ r, c.deleteDefaultQosRtrules s.tx s.routing .v4 = r := ⟨_, rfl⟩
  obtain ⟨⟨k₆, c₆⟩, he₆⟩ : ∃ r, c₄.deleteDefaultQosRtrules s.tx k₄ .v6 = r := ⟨_, rfl⟩
  have hempty := deleteRules_both he₄ he₆
  refine ⟨k₆, { c₆ with ipv4Set := false, ipv6Set := 0, routeRuleSetV4 := false, routeRuleSetV6 := 0 }, ?_,
    hempty.addrs.powerSaveSet, ?_⟩
  · unfold handleWlanClientDownEvt
    dsimp only
    rw [hcell]
    dsimp only
    rw [he₄]
    dsimp only
    rw [he₆, hidx]
    dsimp only
    have htake : s.wlanClient.take left.length = left := by
      rw [hsplit]
      exact List.take_left' rfl
    have hdrop : s.wlanClient.drop (left.length + 1) = right := by
      rw [hsplit, ← List.drop_drop, List.drop_left' rfl]
      rfl
    rw [htake, hdrop]
    rfl
  · refine (books_replaced hmacs hbooks hempty.rules).congr (fun rule hdl => ?_) fun _ _ _ => rfl
    have hnone : ¬c₆.Holds s.tx rule hdl := by
      rintro ⟨-, ⟨-, hyes⟩ | hv6, -⟩
      · rw [hempty.routeRuleSetV4] at hyes
        cases hyes
      · rw [hempty.routeRuleSetV6] at hv6
        exact not_mem_rtSlots_v6_empty hv6
    have hgap := closeGap_moved s.tx
      { c₆ with ipv4Set := false, ipv6Set := 0, routeRuleSetV4 := false, routeRuleSetV6 := 0 } right
    simp only [List.mem_append, List.mem_cons, or_and_right, exists_or, exists_eq_left, hnone, false_or]
    refine or_congr_right ⟨?_, ?_⟩
    · rintro ⟨a, ha, hholds⟩
      obtain ⟨next, hnext, hmoved⟩ := forall₂_mem_right hgap ha
      have hkept := hclients next (mem_split.mpr (.inr (List.mem_append_right _ hnext)))
      exact ⟨next, hnext, (hmoved.holds hkept.le rule hdl).mp hholds⟩
    · rintro ⟨next, hnext, hholds⟩
      obtain ⟨a, ha, hmoved⟩ := forall₂_mem_left hgap hnext
      have hkept := hclients next (mem_split.mpr (.inr (List.mem_append_right _ hnext)))
      exact ⟨a, ha, (hmoved.holds hkept.le rule hdl).mpr hholds⟩

theorem clientDel_iff (h : s.Booked) (hstate : s.StateRight) (hnat : s.NatRight) (mac : MacAddr) :
    (KeepsPwrSave drv s (.clientDel mac) → (s.handleWlanClientDownEvt drv mac).Booked) ∧
      ((s.handleWlanClientDownEvt drv mac).StateRight ∧ (s.handleWlanClientDownEvt drv mac).NatRight ↔
        KeepsPwrSave drv s (.clientDel mac)) := by
  rcases s.client_cases mac with ⟨hnone, hne⟩ | ⟨c, left, right, hcell, rfl, hsplit, hidx⟩
  · have hsame : s.handleWlanClientDownEvt drv mac = s := by
      unfold handleWlanClientDownEvt
      dsimp only
      rw [hnone]
    rw [hsame]
    refine ⟨fun _ => h, fun _ => ⟨?_, fun c hc he => absurd he (hne c hc)⟩, fun _ => ⟨hstate, hnat⟩⟩
    exact List.pairwise_of_forall_mem_list fun a ha _ _ he => absurd he (hne a ha)
  · have hc : c ∈ s.wlanClient := hsplit ▸ mem_split.mpr (.inl rfl)
    have hmacs := h.macs
    have hroom := h.room
    have hclients := h.clients
    rw [hsplit] at hmacs hroom hclients
    have hothers := macs_split hmacs
    have hcond : KeepsPwrSave drv s (.clientDel c.mac) ↔
        (∀ a ∈ right, a.powerSaveSet = c.powerSaveSet) ∧ (c.ipv4Set = true → s.LeavesNat c) := by
      refine and_congr ?_ ⟨fun hall => hall c hc rfl, fun hone a ha he => ?_⟩
      · rw [hsplit, List.pairwise_append, List.pairwise_cons]
        constructor
        · grind
        · intro hsame
          refine ⟨?_, ⟨fun a ha _ => hsame a ha, ?_⟩, fun a ha b _ he => ?_⟩
          · exact List.pairwise_of_forall_mem_list fun a ha _ _ he =>
              absurd he (hothers a (List.mem_append_left _ ha))
          · exact List.pairwise_of_forall_mem_list fun a ha _ _ he =>
              absurd he (hothers a (List.mem_append_right _ ha))
          · exact absurd he (hothers a (List.mem_append_left _ ha))
      · rw [mac_unique h.macs hc ha he]
        exact hone
    obtain ⟨k, c₀, hresult, hsleep₀, hbooks⟩ := @clientDel_result δ drv s c left right h hcell hsplit hidx
    rw [hresult, hcond, ← hsleep₀]
    have hleft : ∀ a ∈ left, a.powerSaveSet = s.asleep a.mac := fun a ha =>
      hstate a (hsplit ▸ List.mem_append_left _ ha)
    have hright : ∀ a ∈ right, a.powerSaveSet = s.asleep a.mac := fun a ha =>
      hstate a (hsplit ▸ List.mem_append_right _ (List.mem_cons_of_mem c ha))
    have hstate' : StateRight { s with
        routing := k, wlanClient := left ++ c₀.closeGap s.tx right, listener := s.afterOld drv c } ↔
        ∀ a ∈ right, a.powerSaveSet = c₀.powerSaveSet := by
      refine Iff.trans ?_ (@closeGap_state s.tx s.asleep c₀ right hright)
      constructor
      · exact fun hall a ha => hall a (List.mem_append_right _ ha)
      · intro hgap a ha
        grind
    have hmoved := closeGap_moved s.tx c₀ right
    have hsame : (∀ a ∈ right, a.powerSaveSet = c₀.powerSaveSet) → ∀ a next, next ∈ right → a ∈ c₀.closeGap s.tx right →
        MovedTo s.tx next a → a.powerSaveSet = next.powerSaveSet := by
      intro hall a next hnext ha hm
      have hstateAfter := hstate'.mpr hall a (List.mem_append_right _ ha)
      rw [hstateAfter, hright next hnext]
      exact congrArg s.asleep hm.mac
    have hnat' : (∀ a ∈ right, a.powerSaveSet = c₀.powerSaveSet) → (NatRight { s with
        routing := k, wlanClient := left ++ c₀.closeGap s.tx right, listener := s.afterOld drv c } ↔
        (c.ipv4Set = true → s.LeavesNat c)) := by
      intro hall
      rw [← leavesNat_iff h hnat hc]
      refine forall_congr' fun ip => forall_congr' fun _ => iff_congr Iff.rfl ?_
      rw [otherSleeps_iff h hsplit]
      constructor
      · rintro ⟨a, ha, hs⟩
        rcases List.mem_append.mp ha with ha | ha
        · exact ⟨a, List.mem_append_left _ ha, hs⟩
        · obtain ⟨next, hnext, hm⟩ := forall₂_mem_right hmoved ha
          refine ⟨next, List.mem_append_right _ hnext, (hsame hall a next hnext ha hm).symm.trans hs.1, ?_, ?_⟩
          · exact hm.ipv4Set.symm.trans hs.2.1
          · exact hm.v4Addr.symm.trans hs.2.2
      · rintro ⟨next, hnext, hs⟩
        rcases List.mem_append.mp hnext with hnext | hnext
        · exact ⟨next, List.mem_append_left _ hnext, hs⟩
        · obtain ⟨a, ha, hm⟩ := forall₂_mem_left hmoved hnext
          refine ⟨a, List.mem_append_right _ ha, (hsame hall a next hnext ha hm).trans hs.1, ?_, ?_⟩
          · exact hm.ipv4Set.trans hs.2.1
          · exact hm.v4Addr.trans hs.2.2
    refine ⟨fun hgood => ⟨?_, ?_, fun a ha => ?_, hbooks, afterOld_pwrIfs drv h hc⟩, ?_⟩
    · change ((left ++ c₀.closeGap s.tx right).map fun c => c.mac).Nodup
      rw [List.map_append, closeGap_macs, ← List.map_append]
      rw [List.map_append, List.map_cons, List.nodup_middle, ← List.map_append, List.nodup_cons] at hmacs
      exact hmacs.2
    · change (left ++ c₀.closeGap s.tx right).length ≤ _
      have hlen := hmoved.length_eq
      simp only [List.length_append, List.length_cons] at hroom ⊢
      omega
    · rcases List.mem_append.mp ha with ha | ha
      · exact hclients a (List.mem_append_left _ ha)
      · obtain ⟨next, hnext, hm⟩ := forall₂_mem_right hmoved ha
        exact kept_of_moved hm (hsame hgood.1 a next hnext ha hm)
          (hclients next (List.mem_append_right _ (List.mem_cons_of_mem c hnext)))
    · rw [hstate']
      exact and_congr_right hnat'

theorem joinsNat_iff (h : s.Booked) (hnat : s.NatRight) (hc : c ∈ s.wlanClient) {data : NeighEvent}
    (hip : data.ipv4Addr ≠ 0) (hnew : ¬(c.ipv4Set = true ∧ data.ipv4Addr = c.v4Addr)) {l : Listener δ}
    (htakes : Listener.TakesOut (s.afterOld drv c) data.ipv4Addr ((s.afterOld drv c).takesNeigh data) l) :
    (∀ ip, ip ≠ 0 → (ip ∈ l.pwrSaveIfs ↔
        (c.powerSaveSet = true ∧ data.ipv4Addr = ip) ∨ s.OtherSleeps c.mac ip)) ↔
      (c.ipv4Set = true → s.LeavesNat c) ∧ s.JoinsNat c (s.afterOld drv c) data := by
  obtain ⟨left, right, hsplit⟩ := List.append_of_mem hc
  have hbefore := (natRight_split h hsplit).mp hnat
  have hifs := afterOld_pwrIfs drv h hc
  have hself : data.ipv4Addr ∈ (s.afterOld drv c).pwrSaveIfs ↔ s.OtherSleeps c.mac data.ipv4Addr := by
    rw [mem_afterOld h hc hip, hbefore _ hip]
    constructor
    · rintro ⟨⟨-, hset, he⟩ | ho, -⟩
      · exact absurd ⟨hset, he.symm⟩ hnew
      · exact ho
    · grind
  have hother : ∀ ip, ip ≠ 0 → ip ≠ data.ipv4Addr →
      ((ip ∈ l.pwrSaveIfs ↔ (c.powerSaveSet = true ∧ data.ipv4Addr = ip) ∨ s.OtherSleeps c.mac ip) ↔
        (ip ∈ (s.afterOld drv c).pwrSaveIfs ↔ s.OtherSleeps c.mac ip)) := by
    intro ip hip' hne
    rw [htakes.mem hifs ip hip']
    simp [hne, Ne.symm hne]
  have hown : (data.ipv4Addr ∈ l.pwrSaveIfs ↔
      (c.powerSaveSet = true ∧ data.ipv4Addr = data.ipv4Addr) ∨ s.OtherSleeps c.mac data.ipv4Addr) ↔
      s.JoinsNat c (s.afterOld drv c) data := by
    rw [htakes.mem hifs _ hip, hself]
    unfold JoinsNat
    cases c.powerSaveSet <;> by_cases ht : (s.afterOld drv c).takesNeigh data <;> simp [ht]
  rw [← leavesNat_iff h hnat hc]
  constructor
  · intro hall
    refine ⟨fun ip hip' => ?_, hown.mp (hall _ hip)⟩
    by_cases he : ip = data.ipv4Addr
    · rw [he]
      exact hself
    · exact (hother ip hip' he).mp (hall ip hip')
  grind

theorem newV4_none {ifrName : Option String} {natIfaces : List String}
    (hnew : s.handleWlanClientIpaddr drv c (.v4 ip ifrName natIfaces) = none) (hip : ip ≠ 0) :
    c.ipv4Set = true ∧ ip = c.v4Addr := by
  grind [handleWlanClientIpaddr]

theorem newV4_result (hkept : c.Kept) (hip : ip ≠ 0) {k' : Handles WlanRtRule} {listener : Listener δ}
    {ifrName : Option String} {natIfaces : List String}
    (hnew : s.handleWlanClientIpaddr drv c (.v4 ip ifrName natIfaces) = some (k', c', listener)) :
    ¬(c.ipv4Set = true ∧ ip = c.v4Addr) ∧ listener = s.afterOld drv c ∧
      RulesKept s.tx s.routing c (c'.handleWlanClientRouteRule s.tx k' .v4).1
        (c'.handleWlanClientRouteRule s.tx k' .v4).2 ∧
      (c'.handleWlanClientRouteRule s.tx k' .v4).2.Kept ∧ c'.powerSaveSet = c.powerSaveSet ∧ c'.ipv4Set = true ∧
      c'.v4Addr = ip := by
  unfold handleWlanClientIpaddr at hnew
  dsimp only at hnew
  rw [if_neg hip] at hnew
  unfold afterOld
  cases hset : c.ipv4Set with
  | false =>
    rw [if_pos hset] at hnew
    simp only [Option.some.injEq, Prod.mk.injEq] at hnew
    obtain ⟨rfl, rfl, rfl⟩ := hnew
    have h₄ : c.routeRuleSetV4 = false := by
      rw [hkept.flag_v4, hset, ite_self]
    obtain ⟨hrules, hafter⟩ := routeRule_v4_kept (.of_v4Addr h₄ ip true) h₄ hkept.flag_v6 hip rfl
    exact ⟨fun hno => (nomatch hno.1), rfl, hrules, hafter, rfl, rfl, rfl⟩
  | true =>
    rw [if_neg (by rw [hset]; decide)] at hnew
    split at hnew
    next => cases hnew
    next hne =>
      obtain ⟨⟨k₄, c₄⟩, he₄⟩ : ∃ r, c.deleteDefaultQosRtrules s.tx s.routing .v4 = r := ⟨_, rfl⟩
      have hrules₄ := deleteRules_kept s.tx s.routing c .v4
      have haddrs₄ := deleteRules_sameAddrs s.tx s.routing c .v4
      have hflags₄ := @deleteRules_v4_flags s.tx s.routing c
      rw [he₄] at hnew hrules₄ haddrs₄ hflags₄
      dsimp only at hnew hrules₄ haddrs₄ hflags₄
      simp only [Option.some.injEq, Prod.mk.injEq] at hnew
      obtain ⟨rfl, rfl, rfl⟩ := hnew
      have hsame : { c₄ with routeRuleSetV4 := false, v4Addr := ip } = { c₄ with v4Addr := ip, ipv4Set := true } := by
        rw [← hflags₄.1, ← haddrs₄.ipv4Set.trans hset]
      have h₆ : c₄.routeRuleSetV6 = if c₄.powerSaveSet then 0 else c₄.ipv6Set := by
        rw [hflags₄.2, haddrs₄.powerSaveSet, haddrs₄.ipv6Set]
        exact hkept.flag_v6
      rw [hsame]
      obtain ⟨hrules, hafter⟩ := routeRule_v4_kept (hrules₄.trans (.of_v4Addr hflags₄.1 ip true)) hflags₄.1 h₆ hip rfl
      exact ⟨fun hno => hne hno.2, rfl, hrules, hafter, haddrs₄.powerSaveSet, rfl, rfl⟩

theorem newV6_result (hkept : c.Kept) {ip : BitVec 128} {ipv6Prefix : BitVec 64} {k' : Handles WlanRtRule}
    {listener : Listener δ} (hnew : s.handleWlanClientIpaddr drv c (.v6 ip ipv6Prefix) = some (k', c', listener)) :
    listener = s.listener ∧
      RulesKept s.tx s.routing c (c'.handleWlanClientRouteRule s.tx k' .v6).1
        (c'.handleWlanClientRouteRule s.tx k' .v6).2 ∧
      (c'.handleWlanClientRouteRule s.tx k' .v6).2.Kept ∧ c'.powerSaveSet = c.powerSaveSet ∧
      c'.ipv4Set = c.ipv4Set ∧ c'.v4Addr = c.v4Addr := by
  unfold handleWlanClientIpaddr at hnew
  dsimp only at hnew
  split at hnew
  next => cases hnew
  next =>
    split at hnew
    next => cases hnew
    next =>
      split at hnew
      next => cases hnew
      next =>
        split at hnew
        next => cases hnew
        next =>
          simp only [Option.some.injEq, Prod.mk.injEq] at hnew
          obtain ⟨rfl, rfl, rfl⟩ := hnew
          obtain ⟨hrules, hafter⟩ := routeRule_v6_kept (.of_v6Addr hkept.le ip)
            (fun hsleep => ⟨fun _ => hkept.resting hsleep, fun hno => absurd (hsleep.symm.trans hno) nofun, hkept.addr⟩)
            (Nat.le_succ_of_le hkept.le) hkept.flag_v4 hkept.addr
          exact ⟨rfl, hrules, hafter, rfl, rfl, rfl⟩

theorem newAddr_settles (h : s.Booked) (hstate : s.StateRight) (hnat : s.NatRight) (mac : MacAddr) (data : ClientAddr) :
    Settles { s.handleNeighClientIpAddrAdd drv mac data with asleep := s.asleep } (KeepsPwrSave drv s (.neighClientIpAddrAdd mac data)) := by
  unfold handleNeighClientIpAddrAdd
  rcases s.client_cases mac with ⟨hnone, hne⟩ | ⟨c, left, right, hcell, rfl, hsplit, hidx⟩
  · dsimp only
    rw [hnone]
    refine (settles_same h hnat hstate).iff ⟨fun _ => ?_, fun _ => trivial⟩
    cases data with
    | v4 ip ifrName natIfaces => exact fun c hc he => absurd he (hne c hc)
    | v6 ip ipv6Prefix => trivial
  · have hc : c ∈ s.wlanClient := hsplit ▸ mem_split.mpr (.inl rfl)
    have hsplitNat := (natRight_split h hsplit).mp hnat
    dsimp only
    rw [hcell]
    dsimp only
    cases hnew : s.handleWlanClientIpaddr drv c data with
    | none =>
      refine (settles_same h hnat hstate).iff ⟨fun _ => ?_, fun _ => trivial⟩
      cases data with
      | v4 ip ifrName natIfaces =>
        intro a ha he hip hchanged
        rw [mac_unique h.macs hc ha he] at hchanged
        exact absurd (newV4_none hnew hip) hchanged
      | v6 ip ipv6Prefix => trivial
    | some r =>
      obtain ⟨k', c', listener⟩ := r
      dsimp only
      rw [hidx, storeClient_split hsplit]
      cases data with
      | v4 ip ifrName natIfaces =>
        have hip : ip ≠ 0 := by
          rintro rfl
          unfold handleWlanClientIpaddr at hnew
          cases hnew
        obtain ⟨hchanged, rfl, hrules, hkept, hsleep, hset, haddr⟩ := newV4_result (h.clients c hc) hip hnew
        have haddrs := routeRule_sameAddrs s.tx k' c' .v4
        have htakes := Listener.handleNeighIpAddrAddEvt_takesOut drv (s.afterOld drv c)
          ⟨ip, true, ifrName, natIfaces⟩ hip
        have hself : (c'.handleWlanClientRouteRule s.tx k' .v4).2.powerSaveSet = s.asleep c.mac :=
          (haddrs.powerSaveSet.trans hsleep).trans (hstate c hc)
        have hsleeps : ∀ x, (c'.handleWlanClientRouteRule s.tx k' .v4).2.SleepsAt x ↔
            c.powerSaveSet = true ∧ ip = x := by
          intro x
          unfold SleepsAt
          rw [haddrs.powerSaveSet, haddrs.ipv4Set, haddrs.v4Addr, hsleep, hset, haddr]
          exact ⟨fun hs => ⟨hs.1, hs.2.2⟩, fun hs => ⟨hs.1, rfl, hs.2⟩⟩
        refine (settles_replaced h hstate hsplit hrules hkept (htakes.pwrIfs (afterOld_pwrIfs drv h hc)) hself
          fun _ _ => rfl).iff ?_
        simp only [hsleeps]
        refine (joinsNat_iff h hnat hc hip hchanged htakes).trans ?_
        constructor
        · intro hgood a ha he _ _
          rw [mac_unique h.macs hc ha he]
          exact hgood
        · exact fun hall => hall c hc rfl hip hchanged
      | v6 ip ipv6Prefix =>
        obtain ⟨rfl, hrules, hkept, hsleep, hset, haddr⟩ := newV6_result (h.clients c hc) hnew
        have haddrs := routeRule_sameAddrs s.tx k' c' .v6
        have hself : (c'.handleWlanClientRouteRule s.tx k' .v6).2.powerSaveSet = s.asleep c.mac :=
          (haddrs.powerSaveSet.trans hsleep).trans (hstate c hc)
        refine (settles_replaced h hstate hsplit hrules hkept h.pwrIfs hself fun _ _ => rfl).iff
          ⟨fun _ => trivial, fun _ x hx => ?_⟩
        refine (hsplitNat x hx).trans (or_congr_left ?_)
        unfold SleepsAt
        rw [haddrs.powerSaveSet, haddrs.ipv4Set, haddrs.v4Addr, hsleep, hset, haddr]

theorem step_right (h : s.Booked) (hright : PwrSaveRight s) {op : WlanOp} (hnew : AddsNew s op) :
    ∃ t, step drv s op = some t ∧ (KeepsPwrSave drv s op → t.Booked ∧ PwrSaveRight t) ∧
      (¬KeepsPwrSave drv s op → ¬PwrSaveRight t) := by
  obtain ⟨hstate, hnat⟩ := (pwrSaveRight_iff h).mp hright
  have hsettles : ∀ {t : WlanSystem δ}, Settles t (KeepsPwrSave drv s op) →
      (KeepsPwrSave drv s op → t.Booked ∧ PwrSaveRight t) ∧ (¬KeepsPwrSave drv s op → ¬PwrSaveRight t) := by
    intro t ht
    refine ⟨fun hgood => ⟨ht.booked, (pwrSaveRight_iff ht.booked).mpr ⟨ht.state, ht.nat.mpr hgood⟩⟩, fun hbad hr => ?_⟩
    exact hbad (ht.nat.mp ((pwrSaveRight_iff ht.booked).mp hr).2)
  refine ⟨_, rfl, ?_⟩
  cases op with
  | clientAdd mac others => exact hsettles (clientAdd_settles h hstate hnat hnew others)
  | clientDel mac =>
    obtain ⟨hbooked, hiff⟩ := @clientDel_iff δ drv s h hstate hnat mac
    have hsame : { s.handleWlanClientDownEvt drv mac with asleep := s.asleep } = s.handleWlanClientDownEvt drv mac := by
      unfold handleWlanClientDownEvt
      dsimp only
      split <;> rfl
    change (_ → Booked { s.handleWlanClientDownEvt drv mac with asleep := s.asleep } ∧
      PwrSaveRight { s.handleWlanClientDownEvt drv mac with asleep := s.asleep }) ∧
      (_ → ¬PwrSaveRight { s.handleWlanClientDownEvt drv mac with asleep := s.asleep })
    rw [hsame]
    refine ⟨fun hgood => ⟨hbooked hgood, (pwrSaveRight_iff (hbooked hgood)).mpr (hiff.mpr hgood)⟩, fun hbad hr => ?_⟩
    exact hbad (hiff.mp ⟨hr.state, natRight_of_right hr⟩)
  | powerSave mac => exact hsettles (powerSave_settles h hstate hnat mac)
  | recover mac => exact hsettles (recover_settles h hstate hnat mac)
  | neighClientIpAddrAdd mac data => exact hsettles (newAddr_settles h hstate hnat mac data)
  | resetRtV6 => exact hsettles (resetRtV6_settles h hstate hnat)

def attach (tx : List IpaIpType) (listener : Listener δ) : WlanSystem δ := { tx, listener }

/-- Along a run the power-save state is right exactly if the list is empty at first and every event keeps it. -/
theorem pwrSaveRight_iff_keeps (drv : NatDriver δ) (tx : List IpaIpType) (listener : Listener δ) (ops : List WlanOp)
    (hlength : listener.natInst.pwrSaveIfs.length = ipaMaxNumWifiClients)
    (hnew : OpsMeet (step drv) AddsNew (attach tx listener) ops) :
    Always (step drv) PwrSaveRight (attach tx listener) ops ↔
      (∀ ip ∈ listener.natInst.pwrSaveIfs, ip = 0) ∧
        OpsMeet (step drv) (KeepsPwrSave drv) (attach tx listener) ops := by
  by_cases hempty : ∀ ip ∈ listener.natInst.pwrSaveIfs, ip = 0
  · have honce : Once listener.natInst.pwrSaveIfs := by
      intro ip hip
      rw [List.count_eq_zero.mpr fun hmem => hip (hempty ip hmem)]
      exact Nat.zero_le 1
    have hbooked : (attach tx listener).Booked := by
      refine ⟨List.nodup_nil, Nat.zero_le _, nofun, ⟨Nat.one_pos, rfl, fun _ _ => rfl, fun hdl rule => ?_⟩, honce, hlength⟩
      exact ⟨nofun, fun ⟨_, ⟨_, hc, _⟩, _⟩ => (nomatch hc)⟩
    have hright : PwrSaveRight (attach tx listener) := by
      refine (pwrSaveRight_iff hbooked).mpr ⟨nofun, fun ip hip => ⟨fun hmem => ?_, fun ⟨_, hc, _⟩ => (nomatch hc)⟩⟩
      exact absurd (hempty ip hmem) hip
    have hrun := @always_iff_of_keeps _ _ (step drv) AddsNew (fun s => s.Booked ∧ PwrSaveRight s) PwrSaveRight
      (KeepsPwrSave drv) (fun _ h => h.2) (fun s op t h hok hgood ht => ?_) (fun s op h hok hbad => ?_)
      (attach tx listener) ops ⟨hbooked, hright⟩ hnew
    · grind
    · obtain ⟨t', ht', hkeeps, -⟩ := @step_right δ drv s h.1 h.2 op hok
      grind
    · obtain ⟨t, ht, -, hbreaks⟩ := @step_right δ drv s h.1 h.2 op hok
      exact ⟨t, ht, hbreaks hbad⟩
  · refine ⟨fun hall => absurd (fun ip hmem => ?_) hempty, fun hno => absurd hno.1 hempty⟩
    by_contra hip
    obtain ⟨c, hc, -⟩ := (natRight_of_right hall.first ip hip).mp hmem
    cases hc

/-- The listener when the system starts, with an empty power-save list. -/
def restingListener : Listener Ledger :=
  Listener.init 0 false (NatApp.init 0 [] 0 (List.replicate ipaMaxNumWifiClients 0) {})

def phone : MacAddr := #v[6, 0, 0, 0, 0, 1]

def tablet : MacAddr := #v[6, 0, 0, 0, 0, 2]

/-- Two clients; the first one goes to sleep and wakes up. -/
theorem phoneSleeps_right : Always (step (ledgerDriver true 1)) PwrSaveRight (attach [.v4] restingListener)
    [.clientAdd phone 0, .clientAdd tablet 0, .powerSave phone, .resetRtV6, .recover phone] := by
  refine (pwrSaveRight_iff_keeps _ _ _ _ rfl ?_).mpr ⟨?_, ?_⟩
  · refine ⟨nofun, fun s hs => ⟨fun c hc => ?_, fun _ _ => ⟨trivial, fun _ _ => ⟨trivial, fun _ _ => ⟨trivial, fun _ _ => trivial⟩⟩⟩⟩⟩
    cases Option.some.inj hs
    rw [List.mem_singleton.mp hc]
    decide
  · exact fun ip hip => List.eq_of_mem_replicate hip
  · refine ⟨trivial, fun _ h₁ => ⟨trivial, fun _ h₂ => ⟨trivial, fun _ h₃ => ⟨trivial, fun s h₄ => ⟨?_, fun _ _ => trivial⟩⟩⟩⟩⟩
    cases Option.some.inj h₁
    cases Option.some.inj h₂
    cases Option.some.inj h₃
    cases Option.some.inj h₄
    intro c hc _ _ hset
    rcases List.mem_cons.mp hc with rfl | hc
    · cases hset
    · rw [List.mem_singleton.mp hc] at hset
      cases hset

/-- Two clients; the first one goes to sleep, and is deleted. -/
def sleeperLeaves : List WlanOp := [.clientAdd phone 0, .clientAdd tablet 0, .powerSave phone, .clientDel phone]

/-- The second client is taken to be asleep. -/
theorem sleeperLeaves_wrong :
    ¬Always (step (ledgerDriver true 1)) PwrSaveRight (attach [.v4] restingListener) sleeperLeaves := by
  intro h
  have hrun : ∃ s, runOps (step (ledgerDriver true 1)) (attach [.v4] restingListener) sleeperLeaves = some s ∧
      ∃ c ∈ s.wlanClient, c.powerSaveSet = true ∧ s.asleep c.mac = false :=
    ⟨_, rfl, _, List.mem_cons_self, rfl, rfl⟩
  obtain ⟨s, hs, c, hc, hsleep, hawake⟩ := hrun
  have hstate := (h.last hs).state c hc
  rw [hsleep, hawake] at hstate
  cases hstate

end WlanSystem

end DeviceHal.Ipacm
