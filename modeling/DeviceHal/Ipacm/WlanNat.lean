import DeviceHal.Ipacm.PwrSave
import DeviceHal.Ipacm.WlanClient

namespace DeviceHal.Ipacm

open Lib

universe u v

variable {κ : Type u} {δ : Type v} {drv : NatDriver δ} {ip x : UInt32}

def Once (ifs : List UInt32) : Prop := ∀ ip, ip ≠ 0 → ifs.count ip ≤ 1

variable {ifs : List UInt32}

theorem Once.clear (h : Once ifs) (hip : ip ≠ 0) :
    Once (ifs.set (ifs.findIdx (· = ip)) 0) ∧
      ∀ x, x ≠ 0 → (x ∈ ifs.set (ifs.findIdx (· = ip)) 0 ↔ x ∈ ifs ∧ x ≠ ip) := by
  cases hcell : ifs[ifs.findIdx (· = ip)]? with
  | none =>
    have hnone := findIdx_none hcell
    rw [List.set_eq_of_length_le (List.getElem?_eq_none_iff.mp hcell)]
    grind
  | some a =>
    obtain rfl : a = ip := of_decide_eq_true (findIdx_split hcell).1
    obtain ⟨rest, hperm, hset⟩ := set_findIdx_perm hcell
    have hnot : a ∉ rest := by
      have hle := h a hip
      rw [hperm.count_eq, List.count_cons_self] at hle
      exact List.count_eq_zero.mp (by omega)
    constructor
    · intro x hx
      rw [(hset 0).count_eq, List.count_cons_of_ne (Ne.symm hx)]
      have hle := h x hx
      rw [hperm.count_eq, List.count_cons] at hle
      omega
    · intro x hx
      rw [(hset 0).mem_iff, hperm.mem_iff, List.mem_cons, List.mem_cons]
      grind

theorem Once.store (h : Once ifs) (hroom : 0 ∈ ifs) (hnew : ip ∉ ifs) :
    Once (ifs.set (ifs.findIdx (· = 0)) ip) ∧
      ∀ x, x ≠ 0 → (x ∈ ifs.set (ifs.findIdx (· = 0)) ip ↔ x ∈ ifs ∨ x = ip) := by
  cases hcell : ifs[ifs.findIdx (· = 0)]? with
  | none => grind
  | some a =>
    obtain rfl : a = 0 := of_decide_eq_true (findIdx_split hcell).1
    obtain ⟨rest, hperm, hset⟩ := set_findIdx_perm hcell
    constructor
    · intro x hx
      have hle := h x hx
      rw [hperm.count_eq, List.count_cons_of_ne (Ne.symm hx)] at hle
      rw [(hset ip).count_eq, List.count_cons]
      split
      next he =>
        grind
      next => omega
    · intro x hx
      rw [(hset ip).mem_iff, hperm.mem_iff, List.mem_cons, List.mem_cons]
      grind

namespace NatApp

variable {a : NatApp κ δ}

theorem addEntry_pwrSaveIfs (a : NatApp κ δ) (rule : NatTableEntry κ) :
    (a.addEntry drv rule).2.pwrSaveIfs = a.pwrSaveIfs := by
  rcases a.addEntry_cases drv rule with hsame | ⟨-, e, -, hout⟩
  · rw [hsame]
  · generalize a.addEntry drv rule = r at hout ⊢
    cases hout <;> rfl

theorem flushTempEntries_pwrSaveIfs (a : NatApp κ δ) (ip : UInt32) (isAdd isDummy : Bool) :
    (a.flushTempEntries drv ip isAdd isDummy).pwrSaveIfs = a.pwrSaveIfs := by
  refine forCells_invariant (fun _ (b : NatApp κ δ) => b.pwrSaveIfs = a.pwrSaveIfs) (fun pre e post b h => ?_) rfl
  unfold flushTempEntry
  split
  next =>
    split
    next =>
      dsimp only
      generalize (if isDummy = true then _ else e) = e'
      split
      next => exact (addEntry_pwrSaveIfs b e').trans h
      next => exact (addEntry_pwrSaveIfs b e').trans h
    next => exact h
  next => exact h

theorem delEntriesOnClntDiscon_pwrSaveIfs (a : NatApp κ δ) (hip : ip ≠ 0) :
    (a.delEntriesOnClntDiscon drv ip).2.pwrSaveIfs = a.pwrSaveIfs.set (a.pwrSaveIfs.findIdx (· = ip)) 0 := by
  unfold delEntriesOnClntDiscon
  rw [if_neg hip]
  rfl

theorem resetPwrSaveIf_pwrSaveIfs (a : NatApp κ δ) (hip : ip ≠ 0) :
    (a.resetPwrSaveIf drv ip).2.pwrSaveIfs = a.pwrSaveIfs.set (a.pwrSaveIfs.findIdx (· = ip)) 0 := by
  unfold resetPwrSaveIf
  rw [if_neg hip]
  rfl

variable (drv) in
theorem updatePwrSaveIf_pwrSaveIfs (a : NatApp κ δ) (hip : ip ≠ 0) :
    (a.updatePwrSaveIf drv ip).2.pwrSaveIfs =
      if ip ∈ a.pwrSaveIfs then a.pwrSaveIfs else a.pwrSaveIfs.set (a.pwrSaveIfs.findIdx (· = 0)) ip := by
  unfold updatePwrSaveIf
  rw [if_neg hip]
  by_cases hmem : ip ∈ a.pwrSaveIfs
  · simp [if_pos hmem]
  · rw [if_neg hmem, if_neg]
    · rfl
    grind

end NatApp

namespace Listener

def pwrSaveIfs (l : Listener δ) : List UInt32 := l.natInst.pwrSaveIfs

variable {l : Listener δ}

/-- The list of a listener is right for its cells. -/
structure PwrIfs (l : Listener δ) : Prop where
  once : Once l.pwrSaveIfs
  length : l.pwrSaveIfs.length = ipaMaxNumWifiClients

/-- What is left of the list: an address is taken out of it, if `taken`. -/
structure TakesOut (l : Listener δ) (ip : UInt32) (taken : Prop) (l' : Listener δ) : Prop where
  pwrIfs : l.PwrIfs → l'.PwrIfs
  mem : l.PwrIfs → ∀ x, x ≠ 0 → (x ∈ l'.pwrSaveIfs ↔ x ∈ l.pwrSaveIfs ∧ ¬(x = ip ∧ taken))

theorem TakesOut.none {l' : Listener δ} (h : l'.pwrSaveIfs = l.pwrSaveIfs) {taken : Prop} (hno : ¬taken) :
    TakesOut l ip taken l' := by
  refine ⟨fun hl => ⟨h ▸ hl.once, h ▸ hl.length⟩, fun _ x _ => ?_⟩
  grind

theorem TakesOut.clear {l' : Listener δ} (hip : ip ≠ 0)
    (h : l'.pwrSaveIfs = l.pwrSaveIfs.set (l.pwrSaveIfs.findIdx (· = ip)) 0) {taken : Prop} (hyes : taken) :
    TakesOut l ip taken l' := by
  refine ⟨fun hl => ⟨?_, ?_⟩, fun hl x hx => ?_⟩
  · rw [h]
    exact (hl.once.clear hip).1
  · rw [h, List.length_set]
    exact hl.length
  · rw [h, (hl.once.clear hip).2 x hx]
    grind

theorem resetPwrSaveIf_takesOut (l : Listener δ) (hip : ip ≠ 0) :
    TakesOut l ip True { l with natInst := (l.natInst.resetPwrSaveIf drv ip).2 } := by
  refine TakesOut.clear hip ?_ trivial
  exact NatApp.resetPwrSaveIf_pwrSaveIfs l.natInst hip

theorem updatePwrSaveIf_mem (h : l.PwrIfs) (hip : ip ≠ 0) (hroom : 0 ∈ l.pwrSaveIfs) :
    ({ l with natInst := (l.natInst.updatePwrSaveIf drv ip).2 } : Listener δ).PwrIfs ∧
      ∀ x, x ≠ 0 → (x ∈ (l.natInst.updatePwrSaveIf drv ip).2.pwrSaveIfs ↔ x ∈ l.pwrSaveIfs ∨ x = ip) := by
  have hifs := NatApp.updatePwrSaveIf_pwrSaveIfs drv l.natInst hip
  by_cases hmem : ip ∈ l.natInst.pwrSaveIfs
  · rw [if_pos hmem] at hifs
    refine ⟨⟨?_, ?_⟩, fun x _ => ?_⟩
    · unfold pwrSaveIfs
      rw [hifs]
      exact h.once
    · unfold pwrSaveIfs
      rw [hifs]
      exact h.length
    · rw [hifs]
      exact ⟨.inl, fun hx => hx.elim id fun he => he ▸ hmem⟩
  · rw [if_neg hmem] at hifs
    obtain ⟨honce, hstored⟩ := h.once.store hroom hmem
    refine ⟨⟨?_, ?_⟩, fun x hx => ?_⟩
    · unfold pwrSaveIfs
      rw [hifs]
      exact honce
    · unfold pwrSaveIfs
      rw [hifs, List.length_set]
      exact h.length
    · rw [hifs]
      exact hstored x hx

/-- The event is of a NAT interface, and there is a cell for its address. -/
def takesNeigh (l : Listener δ) (data : NeighEvent) : Prop :=
  checkNatIface data = some true ∧ (data.ipv4Addr ∈ l.natIfaceIpv4Addr ∨ 0 ∈ l.natIfaceIpv4Addr)

variable (drv) in
theorem handleNeighIpAddrAddEvt_takesOut (l : Listener δ) (data : NeighEvent) (hip : data.ipv4Addr ≠ 0) :
    TakesOut l data.ipv4Addr (l.takesNeigh data) (l.handleNeighIpAddrAddEvt drv data) := by
  unfold handleNeighIpAddrAddEvt
  split
  next hnat =>
    dsimp only
    split
    next hlt =>
      obtain ⟨addr, hmem, haddr⟩ := List.findIdx_lt_length.mp hlt
      refine TakesOut.clear hip ?_ ⟨hnat, ?_⟩
      · exact (NatApp.flushTempEntries_pwrSaveIfs _ _ _ _).trans (l.natInst.resetPwrSaveIf_pwrSaveIfs hip)
      grind
    next hge =>
      refine TakesOut.none rfl ?_
      rintro ⟨-, hmem | hmem⟩
      · grind
      grind
  next hno => exact TakesOut.none rfl fun ht => hno ht.1

theorem TakesOut.trans {l₁ l₂ : Listener δ} {taken taken' : Prop} (h : TakesOut l ip taken l₁)
    (h' : TakesOut l₁ ip taken' l₂) : TakesOut l ip (taken ∨ taken') l₂ := by
  refine ⟨fun hl => h'.pwrIfs (h.pwrIfs hl), fun hl x hx => ?_⟩
  rw [h'.mem (h.pwrIfs hl) x hx, h.mem hl x hx]
  tauto

theorem handleNeighIpAddrDelEvt_takesOut (l : Listener δ) (hip : ip ≠ 0) :
    TakesOut l ip (ip ∈ l.natIfaceIpv4Addr) (l.handleNeighIpAddrDelEvt drv ip) := by
  unfold handleNeighIpAddrDelEvt
  rw [if_neg hip]
  have hloop : ∀ (addrs : List UInt32) (l₁ : Listener δ), TakesOut l₁ ip (ip ∈ addrs)
      { l₁ with natInst := (forCells (fun addr (natInst : NatApp Conntrack δ) =>
        if addr = ip then
          (0, ((natInst.flushTempEntries drv ip false false).delEntriesOnClntDiscon drv ip).2)
        else (addr, natInst)) addrs l₁.natInst).2 } := by
    intro addrs
    induction addrs with
    | nil => exact fun l₁ => TakesOut.none rfl List.not_mem_nil
    | cons addr addrs ih =>
      intro l₁
      simp only [forCells]
      by_cases he : addr = ip
      · simp only [if_pos he]
        have hfirst : TakesOut l₁ ip (ip = addr) { l₁ with
            natInst := ((l₁.natInst.flushTempEntries drv ip false false).delEntriesOnClntDiscon drv ip).2 } := by
          refine TakesOut.clear hip ?_ he.symm
          refine (NatApp.delEntriesOnClntDiscon_pwrSaveIfs _ hip).trans ?_
          rw [NatApp.flushTempEntries_pwrSaveIfs]
          rfl
        rw [List.mem_cons]
        exact hfirst.trans (ih _)
      grind
  have hall := hloop l.natIfaceIpv4Addr l
  exact ⟨fun hl => ⟨(hall.pwrIfs hl).once, (hall.pwrIfs hl).length⟩, fun hl x hx => hall.mem hl x hx⟩

end Listener

end DeviceHal.Ipacm

namespace DeviceHal.Ipacm

open Lib

universe v

namespace WlanClient

variable {tx : List IpaIpType} {k : Handles WlanRtRule} {c : WlanClient} {iptype : IpaIpType}

/-- The places for the rules of the recorded addresses. -/
def Wants (tx : List IpaIpType) (c : WlanClient) (slot : RtSlot) : Prop :=
  slot ∈ rtSlots tx 0 0 .v4 ∧ c.ipv4Set = true ∨ slot ∈ rtSlots tx 0 c.ipv6Set .v6

def SleepsAt (c : WlanClient) (ip : UInt32) : Prop := c.powerSaveSet = true ∧ c.ipv4Set = true ∧ c.v4Addr = ip

/-- The flags of a client say that it has no rules in power save, and else those of all its addresses. -/
structure Kept (c : WlanClient) : Prop where
  resting : c.powerSaveSet = true → c.routeRuleSetV4 = false ∧ c.routeRuleSetV6 = 0
  awake : c.powerSaveSet = false → c.routeRuleSetV4 = c.ipv4Set ∧ c.routeRuleSetV6 = c.ipv6Set
  addr : c.ipv4Set = true → c.v4Addr ≠ 0

theorem Kept.ruleSet_iff (h : c.Kept) (slot : RtSlot) :
    c.RuleSet tx slot ↔ c.powerSaveSet = false ∧ c.Wants tx slot := by
  unfold RuleSet Wants
  cases hsleep : c.powerSaveSet with
  | true =>
    obtain ⟨h₄, h₆⟩ := h.resting hsleep
    rw [h₄, h₆]
    constructor
    · rintro (⟨-, hno⟩ | hv6)
      · cases hno
      · exact absurd hv6 not_mem_rtSlots_v6_empty
    · rintro ⟨hno, -⟩
      cases hno
  | false =>
    obtain ⟨h₄, h₆⟩ := h.awake hsleep
    rw [h₄, h₆]
    exact ⟨fun hw => ⟨rfl, hw⟩, And.right⟩

/-- No handler of the rules touches the addresses and the sleep state. -/
structure SameAddrs (c c' : WlanClient) : Prop where
  mac : c'.mac = c.mac
  v4Addr : c'.v4Addr = c.v4Addr
  ipv4Set : c'.ipv4Set = c.ipv4Set
  ipv6Set : c'.ipv6Set = c.ipv6Set
  powerSaveSet : c'.powerSaveSet = c.powerSaveSet

theorem SameAddrs.refl (c : WlanClient) : SameAddrs c c := ⟨rfl, rfl, rfl, rfl, rfl⟩

theorem SameAddrs.trans {c' c'' : WlanClient} (h : SameAddrs c c') (h' : SameAddrs c' c'') : SameAddrs c c'' :=
  ⟨h'.mac.trans h.mac, h'.v4Addr.trans h.v4Addr, h'.ipv4Set.trans h.ipv4Set, h'.ipv6Set.trans h.ipv6Set,
    h'.powerSaveSet.trans h.powerSaveSet⟩

theorem Adds.sameAddrs {slots : List RtSlot} {k' : Handles WlanRtRule} {c' : WlanClient} (h : Adds k c slots k' c') :
    SameAddrs c c' := by
  rw [h.same]
  exact ⟨rfl, rfl, rfl, rfl, rfl⟩

theorem routeRule_sameAddrs (tx : List IpaIpType) (k : Handles WlanRtRule) (c : WlanClient) (iptype : IpaIpType) :
    SameAddrs c (c.handleWlanClientRouteRule tx k iptype).2 := by
  cases iptype with
  | v4 =>
    unfold handleWlanClientRouteRule
    dsimp only
    split
    next => exact .refl c
    next =>
      split
      next =>
        have hadds := (@addRtRules_adds k c _ (nodup_rtSlots tx 0 0 .v4)).sameAddrs
        exact ⟨hadds.mac, hadds.v4Addr, hadds.ipv4Set, hadds.ipv6Set, hadds.powerSaveSet⟩
      next => exact .refl c
  | v6 =>
    unfold handleWlanClientRouteRule
    dsimp only
    split
    next => exact .refl c
    next =>
      split
      next =>
        have hadds := (@addRtRules_adds k c _ (nodup_rtSlots tx c.routeRuleSetV6 c.ipv6Set .v6)).sameAddrs
        exact ⟨hadds.mac, hadds.v4Addr, hadds.ipv4Set, hadds.ipv6Set, hadds.powerSaveSet⟩
      next => exact .refl c

theorem deleteRules_sameAddrs (tx : List IpaIpType) (k : Handles WlanRtRule) (c : WlanClient) (iptype : IpaIpType) :
    SameAddrs c (c.deleteDefaultQosRtrules tx k iptype).2 := by
  cases iptype with
  | v4 =>
    unfold deleteDefaultQosRtrules
    dsimp only
    split
    next => exact ⟨rfl, rfl, rfl, rfl, rfl⟩
    next => exact .refl c
  | v6 => exact ⟨rfl, rfl, rfl, rfl, rfl⟩

end WlanClient

variable {δ : Type v} {drv : NatDriver δ}

/-- A client is taken to be in power save as its events say; it has exactly the rules of its recorded
addresses while it is not, and none while it is; and `NatApp` knows the addresses in power save. -/
structure PwrSaveRight (s : WlanSystem δ) : Prop where
  state : ∀ c ∈ s.wlanClient, c.powerSaveSet = s.asleep c.mac
  rules : ∀ c ∈ s.wlanClient, ∀ rule hdl, rule.client = c.mac →
    (s.routing.installed hdl = some rule ↔ s.asleep c.mac = false ∧ c.Wants s.tx rule.slot ∧
      rule.addr = c.addr rule.slot.dst ∧ hdl = c.wifiRtHdl rule.slot)
  nat : ∀ ip, s.listener.natInst.isPwrSaveIf ip = true ↔
    ∃ c ∈ s.wlanClient, s.asleep c.mac = true ∧ c.ipv4Set = true ∧ c.v4Addr = ip

namespace WlanSystem

variable {s : WlanSystem δ} {mac : MacAddr} {c c' : WlanClient} {left right : List WlanClient}

/-- What all events keep as long as the sleep states are right. -/
structure Booked (s : WlanSystem δ) : Prop where
  macs : (s.wlanClient.map fun c => c.mac).Nodup
  room : s.wlanClient.length ≤ ipaMaxNumWifiClients
  clients : ∀ c ∈ s.wlanClient, c.Kept
  books : s.routing.Books id fun rule hdl => ∃ c ∈ s.wlanClient, c.Holds s.tx rule hdl
  pwrIfs : s.listener.PwrIfs

def StateRight (s : WlanSystem δ) : Prop := ∀ c ∈ s.wlanClient, c.powerSaveSet = s.asleep c.mac

def NatRight (s : WlanSystem δ) : Prop :=
  ∀ ip, ip ≠ 0 → (ip ∈ s.listener.pwrSaveIfs ↔ ∃ c ∈ s.wlanClient, c.SleepsAt ip)

theorem mac_unique (h : (s.wlanClient.map fun c => c.mac).Nodup) (hc : c ∈ s.wlanClient) (hc' : c' ∈ s.wlanClient)
    (he : c'.mac = c.mac) : c' = c := List.inj_on_of_nodup_map h hc' hc he

theorem natRight_of_right (h : PwrSaveRight s) : s.NatRight := by
  intro ip hip
  have hnat := h.nat ip
  rw [isPwrSaveIf_iff] at hnat
  constructor
  · intro hmem
    obtain ⟨c, hc, hsleep, hset, haddr⟩ := hnat.mp ⟨hip, hmem⟩
    exact ⟨c, hc, (h.state c hc).trans hsleep, hset, haddr⟩
  · rintro ⟨c, hc, hsleep, hset, haddr⟩
    exact (hnat.mpr ⟨c, hc, (h.state c hc).symm.trans hsleep, hset, haddr⟩).2

theorem pwrSaveRight_iff (h : s.Booked) : PwrSaveRight s ↔ s.StateRight ∧ s.NatRight := by
  constructor
  · exact fun hright => ⟨hright.state, natRight_of_right hright⟩
  · rintro ⟨hstate, hnat⟩
    refine ⟨hstate, fun c hc rule hdl hclient => ?_, fun ip => ?_⟩
    · rw [h.books.installed_iff, ← hstate c hc]
      constructor
      · rintro ⟨rule', ⟨c', hc', hmac, hset, haddr, hhdl⟩, rfl⟩
        rw [mac_unique h.macs hc hc' (hmac.symm.trans hclient)] at hset haddr hhdl
        obtain ⟨hawake, hwants⟩ := ((h.clients c hc).ruleSet_iff rule'.slot).mp hset
        exact ⟨hawake, hwants, haddr, hhdl⟩
      · rintro ⟨hawake, hwants, haddr, hhdl⟩
        exact ⟨rule, ⟨c, hc, hclient, ((h.clients c hc).ruleSet_iff rule.slot).mpr ⟨hawake, hwants⟩, haddr, hhdl⟩, rfl⟩
    · rw [isPwrSaveIf_iff]
      constructor
      · rintro ⟨hip, hmem⟩
        obtain ⟨c, hc, hsleep, hset, haddr⟩ := (hnat ip hip).mp hmem
        exact ⟨c, hc, (hstate c hc).symm.trans hsleep, hset, haddr⟩
      · rintro ⟨c, hc, hsleep, hset, rfl⟩
        have hip := (h.clients c hc).addr hset
        exact ⟨hip, (hnat c.v4Addr hip).mpr ⟨c, hc, (hstate c hc).trans hsleep, hset, rfl⟩⟩

theorem client_cases (s : WlanSystem δ) (mac : MacAddr) :
    (s.wlanClient[s.getWlanClientIndex mac]? = none ∧ ∀ c ∈ s.wlanClient, c.mac ≠ mac) ∨
      ∃ c left right, s.wlanClient[s.getWlanClientIndex mac]? = some c ∧ c.mac = mac ∧
        s.wlanClient = left ++ c :: right ∧ s.getWlanClientIndex mac = left.length := by
  cases hcell : s.wlanClient[s.getWlanClientIndex mac]? with
  | none => exact .inl ⟨rfl, fun c hc he => of_decide_eq_false (findIdx_none hcell c hc) he⟩
  | some c =>
    obtain ⟨hmac, left, right, hsplit, hleft, -⟩ := findIdx_split hcell
    refine .inr ⟨c, left, right, rfl, of_decide_eq_true hmac, hsplit, ?_⟩
    unfold getWlanClientIndex
    have hnone : ¬left.findIdx (fun a => a.mac = mac) < left.length := by
      rw [List.findIdx_lt_length]
      rintro ⟨a, ha, he⟩
      rw [hleft a ha] at he
      cases he
    grind

/-- The system with another record for a client. -/
def replaced (s : WlanSystem δ) (left right : List WlanClient) (k : Handles WlanRtRule) (c : WlanClient)
    (listener : Listener δ) : WlanSystem δ :=
  { s with routing := k, wlanClient := left ++ c :: right, listener }

theorem macs_split (hmacs : ((left ++ c :: right).map fun c => c.mac).Nodup) : ∀ a ∈ left ++ right, a.mac ≠ c.mac := by
  grind

theorem mem_split {α : Type} {a b : α} {left right : List α} :
    a ∈ left ++ b :: right ↔ a = b ∨ a ∈ left ++ right := by
  grind

theorem books_replaced {tx : List IpaIpType} {k k' : Handles WlanRtRule}
    (hmacs : ((left ++ c :: right).map fun c => c.mac).Nodup)
    (hbooks : k.Books id fun rule hdl => ∃ a ∈ left ++ c :: right, a.Holds tx rule hdl)
    (hrules : WlanClient.RulesKept tx k c k' c') :
    k'.Books id fun rule hdl => ∃ a ∈ left ++ c' :: right, a.Holds tx rule hdl := by
  have hbefore : k.Books id fun rule hdl => (∃ a ∈ left ++ right, a.Holds tx rule hdl) ∨ c.Holds tx rule hdl := by
    refine hbooks.congr (fun rule hdl => ?_) fun _ _ _ => rfl
    simp only [mem_split, or_and_right, exists_or, exists_eq_left]
    exact or_comm
  refine (hrules.books _ ?_ hbefore).congr (fun rule hdl => ?_) fun _ _ _ => rfl
  · rintro rule hdl ⟨a, ha, hclient, -⟩
    rw [hclient]
    exact macs_split hmacs a ha
  · simp only [mem_split, or_and_right, exists_or, exists_eq_left]
    exact or_comm

theorem Booked.replaced (h : s.Booked) (hsplit : s.wlanClient = left ++ c :: right) {k : Handles WlanRtRule}
    (hrules : WlanClient.RulesKept s.tx s.routing c k c') (hkept : c'.Kept) {listener : Listener δ}
    (hlist : listener.PwrIfs) : (s.replaced left right k c' listener).Booked := by
  have hmacs := h.macs
  have hroom := h.room
  have hclients := h.clients
  have hbooks := h.books
  rw [hsplit] at hmacs hroom hclients hbooks
  refine ⟨?_, ?_, fun a ha => ?_, books_replaced hmacs hbooks hrules, hlist⟩
  · rw [List.map_append, List.map_cons, ← hrules.mac] at hmacs
    change ((left ++ c' :: right).map fun c => c.mac).Nodup
    rw [List.map_append, List.map_cons]
    exact hmacs
  · rw [List.length_append, List.length_cons] at hroom
    change (left ++ c' :: right).length ≤ _
    rw [List.length_append, List.length_cons]
    exact hroom
  · rcases mem_split.mp ha with rfl | ha
    · exact hkept
    · exact hclients a (mem_split.mpr (.inr ha))

end WlanSystem

end DeviceHal.Ipacm
