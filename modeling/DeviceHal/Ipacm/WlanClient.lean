import DeviceHal.Ipacm.Listener
import DeviceHal.Ipacm.LanToLan
import DeviceHal.Ipacm.WanRoute

namespace DeviceHal.Ipacm

open Lib

universe v

def ipv6NumAddr : Nat := 3

/-- A place for the handle of a routing rule in `wlan_client_rt_hdl`. -/
inductive RtDst where
  | v4
  | v6 (num : Nat)
  | v6Wan (num : Nat)
deriving DecidableEq

/-- A place in `wifi_rt_hdl`. -/
structure RtSlot where
  txIndex : Nat
  dst : RtDst
deriving DecidableEq

/-- A routing rule to an address of a client, with the place that it was installed for. -/
structure WlanRtRule where
  client : MacAddr
  slot : RtSlot
  addr : IfaceAddr
deriving DecidableEq

/-- `ipa_wlan_client`. -/
structure WlanClient where
  mac : MacAddr
  v4Addr : UInt32 := 0
  v6Addr : Nat → BitVec 128 := fun _ => 0
  routeRuleSetV4 : Bool := false
  routeRuleSetV6 : Nat := 0
  ipv4Set : Bool := false
  ipv6Set : Nat := 0
  powerSaveSet : Bool := false
  wifiRtHdl : RtSlot → Nat := fun _ => 0

/-- The places for the rules of a transmit property: one for the IPv4 address, and two for each IPv6 address
from one to another. -/
def txRtSlots (start stop txIndex : Nat) : IpaIpType → List RtSlot
  | .v4 => [⟨txIndex, .v4⟩]
  | .v6 => (List.range' start (stop - start)).flatMap fun num => [⟨txIndex, .v6 num⟩, ⟨txIndex, .v6Wan num⟩]

/-- The places for the rules of a family, transmit property by transmit property. -/
def rtSlots (tx : List IpaIpType) (start stop : Nat) (iptype : IpaIpType) : List RtSlot :=
  (List.range tx.length).flatMap fun txIndex =>
    if tx[txIndex]? = some iptype then txRtSlots start stop txIndex iptype else []

namespace WlanClient

/-- The address that the rules of a place are for. -/
def addr (c : WlanClient) : RtDst → IfaceAddr
  | .v4 => .v4 c.v4Addr.toBitVec
  | .v6 num => .v6 (c.v6Addr num)
  | .v6Wan num => .v6 (c.v6Addr num)

def addRtRule (k : Handles WlanRtRule) (c : WlanClient) (slot : RtSlot) : Handles WlanRtRule × WlanClient :=
  let (rtRuleHdl, k) := k.add ⟨c.mac, slot, c.addr slot.dst⟩
  (k, { c with wifiRtHdl := Function.update c.wifiRtHdl slot rtRuleHdl })

def addRtRules (k : Handles WlanRtRule) (c : WlanClient) (slots : List RtSlot) : Handles WlanRtRule × WlanClient :=
  slots.foldl (fun (k, c) slot => c.addRtRule k slot) (k, c)

/-- `handle_wlan_client_route_rule`. Without transmit properties there are no places. -/
def handleWlanClientRouteRule (tx : List IpaIpType) (k : Handles WlanRtRule) (c : WlanClient) :
    IpaIpType → Handles WlanRtRule × WlanClient
  | .v4 =>
    -- during power save, no rules even for a new address
    if c.powerSaveSet then (k, c)
    else if c.routeRuleSetV4 = false ∧ c.ipv4Set = true then
      let (k, c) := c.addRtRules k (rtSlots tx 0 0 .v4)
      (k, { c with routeRuleSetV4 := true })
    else (k, c)
  | .v6 =>
    if c.powerSaveSet then (k, c)
    else if c.routeRuleSetV6 < c.ipv6Set then
      let (k, c) := c.addRtRules k (rtSlots tx c.routeRuleSetV6 c.ipv6Set .v6)
      (k, { c with routeRuleSetV6 := c.ipv6Set })
    else (k, c)

def deleteDefaultQosRtrules (tx : List IpaIpType) (k : Handles WlanRtRule) (c : WlanClient) :
    IpaIpType → Handles WlanRtRule × WlanClient
  | .v4 =>
    if c.routeRuleSetV4 then
      (k.delAll ((rtSlots tx 0 0 .v4).map c.wifiRtHdl), { c with routeRuleSetV4 := false })
    else (k, c)
  | .v6 =>
    (k.delAll ((rtSlots tx 0 c.routeRuleSetV6 .v6).map c.wifiRtHdl), { c with routeRuleSetV6 := 0 })

/-- One turn of the loop of `handle_wlan_client_down_evt` that closes the gap. -/
def copyFrom (tx : List IpaIpType) (c next : WlanClient) : WlanClient :=
  { c with
    mac := next.mac
    v4Addr := next.v4Addr
    ipv4Set := next.ipv4Set
    ipv6Set := next.ipv6Set
    routeRuleSetV4 := next.routeRuleSetV4
    routeRuleSetV6 := next.routeRuleSetV6
    v6Addr := fun num => if num < next.ipv6Set then next.v6Addr num else c.v6Addr num
    wifiRtHdl := fun slot =>
      if slot.txIndex < tx.length then
        match slot.dst with
        | .v4 => next.wifiRtHdl slot
        | .v6 num => if num < next.routeRuleSetV6 then next.wifiRtHdl slot else c.wifiRtHdl slot
        | .v6Wan num => if num < next.routeRuleSetV6 then next.wifiRtHdl slot else c.wifiRtHdl slot
      else c.wifiRtHdl slot }

/-- The slots from the one of a client that has gone. -/
def closeGap (tx : List IpaIpType) (c : WlanClient) : List WlanClient → List WlanClient
  | [] => []
  | next :: clients => c.copyFrom tx next :: closeGap tx next clients

end WlanClient

/-- The address of a client, with what the system says of the interface, or the prefix of the interface. -/
inductive ClientAddr where
  | v4 (ip : UInt32) (ifrName : Option String) (natIfaces : List String)
  | v6 (ip : BitVec 128) (ipv6Prefix : BitVec 64)

def ClientAddr.iptype : ClientAddr → IpaIpType
  | .v4 .. => .v4
  | .v6 .. => .v6

/-- The events of an interface. `others` are the clients of other WLAN interfaces. -/
inductive WlanOp where
  | clientAdd (mac : MacAddr) (others : Nat)
  | clientDel (mac : MacAddr)
  | powerSave (mac : MacAddr)
  | recover (mac : MacAddr)
  | neighClientIpAddrAdd (mac : MacAddr) (data : ClientAddr)
  | resetRtV6

/-- An interface, with the routing rules, and the listener with `NatApp`. `asleep` is a history variable:
the last of the power-save and recover events of a client since it was added is a power-save. -/
structure WlanSystem (δ : Type v) where
  tx : List IpaIpType
  wlanClient : List WlanClient := []
  routing : Handles WlanRtRule := {}
  listener : Listener δ
  asleep : MacAddr → Bool := fun _ => false

namespace WlanSystem

variable {δ : Type v} (drv : NatDriver δ)

def getWlanClientIndex (mac : MacAddr) (s : WlanSystem δ) : Nat := s.wlanClient.findIdx fun c => c.mac = mac

/-- Without transmit properties no client is attached. -/
def handleWlanClientInitEx (mac : MacAddr) (others : Nat) (s : WlanSystem δ) : WlanSystem δ :=
  if ipaMaxNumWifiClients ≤ s.wlanClient.length ∨ ipaMaxNumWifiClients ≤ others + s.wlanClient.length then s
  else if s.tx = [] then s
  else { s with wlanClient := s.wlanClient ++ [{ mac }] }

/-- Rewrites a slot, and what is beside the table. -/
def storeClient (s : WlanSystem δ) (idx : Nat) (k : Handles WlanRtRule) (c : WlanClient) (listener : Listener δ) :
    WlanSystem δ :=
  { s with routing := k, wlanClient := s.wlanClient.set idx c, listener }

def handleWlanClientPwrsave (mac : MacAddr) (s : WlanSystem δ) : WlanSystem δ :=
  let idx := s.getWlanClientIndex mac
  match s.wlanClient[idx]? with
  | none => s
  | some c =>
    if c.powerSaveSet then s
    else
      -- first reset nat rules and then route rules
      let listener := if c.ipv4Set then
          { s.listener with natInst := (s.listener.natInst.updatePwrSaveIf drv c.v4Addr).2 }
        else s.listener
      let (k, c) := c.deleteDefaultQosRtrules s.tx s.routing .v4
      let (k, c) := c.deleteDefaultQosRtrules s.tx k .v6
      s.storeClient idx k { c with powerSaveSet := true } listener

/-- The recover event in `event_callback`. -/
def handleWlanClientRecover (mac : MacAddr) (s : WlanSystem δ) : WlanSystem δ :=
  let idx := s.getWlanClientIndex mac
  match s.wlanClient[idx]? with
  | none => s
  | some c =>
    if c.powerSaveSet then
      let c := { c with powerSaveSet := false }
      let (k, c) := if c.ipv4Set then c.handleWlanClientRouteRule s.tx s.routing .v4 else (s.routing, c)
      let listener := if c.ipv4Set then
          { s.listener with natInst := (s.listener.natInst.resetPwrSaveIf drv c.v4Addr).2 }
        else s.listener
      let (k, c) := if c.ipv6Set ≠ 0 then c.handleWlanClientRouteRule s.tx k .v6 else (k, c)
      s.storeClient idx k c listener
    else s

def handleWlanClientDownEvt (mac : MacAddr) (s : WlanSystem δ) : WlanSystem δ :=
  let idx := s.getWlanClientIndex mac
  match s.wlanClient[idx]? with
  | none => s
  | some c =>
    let listener := if c.ipv4Set then s.listener.handleNeighIpAddrDelEvt drv c.v4Addr else s.listener
    let (k, c) := c.deleteDefaultQosRtrules s.tx s.routing .v4
    let (k, c) := c.deleteDefaultQosRtrules s.tx k .v6
    let c := { c with ipv4Set := false, ipv6Set := 0, routeRuleSetV4 := false, routeRuleSetV6 := 0 }
    { s with
      routing := k
      wlanClient := s.wlanClient.take idx ++ c.closeGap s.tx (s.wlanClient.drop (idx + 1))
      listener }

/-- `handle_wlan_client_ipaddr` for a client. There is nothing if it fails. -/
def handleWlanClientIpaddr (s : WlanSystem δ) (c : WlanClient) :
    ClientAddr → Option (Handles WlanRtRule × WlanClient × Listener δ)
  | .v4 ip _ _ =>
    if ip = 0 then none
    else if c.ipv4Set = false then some (s.routing, { c with v4Addr := ip, ipv4Set := true }, s.listener)
    else if ip = c.v4Addr then none
    else
      -- delete NAT rules first
      let listener := s.listener.handleNeighIpAddrDelEvt drv c.v4Addr
      let (k, c) := c.deleteDefaultQosRtrules s.tx s.routing .v4
      some (k, { c with routeRuleSetV4 := false, v4Addr := ip }, listener)
  | .v6 ip ipv6Prefix =>
    if ip = 0 then none
    else if isGlobalIpv6Addr ip ∧ ipv6Prefix ≠ ip.extractLsb' 64 64 then none
    else if ipv6NumAddr ≤ c.ipv6Set then none
    else if ∃ num < c.ipv6Set, ip = c.v6Addr num then none
    else
      some (s.routing, { c with v6Addr := Function.update c.v6Addr c.ipv6Set ip, ipv6Set := c.ipv6Set + 1 },
        s.listener)

/-- NAT rules are added after the IPv4 routing rules are set. -/
def addNatRules (data : ClientAddr) (listener : Listener δ) : Listener δ :=
  match data with
  | .v4 ip ifrName natIfaces => listener.handleNeighIpAddrAddEvt drv ⟨ip, true, ifrName, natIfaces⟩
  | .v6 _ _ => listener

def handleNeighClientIpAddrAdd (mac : MacAddr) (data : ClientAddr) (s : WlanSystem δ) : WlanSystem δ :=
  let idx := s.getWlanClientIndex mac
  match s.wlanClient[idx]? with
  | none => s
  | some c =>
    match s.handleWlanClientIpaddr drv c data with
    | none => s
    | some (k, c, listener) =>
      let (k, c) := c.handleWlanClientRouteRule s.tx k data.iptype
      s.storeClient idx k c (addNatRules drv data listener)

/-- `handle_wlan_client_reset_rt` of IPv6. -/
def handleWlanClientResetRt (s : WlanSystem δ) : WlanSystem δ :=
  let (wlanClient, routing) := forCells (fun c k =>
      let (k, c) := c.deleteDefaultQosRtrules s.tx k .v6
      ({ c with ipv6Set := 0 }, k)) s.wlanClient s.routing
  { s with wlanClient, routing }

def eventCallback (s : WlanSystem δ) : WlanOp → WlanSystem δ
  | .clientAdd mac others => s.handleWlanClientInitEx mac others
  | .clientDel mac => s.handleWlanClientDownEvt drv mac
  | .powerSave mac => s.handleWlanClientPwrsave drv mac
  | .recover mac => s.handleWlanClientRecover drv mac
  | .neighClientIpAddrAdd mac data => s.handleNeighClientIpAddrAdd drv mac data
  | .resetRtV6 => s.handleWlanClientResetRt

def notes (asleep : MacAddr → Bool) : WlanOp → MacAddr → Bool
  | .clientAdd mac _ => Function.update asleep mac false
  | .powerSave mac => Function.update asleep mac true
  | .recover mac => Function.update asleep mac false
  | .clientDel _ => asleep
  | .neighClientIpAddrAdd _ _ => asleep
  | .resetRtV6 => asleep

def step (s : WlanSystem δ) (op : WlanOp) : Option (WlanSystem δ) :=
  some { s.eventCallback drv op with asleep := notes s.asleep op }

end WlanSystem

variable {tx : List IpaIpType} {start stop txIndex : Nat} {iptype : IpaIpType} {slot : RtSlot}

theorem mem_txRtSlots_v6 : slot ∈ txRtSlots start stop txIndex .v6 ↔
    slot.txIndex = txIndex ∧ ∃ num, start ≤ num ∧ num < stop ∧ (slot.dst = .v6 num ∨ slot.dst = .v6Wan num) := by
  obtain ⟨i, dst⟩ := slot
  simp only [txRtSlots, List.mem_flatMap, List.mem_range'_1, List.mem_cons, RtSlot.mk.injEq, List.not_mem_nil,
    or_false]
  constructor
  · grind
  grind

theorem txIndex_of_mem (h : slot ∈ txRtSlots start stop txIndex iptype) : slot.txIndex = txIndex := by
  cases iptype with
  | v4 => exact congrArg RtSlot.txIndex (List.mem_singleton.mp h)
  | v6 => exact (mem_txRtSlots_v6.mp h).1

theorem nodup_txRtSlots (start stop txIndex : Nat) (iptype : IpaIpType) :
    (txRtSlots start stop txIndex iptype).Nodup := by
  cases iptype with
  | v4 => exact List.nodup_singleton _
  | v6 =>
    refine List.nodup_flatMap.mpr ⟨fun num _ => by simp, ?_⟩
    refine (List.nodup_range' ..).imp fun {a b} hne => ?_
    intro slot ha hb
    grind

theorem mem_rtSlots :
    slot ∈ rtSlots tx start stop iptype ↔
      tx[slot.txIndex]? = some iptype ∧ slot ∈ txRtSlots start stop slot.txIndex iptype := by
  simp only [rtSlots, List.mem_flatMap, List.mem_range]
  constructor
  · rintro ⟨txIndex, -, hmem⟩
    split at hmem
    next htx =>
      rw [txIndex_of_mem hmem]
      exact ⟨htx, hmem⟩
    next => cases hmem
  grind

theorem mem_rtSlots_v4 : slot ∈ rtSlots tx start stop .v4 ↔ tx[slot.txIndex]? = some .v4 ∧ slot.dst = .v4 := by
  obtain ⟨i, dst⟩ := slot
  rw [mem_rtSlots]
  simp [txRtSlots]

theorem mem_rtSlots_v6 : slot ∈ rtSlots tx start stop .v6 ↔
    tx[slot.txIndex]? = some .v6 ∧
      ∃ num, start ≤ num ∧ num < stop ∧ (slot.dst = .v6 num ∨ slot.dst = .v6Wan num) := by
  simp [mem_rtSlots, mem_txRtSlots_v6]

theorem nodup_rtSlots (tx : List IpaIpType) (start stop : Nat) (iptype : IpaIpType) :
    (rtSlots tx start stop iptype).Nodup := by
  refine List.nodup_flatMap.mpr ⟨fun txIndex _ => ?_, ?_⟩
  · split
    next => exact nodup_txRtSlots start stop txIndex iptype
    next => exact List.nodup_nil
  · refine List.nodup_range.imp fun {a b} hne => ?_
    intro slot ha hb
    dsimp only at ha hb
    split at ha
    next =>
      split at hb
      next => exact hne ((txIndex_of_mem ha).symm.trans (txIndex_of_mem hb))
      next => cases hb
    next => cases ha

namespace WlanClient

variable {k k' : Handles WlanRtRule} {c c' c'' : WlanClient} {slots : List RtSlot} {others : WlanRtRule → Nat → Prop}

def RuleSet (tx : List IpaIpType) (c : WlanClient) (slot : RtSlot) : Prop :=
  slot ∈ rtSlots tx 0 0 .v4 ∧ c.routeRuleSetV4 = true ∨ slot ∈ rtSlots tx 0 c.routeRuleSetV6 .v6

def Holds (tx : List IpaIpType) (c : WlanClient) (rule : WlanRtRule) (hdl : Nat) : Prop :=
  rule.client = c.mac ∧ c.RuleSet tx rule.slot ∧ rule.addr = c.addr rule.slot.dst ∧ hdl = c.wifiRtHdl rule.slot

/-- What the loop that adds rules does. -/
structure Adds (k : Handles WlanRtRule) (c : WlanClient) (slots : List RtSlot) (k' : Handles WlanRtRule)
    (c' : WlanClient) : Prop where
  same : c' = { c with wifiRtHdl := c'.wifiRtHdl }
  other : ∀ slot, slot ∉ slots → c'.wifiRtHdl slot = c.wifiRtHdl slot
  books : ∀ held, k.Books id held → k'.Books id fun rule hdl => held rule hdl ∨
    rule.client = c.mac ∧ rule.slot ∈ slots ∧ rule.addr = c.addr rule.slot.dst ∧ hdl = c'.wifiRtHdl rule.slot

theorem addRtRules_adds (hnodup : slots.Nodup) :
    Adds k c slots (c.addRtRules k slots).1 (c.addRtRules k slots).2 := by
  induction slots generalizing k c with
  | nil =>
    refine ⟨rfl, fun _ _ => rfl, fun held h => h.congr (fun rule hdl => ⟨fun hg => ?_, .inl⟩) fun _ _ _ => rfl⟩
    grind
  | cons slot slots ih =>
    obtain ⟨hnot, hnodup'⟩ := List.nodup_cons.mp hnodup
    obtain ⟨hsame, hother, hbooks⟩ := @ih (c.addRtRule k slot).1 (c.addRtRule k slot).2 hnodup'
    refine ⟨hsame, fun slot' hslot' => ?_, fun held h => ?_⟩
    · obtain ⟨hne, hnot'⟩ := not_or.mp (mt List.mem_cons.mpr hslot')
      exact (hother slot' hnot').trans (Function.update_of_ne hne ..)
    · have hself : ((c.addRtRule k slot).2.addRtRules (c.addRtRule k slot).1 slots).2.wifiRtHdl slot = k.next :=
        (hother slot hnot).trans (Function.update_self ..)
      refine (hbooks _ (h.add (⟨c.mac, slot, c.addr slot.dst⟩ : WlanRtRule))).congr (fun rule hdl => ?_)
        fun _ _ _ => rfl
      change held rule hdl ∨ (rule.client = c.mac ∧ rule.slot ∈ slot :: slots ∧ rule.addr = c.addr rule.slot.dst ∧
        hdl = ((c.addRtRule k slot).2.addRtRules (c.addRtRule k slot).1 slots).2.wifiRtHdl rule.slot) ↔ _
      constructor
      · rintro (hheld | ⟨hclient, hmem, haddr, hhdl⟩)
        · exact .inl (.inl hheld)
        · rcases List.mem_cons.mp hmem with he | hmem
          · refine .inl (.inr ⟨?_, ?_⟩)
            · obtain ⟨client, slot', addr⟩ := rule
              grind
            · rw [hhdl, he, hself]
          · exact .inr ⟨hclient, hmem, haddr, hhdl⟩
      · rintro ((hheld | ⟨rfl, rfl⟩) | ⟨hclient, hmem, haddr, hhdl⟩)
        · exact .inl hheld
        · exact .inr ⟨rfl, List.mem_cons_self, rfl, hself.symm⟩
        · exact .inr ⟨hclient, List.mem_cons_of_mem _ hmem, haddr, hhdl⟩

/-- The rules of the client, and of others, are still those that are recorded. -/
structure RulesKept (tx : List IpaIpType) (k : Handles WlanRtRule) (c : WlanClient) (k' : Handles WlanRtRule)
    (c' : WlanClient) : Prop where
  mac : c'.mac = c.mac
  books : ∀ others : WlanRtRule → Nat → Prop, (∀ rule hdl, others rule hdl → rule.client ≠ c.mac) →
    k.Books id (fun rule hdl => others rule hdl ∨ c.Holds tx rule hdl) →
    k'.Books id fun rule hdl => others rule hdl ∨ c'.Holds tx rule hdl

namespace RulesKept

theorem refl (tx : List IpaIpType) (k : Handles WlanRtRule) (c : WlanClient) : RulesKept tx k c k c :=
  ⟨rfl, fun _ _ h => h⟩

theorem trans {k'' : Handles WlanRtRule} (h : RulesKept tx k c k' c') (h' : RulesKept tx k' c' k'' c'') :
    RulesKept tx k c k'' c'' := by
  refine ⟨h'.mac.trans h.mac, fun others hothers hbooks => h'.books others ?_ (h.books others hothers hbooks)⟩
  rw [h.mac]
  exact hothers

theorem of_holds (hmac : c'.mac = c.mac) (hholds : ∀ rule hdl, c'.Holds tx rule hdl ↔ c.Holds tx rule hdl) :
    RulesKept tx k c k c' := by
  refine ⟨hmac, fun others _ h => h.congr (fun rule hdl => ?_) fun _ _ _ => rfl⟩
  rw [hholds]

theorem of_adds (h : Adds k c slots k' c') (hmac : c''.mac = c'.mac) (haddr : c''.addr = c'.addr)
    (hhdl : c''.wifiRtHdl = c'.wifiRtHdl) (hset : ∀ slot, c''.RuleSet tx slot ↔ c.RuleSet tx slot ∨ slot ∈ slots)
    (hnew : ∀ slot, c.RuleSet tx slot → slot ∉ slots) : RulesKept tx k c k' c'' := by
  have hmac' : c'.mac = c.mac := by rw [h.same]
  have haddr' : c'.addr = c.addr := by
    rw [h.same]
    rfl
  refine ⟨hmac.trans hmac', fun others _ hbooks => (h.books _ hbooks).congr (fun rule hdl => ?_) fun _ _ _ => rfl⟩
  unfold Holds
  rw [hmac, hmac', haddr, haddr', hhdl, hset]
  constructor
  · rintro (hother | ⟨hclient, hold | hmem, ha, hg⟩)
    · exact .inl (.inl hother)
    · rw [h.other _ (hnew _ hold)] at hg
      exact .inl (.inr ⟨hclient, hold, ha, hg⟩)
    · exact .inr ⟨hclient, hmem, ha, hg⟩
  · rintro ((hother | ⟨hclient, hold, ha, hg⟩) | ⟨hclient, hmem, ha, hg⟩)
    · exact .inl hother
    · rw [← h.other _ (hnew _ hold)] at hg
      exact .inr ⟨hclient, .inl hold, ha, hg⟩
    · exact .inr ⟨hclient, .inr hmem, ha, hg⟩

theorem of_dels (hmac : c'.mac = c.mac) (haddr : c'.addr = c.addr) (hhdl : c'.wifiRtHdl = c.wifiRtHdl)
    (hold : ∀ slot ∈ slots, c.RuleSet tx slot)
    (hset : ∀ slot, c'.RuleSet tx slot ↔ c.RuleSet tx slot ∧ slot ∉ slots) :
    RulesKept tx k c (k.delAll (slots.map c.wifiRtHdl)) c' := by
  refine ⟨hmac, fun others hothers hbooks => ?_⟩
  refine (hbooks.delAll Function.injective_id (slots.map c.wifiRtHdl)
    (fun rule => rule.client = c.mac ∧ rule.slot ∈ slots) ?_ ?_).congr (fun rule hdl => ?_) fun _ _ _ => rfl
  · rintro rule hdl ⟨hclient, hmem⟩ (hother | ⟨-, -, -, hg⟩)
    · exact absurd hclient (hothers rule hdl hother)
    · rw [hg]
      exact List.mem_map_of_mem hmem
  · intro hdl hmem
    obtain ⟨slot, hslot, rfl⟩ := List.mem_map.mp hmem
    exact .inr ⟨⟨c.mac, slot, c.addr slot.dst⟩, ⟨rfl, hslot⟩, .inr ⟨rfl, hold slot hslot, rfl, rfl⟩⟩
  · unfold Holds
    rw [hmac, haddr, hhdl, hset]
    constructor
    · grind
    grind

end RulesKept

theorem not_v4_of_v6 {start' stop' : Nat} (h : slot ∈ rtSlots tx start stop .v6) :
    slot ∉ rtSlots tx start' stop' .v4 := by
  intro h'
  have h₄ := (mem_rtSlots_v4.mp h').1
  rw [(mem_rtSlots_v6.mp h).1] at h₄
  cases h₄

theorem mem_rtSlots_v6_append {mid : Nat} (hle : start ≤ mid) (hle' : mid ≤ stop) :
    slot ∈ rtSlots tx start stop .v6 ↔ slot ∈ rtSlots tx start mid .v6 ∨ slot ∈ rtSlots tx mid stop .v6 := by
  simp only [mem_rtSlots_v6]
  constructor
  · grind
  grind

theorem mem_rtSlots_v6_disjoint {mid : Nat} (h : slot ∈ rtSlots tx start mid .v6) :
    slot ∉ rtSlots tx mid stop .v6 := by
  obtain ⟨-, num, -, hlt, hdst⟩ := mem_rtSlots_v6.mp h
  intro h'
  obtain ⟨-, num', hle, -, hdst'⟩ := mem_rtSlots_v6.mp h'
  grind

theorem not_mem_rtSlots_v6_empty : slot ∉ rtSlots tx start start .v6 := by
  intro h
  obtain ⟨-, num, hle, hlt, -⟩ := mem_rtSlots_v6.mp h
  omega

theorem routeRule_kept (tx : List IpaIpType) (k : Handles WlanRtRule) (c : WlanClient) (iptype : IpaIpType) :
    RulesKept tx k c (c.handleWlanClientRouteRule tx k iptype).1 (c.handleWlanClientRouteRule tx k iptype).2 := by
  cases iptype with
  | v4 =>
    unfold handleWlanClientRouteRule
    dsimp only
    split
    next => exact .refl tx k c
    next =>
      split
      next hset =>
        have hadds := @addRtRules_adds k c _ (nodup_rtSlots tx 0 0 .v4)
        refine RulesKept.of_adds hadds rfl rfl rfl (fun slot => ?_) fun slot hold => ?_
        · unfold RuleSet
          rw [hset.1, hadds.same]
          simp [or_comm]
        · rcases hold with ⟨-, hyes⟩ | hv6
          · rw [hset.1] at hyes
            cases hyes
          · exact not_v4_of_v6 hv6
      next => exact .refl tx k c
  | v6 =>
    unfold handleWlanClientRouteRule
    dsimp only
    split
    next => exact .refl tx k c
    next =>
      split
      next hlt =>
        have hadds := @addRtRules_adds k c _ (nodup_rtSlots tx c.routeRuleSetV6 c.ipv6Set .v6)
        refine RulesKept.of_adds hadds rfl rfl rfl (fun slot => ?_) fun slot hold => ?_
        · unfold RuleSet
          rw [hadds.same]
          dsimp only
          rw [mem_rtSlots_v6_append (Nat.zero_le c.routeRuleSetV6) (Nat.le_of_lt hlt), or_assoc]
        · rcases hold with ⟨hv4, -⟩ | hv6
          · exact fun hmem => not_v4_of_v6 hmem hv4
          · exact mem_rtSlots_v6_disjoint hv6
      next => exact .refl tx k c

theorem deleteRules_kept (tx : List IpaIpType) (k : Handles WlanRtRule) (c : WlanClient) (iptype : IpaIpType) :
    RulesKept tx k c (c.deleteDefaultQosRtrules tx k iptype).1 (c.deleteDefaultQosRtrules tx k iptype).2 := by
  cases iptype with
  | v4 =>
    unfold deleteDefaultQosRtrules
    dsimp only
    split
    next hset =>
      refine RulesKept.of_dels rfl rfl rfl (fun slot hmem => .inl ⟨hmem, hset⟩) fun slot => ?_
      unfold RuleSet
      constructor
      · rintro (⟨-, hno⟩ | hv6)
        · cases hno
        · exact ⟨.inr hv6, not_v4_of_v6 hv6⟩
      grind
    next => exact .refl tx k c
  | v6 =>
    refine RulesKept.of_dels rfl rfl rfl (fun slot hmem => .inr hmem) fun slot => ?_
    unfold RuleSet
    constructor
    · rintro (hv4 | hv6)
      · exact ⟨.inl hv4, fun hmem => not_v4_of_v6 hmem hv4.1⟩
      · exact absurd hv6 not_mem_rtSlots_v6_empty
    · rintro ⟨hv4 | hv6, hnot⟩
      · exact .inl hv4
      · exact absurd hv6 hnot

end WlanClient

end DeviceHal.Ipacm
