import DeviceHal.Ipacm.Listener
import DeviceHal.Lib.Run
import DeviceHal.Lib.SlotSet

namespace DeviceHal.Ipacm

open Lib

universe v

variable {δ : Type v} {drv : NatDriver δ} {l l' : Listener δ}

/-- The events that add an address to a list of the listener or delete one, but for the list of NAT
interfaces. -/
def ListenerEvent.ListsAddress : ListenerEvent → Prop
  | .neighClientIpAddrAdd _ => True
  | .neighClientIpAddrDel _ => True
  | .handleSTAClientAddEvt _ => True
  | .handleSTAClientDelEvt _ => True
  | _ => False

def SameStaClients (l l' : Listener δ) : Prop :=
  l'.staClntIpv4Addr = l.staClntIpv4Addr ∧ l'.staClntCnt = l.staClntCnt

/-- The lists of addresses of the two listeners, but for that of NAT interfaces, are the same. -/
structure SameLists (l l' : Listener δ) : Prop where
  sta : SameStaClients l l'
  nonnat : l'.nonnatIfaceIpv4Addr = l.nonnatIfaceIpv4Addr

theorem SameLists.refl (l : Listener δ) : SameLists l l := ⟨⟨rfl, rfl⟩, rfl⟩

theorem sameLists_ctMessage (cfg : IpacmConfig) (msg : CtMessage) :
    SameLists l (l.processCTMessage drv cfg msg) := by
  unfold Listener.processCTMessage
  split
  next => exact SameLists.refl l
  next =>
    unfold Listener.processTCPorUDPMsg
    split
    next => exact SameLists.refl l
    next =>
      unfold Listener.addORDeleteNatEntry
      split
      next =>
        split
        next => exact ⟨⟨rfl, rfl⟩, rfl⟩
        next =>
          split
          next => exact ⟨⟨rfl, rfl⟩, rfl⟩
          next => exact ⟨⟨rfl, rfl⟩, rfl⟩
      next => exact ⟨⟨rfl, rfl⟩, rfl⟩
      next => exact SameLists.refl l

theorem sameLists_wanDown (wanAddr : UInt32) : SameLists l (l.triggerWANDown drv wanAddr) := by
  unfold Listener.triggerWANDown
  dsimp only
  split
  next => exact ⟨⟨rfl, rfl⟩, rfl⟩
  next => exact ⟨⟨rfl, rfl⟩, rfl⟩

theorem sameLists_wanUp (ip : UInt32) (isSta : Bool) :
    SameLists l (l.triggerWANUp drv ip isSta) := by
  unfold Listener.triggerWANUp
  split
  next => exact SameLists.refl l
  next t ready =>
    have same : SameLists l t := by
      unfold Listener.wanUpReady at ready
      split at ready
      next => cases ready
      next =>
        split at ready
        next =>
          split at ready
          next =>
            cases ready
            exact sameLists_wanDown l.wanIpaddr
          next => cases ready
        next =>
          cases ready
          exact SameLists.refl l
    exact ⟨same.sta, same.nonnat⟩

theorem sameLists_step {evt : ListenerEvent} (other : ¬evt.ListsAddress) :
    SameLists l (listenerStep drv l evt) := by
  cases evt with
  | ctMessage cfg msg => exact sameLists_ctMessage cfg msg
  | wanUp ip isSta => exact sameLists_wanUp ip isSta
  | wanDown ip =>
    change SameLists l (if l.wanUp then l.triggerWANDown drv ip else l)
    split
    next => exact sameLists_wanDown ip
    next => exact SameLists.refl l
  | handleNeighIpAddrAddEvt data =>
    change SameLists l (l.handleNeighIpAddrAddEvt drv data)
    unfold Listener.handleNeighIpAddrAddEvt
    split
    next =>
      dsimp only
      split
      next => exact ⟨⟨rfl, rfl⟩, rfl⟩
      next => exact SameLists.refl l
    next => exact SameLists.refl l
  | handleNeighIpAddrDelEvt ip =>
    change SameLists l (l.handleNeighIpAddrDelEvt drv ip)
    unfold Listener.handleNeighIpAddrDelEvt
    split
    next => exact SameLists.refl l
    next => exact ⟨⟨rfl, rfl⟩, rfl⟩
  | neighClientIpAddrAdd data => exact absurd trivial other
  | neighClientIpAddrDel data => exact absurd trivial other
  | handleSTAClientAddEvt ip => exact absurd trivial other
  | handleSTAClientDelEvt ip => exact absurd trivial other

theorem handleNonNatIPAddr_sta (data : NeighEvent) (addOp : Bool) :
    SameStaClients l (l.handleNonNatIPAddr drv data addOp) := by
  unfold Listener.handleNonNatIPAddr
  dsimp only
  split
  next => exact ⟨rfl, rfl⟩
  next =>
    split
    next =>
      split
      next =>
        split
        next => exact ⟨rfl, rfl⟩
        next => exact ⟨rfl, rfl⟩
      next => exact ⟨rfl, rfl⟩
    next =>
      split
      next => exact ⟨rfl, rfl⟩
      next => exact ⟨rfl, rfl⟩

theorem handleSTAClientAddEvt_nonnat (x : UInt32) :
    (l.handleSTAClientAddEvt drv x).nonnatIfaceIpv4Addr = l.nonnatIfaceIpv4Addr := by
  grind [Listener.handleSTAClientAddEvt]

theorem handleSTAClientDelEvt_nonnat (x : UInt32) :
    (l.handleSTAClientDelEvt drv x).nonnatIfaceIpv4Addr = l.nonnatIfaceIpv4Addr := by
  unfold Listener.handleSTAClientDelEvt
  dsimp only
  split
  next => rfl
  next => rfl

end DeviceHal.Ipacm

namespace DeviceHal.Ipacm

open Lib

universe v

variable {δ : Type v} {drv : NatDriver δ} {l : Listener δ} {a : UInt32}

/-- The listener, with the non-NAT addresses added and not deleted since, each as often as it was
added. -/
structure NeighRecord (δ : Type v) where
  listener : Listener δ
  outstanding : Multiset UInt32

/-- An add counts if the interface is known not to be a NAT one, as long as there is room. -/
def outstandingNext (m : Multiset UInt32) : ListenerEvent → Multiset UInt32
  | .neighClientIpAddrAdd data =>
    if checkNatIface data = some false ∧ m.card < maxIfaceAddress then data.ipv4Addr ::ₘ m else m
  | .neighClientIpAddrDel data => m.erase data.ipv4Addr
  | _ => m

def neighRecordStep (drv : NatDriver δ) (s : NeighRecord δ) (evt : ListenerEvent) :
    Option (NeighRecord δ) :=
  some ⟨listenerStep drv s.listener evt, outstandingNext s.outstanding evt⟩

/-- The neighbour events come while the WAN is not in STA mode. -/
def OutsideSta (s : NeighRecord δ) : ListenerEvent → Prop
  | .neighClientIpAddrAdd _ => s.listener.isStaMode = false
  | .neighClientIpAddrDel _ => s.listener.isStaMode = false
  | _ => True

/-- The address is not in the list, and no connection gets a dummy rule for it. -/
structure Forgotten (a : UInt32) (l : Listener δ) : Prop where
  gone : a ∉ l.nonnatIfaceIpv4Addr
  plain : ∀ (cfg : IpacmConfig) (rule : NatTableEntry Conntrack)
      (res : NatTableEntry Conntrack × Bool),
    (rule.privateIp = a ∧ rule.targetIp ∉ l.nonnatIfaceIpv4Addr) ∨
      (rule.targetIp = a ∧ rule.privateIp ∉ l.nonnatIfaceIpv4Addr) →
    l.addIface cfg rule = some res → res.1 = rule

/-- After a delete event the address is forgotten. -/
def DeleteForgets (drv : NatDriver δ) (s : NeighRecord δ) : ListenerEvent → Prop
  | .neighClientIpAddrDel data => data.ipv4Addr ≠ 0 →
    Forgotten data.ipv4Addr (listenerStep drv s.listener (.neighClientIpAddrDel data))
  | _ => True

/-- A delete event comes for an address that was not added twice. -/
def AddedOnce (s : NeighRecord δ) : ListenerEvent → Prop
  | .neighClientIpAddrDel data => data.ipv4Addr ≠ 0 → s.outstanding.count data.ipv4Addr ≤ 1
  | _ => True

/-- The slots that are not free hold the addresses outstanding, each as often. -/
structure NeighInv (s : NeighRecord δ) : Prop where
  holds : ∀ a, s.outstanding.count a = if a = 0 then 0 else s.listener.nonnatIfaceIpv4Addr.count a
  size : s.listener.nonnatIfaceIpv4Addr.length = maxIfaceAddress

variable {s : NeighRecord δ}

theorem NeighInv.card (h : NeighInv s) :
    s.outstanding.card = (s.listener.nonnatIfaceIpv4Addr.filter (· ≠ 0)).length := by
  have hset : s.outstanding =
      (s.listener.nonnatIfaceIpv4Addr.filter (· ≠ 0) : Multiset UInt32) := by
    ext a
    rw [h.holds, Multiset.coe_count]
    split
    next hz =>
      refine (List.count_eq_zero_of_not_mem fun hm => ?_).symm
      exact absurd hz (of_decide_eq_true (List.mem_filter.mp hm).2)
    next hz =>
      have hsel : decide (a ≠ 0) = true := decide_eq_true hz
      exact (List.count_filter (p := fun x => decide (x ≠ 0)) hsel).symm
  rw [hset]
  rfl

theorem NeighInv.free_iff (h : NeighInv s) :
    (0 : UInt32) ∈ s.listener.nonnatIfaceIpv4Addr ↔ s.outstanding.card < maxIfaceAddress := by
  simp [h.card, ← h.size, List.length_filter_lt_length_iff_exists]

variable (drv) in
theorem nonNatAdd_eq (mode : l.isStaMode = false) (data : NeighEvent) :
    (l.handleNonNatIPAddr drv data true).nonnatIfaceIpv4Addr =
      if checkNatIface data = some false ∧ (0 : UInt32) ∈ l.nonnatIfaceIpv4Addr then
        l.nonnatIfaceIpv4Addr.set (l.nonnatIfaceIpv4Addr.idxOf 0) data.ipv4Addr
      else l.nonnatIfaceIpv4Addr := by
  unfold Listener.handleNonNatIPAddr
  rw [mode, if_neg Bool.false_ne_true, if_pos rfl, findIdx_eq_idxOf]
  dsimp only
  by_cases hnat : checkNatIface data = some false
  · rw [if_pos hnat]
    grind
  · rw [if_neg hnat, if_neg fun h => hnat h.1]

variable (drv) in
theorem nonNatDel_eq (mode : l.isStaMode = false) (data : NeighEvent) :
    (l.handleNonNatIPAddr drv data false).nonnatIfaceIpv4Addr =
      if data.ipv4Addr ∈ l.nonnatIfaceIpv4Addr then
        l.nonnatIfaceIpv4Addr.set (l.nonnatIfaceIpv4Addr.idxOf data.ipv4Addr) 0
      else l.nonnatIfaceIpv4Addr := by
  unfold Listener.handleNonNatIPAddr
  rw [mode, if_neg Bool.false_ne_true, if_neg Bool.false_ne_true, findIdx_eq_idxOf]
  grind

theorem NeighInv.congr {s t : NeighRecord δ} (h : NeighInv s)
    (same : t.listener.nonnatIfaceIpv4Addr = s.listener.nonnatIfaceIpv4Addr)
    (outstanding : t.outstanding = s.outstanding) : NeighInv t where
  holds := by
    rw [same, outstanding]
    exact h.holds
  size := by
    rw [same]
    exact h.size

theorem NeighInv.add (h : NeighInv s) (mode : s.listener.isStaMode = false)
    (data : NeighEvent) : NeighInv ⟨listenerStep drv s.listener (.neighClientIpAddrAdd data),
      outstandingNext s.outstanding (.neighClientIpAddrAdd data)⟩ := by
  have hslots := nonNatAdd_eq drv mode data
  by_cases hstore : checkNatIface data = some false ∧
      (0 : UInt32) ∈ s.listener.nonnatIfaceIpv4Addr
  · rw [if_pos hstore] at hslots
    have hne : data.ipv4Addr ≠ 0 := by
      intro hz
      have hnat := hstore.1
      unfold checkNatIface at hnat
      rw [if_pos (Or.inl hz)] at hnat
      exact Option.some_ne_none false hnat.symm
    have hnext : outstandingNext s.outstanding (.neighClientIpAddrAdd data) =
        data.ipv4Addr ::ₘ s.outstanding := if_pos ⟨hstore.1, h.free_iff.mp hstore.2⟩
    refine ⟨fun a => ?_, ?_⟩
    · rw [hnext, Multiset.count_cons, h.holds]
      change _ = if a = 0 then 0 else List.count a
        (s.listener.handleNonNatIPAddr drv data true).nonnatIfaceIpv4Addr
      rw [hslots]
      split
      next hz => rw [if_neg fun he => hne (he.symm.trans hz)]
      next hz =>
        rw [count_fill hstore.2 hz]
        simp only [eq_comm]
    · change (s.listener.handleNonNatIPAddr drv data true).nonnatIfaceIpv4Addr.length = _
      rw [hslots, List.length_set]
      exact h.size
  · rw [if_neg hstore] at hslots
    refine h.congr hslots (if_neg fun hc => hstore ⟨hc.1, h.free_iff.mpr hc.2⟩)

variable (drv) in
theorem NeighInv.delete (h : NeighInv s) (mode : s.listener.isStaMode = false)
    (data : NeighEvent) : NeighInv ⟨listenerStep drv s.listener (.neighClientIpAddrDel data),
      outstandingNext s.outstanding (.neighClientIpAddrDel data)⟩ := by
  have hslots := nonNatDel_eq drv mode data
  have herase : ∀ a, (s.outstanding.erase data.ipv4Addr).count a =
      s.outstanding.count a - if data.ipv4Addr = a then 1 else 0 := by
    intro a
    by_cases he : data.ipv4Addr = a
    · rw [if_pos he, he, Multiset.count_erase_self]
    · rw [if_neg he, Multiset.count_erase_of_ne (Ne.symm he), Nat.sub_zero]
  by_cases hm : data.ipv4Addr ∈ s.listener.nonnatIfaceIpv4Addr
  · rw [if_pos hm] at hslots
    refine ⟨fun a => ?_, ?_⟩
    · change (s.outstanding.erase data.ipv4Addr).count a = if a = 0 then 0 else List.count a
        (s.listener.handleNonNatIPAddr drv data false).nonnatIfaceIpv4Addr
      rw [herase, h.holds, hslots]
      by_cases hz : a = 0
      · rw [if_pos hz, if_pos hz, Nat.zero_sub]
      · rw [if_neg hz, if_neg hz, count_clear hm hz]
    · change (s.listener.handleNonNatIPAddr drv data false).nonnatIfaceIpv4Addr.length = _
      rw [hslots, List.length_set]
      exact h.size
  · rw [if_neg hm] at hslots
    have hnone : data.ipv4Addr ∉ s.outstanding := by
      rw [← Multiset.count_eq_zero, h.holds]
      split
      next => rfl
      next => exact List.count_eq_zero_of_not_mem hm
    exact h.congr hslots (Multiset.erase_of_notMem hnone)

theorem NeighInv.step (h : NeighInv s) {evt : ListenerEvent} (mode : OutsideSta s evt) :
    NeighInv ⟨listenerStep drv s.listener evt, outstandingNext s.outstanding evt⟩ := by
  cases evt with
  | neighClientIpAddrAdd data => exact h.add mode data
  | neighClientIpAddrDel data => exact h.delete drv mode data
  | handleSTAClientAddEvt x => exact h.congr (handleSTAClientAddEvt_nonnat x) rfl
  | handleSTAClientDelEvt x => exact h.congr (handleSTAClientDelEvt_nonnat x) rfl
  | _ =>
    refine h.congr (SameLists.nonnat ?_) rfl
    dsimp only
    apply sameLists_step
    exact not_false

theorem NeighInv.init (wanIpaddr : UInt32) (isStaMode : Bool) (natInst : NatApp Conntrack δ) :
    NeighInv ⟨Listener.init wanIpaddr isStaMode natInst, 0⟩ where
  holds := by
    intro a
    split
    next => rfl
    next hz =>
      refine (List.count_eq_zero_of_not_mem fun hm => hz ?_).symm
      exact List.eq_of_mem_replicate hm
  size := List.length_replicate

theorem forgotten_iff : Forgotten a l ↔ a ∉ l.nonnatIfaceIpv4Addr := by
  refine ⟨Forgotten.gone, fun gone => ⟨gone, fun cfg rule res ends hadd => ?_⟩⟩
  have hmatch : Listener.matchesIface l.nonnatIfaceIpv4Addr rule = false := by
    unfold Listener.matchesIface
    rw [List.any_eq_false]
    intro addr hm hsel
    obtain ⟨-, he⟩ := of_decide_eq_true hsel
    rcases ends with ⟨hp, ht⟩ | ⟨ht, hp⟩
    · grind
    · grind
  unfold Listener.addIface at hadd
  rw [hmatch] at hadd
  split at hadd
  next => exact Option.some.inj hadd ▸ rfl
  next =>
    grind

theorem NeighInv.forgets_iff (h : NeighInv s) {evt : ListenerEvent}
    (mode : OutsideSta s evt) : DeleteForgets drv s evt ↔ AddedOnce s evt := by
  cases evt with
  | neighClientIpAddrDel data =>
    refine imp_congr_right fun hz => ?_
    have after := (h.delete drv mode data).holds data.ipv4Addr
    rw [if_neg hz] at after
    change (s.outstanding.erase data.ipv4Addr).count data.ipv4Addr = _ at after
    rw [Multiset.count_erase_self] at after
    rw [forgotten_iff, ← List.count_eq_zero, ← after]
    omega
  | _ => exact Iff.rfl

/-- A neighbour on an interface that is not a NAT one. -/
def bridgeNeigh (ipv4Addr : UInt32) : NeighEvent where
  ipv4Addr := ipv4Addr
  isV4 := true
  ifrName := some "rmnet_data1"
  natIfaces := ["bridge0"]

end DeviceHal.Ipacm
