import DeviceHal.Ipacm.AddressLists

namespace DeviceHal.Ipacm

open Lib

universe v

variable {δ : Type v} {drv : NatDriver δ} {l : Listener δ} {clients : Finset UInt32} {x : UInt32}

/-- The listener, with the addresses of the STA clients added and not deleted since. -/
structure StaRecord (δ : Type v) where
  listener : Listener δ
  clients : Finset UInt32

def staClientsNext (clients : Finset UInt32) : ListenerEvent → Finset UInt32
  | .handleSTAClientAddEvt clntIpAddr => insert clntIpAddr clients
  | .handleSTAClientDelEvt clntIpAddr => clients.erase clntIpAddr
  | _ => clients

def staRecordStep (drv : NatDriver δ) (s : StaRecord δ) (evt : ListenerEvent) :
    Option (StaRecord δ) :=
  some ⟨listenerStep drv s.listener evt, staClientsNext s.clients evt⟩

/-- Addresses are not zero, and the clients are no more than there are slots. -/
def WithinLimit (s : StaRecord δ) : ListenerEvent → Prop
  | .handleSTAClientAddEvt clntIpAddr =>
    clntIpAddr ≠ 0 ∧ (insert clntIpAddr s.clients).card ≤ maxStaClntIfaces
  | .handleSTAClientDelEvt clntIpAddr => clntIpAddr ≠ 0
  | _ => True

/-- There are clients, all in the subnet of the address. -/
def InClientSubnet (clients : Finset UInt32) (ip : UInt32) : Prop :=
  clients.Nonempty ∧ ∀ c ∈ clients, c &&& staClntSubnetMask = ip &&& staClntSubnetMask

def OneSubnet (clients : Finset UInt32) : Prop :=
  ∀ c ∈ clients, ∀ c' ∈ clients, c &&& staClntSubnetMask = c' &&& staClntSubnetMask

/-- In STA mode a connection to the clients' subnet is made temporary just if its target is no
client. -/
def TemporaryRight (l : Listener δ) (clients : Finset UInt32) : Prop :=
  ∀ (rule : NatTableEntry Conntrack) (isTempEntry : Bool), InClientSubnet clients rule.targetIp →
    (({ l with isStaMode := true } : Listener δ).checkSTAClient rule isTempEntry = true ↔
      isTempEntry = true ∨ rule.targetIp ∉ clients)

/-- The slots and the counter stand for the clients, and `CheckSTAClient` knows them. -/
structure StaClientsRight (s : StaRecord δ) : Prop where
  once : SlotsHold 0 s.listener.staClntIpv4Addr s.clients
  counted : s.listener.staClntCnt = s.clients.card
  temporary : TemporaryRight s.listener s.clients

/-- An add for a client that is there finds it before a free slot. A delete that leaves clients of
one subnet leaves none of them behind the slot it frees, or behind one that is free. -/
def KeepsPacked (s : StaRecord δ) : ListenerEvent → Prop
  | .handleSTAClientAddEvt x => x ∈ s.clients →
    s.listener.staClntIpv4Addr.idxOf x < s.listener.staClntIpv4Addr.idxOf 0
  | .handleSTAClientDelEvt x => x ∈ s.clients → OneSubnet (s.clients.erase x) →
    ∀ c ∈ s.clients, c ≠ x →
      s.listener.staClntIpv4Addr.idxOf c < s.listener.staClntIpv4Addr.idxOf x ∧
      s.listener.staClntIpv4Addr.idxOf c < s.listener.staClntIpv4Addr.idxOf 0
  | _ => True

theorem xor_and_mask (c k m : UInt32) : (c ^^^ k) &&& m = (c &&& m) ^^^ (k &&& m) := by
  apply UInt32.toBitVec_inj.mp
  simp only [UInt32.toBitVec_and, UInt32.toBitVec_xor]
  ext i hi
  simp [Bool.and_xor_distrib_right]

theorem exists_stranger (few : clients.card ≤ maxStaClntIfaces) (c : UInt32) :
    ∃ ip, ip ∉ clients ∧ ip &&& staClntSubnetMask = c &&& staClntSubnetMask := by
  have inj : Set.InjOn (fun k : Nat => c ^^^ UInt32.ofNat k)
      (Finset.range (maxStaClntIfaces + 1)) := by
    intro i hi j hj he
    have hi' : i < maxStaClntIfaces + 1 := by simpa using hi
    have hj' : j < maxStaClntIfaces + 1 := by simpa using hj
    have hval := congrArg UInt32.toNat ((UInt32.xor_right_inj c).mp he)
    rw [UInt32.toNat_ofNat', UInt32.toNat_ofNat'] at hval
    unfold maxStaClntIfaces at hi' hj'
    omega
  have hcard := Finset.card_image_of_injOn inj
  rw [Finset.card_range] at hcard
  obtain ⟨ip, hip, hnew⟩ := Finset.exists_mem_notMem_of_card_lt_card
    (show clients.card < _ by rw [hcard]; omega)
  obtain ⟨k, hk, rfl⟩ := Finset.mem_image.mp hip
  refine ⟨_, hnew, ?_⟩
  have low : ∀ k < maxStaClntIfaces + 1, UInt32.ofNat k &&& staClntSubnetMask = 0 := by decide
  rw [xor_and_mask, low k (Finset.mem_range.mp hk), UInt32.xor_zero]

theorem checkSTAClient_eq (rule : NatTableEntry Conntrack) (isTempEntry : Bool)
    (some : l.staClntCnt ≠ 0) :
    ({ l with isStaMode := true } : Listener δ).checkSTAClient rule isTempEntry =
      if l.staClntIpv4Addr.headD 0 &&& staClntSubnetMask ≠ rule.targetIp &&& staClntSubnetMask then
        isTempEntry
      else if rule.targetIp ∈ l.staClntIpv4Addr.take l.staClntCnt then isTempEntry
      else true := by
  unfold Listener.checkSTAClient
  rw [if_neg (by simp [some])]
  simp

theorem temporaryRight_iff (once : SlotsHold 0 l.staClntIpv4Addr clients)
    (counted : l.staClntCnt = clients.card) (zfree : (0 : UInt32) ∉ clients)
    (few : clients.card ≤ maxStaClntIfaces) :
    TemporaryRight l clients ↔ (OneSubnet clients → Packed 0 l.staClntIpv4Addr clients) := by
  constructor
  · intro right subnet
    by_contra loose
    obtain ⟨c, hc, hbehind⟩ := once.exists_behind zfree loose
    have hcnt : l.staClntCnt ≠ 0 := by
      rw [counted]
      exact Finset.card_ne_zero_of_mem hc
    by_cases hhead : l.staClntIpv4Addr.headD 0 &&& staClntSubnetMask = c &&& staClntSubnetMask
    · -- the client itself is not found
      have hmark := right { targetIp := c } false ⟨⟨c, hc⟩, fun c' hc' => subnet c' hc' c hc⟩
      rw [checkSTAClient_eq _ _ hcnt, counted, if_neg (not_not.mpr hhead), if_neg hbehind] at hmark
      exact (hmark.mp rfl).elim Bool.noConfusion fun hnew => hnew hc
    · -- no address of the subnet is compared at all
      obtain ⟨ip, hnew, hip⟩ := exists_stranger few c
      have hmark := right { targetIp := ip } false
        ⟨⟨c, hc⟩, fun c' hc' => (subnet c' hc' c hc).trans hip.symm⟩
      rw [checkSTAClient_eq _ _ hcnt] at hmark
      grind
  · rintro packed rule isTempEntry ⟨⟨c, hc⟩, hsubnet⟩
    have hpacked := packed fun c hc c' hc' => (hsubnet c hc).trans (hsubnet c' hc').symm
    have htake := once.take_of_packed zfree hpacked
    have hpos : 0 < clients.card := Finset.card_pos.mpr ⟨c, hc⟩
    have hhead : l.staClntIpv4Addr.headD 0 ∈ clients := by
      obtain ⟨b, rest, hl⟩ := List.exists_cons_of_ne_nil
        (List.ne_nil_of_mem (once.mem zfree hc))
      rw [hl] at htake ⊢
      refine (htake b).mp ?_
      obtain ⟨n, hn⟩ := Nat.exists_eq_add_of_lt hpos
      rw [hn, Nat.zero_add, List.take_succ_cons]
      exact List.mem_cons_self
    rw [checkSTAClient_eq _ _ (by omega), counted, if_neg (not_not.mpr (hsubnet _ hhead))]
    grind

theorem staAdd_eq (hx : x ≠ 0) :
    (l.staClntCnt < maxStaClntIfaces → l.staClntIpv4Addr.idxOf 0 < l.staClntIpv4Addr.idxOf x →
      (l.handleSTAClientAddEvt drv x).staClntIpv4Addr =
        l.staClntIpv4Addr.set (l.staClntIpv4Addr.idxOf 0) x ∧
      (l.handleSTAClientAddEvt drv x).staClntCnt = l.staClntCnt + 1) ∧
    (l.staClntIpv4Addr.idxOf x < l.staClntIpv4Addr.idxOf 0 →
      (l.handleSTAClientAddEvt drv x).staClntIpv4Addr = l.staClntIpv4Addr ∧
      (l.handleSTAClientAddEvt drv x).staClntCnt = l.staClntCnt) := by
  have hidx : (l.staClntIpv4Addr.findIdx fun addr => (addr ≠ 0 ∧ addr = x) ∨ addr = 0) =
      min (l.staClntIpv4Addr.idxOf x) (l.staClntIpv4Addr.idxOf 0) := by
    rw [← findIdx_eq_idxOf, ← findIdx_eq_idxOf, ← findIdx_or]
    congr 1
    funext addr
    by_cases ha : addr = x
    · subst ha
      simp [hx]
    · simp [ha]
  unfold Listener.handleSTAClientAddEvt
  constructor
  · intro hcnt hfree
    have hz : (0 : UInt32) ∈ l.staClntIpv4Addr := by
      have hle := List.idxOf_le_length (a := x) (l := l.staClntIpv4Addr)
      exact List.idxOf_lt_length_iff.mp (by omega)
    grind
  · intro hthere
    split
    next => exact ⟨rfl, rfl⟩
    next =>
      have hm : x ∈ l.staClntIpv4Addr := by
        have hle := List.idxOf_le_length (a := (0 : UInt32)) (l := l.staClntIpv4Addr)
        exact List.idxOf_lt_length_iff.mp (by omega)
      grind

theorem staDel_eq (hx : x ≠ 0) :
    (x ∈ l.staClntIpv4Addr →
      (l.handleSTAClientDelEvt drv x).staClntIpv4Addr =
        l.staClntIpv4Addr.set (l.staClntIpv4Addr.idxOf x) 0 ∧
      (l.handleSTAClientDelEvt drv x).staClntCnt = l.staClntCnt - 1) ∧
    (x ∉ l.staClntIpv4Addr →
      (l.handleSTAClientDelEvt drv x).staClntIpv4Addr = l.staClntIpv4Addr ∧
      (l.handleSTAClientDelEvt drv x).staClntCnt = l.staClntCnt) := by
  have hidx : (l.staClntIpv4Addr.findIdx fun addr => addr ≠ 0 ∧ addr = x) =
      l.staClntIpv4Addr.idxOf x := by
    rw [← findIdx_eq_idxOf]
    congr 1
    funext addr
    by_cases ha : addr = x
    · subst ha
      simp [hx]
    · simp [ha]
  unfold Listener.handleSTAClientDelEvt
  grind

/-- What the slots are like as long as the clients are right. -/
structure StaInv (s : StaRecord δ) : Prop where
  once : SlotsHold 0 s.listener.staClntIpv4Addr s.clients
  counted : s.listener.staClntCnt = s.clients.card
  packed : OneSubnet s.clients → Packed 0 s.listener.staClntIpv4Addr s.clients
  zfree : (0 : UInt32) ∉ s.clients
  size : s.listener.staClntIpv4Addr.length = maxStaClntIfaces

variable {s : StaRecord δ}

theorem StaInv.right (h : StaInv s) : StaClientsRight s :=
  ⟨h.once, h.counted, (temporaryRight_iff h.once h.counted h.zfree
    (h.size ▸ h.once.card_le h.zfree)).mpr h.packed⟩

theorem StaInv.congr {s t : StaRecord δ} (h : StaInv s) (clients : t.clients = s.clients)
    (same : t.listener.staClntIpv4Addr = s.listener.staClntIpv4Addr ∧
      t.listener.staClntCnt = s.listener.staClntCnt) : StaInv t where
  once := by
    rw [same.1, clients]
    exact h.once
  counted := by
    rw [same.2, clients]
    exact h.counted
  packed := by
    rw [same.1, clients]
    exact h.packed
  zfree := by
    rw [clients]
    exact h.zfree
  size := by
    rw [same.1]
    exact h.size

theorem StaInv.add (h : StaInv s) (hx : x ≠ 0)
    (limit : (insert x s.clients).card ≤ maxStaClntIfaces)
    (good : KeepsPacked s (.handleSTAClientAddEvt x)) :
    StaInv ⟨s.listener.handleSTAClientAddEvt drv x, insert x s.clients⟩ := by
  by_cases hold : x ∈ s.clients
  · exact h.congr (Finset.insert_eq_of_mem hold) ((staAdd_eq hx).2 (good hold))
  · rw [Finset.card_insert_of_notMem hold] at limit
    have free : (0 : UInt32) ∈ s.listener.staClntIpv4Addr := by
      rw [h.once.free_iff h.zfree, h.size]
      omega
    have hnew : x ∉ s.listener.staClntIpv4Addr := fun hm => hold ((h.once.mem_iff hx).mp hm)
    have hlt := List.idxOf_lt_length_of_mem free
    have hidx : s.listener.staClntIpv4Addr.idxOf x = s.listener.staClntIpv4Addr.length :=
      List.idxOf_eq_length hnew
    have hcnt : s.listener.staClntCnt < maxStaClntIfaces := by
      rw [h.counted]
      omega
    obtain ⟨hslots, hcount⟩ := (staAdd_eq hx).1 hcnt (by omega)
    refine ⟨?_, ?_, fun subnet => ?_, ?_, ?_⟩
    · rw [hslots]
      exact h.once.fill free hold
    · change _ = (insert x s.clients).card
      rw [hcount, Finset.card_insert_of_notMem hold, h.counted]
    · rw [hslots]
      refine Packed.fill (h.packed fun c hc c' hc' => ?_) h.zfree free hx hold
      exact subnet c (Finset.mem_insert_of_mem hc) c' (Finset.mem_insert_of_mem hc')
    · intro hm
      rcases Finset.mem_insert.mp hm with he | hm
      · exact hx he.symm
      · exact h.zfree hm
    · rw [hslots, List.length_set]
      exact h.size

theorem StaInv.deleted (h : StaInv s) (hx : x ≠ 0) (old : x ∈ s.clients) :
    (s.listener.handleSTAClientDelEvt drv x).staClntIpv4Addr =
      s.listener.staClntIpv4Addr.set (s.listener.staClntIpv4Addr.idxOf x) 0 ∧
    (s.listener.handleSTAClientDelEvt drv x).staClntCnt = (s.clients.erase x).card := by
  obtain ⟨hslots, hcount⟩ := (staDel_eq hx).1 ((h.once.mem_iff hx).mpr old)
  refine ⟨hslots, ?_⟩
  rw [hcount, h.counted, Finset.card_erase_of_mem old]

theorem StaInv.delete (h : StaInv s) (hx : x ≠ 0)
    (good : KeepsPacked s (.handleSTAClientDelEvt x)) :
    StaInv ⟨s.listener.handleSTAClientDelEvt drv x, s.clients.erase x⟩ := by
  by_cases hold : x ∈ s.clients
  · obtain ⟨hslots, hcount⟩ := h.deleted hx hold
    refine ⟨?_, hcount, fun subnet => ?_, fun hm => h.zfree (Finset.mem_of_mem_erase hm), ?_⟩
    · rw [hslots]
      exact h.once.clear hx hold
    · rw [hslots]
      exact (h.once.packed_clear_iff h.zfree hold).mpr (good hold subnet)
    · rw [hslots, List.length_set]
      exact h.size
  · exact h.congr (Finset.erase_eq_of_notMem hold)
      ((staDel_eq hx).2 fun hm => hold ((h.once.mem_iff hx).mp hm))

theorem StaInv.add_breaks (h : StaInv s) (hx : x ≠ 0)
    (bad : ¬KeepsPacked s (.handleSTAClientAddEvt x)) :
    ¬StaClientsRight ⟨s.listener.handleSTAClientAddEvt drv x, insert x s.clients⟩ := by
  intro right
  unfold KeepsPacked at bad
  push Not at bad
  obtain ⟨hold, hle⟩ := bad
  have hm : x ∈ s.listener.staClntIpv4Addr := (h.once.mem_iff hx).mpr hold
  have hlt := List.idxOf_lt_length_of_mem hm
  have free : (0 : UInt32) ∈ s.listener.staClntIpv4Addr :=
    List.idxOf_lt_length_iff.mp (by omega)
  have hne : s.listener.staClntIpv4Addr.idxOf 0 ≠ s.listener.staClntIpv4Addr.idxOf x := by
    intro he
    have hget := getElem?_idxOf hm
    rw [← he, getElem?_idxOf free] at hget
    exact hx (Option.some.inj hget).symm
  have hcnt : s.listener.staClntCnt < maxStaClntIfaces := by
    rw [h.counted, ← h.size]
    exact (h.once.free_iff h.zfree).mp free
  have htwo := right.once x hx
  rw [((staAdd_eq hx).1 hcnt (by omega)).1, count_fill free hx, h.once x hx] at htwo
  simp [hold] at htwo

theorem StaInv.delete_breaks (h : StaInv s) (hx : x ≠ 0)
    (bad : ¬KeepsPacked s (.handleSTAClientDelEvt x)) :
    ¬StaClientsRight ⟨s.listener.handleSTAClientDelEvt drv x, s.clients.erase x⟩ := by
  intro right
  refine bad fun hold subnet => ?_
  have zfree : (0 : UInt32) ∉ s.clients.erase x := fun hm => h.zfree (Finset.mem_of_mem_erase hm)
  have few : (s.clients.erase x).card ≤ maxStaClntIfaces := by
    have hle := h.once.card_le h.zfree
    have herase := Finset.card_le_card (Finset.erase_subset x s.clients)
    rw [h.size] at hle
    omega
  have packed := (temporaryRight_iff right.once right.counted zfree few).mp right.temporary subnet
  dsimp only at packed
  rw [(h.deleted hx hold).1] at packed
  exact (h.once.packed_clear_iff h.zfree hold).mp packed

theorem StaInv.step (h : StaInv s) {evt : ListenerEvent}
    (limit : WithinLimit s evt) (good : KeepsPacked s evt) :
    StaInv ⟨listenerStep drv s.listener evt, staClientsNext s.clients evt⟩ := by
  cases evt with
  | handleSTAClientAddEvt x => exact h.add limit.1 limit.2 good
  | handleSTAClientDelEvt x => exact h.delete limit good
  | neighClientIpAddrAdd data => exact h.congr rfl (handleNonNatIPAddr_sta data true)
  | neighClientIpAddrDel data => exact h.congr rfl (handleNonNatIPAddr_sta data false)
  | _ =>
    refine h.congr rfl (SameLists.sta ?_)
    dsimp only
    apply sameLists_step
    exact not_false

theorem StaInv.init (wanIpaddr : UInt32) (isStaMode : Bool) (natInst : NatApp Conntrack δ) :
    StaInv ⟨Listener.init wanIpaddr isStaMode natInst, ∅⟩ where
  once := by
    intro a ha
    simp [List.count_replicate, if_neg (by simpa using ha.symm), Listener.init]
  counted := rfl
  packed := fun _ a ha => absurd ha (Finset.notMem_empty a)
  zfree := Finset.notMem_empty 0
  size := List.length_replicate

/-- All along a run the listener is right about the STA clients exactly if no add comes behind a
free slot for a client that is there, and no delete leaves clients of one subnet behind one. -/
theorem sta_clients_right_iff (drv : NatDriver δ) (wanIpaddr : UInt32) (isStaMode : Bool)
    (natInst : NatApp Conntrack δ) {evts : List ListenerEvent}
    (limit : OpsMeet (staRecordStep drv) WithinLimit
      ⟨Listener.init wanIpaddr isStaMode natInst, ∅⟩ evts) :
    Always (staRecordStep drv) StaClientsRight ⟨Listener.init wanIpaddr isStaMode natInst, ∅⟩ evts ↔
      OpsMeet (staRecordStep drv) KeepsPacked
        ⟨Listener.init wanIpaddr isStaMode natInst, ∅⟩ evts := by
  refine always_iff (fun s h => StaInv.right h)
    (fun s evt h limit good => ⟨_, rfl, h.step limit good⟩)
    (fun s evt h limit bad => ⟨_, rfl, ?_⟩) (StaInv.init wanIpaddr isStaMode natInst) limit
  cases evt with
  | handleSTAClientAddEvt x => exact h.add_breaks limit.1 bad
  | handleSTAClientDelEvt x => exact h.delete_breaks limit bad
  | _ => exact absurd trivial bad

theorem sta_clients_right_iff_last : Always (staRecordStep (ledgerDriver true 4)) StaClientsRight
    ⟨Listener.init 1 true (NatApp.init 1 [] 0 [] {}), ∅⟩
    [.handleSTAClientAddEvt 0xC0A80102, .handleSTAClientAddEvt 0xC0A80103,
      .handleSTAClientDelEvt 0xC0A80103] := by
  refine (sta_clients_right_iff (ledgerDriver true 4) 1 true (NatApp.init 1 [] 0 [] {}) ?_).mpr ?_
  · refine ⟨⟨by decide, by decide⟩, fun _ hb => ?_⟩
    cases hb
    have nonzero : (0xC0A80103 : UInt32) ≠ 0 := by decide
    exact ⟨⟨by decide, by decide⟩, fun _ _ => ⟨nonzero, fun _ _ => trivial⟩⟩
  · refine ⟨fun h => absurd h (by decide), fun _ hb => ?_⟩
    cases hb
    refine ⟨fun h => absurd h (by decide), fun _ hc => ?_⟩
    cases hc
    refine ⟨fun _ _ c hc hne => ?_, fun _ _ => trivial⟩
    have clients : c = 0xC0A80103 ∨ c = 0xC0A80102 ∨ c ∈ (∅ : Finset UInt32) :=
      (Finset.mem_insert.mp hc).imp_right Finset.mem_insert.mp
    rcases clients with rfl | rfl | hc
    · exact absurd rfl hne
    · exact ⟨by decide, by decide⟩
    · exact absurd hc (Finset.notMem_empty c)

/-- The first of two clients leaves, and a connection to no client is not made temporary. -/
theorem first_client_leaves : ¬∀ (δ : Type) (drv : NatDriver δ) (wanIpaddr : UInt32)
    (isStaMode : Bool) (natInst : NatApp Conntrack δ) (evts : List ListenerEvent),
    OpsMeet (staRecordStep drv) WithinLimit ⟨Listener.init wanIpaddr isStaMode natInst, ∅⟩ evts →
    Always (staRecordStep drv) StaClientsRight
      ⟨Listener.init wanIpaddr isStaMode natInst, ∅⟩ evts := by
  intro h
  have always := h Ledger (ledgerDriver true 4) 1 true (NatApp.init 1 [] 0 [] {})
    [.handleSTAClientAddEvt 0xC0A80102, .handleSTAClientAddEvt 0xC0A80103,
      .handleSTAClientDelEvt 0xC0A80102] ?_
  · have last := (((always.2 _ rfl).2 _ rfl).2 _ rfl).temporary { targetIp := 0xC0A80109 } false
    have subnet : InClientSubnet {0xC0A80103} 0xC0A80109 := by
      refine ⟨⟨_, Finset.mem_singleton_self _⟩, fun c hc => ?_⟩
      rw [Finset.mem_singleton.mp hc]
      decide
    have marked := (last subnet).mpr (Or.inr (by decide))
    revert marked
    decide
  · refine ⟨⟨by decide, by decide⟩, fun _ hb => ?_⟩
    cases hb
    have nonzero : (0xC0A80102 : UInt32) ≠ 0 := by decide
    exact ⟨⟨by decide, by decide⟩, fun _ _ => ⟨nonzero, fun _ _ => trivial⟩⟩

end DeviceHal.Ipacm
