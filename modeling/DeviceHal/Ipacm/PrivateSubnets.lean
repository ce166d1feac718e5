import DeviceHal.Ipacm.Listener
import DeviceHal.Ipacm.UplinkLan
import DeviceHal.Lib.Run
import Mathlib.Data.List.Dedup
import Mathlib.Data.List.Perm.Basic

namespace DeviceHal.Ipacm

open Lib

def PrivateSubnet.Contains (e : PrivateSubnet) (ipAddr : UInt32) : Prop :=
  e.subnetAddr = e.subnetMask &&& ipAddr

instance (e : PrivateSubnet) (ipAddr : UInt32) : Decidable (e.Contains ipAddr) :=
  inferInstanceAs (Decidable (_ = _))

/-- The entry that is made for the subnet of an interface. -/
def slash24 (subnet : UInt32) : PrivateSubnet where
  subnetAddr := subnet
  subnetMask := (~~~(0 : UInt32) >>> 8) <<< 8

theorem slash24_injective : Function.Injective slash24 := fun _ _ h =>
  congrArg PrivateSubnet.subnetAddr h

/-- The part of IPACM_Config with the private subnets. -/
structure SubnetTable where
  privateSubnetTable : List PrivateSubnet
  ipaNumPrivateSubnet : Nat
  size : privateSubnetTable.length = ipaMaxPrivateSubnetEntries
  bounded : ipaNumPrivateSubnet ≤ ipaMaxPrivateSubnetEntries

namespace SubnetTable

/-- The entries in use, which the loops go over. -/
def entries (s : SubnetTable) : List PrivateSubnet := s.privateSubnetTable.take s.ipaNumPrivateSubnet

/-- What `Init` makes of the configuration. -/
def init (config : List PrivateSubnet) (h : config.length ≤ ipaMaxPrivateSubnetEntries) :
    SubnetTable where
  privateSubnetTable :=
    config ++ List.replicate (ipaMaxPrivateSubnetEntries - config.length) ⟨0, 0⟩
  ipaNumPrivateSubnet := config.length
  size := by
    rw [List.length_append, List.length_replicate]
    omega
  bounded := h

def isPrivateSubnet (s : SubnetTable) (ipAddr : UInt32) : Bool :=
  s.entries.any fun e => e.subnetAddr = e.subnetMask &&& ipAddr

def addPrivateSubnet (s : SubnetTable) (ipAddr : UInt32) : Bool × SubnetTable :=
  if s.entries.any fun e => e.subnetAddr = ipAddr then (true, s)
  else if h : s.ipaNumPrivateSubnet < ipaMaxPrivateSubnetEntries then
    (true, { s with
      privateSubnetTable := s.privateSubnetTable.set s.ipaNumPrivateSubnet (slash24 ipAddr)
      ipaNumPrivateSubnet := s.ipaNumPrivateSubnet + 1
      size := by rw [List.length_set, s.size]
      bounded := h })
  else (false, s)

/-- The addresses behind the deleted one move down, the masks stay. -/
def moveAddrs : Nat → Nat → List PrivateSubnet → List PrivateSubnet
  | 0, _, t => t
  | left + 1, cnt, t =>
    moveAddrs left (cnt + 1)
      (t.modify cnt fun e => { e with subnetAddr := (t.getD (cnt + 1) ⟨0, 0⟩).subnetAddr })

theorem moveAddrs_length (left cnt : Nat) (t : List PrivateSubnet) :
    (moveAddrs left cnt t).length = t.length := by
  induction left generalizing cnt t with
  | zero => rfl
  | succ left ih => rw [moveAddrs, ih, List.length_modify]

def delPrivateSubnet (s : SubnetTable) (ipAddr : UInt32) : Bool × SubnetTable :=
  match s.entries.findIdx? fun e => e.subnetAddr = ipAddr with
  | some cnt =>
    (true, { s with
      privateSubnetTable :=
        moveAddrs (s.ipaNumPrivateSubnet - 1 - cnt) cnt s.privateSubnetTable
      ipaNumPrivateSubnet := s.ipaNumPrivateSubnet - 1
      size := by rw [moveAddrs_length, s.size]
      bounded := Nat.le_trans (Nat.sub_le _ 1) s.bounded })
  | none => (false, s)

section tables

variable {s : SubnetTable} {ipAddr : UInt32}

theorem entries_length (s : SubnetTable) : s.entries.length = s.ipaNumPrivateSubnet := by
  rw [entries, List.length_take, s.size]
  exact Nat.min_eq_left s.bounded

theorem isPrivateSubnet_iff : s.isPrivateSubnet ipAddr = true ↔ ∃ e ∈ s.entries, e.Contains ipAddr := by
  simp [isPrivateSubnet, PrivateSubnet.Contains]

@[simp] theorem init_entries (config : List PrivateSubnet)
    (h : config.length ≤ ipaMaxPrivateSubnetEntries) : (init config h).entries = config := by
  simp [entries, init]

theorem add_present (h : ∃ e ∈ s.entries, e.subnetAddr = ipAddr) :
    s.addPrivateSubnet ipAddr = (true, s) := by
  refine if_pos ?_
  simpa using h

theorem add_absent_entries (h : ∀ e ∈ s.entries, e.subnetAddr ≠ ipAddr)
    (added : (s.addPrivateSubnet ipAddr).1 = true) :
    (s.addPrivateSubnet ipAddr).2.entries = s.entries ++ [slash24 ipAddr] := by
  have hnone : ¬(s.entries.any fun e => e.subnetAddr = ipAddr) = true := by simpa using h
  have hroom : s.ipaNumPrivateSubnet < ipaMaxPrivateSubnetEntries := by
    by_contra hfull
    simp [addPrivateSubnet, hnone, hfull] at added
  have hlt : s.ipaNumPrivateSubnet < s.privateSubnetTable.length := by rw [s.size]; exact hroom
  rw [addPrivateSubnet, if_neg hnone, dif_pos hroom]
  simp only [entries]
  rw [List.take_succ_eq_append_getElem (by rwa [List.length_set]),
    List.take_set_of_le (Nat.le_refl _), List.getElem_set_self]

theorem mem_add {e : PrivateSubnet} (added : (s.addPrivateSubnet ipAddr).1 = true)
    (he : e ∈ s.entries) : e ∈ (s.addPrivateSubnet ipAddr).2.entries := by
  by_cases hpresent : ∃ x ∈ s.entries, x.subnetAddr = ipAddr
  · rwa [add_present hpresent]
  · have habsent : ∀ x ∈ s.entries, x.subnetAddr ≠ ipAddr := fun x hx heq => hpresent ⟨x, hx, heq⟩
    rw [add_absent_entries habsent added]
    exact List.mem_append_left _ he

theorem del_length (h : ∃ e ∈ s.entries, e.subnetAddr = ipAddr) :
    (s.delPrivateSubnet ipAddr).2.entries.length + 1 = s.entries.length := by
  obtain ⟨cnt, hcnt⟩ : ∃ cnt, s.entries.findIdx? (fun e => e.subnetAddr = ipAddr) = some cnt := by
    refine Option.isSome_iff_exists.mp ?_
    simpa [List.findIdx?_isSome] using h
  grind [delPrivateSubnet, entries_length]

theorem moveAddrs_slash24 {pre rest : List PrivateSubnet} (n : UInt32) (post : List UInt32) :
    ∃ last, moveAddrs post.length pre.length (pre ++ slash24 n :: (post.map slash24 ++ rest)) =
      pre ++ post.map slash24 ++ last :: rest := by
  induction post generalizing pre n with
  | nil => exact ⟨slash24 n, by simp [moveAddrs]⟩
  | cons p post ih =>
    obtain ⟨last, hlast⟩ := @ih (pre ++ [slash24 p]) p
    refine ⟨last, ?_⟩
    have hnext : (pre ++ slash24 n :: (slash24 p :: (post.map slash24 ++ rest))).modify pre.length
        (fun e => { e with subnetAddr := p }) =
        (pre ++ [slash24 p]) ++ slash24 p :: (post.map slash24 ++ rest) := by
      rw [List.modify_eq_take_cons_drop (by simp)]
      simp [slash24]
    have hget : (pre ++ slash24 n :: (slash24 p :: (post.map slash24 ++ rest))).getD
        (pre.length + 1) ⟨0, 0⟩ = slash24 p := by simp
    rw [List.map_cons, List.cons_append, List.length_cons, moveAddrs, hget]
    rw [List.length_append, List.length_singleton] at hlast
    rw [show (slash24 p).subnetAddr = p from rfl, hnext, hlast]
    simp

theorem del_slash24 {config : List PrivateSubnet} {pre post : List UInt32}
    (h : s.entries = config ++ (pre ++ ipAddr :: post).map slash24)
    (hconfig : ∀ e ∈ config, e.subnetAddr ≠ ipAddr) (hpre : ipAddr ∉ pre) :
    (s.delPrivateSubnet ipAddr).2.entries = config ++ (pre ++ post).map slash24 := by
  have hfront : ∀ e ∈ config ++ pre.map slash24, ¬e.subnetAddr = ipAddr := by
    intro e he heq
    rcases List.mem_append.mp he with he | he
    · exact hconfig e he heq
    · obtain ⟨n, hn, rfl⟩ := List.mem_map.mp he
      exact hpre (heq ▸ hn)
  rw [List.map_append, List.map_cons, ← List.append_assoc] at h
  rw [List.map_append, ← List.append_assoc]
  generalize config ++ pre.map slash24 = front at h hfront
  have hcnt : s.entries.findIdx? (fun e => e.subnetAddr = ipAddr) = some front.length := by
    have hnone : front.findIdx? (fun e => e.subnetAddr = ipAddr) = none := by
      simpa [List.findIdx?_eq_none_iff] using hfront
    simp [h, hnone, List.findIdx?_cons, slash24]
  have hnum : s.ipaNumPrivateSubnet = front.length + post.length + 1 := by
    rw [← entries_length, h]
    simp only [List.length_append, List.length_cons, List.length_map]
    omega
  have hleft : s.ipaNumPrivateSubnet - 1 - front.length = post.length := by omega
  have harray : s.privateSubnetTable =
      front ++ slash24 ipAddr :: (post.map slash24 ++ s.privateSubnetTable.drop s.ipaNumPrivateSubnet) := by
    have hsplit := List.take_append_drop s.ipaNumPrivateSubnet s.privateSubnetTable
    rw [show s.privateSubnetTable.take s.ipaNumPrivateSubnet = s.entries from rfl, h] at hsplit
    simpa using hsplit.symm
  obtain ⟨last, hlast⟩ := @moveAddrs_slash24 front
    (s.privateSubnetTable.drop s.ipaNumPrivateSubnet) ipAddr post
  rw [← harray] at hlast
  simp only [delPrivateSubnet, hcnt, hleft, hlast]
  rw [entries, List.take_append_of_le_length (by simp; omega), List.take_of_length_le (by simp; omega)]

end tables

end SubnetTable

/-- What an interface with an IPv4 address makes of the table. -/
inductive SubnetOp where
  | addr (ifNum : Nat) (ipv4Addr : UInt32)
  | down (ifNum : Nat)
deriving DecidableEq

/-- The configured pairs, the table, and the `if_ipv4_subnet` of each interface that is up. -/
structure SubnetRun where
  configured : List PrivateSubnet
  table : SubnetTable
  up : List (Nat × UInt32)

namespace SubnetRun

def start (config : List PrivateSubnet) (h : config.length ≤ ipaMaxPrivateSubnetEntries) :
    SubnetRun := ⟨config, .init config h, []⟩

def ifIpv4Subnet (ipv4Addr : UInt32) : UInt32 := (ipv4Addr >>> 8) <<< 8

/-- `handle_addr_evt` and `handle_down_evt`. An interface without an IPv4 address deletes nothing. -/
def step (s : SubnetRun) : SubnetOp → Option SubnetRun
  | .addr ifNum ipv4Addr =>
    some { s with
      table := (s.table.addPrivateSubnet (ifIpv4Subnet ipv4Addr)).2
      up := (ifNum, ifIpv4Subnet ipv4Addr) :: s.up.filter (·.1 ≠ ifNum) }
  | .down ifNum =>
    match s.up.find? (·.1 = ifNum) with
    | some u =>
      some { s with
        table := (s.table.delPrivateSubnet u.2).2
        up := s.up.filter (·.1 ≠ ifNum) }
    | none => some s

def Admits (s : SubnetRun) : SubnetOp → Prop
  | .addr _ ipv4Addr => (s.table.addPrivateSubnet (ifIpv4Subnet ipv4Addr)).1 = true
  | .down _ => True

/-- The subnets of the interfaces that are up, each one once. -/
def upSubnets (s : SubnetRun) : List UInt32 := (s.up.map (·.2)).dedup

/-- The configured pairs, and those of the interfaces that are up. -/
def wanted (s : SubnetRun) : List PrivateSubnet :=
  s.configured ++ (s.upSubnets.map slash24).filter (· ∉ s.configured)

structure TableRight (s : SubnetRun) : Prop where
  entries : s.table.entries.Perm s.wanted
  isPrivate : ∀ ipAddr, s.table.isPrivateSubnet ipAddr = true ↔
    (∃ e ∈ s.configured, e.Contains ipAddr) ∨ ∃ u ∈ s.up, (slash24 u.2).Contains ipAddr

/-- The subnet of an interface is configured as well, or another interface has it too. -/
def Shared (s : SubnetRun) (ifNum : Nat) (subnet : UInt32) : Prop :=
  slash24 subnet ∈ s.configured ∨ ∃ u ∈ s.up, u.1 ≠ ifNum ∧ u.2 = subnet

/-- A new subnet is not configured with another mask only, and an old one that is left is shared; an
interface that goes down shares its subnet with no other. -/
def Separate (s : SubnetRun) : SubnetOp → Prop
  | .addr ifNum ipv4Addr =>
    ((∃ e ∈ s.configured, e.subnetAddr = ifIpv4Subnet ipv4Addr) →
      slash24 (ifIpv4Subnet ipv4Addr) ∈ s.configured) ∧
    ∀ u ∈ s.up, u.1 = ifNum → u.2 = ifIpv4Subnet ipv4Addr ∨ s.Shared ifNum u.2
  | .down ifNum => ∀ u ∈ s.up, u.1 = ifNum → ¬s.Shared ifNum u.2

/-- The entries are the configured pairs and behind them the subnets `own` of interfaces that are
not configured. -/
structure Owned (s : SubnetRun) (own : List UInt32) : Prop where
  entries : s.table.entries = s.configured ++ own.map slash24
  nodup : own.Nodup
  own_iff : ∀ n, n ∈ own ↔ (∃ u ∈ s.up, u.2 = n) ∧ slash24 n ∉ s.configured
  masks : ∀ u ∈ s.up, ∀ e ∈ s.configured, e.subnetAddr = u.2 → slash24 u.2 ∈ s.configured
  keys : (s.up.map (·.1)).Nodup

section owned

variable {s : SubnetRun} {own : List UInt32}

theorem start_owned (config : List PrivateSubnet) (h : config.length ≤ ipaMaxPrivateSubnetEntries) :
    Owned (start config h) [] where
  entries := by simp [start]
  nodup := List.nodup_nil
  own_iff := by simp [start]
  masks := by simp [start]
  keys := List.nodup_nil

theorem wanted_perm (nodup : own.Nodup)
    (own_iff : ∀ n, n ∈ own ↔ (∃ u ∈ s.up, u.2 = n) ∧ slash24 n ∉ s.configured) :
    s.wanted.Perm (s.configured ++ own.map slash24) := by
  refine List.Perm.append_left s.configured ?_
  have hleft : ((s.upSubnets.map slash24).filter (· ∉ s.configured)).Nodup :=
    ((List.nodup_dedup _).map slash24_injective).filter _
  refine (List.perm_ext_iff_of_nodup hleft (nodup.map slash24_injective)).mpr fun e => ?_
  simp only [List.mem_filter, List.mem_map, upSubnets, List.mem_dedup, decide_eq_true_eq, own_iff]
  constructor
  · grind
  · grind

theorem mem_wanted {n : UInt32} :
    slash24 n ∈ s.wanted ↔ slash24 n ∈ s.configured ∨ ∃ u ∈ s.up, u.2 = n := by
  by_cases hmem : slash24 n ∈ s.configured
  · simp [wanted, hmem]
  · simp [wanted, hmem, upSubnets, slash24_injective.eq_iff]

theorem Owned.right (h : Owned s own) : TableRight s where
  entries := h.entries ▸ (wanted_perm h.nodup h.own_iff).symm
  isPrivate ipAddr := by
    rw [SubnetTable.isPrivateSubnet_iff, h.entries]
    constructor
    · rintro ⟨e, he, hin⟩
      rcases List.mem_append.mp he with he | he
      · exact Or.inl ⟨e, he, hin⟩
      · obtain ⟨n, hn, rfl⟩ := List.mem_map.mp he
        obtain ⟨⟨u, hu, rfl⟩, -⟩ := (h.own_iff n).mp hn
        exact Or.inr ⟨u, hu, hin⟩
    · rintro (⟨e, he, hin⟩ | ⟨u, hu, hin⟩)
      · exact ⟨e, List.mem_append_left _ he, hin⟩
      · refine ⟨slash24 u.2, ?_, hin⟩
        by_cases hconf : slash24 u.2 ∈ s.configured
        · exact List.mem_append_left _ hconf
        · have hown : u.2 ∈ own := (h.own_iff u.2).mpr ⟨⟨u, hu, rfl⟩, hconf⟩
          exact List.mem_append_right _ (List.mem_map_of_mem hown)

theorem Owned.mem_entries (h : Owned s own) {u : Nat × UInt32} (hu : u ∈ s.up) :
    slash24 u.2 ∈ s.table.entries :=
  h.right.entries.mem_iff.mpr (mem_wanted.mpr (Or.inr ⟨u, hu, rfl⟩))

theorem Owned.addr_iff (h : Owned s own) {n : UInt32} :
    (∃ e ∈ s.table.entries, e.subnetAddr = n) ↔
      (∃ e ∈ s.configured, e.subnetAddr = n) ∨ n ∈ own := by
  simp only [h.entries, List.mem_append, or_and_right, exists_or, List.mem_map]
  refine or_congr_right ⟨?_, fun hn => ⟨slash24 n, ⟨n, hn, rfl⟩, rfl⟩⟩
  rintro ⟨e, ⟨m, hm, rfl⟩, rfl⟩
  exact hm

theorem mem_put {i : Nat} {n m : UInt32} :
    (∃ u ∈ (i, n) :: s.up.filter (·.1 ≠ i), u.2 = m) ↔
      n = m ∨ ∃ u ∈ s.up, u.1 ≠ i ∧ u.2 = m := by
  simp [and_assoc]

variable {ifNum : Nat}

theorem Owned.addr (h : Owned s own) {ipv4Addr : UInt32}
    (admits : Admits s (.addr ifNum ipv4Addr)) (good : Separate s (.addr ifNum ipv4Addr)) :
    ∃ t own', s.step (.addr ifNum ipv4Addr) = some t ∧ Owned t own' := by
  have added : (s.table.addPrivateSubnet (ifIpv4Subnet ipv4Addr)).1 = true := admits
  obtain ⟨hmasks, hold⟩ := good
  simp only [step]
  generalize ifIpv4Subnet ipv4Addr = n at added hmasks hold
  -- the interface leaves no subnet behind that is not configured
  have hkept : ∀ m, slash24 m ∉ s.configured → (∃ u ∈ s.up, u.2 = m) →
      n = m ∨ ∃ u ∈ s.up, u.1 ≠ ifNum ∧ u.2 = m := by
    rintro m hm ⟨u, hu, rfl⟩
    by_cases hi : u.1 = ifNum
    · rcases hold u hu hi with heq | hconf | hother
      · exact Or.inl heq.symm
      · exact absurd hconf hm
      · exact Or.inr hother
    · exact Or.inr ⟨u, hu, hi, rfl⟩
  have hmasks' : ∀ u ∈ (ifNum, n) :: s.up.filter (·.1 ≠ ifNum), ∀ e ∈ s.configured,
      e.subnetAddr = u.2 → slash24 u.2 ∈ s.configured := by
    intro u hu e he heq
    rcases List.mem_cons.mp hu with rfl | hu
    · exact hmasks ⟨e, he, heq⟩
    · exact h.masks u (List.mem_of_mem_filter hu) e he heq
  have hkeys : (((ifNum, n) :: s.up.filter (·.1 ≠ ifNum)).map (·.1)).Nodup := by
    refine List.nodup_cons.mpr ⟨by simp, ?_⟩
    exact (List.filter_sublist.map _).nodup h.keys
  by_cases hpresent : ∃ e ∈ s.table.entries, e.subnetAddr = n
  · refine ⟨_, own, rfl, ?_, h.nodup, fun m => ?_, hmasks', hkeys⟩
    · dsimp only
      rw [SubnetTable.add_present hpresent]
      exact h.entries
    · have hn : slash24 n ∉ s.configured → n ∈ own := fun hnot =>
        (h.addr_iff.mp hpresent).resolve_left fun hconf => hnot (hmasks hconf)
      rw [mem_put, h.own_iff]
      refine and_congr_left fun hm => ⟨hkept m hm, ?_⟩
      rintro (rfl | ⟨u, hu, -, heq⟩)
      · exact ((h.own_iff n).mp (hn hm)).1
      · exact ⟨u, hu, heq⟩
  · have hnew : n ∉ own ∧ slash24 n ∉ s.configured := by
      rw [h.addr_iff, not_or] at hpresent
      exact ⟨hpresent.2, fun hconf => hpresent.1 ⟨_, hconf, rfl⟩⟩
    refine ⟨_, own ++ [n], rfl, ?_, ?_, fun m => ?_, hmasks', hkeys⟩
    · have habsent : ∀ e ∈ s.table.entries, e.subnetAddr ≠ n := fun e he heq => hpresent ⟨e, he, heq⟩
      simp [SubnetTable.add_absent_entries habsent added, h.entries]
    · simpa using h.nodup.concat hnew.1
    · rw [mem_put, List.mem_append, List.mem_singleton, h.own_iff]
      constructor
      · grind
      grind

theorem Owned.find (h : Owned s own) {u : Nat × UInt32} (hu : u ∈ s.up) :
    s.up.find? (·.1 = u.1) = some u := by
  obtain ⟨front, back, hup⟩ := List.append_of_mem hu
  have hkeys := h.keys
  rw [hup, List.map_append, List.map_cons, List.nodup_append] at hkeys
  have hfront : front.find? (·.1 = u.1) = none := by
    refine List.find?_eq_none.mpr fun x hx heq => ?_
    exact hkeys.2.2 _ (List.mem_map_of_mem hx) _ List.mem_cons_self (of_decide_eq_true heq)
  simp [hup, List.find?_append, hfront]

theorem Owned.down (h : Owned s own) (good : Separate s (.down ifNum)) :
    ∃ t own', s.step (.down ifNum) = some t ∧ Owned t own' := by
  simp only [step]
  cases hfind : s.up.find? (·.1 = ifNum) with
  | none => exact ⟨s, own, rfl, h⟩
  | some u =>
    have hu : u ∈ s.up := List.mem_of_find?_eq_some hfind
    have hi : u.1 = ifNum := by simpa using List.find?_some hfind
    obtain ⟨hconf, halone⟩ := not_or.mp (good u hu hi)
    have hmem : u.2 ∈ own := (h.own_iff u.2).mpr ⟨⟨u, hu, rfl⟩, hconf⟩
    obtain ⟨pre, post, rfl⟩ := List.append_of_mem hmem
    have hnodup := List.nodup_middle.mp h.nodup
    obtain ⟨hout, hrest⟩ := List.nodup_cons.mp hnodup
    have hother : ∀ m, m ≠ u.2 →
        ((∃ x ∈ s.up.filter (·.1 ≠ ifNum), x.2 = m) ↔ ∃ x ∈ s.up, x.2 = m) := by
      refine fun m hm => ⟨fun ⟨x, hx, heq⟩ => ⟨x, List.mem_of_mem_filter hx, heq⟩, ?_⟩
      rintro ⟨x, hx, rfl⟩
      refine ⟨x, List.mem_filter.mpr ⟨hx, decide_eq_true fun hxi => hm ?_⟩, rfl⟩
      have hfound := h.find hx
      rw [hxi, hfind] at hfound
      rw [Option.some.inj hfound]
    refine ⟨_, pre ++ post, rfl, ?_, hrest, fun m => ?_, ?_, ?_⟩
    · refine SubnetTable.del_slash24 h.entries (fun e he heq => ?_) fun hin => ?_
      · exact hconf (h.masks u hu e he heq)
      · exact hout (List.mem_append_left _ hin)
    · by_cases hm : m = u.2
      · grind
      · rw [hother m hm, ← h.own_iff]
        simp [hm]
    · exact fun x hx => h.masks x (List.mem_of_mem_filter hx)
    · exact (List.filter_sublist.map _).nodup h.keys

theorem Owned.addr_breaks (h : Owned s own) {ipv4Addr : UInt32}
    (admits : Admits s (.addr ifNum ipv4Addr)) (bad : ¬Separate s (.addr ifNum ipv4Addr)) :
    ∃ t, s.step (.addr ifNum ipv4Addr) = some t ∧ ¬TableRight t := by
  have added : (s.table.addPrivateSubnet (ifIpv4Subnet ipv4Addr)).1 = true := admits
  refine ⟨_, rfl, fun hright => bad ?_⟩
  have hmem := fun m => (hright.entries.mem_iff (a := slash24 m)).trans mem_wanted
  simp only [mem_put] at hmem
  simp only [Separate]
  generalize ifIpv4Subnet ipv4Addr = n at added hmem
  refine ⟨?_, fun u hu hi => ?_⟩
  · rintro ⟨e, he, heq⟩
    have hpresent : ∃ x ∈ s.table.entries, x.subnetAddr = n := h.addr_iff.mpr (Or.inl ⟨e, he, heq⟩)
    have hin := (hmem n).mpr (Or.inr (Or.inl rfl))
    rw [SubnetTable.add_present hpresent, h.entries] at hin
    rcases List.mem_append.mp hin with hconf | hown
    · exact hconf
    · have hn : n ∈ own := (List.mem_map_of_injective slash24_injective).mp hown
      obtain ⟨⟨u, hu, rfl⟩, -⟩ := (h.own_iff n).mp hn
      exact h.masks u hu e he heq
  · have hin := SubnetTable.mem_add added (h.mem_entries hu)
    rcases (hmem u.2).mp hin with hconf | heq | hother
    · exact Or.inr (Or.inl hconf)
    · exact Or.inl heq.symm
    · exact Or.inr (Or.inr (hi ▸ hother))

theorem Owned.down_breaks (h : Owned s own) (bad : ¬Separate s (.down ifNum)) :
    ∃ t, s.step (.down ifNum) = some t ∧ ¬TableRight t := by
  simp only [Separate, not_forall, not_not] at bad
  obtain ⟨u, hu, rfl, hshared⟩ := bad
  simp only [step, h.find hu]
  refine ⟨_, rfl, fun hright => ?_⟩
  have hlen : (s.table.delPrivateSubnet u.2).2.entries.length + 1 = s.table.entries.length :=
    SubnetTable.del_length ⟨slash24 u.2, h.mem_entries hu, rfl⟩
  have hsame : ∀ m, m ∈ own ↔
      (∃ x ∈ s.up.filter (·.1 ≠ u.1), x.2 = m) ∧ slash24 m ∉ s.configured := by
    intro m
    rw [h.own_iff]
    refine and_congr_left fun hm => ⟨?_, ?_⟩
    · rintro ⟨x, hx, rfl⟩
      by_cases hxi : x.1 = u.1
      · have hxu : x = u := Option.some.inj ((h.find hx).symm.trans (hxi ▸ h.find hu))
        obtain ⟨y, hy, hyi, heq⟩ := hshared.resolve_left (hxu ▸ hm)
        grind
      grind
    · grind
  have hwanted := hright.entries.trans (wanted_perm h.nodup hsame)
  have hcount : (s.table.delPrivateSubnet u.2).2.entries.length = s.table.entries.length := by
    rw [h.entries]
    exact hwanted.length_eq
  omega

end owned

/-- The table is right after every event exactly if no interface has a subnet that is configured with
another mask, and none leaves one that is configured or of another interface. -/
theorem tableRight_iff {config : List PrivateSubnet} (h : config.length ≤ ipaMaxPrivateSubnetEntries)
    {ops : List SubnetOp} (admits : OpsMeet step Admits (start config h) ops) :
    Always step TableRight (start config h) ops ↔ OpsMeet step Separate (start config h) ops := by
  refine @always_iff _ _ step Admits (fun s => ∃ own, Owned s own) TableRight Separate (fun s hs => ?_)
    (fun s op hs hok hgood => ?_) (fun s op hs hok hbad => ?_) _ _ ⟨[], start_owned config h⟩ admits
  · obtain ⟨own, howned⟩ := hs
    exact howned.right
  · obtain ⟨own, howned⟩ := hs
    cases op with
    | addr ifNum ipv4Addr =>
      obtain ⟨t, own', ht, hkept⟩ := howned.addr hok hgood
      exact ⟨t, ht, own', hkept⟩
    | down ifNum =>
      obtain ⟨t, own', ht, hkept⟩ := howned.down hgood
      exact ⟨t, ht, own', hkept⟩
  · obtain ⟨own, howned⟩ := hs
    cases op with
    | addr ifNum ipv4Addr => exact howned.addr_breaks hok hbad
    | down ifNum => exact howned.down_breaks hbad

instance (s : SubnetRun) : ∀ op, Decidable (Admits s op)
  | .addr _ _ => inferInstanceAs (Decidable (_ = true))
  | .down _ => isTrue trivial

instance (s : SubnetRun) (ifNum : Nat) (subnet : UInt32) : Decidable (s.Shared ifNum subnet) :=
  inferInstanceAs (Decidable (_ ∨ _))

instance (s : SubnetRun) : ∀ op, Decidable (Separate s op)
  | .addr _ _ => inferInstanceAs (Decidable (_ ∧ ∀ u ∈ s.up, _))
  | .down _ => inferInstanceAs (Decidable (∀ u ∈ s.up, _))

def officeNets : List PrivateSubnet := [⟨0xc0a80100, 0xffffff00⟩, ⟨0x0a000000, 0xff000000⟩]

/-- An interface with the address 192.168.2.1, and one with 192.168.2.2, come up and go down. -/
theorem second_net_right : Always step TableRight (start officeNets (by decide))
    [.addr 0 0xc0a80201, .down 0, .addr 1 0xc0a80202, .down 1] :=
  (tableRight_iff (by decide) (by decide)).mpr (by decide)

/-- When an interface in the first configured net goes down, the second one is 10.0.0.0/24. -/
theorem configured_net_lost :
    OpsMeet step Admits (start officeNets (by decide)) [.addr 0 0xc0a80101, .down 0] ∧
      ¬Always step TableRight (start officeNets (by decide)) [.addr 0 0xc0a80101, .down 0] := by
  refine ⟨by decide, fun always => ?_⟩
  obtain ⟨s, hs, hlost⟩ : ∃ s, runOps step (start officeNets (by decide))
      [.addr 0 0xc0a80101, .down 0] = some s ∧ s.configured = officeNets ∧
      s.table.isPrivateSubnet 0x0a010203 = false := ⟨_, rfl, rfl, by decide⟩
  have hright := (always.last hs).isPrivate 0x0a010203
  have hin : ∃ e ∈ s.configured, e.Contains 0x0a010203 := by
    rw [hlost.1]
    decide
  exact absurd (hright.mpr (Or.inl hin)) (by simp [hlost.2])

end SubnetRun

end DeviceHal.Ipacm
