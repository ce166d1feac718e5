import DeviceHal.IpaNat.Rule
import Mathlib.Order.Interval.Finset.Nat

namespace DeviceHal.Ipacm

open IpaNat

universe v

/-- The calls of the NAT driver library, on a state of its own. Out parameters are passed in with
their old value and returned. -/
structure NatDriver (δ : Type v) where
  ipaNatAddIpv4Tbl : (publicIp : UInt32) → (entries : Nat) → (tblHdl : UInt32) → δ → Int × UInt32 × δ
  ipaNatDelIpv4Tbl : (tblHdl : UInt32) → δ → Int × δ
  ipaNatAddIpv4Rule : (tblHdl : UInt32) → IpaNatIpv4Rule → (ruleHdl : UInt32) → δ →
    Int × UInt32 × δ
  ipaNatDelIpv4Rule : (tblHdl ruleHdl : UInt32) → δ → Int × δ

/-- What the manager sees of a driver state: the handle of its table, 0 if there is none, and the
rules its handles stand for. -/
structure DriverView (δ : Type v) where
  tbl : δ → UInt32
  live : δ → UInt32 → Option IpaNatIpv4Rule

/-- What the manager relies on. Rules and tables may be refused; a refusal changes nothing. The
delete of a live rule succeeds. -/
structure DriverLaws {δ : Type v} (drv : NatDriver δ) (view : DriverView δ) : Prop where
  addTbl : ∀ ip n d ret h d', view.tbl d = 0 → drv.ipaNatAddIpv4Tbl ip n 0 d = (ret, h, d') →
    (ret = 0 ∧ h ≠ 0 ∧ view.tbl d' = h ∧ ∀ x, view.live d' x = none) ∨
    (ret ≠ 0 ∧ h = 0 ∧ view.tbl d' = 0 ∧ view.live d' = view.live d)
  delTbl : ∀ h d ret d', view.tbl d = h → h ≠ 0 → drv.ipaNatDelIpv4Tbl h d = (ret, d') →
    (ret = 0 ∧ view.tbl d' = 0 ∧ ∀ x, view.live d' x = none) ∨
    (ret ≠ 0 ∧ view.tbl d' = h ∧ view.live d' = view.live d)
  addRule : ∀ h rule old d ret x d', view.tbl d = h →
    drv.ipaNatAddIpv4Rule h rule old d = (ret, x, d') →
    (ret < 0 ∧ view.tbl d' = h ∧ view.live d' = view.live d) ∨
    (¬ret < 0 ∧ h ≠ 0 ∧ view.tbl d' = h ∧ view.live d x = none ∧
      view.live d' = Function.update (view.live d) x (some rule))
  delRule : ∀ h x d rule ret d', view.tbl d = h → view.live d x = some rule →
    drv.ipaNatDelIpv4Rule h x d = (ret, d') →
    ¬ret < 0 ∧ view.tbl d' = h ∧ view.live d' = Function.update (view.live d) x none

/-- A driver that does not refuse: it makes a table whenever it has none, never a second one, and
a table whose rules have fewer than `room` handles takes another. -/
structure DriverServes {δ : Type v} (drv : NatDriver δ) (view : DriverView δ) (room : Nat) :
    Prop where
  addTbl : ∀ ip n d, (drv.ipaNatAddIpv4Tbl ip n (view.tbl d) d).1 = 0 ↔ view.tbl d = 0
  addRule : ∀ rule old d (taken : Finset UInt32), view.tbl d ≠ 0 →
    (∀ x, view.live d x ≠ none → x ∈ taken) → taken.card < room →
    ¬(drv.ipaNatAddIpv4Rule (view.tbl d) rule old d).1 < 0

/-- The least a driver keeps: whether there is a table, and the rules by handle. -/
structure Ledger where
  tbl : UInt32 := 0
  live : UInt32 → Option IpaNatIpv4Rule := fun _ => none

def Ledger.view : DriverView Ledger := ⟨Ledger.tbl, Ledger.live⟩

/-- A driver with handles from 1 to `room`, the first free one for each rule. Its only table is
number 1, made if `serves`. -/
def ledgerDriver (serves : Bool) (room : Nat) : NatDriver Ledger where
  ipaNatAddIpv4Tbl := fun _ _ _ d =>
    if serves ∧ d.tbl = 0 then (0, 1, { tbl := 1 }) else (-22, 0, d)
  ipaNatDelIpv4Tbl := fun _ _ => (0, {})
  ipaNatAddIpv4Rule := fun tblHdl rule ruleHdl d =>
    if tblHdl = 0 then (-22, ruleHdl, d)
    else match (List.range' 1 room).find? fun x => d.live (UInt32.ofNat x) = none with
      | none => (-22, ruleHdl, d)
      | some x => (0, UInt32.ofNat x,
          { d with live := Function.update d.live (UInt32.ofNat x) (some rule) })
  ipaNatDelIpv4Rule := fun _ ruleHdl d =>
    if d.live ruleHdl = none then (-22, d)
    else (0, { d with live := Function.update d.live ruleHdl none })

theorem ledgerDriver_laws (serves : Bool) (room : Nat) :
    DriverLaws (ledgerDriver serves room) Ledger.view := by
  refine ⟨?_, ?_, ?_, ?_⟩
  · intro ip n d ret h d' htbl hcall
    unfold ledgerDriver at hcall
    dsimp only at hcall
    split at hcall
    next =>
      obtain ⟨rfl, rfl, rfl⟩ := hcall
      exact Or.inl ⟨rfl, by decide, rfl, fun _ => rfl⟩
    grind
  · intro h d ret d' _ _ hcall
    obtain ⟨rfl, rfl⟩ := hcall
    exact Or.inl ⟨rfl, rfl, fun _ => rfl⟩
  · intro h rule old d ret x d' htbl hcall
    unfold ledgerDriver at hcall
    dsimp only at hcall
    split at hcall
    next =>
      grind
    next hz =>
      split at hcall
      next =>
        grind
      next y hy =>
        obtain ⟨rfl, rfl, rfl⟩ := hcall
        have hfree := List.find?_some hy
        exact Or.inr ⟨by decide, hz, htbl, of_decide_eq_true hfree, rfl⟩
  · intro h x d rule ret d' htbl hlive hcall
    unfold ledgerDriver at hcall
    dsimp only at hcall
    have hne : d.live x ≠ none := by
      change d.live x = some rule at hlive
      rw [hlive]
      simp
    rw [if_neg hne] at hcall
    obtain ⟨rfl, rfl⟩ := hcall
    exact ⟨by decide, htbl, rfl⟩

theorem Ledger.handle_free {d : Ledger} {room : Nat} (small : room < 2 ^ 32)
    {taken : Finset UInt32} (all : ∀ x, d.live x ≠ none → x ∈ taken) (fits : taken.card < room) :
    ∃ x ∈ List.range' 1 room, d.live (UInt32.ofNat x) = none := by
  by_contra hfull
  push Not at hfull
  have sub : (Finset.Icc 1 room).image UInt32.ofNat ⊆ taken := by
    intro y hy
    obtain ⟨x, hx, rfl⟩ := Finset.mem_image.mp hy
    have hm := Finset.mem_Icc.mp hx
    exact all _ (hfull x (List.mem_range'_1.mpr ⟨hm.1, by omega⟩))
  have inj : Set.InjOn UInt32.ofNat (Finset.Icc 1 room : Finset Nat) := by
    intro x hx y hy he
    have hx' := Finset.mem_Icc.mp hx
    have hy' := Finset.mem_Icc.mp hy
    have hval := congrArg UInt32.toNat he
    rw [UInt32.toNat_ofNat', UInt32.toNat_ofNat'] at hval
    omega
  have hcard := Finset.card_le_card sub
  rw [Finset.card_image_of_injOn inj, Nat.card_Icc] at hcard
  omega

theorem ledgerDriver_serves {room : Nat} (small : room < 2 ^ 32) :
    DriverServes (ledgerDriver true room) Ledger.view room := by
  refine ⟨fun ip n d => ?_, fun rule old d taken htbl all fits => ?_⟩
  · unfold ledgerDriver Ledger.view
    grind
  · obtain ⟨x, hx, hfree⟩ := Ledger.handle_free small all fits
    grind [ledgerDriver]

end DeviceHal.Ipacm
