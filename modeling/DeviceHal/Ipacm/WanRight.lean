import DeviceHal.Ipacm.WanRoute

namespace DeviceHal.Ipacm

/-- What the events of a family have announced: nothing, or the address of the UP that stands. `none` is
where UP and DOWN do not alternate, or a DOWN of IPv4 has not the address of its UP. -/
def hears (iptype : IpaIpType) (heard : Option (Option (BitVec 32))) : WanEvent → Option (Option (BitVec 32))
  | .handleWanUp iptype' data =>
    if iptype' = iptype then
      match heard with
      | some none => some (some data.ipv4Addr)
      | some (some _) => none
      | none => none
    else heard
  | .handleWanDown iptype' data =>
    if iptype' = iptype then
      match heard with
      | some (some addr) => if iptype = .v4 ∧ data.ipv4Addr ≠ addr then none else some none
      | some none => none
      | none => none
    else heard
  | .handleWanUpTether _ _ => heard
  | .handleWanDownTether _ _ => heard

namespace WanStatics

def announced (g : WanStatics) (iptype : IpaIpType) : Option (Option (BitVec 32)) :=
  g.posted.foldl (hears iptype) (some none)

end WanStatics

/-- One family: at most one interface has the route, `wan_up` says whether one has, and so do the
events. -/
structure FamilyRight (g : WanStatics) (wans : List Wan) (iptype : IpaIpType) : Prop where
  one : wans.countP (fun w => w.active iptype) ≤ 1
  wanUp : g.wanUp iptype = true ↔ ∃ w ∈ wans, w.active iptype = true
  events : ∃ up, g.announced iptype = some up ∧ up.isSome = g.wanUp iptype

structure RoutesRight (s : WanSystem) : Prop where
  family : ∀ iptype, FamilyRight s.statics s.wans iptype
  tether : ∀ iptype, (s.statics.ipaIfNumTether iptype).length ≤ ipaMaxIfaceEntries

theorem hears_none (iptype : IpaIpType) (event : WanEvent) : hears iptype none event = none := by
  cases event with
  | handleWanUp iptype' data =>
    simp only [hears]
    split <;> rfl
  | handleWanDown iptype' data =>
    simp only [hears]
    split <;> rfl
  | handleWanUpTether iptype' data => rfl
  | handleWanDownTether iptype' data => rfl

/-- For a family, what the static members say is the same. -/
structure SameRoute (iptype : IpaIpType) (g g' : WanStatics) : Prop where
  wanUp : g'.wanUp iptype = g.wanUp iptype
  announced : g'.announced iptype = g.announced iptype

namespace SameRoute

variable {iptype : IpaIpType} {g g₁ g₂ : WanStatics}

theorem refl (iptype : IpaIpType) (g : WanStatics) : SameRoute iptype g g := ⟨rfl, rfl⟩

theorem trans (h₁ : SameRoute iptype g g₁) (h₂ : SameRoute iptype g₁ g₂) : SameRoute iptype g g₂ :=
  ⟨h₂.wanUp.trans h₁.wanUp, h₂.announced.trans h₁.announced⟩

end SameRoute

/-- A family is right with so many interfaces that have the route. -/
def RightWith (g : WanStatics) (iptype : IpaIpType) (n : Nat) : Prop :=
  n = (g.wanUp iptype).toNat ∧ ∃ up, g.announced iptype = some up ∧ up.isSome = g.wanUp iptype

theorem familyRight_iff {g : WanStatics} {wans : List Wan} {iptype : IpaIpType} :
    FamilyRight g wans iptype ↔ RightWith g iptype (wans.countP fun w => w.active iptype) := by
  have hpos : (∃ w ∈ wans, w.active iptype = true) ↔ 0 < wans.countP fun w => w.active iptype :=
    List.countP_pos_iff.symm
  constructor
  · intro h
    refine ⟨?_, h.events⟩
    have hone := h.one
    have hup := h.wanUp
    rw [hpos] at hup
    cases hw : g.wanUp iptype with
    | false =>
      grind
    | true =>
      grind
  · rintro ⟨hn, hevents⟩
    refine ⟨?_, ?_, hevents⟩
    · rw [hn]
      exact Bool.toNat_le _
    · rw [hpos, hn]
      cases g.wanUp iptype <;> simp

namespace RightWith

variable {g g' : WanStatics} {iptype : IpaIpType} {n : Nat}

theorem congr (h : SameRoute iptype g g') : RightWith g' iptype n ↔ RightWith g iptype n := by
  unfold RightWith
  rw [h.wanUp, h.announced]

theorem le_one (h : RightWith g iptype n) : n ≤ 1 := h.1 ▸ Bool.toNat_le _

theorem not_of_none (h : g.announced iptype = none) : ¬RightWith g iptype n := by
  rintro ⟨-, up, hup, -⟩
  rw [h] at hup
  cases hup

theorem zero_iff : RightWith g iptype 0 ↔ g.wanUp iptype = false ∧ g.announced iptype = some none := by
  unfold RightWith
  cases hw : g.wanUp iptype with
  | false => simp [Option.isSome_eq_false_iff]
  | true => simp

theorem one_iff :
    RightWith g iptype 1 ↔ g.wanUp iptype = true ∧ ∃ addr, g.announced iptype = some (some addr) := by
  grind [RightWith, Option.isSome_iff_exists]

end RightWith

/-- The address that an interface goes down with is the one that it came up with. -/
def WanStatics.Announced (g : WanStatics) (w : Wan) (iptype : IpaIpType) : Prop :=
  iptype = .v4 → g.announced .v4 = some (some w.wanV4Addr)

theorem SameRoute.announced_iff {g g' : WanStatics} {w : Wan} {iptype : IpaIpType} (h : SameRoute iptype g g') :
    g'.Announced w iptype ↔ g.Announced w iptype := by
  unfold WanStatics.Announced
  refine forall_congr' fun hv4 => ?_
  subst hv4
  rw [h.announced]

namespace Wan

variable {g : WanStatics} {w : Wan} {iptype other : IpaIpType}

theorem announced_snoc (g : WanStatics) (event : WanEvent) (iptype : IpaIpType) :
    (g.posted ++ [event]).foldl (hears iptype) (some none) = hears iptype (g.announced iptype) event := by
  rw [List.foldl_append]
  rfl

theorem setUp_right (h : RightWith g iptype 0) : RightWith (setUp g w iptype).1 iptype 1 := by
  obtain ⟨-, hnone⟩ := RightWith.zero_iff.mp h
  refine RightWith.one_iff.mpr ⟨Function.update_self .., ?_⟩
  unfold setUp WanStatics.announced
  dsimp only
  rw [announced_snoc, hnone]
  simp only [hears, if_true]
  exact ⟨_, rfl⟩

theorem setUp_twice (h : RightWith g iptype 1) : (setUp g w iptype).1.announced iptype = none := by
  obtain ⟨-, addr, haddr⟩ := RightWith.one_iff.mp h
  unfold setUp WanStatics.announced
  dsimp only
  rw [announced_snoc, haddr]
  simp only [hears, if_true]

theorem setUp_other (hne : other ≠ iptype) : SameRoute other g (setUp g w iptype).1 := by
  refine ⟨Function.update_of_ne hne .., ?_⟩
  unfold setUp WanStatics.announced
  dsimp only
  rw [announced_snoc]
  simp only [hears, if_neg (Ne.symm hne)]
  rfl

/-- `setUp` is reached. -/
def comesUp (w : Wan) (iptype : IpaIpType) : Bool :=
  !w.active iptype && w.takesRoute iptype && w.hasTxProp &&
    (if w.isSta then w.headerSet iptype else w.numExtProps ≠ 0)

theorem handleRouteDelEvt_active (hactive : w.active iptype = true) (htx : w.hasTxProp = true) :
    ∃ data : EventIfaceUp, (iptype = .v4 → data.ipv4Addr = w.wanV4Addr) ∧
      handleRouteDelEvt g w iptype =
        ({ g with
          wanUp := Function.update g.wanUp iptype false, posted := g.posted ++ [.handleWanDown iptype data] },
          { w with isDefaultGateway := false, active := Function.update w.active iptype false }) := by
  unfold handleRouteDelEvt
  simp only [htx, hactive, Bool.not_true, Bool.false_eq_true, if_false, if_true]
  refine ⟨_, ?_, rfl⟩
  rintro rfl
  rfl

theorem handleRouteDelEvt_right (hactive : w.active iptype = true) (htx : w.hasTxProp = true)
    (h : RightWith g iptype 1) :
    (g.Announced w iptype → RightWith (handleRouteDelEvt g w iptype).1 iptype 0) ∧
      (¬g.Announced w iptype → (handleRouteDelEvt g w iptype).1.announced iptype = none) := by
  obtain ⟨-, addr, haddr⟩ := RightWith.one_iff.mp h
  obtain ⟨data, hdata, he⟩ := @handleRouteDelEvt_active g w iptype hactive htx
  have hheard : (handleRouteDelEvt g w iptype).1.announced iptype =
      if iptype = .v4 ∧ data.ipv4Addr ≠ addr then none else some none := by
    rw [he]
    unfold WanStatics.announced
    dsimp only
    rw [announced_snoc, haddr]
    simp only [hears, if_true]
  have hiff : g.Announced w iptype ↔ ¬(iptype = .v4 ∧ data.ipv4Addr ≠ addr) := by
    unfold WanStatics.Announced
    constructor
    · grind
    · grind
  constructor
  · intro hann
    refine RightWith.zero_iff.mpr ⟨?_, ?_⟩
    · rw [he]
      exact Function.update_self ..
    · rw [hheard, if_neg (hiff.mp hann)]
  grind

theorem handleRouteDelEvt_other (hne : other ≠ iptype) : SameRoute other g (handleRouteDelEvt g w iptype).1 := by
  unfold handleRouteDelEvt
  split
  next => exact SameRoute.refl other g
  next =>
    dsimp only
    split
    next =>
      refine ⟨Function.update_of_ne hne .., ?_⟩
      unfold WanStatics.announced
      dsimp only
      rw [announced_snoc]
      simp only [hears, if_neg (Ne.symm hne)]
      rfl
    next => exact SameRoute.refl other g

theorem handleRouteDelEvt_inactive (hactive : w.active iptype = false) :
    (handleRouteDelEvt g w iptype).1 = g := by
  unfold handleRouteDelEvt
  grind

theorem handleRouteDelEvt_tether : (handleRouteDelEvt g w iptype).1.ipaIfNumTether = g.ipaIfNumTether := by
  grind [handleRouteDelEvt]

theorem postWanUpTetherEvt_route (n : Nat) : SameRoute other g (postWanUpTetherEvt g w iptype n) := by
  refine ⟨rfl, ?_⟩
  unfold postWanUpTetherEvt WanStatics.announced
  dsimp only
  rw [announced_snoc]
  rfl

theorem postWanDownTetherEvt_route (n : Nat) : SameRoute other g (postWanDownTetherEvt g w iptype n) := by
  unfold postWanDownTetherEvt
  split
  next =>
    refine ⟨rfl, ?_⟩
    unfold WanStatics.announced
    dsimp only
    rw [announced_snoc]
    rfl
  next => exact SameRoute.refl other g

theorem postWanDownTetherEvt_tether (n : Nat) :
    ((postWanDownTetherEvt g w iptype n).ipaIfNumTether other).length ≤ (g.ipaIfNumTether other).length := by
  unfold postWanDownTetherEvt
  split
  next =>
    grind
  next => exact Nat.le_refl _

end Wan

end DeviceHal.Ipacm
