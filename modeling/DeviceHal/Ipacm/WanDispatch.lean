import DeviceHal.Ipacm.WanRight

namespace DeviceHal.Ipacm

namespace Wan

variable {g g' g₁ : WanStatics} {w w' w₁ : Wan} {iptype other : IpaIpType} {ifNum : Nat}

/-- What an upstream route does to the route of its interface. `comes` is whether the interface gets it. -/
structure OwnRoute (g : WanStatics) (w : Wan) (iptype : IpaIpType) (comes : Bool) (g' : WanStatics) (w' : Wan) :
    Prop where
  props : w'.toWanProps = w.toWanProps
  ipType : w'.ipType = w.ipType
  other : ∀ other, other ≠ iptype → SameRoute other g g' ∧ w'.active other = w.active other
  stays : comes = false → SameRoute iptype g g' ∧ w'.active iptype = w.active iptype
  up : comes = true → w'.active iptype = true ∧ (RightWith g iptype 0 → RightWith g' iptype 1) ∧
    (RightWith g iptype 1 → g'.announced iptype = none)
  broken : g.announced iptype = none → g'.announced iptype = none

theorem OwnRoute.unchanged (hprops : w'.toWanProps = w.toWanProps) (hip : w'.ipType = w.ipType)
    (hactive : w'.active = w.active) (hroute : ∀ iptype, SameRoute iptype g g') : OwnRoute g w iptype false g' w' :=
  ⟨hprops, hip, fun other _ => ⟨hroute other, by rw [hactive]⟩, fun _ => ⟨hroute iptype, by rw [hactive]⟩, nofun,
    fun hb => (hroute iptype).announced.trans hb⟩

theorem OwnRoute.tethers {comes : Bool} (h : OwnRoute g w iptype comes g' w') (n : Nat) :
    OwnRoute g w iptype comes (postWanUpTetherEvt g' w' iptype n) w' := by
  have hsame : ∀ other, SameRoute other g' (postWanUpTetherEvt g' w' iptype n) := fun _ => postWanUpTetherEvt_route n
  refine ⟨h.props, h.ipType, fun other hne => ?_, fun hno => ?_, fun hup => ?_,
    fun hb => (hsame iptype).announced.trans (h.broken hb)⟩
  · obtain ⟨hr, ha⟩ := h.other other hne
    exact ⟨hr.trans (hsame other), ha⟩
  · obtain ⟨hr, ha⟩ := h.stays hno
    exact ⟨hr.trans (hsame iptype), ha⟩
  · obtain ⟨ha, hzero, hone⟩ := h.up hup
    exact ⟨ha, fun h0 => (RightWith.congr (hsame iptype)).mpr (hzero h0),
      fun h1 => (hsame iptype).announced.trans (hone h1)⟩

theorem OwnRoute.setUp (hprops : w₁.toWanProps = w.toWanProps) (hip : w₁.ipType = w.ipType)
    (hactive : w₁.active = w.active) (hroute : ∀ iptype, SameRoute iptype g g₁) :
    OwnRoute g w iptype true (Wan.setUp g₁ w₁ iptype).1 (Wan.setUp g₁ w₁ iptype).2 := by
  refine ⟨hprops, hip, fun other hne => ⟨(hroute other).trans (setUp_other hne), ?_⟩, nofun, fun _ => ⟨?_, ?_, ?_⟩,
    fun hb => ?_⟩
  · rw [← hactive]
    exact Function.update_of_ne hne ..
  · exact Function.update_self ..
  · exact fun h => setUp_right ((RightWith.congr (hroute iptype)).mpr h)
  · exact fun h => setUp_twice ((RightWith.congr (hroute iptype)).mpr h)
  · change (g₁.posted ++ [_]).foldl (hears iptype) (some none) = none
    rw [announced_snoc, (hroute iptype).announced, hb]
    exact hears_none iptype _

theorem comesUp_of (hactive : w.active iptype = false) (htakes : w.takesRoute iptype = true) :
    w.comesUp iptype =
      (w.hasTxProp && if w.isSta then w.headerSet iptype else w.numExtProps ≠ 0) := by
  unfold comesUp
  rw [hactive, htakes]
  simp

theorem handleRouteAddEvt_own (hactive : w.active iptype = false) (htakes : w.takesRoute iptype = true) :
    OwnRoute g w iptype (w.comesUp iptype) (handleRouteAddEvt g w iptype).1 (handleRouteAddEvt g w iptype).2 := by
  have hkeep : ∀ other (b : Bool), SameRoute other g { g with backhaulIsStaMode := b } := fun _ _ => ⟨rfl, rfl⟩
  rw [comesUp_of hactive htakes]
  unfold handleRouteAddEvt
  cases htx : w.hasTxProp with
  | false => exact .unchanged rfl rfl rfl fun other => SameRoute.refl other g
  | true =>
    cases hsta : w.isSta with
    | true =>
      have hsta' : ({ w with isDefaultGateway := true } : Wan).isSta = true := hsta
      simp only [Bool.not_true, Bool.false_eq_true, if_false, hsta', if_true, Bool.true_and]
      cases hheader : w.headerSet iptype with
      | false => exact .unchanged rfl rfl rfl fun other => hkeep other true
      | true => exact .setUp rfl rfl rfl fun other => hkeep other true
    | false =>
      have hsta' : ({ w with isDefaultGateway := true } : Wan).isSta = false := hsta
      simp only [Bool.not_true, Bool.false_eq_true, if_false, hsta', Bool.true_and]
      by_cases hext : w.numExtProps = 0
      · rw [if_pos hext, hext]
        exact .unchanged rfl rfl rfl fun other => hkeep other false
      · rw [if_neg hext, decide_eq_true hext]
        exact .setUp rfl rfl rfl fun other => hkeep other false

theorem handleRouteAddEvt_tether : (handleRouteAddEvt g w iptype).1.ipaIfNumTether = g.ipaIfNumTether := by
  unfold handleRouteAddEvt setUp
  grind

theorem routeAdd_own (g : WanStatics) (w : Wan) (iptype : IpaIpType) :
    ∃ g' w', w.eventCallback g (.upstreamRouteAdd w.ipaIfNum iptype) = (g', some w') ∧
      OwnRoute g w iptype (w.comesUp iptype) g' w' ∧
      g'.ipaIfNumTether = if w.takesRoute iptype then
        Function.update g.ipaIfNumTether iptype (g.ipaIfNumTether iptype ++ [0]) else g.ipaIfNumTether := by
  cases htakes : w.takesRoute iptype with
  | false =>
    have hno : w.comesUp iptype = false := by
      unfold comesUp
      rw [htakes]
      simp
    refine ⟨g, w, ?_, ?_, rfl⟩
    · simp [eventCallback, htakes]
    · rw [hno]
      exact .unchanged rfl rfl rfl fun other => SameRoute.refl other g
  | true =>
    cases hactive : w.active iptype with
    | true =>
      have hno : w.comesUp iptype = false := by
        unfold comesUp
        rw [hactive]
        rfl
      refine ⟨postWanUpTetherEvt g w iptype 0, w, ?_, ?_, rfl⟩
      · simp [eventCallback, htakes, hactive]
      · rw [hno]
        exact OwnRoute.tethers (.unchanged rfl rfl rfl fun other => SameRoute.refl other g) 0
    | false =>
      refine ⟨_, _, ?_, (handleRouteAddEvt_own hactive htakes).tethers 0, ?_⟩
      · simp [eventCallback, htakes, hactive]
      · change Function.update (handleRouteAddEvt g w iptype).1.ipaIfNumTether iptype
          ((handleRouteAddEvt g w iptype).1.ipaIfNumTether iptype ++ [0]) = _
        rw [handleRouteAddEvt_tether]
        rfl

/-- An upstream route at another interface. -/
structure OtherRoute (g : WanStatics) (w : Wan) (iptype : IpaIpType) (g' : WanStatics) (w' : Wan) : Prop where
  props : w'.toWanProps = w.toWanProps
  ipType : w'.ipType = w.ipType
  other : ∀ other, other ≠ iptype → SameRoute other g g' ∧ w'.active other = w.active other
  inactive : w'.active iptype = false
  stays : w.active iptype = false → SameRoute iptype g g'
  down : w.active iptype = true → RightWith g iptype 1 →
    (g.Announced w iptype → RightWith g' iptype 0) ∧ (¬g.Announced w iptype → g'.announced iptype = none)
  broken : g.announced iptype = none → g'.announced iptype = none
  tether : g'.ipaIfNumTether = g.ipaIfNumTether

theorem handleRouteDelEvt_other' (hactive : w.active iptype = true) (htx : w.hasTxProp = true) :
    OtherRoute g w iptype (handleRouteDelEvt g w iptype).1 (handleRouteDelEvt g w iptype).2 := by
  obtain ⟨data, -, he⟩ := @handleRouteDelEvt_active g w iptype hactive htx
  refine ⟨?_, ?_, fun other hne => ⟨handleRouteDelEvt_other hne, ?_⟩, ?_, fun hno => ?_,
    fun _ h => handleRouteDelEvt_right hactive htx h, fun hb => ?_, handleRouteDelEvt_tether⟩
  · rw [he]
  · rw [he]
  · rw [he]
    exact Function.update_of_ne hne ..
  · rw [he]
    exact Function.update_self ..
  · rw [hactive] at hno
    cases hno
  · rw [he]
    unfold WanStatics.announced
    dsimp only
    rw [announced_snoc, hb]
    exact hears_none iptype _

theorem routeAdd_other (hne : ifNum ≠ w.ipaIfNum) (htx : w.active iptype = true → w.hasTxProp = true)
    (g : WanStatics) : ∃ g' w', w.eventCallback g (.upstreamRouteAdd ifNum iptype) = (g', some w') ∧
      OtherRoute g w iptype g' w' := by
  cases hactive : w.active iptype with
  | false =>
    refine ⟨g, w, ?_, rfl, rfl, fun other _ => ⟨SameRoute.refl other g, rfl⟩, hactive, fun _ => SameRoute.refl iptype g,
      fun hyes => ?_, id, rfl⟩
    · simp [eventCallback, hne, hactive]
    · rw [hactive] at hyes
      cases hyes
  | true =>
    refine ⟨_, _, ?_, handleRouteDelEvt_other' hactive (htx hactive)⟩
    simp [eventCallback, hne, hactive]

end Wan

namespace WanSystem

open Wan

variable {g : WanStatics} {w : Wan} {wans : List Wan} {iptype : IpaIpType} {ifNum : Nat} {e : WanInput}

theorem dispatch_cons {g' : WanStatics} {o : Option Wan} (h : w.eventCallback g e = (g', o)) :
    dispatch e g (w :: wans) = ((dispatch e g' wans).1, o.toList ++ (dispatch e g' wans).2) := by
  simp only [dispatch, h]

theorem dispatch_broken (htx : ∀ w ∈ wans, w.active iptype = true → w.hasTxProp = true)
    (h : g.announced iptype = none) :
    (dispatch (.upstreamRouteAdd ifNum iptype) g wans).1.announced iptype = none := by
  induction wans generalizing g with
  | nil => exact h
  | cons w wans ih =>
    have htx' := fun w' hw' => htx w' (List.mem_cons_of_mem _ hw')
    by_cases hid : ifNum = w.ipaIfNum
    · obtain ⟨g', w', he, hown, -⟩ := routeAdd_own g w iptype
      rw [hid, dispatch_cons he, ← hid]
      exact ih htx' (hown.broken h)
    · obtain ⟨g', w', he, hother⟩ := routeAdd_other hid (htx w List.mem_cons_self) g
      rw [dispatch_cons he]
      exact ih htx' (hother.broken h)

theorem active_of_countP_zero (h : (wans.countP fun w => w.active iptype) = 0) :
    ∀ w ∈ wans, w.active iptype = false :=
  fun w hw => Bool.eq_false_iff.mpr (List.countP_eq_zero.mp h w hw)

theorem conditions_of_inactive (h : ∀ w ∈ wans, w.active iptype = false) :
    (wans.Pairwise fun a b => a.ipaIfNum = ifNum → a.comesUp iptype = true → b.active iptype = false) ∧
      ∀ w ∈ wans, w.ipaIfNum ≠ ifNum → w.active iptype = true → g.Announced w iptype := by
  refine ⟨List.pairwise_of_forall_mem_list fun a _ b hb _ _ => h b hb, fun w hw _ hactive => ?_⟩
  rw [h w hw] at hactive
  cases hactive

/-- An upstream route leaves its family right exactly if the old interface is before the new one, and
goes down with the address that was announced. `n` counts the interfaces with the route that come
before. -/
theorem dispatch_routeAdd_right (n : Nat) (hids : (wans.map fun w => w.ipaIfNum).Nodup)
    (htx : ∀ w ∈ wans, w.active iptype = true → w.hasTxProp = true)
    (hbefore : (∃ w ∈ wans, w.ipaIfNum = ifNum) → n = 0)
    (h : RightWith g iptype (n + wans.countP fun w => w.active iptype)) :
    RightWith (dispatch (.upstreamRouteAdd ifNum iptype) g wans).1 iptype
        (n + (dispatch (.upstreamRouteAdd ifNum iptype) g wans).2.countP fun w => w.active iptype) ↔
      (wans.Pairwise fun a b => a.ipaIfNum = ifNum → a.comesUp iptype = true → b.active iptype = false) ∧
        ∀ w ∈ wans, w.ipaIfNum ≠ ifNum → w.active iptype = true → g.Announced w iptype := by
  induction wans generalizing g n with
  | nil => exact ⟨fun _ => ⟨List.Pairwise.nil, List.forall_mem_nil _⟩, fun _ => h⟩
  | cons w wans ih =>
    have htx' := fun w' hw' => htx w' (List.mem_cons_of_mem _ hw')
    rw [List.map_cons, List.nodup_cons] at hids
    obtain ⟨hnotin, hids'⟩ := hids
    rw [List.countP_cons] at h
    rw [List.pairwise_cons, List.forall_mem_cons]
    by_cases hid : w.ipaIfNum = ifNum
    · have hnobody : ¬∃ w' ∈ wans, w'.ipaIfNum = ifNum := by
        rintro ⟨w', hw', he⟩
        exact hnotin (List.mem_map.mpr ⟨w', hw', he.trans hid.symm⟩)
      have hzero : n = 0 := hbefore ⟨w, List.mem_cons_self, hid⟩
      obtain ⟨g', w', he, hown, -⟩ := routeAdd_own g w iptype
      rw [hid] at he
      rw [dispatch_cons he, Option.toList_some, List.singleton_append, List.countP_cons]
      cases hcomes : w.comesUp iptype with
      | true =>
        have hinactive : w.active iptype = false := by
          unfold comesUp at hcomes
          cases hw : w.active iptype with
          | false => rfl
          | true =>
            rw [hw] at hcomes
            cases hcomes
        obtain ⟨hactive', hright, htwice⟩ := hown.up hcomes
        rw [hinactive, if_neg Bool.false_ne_true, hzero] at h
        rw [hactive', if_pos rfl, hzero]
        by_cases hnone : (wans.countP fun w => w.active iptype) = 0
        · rw [hnone] at h
          have hall := active_of_countP_zero hnone
          have hrest := ih 1 hids' htx' (fun hb => absurd hb hnobody) (by rw [hnone]; exact hright h)
          have hgoal := hrest.mpr (conditions_of_inactive hall)
          rw [Nat.zero_add, Nat.add_comm]
          refine ⟨fun _ => ⟨⟨fun b hb _ _ => hall b hb, ?_⟩, ?_, ?_⟩, fun _ => hgoal⟩
          · exact (conditions_of_inactive (g := g) hall).1
          · exact fun hne => absurd hid hne
          · exact (conditions_of_inactive hall).2
        · have hone : (wans.countP fun w => w.active iptype) = 1 := by
            have hle := h.le_one
            omega
          rw [hone] at h
          refine ⟨fun hright' => ?_, fun hgood => ?_⟩
          · exact absurd hright' (RightWith.not_of_none (dispatch_broken htx' (htwice h)))
          · grind
      | false =>
        obtain ⟨hroute, hactive'⟩ := hown.stays hcomes
        have hrest := ih (n + if w.active iptype = true then 1 else 0) hids' htx' (fun hb => absurd hb hnobody)
          ((RightWith.congr hroute).mpr (by rw [Nat.add_assoc, Nat.add_comm _ (wans.countP _)]; exact h))
        rw [hactive', Nat.add_comm (List.countP _ _), ← Nat.add_assoc, hrest]
        simp only [hroute.announced_iff]
        grind
    · obtain ⟨g', w', he, hother⟩ := routeAdd_other (Ne.symm hid) (htx w List.mem_cons_self) g
      rw [dispatch_cons he, Option.toList_some, List.singleton_append, List.countP_cons, hother.inactive,
        if_neg Bool.false_ne_true, Nat.add_zero]
      have hbefore' : (∃ w' ∈ wans, w'.ipaIfNum = ifNum) → n = 0 :=
        fun ⟨w', hw', he'⟩ => hbefore ⟨w', List.mem_cons_of_mem _ hw', he'⟩
      cases hactive : w.active iptype with
      | true =>
        rw [hactive, if_pos rfl] at h
        have hle := h.le_one
        have hzero : n = 0 := by omega
        have hnone : (wans.countP fun w => w.active iptype) = 0 := by omega
        have hall := active_of_countP_zero hnone
        rw [hzero, hnone] at h
        obtain ⟨hright, hbroken⟩ := hother.down hactive h
        by_cases hann : g.Announced w iptype
        · have hrest := ih n hids' htx' hbefore' (by rw [hzero, hnone]; exact hright hann)
          refine ⟨fun _ => ⟨⟨fun _ _ he' => absurd he' hid, ?_⟩, fun _ _ => hann, ?_⟩,
            fun _ => hrest.mpr (conditions_of_inactive hall)⟩
          · exact (conditions_of_inactive (g := g) hall).1
          · exact (conditions_of_inactive hall).2
        · refine ⟨fun hright' => ?_, fun hgood => absurd (hgood.2.1 hid rfl) hann⟩
          exact absurd hright' (RightWith.not_of_none (dispatch_broken htx' (hbroken hann)))
      | false =>
        have hroute := hother.stays hactive
        rw [hactive, if_neg Bool.false_ne_true, Nat.add_zero] at h
        rw [ih n hids' htx' hbefore' ((RightWith.congr hroute).mpr h)]
        simp only [hroute.announced_iff]
        grind

theorem dispatch_routeAdd_other {other : IpaIpType} (hne : other ≠ iptype)
    (htx : ∀ w ∈ wans, w.active iptype = true → w.hasTxProp = true) :
    SameRoute other g (dispatch (.upstreamRouteAdd ifNum iptype) g wans).1 ∧
      ((dispatch (.upstreamRouteAdd ifNum iptype) g wans).2.countP fun w => w.active other) =
        wans.countP fun w => w.active other := by
  induction wans generalizing g with
  | nil => exact ⟨SameRoute.refl other g, rfl⟩
  | cons w wans ih =>
    have htx' := fun w' hw' => htx w' (List.mem_cons_of_mem _ hw')
    by_cases hid : w.ipaIfNum = ifNum
    · obtain ⟨g', w', he, hown, -⟩ := routeAdd_own g w iptype
      rw [hid] at he
      obtain ⟨hroute, hactive⟩ := hown.other other hne
      obtain ⟨hrest, hcount⟩ := @ih g' htx'
      rw [dispatch_cons he, Option.toList_some, List.singleton_append, List.countP_cons, List.countP_cons, hactive,
        hcount]
      exact ⟨hroute.trans hrest, rfl⟩
    · obtain ⟨g', w', he, hother⟩ := routeAdd_other (Ne.symm hid) (htx w List.mem_cons_self) g
      obtain ⟨hroute, hactive⟩ := hother.other other hne
      obtain ⟨hrest, hcount⟩ := @ih g' htx'
      rw [dispatch_cons he, Option.toList_some, List.singleton_append, List.countP_cons, List.countP_cons, hactive,
        hcount]
      exact ⟨hroute.trans hrest, rfl⟩

theorem dispatch_routeAdd_tether (htx : ∀ w ∈ wans, w.active iptype = true → w.hasTxProp = true) (f : IpaIpType) :
    ((dispatch (.upstreamRouteAdd ifNum iptype) g wans).1.ipaIfNumTether f).length =
      (g.ipaIfNumTether f).length +
        if f = iptype then wans.countP fun w => w.ipaIfNum = ifNum ∧ w.takesRoute iptype = true else 0 := by
  induction wans generalizing g with
  | nil => simp [dispatch]
  | cons w wans ih =>
    have htx' := fun w' hw' => htx w' (List.mem_cons_of_mem _ hw')
    by_cases hid : w.ipaIfNum = ifNum
    · obtain ⟨g', w', he, -, htether⟩ := routeAdd_own g w iptype
      rw [hid] at he
      rw [dispatch_cons he, @ih g' htx', htether, List.countP_cons]
      by_cases hf : f = iptype
      · grind
      grind
    · obtain ⟨g', w', he, hother⟩ := routeAdd_other (Ne.symm hid) (htx w List.mem_cons_self) g
      rw [dispatch_cons he, @ih g' htx', hother.tether, List.countP_cons]
      simp [hid]

end WanSystem

namespace Wan

variable {g g' : WanStatics} {w : Wan} {iptype other : IpaIpType} {n : Nat}

def routes (w : Wan) (iptype : IpaIpType) : Nat := if w.active iptype then 1 else 0

theorem routes_of_active (h : w.active iptype = true) : w.routes iptype = 1 := if_pos h

theorem routes_of_inactive (h : w.active iptype = false) : w.routes iptype = 0 := by
  unfold routes
  rw [h]
  rfl

theorem rightWith_of_inactive (h : w.active iptype = false) (hright : RightWith g iptype (n + w.routes iptype)) :
    RightWith g iptype n := by
  rw [routes_of_inactive h] at hright
  exact hright

theorem handleRouteDelEvt_iff (htx : w.active iptype = true → w.hasTxProp = true)
    (h : RightWith g iptype (n + w.routes iptype)) :
    RightWith (handleRouteDelEvt g w iptype).1 iptype n ↔ (w.active iptype = true → g.Announced w iptype) := by
  cases hactive : w.active iptype with
  | true =>
    rw [routes_of_active hactive] at h
    have hle := h.le_one
    have hzero : n = 0 := by omega
    rw [hzero] at h ⊢
    obtain ⟨hright, hbroken⟩ := handleRouteDelEvt_right hactive (htx hactive) h
    refine ⟨fun hr _ => ?_, fun hann => hright (hann rfl)⟩
    by_contra hno
    exact RightWith.not_of_none (hbroken hno) hr
  | false =>
    rw [handleRouteDelEvt_inactive hactive]
    exact ⟨fun _ => nofun, fun _ => rightWith_of_inactive hactive h⟩

theorem handleRouteDelEvt_wan (w : Wan) (g : WanStatics) (iptype : IpaIpType) :
    (handleRouteDelEvt g w iptype).2.toWanProps = w.toWanProps ∧
      (handleRouteDelEvt g w iptype).2.ipType = w.ipType ∧
      (handleRouteDelEvt g w iptype).2.wanV4Addr = w.wanV4Addr ∧
      ∀ other, other ≠ iptype → (handleRouteDelEvt g w iptype).2.active other = w.active other := by
  unfold handleRouteDelEvt
  split
  next => exact ⟨rfl, rfl, rfl, fun _ _ => rfl⟩
  next =>
    dsimp only
    split
    next => grind
    next => exact ⟨rfl, rfl, rfl, fun _ _ => rfl⟩

/-- What a family of an interface that goes down is left with. `ok` is when it is left right. -/
structure Leaves (g : WanStatics) (w : Wan) (iptype : IpaIpType) (ok : Prop) (g' : WanStatics) (w' : Wan) : Prop where
  own : ∀ n, RightWith g iptype (n + w.routes iptype) → (RightWith g' iptype n ↔ ok)
  other : ∀ other, other ≠ iptype → SameRoute other g g' ∧ w'.active other = w.active other
  props : w'.toWanProps = w.toWanProps
  addr : w'.wanV4Addr = w.wanV4Addr
  tether : ∀ f, (g'.ipaIfNumTether f).length ≤ (g.ipaIfNumTether f).length

theorem handleRouteDelEvt_leaves (htx : w.active iptype = true → w.hasTxProp = true) :
    Leaves g w iptype (w.active iptype = true → g.Announced w iptype) (handleRouteDelEvt g w iptype).1
      (handleRouteDelEvt g w iptype).2 := by
  obtain ⟨hprops, -, haddr, hactive⟩ := handleRouteDelEvt_wan w g iptype
  refine ⟨fun n h => handleRouteDelEvt_iff htx h, fun other hne => ⟨handleRouteDelEvt_other hne, hactive other hne⟩,
    hprops, haddr, fun f => ?_⟩
  rw [handleRouteDelEvt_tether]

theorem Leaves.untethers {w' : Wan} {ok : Prop} (h : Leaves g w iptype ok g' w') (nums : List Nat) :
    Leaves g w iptype ok (nums.foldl (fun g ifNum => postWanDownTetherEvt g w' iptype ifNum) g') w' := by
  induction nums generalizing g' with
  | nil => exact h
  | cons ifNum nums ih =>
    refine ih ⟨fun n hn => ?_, fun other hne => ?_, h.props, h.addr, fun f => ?_⟩
    · rw [RightWith.congr (postWanDownTetherEvt_route ifNum)]
      exact h.own n hn
    · obtain ⟨hroute, hactive⟩ := h.other other hne
      exact ⟨hroute.trans (postWanDownTetherEvt_route ifNum), hactive⟩
    · exact (postWanDownTetherEvt_tether ifNum).trans (h.tether f)

theorem downFamily_leaves (htx : w.active iptype = true → w.hasTxProp = true) :
    Leaves g w iptype (w.active iptype = true → g.Announced w iptype) (downFamily g w iptype).1
      (downFamily g w iptype).2 := by
  unfold downFamily
  cases hactive : w.active iptype with
  | true =>
    have hdown := @handleRouteDelEvt_leaves g w iptype htx
    rw [hactive] at hdown
    exact hdown.untethers [0]
  | false =>
    refine ⟨fun n h => ⟨fun _ => nofun, fun _ => rightWith_of_inactive hactive h⟩,
      fun other _ => ⟨SameRoute.refl other g, rfl⟩, rfl, rfl, fun _ => Nat.le_refl _⟩

theorem cleared_iff (h : RightWith g iptype n) :
    RightWith { g with wanUp := Function.update g.wanUp iptype false } iptype n ↔ g.wanUp iptype = false := by
  constructor
  · rintro ⟨hn, -⟩
    have hzero : n = 0 := by
      dsimp only at hn
      rw [Function.update_self] at hn
      exact hn
    rw [hzero] at h
    exact (RightWith.zero_iff.mp h).1
  · intro hdown
    have hsame : SameRoute iptype g { g with wanUp := Function.update g.wanUp iptype false } := by
      refine ⟨?_, rfl⟩
      dsimp only
      rw [Function.update_self, hdown]
    exact (RightWith.congr hsame).mpr h

theorem handleRouteDelEvt_cleared (hactive : w.active iptype = true) (htx : w.hasTxProp = true) :
    handleRouteDelEvt { g with wanUp := Function.update g.wanUp iptype false } w iptype =
      handleRouteDelEvt g w iptype := by
  unfold handleRouteDelEvt
  simp only [htx, hactive, Bool.not_true, Bool.false_eq_true, if_false, if_true, Function.update_idem]

theorem downFamilyEx_leaves (htx : w.active iptype = true → w.hasTxProp = true) (nums : List Nat) :
    Leaves g w iptype (if w.active iptype then g.Announced w iptype else g.wanUp iptype = false)
      (downFamilyEx g w iptype nums).1 (downFamilyEx g w iptype nums).2 := by
  unfold downFamilyEx
  dsimp only
  refine Leaves.untethers ?_ nums
  cases hactive : w.active iptype with
  | true =>
    rw [handleRouteDelEvt_cleared hactive (htx hactive)]
    have hdown := @handleRouteDelEvt_leaves g w iptype htx
    grind
  | false =>
    obtain ⟨hprops, -, haddr, hother⟩ :=
      handleRouteDelEvt_wan w { g with wanUp := Function.update g.wanUp iptype false } iptype
    refine ⟨fun n h => ?_, fun other hne => ⟨?_, hother other hne⟩, hprops, haddr, fun f => ?_⟩
    · rw [handleRouteDelEvt_inactive hactive, cleared_iff (rightWith_of_inactive hactive h)]
      exact Iff.rfl
    · rw [handleRouteDelEvt_inactive hactive]
      exact ⟨Function.update_of_ne hne .., rfl⟩
    · rw [handleRouteDelEvt_inactive hactive]

/-- The interface leaves each family right. -/
structure GoesDown (g : WanStatics) (w : Wan) (ok : IpaIpType → Prop) (g' : WanStatics) : Prop where
  family : ∀ iptype n, RightWith g iptype (n + w.routes iptype) → (RightWith g' iptype n ↔ ok iptype)
  tether : ∀ f, (g'.ipaIfNumTether f).length ≤ (g.ipaIfNumTether f).length

theorem Leaves.both {ok : IpaIpType → Prop} {g₁ g₂ : WanStatics} {w₁ w₂ : Wan} (h₄ : Leaves g w .v4 (ok .v4) g₁ w₁)
    (h₆ : Leaves g₁ w₁ .v6 (ok .v6) g₂ w₂) : GoesDown g w ok g₂ := by
  refine ⟨fun iptype n h => ?_, fun f => (h₆.tether f).trans (h₄.tether f)⟩
  cases iptype with
  | v4 =>
    rw [RightWith.congr (h₆.other .v4 nofun).1]
    exact h₄.own n h
  | v6 =>
    obtain ⟨hroute, hactive⟩ := h₄.other .v6 nofun
    refine h₆.own n ?_
    rw [RightWith.congr hroute]
    unfold routes
    rw [hactive]
    exact h

theorem Leaves.iff {ok ok' : Prop} {w' : Wan} (h : Leaves g w iptype ok g' w') (hok : ok ↔ ok') :
    Leaves g w iptype ok' g' w' := by
  rw [← propext hok]
  exact h

theorem announced_v6 (g : WanStatics) (w : Wan) : g.Announced w .v6 := nofun

theorem stays_iff (h : RightWith g iptype (n + w.routes iptype)) : RightWith g iptype n ↔ w.active iptype = false := by
  cases hactive : w.active iptype with
  | true =>
    rw [routes_of_active hactive] at h
    have hle := h.le_one
    have hzero : n = 0 := by omega
    rw [hzero] at h ⊢
    refine ⟨fun hright => ?_, nofun⟩
    have hdown := (RightWith.zero_iff.mp hright).1
    rw [(RightWith.one_iff.mp h).1] at hdown
    cases hdown
  | false => exact ⟨fun _ => rfl, fun _ => rightWith_of_inactive hactive h⟩

/-- A route is only on an interface with an address of the family and transmit properties. -/
def Routed (w : Wan) : Prop := ∀ iptype, w.active iptype = true → w.ipType.covers iptype = true ∧ w.hasTxProp = true

theorem handleDownEvt_goes (hrouted : w.Routed) :
    GoesDown g w (fun iptype => w.active iptype = true → g.Announced w iptype) (handleDownEvt g w) := by
  unfold handleDownEvt
  split
  next hnull =>
    refine ⟨fun iptype n h => ?_, fun f => Nat.le_refl _⟩
    have hinactive : w.active iptype = false := by
      cases hactive : w.active iptype with
      | false => rfl
      | true =>
        have hcovers := (hrouted iptype hactive).1
        rw [hnull] at hcovers
        cases hcovers
    rw [hinactive]
    exact ⟨fun _ => nofun, fun _ => rightWith_of_inactive hinactive h⟩
  next =>
    have h₄ := @downFamily_leaves g w .v4 fun hactive => (hrouted .v4 hactive).2
    have htx : (downFamily g w .v4).2.active .v6 = true → (downFamily g w .v4).2.hasTxProp = true := by
      intro hactive
      rw [(h₄.other .v6 nofun).2] at hactive
      rw [h₄.props]
      exact (hrouted .v6 hactive).2
    exact h₄.both ((downFamily_leaves htx).iff ⟨fun _ _ => announced_v6 g w, fun _ _ => announced_v6 _ _⟩)

/-- A modem interface goes down rightly if its routes go with `is_default_gateway`, and no other interface has
a route of a family that is cleared. -/
def DownsEx (g : WanStatics) (w : Wan) (iptype : IpaIpType) : Prop :=
  if w.active iptype then w.isDefaultGateway = true ∧ g.Announced w iptype
  else w.isDefaultGateway = true → w.ipType.covers iptype = true → g.wanUp iptype = false

theorem downsEx_of_gateway (hgateway : w.isDefaultGateway = true) (hcovers : w.ipType.covers iptype = true) :
    (if w.active iptype then g.Announced w iptype else g.wanUp iptype = false) ↔ DownsEx g w iptype := by
  grind [DownsEx]

theorem inactive_iff_downsEx (hno : w.isDefaultGateway = true → w.ipType.covers iptype = false)
    (hrouted : w.Routed) : w.active iptype = false ↔ DownsEx g w iptype := by
  unfold DownsEx
  cases hactive : w.active iptype with
  | true =>
    refine ⟨nofun, fun h => ?_⟩
    rw [if_pos rfl] at h
    have hcovers := (hrouted iptype hactive).1
    rw [hno h.1] at hcovers
    cases hcovers
  | false =>
    grind

theorem handleDownEvtEx_goes (hrouted : w.Routed) : GoesDown g w (DownsEx g w) (handleDownEvtEx g w) := by
  have hstays : (w.isDefaultGateway = true → ∀ iptype, w.ipType.covers iptype = false) →
      GoesDown g w (DownsEx g w) g := by
    intro hno
    refine ⟨fun iptype n h => ?_, fun f => Nat.le_refl _⟩
    rw [stays_iff h]
    exact inactive_iff_downsEx (fun hgateway => hno hgateway iptype) hrouted
  unfold handleDownEvtEx
  cases hip : w.ipType with
  | null =>
    refine hstays fun _ iptype => ?_
    rw [hip]
    rfl
  | only own =>
    dsimp only
    cases hgateway : w.isDefaultGateway with
    | false =>
      grind
    | true =>
      have hdown := @downFamilyEx_leaves g w own (fun hactive => (hrouted own hactive).2) (g.ipaIfNumTether own)
      refine ⟨fun iptype n h => ?_, hdown.tether⟩
      by_cases he : iptype = own
      · subst he
        rw [if_pos rfl, hdown.own n h]
        refine downsEx_of_gateway hgateway ?_
        rw [hip]
        exact decide_eq_true rfl
      · have hno : w.ipType.covers iptype = false := by
          rw [hip]
          exact decide_eq_false (Ne.symm he)
        rw [if_pos rfl, RightWith.congr (hdown.other iptype he).1, stays_iff h]
        exact inactive_iff_downsEx (fun _ => hno) hrouted
  | max =>
    dsimp only
    cases hgateway : w.isDefaultGateway with
    | false =>
      grind
    | true =>
      have hcovers : ∀ iptype, w.ipType.covers iptype = true := by
        rw [hip]
        exact fun _ => rfl
      have h₄ := @downFamilyEx_leaves g w .v4 (fun hactive => (hrouted .v4 hactive).2) [0]
      have htx : (downFamilyEx g w .v4 [0]).2.active .v6 = true → (downFamilyEx g w .v4 [0]).2.hasTxProp = true := by
        intro hactive
        rw [(h₄.other .v6 nofun).2] at hactive
        rw [h₄.props]
        exact (hrouted .v6 hactive).2
      have h₆ := @downFamilyEx_leaves (downFamilyEx g w .v4 [0]).1 (downFamilyEx g w .v4 [0]).2 .v6 htx [0]
      rw [if_pos rfl]
      refine (h₄.iff (downsEx_of_gateway hgateway (hcovers .v4))).both (h₆.iff ?_)
      obtain ⟨hroute, hactive⟩ := h₄.other .v6 nofun
      rw [hactive, hroute.wanUp]
      have hann := downsEx_of_gateway (g := g) hgateway (hcovers .v6)
      rw [← hann]
      split
      next => exact ⟨fun _ => announced_v6 g w, fun _ => announced_v6 _ _⟩
      next => exact Iff.rfl

end Wan

end DeviceHal.Ipacm
