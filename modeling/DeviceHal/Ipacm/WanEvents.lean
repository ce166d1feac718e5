import DeviceHal.Ipacm.WanDispatch

namespace DeviceHal.Ipacm

open Lib Wan

namespace WanSystem

variable {g g' : WanStatics} {w w' : Wan} {wans left right : List Wan} {iptype : IpaIpType} {ifNum : Nat}
  {e : WanInput} {s t : WanSystem} {op : WanOp}

/-- Every interface is there once, and has routes only where it can. -/
structure WellFormed (s : WanSystem) : Prop where
  ids : (s.wans.map fun w => w.ipaIfNum).Nodup
  routed : ∀ w ∈ s.wans, w.Routed

theorem dispatch_idle (h : ∀ w ∈ wans, ∀ g, w.eventCallback g e = (g, some w)) : dispatch e g wans = (g, wans) := by
  induction wans with
  | nil => rfl
  | cons w wans ih =>
    rw [dispatch_cons (h w List.mem_cons_self g), ih fun w' hw' => h w' (List.mem_cons_of_mem _ hw')]
    rfl

theorem dispatch_one {o : Option Wan} (hleft : ∀ w ∈ left, ∀ g, w.eventCallback g e = (g, some w))
    (hright : ∀ w ∈ right, ∀ g, w.eventCallback g e = (g, some w)) (he : w.eventCallback g e = (g', o)) :
    dispatch e g (left ++ w :: right) = (g', left ++ (o.toList ++ right)) := by
  induction left with
  | nil => rw [List.nil_append, dispatch_cons he, dispatch_idle hright, List.nil_append]
  | cons a left ih =>
    rw [List.cons_append, dispatch_cons (hleft a List.mem_cons_self g),
      ih fun w' hw' => hleft w' (List.mem_cons_of_mem _ hw')]
    rfl

def Targets (e : WanInput) (ifNum : Nat) : Prop :=
  ∀ (w : Wan) (g : WanStatics), w.ipaIfNum ≠ ifNum → w.eventCallback g e = (g, some w)

theorem targets_addrAdd (ifNum : Nat) (addr : IfaceAddr) : Targets (.addrAdd ifNum addr) ifNum := by
  intro w g hne
  simp [eventCallback, Ne.symm hne]

theorem targets_upstreamRouteDel (ifNum : Nat) (iptype : IpaIpType) :
    Targets (.upstreamRouteDel ifNum iptype) ifNum := by
  intro w g hne
  simp [eventCallback, Ne.symm hne]

theorem targets_wlanLinkDown (ifNum : Nat) : Targets (.wlanLinkDown ifNum) ifNum := by
  intro w g hne
  simp [eventCallback, Ne.symm hne]

theorem targets_linkDown (ifNum : Nat) : Targets (.linkDown ifNum) ifNum := by
  intro w g hne
  simp [eventCallback, Ne.symm hne]

theorem routesRight_iff : RoutesRight s ↔
    (∀ iptype, RightWith s.statics iptype (s.wans.countP fun w => w.active iptype)) ∧
      ∀ f, (s.statics.ipaIfNumTether f).length ≤ ipaMaxIfaceEntries :=
  ⟨fun h => ⟨fun iptype => familyRight_iff.mp (h.family iptype), h.tether⟩,
    fun h => ⟨fun iptype => familyRight_iff.mpr (h.1 iptype), h.2⟩⟩

/-- What an event does at its interface: `ok` is when the families are right after it. -/
structure Handles (g : WanStatics) (w : Wan) (ok : IpaIpType → Prop) (g' : WanStatics) (o : Option Wan) : Prop where
  family : ∀ iptype n, RightWith g iptype (n + w.routes iptype) →
    (RightWith g' iptype (n + o.toList.countP fun w => w.active iptype) ↔ ok iptype)
  tether : ∀ f, (g'.ipaIfNumTether f).length ≤ (g.ipaIfNumTether f).length

theorem dispatch_target (hright : RoutesRight s) (hids : (s.wans.map fun w => w.ipaIfNum).Nodup)
    (htarget : Targets e ifNum) {ok : Wan → IpaIpType → Prop}
    (hhandles : ∀ w ∈ s.wans, w.ipaIfNum = ifNum →
      ∃ g' o, w.eventCallback s.statics e = (g', o) ∧ Handles s.statics w (ok w) g' o) :
    RoutesRight ⟨(dispatch e s.statics s.wans).1, (dispatch e s.statics s.wans).2⟩ ↔
      ∀ w ∈ s.wans, w.ipaIfNum = ifNum → ∀ iptype, ok w iptype := by
  by_cases hex : ∃ w ∈ s.wans, w.ipaIfNum = ifNum
  · obtain ⟨w, hw, hid⟩ := hex
    obtain ⟨left, right, hsplit⟩ := List.append_of_mem hw
    obtain ⟨g', o, he, hfamily, htether⟩ := hhandles w hw hid
    rw [hsplit, List.map_append, List.map_cons, List.nodup_middle, List.nodup_cons, ← List.map_append] at hids
    have hothers : ∀ w' ∈ left ++ right, w'.ipaIfNum ≠ ifNum := fun w' hw' he' =>
      hids.1 (List.mem_map.mpr ⟨w', hw', he'.trans hid.symm⟩)
    have hidle : ∀ w' ∈ left ++ right, ∀ g, w'.eventCallback g e = (g, some w') :=
      fun w' hw' g => htarget w' g (hothers w' hw')
    have hdispatch : dispatch e s.statics s.wans = (g', left ++ (o.toList ++ right)) := by
      rw [hsplit]
      exact dispatch_one (fun w' hw' => hidle w' (List.mem_append_left _ hw'))
        (fun w' hw' => hidle w' (List.mem_append_right _ hw')) he
    have honly : (∀ w' ∈ s.wans, w'.ipaIfNum = ifNum → ∀ iptype, ok w' iptype) ↔ ∀ iptype, ok w iptype := by
      refine ⟨fun h => h w hw hid, fun h w' hw' hid' => ?_⟩
      rw [hsplit, List.mem_append, List.mem_cons] at hw'
      have hself : w' = w := by
        rcases hw' with hl | rfl | hr
        · exact absurd hid' (hothers w' (List.mem_append_left _ hl))
        · rfl
        · exact absurd hid' (hothers w' (List.mem_append_right _ hr))
      rw [hself]
      exact h
    obtain ⟨hroutes, hlength⟩ := routesRight_iff.mp hright
    rw [honly, routesRight_iff, hdispatch]
    have hcount : ∀ iptype, ((left ++ (o.toList ++ right)).countP fun w => w.active iptype) =
        (left ++ right).countP (fun w => w.active iptype) + o.toList.countP fun w => w.active iptype := by
      intro iptype
      simp only [List.countP_append]
      omega
    have hbefore : ∀ iptype, RightWith s.statics iptype
        (((left ++ right).countP fun w => w.active iptype) + w.routes iptype) := by
      intro iptype
      have h := hroutes iptype
      rw [hsplit] at h
      simp only [List.countP_append, List.countP_cons] at h ⊢
      rw [← Nat.add_assoc] at h
      exact h
    constructor
    · rintro ⟨hafter, -⟩ iptype
      have h := hafter iptype
      rw [hcount] at h
      exact (hfamily iptype _ (hbefore iptype)).mp h
    · intro hok
      refine ⟨fun iptype => ?_, fun f => (htether f).trans (hlength f)⟩
      rw [hcount]
      exact (hfamily iptype _ (hbefore iptype)).mpr (hok iptype)
  · have hidle : ∀ w ∈ s.wans, ∀ g, w.eventCallback g e = (g, some w) :=
      fun w hw g => htarget w g fun hid => hex ⟨w, hw, hid⟩
    rw [dispatch_idle hidle]
    exact ⟨fun _ w hw hid => absurd ⟨w, hw, hid⟩ hex, fun _ => hright⟩

theorem handles_same (hactive : w'.active = w.active) : Handles g w (fun _ => True) g (some w') := by
  refine ⟨fun iptype n h => ⟨fun _ => trivial, fun _ => ?_⟩, fun f => Nat.le_refl _⟩
  have hsame : ([w'].countP fun w => w.active iptype) = w.routes iptype := by
    rw [List.countP_singleton, hactive]
    rfl
  rw [Option.toList_some, hsame]
  exact h

theorem handleAddrEvt_active (w : Wan) (addr : IfaceAddr) : (w.handleAddrEvt addr).active = w.active := by
  grind [handleAddrEvt]

theorem addrAdd_handles (addr : IfaceAddr) : ∃ g' o, w.eventCallback g (.addrAdd ifNum addr) = (g', o) ∧
    Handles g w (fun _ => True) g' o := by
  simp only [eventCallback]
  split
  next => exact ⟨g, some w, rfl, handles_same rfl⟩
  next =>
    split
    next => exact ⟨g, _, rfl, handles_same (handleAddrEvt_active w addr)⟩
    next => exact ⟨g, some w, rfl, handles_same rfl⟩

theorem handles_of_leaves {ok : Prop} (h : Leaves g w iptype ok g' w') (hinactive : w'.active iptype = false) :
    Handles g w (fun f => f = iptype → ok) g' (some w') := by
  refine ⟨fun f n hright => ?_, h.tether⟩
  rw [Option.toList_some, List.countP_singleton]
  by_cases hf : f = iptype
  · subst hf
    rw [hinactive, if_neg Bool.false_ne_true, Nat.add_zero, h.own n hright]
    exact ⟨fun hok _ => hok, fun hok => hok rfl⟩
  · obtain ⟨hroute, hactive⟩ := h.other f hf
    rw [hactive, RightWith.congr hroute]
    exact ⟨fun _ he => absurd he hf, fun _ => hright⟩

theorem upstreamRouteDel_handles (hrouted : w.Routed) (hid : w.ipaIfNum = ifNum) :
    ∃ g' o, w.eventCallback g (.upstreamRouteDel ifNum iptype) = (g', o) ∧
      Handles g w (fun f => f = iptype → w.active iptype = true → g.Announced w iptype) g' o := by
  cases hactive : w.active iptype with
  | false =>
    refine ⟨g, some w, ?_, fun f n h => ?_, fun f => Nat.le_refl _⟩
    · simp [eventCallback, hactive]
    · exact ⟨fun _ _ hup => absurd hup Bool.false_ne_true,
        fun _ => ((handles_same rfl).family f n h).mpr trivial⟩
  | true =>
    have htx := (hrouted iptype hactive).2
    have hroute : ∀ f, SameRoute f g (postWanDownTetherEvt g w iptype 0) := fun f => postWanDownTetherEvt_route 0
    have hleaves := @handleRouteDelEvt_leaves (postWanDownTetherEvt g w iptype 0) w iptype fun _ => htx
    have hall : Leaves g w iptype (w.active iptype = true → g.Announced w iptype)
        (handleRouteDelEvt (postWanDownTetherEvt g w iptype 0) w iptype).1
        (handleRouteDelEvt (postWanDownTetherEvt g w iptype 0) w iptype).2 := by
      refine ⟨fun n h => ?_, fun f hne => ?_, hleaves.props, hleaves.addr, fun f => ?_⟩
      · rw [hleaves.own n ((RightWith.congr (hroute iptype)).mpr h), (hroute iptype).announced_iff]
      · exact ⟨(hroute f).trans (hleaves.other f hne).1, (hleaves.other f hne).2⟩
      · exact (hleaves.tether f).trans (postWanDownTetherEvt_tether 0)
    rw [hactive] at hall
    refine ⟨_, _, ?_, handles_of_leaves hall ?_⟩
    · simp [eventCallback, hid, hactive]
    · obtain ⟨data, -, he⟩ := @handleRouteDelEvt_active (postWanDownTetherEvt g w iptype 0) w iptype hactive htx
      rw [he]
      exact Function.update_self ..

theorem handles_of_goesDown {ok : IpaIpType → Prop} (h : GoesDown g w ok g') : Handles g w ok g' none :=
  ⟨fun f n hright => h.family f n hright, h.tether⟩

theorem wlanLinkDown_handles (hrouted : w.Routed) (hid : w.ipaIfNum = ifNum) :
    ∃ g' o, w.eventCallback g (.wlanLinkDown ifNum) = (g', o) ∧
      Handles g w (fun f => w.isStaMode = .wlanWan → w.active f = true → g.Announced w f) g' o := by
  by_cases hmode : w.isStaMode = .wlanWan
  · refine ⟨handleDownEvt g w, none, ?_, ?_⟩
    · simp [eventCallback, hid, hmode]
    · have hdown := handles_of_goesDown (@handleDownEvt_goes g w hrouted)
      simp only [hmode, forall_const]
      exact hdown
  · refine ⟨g, some w, ?_, ?_⟩
    · simp [eventCallback, hmode]
    · have hsame := @handles_same g w w rfl
      simp only [hmode, false_implies]
      exact hsame

theorem linkDown_handles (hrouted : w.Routed) (hid : w.ipaIfNum = ifNum) :
    ∃ g' o, w.eventCallback g (.linkDown ifNum) = (g', o) ∧
      Handles g w (fun f => (w.isStaMode = .ecmWan → w.active f = true → g.Announced w f) ∧
        (w.isStaMode = .q6Wan → DownsEx g w f)) g' o := by
  cases hmode : w.isStaMode with
  | q6Wan =>
    refine ⟨handleDownEvtEx g w, none, ?_, ?_⟩
    · simp [eventCallback, hid, hmode]
    · have hdown := handles_of_goesDown (@handleDownEvtEx_goes g w hrouted)
      grind
  | ecmWan =>
    refine ⟨handleDownEvt g w, none, ?_, ?_⟩
    · simp [eventCallback, hid, hmode]
    · have hdown := handles_of_goesDown (@handleDownEvt_goes g w hrouted)
      grind
  | wlanWan =>
    refine ⟨g, some w, ?_, ?_⟩
    · simp [eventCallback, hid, hmode]
    · have hsame := @handles_same g w w rfl
      grind

theorem Routed.of_active (hrouted : w.Routed) (hprops : w'.toWanProps = w.toWanProps) (hip : w'.ipType = w.ipType)
    (hactive : ∀ f, w'.active f = true → w.active f = true ∨ w.comesUp f = true) : w'.Routed := by
  intro f hup
  rw [hip, hprops]
  rcases hactive f hup with hbefore | hcomes
  · exact hrouted f hbefore
  · simp only [comesUp, takesRoute, Bool.and_eq_true] at hcomes
    exact ⟨hcomes.1.1.2.1, hcomes.1.2⟩

theorem handleAddrEvt_routed (hrouted : w.Routed) (addr : IfaceAddr) : (w.handleAddrEvt addr).Routed := by
  intro f hup
  rw [handleAddrEvt_active] at hup
  obtain ⟨hcovers, htx⟩ := hrouted f hup
  have hmore : (w.ipType.config addr.iptype).covers f = true := by
    rw [IfaceIpType.covers_config, hcovers]
    rfl
  grind [handleAddrEvt]

theorem handleAddrEvt_props (w : Wan) (addr : IfaceAddr) : (w.handleAddrEvt addr).toWanProps = w.toWanProps := by
  grind [handleAddrEvt]

theorem routeAdd_keeps (hrouted : w.Routed) (h : w.eventCallback g (.upstreamRouteAdd ifNum iptype) = (g', some w')) :
    w'.toWanProps = w.toWanProps ∧ w'.Routed := by
  by_cases hid : ifNum = w.ipaIfNum
  · obtain ⟨g₁, w₁, he, hown, -⟩ := routeAdd_own g w iptype
    rw [hid, he] at h
    obtain ⟨-, rfl⟩ : g₁ = g' ∧ w₁ = w' := by simpa using h
    refine ⟨hown.props, Routed.of_active hrouted hown.props hown.ipType fun f hup => ?_⟩
    by_cases hf : f = iptype
    · subst hf
      cases hcomes : w.comesUp f with
      | true => exact .inr rfl
      | false => exact .inl ((hown.stays hcomes).2 ▸ hup)
    · exact .inl ((hown.other f hf).2 ▸ hup)
  · obtain ⟨g₁, w₁, he, hother⟩ := @routeAdd_other w iptype ifNum hid (fun hactive => (hrouted iptype hactive).2) g
    rw [he] at h
    obtain ⟨-, rfl⟩ : g₁ = g' ∧ w₁ = w' := by simpa using h
    refine ⟨hother.props, Routed.of_active hrouted hother.props hother.ipType fun f hup => .inl ?_⟩
    by_cases hf : f = iptype
    · subst hf
      rw [hother.inactive] at hup
      cases hup
    · exact (hother.other f hf).2 ▸ hup

theorem handleRouteDelEvt_routed (hrouted : w.Routed) : (handleRouteDelEvt g w iptype).2.Routed := by
  obtain ⟨hprops, hip, -, hother⟩ := handleRouteDelEvt_wan w g iptype
  refine Routed.of_active hrouted hprops hip fun f hup => .inl ?_
  by_cases hf : f = iptype
  · grind [handleRouteDelEvt]
  · rw [hother f hf] at hup
    exact hup

theorem eventCallback_keeps (hrouted : w.Routed) (h : w.eventCallback g e = (g', some w')) :
    w'.toWanProps = w.toWanProps ∧ w'.Routed := by
  cases e with
  | addrAdd ifNum addr =>
    simp only [eventCallback] at h
    split at h
    next => cases h; exact ⟨rfl, hrouted⟩
    next =>
      split at h
      next => cases h; exact ⟨handleAddrEvt_props w addr, handleAddrEvt_routed hrouted addr⟩
      next => cases h; exact ⟨rfl, hrouted⟩
  | upstreamRouteAdd ifNum iptype => exact routeAdd_keeps hrouted h
  | upstreamRouteDel ifNum iptype =>
    simp only [eventCallback] at h
    split at h
    next => cases h; exact ⟨(handleRouteDelEvt_wan w _ iptype).1, handleRouteDelEvt_routed hrouted⟩
    next => cases h; exact ⟨rfl, hrouted⟩
  | wlanLinkDown ifNum =>
    grind [eventCallback]
  | linkDown ifNum =>
    grind [eventCallback]

theorem dispatch_keeps (hrouted : ∀ w ∈ wans, w.Routed) :
    (∀ w ∈ (dispatch e g wans).2, w.Routed) ∧
      List.Sublist ((dispatch e g wans).2.map fun w => w.ipaIfNum) (wans.map fun w => w.ipaIfNum) := by
  induction wans generalizing g with
  | nil => exact ⟨List.forall_mem_nil _, List.Sublist.refl []⟩
  | cons w wans ih =>
    have hw := hrouted w List.mem_cons_self
    obtain ⟨⟨g₁, o⟩, he⟩ : ∃ r, w.eventCallback g e = r := ⟨_, rfl⟩
    obtain ⟨hrest, hids⟩ := @ih g₁ fun w' hw' => hrouted w' (List.mem_cons_of_mem _ hw')
    rw [dispatch_cons he]
    cases o with
    | none => exact ⟨hrest, hids.cons _⟩
    | some w' =>
      obtain ⟨hprops, hw'⟩ := eventCallback_keeps hw he
      refine ⟨fun a ha => ?_, ?_⟩
      · grind
      grind

theorem WellFormed.dispatch (h : s.WellFormed) (e : WanInput) :
    WellFormed ⟨(dispatch e s.statics s.wans).1, (dispatch e s.statics s.wans).2⟩ := by
  obtain ⟨hrouted, hids⟩ := @dispatch_keeps s.statics s.wans e h.routed
  exact ⟨h.ids.sublist hids, hrouted⟩

theorem WellFormed.register (h : s.WellFormed) (props : WanProps) (hnew : ¬∃ w ∈ s.wans, w.ipaIfNum = props.ipaIfNum) :
    WellFormed { s with wans := s.wans ++ [{ props with }] } := by
  constructor
  · rw [List.map_append, List.map_singleton, List.nodup_append]
    refine ⟨h.ids, List.nodup_singleton _, fun a ha b hb => ?_⟩
    grind
  · intro w hw
    rcases List.mem_append.mp hw with hold | hlast
    · exact h.routed w hold
    · rw [List.mem_singleton.mp hlast]
      exact fun _ hup => (nomatch hup)

end WanSystem

namespace WanSystem

variable {s t : WanSystem} {iptype : IpaIpType} {ifNum : Nat}

/-- A dispatch keeps the routes of all families right: an interface that comes up is registered after
the one with the route, an interface goes down with the address that it came up with, a modem
interface goes down as `DownsEx` says, and there is room for another tethering interface. -/
def KeepsRoutes (s : WanSystem) : WanOp → Prop
  | .register _ => True
  | .dispatch (.addrAdd _ _) => True
  | .dispatch (.upstreamRouteAdd ifNum iptype) =>
    (s.wans.Pairwise fun a b => a.ipaIfNum = ifNum → a.comesUp iptype = true → b.active iptype = false) ∧
      (∀ w ∈ s.wans, w.ipaIfNum ≠ ifNum → w.active iptype = true → s.statics.Announced w iptype) ∧
      ∀ w ∈ s.wans, w.ipaIfNum = ifNum → w.takesRoute iptype = true →
        (s.statics.ipaIfNumTether iptype).length < ipaMaxIfaceEntries
  | .dispatch (.upstreamRouteDel ifNum iptype) =>
    ∀ w ∈ s.wans, w.ipaIfNum = ifNum → w.active iptype = true → s.statics.Announced w iptype
  | .dispatch (.wlanLinkDown ifNum) =>
    ∀ w ∈ s.wans, w.ipaIfNum = ifNum → w.isStaMode = .wlanWan →
      ∀ iptype, w.active iptype = true → s.statics.Announced w iptype
  | .dispatch (.linkDown ifNum) =>
    ∀ w ∈ s.wans, w.ipaIfNum = ifNum →
      (w.isStaMode = .ecmWan → ∀ iptype, w.active iptype = true → s.statics.Announced w iptype) ∧
        (w.isStaMode = .q6Wan → ∀ iptype, DownsEx s.statics w iptype)

theorem register_right (hright : RoutesRight s) (props : WanProps) :
    RoutesRight { s with wans := s.wans ++ [{ props with }] } := by
  obtain ⟨hroutes, hlength⟩ := routesRight_iff.mp hright
  refine routesRight_iff.mpr ⟨fun iptype => ?_, hlength⟩
  have hcount : ((s.wans ++ [({ props with } : Wan)]).countP fun w => w.active iptype) =
      s.wans.countP fun w => w.active iptype := by
    rw [List.countP_append]
    rfl
  rw [hcount]
  exact hroutes iptype

theorem countP_id_le_one (hids : (s.wans.map fun w => w.ipaIfNum).Nodup) :
    (s.wans.countP fun w => w.ipaIfNum = ifNum ∧ w.takesRoute iptype = true) ≤
      if ∃ w ∈ s.wans, w.ipaIfNum = ifNum ∧ w.takesRoute iptype = true then 1 else 0 := by
  split
  next =>
    have hone : (s.wans.map fun w => w.ipaIfNum).count ifNum ≤ 1 := List.nodup_iff_count_le_one.mp hids ifNum
    refine le_trans ?_ hone
    rw [List.count, List.countP_map]
    refine List.countP_mono_left fun w _ h => ?_
    simp only [decide_eq_true_eq] at h
    exact beq_iff_eq.mpr h.1
  next hno =>
    refine Nat.le_of_eq (List.countP_eq_zero.mpr fun w hw h => hno ⟨w, hw, ?_⟩)
    exact of_decide_eq_true h

theorem routeAdd_right_iff (hright : RoutesRight s) (hwf : s.WellFormed) :
    RoutesRight ⟨(dispatch (.upstreamRouteAdd ifNum iptype) s.statics s.wans).1,
        (dispatch (.upstreamRouteAdd ifNum iptype) s.statics s.wans).2⟩ ↔
      KeepsRoutes s (.dispatch (.upstreamRouteAdd ifNum iptype)) := by
  obtain ⟨hroutes, hlength⟩ := routesRight_iff.mp hright
  have htx : ∀ w ∈ s.wans, w.active iptype = true → w.hasTxProp = true :=
    fun w hw hactive => (hwf.routed w hw iptype hactive).2
  have hzero : 0 + (s.wans.countP fun w => w.active iptype) = s.wans.countP fun w => w.active iptype := Nat.zero_add _
  have hfamily := @dispatch_routeAdd_right s.statics s.wans iptype ifNum 0 hwf.ids htx (fun _ => rfl)
    (hzero.symm ▸ hroutes iptype)
  rw [Nat.zero_add] at hfamily
  have hother : ∀ f, f ≠ iptype → RightWith (dispatch (.upstreamRouteAdd ifNum iptype) s.statics s.wans).1 f
      ((dispatch (.upstreamRouteAdd ifNum iptype) s.statics s.wans).2.countP fun w => w.active f) := by
    intro f hne
    obtain ⟨hroute, hcount⟩ := @dispatch_routeAdd_other s.statics s.wans iptype ifNum f hne htx
    rw [hcount, RightWith.congr hroute]
    exact hroutes f
  have htether : (∀ f, ((dispatch (.upstreamRouteAdd ifNum iptype) s.statics s.wans).1.ipaIfNumTether f).length ≤
      ipaMaxIfaceEntries) ↔ ∀ w ∈ s.wans, w.ipaIfNum = ifNum → w.takesRoute iptype = true →
        (s.statics.ipaIfNumTether iptype).length < ipaMaxIfaceEntries := by
    simp only [dispatch_routeAdd_tether htx]
    constructor
    · intro h w hw hid htakes
      have hown := h iptype
      rw [if_pos rfl] at hown
      have hpos : 0 < s.wans.countP fun w => w.ipaIfNum = ifNum ∧ w.takesRoute iptype = true :=
        List.countP_pos_iff.mpr ⟨w, hw, decide_eq_true ⟨hid, htakes⟩⟩
      omega
    · intro h f
      by_cases hf : f = iptype
      · rw [if_pos hf, hf]
        have hle := @countP_id_le_one s iptype ifNum hwf.ids
        have hlen := hlength iptype
        split at hle
        next hex =>
          grind
        next => omega
      · rw [if_neg hf]
        exact hlength f
  rw [routesRight_iff]
  constructor
  · rintro ⟨hall, hfull⟩
    obtain ⟨horder, haddr⟩ := hfamily.mp (hall iptype)
    exact ⟨horder, haddr, htether.mp hfull⟩
  · rintro ⟨horder, haddr, hroom⟩
    grind

theorem dispatch_right_iff (hright : RoutesRight s) (hwf : s.WellFormed) (e : WanInput) :
    RoutesRight ⟨(dispatch e s.statics s.wans).1, (dispatch e s.statics s.wans).2⟩ ↔ KeepsRoutes s (.dispatch e) := by
  cases e with
  | addrAdd ifNum addr =>
    rw [dispatch_target hright hwf.ids (targets_addrAdd ifNum addr) fun w _ _ => addrAdd_handles addr]
    exact ⟨fun _ => trivial, fun _ _ _ _ _ => trivial⟩
  | upstreamRouteAdd ifNum iptype => exact routeAdd_right_iff hright hwf
  | upstreamRouteDel ifNum iptype =>
    rw [dispatch_target hright hwf.ids (targets_upstreamRouteDel ifNum iptype)
      fun w hw hid => upstreamRouteDel_handles (hwf.routed w hw) hid]
    exact ⟨fun h w hw hid => h w hw hid iptype rfl, fun h w hw hid f _ => h w hw hid⟩
  | wlanLinkDown ifNum =>
    rw [dispatch_target hright hwf.ids (targets_wlanLinkDown ifNum)
      fun w hw hid => wlanLinkDown_handles (hwf.routed w hw) hid]
    exact ⟨fun h w hw hid hmode f => h w hw hid f hmode, fun h w hw hid f hmode => h w hw hid hmode f⟩
  | linkDown ifNum =>
    rw [dispatch_target hright hwf.ids (targets_linkDown ifNum)
      fun w hw hid => linkDown_handles (hwf.routed w hw) hid]
    constructor
    · exact fun h w hw hid => ⟨fun hmode f => (h w hw hid f).1 hmode, fun hmode f => (h w hw hid f).2 hmode⟩
    · exact fun h w hw hid f => ⟨fun hmode => (h w hw hid).1 hmode f, fun hmode => (h w hw hid).2 hmode f⟩

theorem step_right_iff (hright : RoutesRight s) (hwf : s.WellFormed) (op : WanOp) :
    ∃ t, step s op = some t ∧ t.WellFormed ∧ (RoutesRight t ↔ KeepsRoutes s op) := by
  cases op with
  | register props =>
    by_cases hold : ∃ w ∈ s.wans, w.ipaIfNum = props.ipaIfNum
    · exact ⟨s, if_pos hold, hwf, fun _ => trivial, fun _ => hright⟩
    · exact ⟨_, if_neg hold, hwf.register props hold, fun _ => trivial, fun _ => register_right hright props⟩
  | dispatch e => exact ⟨_, rfl, hwf.dispatch e, dispatch_right_iff hright hwf e⟩

theorem routesRight_init : RoutesRight {} := by
  refine routesRight_iff.mpr ⟨fun iptype => RightWith.zero_iff.mpr ⟨rfl, rfl⟩, fun f => ?_⟩
  exact Nat.zero_le ipaMaxIfaceEntries

theorem wellFormed_init : WellFormed {} := ⟨List.nodup_nil, List.forall_mem_nil _⟩

/-- Along a run the routes are right exactly if every dispatch keeps them. -/
theorem routesRight_iff_keepsRoutes (ops : List WanOp) :
    Always step RoutesRight {} ops ↔ OpsMeet step KeepsRoutes {} ops := by
  refine @always_iff_of_keeps _ _ step (fun _ _ => True) (fun s => RoutesRight s ∧ s.WellFormed) RoutesRight
    KeepsRoutes (fun _ h => h.1) (fun s op t h _ hgood ht => ?_) (fun s op h _ hbad => ?_) {} ops
    ⟨routesRight_init, wellFormed_init⟩ (opsMeet_true _ _)
  · obtain ⟨t', ht', hwf, hiff⟩ := step_right_iff h.1 h.2 op
    grind
  · obtain ⟨t, ht, -, hiff⟩ := step_right_iff h.1 h.2 op
    exact ⟨t, ht, fun hright => hbad (hiff.mp hright)⟩

def modem (ifNum : Nat) : WanProps := { ipaIfNum := ifNum, devName := "rmnet_data", isStaMode := .q6Wan }

/-- The route goes to the second modem interface, and then to the first, which is dispatched to before
the second one. -/
def firstTakesOver : List WanOp :=
  [.register (modem 1), .register (modem 2), .dispatch (.addrAdd 1 (.v4 0x0A000001#32)),
    .dispatch (.addrAdd 2 (.v4 0x0A000002#32)), .dispatch (.upstreamRouteAdd 2 .v4),
    .dispatch (.upstreamRouteAdd 1 .v4)]

theorem firstTakesOver_wrong : ¬Always step RoutesRight {} firstTakesOver := by
  intro h
  have hrun : ∃ s, runOps step {} firstTakesOver = some s ∧ s.statics.wanUp .v4 = false ∧
      ∃ w ∈ s.wans, w.active .v4 = true :=
    ⟨_, rfl, rfl, _, List.mem_cons_self, rfl⟩
  obtain ⟨s, hs, hdown, hup⟩ := hrun
  have hwanUp := ((h.last hs).family .v4).wanUp.mpr hup
  rw [hdown] at hwanUp
  cases hwanUp

end WanSystem

end DeviceHal.Ipacm
