import DeviceHal.Ipacm.OffloadManager

namespace DeviceHal.Ipacm

open Lib

/-- A route that is added when there is none, and deleted as it was added. `none` is a sequence of
events that does neither. -/
def routeStep (iptype : IpaIpType) : Option (Option Int) → OffloadEvt → Option (Option Int)
  | some none, .routeAdd iptype' ifIndex _ =>
    if iptype' = iptype then some (some ifIndex) else some none
  | some (some i), .routeDel iptype' ifIndex _ =>
    if iptype' = iptype then if ifIndex = i then some none else none else some (some i)
  | some none, .routeDel iptype' _ _ => if iptype' = iptype then none else some none
  | some (some i), .routeAdd iptype' _ _ => if iptype' = iptype then none else some (some i)
  | r, _ => r

/-- The interface index of the route that the events leave. -/
def routeOf (iptype : IpaIpType) (posted : List OffloadEvt) : Option (Option Int) :=
  posted.foldl (routeStep iptype) (some none)

section Route

variable {iptype iptype' : IpaIpType} {posted : List OffloadEvt} {ifIndex : Int} {gwAddr : Prefix}

theorem routeOf_append (evt : OffloadEvt) :
    routeOf iptype (posted ++ [evt]) = routeStep iptype (routeOf iptype posted) evt := by
  simp only [routeOf, List.foldl_append, List.foldl_cons, List.foldl_nil]

theorem routeOf_add_self (h : routeOf iptype posted = some none) :
    routeOf iptype (posted ++ [.routeAdd iptype ifIndex gwAddr]) = some (some ifIndex) := by
  simp [routeOf_append, h, routeStep]

theorem routeOf_del_self (h : routeOf iptype posted = some (some ifIndex)) :
    routeOf iptype (posted ++ [.routeDel iptype ifIndex gwAddr]) = some none := by
  simp [routeOf_append, h, routeStep]

theorem routeOf_add_of_ne (h : iptype' ≠ iptype) :
    routeOf iptype (posted ++ [.routeAdd iptype' ifIndex gwAddr]) = routeOf iptype posted := by
  rw [routeOf_append]
  rcases routeOf iptype posted with _ | _ | i <;> simp [routeStep, h]

theorem routeOf_del_of_ne (h : iptype' ≠ iptype) :
    routeOf iptype (posted ++ [.routeDel iptype' ifIndex gwAddr]) = routeOf iptype posted := by
  rw [routeOf_append]
  rcases routeOf iptype posted with _ | _ | i <;> simp [routeStep, h]

theorem routeOf_downstream {evt : OffloadEvt} (index : Nat) (subnet : Prefix)
    (h : evt = .downstreamAdd index subnet ∨ evt = .downstreamDel index subnet) :
    routeOf iptype (posted ++ [evt]) = routeOf iptype posted := by
  rw [routeOf_append]
  rcases h with rfl | rfl <;> rcases routeOf iptype posted with _ | _ | i <;> rfl

end Route

namespace OffloadManager

variable {m t : OffloadManager} {env : OffloadEnv} {iptype : IpaIpType} {gwAddr : Prefix}

/-- The events of the families that are up leave a route to the interface, those of the others
none. -/
def Routes (index : Int) (m : OffloadManager) : Prop :=
  ∀ iptype, routeOf iptype m.posted = some (if m.up iptype then some index else none)

/-- For each family the events alternate, beginning with an add, and a delete carries the interface
index of its add. The family is up exactly if the last one is an add, and that add is for the default
gateway's interface. -/
def Coherent (m : OffloadManager) : Prop := m.Routes m.defaultGwIndex

def Allocates (_ : OffloadManager) (op : OffloadEnv × OffloadOp) : Prop :=
  ∀ k, op.1.mallocOk k = true

/-- A call that takes the upstream away names each family that is up. -/
def NamesUp (m : OffloadManager) (op : OffloadEnv × OffloadOp) : Prop :=
  match op.2 with
  | .setUpstream none gwAddrV4 gwAddrV6 => m.defaultGwIndex ≠ invalidIface →
      (m.upstreamV4Up = true → gwAddrV4.fam = .v4) ∧ (m.upstreamV6Up = true → gwAddrV6.fam = .v6)
  | _ => True

instance (m : OffloadManager) (op : OffloadEnv × OffloadOp) : Decidable (m.NamesUp op) := by
  unfold NamesUp
  split <;> infer_instance

@[simp] theorem up_setUp_self (b : Bool) : (m.setUp iptype b).up iptype = b := by
  cases iptype <;> rfl

variable {iptype' : IpaIpType}

theorem up_setUp_of_ne (h : iptype' ≠ iptype) (b : Bool) :
    (m.setUp iptype b).up iptype' = m.up iptype' := by
  cases iptype <;> cases iptype' <;> first | rfl | exact absurd rfl h

@[simp] theorem setUp_posted (b : Bool) : (m.setUp iptype b).posted = m.posted := by
  cases iptype <;> rfl

@[simp] theorem setUp_defaultGwIndex (b : Bool) :
    (m.setUp iptype b).defaultGwIndex = m.defaultGwIndex := by
  cases iptype <;> rfl

theorem post_posted (halloc : ∀ k, env.mallocOk k = true) (evt : OffloadEvt) :
    (m.post env evt).posted = m.posted ++ [evt] := by
  simp only [post, halloc, if_true]

@[simp] theorem post_up (evt : OffloadEvt) : (m.post env evt).up iptype = m.up iptype := by
  cases iptype <;> rfl

@[simp] theorem cleanUpstream_defaultGwIndex :
    (m.cleanUpstream env iptype gwAddr).defaultGwIndex = m.defaultGwIndex := by
  unfold cleanUpstream
  split
  · exact setUp_defaultGwIndex false
  · rfl

@[simp] theorem cleanUpstream_up_self : (m.cleanUpstream env iptype gwAddr).up iptype = false := by
  unfold cleanUpstream
  split
  next => exact up_setUp_self false
  next h => exact Bool.eq_false_iff.mpr h

theorem cleanUpstream_up_of_ne (h : iptype' ≠ iptype) :
    (m.cleanUpstream env iptype gwAddr).up iptype' = m.up iptype' := by
  unfold cleanUpstream
  split
  · rw [up_setUp_of_ne h, post_up]
  · rfl

theorem cacheEvent_frame (evt : FrameworkEvent) (tries : Nat) (m : OffloadManager) :
    (m.cacheEvent evt tries).2.posted = m.posted ∧
      (m.cacheEvent evt tries).2.defaultGwIndex = m.defaultGwIndex ∧
      ∀ iptype, (m.cacheEvent evt tries).2.up iptype = m.up iptype := by
  induction tries generalizing m with
  | zero => exact ⟨rfl, rfl, fun _ => rfl⟩
  | succ tries ih =>
    unfold cacheEvent
    split
    · exact ⟨rfl, rfl, fun iptype => by cases iptype <;> rfl⟩
    · obtain ⟨hposted, hindex, hup⟩ := ih { m with latestCacheIndex := m.latestCacheIndex + 1 }
      exact ⟨hposted, hindex, fun iptype => (hup iptype).trans (by cases iptype <;> rfl)⟩

variable {index : Int}

theorem Routes.frame (h : m.Routes index) (hposted : t.posted = m.posted)
    (hup : ∀ iptype, t.up iptype = m.up iptype) : t.Routes index := by
  intro iptype
  rw [hposted, hup]
  exact h iptype

theorem Routes.of_down (h : m.Routes index) (hdown : ∀ iptype, m.up iptype = false) (index' : Int) :
    m.Routes index' := by
  intro iptype
  rw [h iptype, hdown iptype]
  rfl

theorem Coherent.cleanUpstream (h : m.Coherent) (halloc : ∀ k, env.mallocOk k = true) :
    (m.cleanUpstream env iptype gwAddr).Coherent := by
  unfold OffloadManager.cleanUpstream
  split
  next hup =>
    intro iptype'
    rw [setUp_posted, post_posted halloc]
    by_cases he : iptype' = iptype
    · subst he
      rw [up_setUp_self, routeOf_del_self (by rw [h iptype', hup]; rfl)]
      rfl
    · rw [up_setUp_of_ne he, post_up, routeOf_del_of_ne (Ne.symm he), h iptype',
        setUp_defaultGwIndex]
      rfl
  next => exact h

theorem Routes.addUpstream {index : Nat} (h : m.Routes index)
    (halloc : ∀ k, env.mallocOk k = true) : (m.addUpstream env iptype index gwAddr).Routes index := by
  unfold OffloadManager.addUpstream
  split
  next => exact h
  next hdown =>
    split
    next => exact h
    next =>
      intro iptype'
      rw [setUp_posted, post_posted halloc]
      by_cases he : iptype' = iptype
      · subst he
        rw [up_setUp_self, routeOf_add_self (by rw [h iptype', if_neg hdown])]
        rfl
      · rw [up_setUp_of_ne he, post_up, routeOf_add_of_ne (Ne.symm he), h iptype']

theorem Coherent.clearUpstream (h : m.Coherent) (halloc : ∀ k, env.mallocOk k = true)
    {gwAddrV4 gwAddrV6 : Prefix} (hdown : m.defaultGwIndex = invalidIface → ∀ iptype, m.up iptype = false)
    (hnames : m.defaultGwIndex ≠ invalidIface →
      (m.upstreamV4Up = true → gwAddrV4.fam = .v4) ∧ (m.upstreamV6Up = true → gwAddrV6.fam = .v6)) :
    (m.clearUpstream env gwAddrV4 gwAddrV6).2.Coherent ∧
      ∀ iptype, (m.clearUpstream env gwAddrV4 gwAddrV6).2.up iptype = false := by
  unfold OffloadManager.clearUpstream
  split
  next hunset => exact ⟨h, hdown hunset⟩
  next hset =>
    obtain ⟨hv4, hv6⟩ := hnames hset
    dsimp only
    have hfirst : (if gwAddrV4.fam = .v4 then m.cleanUpstream env .v4 gwAddrV4 else m).Coherent ∧
        (if gwAddrV4.fam = .v4 then m.cleanUpstream env .v4 gwAddrV4 else m).up .v4 = false ∧
        (if gwAddrV4.fam = .v4 then m.cleanUpstream env .v4 gwAddrV4 else m).up .v6 = m.up .v6 := by
      split
      next => exact ⟨h.cleanUpstream halloc, cleanUpstream_up_self, cleanUpstream_up_of_ne (by decide)⟩
      next hfam => exact ⟨h, Bool.eq_false_iff.mpr fun hup => hfam (hv4 hup), rfl⟩
    generalize (if gwAddrV4.fam = .v4 then m.cleanUpstream env .v4 gwAddrV4 else m) = first at hfirst
    obtain ⟨hcoherent, hdown4, hsame6⟩ := hfirst
    have hsecond : (if gwAddrV6.fam = .v6 then first.cleanUpstream env .v6 gwAddrV6
          else first).Coherent ∧
        ∀ iptype, (if gwAddrV6.fam = .v6 then first.cleanUpstream env .v6 gwAddrV6
          else first).up iptype = false := by
      split
      next =>
        refine ⟨hcoherent.cleanUpstream halloc, fun iptype => ?_⟩
        cases iptype with
        | v4 => exact (cleanUpstream_up_of_ne (by decide)).trans hdown4
        | v6 => exact cleanUpstream_up_self
      next hfam =>
        refine ⟨hcoherent, fun iptype => ?_⟩
        cases iptype with
        | v4 => exact hdown4
        | v6 => exact hsame6.trans (Bool.eq_false_iff.mpr fun hup => hfam (hv6 hup))
    obtain ⟨hcoherent', hdown'⟩ := hsecond
    refine ⟨(hcoherent'.of_down hdown' invalidIface).frame rfl fun iptype => ?_, fun iptype => ?_⟩
    · cases iptype <;> rfl
    · cases iptype
      · exact hdown' .v4
      · exact hdown' .v6

theorem Coherent.switchUpstream (h : m.Coherent) (halloc : ∀ k, env.mallocOk k = true) (index : Nat)
    (gwAddrV4 gwAddrV6 : Prefix) :
    (m.switchUpstream env index gwAddrV4 gwAddrV6).Routes index ∧
      ((m.switchUpstream env index gwAddrV4 gwAddrV6).defaultGwIndex = index ∨
        (m.switchUpstream env index gwAddrV4 gwAddrV6).defaultGwIndex = invalidIface) := by
  unfold OffloadManager.switchUpstream
  split
  next hne =>
    refine ⟨?_, Or.inr rfl⟩
    have hclean : ((m.cleanUpstream env .v4 gwAddrV4).cleanUpstream env .v6 gwAddrV6).Coherent :=
      (h.cleanUpstream halloc).cleanUpstream halloc
    have hdown : ∀ iptype,
        ((m.cleanUpstream env .v4 gwAddrV4).cleanUpstream env .v6 gwAddrV6).up iptype = false := by
      intro iptype
      cases iptype with
      | v4 => exact (cleanUpstream_up_of_ne (by decide)).trans cleanUpstream_up_self
      | v6 => exact cleanUpstream_up_self
    refine (hclean.of_down hdown index).frame rfl fun iptype => ?_
    cases iptype <;> rfl
  next heq =>
    have heq : (index : Int) = m.defaultGwIndex := Classical.not_not.mp heq
    refine ⟨?_, Or.inl heq.symm⟩
    rw [heq]
    exact h

theorem Routes.cleanOther {index : Nat} (h : m.Routes index)
    (hindex : m.defaultGwIndex = index ∨ m.defaultGwIndex = invalidIface)
    (halloc : ∀ k, env.mallocOk k = true) : (m.cleanOther env iptype gwAddr).Routes index := by
  unfold OffloadManager.cleanOther
  split
  next hset =>
    have heq : m.defaultGwIndex = index := hindex.resolve_right hset
    have hcoherent : m.Coherent := by
      unfold Coherent
      rw [heq]
      exact h
    have hclean : (m.cleanUpstream env iptype gwAddr).Coherent := hcoherent.cleanUpstream halloc
    unfold Coherent at hclean
    rwa [cleanUpstream_defaultGwIndex, heq] at hclean
  next => exact h

theorem Coherent.applyUpstream (h : m.Coherent) (halloc : ∀ k, env.mallocOk k = true) (index : Nat)
    (gwAddrV4 gwAddrV6 : Prefix) : (m.applyUpstream env index gwAddrV4 gwAddrV6).2.Coherent := by
  obtain ⟨hroutes, hindex⟩ := h.switchUpstream halloc index gwAddrV4 gwAddrV6
  have final : ∀ t : OffloadManager, t.Routes index →
      Coherent { t with defaultGwIndex := index } := by
    intro t ht
    exact ht.frame rfl fun iptype => by cases iptype <;> rfl
  unfold OffloadManager.applyUpstream
  refine final _ ?_
  split
  next => exact (hroutes.addUpstream halloc).addUpstream halloc
  next =>
    split
    next => exact (hroutes.cleanOther hindex halloc).addUpstream halloc
    next =>
      split
      next => exact (hroutes.cleanOther hindex halloc).addUpstream halloc
      next => exact hroutes

/-- Without a default gateway nothing is up. -/
structure RouteInv (m : OffloadManager) : Prop where
  coherent : m.Coherent
  down : m.defaultGwIndex = invalidIface → ∀ iptype, m.up iptype = false

theorem RouteInv.frame (h : m.RouteInv) (hposted : t.posted = m.posted)
    (hindex : t.defaultGwIndex = m.defaultGwIndex) (hup : ∀ iptype, t.up iptype = m.up iptype) :
    t.RouteInv := by
  refine ⟨?_, fun hunset iptype => ?_⟩
  · unfold Coherent
    rw [hindex]
    exact Routes.frame h.coherent hposted hup
  · rw [hup]
    exact h.down (hindex ▸ hunset) iptype

theorem RouteInv.cacheEvent (h : m.RouteInv) (evt : FrameworkEvent) (tries : Nat) :
    (m.cacheEvent evt tries).2.RouteInv := by
  obtain ⟨hposted, hindex, hup⟩ := cacheEvent_frame evt tries m
  exact h.frame hposted hindex hup

theorem RouteInv.clearUpstream (h : m.RouteInv) (halloc : ∀ k, env.mallocOk k = true)
    {gwAddrV4 gwAddrV6 : Prefix} (hnames : m.defaultGwIndex ≠ invalidIface →
      (m.upstreamV4Up = true → gwAddrV4.fam = .v4) ∧ (m.upstreamV6Up = true → gwAddrV6.fam = .v6)) :
    (m.clearUpstream env gwAddrV4 gwAddrV6).2.RouteInv := by
  obtain ⟨hcoherent, hdown⟩ := h.coherent.clearUpstream halloc h.down hnames
  exact ⟨hcoherent, fun _ => hdown⟩

theorem RouteInv.setUpstream (h : m.RouteInv) (halloc : ∀ k, env.mallocOk k = true)
    (upstreamName : String) (gwAddrV4 gwAddrV6 : Prefix) :
    (m.setUpstream env (some upstreamName) gwAddrV4 gwAddrV6).2.RouteInv := by
  unfold OffloadManager.setUpstream
  dsimp only
  split
  next => exact h
  next index _ =>
    split
    next => exact h.cacheEvent _ _
    next =>
      refine ⟨h.coherent.applyUpstream halloc index gwAddrV4 gwAddrV6, fun hunset => ?_⟩
      have hindex : (index : Int) = invalidIface := hunset
      unfold invalidIface at hindex
      omega

theorem RouteInv.postDownstream (h : m.RouteInv) (halloc : ∀ k, env.mallocOk k = true)
    {evt : OffloadEvt} (index : Nat) (subnet : Prefix)
    (hevt : evt = .downstreamAdd index subnet ∨ evt = .downstreamDel index subnet) :
    (m.post env evt).RouteInv := by
  refine ⟨fun iptype => ?_, fun hunset iptype => ?_⟩
  · rw [post_posted halloc, routeOf_downstream index subnet hevt, post_up]
    exact h.coherent iptype
  · rw [post_up]
    exact h.down hunset iptype

theorem RouteInv.addDownstream (h : m.RouteInv) (halloc : ∀ k, env.mallocOk k = true)
    (downstreamName : String) (subnet : Prefix) :
    (m.addDownstream env downstreamName subnet).2.RouteInv := by
  unfold OffloadManager.addDownstream
  split
  next => exact h
  next index _ =>
    have hadd : RouteInv (if downstreamName ∈ m.validIfaces then m
        else { m with validIfaces := m.validIfaces ++ [downstreamName] }) := by
      split
      next => exact h
      next => exact h.frame rfl rfl fun iptype => by cases iptype <;> rfl
    dsimp only
    split
    next => exact hadd.cacheEvent _ _
    next => exact hadd.postDownstream halloc index subnet (Or.inl rfl)

theorem RouteInv.removeDownstream (h : m.RouteInv) (halloc : ∀ k, env.mallocOk k = true)
    (downstreamName : String) (subnet : Prefix) :
    (m.removeDownstream env downstreamName subnet).2.RouteInv := by
  unfold OffloadManager.removeDownstream
  split
  next => exact h
  next =>
    split
    next => exact h
    next =>
      split
      next => exact h
      next index _ => exact h.postDownstream halloc index subnet (Or.inr rfl)

theorem RouteInv.stopAllOffload (h : m.RouteInv) (halloc : ∀ k, env.mallocOk k = true) :
    (m.stopAllOffload env).2.RouteInv := by
  have hclear : (m.clearUpstream env ⟨.v4, 0, 0, {}, {}⟩ ⟨.v6, 0, 0, {}, {}⟩).2.Coherent ∧
      ∀ iptype, (m.clearUpstream env ⟨.v4, 0, 0, {}, {}⟩ ⟨.v6, 0, 0, {}, {}⟩).2.up iptype = false :=
    h.coherent.clearUpstream halloc h.down fun _ => ⟨fun _ => rfl, fun _ => rfl⟩
  obtain ⟨hcoherent, hdown⟩ := hclear
  refine ⟨(hcoherent.of_down hdown invalidIface).frame rfl fun iptype => ?_, fun _ iptype => ?_⟩
  · rw [hdown iptype]
    cases iptype <;> rfl
  · cases iptype <;> rfl

theorem RouteInv.postAgain (h : m.RouteInv) (halloc : ∀ k, env.mallocOk k = true)
    (interfaceName : String) (evt : FrameworkEvent) :
    (m.postAgain env interfaceName evt).RouteInv := by
  cases evt with
  | downstreamAdd devName prefixCache => exact h.addDownstream halloc _ _
  | routeAdd devName prefixCache prefixCacheV6 => exact h.setUpstream halloc _ _ _

theorem RouteInv.replay (h : m.RouteInv) (halloc : ∀ k, env.mallocOk k = true)
    (interfaceName : String) (i : Fin maxEventCache) : (m.replay env interfaceName i).RouteInv := by
  unfold OffloadManager.replay
  split
  next => exact h
  next evt _ =>
    split
    next =>
      refine (h.postAgain halloc interfaceName evt).frame rfl rfl fun iptype => ?_
      cases iptype <;> rfl
    next => exact h

theorem RouteInv.searchFramworkCache (h : m.RouteInv) (halloc : ∀ k, env.mallocOk k = true)
    (interfaceName : String) : (m.searchFramworkCache env interfaceName).RouteInv := by
  unfold OffloadManager.searchFramworkCache
  generalize List.finRange maxEventCache = slots
  induction slots generalizing m with
  | nil => exact h
  | cons i slots ih => exact ih (h.replay halloc interfaceName i)

theorem RouteInv.step {op : OffloadEnv × OffloadOp} (h : m.RouteInv) (halloc : m.Allocates op)
    (hnames : m.NamesUp op) (ht : m.step op = some t) : t.RouteInv := by
  obtain ⟨env, op⟩ := op
  cases ht
  cases op with
  | addDownstream downstreamName subnet => exact h.addDownstream halloc _ _
  | removeDownstream downstreamName subnet => exact h.removeDownstream halloc _ _
  | setUpstream upstreamName gwAddrV4 gwAddrV6 =>
    cases upstreamName with
    | none => exact h.clearUpstream halloc hnames
    | some upstreamName => exact h.setUpstream halloc _ _ _
  | stopAllOffload => exact h.stopAllOffload halloc
  | searchFramworkCache interfaceName => exact h.searchFramworkCache halloc _

theorem cleanUpstream_route_of_ne (halloc : ∀ k, env.mallocOk k = true) (h : iptype' ≠ iptype) :
    routeOf iptype' (m.cleanUpstream env iptype gwAddr).posted = routeOf iptype' m.posted := by
  unfold OffloadManager.cleanUpstream
  split
  next => rw [setUp_posted, post_posted halloc, routeOf_del_of_ne (Ne.symm h)]
  next => rfl

theorem Coherent.not_forgotten (h : m.Coherent) (iptype : IpaIpType)
    (hset : m.defaultGwIndex ≠ invalidIface) (hup : m.up iptype = true) (hroute : routeOf iptype t.posted = routeOf iptype m.posted)
    (hup' : t.up iptype = true) (hunset : t.defaultGwIndex = invalidIface) : ¬t.Coherent := by
  intro ht
  have hnew := ht iptype
  rw [hroute, h iptype, hup, hup', hunset] at hnew
  exact hset (Option.some.inj (Option.some.inj hnew))

theorem RouteInv.breaks {op : OffloadEnv × OffloadOp} (h : m.RouteInv) (halloc : m.Allocates op)
    (hnames : ¬m.NamesUp op) : ∃ t, m.step op = some t ∧ ¬t.Coherent := by
  obtain ⟨env, op⟩ := op
  refine ⟨_, rfl, ?_⟩
  cases op with
  | setUpstream upstreamName gwAddrV4 gwAddrV6 =>
    cases upstreamName with
    | some upstreamName => exact absurd trivial hnames
    | none =>
      obtain ⟨hset, hnot⟩ := Classical.not_imp.mp hnames
      simp only [call, OffloadManager.setUpstream, OffloadManager.clearUpstream, hset, if_false]
      rcases Classical.not_and_iff_not_or_not.mp hnot with hv4 | hv6
      · obtain ⟨hup, hfam⟩ := Classical.not_imp.mp hv4
        rw [if_neg hfam]
        have hkeep : (m.cleanUpstream env .v6 gwAddrV6).up .v4 = m.up .v4 :=
          cleanUpstream_up_of_ne (by decide)
        refine h.coherent.not_forgotten .v4 hset hup ?_ ?_ rfl
        · split
          · exact cleanUpstream_route_of_ne halloc (by decide)
          · rfl
        · split
          · exact hkeep.trans hup
          · exact hup
      · obtain ⟨hup, hfam⟩ := Classical.not_imp.mp hv6
        rw [if_neg hfam]
        have hkeep : (m.cleanUpstream env .v4 gwAddrV4).up .v6 = m.up .v6 :=
          cleanUpstream_up_of_ne (by decide)
        refine h.coherent.not_forgotten .v6 hset hup ?_ ?_ rfl
        · split
          · exact cleanUpstream_route_of_ne halloc (by decide)
          · rfl
        · split
          · exact hkeep.trans hup
          · exact hup
  | _ => exact absurd trivial hnames

theorem routeInv_start : ({} : OffloadManager).RouteInv :=
  ⟨fun iptype => by cases iptype <;> rfl, fun _ iptype => by cases iptype <;> rfl⟩

/-- The events of each family alternate, and the flags and the default gateway follow them, exactly
as long as no call takes the upstream away without naming each family that is up. -/
theorem coherent_iff_namesUp {ops : List (OffloadEnv × OffloadOp)}
    (allocates : OpsMeet step Allocates {} ops) :
    Always step Coherent {} ops ↔ OpsMeet step NamesUp {} ops :=
  always_iff_of_keeps (fun _ h => h.coherent) (fun _ _ _ h hok hgood ht => h.step hok hgood ht)
    (fun _ _ h hok hbad => h.breaks hok hbad) routeInv_start allocates

/-- The two interfaces of the examples, both ready. -/
def readyEnv : OffloadEnv where
  ifIndex interfaceName := if interfaceName = "rmnet0" then some 3 else
    if interfaceName = "wlan0" then some 7 else none
  natIface _ _ := true
  mallocOk _ := true

/-- The switch from one interface to the other. -/
theorem switch_coherent : Always step Coherent {}
    [(readyEnv, .setUpstream (some "rmnet0") ⟨.v4, 9, 0, {}, {}⟩ ⟨.v6, 0, 0, ⟨9, 0, 0, 0⟩, {}⟩),
      (readyEnv, .setUpstream (some "wlan0") ⟨.v4, 8, 0, {}, {}⟩ ⟨.v6, 0, 0, {}, {}⟩),
      (readyEnv, .setUpstream none ⟨.v4, 0, 0, {}, {}⟩ ⟨.invalid, 0, 0, {}, {}⟩)] := by
  refine (coherent_iff_namesUp (opsMeet_of_forall fun op hop s k => ?_)).mpr (by decide)
  simp only [List.mem_cons, List.not_mem_nil, or_false] at hop
  rcases hop with rfl | rfl | rfl <;> rfl

/-- Only the IPv4 upstream is taken away, and the next interface deletes the IPv6 route of no
interface. -/
theorem half_cleared_deletes : ∃ t, runOps step {}
      [(readyEnv, .setUpstream (some "rmnet0") ⟨.v4, 9, 0, {}, {}⟩ ⟨.v6, 0, 0, ⟨9, 0, 0, 0⟩, {}⟩),
        (readyEnv, .setUpstream none ⟨.v4, 0, 0, {}, {}⟩ ⟨.invalid, 0, 0, {}, {}⟩),
        (readyEnv, .setUpstream (some "wlan0") ⟨.v4, 8, 0, {}, {}⟩ ⟨.invalid, 0, 0, {}, {}⟩)] =
      some t ∧
    t.posted = [.routeAdd .v4 3 ⟨.v4, 9, 0, {}, {}⟩, .routeAdd .v6 3 ⟨.v6, 0, 0, ⟨9, 0, 0, 0⟩, {}⟩,
      .routeDel .v4 3 ⟨.v4, 0, 0, {}, {}⟩, .routeDel .v6 (-1) ⟨.invalid, 0, 0, {}, {}⟩,
      .routeAdd .v4 7 ⟨.v4, 8, 0, {}, {}⟩] ∧
    ¬t.Coherent := by
  refine ⟨_, rfl, by decide, fun h => ?_⟩
  have hroute := h .v6
  exact absurd hroute (by decide)

end OffloadManager

end DeviceHal.Ipacm
