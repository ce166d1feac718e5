import DeviceHal.Ipacm.RouteEvents

namespace DeviceHal.Ipacm

open Lib

def upstreamStep (iptype : IpaIpType) (r : Option (Int × Prefix)) : OffloadEvt → Option (Int × Prefix)
  | .routeAdd iptype' ifIndex gwAddr => if iptype' = iptype then some (ifIndex, gwAddr) else r
  | .routeDel iptype' _ _ => if iptype' = iptype then none else r
  | _ => r

/-- The upstream route of a family, with its gateway. -/
def upstreamOf (iptype : IpaIpType) (posted : List OffloadEvt) : Option (Int × Prefix) :=
  posted.foldl (upstreamStep iptype) none

def downstreamStep (index : Nat) (subnet : Prefix) (b : Bool) : OffloadEvt → Bool
  | .downstreamAdd index' subnet' => if index' = index ∧ subnet' = subnet then true else b
  | .downstreamDel index' subnet' => if index' = index ∧ subnet' = subnet then false else b
  | _ => b

/-- Whether a subnet of an interface is a downstream. -/
def downstreamOf (index : Nat) (subnet : Prefix) (posted : List OffloadEvt) : Bool :=
  posted.foldl (downstreamStep index subnet) false

structure Configuration where
  upstream : IpaIpType → Option (Int × Prefix)
  downstream : Nat → Prefix → Bool

def configuration (posted : List OffloadEvt) : Configuration where
  upstream iptype := upstreamOf iptype posted
  downstream index subnet := downstreamOf index subnet posted

section Events

variable {posted : List OffloadEvt}

theorem upstreamOf_append (iptype : IpaIpType) (evt : OffloadEvt) :
    upstreamOf iptype (posted ++ [evt]) = upstreamStep iptype (upstreamOf iptype posted) evt := by
  simp only [upstreamOf, List.foldl_append, List.foldl_cons, List.foldl_nil]

theorem downstreamOf_append (index : Nat) (subnet : Prefix) (evt : OffloadEvt) :
    downstreamOf index subnet (posted ++ [evt]) =
      downstreamStep index subnet (downstreamOf index subnet posted) evt := by
  simp only [downstreamOf, List.foldl_append, List.foldl_cons, List.foldl_nil]

end Events

/-- The manager, and the families for which interfaces are ready. -/
structure DeferSystem where
  mgr : OffloadManager := {}
  natIface : String → IpaIpType → Bool

inductive DeferOp where
  | call (op : OffloadOp)
  | ready (interfaceName : String) (iptype : IpaIpType)

/-- The interfaces as they are, with memory for each event. -/
def deferEnv (ifIndex : String → Option Nat) (natIface : String → IpaIpType → Bool) : OffloadEnv where
  ifIndex
  natIface
  mallocOk _ := true

def markReady (interfaceName : String) (iptype : IpaIpType) (natIface : String → IpaIpType → Bool) :
    String → IpaIpType → Bool :=
  fun interfaceName' iptype' =>
    if interfaceName' = interfaceName ∧ iptype' = iptype then true
    else natIface interfaceName' iptype'

namespace DeferSystem

/-- An address makes its interface ready for the family, and the cache is searched. -/
def step (ifIndex : String → Option Nat) (s : DeferSystem) : DeferOp → Option DeferSystem
  | .call op => some { s with mgr := s.mgr.call (deferEnv ifIndex s.natIface) op }
  | .ready interfaceName iptype =>
    let natIface := markReady interfaceName iptype s.natIface
    some ⟨s.mgr.searchFramworkCache (deferEnv ifIndex natIface) interfaceName, natIface⟩

end DeferSystem

/-- The interface of a request is not ready for one of its families. -/
def FrameworkEvent.Needs (natIface : String → IpaIpType → Bool) : FrameworkEvent → Prop
  | .downstreamAdd devName prefixCache =>
    prefixCache.fam = .v4 ∧ natIface devName .v4 = false ∨
      prefixCache.fam = .v6 ∧ natIface devName .v6 = false
  | .routeAdd devName prefixCache prefixCacheV6 =>
    prefixCache.fam = .v4 ∧ natIface devName .v4 = false ∨
      prefixCacheV6.fam = .v6 ∧ natIface devName .v6 = false

instance (natIface : String → IpaIpType → Bool) (evt : FrameworkEvent) :
    Decidable (evt.Needs natIface) :=
  match evt with
  | .downstreamAdd .. => inferInstanceAs (Decidable (_ ∨ _))
  | .routeAdd .. => inferInstanceAs (Decidable (_ ∨ _))

/-- The request that a call may leave in the cache. -/
def OffloadOp.request : OffloadOp → Option FrameworkEvent
  | .addDownstream downstreamName subnet => some (.downstreamAdd downstreamName subnet)
  | .setUpstream (some upstreamName) gwAddrV4 gwAddrV6 =>
    some (.routeAdd upstreamName gwAddrV4 gwAddrV6)
  | _ => none

namespace OffloadManager

variable {m t a b : OffloadManager} {ifIndex : String → Option Nat}
  {nat nat' : String → IpaIpType → Bool}

/-- The two managers have the same upstream, in their state and in what they posted. -/
structure SameUpstream (a b : OffloadManager) : Prop where
  up : ∀ iptype, a.up iptype = b.up iptype
  index : a.defaultGwIndex = b.defaultGwIndex
  route : ∀ iptype, upstreamOf iptype a.posted = upstreamOf iptype b.posted

theorem SameUpstream.refl (a : OffloadManager) : SameUpstream a a :=
  ⟨fun _ => rfl, rfl, fun _ => rfl⟩

theorem SameUpstream.symm (h : SameUpstream a b) : SameUpstream b a :=
  ⟨fun iptype => (h.up iptype).symm, h.index.symm, fun iptype => (h.route iptype).symm⟩

theorem SameUpstream.trans {c : OffloadManager} (h : SameUpstream a b) (h' : SameUpstream b c) :
    SameUpstream a c :=
  ⟨fun iptype => (h.up iptype).trans (h'.up iptype), h.index.trans h'.index,
    fun iptype => (h.route iptype).trans (h'.route iptype)⟩

theorem SameUpstream.post (h : SameUpstream a b) (evt : OffloadEvt) :
    SameUpstream (a.post (deferEnv ifIndex nat) evt) (b.post (deferEnv ifIndex nat') evt) := by
  refine ⟨fun iptype => ?_, h.index, fun iptype => ?_⟩
  · rw [post_up, post_up]
    exact h.up iptype
  · rw [post_posted (fun _ => rfl), post_posted (fun _ => rfl), upstreamOf_append,
      upstreamOf_append, h.route]

theorem SameUpstream.setUp (h : SameUpstream a b) (iptype : IpaIpType) (v : Bool) :
    SameUpstream (a.setUp iptype v) (b.setUp iptype v) := by
  refine ⟨fun iptype' => ?_, ?_, fun iptype' => ?_⟩
  · by_cases he : iptype' = iptype
    · subst he
      rw [up_setUp_self, up_setUp_self]
    · rw [up_setUp_of_ne he, up_setUp_of_ne he]
      exact h.up iptype'
  · rw [setUp_defaultGwIndex, setUp_defaultGwIndex]
    exact h.index
  · rw [setUp_posted, setUp_posted]
    exact h.route iptype'

theorem SameUpstream.setIndex (h : SameUpstream a b) (i : Int) :
    SameUpstream { a with defaultGwIndex := i } { b with defaultGwIndex := i } := by
  refine ⟨fun iptype => ?_, rfl, h.route⟩
  cases iptype
  · exact h.up .v4
  · exact h.up .v6

theorem SameUpstream.cleanUpstream (h : SameUpstream a b) (iptype : IpaIpType) (gwAddr : Prefix) :
    SameUpstream (a.cleanUpstream (deferEnv ifIndex nat) iptype gwAddr)
      (b.cleanUpstream (deferEnv ifIndex nat') iptype gwAddr) := by
  unfold OffloadManager.cleanUpstream
  rw [h.up iptype, h.index]
  split
  · exact (h.post _).setUp iptype false
  · exact h

theorem SameUpstream.addUpstream (h : SameUpstream a b) (iptype : IpaIpType) (index : Nat)
    (gwAddr : Prefix) :
    SameUpstream (a.addUpstream (deferEnv ifIndex nat) iptype index gwAddr)
      (b.addUpstream (deferEnv ifIndex nat') iptype index gwAddr) := by
  unfold OffloadManager.addUpstream
  rw [h.up iptype]
  split
  · exact h
  · split
    · exact h
    · exact (h.post _).setUp iptype true

theorem SameUpstream.switchUpstream (h : SameUpstream a b) (index : Nat) (gwAddrV4 gwAddrV6 : Prefix) :
    SameUpstream (a.switchUpstream (deferEnv ifIndex nat) index gwAddrV4 gwAddrV6)
      (b.switchUpstream (deferEnv ifIndex nat') index gwAddrV4 gwAddrV6) := by
  unfold OffloadManager.switchUpstream
  rw [h.index]
  split
  · exact ((h.cleanUpstream .v4 gwAddrV4).cleanUpstream .v6 gwAddrV6).setIndex invalidIface
  · exact h

theorem SameUpstream.cleanOther (h : SameUpstream a b) (iptype : IpaIpType) (gwAddr : Prefix) :
    SameUpstream (a.cleanOther (deferEnv ifIndex nat) iptype gwAddr)
      (b.cleanOther (deferEnv ifIndex nat') iptype gwAddr) := by
  unfold OffloadManager.cleanOther
  rw [h.index]
  split
  · exact h.cleanUpstream iptype gwAddr
  · exact h

theorem SameUpstream.applyUpstream (h : SameUpstream a b) (index : Nat) (gwAddrV4 gwAddrV6 : Prefix) :
    SameUpstream (a.applyUpstream (deferEnv ifIndex nat) index gwAddrV4 gwAddrV6).2
      (b.applyUpstream (deferEnv ifIndex nat') index gwAddrV4 gwAddrV6).2 := by
  have hswitch : SameUpstream (a.switchUpstream (deferEnv ifIndex nat) index gwAddrV4 gwAddrV6)
      (b.switchUpstream (deferEnv ifIndex nat') index gwAddrV4 gwAddrV6) :=
    h.switchUpstream index gwAddrV4 gwAddrV6
  unfold OffloadManager.applyUpstream
  refine SameUpstream.setIndex ?_ index
  split
  · exact (hswitch.addUpstream .v4 index gwAddrV4).addUpstream .v6 index gwAddrV6
  · split
    · exact (hswitch.cleanOther .v6 gwAddrV6).addUpstream .v4 index gwAddrV4
    · split
      · exact (hswitch.cleanOther .v4 gwAddrV4).addUpstream .v6 index gwAddrV6
      · exact hswitch

theorem SameUpstream.clearUpstream (h : SameUpstream a b) (gwAddrV4 gwAddrV6 : Prefix) :
    SameUpstream (a.clearUpstream (deferEnv ifIndex nat) gwAddrV4 gwAddrV6).2
      (b.clearUpstream (deferEnv ifIndex nat') gwAddrV4 gwAddrV6).2 := by
  unfold OffloadManager.clearUpstream
  rw [h.index]
  split
  · exact h
  · refine SameUpstream.setIndex ?_ invalidIface
    have hfirst : SameUpstream
        (if gwAddrV4.fam = .v4 then a.cleanUpstream (deferEnv ifIndex nat) .v4 gwAddrV4 else a)
        (if gwAddrV4.fam = .v4 then b.cleanUpstream (deferEnv ifIndex nat') .v4 gwAddrV4 else b) := by
      split
      · exact h.cleanUpstream .v4 gwAddrV4
      · exact h
    split
    · exact hfirst.cleanUpstream .v6 gwAddrV6
    · exact hfirst

variable {env : OffloadEnv} {index : Nat} {gwAddrV4 gwAddrV6 : Prefix}

/-- Nothing is left to do for the gateways of an interface. -/
structure HasUpstream (index : Nat) (gwAddrV4 gwAddrV6 : Prefix) (m : OffloadManager) : Prop where
  index : m.defaultGwIndex = index
  v4 : gwAddrV4.fam = .v4 → m.up .v4 = true
  v6 : gwAddrV6.fam = .v6 → m.up .v6 = true ∨ gwAddrV6.v6Addr = {}
  onlyV4 : gwAddrV4.fam = .v4 → gwAddrV6.fam ≠ .v6 → m.up .v6 = false
  onlyV6 : gwAddrV6.fam = .v6 → gwAddrV4.fam ≠ .v4 → m.up .v4 = false

variable {gwAddr : Prefix}

variable {iptype : IpaIpType}

theorem addUpstream_of_up (h : m.up iptype = true ∨ iptype = .v6 ∧ gwAddr.v6Addr = {}) :
    m.addUpstream env iptype index gwAddr = m := by
  grind [addUpstream]

theorem cleanOther_of_down (h : m.up iptype = false) : m.cleanOther env iptype gwAddr = m := by
  unfold cleanOther cleanUpstream
  rw [h]
  split <;> rfl

theorem HasUpstream.applyUpstream (h : m.HasUpstream index gwAddrV4 gwAddrV6) :
    (m.applyUpstream env index gwAddrV4 gwAddrV6).2 = m := by
  have hswitch : m.switchUpstream env index gwAddrV4 gwAddrV6 = m := by
    unfold switchUpstream
    rw [h.index]
    exact if_neg fun hne => hne rfl
  have hindex : ∀ r : Ret × OffloadManager, r.2 = m → { r.2 with defaultGwIndex := (index : Int) } = m := by
    rintro r hr
    rw [hr, ← h.index]
  unfold OffloadManager.applyUpstream
  rw [hswitch]
  refine hindex _ ?_
  dsimp only
  split
  next hboth =>
    rw [addUpstream_of_up (Or.inl (h.v4 hboth.1))]
    exact addUpstream_of_up ((h.v6 hboth.2).imp id fun hzero => ⟨rfl, hzero⟩)
  next hboth =>
    split
    next hv4 =>
      have hv6 : m.up .v6 = false := h.onlyV4 hv4 fun hv6 => hboth ⟨hv4, hv6⟩
      rw [cleanOther_of_down hv6]
      exact addUpstream_of_up (Or.inl (h.v4 hv4))
    next hv4 =>
      split
      next hv6 =>
        rw [cleanOther_of_down (h.onlyV6 hv6 hv4)]
        exact addUpstream_of_up ((h.v6 hv6).imp id fun hzero => ⟨rfl, hzero⟩)
      next => rfl

theorem addUpstream_up_self :
    (m.addUpstream env iptype index gwAddr).up iptype = true ∨ iptype = .v6 ∧ gwAddr.v6Addr = {} := by
  unfold addUpstream
  split
  next hup => exact Or.inl hup
  next =>
    split
    next hzero => exact Or.inr hzero
    next => exact Or.inl (up_setUp_self true)

theorem addUpstream_up_of_ne {iptype iptype' : IpaIpType} (h : iptype' ≠ iptype) :
    (m.addUpstream env iptype index gwAddr).up iptype' = m.up iptype' := by
  unfold addUpstream
  split
  next => rfl
  next =>
    split
    next => rfl
    next => rw [up_setUp_of_ne h, post_up]

theorem cleanOther_down (iptype : IpaIpType) (gwAddr : Prefix) :
    ((m.switchUpstream env index gwAddrV4 gwAddrV6).cleanOther env iptype gwAddr).up iptype =
      false := by
  unfold cleanOther
  split
  next => exact cleanUpstream_up_self
  next hunset =>
    have hswitched : (index : Int) ≠ m.defaultGwIndex := by
      intro heq
      refine hunset fun hinv => ?_
      unfold switchUpstream at hinv
      rw [if_neg (not_not.mpr heq), ← heq] at hinv
      unfold invalidIface at hinv
      omega
    unfold switchUpstream
    rw [if_pos hswitched]
    cases iptype with
    | v4 =>
      have hv4 : ((m.cleanUpstream env .v4 gwAddrV4).cleanUpstream env .v6 gwAddrV6).up .v4 =
          (m.cleanUpstream env .v4 gwAddrV4).up .v4 := cleanUpstream_up_of_ne (by decide)
      exact hv4.trans cleanUpstream_up_self
    | v6 =>
      have hv6 : ((m.cleanUpstream env .v4 gwAddrV4).cleanUpstream env .v6 gwAddrV6).up .v6 =
          false := cleanUpstream_up_self
      exact hv6

theorem applyUpstream_hasUpstream (m : OffloadManager) :
    (m.applyUpstream env index gwAddrV4 gwAddrV6).2.HasUpstream index gwAddrV4 gwAddrV6 := by
  have isV4 : ∀ {t : OffloadManager} {gwAddr : Prefix},
      (t.addUpstream env .v4 index gwAddr).up .v4 = true := by
    intro t gwAddr
    exact addUpstream_up_self.resolve_right fun h => absurd h.1 (by decide)
  have isV6 : ∀ {t : OffloadManager} {gwAddr : Prefix},
      (t.addUpstream env .v6 index gwAddr).up .v6 = true ∨ gwAddr.v6Addr = {} := by
    intro t gwAddr
    exact addUpstream_up_self.imp id And.right
  unfold OffloadManager.applyUpstream
  dsimp only
  split
  next hboth =>
    refine ⟨rfl, fun _ => ?_, fun _ => isV6, fun _ hv6 => absurd hboth.2 hv6,
      fun _ hv4 => absurd hboth.1 hv4⟩
    exact (addUpstream_up_of_ne (by decide)).trans isV4
  next hboth =>
    split
    next hv4 =>
      have hv6 : gwAddrV6.fam ≠ .v6 := fun hv6 => hboth ⟨hv4, hv6⟩
      refine ⟨rfl, fun _ => isV4, fun h => absurd h hv6, fun _ _ => ?_, fun h => absurd h hv6⟩
      exact (addUpstream_up_of_ne (by decide)).trans (cleanOther_down .v6 gwAddrV6)
    next hv4 =>
      split
      next hv6 =>
        refine ⟨rfl, fun h => absurd h hv4, fun _ => isV6, fun h => absurd h hv4, fun _ _ => ?_⟩
        exact (addUpstream_up_of_ne (by decide)).trans (cleanOther_down .v4 gwAddrV4)
      next hv6 =>
        exact ⟨rfl, fun h => absurd h hv4, fun h => absurd h hv6, fun h => absurd h hv4,
          fun h => absurd h hv6⟩

theorem exists_iterate (i j : Fin maxEventCache) :
    ∃ d, d < maxEventCache ∧ (fun k : Fin maxEventCache => k + 1)^[d] i = j := by
  decide +revert

theorem cacheEvent_loop (evt : FrameworkEvent) {tries d : Nat} (hd : d < tries)
    (hfree : m.eventCache ((fun k : Fin maxEventCache => k + 1)^[d] m.latestCacheIndex) = none) :
    ∃ j i, m.eventCache j = none ∧ m.cacheEvent evt tries = (.success, { m with
      eventCache := Function.update m.eventCache j (some evt), latestCacheIndex := i }) := by
  induction tries generalizing m d with
  | zero => omega
  | succ tries ih =>
    unfold cacheEvent
    split
    next hnone => exact ⟨_, _, hnone, rfl⟩
    next _ hsome =>
      cases d with
      | zero => exact absurd (hsome.symm.trans hfree) (by simp)
      | succ d =>
        obtain ⟨j, i, hj, heq⟩ := @ih { m with latestCacheIndex := m.latestCacheIndex + 1 } d
          (by omega) hfree
        exact ⟨j, i, hj, heq⟩

theorem cacheEvent_free (evt : FrameworkEvent) (h : ∃ j, m.eventCache j = none) :
    ∃ j i, m.eventCache j = none ∧ m.cacheEvent evt maxEventCache = (.success, { m with
      eventCache := Function.update m.eventCache j (some evt), latestCacheIndex := i }) := by
  obtain ⟨j, hj⟩ := h
  obtain ⟨d, hd, hiter⟩ := exists_iterate m.latestCacheIndex j
  exact cacheEvent_loop evt hd (hiter ▸ hj)

end OffloadManager

end DeviceHal.Ipacm
