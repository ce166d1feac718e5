import DeviceHal.Ipacm.Deferred

namespace DeviceHal.Ipacm

open Lib

namespace OffloadManager

variable {m t a a' b b' : OffloadManager} {ifIndex : String → Option Nat}
  {nat : String → IpaIpType → Bool} {named : FrameworkEvent → Prop} {evt : FrameworkEvent}

def Cached (evt : FrameworkEvent) (m : OffloadManager) : Prop := ∃ i, m.eventCache i = some evt

def allReady : String → IpaIpType → Bool := fun _ _ => true

/-- The other manager has the upstream that this one has once its cached request is made. -/
inductive UpstreamFollows (ifIndex : String → Option Nat) (a b : OffloadManager) : Prop
  | settled (hnone : ∀ devName gwV4 gwV6, ¬a.Cached (.routeAdd devName gwV4 gwV6))
      (hsame : SameUpstream a b)
  | waits (devName : String) (index : Nat) (gwV4 gwV6 : Prefix) (hindex : ifIndex devName = some index)
      (hsome : a.Cached (.routeAdd devName gwV4 gwV6))
      (hall : ∀ devName' gwV4' gwV6', a.Cached (.routeAdd devName' gwV4' gwV6') →
        FrameworkEvent.routeAdd devName' gwV4' gwV6' = .routeAdd devName gwV4 gwV6)
      (hsame : SameUpstream (a.applyUpstream (deferEnv ifIndex allReady) index gwV4 gwV6).2 b)

/-- The other manager has made the requests that are still cached here. -/
structure Follows (ifIndex : String → Option Nat) (named : FrameworkEvent → Prop)
    (a b : OffloadManager) : Prop where
  ifaces : b.validIfaces = a.validIfaces
  empty : ∀ i, b.eventCache i = none
  named : ∀ evt, a.Cached evt → named evt ∧ ∃ index, ifIndex evt.devName = some index
  listed : ∀ devName subnet, a.Cached (.downstreamAdd devName subnet) → devName ∈ a.validIfaces
  upstream : UpstreamFollows ifIndex a b
  downstream : ∀ index subnet, downstreamOf index subnet b.posted = true ↔
    downstreamOf index subnet a.posted = true ∨
      ∃ devName, ifIndex devName = some index ∧ a.Cached (.downstreamAdd devName subnet)

theorem UpstreamFollows.frame (h : UpstreamFollows ifIndex a b)
    (hcached : ∀ devName gwV4 gwV6, a'.Cached (.routeAdd devName gwV4 gwV6) ↔
      a.Cached (.routeAdd devName gwV4 gwV6))
    (hsame : SameUpstream a' a) (hsame' : SameUpstream b b') : UpstreamFollows ifIndex a' b' := by
  cases h with
  | settled hnone hab =>
    refine .settled (fun devName gwV4 gwV6 hc => ?_) ((hsame.trans hab).trans hsame')
    exact hnone _ _ _ ((hcached ..).mp hc)
  | waits devName index gwV4 gwV6 hindex hsome hall hab =>
    refine .waits devName index gwV4 gwV6 hindex ((hcached ..).mpr hsome) ?_ ?_
    · grind
    · exact ((hsame.applyUpstream index gwV4 gwV6).trans hab).trans hsame'

theorem Follows.moved (h : Follows ifIndex named a b)
    (hcached : ∀ evt, a'.Cached evt ↔ a.Cached evt) (hifaces : a'.validIfaces = a.validIfaces)
    (hposted : a'.posted = a.posted) (hindex : a'.defaultGwIndex = a.defaultGwIndex)
    (hup : ∀ iptype, a'.up iptype = a.up iptype) : Follows ifIndex named a' b := by
  refine ⟨h.ifaces.trans hifaces.symm, h.empty, fun evt hc => h.named evt ((hcached evt).mp hc),
    fun devName subnet hc => ?_, ?_, fun index subnet => ?_⟩
  · rw [hifaces]
    exact h.listed devName subnet ((hcached _).mp hc)
  · exact h.upstream.frame (fun _ _ _ => hcached _) ⟨hup, hindex, fun _ => by rw [hposted]⟩ (.refl b)
  · simp only [hposted, hcached]
    exact h.downstream index subnet

variable {evt : OffloadEvt}

theorem sameUpstream_downstream (index : Nat) (subnet : Prefix)
    (hevt : evt = .downstreamAdd index subnet ∨ evt = .downstreamDel index subnet) :
    SameUpstream (a.post (deferEnv ifIndex nat) evt) a := by
  refine ⟨fun iptype => post_up evt, rfl, fun iptype => ?_⟩
  rw [post_posted (fun _ => rfl), upstreamOf_append]
  rcases hevt with rfl | rfl <;> rfl

theorem not_needs_allReady (evt : FrameworkEvent) : ¬evt.Needs allReady := by
  cases evt <;> simp [FrameworkEvent.Needs, allReady]

variable {i : Fin maxEventCache}

theorem cached_update (hfree : m.eventCache i = none) (latest : Fin maxEventCache)
    (evt evt' : FrameworkEvent) :
    Cached evt' { m with
      eventCache := Function.update m.eventCache i (some evt), latestCacheIndex := latest } ↔
      m.Cached evt' ∨ evt' = evt := by
  constructor
  · rintro ⟨k, hk⟩
    have hk : Function.update m.eventCache i (some evt) k = some evt' := hk
    by_cases he : k = i
    · grind
    · rw [Function.update_of_ne he] at hk
      exact Or.inl ⟨k, hk⟩
  · rintro (⟨k, hk⟩ | rfl)
    · have hne : k ≠ i := by
        rintro rfl
        rw [hfree] at hk
        cases hk
      exact ⟨k, (Function.update_of_ne hne ..).trans hk⟩
    · exact ⟨i, Function.update_self ..⟩

variable {index : Nat}

theorem setUpstream_some {upstreamName : String} {gwV4 gwV6 : Prefix}
    (hindex : ifIndex upstreamName = some index) :
    (m.setUpstream (deferEnv ifIndex nat) (some upstreamName) gwV4 gwV6) =
      if (FrameworkEvent.routeAdd upstreamName gwV4 gwV6).Needs nat then
        m.cacheEvent (.routeAdd upstreamName gwV4 gwV6) maxEventCache
      else m.applyUpstream (deferEnv ifIndex nat) index gwV4 gwV6 := by
  simp only [setUpstream, deferEnv, hindex]
  rfl

def addIface (downstreamName : String) (m : OffloadManager) : OffloadManager :=
  if downstreamName ∈ m.validIfaces then m
  else { m with validIfaces := m.validIfaces ++ [downstreamName] }

theorem addDownstream_some {downstreamName : String} {subnet : Prefix}
    (hindex : ifIndex downstreamName = some index) :
    (m.addDownstream (deferEnv ifIndex nat) downstreamName subnet).2 =
      if (FrameworkEvent.downstreamAdd downstreamName subnet).Needs nat then
        ((m.addIface downstreamName).cacheEvent (.downstreamAdd downstreamName subnet)
          maxEventCache).2
      else (m.addIface downstreamName).post (deferEnv ifIndex nat) (.downstreamAdd index subnet) := by
  by_cases hneed : (FrameworkEvent.downstreamAdd downstreamName subnet).Needs nat
  · rw [if_pos hneed]
    simp only [FrameworkEvent.Needs] at hneed
    simp only [addDownstream, deferEnv, hindex, hneed, if_true]
    rfl
  · rw [if_neg hneed]
    simp only [FrameworkEvent.Needs] at hneed
    simp only [addDownstream, deferEnv, hindex, hneed, if_false]
    rfl

/-- Only the upstream differs. -/
structure OnlyUpstream (m t : OffloadManager) : Prop where
  cache : t.eventCache = m.eventCache
  ifaces : t.validIfaces = m.validIfaces
  downstream : ∀ index subnet, downstreamOf index subnet t.posted = downstreamOf index subnet m.posted

theorem OnlyUpstream.refl (m : OffloadManager) : OnlyUpstream m m := ⟨rfl, rfl, fun _ _ => rfl⟩

theorem OnlyUpstream.trans {u : OffloadManager} (h : OnlyUpstream m t) (h' : OnlyUpstream t u) :
    OnlyUpstream m u :=
  ⟨h'.cache.trans h.cache, h'.ifaces.trans h.ifaces,
    fun index subnet => (h'.downstream index subnet).trans (h.downstream index subnet)⟩

theorem OnlyUpstream.setIndex (h : OnlyUpstream m t) (i : Int) :
    OnlyUpstream m { t with defaultGwIndex := i } := ⟨h.cache, h.ifaces, h.downstream⟩

theorem onlyUpstream_setUp (iptype : IpaIpType) (v : Bool) : OnlyUpstream m (m.setUp iptype v) := by
  cases iptype <;> exact ⟨rfl, rfl, fun _ _ => rfl⟩

theorem onlyUpstream_post {iptype : IpaIpType} {i : Int} {gwAddr : Prefix}
    (hevt : evt = .routeAdd iptype i gwAddr ∨ evt = .routeDel iptype i gwAddr) :
    OnlyUpstream m (m.post (deferEnv ifIndex nat) evt) := by
  refine ⟨rfl, rfl, fun index subnet => ?_⟩
  rw [post_posted (fun _ => rfl), downstreamOf_append]
  rcases hevt with rfl | rfl <;> rfl

theorem onlyUpstream_cleanUpstream (iptype : IpaIpType) (gwAddr : Prefix) :
    OnlyUpstream m (m.cleanUpstream (deferEnv ifIndex nat) iptype gwAddr) := by
  unfold cleanUpstream
  split
  · exact (onlyUpstream_post (Or.inr rfl)).trans (onlyUpstream_setUp iptype false)
  · exact .refl m

theorem onlyUpstream_addUpstream (iptype : IpaIpType) (index : Nat) (gwAddr : Prefix) :
    OnlyUpstream m (m.addUpstream (deferEnv ifIndex nat) iptype index gwAddr) := by
  unfold addUpstream
  split
  · exact .refl m
  · split
    · exact .refl m
    · exact (onlyUpstream_post (Or.inl rfl)).trans (onlyUpstream_setUp iptype true)

theorem onlyUpstream_switchUpstream (index : Nat) (gwV4 gwV6 : Prefix) :
    OnlyUpstream m (m.switchUpstream (deferEnv ifIndex nat) index gwV4 gwV6) := by
  unfold switchUpstream
  split
  · exact ((onlyUpstream_cleanUpstream .v4 gwV4).trans
      (onlyUpstream_cleanUpstream .v6 gwV6)).setIndex invalidIface
  · exact .refl m

theorem onlyUpstream_cleanOther (iptype : IpaIpType) (gwAddr : Prefix) :
    OnlyUpstream m (m.cleanOther (deferEnv ifIndex nat) iptype gwAddr) := by
  unfold cleanOther
  split
  · exact onlyUpstream_cleanUpstream iptype gwAddr
  · exact .refl m

theorem onlyUpstream_applyUpstream (index : Nat) (gwV4 gwV6 : Prefix) :
    OnlyUpstream m (m.applyUpstream (deferEnv ifIndex nat) index gwV4 gwV6).2 := by
  have hswitch : OnlyUpstream m (m.switchUpstream (deferEnv ifIndex nat) index gwV4 gwV6) :=
    onlyUpstream_switchUpstream index gwV4 gwV6
  unfold applyUpstream
  refine OnlyUpstream.setIndex ?_ index
  split
  · exact (hswitch.trans (onlyUpstream_addUpstream .v4 index gwV4)).trans
      (onlyUpstream_addUpstream .v6 index gwV6)
  · split
    · exact (hswitch.trans (onlyUpstream_cleanOther .v6 gwV6)).trans
        (onlyUpstream_addUpstream .v4 index gwV4)
    · split
      · exact (hswitch.trans (onlyUpstream_cleanOther .v4 gwV4)).trans
          (onlyUpstream_addUpstream .v6 index gwV6)
      · exact hswitch

theorem onlyUpstream_clearUpstream (gwV4 gwV6 : Prefix) :
    OnlyUpstream m (m.clearUpstream (deferEnv ifIndex nat) gwV4 gwV6).2 := by
  unfold clearUpstream
  split
  · exact .refl m
  · refine OnlyUpstream.setIndex ?_ invalidIface
    have hfirst : OnlyUpstream m
        (if gwV4.fam = .v4 then m.cleanUpstream (deferEnv ifIndex nat) .v4 gwV4 else m) := by
      split
      · exact onlyUpstream_cleanUpstream .v4 gwV4
      · exact .refl m
    split
    · exact hfirst.trans (onlyUpstream_cleanUpstream .v6 gwV6)
    · exact hfirst

theorem Follows.cacheRoute (h : Follows ifIndex named a b) {upstreamName : String}
    {gwV4 gwV6 : Prefix} (hindex : ifIndex upstreamName = some index)
    (hnamed : named (.routeAdd upstreamName gwV4 gwV6))
    (hall : ∀ devName gwV4' gwV6', a.Cached (.routeAdd devName gwV4' gwV6') →
      FrameworkEvent.routeAdd devName gwV4' gwV6' = .routeAdd upstreamName gwV4 gwV6)
    (hfree : a.eventCache i = none) (latest : Fin maxEventCache) :
    Follows ifIndex named
      { a with
        eventCache := Function.update a.eventCache i (some (.routeAdd upstreamName gwV4 gwV6))
        latestCacheIndex := latest }
      (b.applyUpstream (deferEnv ifIndex allReady) index gwV4 gwV6).2 := by
  have hcached := cached_update hfree latest (.routeAdd upstreamName gwV4 gwV6)
  have honly : OnlyUpstream b (b.applyUpstream (deferEnv ifIndex allReady) index gwV4 gwV6).2 :=
    onlyUpstream_applyUpstream index gwV4 gwV6
  have hview : SameUpstream { a with
      eventCache := Function.update a.eventCache i (some (.routeAdd upstreamName gwV4 gwV6))
      latestCacheIndex := latest } a :=
    ⟨fun iptype => by cases iptype <;> rfl, rfl, fun _ => rfl⟩
  refine ⟨honly.ifaces.trans h.ifaces, ?_, fun evt hc => ?_, fun devName subnet hc => ?_, ?_, ?_⟩
  · rw [honly.cache]
    exact h.empty
  · rcases (hcached evt).mp hc with hold | rfl
    · exact h.named evt hold
    · exact ⟨hnamed, index, hindex⟩
  · exact h.listed devName subnet (((hcached _).mp hc).resolve_right (by simp))
  · refine .waits upstreamName index gwV4 gwV6 hindex ((hcached _).mpr (Or.inr rfl)) ?_ ?_
    · grind
    · have hview' : ∀ c, SameUpstream c a →
          SameUpstream (c.applyUpstream (deferEnv ifIndex allReady) index gwV4 gwV6).2
            (a.applyUpstream (deferEnv ifIndex allReady) index gwV4 gwV6).2 :=
        fun c hc => hc.applyUpstream index gwV4 gwV6
      refine (hview' _ hview).trans ?_
      cases h.upstream with
      | settled hnone hsame => exact hsame.applyUpstream index gwV4 gwV6
      | waits devName' index' gwV4' gwV6' hindex' hsome hall' hsame =>
        have heq := hall _ _ _ hsome
        cases heq
        cases Option.some.inj (hindex.symm.trans hindex')
        -- the same request was cached before, and once is enough
        have htwice : SameUpstream ((a.applyUpstream (deferEnv ifIndex allReady) index gwV4
            gwV6).2.applyUpstream (deferEnv ifIndex allReady) index gwV4 gwV6).2
            (b.applyUpstream (deferEnv ifIndex allReady) index gwV4 gwV6).2 :=
          hsame.applyUpstream index gwV4 gwV6
        rwa [(applyUpstream_hasUpstream a).applyUpstream] at htwice
  simp [honly.downstream, h.downstream, hcached]

theorem Follows.addIface (h : Follows ifIndex named a b) (downstreamName : String) :
    Follows ifIndex named (a.addIface downstreamName) (b.addIface downstreamName) ∧
      downstreamName ∈ (a.addIface downstreamName).validIfaces ∧
      (a.addIface downstreamName).eventCache = a.eventCache := by
  unfold OffloadManager.addIface
  rw [h.ifaces]
  split
  next hmem => exact ⟨h, hmem, rfl⟩
  next =>
    have same : ∀ c : OffloadManager,
        SameUpstream { c with validIfaces := a.validIfaces ++ [downstreamName] } c :=
      fun c => ⟨fun iptype => by cases iptype <;> rfl, rfl, fun _ => rfl⟩
    refine ⟨⟨rfl, h.empty, h.named, fun devName subnet hc => ?_, ?_, h.downstream⟩, ?_, rfl⟩
    · exact List.mem_append_left _ (h.listed devName subnet hc)
    · exact h.upstream.frame (fun _ _ _ => Iff.rfl) (same a) (same b).symm
    · exact List.mem_append_right _ (List.mem_singleton_self _)

theorem Follows.cacheDownstream (h : Follows ifIndex named a b) {downstreamName : String}
    {subnet : Prefix} (hindex : ifIndex downstreamName = some index)
    (hlisted : downstreamName ∈ a.validIfaces) (hnamed : named (.downstreamAdd downstreamName subnet))
    (hfree : a.eventCache i = none) (latest : Fin maxEventCache) :
    Follows ifIndex named
      { a with
        eventCache := Function.update a.eventCache i (some (.downstreamAdd downstreamName subnet))
        latestCacheIndex := latest }
      (b.post (deferEnv ifIndex allReady) (.downstreamAdd index subnet)) := by
  have hcached := cached_update hfree latest (.downstreamAdd downstreamName subnet)
  refine ⟨h.ifaces, h.empty, fun evt hc => ?_, fun devName subnet' hc => ?_, ?_, ?_⟩
  · rcases (hcached evt).mp hc with hold | rfl
    · exact h.named evt hold
    · exact ⟨hnamed, index, hindex⟩
  · rcases (hcached _).mp hc with hold | hnew
    · exact h.listed devName subnet' hold
    · cases hnew
      exact hlisted
  · refine h.upstream.frame (fun devName gwV4 gwV6 => ?_) ?_
      (sameUpstream_downstream index subnet (Or.inl rfl)).symm
    · simp [hcached]
    · exact ⟨fun iptype => by cases iptype <;> rfl, rfl, fun _ => rfl⟩
  · intro index' subnet'
    rw [post_posted (fun _ => rfl), downstreamOf_append]
    by_cases hkey : index = index' ∧ subnet = subnet'
    · grind [downstreamStep]
    · simp only [downstreamStep, hkey, if_false]
      rw [h.downstream]
      refine or_congr Iff.rfl (exists_congr fun devName => and_congr_right fun hdev => ?_)
      grind

theorem Follows.postDownstream (h : Follows ifIndex named a b) (index : Nat)
    (subnet : Prefix) (hevt : evt = .downstreamAdd index subnet ∨ evt = .downstreamDel index subnet)
    (hnone : evt = .downstreamDel index subnet → ∀ devName, ifIndex devName = some index →
      ¬a.Cached (.downstreamAdd devName subnet)) :
    Follows ifIndex named (a.post (deferEnv ifIndex nat) evt)
      (b.post (deferEnv ifIndex allReady) evt) := by
  refine ⟨h.ifaces, h.empty, h.named, h.listed, ?_, ?_⟩
  · exact h.upstream.frame (fun _ _ _ => Iff.rfl) (sameUpstream_downstream index subnet hevt)
      (sameUpstream_downstream index subnet hevt).symm
  · intro index' subnet'
    rw [post_posted (fun _ => rfl), post_posted (fun _ => rfl), downstreamOf_append,
      downstreamOf_append]
    have hiff := h.downstream index' subnet'
    by_cases hkey : index = index' ∧ subnet = subnet'
    · obtain ⟨rfl, rfl⟩ := hkey
      rcases hevt with rfl | rfl
      · simp [downstreamStep]
      · simp only [downstreamStep, and_self, if_true, Bool.false_eq_true, false_or, false_iff]
        rintro ⟨devName, hdev, hc⟩
        exact hnone rfl devName hdev hc
    · have hskip : ∀ v, downstreamStep index' subnet' v evt = v := by
        intro v
        rcases hevt with rfl | rfl <;> simp only [downstreamStep, hkey, if_false]
      rw [hskip, hskip]
      exact hiff

theorem Follows.both (h : Follows ifIndex named a b) (ha : OnlyUpstream a a') (hb : OnlyUpstream b b')
    (hnone : ∀ devName gwV4 gwV6, ¬a.Cached (.routeAdd devName gwV4 gwV6))
    (hsame : SameUpstream a b → SameUpstream a' b') : Follows ifIndex named a' b' := by
  have hcached : ∀ evt, a'.Cached evt ↔ a.Cached evt := fun evt => by
    unfold Cached
    rw [ha.cache]
  refine ⟨(hb.ifaces.trans h.ifaces).trans ha.ifaces.symm, hb.cache ▸ h.empty,
    fun evt hc => h.named evt ((hcached evt).mp hc), fun devName subnet hc => ?_, ?_,
    fun index subnet => ?_⟩
  · rw [ha.ifaces]
    exact h.listed devName subnet ((hcached _).mp hc)
  · refine .settled (fun devName gwV4 gwV6 hc => hnone _ _ _ ((hcached _).mp hc)) (hsame ?_)
    cases h.upstream with
    | settled _ hab => exact hab
    | waits devName _ gwV4 gwV6 _ hsome _ _ => exact absurd hsome (hnone _ _ _)
  · simp only [ha.downstream, hb.downstream, hcached]
    exact h.downstream index subnet

def Tidy (m : OffloadManager) : Prop :=
  ∀ iptype, m.up iptype = false → upstreamOf iptype m.posted = none

theorem Tidy.same (h : a.Tidy) (hsame : SameUpstream a b) : b.Tidy := by
  intro iptype hdown
  rw [← hsame.route]
  exact h iptype (by rw [hsame.up, hdown])

theorem Tidy.cleanUpstream (h : m.Tidy) (iptype : IpaIpType) (gwAddr : Prefix) :
    (m.cleanUpstream (deferEnv ifIndex nat) iptype gwAddr).Tidy := by
  unfold OffloadManager.cleanUpstream
  split
  next =>
    intro iptype' hdown
    rw [setUp_posted, post_posted (fun _ => rfl), upstreamOf_append]
    by_cases he : iptype = iptype'
    · simp [upstreamStep, he]
    · rw [up_setUp_of_ne (Ne.symm he), post_up] at hdown
      simpa [upstreamStep, he] using h iptype' hdown
  next => exact h

theorem Tidy.addUpstream (h : m.Tidy) (iptype : IpaIpType) (index : Nat) (gwAddr : Prefix) :
    (m.addUpstream (deferEnv ifIndex nat) iptype index gwAddr).Tidy := by
  unfold OffloadManager.addUpstream
  split
  · exact h
  · split
    · exact h
    · intro iptype' hdown
      rw [setUp_posted, post_posted (fun _ => rfl), upstreamOf_append]
      by_cases he : iptype = iptype'
      · subst he
        rw [up_setUp_self] at hdown
        cases hdown
      · rw [up_setUp_of_ne (Ne.symm he), post_up] at hdown
        simpa [upstreamStep, he] using h iptype' hdown

theorem Tidy.setIndex (h : m.Tidy) (i : Int) : Tidy { m with defaultGwIndex := i } :=
  fun iptype hdown => h iptype (by cases iptype <;> exact hdown)

theorem Tidy.cleanOther (h : m.Tidy) (iptype : IpaIpType) (gwAddr : Prefix) :
    (m.cleanOther (deferEnv ifIndex nat) iptype gwAddr).Tidy := by
  unfold OffloadManager.cleanOther
  split
  · exact h.cleanUpstream iptype gwAddr
  · exact h

theorem Tidy.applyUpstream (h : m.Tidy) (index : Nat) (gwV4 gwV6 : Prefix) :
    (m.applyUpstream (deferEnv ifIndex nat) index gwV4 gwV6).2.Tidy := by
  have hswitch : (m.switchUpstream (deferEnv ifIndex nat) index gwV4 gwV6).Tidy := by
    unfold switchUpstream
    split
    · exact ((h.cleanUpstream .v4 gwV4).cleanUpstream .v6 gwV6).setIndex invalidIface
    · exact h
  unfold OffloadManager.applyUpstream
  refine Tidy.setIndex ?_ index
  split
  · exact (hswitch.addUpstream .v4 index gwV4).addUpstream .v6 index gwV6
  · split
    · exact (hswitch.cleanOther .v6 gwV6).addUpstream .v4 index gwV4
    · split
      · exact (hswitch.cleanOther .v4 gwV4).addUpstream .v6 index gwV6
      · exact hswitch

/-- The flags and the default gateway agree with each other and with the events. -/
structure UpstreamSound (m : OffloadManager) : Prop where
  down : m.defaultGwIndex = invalidIface → ∀ iptype, m.up iptype = false
  tidy : m.Tidy

theorem UpstreamSound.stop (h : m.UpstreamSound) (iptype : IpaIpType) :
    upstreamOf iptype (m.stopAllOffload (deferEnv ifIndex nat)).2.posted = none := by
  have hstop : (m.stopAllOffload (deferEnv ifIndex nat)).2.posted =
      (m.clearUpstream (deferEnv ifIndex nat) ⟨.v4, 0, 0, {}, {}⟩ ⟨.v6, 0, 0, {}, {}⟩).2.posted := rfl
  rw [hstop]
  unfold clearUpstream
  split
  next hunset => exact h.tidy iptype (h.down hunset iptype)
  next =>
    refine ((h.tidy.cleanUpstream .v4 _).cleanUpstream .v6 _) iptype ?_
    cases iptype with
    | v4 => exact (cleanUpstream_up_of_ne (by decide)).trans cleanUpstream_up_self
    | v6 => exact cleanUpstream_up_self

theorem stopAllOffload_up (env : OffloadEnv) (iptype : IpaIpType) :
    (m.stopAllOffload env).2.up iptype = false := by
  cases iptype <;> rfl

theorem Follows.stopAllOffload (h : Follows ifIndex named a b)
    (hnone : ∀ devName subnet, ¬a.Cached (.downstreamAdd devName subnet))
    (hsound : (∃ devName gwV4 gwV6, a.Cached (.routeAdd devName gwV4 gwV6)) → a.UpstreamSound) :
    Follows ifIndex named (a.stopAllOffload (deferEnv ifIndex nat)).2
      (b.stopAllOffload (deferEnv ifIndex allReady)).2 := by
  have hempty : ∀ evt, ¬(a.stopAllOffload (deferEnv ifIndex nat)).2.Cached evt := by
    rintro evt ⟨i, hi⟩
    cases hi
  refine ⟨rfl, fun _ => rfl, fun evt hc => absurd hc (hempty evt),
    fun _ _ hc => absurd hc (hempty _), ?_, fun index subnet => ?_⟩
  · refine .settled (fun _ _ _ => hempty _) ⟨fun iptype => ?_, rfl, fun iptype => ?_⟩
    · rw [stopAllOffload_up, stopAllOffload_up]
    · cases h.upstream with
      | settled hnone' hsame =>
        have hclear : SameUpstream
            (a.clearUpstream (deferEnv ifIndex nat) ⟨.v4, 0, 0, {}, {}⟩ ⟨.v6, 0, 0, {}, {}⟩).2
            (b.clearUpstream (deferEnv ifIndex allReady) ⟨.v4, 0, 0, {}, {}⟩
              ⟨.v6, 0, 0, {}, {}⟩).2 := hsame.clearUpstream _ _
        exact hclear.route iptype
      | waits devName index gwV4 gwV6 hindex hsome hall hsame =>
        have ha : a.UpstreamSound := hsound ⟨devName, gwV4, gwV6, hsome⟩
        have hb : b.UpstreamSound := by
          refine ⟨fun hunset => ?_, (ha.tidy.applyUpstream index gwV4 gwV6).same hsame⟩
          have hset : (index : Int) = invalidIface := hsame.index.trans hunset
          unfold invalidIface at hset
          omega
        rw [ha.stop, hb.stop]
  · have hclear : ∀ (c : OffloadManager) (env : String → IpaIpType → Bool),
        downstreamOf index subnet (c.stopAllOffload (deferEnv ifIndex env)).2.posted =
          downstreamOf index subnet c.posted :=
      fun c env => (onlyUpstream_clearUpstream _ _).downstream index subnet
    grind [h.downstream]

end OffloadManager

end DeviceHal.Ipacm
