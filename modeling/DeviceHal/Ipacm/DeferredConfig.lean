import DeviceHal.Ipacm.DeferredRun

namespace DeviceHal.Ipacm

open Lib

namespace OffloadManager

variable {m t a b : OffloadManager} {ifIndex : String → Option Nat}
  {nat : String → IpaIpType → Bool} {named : FrameworkEvent → Prop} {evt : FrameworkEvent}

def slotFor (interfaceName : String) (m : OffloadManager) (i : Fin maxEventCache) : Bool :=
  (m.eventCache i).any fun evt => evt.devName == interfaceName

/-- The first request for the interface can be made. -/
def FirstServed (nat : String → IpaIpType → Bool) (interfaceName : String)
    (slots : List (Fin maxEventCache)) (m : OffloadManager) : Prop :=
  ∀ i evt, slots.find? (m.slotFor interfaceName) = some i → m.eventCache i = some evt →
    ¬evt.Needs nat

/-- The requests of the slots that the search has come through wait for their interface. -/
structure Searched (nat : String → IpaIpType → Bool) (interfaceName : String)
    (slots : List (Fin maxEventCache)) (m : OffloadManager) : Prop where
  waits : ∀ i evt, m.eventCache i = some evt →
    evt.Needs nat ∨ i ∈ slots ∧ evt.devName = interfaceName
  room : (∃ j, m.eventCache j = none) ∨ m.FirstServed nat interfaceName slots

variable {i : Fin maxEventCache}

theorem cached_erase : Cached evt { m with eventCache := Function.update m.eventCache i none } ↔
      ∃ k, k ≠ i ∧ m.eventCache k = some evt := by
  constructor
  · rintro ⟨k, hk⟩
    grind
  · rintro ⟨k, hne, hk⟩
    exact ⟨k, (Function.update_of_ne hne ..).trans hk⟩

variable {slots : List (Fin maxEventCache)} {interfaceName : String}

theorem Searched.freed (h : m.Searched nat interfaceName (i :: slots))
    (hcache : ∀ k evt, k ≠ i → t.eventCache k = some evt → m.eventCache k = some evt ∨ evt.Needs nat) :
    Searched nat interfaceName slots
      { t with eventCache := Function.update t.eventCache i none } := by
  refine ⟨fun k evt hk => ?_, Or.inl ⟨i, Function.update_self ..⟩⟩
  have hk : Function.update t.eventCache i none k = some evt := hk
  have hne : k ≠ i := by
    rintro rfl
    rw [Function.update_self] at hk
    cases hk
  rw [Function.update_of_ne hne] at hk
  rcases hcache k evt hne hk with hold | hneeds
  · rcases h.waits k evt hold with hneeds | ⟨hmem, hname⟩
    · exact Or.inl hneeds
    grind
  · exact Or.inl hneeds

theorem Searched.skip (h : m.Searched nat interfaceName (i :: slots))
    (hskip : m.slotFor interfaceName i = false) : m.Searched nat interfaceName slots := by
  refine ⟨fun k evt hk => ?_, h.room.imp id fun hfirst k evt hfind => hfirst k evt ?_⟩
  · rcases h.waits k evt hk with hneeds | ⟨hmem, hname⟩
    · exact Or.inl hneeds
    grind [slotFor]
  · rw [List.find?_cons, hskip]
    exact hfind

theorem Searched.free (h : m.Searched nat interfaceName (i :: slots))
    (hi : m.eventCache i = some evt) (hname : evt.devName = interfaceName) (hneeds : evt.Needs nat) :
    ∃ j, m.eventCache j = none := by
  refine h.room.resolve_right fun hfirst => hfirst i evt ?_ hi hneeds
  grind [slotFor]

theorem Follows.cachedAgain (h : Follows ifIndex named a b) {i j latest : Fin maxEventCache}
    (hi : a.eventCache i = some evt) (hj : a.eventCache j = none) :
    Follows ifIndex named { a with
      eventCache := Function.update (Function.update a.eventCache j (some evt)) i none
      latestCacheIndex := latest } b := by
  have hij : j ≠ i := by
    rintro rfl
    rw [hi] at hj
    cases hj
  refine h.moved (fun evt' => ?_) rfl rfl rfl fun iptype => by cases iptype <;> rfl
  have herase := @cached_erase { a with
    eventCache := Function.update a.eventCache j (some evt), latestCacheIndex := latest } evt' i
  refine herase.trans ⟨?_, ?_⟩
  · rintro ⟨k, hne, hk⟩
    rcases (cached_update hj latest evt evt').mp ⟨k, hk⟩ with hold | rfl
    · exact hold
    · exact ⟨i, hi⟩
  · rintro ⟨k, hk⟩
    by_cases he : k = i
    · subst he
      cases Option.some.inj (hi.symm.trans hk)
      exact ⟨j, hij, Function.update_self ..⟩
    · have hkj : k ≠ j := by
        rintro rfl
        rw [hj] at hk
        cases hk
      exact ⟨k, he, (Function.update_of_ne hkj ..).trans hk⟩

theorem Follows.madeRoute (h : Follows ifIndex named a b)
    {devName : String} {index : Nat} {gwV4 gwV6 : Prefix}
    (hi : a.eventCache i = some (.routeAdd devName gwV4 gwV6)) (hindex : ifIndex devName = some index)
    (ha : OnlyUpstream a t)
    (hsame : SameUpstream (a.applyUpstream (deferEnv ifIndex allReady) index gwV4 gwV6).2 t) :
    Follows ifIndex named { t with eventCache := Function.update t.eventCache i none } b := by
  have hview : SameUpstream t { t with eventCache := Function.update t.eventCache i none } :=
    ⟨fun iptype => by cases iptype <;> rfl, rfl, fun _ => rfl⟩
  have hcached : ∀ evt, Cached evt { t with eventCache := Function.update t.eventCache i none } ↔
      ∃ k, k ≠ i ∧ a.eventCache k = some evt := by
    intro evt
    rw [cached_erase, ha.cache]
  refine ⟨h.ifaces.trans ha.ifaces.symm, h.empty, fun evt hc => ?_, fun devName' subnet hc => ?_, ?_,
    fun index' subnet => ?_⟩
  · obtain ⟨k, -, hk⟩ := (hcached evt).mp hc
    exact h.named evt ⟨k, hk⟩
  · obtain ⟨k, -, hk⟩ := (hcached _).mp hc
    exact ha.ifaces ▸ h.listed devName' subnet ⟨k, hk⟩
  · cases h.upstream with
    | settled hnone _ => exact absurd ⟨i, hi⟩ (hnone _ _ _)
    | waits devName' index' gwV4' gwV6' hindex' hsome hall hab =>
      have heq := hall _ _ _ ⟨i, hi⟩
      cases heq
      cases Option.some.inj (hindex.symm.trans hindex')
      have htb : SameUpstream { t with eventCache := Function.update t.eventCache i none } b :=
        (hview.symm.trans hsame.symm).trans hab
      by_cases hother : ∃ k, k ≠ i ∧ a.eventCache k = some (.routeAdd devName gwV4 gwV6)
      · refine .waits devName index gwV4 gwV6 hindex ((hcached _).mpr hother) ?_ ?_
        · intro devName' gwV4' gwV6' hc
          obtain ⟨k, -, hk⟩ := (hcached _).mp hc
          exact hall _ _ _ ⟨k, hk⟩
        · -- the request that is left is the same once more
          have htwice : SameUpstream ((a.applyUpstream (deferEnv ifIndex allReady) index gwV4
              gwV6).2.applyUpstream (deferEnv ifIndex allReady) index gwV4 gwV6).2
              (OffloadManager.applyUpstream (deferEnv ifIndex allReady) index gwV4 gwV6
                { t with eventCache := Function.update t.eventCache i none }).2 :=
            (hsame.trans hview).applyUpstream index gwV4 gwV6
          rw [(applyUpstream_hasUpstream a).applyUpstream] at htwice
          exact htwice.symm.trans hab
      · refine .settled (fun devName' gwV4' gwV6' hc => hother ?_) htb
        obtain ⟨k, hne, hk⟩ := (hcached _).mp hc
        have hsame' := hall _ _ _ ⟨k, hk⟩
        exact ⟨k, hne, hsame' ▸ hk⟩
  · have hposted : downstreamOf index' subnet t.posted = downstreamOf index' subnet a.posted :=
      ha.downstream index' subnet
    rw [h.downstream]
    refine or_congr (by rw [← hposted]) (exists_congr fun devName' => and_congr_right fun _ => ?_)
    rw [hcached]
    refine ⟨fun ⟨k, hk⟩ => ⟨k, ?_, hk⟩, fun ⟨k, _, hk⟩ => ⟨k, hk⟩⟩
    rintro rfl
    rw [hi] at hk
    cases hk

theorem Follows.madeDownstream (h : Follows ifIndex named a b)
    {devName : String} {index : Nat} {subnet : Prefix}
    (hi : a.eventCache i = some (.downstreamAdd devName subnet))
    (hindex : ifIndex devName = some index) :
    Follows ifIndex named
      { a.post (deferEnv ifIndex nat) (.downstreamAdd index subnet) with
        eventCache := Function.update a.eventCache i none } b := by
  have hcached : ∀ evt, Cached evt { a.post (deferEnv ifIndex nat) (.downstreamAdd index subnet) with
      eventCache := Function.update a.eventCache i none } ↔
      ∃ k, k ≠ i ∧ a.eventCache k = some evt :=
    fun evt => @cached_erase (a.post (deferEnv ifIndex nat) (.downstreamAdd index subnet)) evt i
  refine ⟨h.ifaces, h.empty, fun evt hc => ?_, fun devName' subnet' hc => ?_, ?_,
    fun index' subnet' => ?_⟩
  · obtain ⟨k, -, hk⟩ := (hcached evt).mp hc
    exact h.named evt ⟨k, hk⟩
  · obtain ⟨k, -, hk⟩ := (hcached _).mp hc
    exact h.listed devName' subnet' ⟨k, hk⟩
  · refine h.upstream.frame (fun devName' gwV4 gwV6 => ?_) ?_ (.refl b)
    · rw [hcached]
      refine ⟨fun hex => hex.imp fun k hk => hk.2, fun hex => hex.imp fun k hk => ⟨?_, hk⟩⟩
      rintro rfl
      rw [hi] at hk
      cases hk
    · have hpost : SameUpstream (a.post (deferEnv ifIndex nat) (.downstreamAdd index subnet)) a :=
        sameUpstream_downstream index subnet (Or.inl rfl)
      exact ⟨fun iptype => (by cases iptype <;> rfl : _ = _).trans (hpost.up iptype), hpost.index,
        hpost.route⟩
  · have hposted : downstreamOf index' subnet'
        (a.post (deferEnv ifIndex nat) (.downstreamAdd index subnet)).posted =
        downstreamStep index' subnet' (downstreamOf index' subnet' a.posted)
          (.downstreamAdd index subnet) := by
      rw [post_posted (fun _ => rfl), downstreamOf_append]
    rw [h.downstream]
    refine Iff.trans ?_ (or_congr (iff_of_eq (congrArg (· = true) hposted.symm)) Iff.rfl)
    simp only [hcached]
    by_cases hkey : index = index' ∧ subnet = subnet'
    · obtain ⟨rfl, rfl⟩ := hkey
      exact iff_of_true (Or.inr ⟨devName, hindex, i, hi⟩) (Or.inl (by simp [downstreamStep]))
    · simp only [downstreamStep, hkey, if_false]
      refine or_congr Iff.rfl (exists_congr fun devName' => and_congr_right fun hdev => ?_)
      refine ⟨fun hex => hex.imp fun k hk => ⟨?_, hk⟩, fun hex => hex.imp fun k hk => hk.2⟩
      grind

theorem Follows.replay (h : Follows ifIndex named a b)
    (hs : a.Searched nat interfaceName (i :: slots)) :
    Follows ifIndex named (a.replay (deferEnv ifIndex nat) interfaceName i) b ∧
      (a.replay (deferEnv ifIndex nat) interfaceName i).Searched nat interfaceName slots := by
  unfold OffloadManager.replay
  cases hi : a.eventCache i with
  | none => exact ⟨h, hs.skip (by simp [slotFor, hi])⟩
  | some evt =>
    by_cases hname : evt.devName = interfaceName
    · obtain ⟨-, index, hindex⟩ := h.named evt ⟨i, hi⟩
      subst hname
      have again : ∀ j latest, a.eventCache j = none → evt.Needs nat →
          Follows ifIndex named { a with
            eventCache := Function.update (Function.update a.eventCache j (some evt)) i none
            latestCacheIndex := latest } b ∧
          Searched nat evt.devName slots { a with
            eventCache := Function.update (Function.update a.eventCache j (some evt)) i none
            latestCacheIndex := latest } := by
        intro j latest hj hneeds
        have hfreed : ∀ k evt', k ≠ i →
            Function.update a.eventCache j (some evt) k = some evt' →
            a.eventCache k = some evt' ∨ evt'.Needs nat := by
          intro k evt' _ hk
          by_cases he : k = j
          · grind
          · rw [Function.update_of_ne he] at hk
            exact Or.inl hk
        exact ⟨h.cachedAgain hi hj, hs.freed (t := { a with
          eventCache := Function.update a.eventCache j (some evt)
          latestCacheIndex := latest }) hfreed⟩
      cases evt with
      | downstreamAdd devName subnet =>
        have hlisted : a.addIface devName = a := if_pos (h.listed devName subnet ⟨i, hi⟩)
        have hmade : (a.addDownstream (deferEnv ifIndex nat) devName subnet).2 = _ :=
          addDownstream_some hindex
        simp only [FrameworkEvent.devName, if_true, postAgain] at hmade again hs ⊢
        rw [hmade, hlisted]
        by_cases hneeds : (FrameworkEvent.downstreamAdd devName subnet).Needs nat
        · obtain ⟨j, latest, hj, hcache⟩ := cacheEvent_free (.downstreamAdd devName subnet)
            (hs.free hi rfl hneeds)
          grind
        · rw [if_neg hneeds]
          exact ⟨h.madeDownstream hi hindex, hs.freed fun k evt _ hk => Or.inl hk⟩
      | routeAdd devName gwV4 gwV6 =>
        have hmade : a.setUpstream (deferEnv ifIndex nat) (some devName) gwV4 gwV6 = _ :=
          setUpstream_some hindex
        simp only [FrameworkEvent.devName, if_true, postAgain] at hmade again hs ⊢
        rw [hmade]
        by_cases hneeds : (FrameworkEvent.routeAdd devName gwV4 gwV6).Needs nat
        · obtain ⟨j, latest, hj, hcache⟩ := cacheEvent_free (.routeAdd devName gwV4 gwV6)
            (hs.free hi rfl hneeds)
          grind
        · have honly : OnlyUpstream a (a.applyUpstream (deferEnv ifIndex nat) index gwV4 gwV6).2 :=
            onlyUpstream_applyUpstream index gwV4 gwV6
          rw [if_neg hneeds]
          refine ⟨h.madeRoute hi hindex honly ((SameUpstream.refl a).applyUpstream index gwV4 gwV6),
            hs.freed fun k evt _ hk => Or.inl ?_⟩
          rw [← honly.cache]
          exact hk
    · simp only [hname, if_false]
      exact ⟨h, hs.skip (by simp [slotFor, hi, hname])⟩

theorem Follows.search (h : Follows ifIndex named a b) (hs : a.Searched nat interfaceName slots) :
    Follows ifIndex named (slots.foldl (OffloadManager.replay (deferEnv ifIndex nat) interfaceName) a)
        b ∧
      (slots.foldl (OffloadManager.replay (deferEnv ifIndex nat) interfaceName) a).Searched nat
        interfaceName [] := by
  induction slots generalizing a with
  | nil => exact ⟨h, hs⟩
  | cons i slots ih =>
    obtain ⟨hnext, hsnext⟩ := h.replay hs
    exact ih hnext hsnext

theorem searchFramworkCache_empty {env : OffloadEnv} (interfaceName : String)
    (hempty : ∀ i, m.eventCache i = none) : m.searchFramworkCache env interfaceName = m := by
  have hfold : ∀ slots : List (Fin maxEventCache), slots.foldl (replay env interfaceName) m = m := by
    intro slots
    induction slots with
    | nil => rfl
    | cons i slots ih =>
      have hskip : replay env interfaceName m i = m := by
        unfold OffloadManager.replay
        rw [hempty i]
      rw [List.foldl_cons, hskip]
      exact ih
  exact hfold _

end OffloadManager

namespace OffloadManager

/-- Each request for an upstream that waits is this one. -/
def OnlyWaits (evt : FrameworkEvent) (m : OffloadManager) : Prop :=
  ∀ devName gwV4 gwV6, m.Cached (.routeAdd devName gwV4 gwV6) →
    FrameworkEvent.routeAdd devName gwV4 gwV6 = evt

def NoRouteWaits (m : OffloadManager) : Prop :=
  ∀ devName gwV4 gwV6, ¬m.Cached (.routeAdd devName gwV4 gwV6)

def Room (m : OffloadManager) : Prop := ∃ i, m.eventCache i = none

end OffloadManager

/-- The request that a step may leave in the cache. -/
def DeferOp.request : DeferOp → Option FrameworkEvent
  | .call op => op.request
  | .ready _ _ => none

namespace DeferSystem

/-- The call supersedes or withdraws no request that waits, the cache has room for what has to wait,
and a search of a full cache first comes to a request that can be made. -/
def Deferrable (ifIndex : String → Option Nat) (s : DeferSystem) : DeferOp → Prop
  | .call (.setUpstream none _ _) => s.mgr.NoRouteWaits
  | .call (.setUpstream (some upstreamName) gwAddrV4 gwAddrV6) =>
    ifIndex upstreamName ≠ none →
      s.mgr.OnlyWaits (.routeAdd upstreamName gwAddrV4 gwAddrV6) ∧
        ((FrameworkEvent.routeAdd upstreamName gwAddrV4 gwAddrV6).Needs s.natIface → s.mgr.Room)
  | .call (.addDownstream downstreamName subnet) =>
    ifIndex downstreamName ≠ none →
      (FrameworkEvent.downstreamAdd downstreamName subnet).Needs s.natIface → s.mgr.Room
  | .call (.removeDownstream downstreamName subnet) =>
    downstreamName ≠ "" → downstreamName ∈ s.mgr.validIfaces →
      ∀ index, ifIndex downstreamName = some index → ∀ devName, ifIndex devName = some index →
        ¬s.mgr.Cached (.downstreamAdd devName subnet)
  | .call .stopAllOffload =>
    (∀ devName subnet, ¬s.mgr.Cached (.downstreamAdd devName subnet)) ∧
      (¬s.mgr.NoRouteWaits → s.mgr.UpstreamSound)
  | .call (.searchFramworkCache interfaceName) =>
    s.mgr.Room ∨
      s.mgr.FirstServed s.natIface interfaceName (List.finRange maxEventCache)
  | .ready interfaceName iptype =>
    s.mgr.Room ∨
      s.mgr.FirstServed (markReady interfaceName iptype s.natIface) interfaceName
        (List.finRange maxEventCache)

/-- The system, beside one whose interfaces were always ready: that one has made the requests that
wait here, and each of them waits for its interface. -/
structure Beside (ifIndex : String → Option Nat) (named : FrameworkEvent → Prop)
    (s r : DeferSystem) : Prop where
  follows : OffloadManager.Follows ifIndex named s.mgr r.mgr
  waits : ∀ i evt, s.mgr.eventCache i = some evt → evt.Needs s.natIface
  ready : r.natIface = OffloadManager.allReady

variable {ifIndex : String → Option Nat} {named : FrameworkEvent → Prop} {s r : DeferSystem}

variable {nat : String → IpaIpType → Bool}

theorem needs_markReady {evt : FrameworkEvent}
    {interfaceName : String} (iptype : IpaIpType) (hname : evt.devName ≠ interfaceName)
    (hneeds : evt.Needs nat) : evt.Needs (markReady interfaceName iptype nat) := by
  cases evt with
  | downstreamAdd devName subnet =>
    have hne : devName ≠ interfaceName := hname
    simpa [FrameworkEvent.Needs, markReady, hne] using hneeds
  | routeAdd devName gwV4 gwV6 =>
    have hne : devName ≠ interfaceName := hname
    simpa [FrameworkEvent.Needs, markReady, hne] using hneeds

theorem markReady_allReady (interfaceName : String) (iptype : IpaIpType) :
    markReady interfaceName iptype OffloadManager.allReady = OffloadManager.allReady := by
  funext interfaceName' iptype'
  simp [markReady, OffloadManager.allReady]

theorem Beside.search (h : Beside ifIndex named s r) {interfaceName : String}
    (hneeds : ∀ evt : FrameworkEvent, evt.devName ≠ interfaceName → evt.Needs s.natIface →
      evt.Needs nat)
    (hroom : s.mgr.Room ∨ s.mgr.FirstServed nat interfaceName (List.finRange maxEventCache)) :
    Beside ifIndex named ⟨s.mgr.searchFramworkCache (deferEnv ifIndex nat) interfaceName, nat⟩ r := by
  have hs : s.mgr.Searched nat interfaceName (List.finRange maxEventCache) := by
    refine ⟨fun i evt hi => ?_, hroom⟩
    by_cases hname : evt.devName = interfaceName
    · exact Or.inr ⟨List.mem_finRange i, hname⟩
    · exact Or.inl (hneeds evt hname (h.waits i evt hi))
  obtain ⟨hfollows, hsearched⟩ := h.follows.search hs
  refine ⟨hfollows, fun i evt hi => ?_, h.ready⟩
  exact (hsearched.waits i evt hi).resolve_right fun hmem => absurd hmem.1 List.not_mem_nil

theorem waits_update {m : OffloadManager} {evt : FrameworkEvent} {j : Fin maxEventCache}
    (h : ∀ i evt, m.eventCache i = some evt → evt.Needs nat) (hneeds : evt.Needs nat)
    (i : Fin maxEventCache) (evt' : FrameworkEvent)
    (hi : Function.update m.eventCache j (some evt) i = some evt') : evt'.Needs nat := by
  grind

section Calls

open OffloadManager

variable {a b : OffloadManager} {nat : String → IpaIpType → Bool}

theorem Beside.addDownstream (h : Beside ifIndex named ⟨a, nat⟩ ⟨b, allReady⟩)
    {downstreamName : String} {subnet : Prefix}
    (hnamed : named (.downstreamAdd downstreamName subnet))
    (hroom : ifIndex downstreamName ≠ none →
      (FrameworkEvent.downstreamAdd downstreamName subnet).Needs nat → a.Room) :
    Beside ifIndex named ⟨(a.addDownstream (deferEnv ifIndex nat) downstreamName subnet).2, nat⟩
      ⟨(b.addDownstream (deferEnv ifIndex allReady) downstreamName subnet).2, allReady⟩ := by
  cases hindex : ifIndex downstreamName with
  | none =>
    have hsame : ∀ (c : OffloadManager) (nat : String → IpaIpType → Bool),
        (c.addDownstream (deferEnv ifIndex nat) downstreamName subnet).2 = c := by
      intro c nat
      simp only [OffloadManager.addDownstream, deferEnv, hindex]
    rw [hsame, hsame]
    exact h
  | some index =>
    obtain ⟨hlist, hmem, hcache⟩ := h.follows.addIface downstreamName
    have hwaits : ∀ i evt, (a.addIface downstreamName).eventCache i = some evt → evt.Needs nat := by
      rw [hcache]
      exact h.waits
    rw [addDownstream_some hindex, addDownstream_some hindex, if_neg (not_needs_allReady _)]
    by_cases hneeds : (FrameworkEvent.downstreamAdd downstreamName subnet).Needs nat
    · have hfree : ∃ j, (a.addIface downstreamName).eventCache j = none := by
        rw [hcache]
        exact hroom (by simp [hindex]) hneeds
      obtain ⟨j, latest, hj, hcached⟩ :=
        cacheEvent_free (.downstreamAdd downstreamName subnet) hfree
      rw [if_pos hneeds, hcached]
      exact ⟨hlist.cacheDownstream hindex hmem hnamed hj latest, waits_update hwaits hneeds, rfl⟩
    · rw [if_neg hneeds]
      refine ⟨hlist.postDownstream index subnet (Or.inl rfl) fun hdel => ?_, hwaits, rfl⟩
      cases hdel

theorem Beside.removeDownstream (h : Beside ifIndex named ⟨a, nat⟩ ⟨b, allReady⟩)
    {downstreamName : String} {subnet : Prefix}
    (hnone : downstreamName ≠ "" → downstreamName ∈ a.validIfaces →
      ∀ index, ifIndex downstreamName = some index → ∀ devName, ifIndex devName = some index →
        ¬a.Cached (.downstreamAdd devName subnet)) :
    Beside ifIndex named ⟨(a.removeDownstream (deferEnv ifIndex nat) downstreamName subnet).2, nat⟩
      ⟨(b.removeDownstream (deferEnv ifIndex allReady) downstreamName subnet).2, allReady⟩ := by
  unfold OffloadManager.removeDownstream
  rw [h.follows.ifaces]
  split
  next => exact h
  next hempty =>
    split
    next => exact h
    next hmem =>
      cases hindex : ifIndex downstreamName with
      | none =>
        simp only [deferEnv, hindex]
        exact h
      | some index =>
        have hcalm := hnone hempty (not_not.mp hmem) index hindex
        have hpost : OffloadManager.Follows ifIndex named
            (a.post (deferEnv ifIndex nat) (.downstreamDel index subnet))
            (b.post (deferEnv ifIndex allReady) (.downstreamDel index subnet)) :=
          h.follows.postDownstream index subnet (Or.inr rfl) fun _ => hcalm
        simp only [deferEnv, hindex] at hpost ⊢
        exact ⟨hpost, h.waits, rfl⟩

theorem Beside.setUpstream (h : Beside ifIndex named ⟨a, nat⟩ ⟨b, allReady⟩)
    {upstreamName : String} {gwV4 gwV6 : Prefix} (hnamed : named (.routeAdd upstreamName gwV4 gwV6))
    (hgood : ifIndex upstreamName ≠ none → a.OnlyWaits (.routeAdd upstreamName gwV4 gwV6) ∧
      ((FrameworkEvent.routeAdd upstreamName gwV4 gwV6).Needs nat → a.Room)) :
    Beside ifIndex named ⟨(a.setUpstream (deferEnv ifIndex nat) (some upstreamName) gwV4 gwV6).2, nat⟩
      ⟨(b.setUpstream (deferEnv ifIndex allReady) (some upstreamName) gwV4 gwV6).2, allReady⟩ := by
  cases hindex : ifIndex upstreamName with
  | none =>
    have hsame : ∀ (c : OffloadManager) (nat : String → IpaIpType → Bool),
        (c.setUpstream (deferEnv ifIndex nat) (some upstreamName) gwV4 gwV6).2 = c := by
      intro c nat
      simp only [OffloadManager.setUpstream, deferEnv, hindex]
    rw [hsame, hsame]
    exact h
  | some index =>
    obtain ⟨honly, hroom⟩ := hgood (by simp [hindex])
    rw [setUpstream_some hindex, setUpstream_some hindex, if_neg (not_needs_allReady _)]
    by_cases hneeds : (FrameworkEvent.routeAdd upstreamName gwV4 gwV6).Needs nat
    · obtain ⟨j, latest, hj, hcached⟩ :=
        cacheEvent_free (.routeAdd upstreamName gwV4 gwV6) (hroom hneeds)
      rw [if_pos hneeds, hcached]
      exact ⟨h.follows.cacheRoute hindex hnamed honly hj latest, waits_update h.waits hneeds, rfl⟩
    · rw [if_neg hneeds]
      have ha : OnlyUpstream a (a.applyUpstream (deferEnv ifIndex nat) index gwV4 gwV6).2 :=
        onlyUpstream_applyUpstream index gwV4 gwV6
      have hnone : a.NoRouteWaits := by
        rintro devName gwV4' gwV6' ⟨i, hi⟩
        refine hneeds ?_
        rw [← honly devName gwV4' gwV6' ⟨i, hi⟩]
        exact h.waits i _ hi
      refine ⟨h.follows.both ha (onlyUpstream_applyUpstream index gwV4 gwV6) hnone fun hsame =>
        hsame.applyUpstream index gwV4 gwV6, ?_, rfl⟩
      rw [ha.cache]
      exact h.waits

theorem Beside.clearUpstream (h : Beside ifIndex named ⟨a, nat⟩ ⟨b, allReady⟩)
    (hnone : a.NoRouteWaits) (gwV4 gwV6 : Prefix) :
    Beside ifIndex named ⟨(a.clearUpstream (deferEnv ifIndex nat) gwV4 gwV6).2, nat⟩
      ⟨(b.clearUpstream (deferEnv ifIndex allReady) gwV4 gwV6).2, allReady⟩ := by
  have ha : OnlyUpstream a (a.clearUpstream (deferEnv ifIndex nat) gwV4 gwV6).2 :=
    onlyUpstream_clearUpstream gwV4 gwV6
  refine ⟨h.follows.both ha (onlyUpstream_clearUpstream gwV4 gwV6) hnone fun hsame =>
    hsame.clearUpstream gwV4 gwV6, ?_, rfl⟩
  rw [ha.cache]
  exact h.waits

end Calls

theorem Beside.step (h : Beside ifIndex named s r) {op : DeferOp}
    (hnamed : ∀ evt, op.request = some evt → named evt) (hgood : s.Deferrable ifIndex op) :
    ∃ s' r', s.step ifIndex op = some s' ∧ r.step ifIndex op = some r' ∧
      Beside ifIndex named s' r' := by
  obtain ⟨a, nat⟩ := s
  obtain ⟨b, nat'⟩ := r
  obtain rfl : nat' = OffloadManager.allReady := h.ready
  cases op with
  | ready interfaceName iptype =>
    refine ⟨_, _, rfl, rfl, ?_⟩
    rw [markReady_allReady, OffloadManager.searchFramworkCache_empty _ h.follows.empty]
    exact h.search (fun _ hname => needs_markReady iptype hname) hgood
  | call op =>
    refine ⟨_, _, rfl, rfl, ?_⟩
    cases op with
    | addDownstream downstreamName subnet => exact h.addDownstream (hnamed _ rfl) hgood
    | removeDownstream downstreamName subnet => exact h.removeDownstream hgood
    | setUpstream upstreamName gwV4 gwV6 =>
      cases upstreamName with
      | none => exact h.clearUpstream hgood gwV4 gwV6
      | some upstreamName => exact h.setUpstream (hnamed _ rfl) hgood
    | stopAllOffload =>
      obtain ⟨hnone, hsound⟩ := hgood
      refine ⟨h.follows.stopAllOffload hnone fun ⟨devName, gwV4, gwV6, hc⟩ =>
        hsound fun hnoroute => hnoroute devName gwV4 gwV6 hc, fun i evt hi => ?_, rfl⟩
      cases hi
    | searchFramworkCache interfaceName =>
      have hsearch : Beside ifIndex named
          ⟨a.searchFramworkCache (deferEnv ifIndex nat) interfaceName, nat⟩
          ⟨b, OffloadManager.allReady⟩ := h.search (fun _ _ hneeds => hneeds) hgood
      have hempty : b.searchFramworkCache (deferEnv ifIndex OffloadManager.allReady) interfaceName =
          b := OffloadManager.searchFramworkCache_empty interfaceName h.follows.empty
      change Beside ifIndex named ⟨a.searchFramworkCache (deferEnv ifIndex nat) interfaceName, nat⟩
        ⟨b.searchFramworkCache (deferEnv ifIndex OffloadManager.allReady) interfaceName,
          OffloadManager.allReady⟩
      rw [hempty]
      exact hsearch

theorem beside_start (nat : String → IpaIpType → Bool) :
    Beside ifIndex named ⟨{}, nat⟩ ⟨{}, OffloadManager.allReady⟩ := by
  have hempty : ∀ evt, ¬OffloadManager.Cached evt {} := by
    rintro evt ⟨i, hi⟩
    cases hi
  refine ⟨⟨rfl, fun _ => rfl, fun evt hc => absurd hc (hempty evt),
    fun _ _ hc => absurd hc (hempty _), ?_, fun index subnet => ?_⟩, fun i evt hi => ?_, rfl⟩
  · exact .settled (fun _ _ _ => hempty _) (.refl {})
  · grind
  · cases hi

def Named (ops : List DeferOp) (evt : FrameworkEvent) : Prop :=
  ∃ op ∈ ops, op.request = some evt

theorem Beside.run {ops : List DeferOp} (h : Beside ifIndex named s r)
    (hnamed : ∀ evt, Named ops evt → named evt)
    (hgood : OpsMeet (DeferSystem.step ifIndex) (Deferrable ifIndex) s ops) :
    ∃ s' r', runOps (DeferSystem.step ifIndex) s ops = some s' ∧
      runOps (DeferSystem.step ifIndex) r ops = some r' ∧ Beside ifIndex named s' r' := by
  induction ops generalizing s r with
  | nil => exact ⟨s, r, rfl, rfl, h⟩
  | cons op ops ih =>
    obtain ⟨s₁, r₁, hs, hr, hnext⟩ :=
      h.step (fun evt hreq => hnamed evt ⟨op, List.mem_cons_self, hreq⟩) hgood.1
    have hlater : ∀ evt, Named ops evt → named evt := by
      rintro evt ⟨op', hop', hreq⟩
      exact hnamed evt ⟨op', List.mem_cons_of_mem _ hop', hreq⟩
    obtain ⟨s', r', hs', hr', hlast⟩ := ih hnext hlater (hgood.2 s₁ hs)
    exact ⟨s', r', Option.bind_eq_some_iff.mpr ⟨s₁, hs, hs'⟩,
      Option.bind_eq_some_iff.mpr ⟨r₁, hr, hr'⟩, hlast⟩

theorem Beside.configuration (h : Beside ifIndex named s r)
    (hready : ∀ evt, named evt → ¬evt.Needs s.natIface) :
    configuration s.mgr.posted = configuration r.mgr.posted := by
  have hempty : ∀ evt, ¬s.mgr.Cached evt := by
    intro evt hc
    obtain ⟨i, hi⟩ := hc
    exact hready evt (h.follows.named evt ⟨i, hi⟩).1 (h.waits i evt hi)
  unfold Ipacm.configuration
  refine congrArg₂ Configuration.mk ?_ ?_
  · funext iptype
    cases h.follows.upstream with
    | settled _ hsame => exact hsame.route iptype
    | waits devName _ gwV4 gwV6 _ hsome _ _ => exact absurd hsome (hempty _)
  · funext index subnet
    refine Bool.eq_iff_iff.mpr ((h.follows.downstream index subnet).trans ?_).symm
    grind

/-- As long as no call supersedes a request that waits and the cache has room, the configuration
posted once the interfaces of all requests are ready is that of interfaces that were ready from the
start. Until then the requests that wait are what is missing. -/
theorem configuration_of_deferrable {nat : String → IpaIpType → Bool} {ops : List DeferOp}
    (hgood : OpsMeet (DeferSystem.step ifIndex) (Deferrable ifIndex) ⟨{}, nat⟩ ops) :
    ∃ s r, runOps (DeferSystem.step ifIndex) ⟨{}, nat⟩ ops = some s ∧
      runOps (DeferSystem.step ifIndex) ⟨{}, fun _ _ => true⟩ ops = some r ∧
      OffloadManager.Follows ifIndex (Named ops) s.mgr r.mgr ∧
      ((∀ evt, Named ops evt → ¬evt.Needs s.natIface) →
        configuration s.mgr.posted = configuration r.mgr.posted) := by
  obtain ⟨s, r, hs, hr, hlast⟩ := (beside_start nat).run (fun _ => id) hgood
  exact ⟨s, r, hs, hr, hlast.follows, hlast.configuration⟩

def twoIfaces (interfaceName : String) : Option Nat :=
  if interfaceName = "rmnet0" then some 3 else if interfaceName = "rndis0" then some 7 else none

/-- An upstream and a downstream that wait for their interfaces. -/
def waiting : List DeferOp :=
  [.call (.setUpstream (some "rmnet0") ⟨.v4, 9, 0, {}, {}⟩ ⟨.v6, 0, 0, ⟨9, 0, 0, 0⟩, {}⟩),
    .call (.addDownstream "rndis0" ⟨.v4, 5, 0, {}, {}⟩), .ready "rmnet0" .v4, .ready "rndis0" .v4,
    .ready "rmnet0" .v6]

theorem waiting_made : ∃ s r, runOps (DeferSystem.step twoIfaces) ⟨{}, fun _ _ => false⟩ waiting = some s ∧
    runOps (DeferSystem.step twoIfaces) ⟨{}, fun _ _ => true⟩ waiting = some r ∧
    OffloadManager.Follows twoIfaces (Named waiting) s.mgr r.mgr ∧
    ((∀ evt, Named waiting evt → ¬evt.Needs s.natIface) →
      configuration s.mgr.posted = configuration r.mgr.posted) := by
  refine configuration_of_deferrable ⟨fun _ => ⟨?_, fun _ => ⟨0, rfl⟩⟩, ?_⟩
  · rintro devName gwV4 gwV6 ⟨i, hi⟩
    cases hi
  · intro s₁ h₁
    cases h₁
    refine ⟨fun _ _ => ⟨1, rfl⟩, fun s₂ h₂ => ?_⟩
    cases h₂
    refine ⟨Or.inl ⟨5, rfl⟩, fun s₃ h₃ => ?_⟩
    cases h₃
    refine ⟨Or.inl ⟨5, rfl⟩, fun s₄ h₄ => ?_⟩
    cases h₄
    exact ⟨Or.inl ⟨5, rfl⟩, fun _ _ => trivial⟩

/-- The upstream is withdrawn before its interface is ready, and is made all the same. -/
theorem withdrawn_made : ∃ s r,
    runOps (DeferSystem.step twoIfaces) ⟨{}, fun _ _ => false⟩
      [.call (.setUpstream (some "rmnet0") ⟨.v4, 9, 0, {}, {}⟩ ⟨.invalid, 0, 0, {}, {}⟩),
        .call (.setUpstream none ⟨.v4, 0, 0, {}, {}⟩ ⟨.v6, 0, 0, {}, {}⟩),
        .ready "rmnet0" .v4, .ready "rmnet0" .v6] = some s ∧
    runOps (DeferSystem.step twoIfaces) ⟨{}, fun _ _ => true⟩
      [.call (.setUpstream (some "rmnet0") ⟨.v4, 9, 0, {}, {}⟩ ⟨.invalid, 0, 0, {}, {}⟩),
        .call (.setUpstream none ⟨.v4, 0, 0, {}, {}⟩ ⟨.v6, 0, 0, {}, {}⟩),
        .ready "rmnet0" .v4, .ready "rmnet0" .v6] = some r ∧
    (∀ iptype, s.natIface "rmnet0" iptype = true) ∧
    (configuration s.mgr.posted).upstream .v4 = some (3, ⟨.v4, 9, 0, {}, {}⟩) ∧
    (configuration r.mgr.posted).upstream .v4 = none := by
  refine ⟨_, _, rfl, rfl, fun iptype => ?_, by decide, by decide⟩
  cases iptype <;> decide

end DeferSystem

end DeviceHal.Ipacm
