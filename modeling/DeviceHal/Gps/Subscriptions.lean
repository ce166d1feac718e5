import DeviceHal.Gps.OsObserver

namespace DeviceHal.Gps

open Lib

universe u v w

variable {Client : Type u} {Item : Type v} {Val : Type w}

namespace OsObserver

/-- The two maps are inverse to each other and hold what the clients hold. -/
structure Records (s : OsObserver Client Item Val) (held : Client → Finset Item) : Prop where
  items : ∀ client, s.mClientToDataItems.getValSet client = held client
  clients : ∀ client item, client ∈ s.mDataItemToClients.getValSet item ↔ item ∈ held client
  clientsFull : s.mClientToDataItems.NoEmpty
  itemsFull : s.mDataItemToClients.NoEmpty

variable {s : OsObserver Client Item Val} {held : Client → Finset Item} {l : List Item} {client : Client}

theorem records_empty : ({} : OsObserver Client Item Val).Records fun _ => ∅ := by
  refine ⟨fun client => rfl, fun client item => ?_, ?_, ?_⟩
  · simp [LocUnorderedSetMap.getValSet, LocUnorderedSetMap.empty]
  · intro k hk
    exact absurd hk (Finset.notMem_empty k)
  · intro k hk
    exact absurd hk (Finset.notMem_empty k)

theorem Records.congr_cache (h : s.Records held) {t : OsObserver Client Item Val}
    (hc : t.mClientToDataItems = s.mClientToDataItems) (hi : t.mDataItemToClients = s.mDataItemToClients) :
    t.Records held := by
  obtain ⟨items, clients, clientsFull, itemsFull⟩ := h
  refine ⟨?_, ?_, ?_, ?_⟩
  · rw [hc]
    exact items
  · rw [hi]
    exact clients
  · rw [hc]
    exact clientsFull
  · rw [hi]
    exact itemsFull

variable [DecidableEq Item]

theorem Records.mem_keys_iff (h : s.Records held) {item : Item} :
    item ∈ s.mDataItemToClients.getKeys ↔ ∃ client, item ∈ held client := by
  refine h.itemsFull.mem_keys_iff.trans (exists_congr fun client => ?_)
  exact h.clients client item

theorem updateCache_maps (s : OsObserver Client Item Val) (d : NotifiedItem Item Val) :
    (s.updateCache d).1.mClientToDataItems = s.mClientToDataItems ∧
      (s.updateCache d).1.mDataItemToClients = s.mDataItemToClients ∧
      (s.updateCache d).1.mSubscriptionObj = s.mSubscriptionObj := by
  grind [updateCache]

theorem updateCaches_maps (s : OsObserver Client Item Val) (ds : List (NotifiedItem Item Val)) :
    (s.updateCaches ds).1.mClientToDataItems = s.mClientToDataItems ∧
      (s.updateCaches ds).1.mDataItemToClients = s.mDataItemToClients ∧
      (s.updateCaches ds).1.mSubscriptionObj = s.mSubscriptionObj := by
  induction ds generalizing s with
  | nil => exact ⟨rfl, rfl, rfl⟩
  | cons d ds ih =>
    obtain ⟨hc, hi, hobj⟩ := ih (s.updateCache d).1
    obtain ⟨hc', hi', hobj'⟩ := s.updateCache_maps d
    exact ⟨hc.trans hc', hi.trans hi', hobj.trans hobj'⟩

theorem updateCache_cached (s : OsObserver Client Item Val) (d : NotifiedItem Item Val) :
    (∀ item, (s.mDataItemCache item).isSome → ((s.updateCache d).1.mDataItemCache item).isSome) ∧
      ((s.updateCache d).2 = true → ((s.updateCache d).1.mDataItemCache d.id).isSome) := by
  have hstored : ∀ item, (s.mDataItemCache item).isSome →
      (Function.update s.mDataItemCache d.id (some d.value) item).isSome := by
    intro item hitem
    by_cases he : item = d.id
    · rw [he, Function.update_self]
      rfl
    · rw [Function.update_of_ne he]
      exact hitem
  have hnew : (Function.update s.mDataItemCache d.id (some d.value) d.id).isSome := by
    rw [Function.update_self]
    rfl
  unfold updateCache
  split
  · split
    · split
      · exact ⟨hstored, fun _ => hnew⟩
      · exact ⟨fun _ h => h, nofun⟩
    · split
      · exact ⟨hstored, fun _ => hnew⟩
      · exact ⟨fun _ h => h, nofun⟩
  · exact ⟨fun _ h => h, nofun⟩

theorem updateCaches_cached (s : OsObserver Client Item Val) (ds : List (NotifiedItem Item Val)) :
    (∀ item, (s.mDataItemCache item).isSome → ((s.updateCaches ds).1.mDataItemCache item).isSome) ∧
      ∀ item ∈ (s.updateCaches ds).2, ((s.updateCaches ds).1.mDataItemCache item).isSome := by
  induction ds generalizing s with
  | nil => exact ⟨fun _ h => h, fun item h => absurd h (Finset.notMem_empty item)⟩
  | cons d ds ih =>
    obtain ⟨hkeep, hnew⟩ := ih (s.updateCache d).1
    obtain ⟨hkeep', hnew'⟩ := s.updateCache_cached d
    refine ⟨fun item h => hkeep item (hkeep' item h), fun item hitem => ?_⟩
    grind [updateCaches]

variable [DecidableEq Client]

theorem Records.handleSubscribeReq (h : s.Records held) (l : List Item) (client : Client)
    (toRequestData : Bool) :
    (s.handleSubscribeReq l client toRequestData).1.Records
      (Function.update held client (held client ∪ l.toFinset)) := by
  refine ⟨fun client' => ?_, fun client' item => ?_, h.clientsFull.add, h.itemsFull.addEach⟩
  · have hitems := h.items
    change (s.mClientToDataItems.add client l.toFinset).1.vals client' = _
    rw [LocUnorderedSetMap.vals_add]
    by_cases he : client' = client
    · rw [he, Function.update_self, Function.update_self, ← hitems client]
      rfl
    · rw [Function.update_of_ne he, Function.update_of_ne he]
      exact hitems client'
  · have hclients := h.clients client' item
    refine (LocUnorderedSetMap.mem_addEach (Finset.singleton_ne_empty client)).trans ?_
    rw [Finset.mem_singleton]
    by_cases he : client' = client
    · subst he
      rw [Function.update_self, Finset.mem_union]
      exact or_congr hclients (and_iff_left rfl)
    · rw [Function.update_of_ne he]
      exact (or_iff_left fun hnew => he hnew.2).trans hclients

variable (client) in
theorem mem_handleUpdateSubscriptionReq (walk : ErasedWalk Item) (hl : l ≠ []) (client' : Client)
    (item : Item) :
    client' ∈ (s.handleUpdateSubscriptionReq walk l client).1.mDataItemToClients.getValSet item ↔
      client' ∈ s.mDataItemToClients.getValSet item ∧
          ¬(item ∈ walk.meets (s.mClientToDataItems.getValSet client ∩ l.toFinset) ∧ client' = client) ∨
        item ∈ l.toFinset \ walk.meets (s.mClientToDataItems.getValSet client ∩ l.toFinset) ∧
          client' = client := by
  have hne : l.toFinset ≠ ∅ := fun h => hl (List.toFinset_eq_empty_iff l |>.mp h)
  have hupdate : s.mClientToDataItems.update walk client l.toFinset =
      ((s.mClientToDataItems.update walk client l.toFinset).1,
        walk.meets (s.mClientToDataItems.getValSet client ∩ l.toFinset),
        l.toFinset \ walk.meets (s.mClientToDataItems.getValSet client ∩ l.toFinset)) := by
    unfold LocUnorderedSetMap.update
    rw [if_neg hne]
    rfl
  unfold handleUpdateSubscriptionReq
  rw [hupdate]
  refine (LocUnorderedSetMap.mem_addEach (Finset.singleton_ne_empty client)).trans ?_
  rw [Finset.mem_singleton, LocUnorderedSetMap.mem_trimOrRemove, Finset.mem_singleton]
  rfl

theorem Records.handleUpdateSubscriptionReq (h : s.Records held) (walk : ErasedWalk Item) (hl : l ≠ [])
    (hnone : held client = ∅) :
    (s.handleUpdateSubscriptionReq walk l client).1.Records (Function.update held client l.toFinset) := by
  have hcommon : walk.meets (s.mClientToDataItems.getValSet client ∩ l.toFinset) = ∅ := by
    rw [h.items, hnone, Finset.empty_inter]
    exact Finset.subset_empty.mp (walk.meets_subset ∅)
  refine ⟨fun client' => ?_, fun client' item => ?_, h.clientsFull.update, h.itemsFull.trimOrRemove.addEach⟩
  · change (s.mClientToDataItems.update walk client l.toFinset).1.vals client' = _
    rw [LocUnorderedSetMap.vals_update]
    by_cases he : client' = client
    · rw [he, Function.update_self, Function.update_self]
    · rw [Function.update_of_ne he, Function.update_of_ne he]
      exact h.items client'
  · rw [mem_handleUpdateSubscriptionReq _ walk hl, hcommon, Finset.sdiff_empty, h.clients]
    grind

theorem Records.not_records_update (h : s.Records held) (walk : ErasedWalk Item) (hl : l ≠ [])
    (hsome : held client ≠ ∅) :
    ¬(s.handleUpdateSubscriptionReq walk l client).1.Records (Function.update held client l.toFinset) := by
  intro hafter
  have hmem := fun item => mem_handleUpdateSubscriptionReq (s := s) client walk hl client item
  have hclients := fun item => hafter.clients client item
  simp only [Function.update_self] at hclients
  rcases Finset.eq_empty_or_nonempty (held client ∩ l.toFinset) with hcommon | hcommon
  · -- nothing in common: what the client held stays under it
    obtain ⟨item, hitem⟩ := Finset.nonempty_iff_ne_empty.mpr hsome
    have hnot : item ∉ l.toFinset := fun hin =>
      Finset.notMem_empty item (hcommon ▸ Finset.mem_inter.mpr ⟨hitem, hin⟩)
    have hmeets : walk.meets (s.mClientToDataItems.getValSet client ∩ l.toFinset) = ∅ := by
      rw [h.items, hcommon]
      exact Finset.subset_empty.mp (walk.meets_subset ∅)
    refine hnot ((hclients item).mp ((hmem item).mpr (Or.inl ⟨(h.clients client item).mpr hitem, ?_⟩)))
    rw [hmeets]
    exact fun hin => Finset.notMem_empty item hin.1
  · -- a common item that the loop met is taken from the client
    obtain ⟨item, hitem⟩ := walk.meets_nonempty _ hcommon
    have hboth := Finset.mem_inter.mp (walk.meets_subset _ hitem)
    rw [← h.items] at hitem
    grind

theorem Records.handleUnsubscribeReq (h : s.Records held) (l : List Item) (client : Client) :
    (s.handleUnsubscribeReq l client).1.Records (Function.update held client (held client \ l.toFinset)) := by
  refine ⟨fun client' => ?_, fun client' item => ?_, h.clientsFull.trimOrRemove, h.itemsFull.trimOrRemove⟩
  · ext item
    refine LocUnorderedSetMap.mem_trimOrRemove.trans ?_
    rw [Finset.mem_singleton]
    have hitems : item ∈ s.mClientToDataItems.vals client' ↔ item ∈ held client' := by
      rw [← h.items]
      rfl
    grind
  · refine LocUnorderedSetMap.mem_trimOrRemove.trans ?_
    have hunused : item ∈ (s.mClientToDataItems.trimOrRemove {client} l.toFinset).2.2 ↔
        item ∈ held client ∧ item ∈ l.toFinset := by
      rw [← h.items]
      simp [LocUnorderedSetMap.trimOrRemove, LocUnorderedSetMap.getValSet]
    have hclients : client' ∈ s.mDataItemToClients.vals item ↔ item ∈ held client' := h.clients client' item
    grind

theorem Records.handleUnsubscribeAllReq (h : s.Records held) (client : Client) :
    (s.handleUnsubscribeAllReq client).1.Records (Function.update held client ∅) := by
  unfold OsObserver.handleUnsubscribeAllReq
  by_cases hempty : s.mClientToDataItems.getValSet client = ∅
  · grind [h.items, Function.update_eq_self]
  · simp only [if_neg hempty]
    refine ⟨fun client' => ?_, fun client' item => ?_, h.clientsFull.remove, h.itemsFull.trimOrRemove⟩
    · change Function.update s.mClientToDataItems.vals client ∅ client' = _
      by_cases he : client' = client
      · rw [he, Function.update_self, Function.update_self]
      · rw [Function.update_of_ne he, Function.update_of_ne he]
        exact h.items client'
    · refine LocUnorderedSetMap.mem_trimOrRemove.trans ?_
      have hclients : client' ∈ s.mDataItemToClients.vals item ↔ item ∈ held client' := h.clients client' item
      rw [h.items, hclients, Finset.mem_singleton]
      grind

theorem Records.handleNotify (h : s.Records held) (ds : List (NotifiedItem Item Val)) :
    (s.handleNotify ds).1.Records held := by
  obtain ⟨hc, hi, -⟩ := s.updateCaches_maps ds
  exact h.congr_cache hc hi

theorem Records.notified (h : s.Records held) (ds : List (NotifiedItem Item Val)) (client : Client) :
    (s.handleNotify ds).2.notified client =
      (held client).filter fun item => item ∈ (s.updateCaches ds).2 := by
  have hcached := (s.updateCaches_cached ds).2
  change (if client ∈ (s.updateCaches ds).2.biUnion s.mDataItemToClients.getValSet then _ else ∅) = _
  split
  next hclient =>
    unfold sendCachedDataItems
    grind [Function.update_self, h.items, Finset.filter_filter]
  next hclient =>
    refine (Finset.filter_eq_empty_iff.mpr fun item hitem hsent => hclient ?_).symm
    exact Finset.mem_biUnion.mpr ⟨item, hsent, (h.clients client item).mpr hitem⟩

end OsObserver

namespace ObserverRun

variable [DecidableEq Client] [DecidableEq Item]

/-- The maps are inverse to each other without an empty set, they hold what the clients hold, and a
`notify` to come reaches the clients of the items that it changes with these. -/
structure MapsAgree (s : ObserverRun Client Item Val) : Prop where
  inverse : ∀ client item, client ∈ s.observer.mDataItemToClients.getValSet item ↔
    item ∈ s.observer.mClientToDataItems.getValSet client
  clientsFull : s.observer.mClientToDataItems.NoEmpty
  itemsFull : s.observer.mDataItemToClients.NoEmpty
  held : ∀ client, s.observer.mClientToDataItems.getValSet client = s.held client
  delivers : ∀ ds client, (s.observer.handleNotify ds).2.notified client =
    (s.held client).filter fun item => item ∈ (s.observer.updateCaches ds).2

theorem mapsAgree_iff {s : ObserverRun Client Item Val} : s.MapsAgree ↔ s.observer.Records s.held := by
  constructor
  · intro h
    refine ⟨h.held, fun client item => ?_, h.clientsFull, h.itemsFull⟩
    rw [h.inverse, h.held]
  · intro h
    refine ⟨fun client item => ?_, h.clientsFull, h.itemsFull, h.items, h.notified⟩
    rw [h.clients, h.items]

/-- An `updateSubscription` comes from a client that holds no item. -/
def KeepsMaps (s : ObserverRun Client Item Val) : ObserverMsg Client Item Val → Prop
  | .updateSubscription _ l client => l = [] ∨ s.held client = ∅
  | _ => True

variable {s : ObserverRun Client Item Val}

variable {msg : ObserverMsg Client Item Val}

theorem records_receive (h : s.observer.Records s.held)
    (hmsg : s.KeepsMaps msg) : (s.receive msg).observer.Records (s.receive msg).held := by
  cases msg with
  | setSubscriptionObj => exact h.congr_cache rfl rfl
  | subscribe l client =>
    by_cases hl : l = []
    · subst hl
      have hsame : Function.update s.held client (s.held client ∪ ([] : List Item).toFinset) = s.held := by
        rw [List.toFinset_nil, Finset.union_empty, Function.update_eq_self]
      change s.observer.Records (Function.update s.held client _)
      rw [hsame]
      exact h
    · have hdone := h.handleSubscribeReq l client false
      simp only [receive, OsObserver.process, if_neg hl]
      exact hdone
  | requestData l client =>
    by_cases hl : l = []
    · subst hl
      have hsame : Function.update s.held client (s.held client ∪ ([] : List Item).toFinset) = s.held := by
        rw [List.toFinset_nil, Finset.union_empty, Function.update_eq_self]
      change s.observer.Records (Function.update s.held client _)
      rw [hsame]
      exact h
    · have hdone := h.handleSubscribeReq l client true
      simp only [receive, OsObserver.process, if_neg hl]
      exact hdone
  | updateSubscription walk l client =>
    by_cases hl : l = []
    · subst hl
      exact h
    · have hdone := h.handleUpdateSubscriptionReq walk hl (hmsg.resolve_left hl)
      simp only [receive, OsObserver.process, ObserverMsg.holds, if_neg hl]
      exact hdone
  | unsubscribe l client =>
    by_cases hl : l = []
    · subst hl
      have hsame : Function.update s.held client (s.held client \ ([] : List Item).toFinset) = s.held := by
        rw [List.toFinset_nil, Finset.sdiff_empty, Function.update_eq_self]
      change s.observer.Records (Function.update s.held client _)
      rw [hsame]
      exact h
    · have hdone := h.handleUnsubscribeReq l client
      simp only [receive, OsObserver.process, if_neg hl]
      exact hdone
  | unsubscribeAll client => exact h.handleUnsubscribeAllReq client
  | notify ds =>
    by_cases hl : ds = []
    · subst hl
      exact h
    · have hdone := h.handleNotify ds
      simp only [receive, OsObserver.process, if_neg hl]
      exact hdone

theorem not_mapsAgree_receive (h : s.observer.Records s.held)
    (hmsg : ¬s.KeepsMaps msg) : ¬(s.receive msg).MapsAgree := by
  rw [mapsAgree_iff]
  cases msg with
  | updateSubscription walk l client =>
    obtain ⟨hl, hsome⟩ := not_or.mp hmsg
    have hdone := h.not_records_update walk hl hsome
    simp only [receive, OsObserver.process, ObserverMsg.holds, if_neg hl]
    exact hdone
  | _ => exact absurd trivial hmsg

/-- The maps stay in step along exactly the runs in which only clients without items update their
subscription. -/
theorem mapsAgree_iff_keepsMaps (msgs : List (ObserverMsg Client Item Val)) :
    Always step MapsAgree ({} : ObserverRun Client Item Val) msgs ↔
      OpsMeet step KeepsMaps ({} : ObserverRun Client Item Val) msgs := by
  have first : ({} : ObserverRun Client Item Val).observer.Records fun _ => ∅ := OsObserver.records_empty
  refine @always_iff _ _ step (fun _ _ => True) (fun s => s.observer.Records s.held) MapsAgree KeepsMaps
    ?_ ?_ ?_ _ _ first (opsMeet_true _ _)
  · intro s h
    exact mapsAgree_iff.mpr h
  · intro s msg h _ hmsg
    exact ⟨s.receive msg, rfl, records_receive h hmsg⟩
  · intro s msg h _ hmsg
    exact ⟨s.receive msg, rfl, not_mapsAgree_receive h hmsg⟩

/-- One client keeps an item of its own and drops another. -/
def overlapping : List (ObserverMsg Nat Nat Nat) :=
  [.subscribe [1, 2] 7, .updateSubscription .all [2, 3] 7]

theorem overlapping_apart : ¬Always step MapsAgree ({} : ObserverRun Nat Nat Nat) overlapping := by
  intro h
  have last := ((h.2 _ rfl).2 _ rfl).inverse 7 1
  revert last
  decide

end ObserverRun

end DeviceHal.Gps
