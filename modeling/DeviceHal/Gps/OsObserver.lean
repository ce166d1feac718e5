import Mathlib.Data.Finset.Union
import DeviceHal.Lib.Run

namespace DeviceHal.Gps

universe u v

/-- A map from keys to sets of values. A key that is absent has no values. -/
structure LocUnorderedSetMap (K : Type u) (V : Type v) where
  keys : Finset K
  vals : K → Finset V
  absent : ∀ k, k ∉ keys → vals k = ∅

/-- `removeAndReturnInterset` goes on from an iterator whose element it has erased. It has met a
common value by then; which of the others it still meets is open. -/
structure ErasedWalk (V : Type v) where
  meets : Finset V → Finset V
  meets_subset : ∀ common, meets common ⊆ common
  meets_nonempty : ∀ common, common.Nonempty → (meets common).Nonempty

def ErasedWalk.all {V : Type v} : ErasedWalk V := ⟨id, fun _ _ h => h, fun _ h => h⟩

/-- The common values, and what is left of the two sets. -/
def removeAndReturnInterset {V : Type v} [DecidableEq V] (walk : ErasedWalk V) (s1 s2 : Finset V) :
    Finset V × Finset V × Finset V :=
  let common := walk.meets (s1 ∩ s2)
  (common, s1 \ common, s2 \ common)

namespace LocUnorderedSetMap

variable {K : Type u} {V : Type v}

def empty : LocUnorderedSetMap K V := ⟨∅, fun _ => ∅, fun _ _ => rfl⟩

def getValSet (m : LocUnorderedSetMap K V) (key : K) : Finset V := m.vals key

def getKeys (m : LocUnorderedSetMap K V) : Finset K := m.keys

def NoEmpty (m : LocUnorderedSetMap K V) : Prop := ∀ k ∈ m.keys, m.vals k ≠ ∅

variable [DecidableEq K]

variable {m : LocUnorderedSetMap K V}

theorem mem_keys_of_mem {k : K} {v : V} (hv : v ∈ m.vals k) : k ∈ m.keys := by
  by_contra hk
  have hempty := m.absent k hk
  rw [hempty] at hv
  exact absurd hv (Finset.notMem_empty v)

theorem NoEmpty.mem_keys_iff (h : m.NoEmpty) {k : K} : k ∈ m.keys ↔ ∃ v, v ∈ m.vals k := by
  constructor
  · intro hk
    exact Finset.nonempty_iff_ne_empty.mpr (h k hk)
  · rintro ⟨v, hv⟩
    exact mem_keys_of_mem hv

def remove (m : LocUnorderedSetMap K V) (key : K) : LocUnorderedSetMap K V where
  keys := m.keys.erase key
  vals := Function.update m.vals key ∅
  absent := by
    intro k hk
    by_cases he : k = key
    · rw [he, Function.update_self]
    · rw [Function.update_of_ne he]
      exact m.absent k fun hmem => hk (Finset.mem_erase.mpr ⟨he, hmem⟩)

theorem NoEmpty.remove {key : K} (h : m.NoEmpty) : (m.remove key).NoEmpty := by
  intro k hk
  obtain ⟨hne, hmem⟩ := Finset.mem_erase.mp hk
  have hvals : (m.remove key).vals k = m.vals k := Function.update_of_ne hne ..
  rw [hvals]
  exact h k hmem

variable [DecidableEq V]

def emptied (m : LocUnorderedSetMap K V) (rVals : Finset V) (key : K) : Bool := m.vals key \ rVals = ∅

/-- The entries of `keys` without `rVals`, an entry that becomes empty being removed; the keys of
the removed entries and the values taken. The key of an entry just removed is read from it. -/
def trimOrRemove (m : LocUnorderedSetMap K V) (keys : Finset K) (rVals : Finset V) :
    LocUnorderedSetMap K V × Finset K × Finset V :=
  let goneKeys := (m.keys ∩ keys).filter fun key => m.emptied rVals key
  let trimmed : LocUnorderedSetMap K V :=
    { keys := m.keys \ goneKeys
      vals := fun key => if key ∈ keys then m.vals key \ rVals else m.vals key
      absent := by
        intro k hk
        by_cases hkeys : k ∈ keys
        · rw [if_pos hkeys]
          by_cases hm : k ∈ m.keys
          · grind [emptied]
          · rw [m.absent k hm, Finset.empty_sdiff]
        · rw [if_neg hkeys]
          refine m.absent k fun hm => hk (Finset.mem_sdiff.mpr ⟨hm, fun hgone => hkeys ?_⟩)
          exact (Finset.mem_inter.mp (Finset.mem_filter.mp hgone).1).2 }
  (trimmed, goneKeys, keys.biUnion fun key => m.vals key ∩ rVals)

/-- Adds `newVals` to the entry of a key, and whether the entry is new. -/
def add (m : LocUnorderedSetMap K V) (key : K) (newVals : Finset V) : LocUnorderedSetMap K V × Bool :=
  if newVals = ∅ then (m, false)
  else
    ({ keys := insert key m.keys
       vals := Function.update m.vals key (m.vals key ∪ newVals)
       absent := by
        intro k hk
        have hne : k ≠ key := fun he => hk (he ▸ Finset.mem_insert_self ..)
        rw [Function.update_of_ne hne]
        exact m.absent k fun hmem => hk (Finset.mem_insert_of_mem hmem) }, key ∉ m.keys)

/-- Adds `newVals` to each entry of `keys`, with the keys that are new. -/
def addEach (m : LocUnorderedSetMap K V) (keys : Finset K) (newVals : Finset V) :
    LocUnorderedSetMap K V × Finset K :=
  if newVals = ∅ then (m, ∅)
  else
    ({ keys := m.keys ∪ keys
       vals := fun key => if key ∈ keys then m.vals key ∪ newVals else m.vals key
       absent := by
        intro k hk
        rw [Finset.mem_union, not_or] at hk
        rw [if_neg hk.2]
        exact m.absent k hk.1 }, keys \ m.keys)

/-- Puts `newVals` under a key; returns the values of the intersection, and what is left of
`newVals`. -/
def update (m : LocUnorderedSetMap K V) (walk : ErasedWalk V) (key : K) (newVals : Finset V) :
    LocUnorderedSetMap K V × Finset V × Finset V :=
  if newVals = ∅ then (m.remove key, ∅, newVals)
  else
    let r := removeAndReturnInterset walk (m.vals key) newVals
    ({ keys := insert key m.keys
       vals := Function.update m.vals key newVals
       absent := by
        intro k hk
        have hne : k ≠ key := fun he => hk (he ▸ Finset.mem_insert_self ..)
        rw [Function.update_of_ne hne]
        exact m.absent k fun hmem => hk (Finset.mem_insert_of_mem hmem) }, r.1, r.2.2)

variable {m : LocUnorderedSetMap K V} {k key : K} {keys : Finset K} {v : V} {rVals newVals : Finset V}

theorem mem_trimOrRemove :
    v ∈ (m.trimOrRemove keys rVals).1.vals k ↔ v ∈ m.vals k ∧ ¬(k ∈ keys ∧ v ∈ rVals) := by
  change v ∈ (if k ∈ keys then m.vals k \ rVals else m.vals k) ↔ _
  split
  next hk => simp [hk]
  next hk => simp [hk]

theorem mem_addEach (hne : newVals ≠ ∅) :
    v ∈ (m.addEach keys newVals).1.vals k ↔ v ∈ m.vals k ∨ k ∈ keys ∧ v ∈ newVals := by
  grind [addEach]

theorem NoEmpty.trimOrRemove (h : m.NoEmpty) : (m.trimOrRemove keys rVals).1.NoEmpty := by
  intro k hk
  obtain ⟨hmem, hgone⟩ := Finset.mem_sdiff.mp hk
  change (if k ∈ keys then m.vals k \ rVals else m.vals k) ≠ ∅
  split
  next hkeys =>
    grind [emptied]
  next => exact h k hmem

theorem NoEmpty.add (h : m.NoEmpty) : (m.add key newVals).1.NoEmpty := by
  unfold LocUnorderedSetMap.add
  split
  next => exact h
  next hne =>
    intro k hk
    change Function.update m.vals key (m.vals key ∪ newVals) k ≠ ∅
    by_cases he : k = key
    · grind
    · rw [Function.update_of_ne he]
      exact h k ((Finset.mem_insert.mp hk).resolve_left he)

theorem NoEmpty.addEach (h : m.NoEmpty) : (m.addEach keys newVals).1.NoEmpty := by
  unfold LocUnorderedSetMap.addEach
  split
  next => exact h
  next hne =>
    intro k hk
    change (if k ∈ keys then m.vals k ∪ newVals else m.vals k) ≠ ∅
    split
    next => exact fun hempty => hne (Finset.union_eq_empty.mp hempty).2
    next hkeys => exact h k ((Finset.mem_union.mp hk).resolve_right hkeys)

theorem NoEmpty.update {walk : ErasedWalk V} (h : m.NoEmpty) : (m.update walk key newVals).1.NoEmpty := by
  unfold LocUnorderedSetMap.update
  split
  next => exact h.remove
  next hne =>
    intro k hk
    change Function.update m.vals key newVals k ≠ ∅
    by_cases he : k = key
    · rw [he, Function.update_self]
      exact hne
    · rw [Function.update_of_ne he]
      exact h k ((Finset.mem_insert.mp hk).resolve_left he)

theorem vals_add : (m.add key newVals).1.vals = Function.update m.vals key (m.vals key ∪ newVals) := by
  unfold LocUnorderedSetMap.add
  split
  next hempty => rw [hempty, Finset.union_empty, Function.update_eq_self]
  next => rfl

theorem vals_update {walk : ErasedWalk V} :
    (m.update walk key newVals).1.vals = Function.update m.vals key newVals := by
  unfold LocUnorderedSetMap.update
  split
  next hempty => rw [hempty]; rfl
  next => rfl

end LocUnorderedSetMap

open Lib

universe w

/-- A call of the `IDataItemSubscription` of the framework, with the items of its list. -/
inductive FrameworkCall (Item : Type v) where
  | subscribe (items : Finset Item)
  | requestData (items : Finset Item)
  | unsubscribe (items : Finset Item)

/-- A data item of a `notify`, with what is decided outside: whether the system status records it,
whether a new item can be made for the cache, and whether a copy changes the cached one. -/
structure NotifiedItem (Item : Type v) (Val : Type w) where
  id : Item
  value : Val
  recorded : Bool
  created : Bool
  copied : Bool

/-- What the processing of a message sends: to each client the items of its `notify` (none: no
call), and the calls of the framework in their order. -/
structure Sent (Client : Type u) (Item : Type v) where
  notified : Client → Finset Item := fun _ => ∅
  framework : List (FrameworkCall Item) := []

structure OsObserver (Client : Type u) (Item : Type v) (Val : Type w) where
  mSubscriptionObj : Bool := false
  mClientToDataItems : LocUnorderedSetMap Client Item := .empty
  mDataItemToClients : LocUnorderedSetMap Item Client := .empty
  mDataItemCache : Item → Option Val := fun _ => none

namespace OsObserver

variable {Client : Type u} {Item : Type v} {Val : Type w} [DecidableEq Client] [DecidableEq Item]

def sendCachedDataItems (s : OsObserver Client Item Val) (items : Finset Item) (client : Client) :
    Client → Finset Item :=
  Function.update (fun _ => ∅) client (items.filter fun item => (s.mDataItemCache item).isSome)

/-- `SetSubsObj::proc`. -/
def setSubsObj (s : OsObserver Client Item Val) : OsObserver Client Item Val × Sent Client Item :=
  let dis := s.mDataItemToClients.getKeys
  ({ s with mSubscriptionObj := true },
    { framework := if dis = ∅ then [] else [.subscribe dis, .requestData dis] })

/-- `HandleSubscribeReq::proc`. -/
def handleSubscribeReq (s : OsObserver Client Item Val) (l : List Item) (client : Client)
    (toRequestData : Bool) : OsObserver Client Item Val × Sent Client Item :=
  let dataItemSet := l.toFinset
  let added := s.mDataItemToClients.addEach dataItemSet {client}
  let dataItemsToSubscribe := added.2
  let framework :=
    if s.mSubscriptionObj then
      if toRequestData then [.requestData dataItemSet]
      else if dataItemsToSubscribe = ∅ then [] else [.subscribe dataItemsToSubscribe]
    else []
  ({ s with
      mDataItemToClients := added.1
      mClientToDataItems := (s.mClientToDataItems.add client dataItemSet).1 },
    { notified := s.sendCachedDataItems dataItemSet client, framework := framework })

/-- `HandleUpdateSubscriptionReq::proc`. -/
def handleUpdateSubscriptionReq (s : OsObserver Client Item Val) (walk : ErasedWalk Item)
    (l : List Item) (client : Client) : OsObserver Client Item Val × Sent Client Item :=
  let updated := s.mClientToDataItems.update walk client l.toFinset
  let dataItemSet := updated.2.2
  let trimmed := s.mDataItemToClients.trimOrRemove updated.2.1 {client}
  let dataItemsToUnsubscribe := trimmed.2.1
  let added := trimmed.1.addEach dataItemSet {client}
  let dataItemsToSubscribe := added.2
  let framework :=
    if s.mSubscriptionObj then
      (if dataItemsToSubscribe = ∅ then [] else [.subscribe dataItemsToSubscribe]) ++
        if dataItemsToUnsubscribe = ∅ then [] else [.unsubscribe dataItemsToUnsubscribe]
    else []
  ({ s with mDataItemToClients := added.1, mClientToDataItems := updated.1 },
    { notified := s.sendCachedDataItems dataItemSet client, framework := framework })

/-- `HandleUnsubscribeReq::proc`. -/
def handleUnsubscribeReq (s : OsObserver Client Item Val) (l : List Item) (client : Client) :
    OsObserver Client Item Val × Sent Client Item :=
  let byClient := s.mClientToDataItems.trimOrRemove {client} l.toFinset
  let dataItemsUnusedByClient := byClient.2.2
  let byItem := s.mDataItemToClients.trimOrRemove dataItemsUnusedByClient {client}
  let dataItemsToUnsubscribe := byItem.2.1
  ({ s with mDataItemToClients := byItem.1, mClientToDataItems := byClient.1 },
    { framework :=
        if s.mSubscriptionObj ∧ dataItemsToUnsubscribe ≠ ∅ then [.unsubscribe dataItemsToUnsubscribe]
        else [] })

/-- `HandleUnsubscribeAllReq::proc`. -/
def handleUnsubscribeAllReq (s : OsObserver Client Item Val) (client : Client) :
    OsObserver Client Item Val × Sent Client Item :=
  let diByClient := s.mClientToDataItems.getValSet client
  if diByClient = ∅ then (s, {})
  else
    let byItem := s.mDataItemToClients.trimOrRemove diByClient {client}
    let dataItemsToUnsubscribe := byItem.2.1
    ({ s with
        mDataItemToClients := byItem.1
        mClientToDataItems := s.mClientToDataItems.remove client },
      { framework :=
          if dataItemsToUnsubscribe ≠ ∅ ∧ s.mSubscriptionObj then [.unsubscribe dataItemsToUnsubscribe]
          else [] })

def updateCache (s : OsObserver Client Item Val) (d : NotifiedItem Item Val) :
    OsObserver Client Item Val × Bool :=
  let stored := { s with mDataItemCache := Function.update s.mDataItemCache d.id (some d.value) }
  if d.recorded then
    match s.mDataItemCache d.id with
    | none => if d.created then (stored, true) else (s, false)
    | some _ => if d.copied then (stored, true) else (s, false)
  else (s, false)

/-- The cache after a list of items, and the ids of those that changed it. -/
def updateCaches (s : OsObserver Client Item Val) :
    List (NotifiedItem Item Val) → OsObserver Client Item Val × Finset Item
  | [] => (s, ∅)
  | d :: ds =>
    let first := s.updateCache d
    let rest := first.1.updateCaches ds
    (rest.1, if first.2 then insert d.id rest.2 else rest.2)

/-- `HandleNotify::proc`. -/
def handleNotify (s : OsObserver Client Item Val) (ds : List (NotifiedItem Item Val)) :
    OsObserver Client Item Val × Sent Client Item :=
  let updated := s.updateCaches ds
  let dataItemIdsToBeSent := updated.2
  let clientSet := dataItemIdsToBeSent.biUnion s.mDataItemToClients.getValSet
  (updated.1,
    { notified := fun client =>
        if client ∈ clientSet then
          updated.1.sendCachedDataItems
            ((s.mClientToDataItems.getValSet client).filter fun item => item ∈ dataItemIdsToBeSent)
            client client
        else ∅ })

end OsObserver

/-- A message as it is processed. An empty list is turned down before a message is made. -/
inductive ObserverMsg (Client : Type u) (Item : Type v) (Val : Type w) where
  | setSubscriptionObj
  | subscribe (l : List Item) (client : Client)
  | requestData (l : List Item) (client : Client)
  | updateSubscription (walk : ErasedWalk Item) (l : List Item) (client : Client)
  | unsubscribe (l : List Item) (client : Client)
  | unsubscribeAll (client : Client)
  | notify (dlist : List (NotifiedItem Item Val))

namespace OsObserver

variable {Client : Type u} {Item : Type v} {Val : Type w} [DecidableEq Client] [DecidableEq Item]

def process (s : OsObserver Client Item Val) :
    ObserverMsg Client Item Val → OsObserver Client Item Val × Sent Client Item
  | .setSubscriptionObj => s.setSubsObj
  | .subscribe l client => if l = [] then (s, {}) else s.handleSubscribeReq l client false
  | .requestData l client => if l = [] then (s, {}) else s.handleSubscribeReq l client true
  | .updateSubscription walk l client =>
    if l = [] then (s, {}) else s.handleUpdateSubscriptionReq walk l client
  | .unsubscribe l client => if l = [] then (s, {}) else s.handleUnsubscribeReq l client
  | .unsubscribeAll client => s.handleUnsubscribeAllReq client
  | .notify dlist => if dlist = [] then (s, {}) else s.handleNotify dlist

end OsObserver

namespace ObserverMsg

variable {Client : Type u} {Item : Type v} {Val : Type w} [DecidableEq Client] [DecidableEq Item]

/-- The items each client holds after a message. -/
def holds (held : Client → Finset Item) : ObserverMsg Client Item Val → Client → Finset Item
  | .subscribe l client => Function.update held client (held client ∪ l.toFinset)
  | .requestData l client => Function.update held client (held client ∪ l.toFinset)
  | .updateSubscription _ l client => if l = [] then held else Function.update held client l.toFinset
  | .unsubscribe l client => Function.update held client (held client \ l.toFinset)
  | .unsubscribeAll client => Function.update held client ∅
  | .setSubscriptionObj => held
  | .notify _ => held

/-- The items each client has asked for other than by `requestData`, and still holds. -/
def wants (wanted : Client → Finset Item) : ObserverMsg Client Item Val → Client → Finset Item
  | .requestData _ _ => wanted
  | msg => msg.holds wanted

def sender : ObserverMsg Client Item Val → Option Client
  | .subscribe _ client => some client
  | .requestData _ client => some client
  | .updateSubscription _ _ client => some client
  | .unsubscribe _ client => some client
  | .unsubscribeAll client => some client
  | .setSubscriptionObj => none
  | .notify _ => none

end ObserverMsg

/-- The items subscribed at the framework after a call. -/
def FrameworkCall.subscribes {Item : Type v} [DecidableEq Item] (items : Finset Item) :
    FrameworkCall Item → Finset Item
  | .subscribe l => items ∪ l
  | .requestData _ => items
  | .unsubscribe l => items \ l

def FrameworkCall.gone {Item : Type v} : FrameworkCall Item → Finset Item
  | .subscribe _ => ∅
  | .requestData _ => ∅
  | .unsubscribe l => l

/-- The observer beside what was asked of it and what it has asked of the framework. -/
structure ObserverRun (Client : Type u) (Item : Type v) (Val : Type w) where
  observer : OsObserver Client Item Val := {}
  held : Client → Finset Item := fun _ => ∅
  wanted : Client → Finset Item := fun _ => ∅
  framework : Finset Item := ∅
  /-- Items that were unsubscribed at the framework by the message of one client while another held
  them. -/
  taken : Client → Finset Item := fun _ => ∅

namespace ObserverRun

variable {Client : Type u} {Item : Type v} {Val : Type w} [DecidableEq Client] [DecidableEq Item]

def receive (s : ObserverRun Client Item Val) (msg : ObserverMsg Client Item Val) :
    ObserverRun Client Item Val :=
  let r := s.observer.process msg
  { observer := r.1
    held := msg.holds s.held
    wanted := msg.wants s.wanted
    framework := r.2.framework.foldl FrameworkCall.subscribes s.framework
    taken := fun client =>
      if msg.sender = some client then s.taken client
      else s.taken client ∪
        (s.held client).filter fun item => ∃ call ∈ r.2.framework, item ∈ call.gone }

def step (s : ObserverRun Client Item Val) (msg : ObserverMsg Client Item Val) :
    Option (ObserverRun Client Item Val) := some (s.receive msg)

end ObserverRun

end DeviceHal.Gps
