import DeviceHal.Gps.Subscriptions

namespace DeviceHal.Gps

open Lib

universe u v w

variable {Client : Type u} {Item : Type v} {Val : Type w}

namespace ObserverRun

/-- With a subscription object, what the clients want is subscribed at the framework. Only items
that are held are subscribed, and none was unsubscribed under a client that holds it. -/
structure FrameworkRight (s : ObserverRun Client Item Val) : Prop where
  covers : s.observer.mSubscriptionObj = true → ∀ client, s.wanted client ⊆ s.framework
  onlyHeld : ∀ item ∈ s.framework, ∃ client, item ∈ s.held client
  taken : ∀ client, s.taken client = ∅

/-- An update comes from a client that holds no item, and a held item that is asked for is
subscribed at the framework already. -/
def KeepsFramework (s : ObserverRun Client Item Val) : ObserverMsg Client Item Val → Prop
  | .subscribe l _ =>
    s.observer.mSubscriptionObj = true → ∀ item ∈ l, (∃ other, item ∈ s.held other) → item ∈ s.framework
  | .updateSubscription _ l client =>
    l = [] ∨ s.held client = ∅ ∧ (s.observer.mSubscriptionObj = true →
      ∀ item ∈ l, (∃ other, item ∈ s.held other) → item ∈ s.framework)
  | _ => True

instance [Fintype Client] [DecidableEq Item] (s : ObserverRun Client Item Val) :
    ∀ msg : ObserverMsg Client Item Val, Decidable (s.KeepsFramework msg)
  | .subscribe l _ => inferInstanceAs (Decidable (s.observer.mSubscriptionObj = true →
      ∀ item ∈ l, (∃ other, item ∈ s.held other) → item ∈ s.framework))
  | .updateSubscription _ l client => inferInstanceAs (Decidable (l = [] ∨ s.held client = ∅ ∧
      (s.observer.mSubscriptionObj = true →
        ∀ item ∈ l, (∃ other, item ∈ s.held other) → item ∈ s.framework)))
  | .setSubscriptionObj => isTrue trivial
  | .requestData _ _ => isTrue trivial
  | .unsubscribe _ _ => isTrue trivial
  | .unsubscribeAll _ => isTrue trivial
  | .notify _ => isTrue trivial

structure FrameworkInv (s : ObserverRun Client Item Val) : Prop extends FrameworkRight s where
  records : s.observer.Records s.held
  wantedHeld : ∀ client, s.wanted client ⊆ s.held client
  unset : s.observer.mSubscriptionObj = false → s.framework = ∅

variable {s : ObserverRun Client Item Val} {msg : ObserverMsg Client Item Val}

theorem new_frameworkInv : ({} : ObserverRun Client Item Val).FrameworkInv where
  covers := nofun
  onlyHeld item h := absurd h (Finset.notMem_empty item)
  taken _ := rfl
  records := OsObserver.records_empty
  wantedHeld _ := Finset.Subset.refl _
  unset _ := rfl

variable [DecidableEq Client] [DecidableEq Item]

theorem holds_other (held : Client → Finset Item) {client : Client} (h : msg.sender ≠ some client) :
    msg.holds held client = held client := by
  have hne : ∀ sender, msg.sender = some sender → client ≠ sender :=
    fun sender hs he => h (he ▸ hs)
  cases msg with
  | setSubscriptionObj => rfl
  | notify ds => rfl
  | updateSubscription walk l sender =>
    simp only [ObserverMsg.holds]
    split
    · rfl
    · exact Function.update_of_ne (hne sender rfl) ..
  | subscribe l sender => exact Function.update_of_ne (hne sender rfl) ..
  | requestData l sender => exact Function.update_of_ne (hne sender rfl) ..
  | unsubscribe l sender => exact Function.update_of_ne (hne sender rfl) ..
  | unsubscribeAll sender => exact Function.update_of_ne (hne sender rfl) ..

theorem wants_subset {wanted held : Client → Finset Item} (h : ∀ client, wanted client ⊆ held client)
    (client : Client) : msg.wants wanted client ⊆ msg.holds held client := by
  have hupdate : ∀ (sender : Client) (a b : Finset Item), a ⊆ b →
      Function.update wanted sender a client ⊆ Function.update held sender b client := by
    intro sender a b hab
    by_cases he : client = sender
    · rw [he, Function.update_self, Function.update_self]
      exact hab
    · rw [Function.update_of_ne he, Function.update_of_ne he]
      exact h client
  cases msg with
  | setSubscriptionObj => exact h client
  | notify ds => exact h client
  | subscribe l sender => exact hupdate sender _ _ (Finset.union_subset_union_left (h sender))
  | requestData l sender =>
    refine (h client).trans ?_
    change held client ⊆ Function.update held sender _ client
    grind
  | updateSubscription walk l sender =>
    simp only [ObserverMsg.wants, ObserverMsg.holds]
    grind
  | unsubscribe l sender => exact hupdate sender _ _ (Finset.sdiff_subset_sdiff (h sender) (Finset.Subset.refl _))
  | unsubscribeAll sender => exact hupdate sender _ _ (Finset.Subset.refl _)

/-- The calls of a message subscribe the items of `add` and unsubscribe those of `drop`. -/
structure Asks (calls : List (FrameworkCall Item)) (add drop : Finset Item) : Prop where
  subscribes : ∀ items, calls.foldl FrameworkCall.subscribes items = (items ∪ add) \ drop
  gone : ∀ call ∈ calls, call.gone ⊆ drop

theorem asks_nothing : Asks ([] : List (FrameworkCall Item)) ∅ ∅ := by
  refine ⟨fun items => ?_, fun call hcall => ?_⟩
  · rw [Finset.union_empty, Finset.sdiff_empty]
    rfl
  · cases hcall

theorem asks_requestData (items : Finset Item) : Asks [FrameworkCall.requestData items] ∅ ∅ := by
  refine ⟨fun items => ?_, fun call hcall => ?_⟩
  · rw [Finset.union_empty, Finset.sdiff_empty]
    rfl
  · cases List.mem_singleton.mp hcall
    exact Finset.empty_subset _

theorem asks_subscribe (add : Finset Item) :
    Asks (if add = ∅ then [] else [FrameworkCall.subscribe add]) add ∅ := by
  split
  next h =>
    subst h
    exact asks_nothing
  next =>
    refine ⟨fun items => ?_, fun call hcall => ?_⟩
    · rw [Finset.sdiff_empty]
      rfl
    · cases List.mem_singleton.mp hcall
      exact Finset.empty_subset _

theorem asks_unsubscribe (drop : Finset Item) :
    Asks (if drop = ∅ then [] else [FrameworkCall.unsubscribe drop]) ∅ drop := by
  split
  next h =>
    subst h
    exact asks_nothing
  next =>
    refine ⟨fun items => ?_, fun call hcall => ?_⟩
    · rw [Finset.union_empty]
      rfl
    · cases List.mem_singleton.mp hcall
      exact Finset.Subset.refl _

theorem FrameworkInv.receive (h : s.FrameworkInv) (hmsg : s.KeepsMaps msg) {add drop : Finset Item}
    (hobj : (s.receive msg).observer.mSubscriptionObj = s.observer.mSubscriptionObj)
    (hasks : Asks (s.observer.process msg).2.framework add drop)
    (hunset : s.observer.mSubscriptionObj = false → (s.observer.process msg).2.framework = [])
    (hadd : ∀ item ∈ add, ∃ client, item ∈ msg.holds s.held client)
    (hdrop : ∀ item ∈ drop, ∀ client, item ∉ msg.holds s.held client)
    (hkeep : ∀ item, item ∉ drop → (∃ client, item ∈ s.held client) →
      s.observer.mSubscriptionObj = true → ∃ client, item ∈ msg.holds s.held client)
    (hwant : s.observer.mSubscriptionObj = true → ∀ client, ∀ item ∈ msg.wants s.wanted client,
      item ∈ s.wanted client ∨ item ∈ s.framework ∨ item ∈ add) : (s.receive msg).FrameworkInv := by
  have hframework : (s.receive msg).framework = (s.framework ∪ add) \ drop := hasks.subscribes _
  have hempty : s.observer.mSubscriptionObj = false → (s.receive msg).framework = ∅ := by
    intro hoff
    have hnone : (s.receive msg).framework = s.framework := by
      change (s.observer.process msg).2.framework.foldl _ _ = _
      rw [hunset hoff]
      rfl
    rw [hnone]
    exact h.unset hoff
  refine ⟨⟨fun hon client item hitem => ?_, fun item hitem => ?_, fun client => ?_⟩,
    records_receive h.records hmsg, wants_subset h.wantedHeld, fun hoff => hempty (hobj.symm.trans hoff)⟩
  · rw [hobj] at hon
    have hheld : item ∈ msg.holds s.held client := wants_subset h.wantedHeld client hitem
    rw [hframework]
    refine Finset.mem_sdiff.mpr ⟨Finset.mem_union.mpr ?_, fun hgone => hdrop item hgone client hheld⟩
    rcases hwant hon client item hitem with hold | hframe | hnew
    · exact Or.inl (h.covers hon client hold)
    · exact Or.inl hframe
    · exact Or.inr hnew
  · cases hon : s.observer.mSubscriptionObj with
    | false =>
      grind
    | true =>
      rw [hframework] at hitem
      obtain ⟨hin, hnot⟩ := Finset.mem_sdiff.mp hitem
      rcases Finset.mem_union.mp hin with hold | hnew
      · exact hkeep item hnot (h.onlyHeld item hold) hon
      · exact hadd item hnew
  · change (if msg.sender = some client then s.taken client else s.taken client ∪ _) = ∅
    split
    next => exact h.taken client
    next hother =>
      rw [h.taken client, Finset.empty_union, Finset.filter_eq_empty_iff]
      rintro item hitem ⟨call, hcall, hgone⟩
      refine hdrop item (hasks.gone call hcall hgone) client ?_
      rw [holds_other s.held hother]
      exact hitem

theorem FrameworkInv.setSubscriptionObj (h : s.FrameworkInv) :
    (s.receive .setSubscriptionObj).FrameworkInv := by
  have hkeys : ∀ item, item ∈ s.observer.mDataItemToClients.getKeys ↔ ∃ client, item ∈ s.held client :=
    fun item => h.records.mem_keys_iff
  have hframework : (s.receive .setSubscriptionObj).framework =
      s.framework ∪ s.observer.mDataItemToClients.getKeys := by
    change List.foldl _ _ (if s.observer.mDataItemToClients.getKeys = ∅ then [] else _) = _
    split
    next hnone => rw [hnone, Finset.union_empty]; rfl
    next => rfl
  refine ⟨⟨fun _ client item hitem => ?_, fun item hitem => ?_, fun client => ?_⟩,
    records_receive h.records trivial, h.wantedHeld, nofun⟩
  · rw [hframework]
    exact Finset.mem_union_right _ ((hkeys item).mpr ⟨client, h.wantedHeld client hitem⟩)
  · rw [hframework] at hitem
    rcases Finset.mem_union.mp hitem with hold | hnew
    · exact h.onlyHeld item hold
    · exact (hkeys item).mp hnew
  · change s.taken client ∪ _ = ∅
    rw [h.taken client, Finset.empty_union, Finset.filter_eq_empty_iff]
    rintro item - ⟨call, hcall, hgone⟩
    have hcalls : call ∈ (if s.observer.mDataItemToClients.getKeys = ∅ then []
        else [FrameworkCall.subscribe s.observer.mDataItemToClients.getKeys,
          .requestData s.observer.mDataItemToClients.getKeys]) := hcall
    split at hcalls
    next => cases hcalls
    next =>
      rcases List.mem_cons.mp hcalls with rfl | hlast
      · exact Finset.notMem_empty item hgone
      · cases List.mem_singleton.mp hlast
        exact Finset.notMem_empty item hgone

theorem FrameworkInv.quiet (h : s.FrameworkInv) (hmsg : s.KeepsMaps msg)
    (hobj : (s.receive msg).observer.mSubscriptionObj = s.observer.mSubscriptionObj)
    (hasks : (s.observer.process msg).2.framework = [])
    (hheld : ∀ client, s.held client ⊆ msg.holds s.held client)
    (hwant : s.observer.mSubscriptionObj = true → ∀ client, msg.wants s.wanted client ⊆ s.wanted client) :
    (s.receive msg).FrameworkInv := by
  refine h.receive hmsg hobj (hasks ▸ asks_nothing) (fun _ => hasks) (fun item hitem => ?_)
    (fun item hitem => ?_) (fun item _ hold _ => ?_) fun hon client item hitem => ?_
  · exact absurd hitem (Finset.notMem_empty item)
  · exact absurd hitem (Finset.notMem_empty item)
  · grind
  · exact Or.inl (hwant hon client hitem)

theorem subset_update_union (held : Client → Finset Item) (sender client : Client) (items : Finset Item) :
    held client ⊆ Function.update held sender (held sender ∪ items) client := by
  grind

variable {sender : Client}

variable {items : Finset Item}

theorem FrameworkInv.mem_emptied (h : s.FrameworkInv) {item : Item}
    (hitem : item ∈ (s.observer.mDataItemToClients.trimOrRemove items {sender}).2.1) :
    item ∈ items ∧ ∀ client, item ∈ s.held client → client = sender := by
  obtain ⟨hmem, hemptied⟩ := Finset.mem_filter.mp hitem
  have hempty : s.observer.mDataItemToClients.vals item \ {sender} = ∅ := by
    simpa [LocUnorderedSetMap.emptied] using hemptied
  refine ⟨(Finset.mem_inter.mp hmem).2, fun client hclient => ?_⟩
  have hin : client ∈ s.observer.mDataItemToClients.vals item := (h.records.clients client item).mpr hclient
  have hsub := Finset.sdiff_eq_empty_iff_subset.mp hempty hin
  exact Finset.mem_singleton.mp hsub

theorem FrameworkInv.held_of_not_emptied (h : s.FrameworkInv)
    {item : Item} (hitem : item ∉ (s.observer.mDataItemToClients.trimOrRemove items {sender}).2.1)
    (hin : item ∈ items) (hheld : item ∈ s.held sender) :
    ∃ client, client ≠ sender ∧ item ∈ s.held client := by
  by_contra hnone
  push Not at hnone
  refine hitem (Finset.mem_filter.mpr ⟨Finset.mem_inter.mpr ⟨?_, hin⟩, ?_⟩)
  · exact (h.records.mem_keys_iff).mpr ⟨sender, hheld⟩
  · have hempty : s.observer.mDataItemToClients.vals item \ {sender} = ∅ := by
      refine Finset.sdiff_eq_empty_iff_subset.mpr fun client hclient => Finset.mem_singleton.mpr ?_
      by_contra hne
      exact hnone client hne ((h.records.clients client item).mp hclient)
    simpa [LocUnorderedSetMap.emptied] using hempty

theorem FrameworkInv.giveBack (h : s.FrameworkInv) (hmsg : s.KeepsMaps msg) (items : Finset Item)
    (sender : Client)
    (hobj : (s.receive msg).observer.mSubscriptionObj = s.observer.mSubscriptionObj)
    (hframework : (s.observer.process msg).2.framework = if s.observer.mSubscriptionObj = true then
      (if (s.observer.mDataItemToClients.trimOrRemove items {sender}).2.1 = ∅ then []
        else [.unsubscribe (s.observer.mDataItemToClients.trimOrRemove items {sender}).2.1]) else [])
    (hholds : msg.holds s.held = Function.update s.held sender (s.held sender \ items))
    (hwants : msg.wants s.wanted = Function.update s.wanted sender (s.wanted sender \ items)) :
    (s.receive msg).FrameworkInv := by
  have hwant : ∀ client, msg.wants s.wanted client ⊆ s.wanted client := by
    intro client
    rw [hwants]
    by_cases he : client = sender
    · rw [he, Function.update_self]
      exact Finset.sdiff_subset
    · rw [Function.update_of_ne he]
  cases hon : s.observer.mSubscriptionObj with
  | false =>
    have hnothing : (s.observer.process msg).2.framework = [] := by
      rw [hframework, if_neg (by rw [hon]; exact Bool.false_ne_true)]
    have hasks : Asks (s.observer.process msg).2.framework ∅ ∅ := hnothing ▸ asks_nothing
    refine h.receive hmsg hobj hasks (fun _ => hnothing) ?_ ?_ ?_ ?_
    · exact fun item hitem => absurd hitem (Finset.notMem_empty item)
    · exact fun item hitem => absurd hitem (Finset.notMem_empty item)
    · simp [hon]
    · exact fun _ client item hitem => Or.inl (hwant client hitem)
  | true =>
    rw [if_pos hon] at hframework
    refine h.receive hmsg hobj (hframework ▸ asks_unsubscribe _) (fun hoff => ?_) ?_ ?_ ?_ ?_
    · rw [hon] at hoff
      cases hoff
    · exact fun item hitem => absurd hitem (Finset.notMem_empty item)
    · intro item hgone client hclient
      obtain ⟨hin, honly⟩ := h.mem_emptied hgone
      rw [hholds] at hclient
      grind
    · intro item hstays hold _
      obtain ⟨client, hclient⟩ := hold
      have hother : ∃ client, client ≠ sender ∧ item ∈ s.held client ∨ item ∈ s.held client ∧ item ∉ items := by
        by_cases he : client = sender
        · subst he
          by_cases hin : item ∈ items
          · obtain ⟨other, hne, hother⟩ := h.held_of_not_emptied hstays hin hclient
            exact ⟨other, Or.inl ⟨hne, hother⟩⟩
          · exact ⟨client, Or.inr ⟨hclient, hin⟩⟩
        · exact ⟨client, Or.inl ⟨he, hclient⟩⟩
      obtain ⟨other, hother⟩ := hother
      refine ⟨other, ?_⟩
      rw [hholds]
      by_cases he : other = sender
      · grind
      grind
    · exact fun _ client item hitem => Or.inl (hwant client hitem)

theorem FrameworkInv.enter (h : s.FrameworkInv) (hmsg : s.KeepsMaps msg) (items : Finset Item)
    (sender : Client)
    (hobj : (s.receive msg).observer.mSubscriptionObj = s.observer.mSubscriptionObj)
    (hframework : (s.observer.process msg).2.framework = if s.observer.mSubscriptionObj = true then
      (if items \ s.observer.mDataItemToClients.getKeys = ∅ then []
        else [.subscribe (items \ s.observer.mDataItemToClients.getKeys)]) else [])
    (hholds : msg.holds s.held = Function.update s.held sender (s.held sender ∪ items))
    (hwants : msg.wants s.wanted = Function.update s.wanted sender (s.wanted sender ∪ items))
    (hcovered : s.observer.mSubscriptionObj = true →
      ∀ item ∈ items, (∃ other, item ∈ s.held other) → item ∈ s.framework) :
    (s.receive msg).FrameworkInv := by
  have hheld : ∀ client, s.held client ⊆ msg.holds s.held client := by
    intro client
    rw [hholds]
    exact subset_update_union s.held sender client items
  cases hon : s.observer.mSubscriptionObj with
  | false =>
    have hoff : ¬s.observer.mSubscriptionObj = true := by
      rw [hon]
      exact Bool.false_ne_true
    rw [if_neg hoff] at hframework
    exact h.quiet hmsg hobj hframework hheld fun hon' => absurd hon' hoff
  | true =>
    rw [if_pos hon] at hframework
    refine h.receive hmsg hobj (hframework ▸ asks_subscribe _) (fun hoff => ?_) ?_ ?_ ?_ ?_
    · rw [hon] at hoff
      cases hoff
    · intro item hitem
      refine ⟨sender, ?_⟩
      rw [hholds, Function.update_self]
      exact Finset.mem_union_right _ (Finset.mem_sdiff.mp hitem).1
    · exact fun item hitem => absurd hitem (Finset.notMem_empty item)
    · grind
    · intro _ client item hitem
      rw [hwants] at hitem
      by_cases he : client = sender
      · rw [he, Function.update_self] at hitem
        rcases Finset.mem_union.mp hitem with hold | hnew
        · exact Or.inl (he ▸ hold)
        · by_cases hkey : item ∈ s.observer.mDataItemToClients.getKeys
          · exact Or.inr (Or.inl (hcovered hon item hnew (h.records.mem_keys_iff.mp hkey)))
          · exact Or.inr (Or.inr (Finset.mem_sdiff.mpr ⟨hnew, hkey⟩))
      grind

theorem addEach_newKeys {m : LocUnorderedSetMap Item Client} (sender : Client) :
    (m.addEach items {sender}).2 = items \ m.getKeys := by
  unfold LocUnorderedSetMap.addEach
  rw [if_neg (Finset.singleton_ne_empty sender)]
  rfl

theorem FrameworkInv.subscribe (h : s.FrameworkInv) {l : List Item}
    (hmsg : s.KeepsFramework (.subscribe l sender)) : (s.receive (.subscribe l sender)).FrameworkInv := by
  by_cases hl : l = []
  · subst hl
    refine h.quiet trivial rfl rfl (fun client => subset_update_union s.held sender client _) fun _ client => ?_
    change Function.update s.wanted sender (s.wanted sender ∪ ([] : List Item).toFinset) client ⊆ _
    simp
  · have hprocess : s.observer.process (.subscribe l sender) = s.observer.handleSubscribeReq l sender false :=
      if_neg hl
    refine h.enter trivial l.toFinset sender ?_ ?_ rfl rfl fun hon item hitem =>
      hmsg hon item (List.mem_toFinset.mp hitem)
    · change (s.observer.process _).1.mSubscriptionObj = _
      rw [hprocess]
      rfl
    · rw [hprocess, ← addEach_newKeys sender]
      rfl

theorem FrameworkInv.requestData (h : s.FrameworkInv) (l : List Item) (sender : Client) :
    (s.receive (.requestData l sender)).FrameworkInv := by
  have hheld := fun client => subset_update_union s.held sender client l.toFinset
  by_cases hl : l = []
  · subst hl
    exact h.quiet trivial rfl rfl hheld fun _ client => Finset.Subset.refl _
  · have hprocess : s.observer.process (.requestData l sender) = s.observer.handleSubscribeReq l sender true :=
      if_neg hl
    have hobj : (s.receive (.requestData l sender)).observer.mSubscriptionObj =
        s.observer.mSubscriptionObj := by
      change (s.observer.process _).1.mSubscriptionObj = _
      rw [hprocess]
      rfl
    have hasks : Asks (s.observer.process (.requestData l sender)).2.framework ∅ ∅ := by
      rw [hprocess]
      unfold OsObserver.handleSubscribeReq
      cases s.observer.mSubscriptionObj with
      | false => exact asks_nothing
      | true => exact asks_requestData _
    refine h.receive trivial hobj hasks (fun hoff => ?_) ?_ ?_ (fun item _ hold _ => ?_)
      fun _ client item hitem => Or.inl hitem
    · rw [hprocess]
      unfold OsObserver.handleSubscribeReq
      rw [hoff]
      rfl
    · exact fun item hitem => absurd hitem (Finset.notMem_empty item)
    · exact fun item hitem => absurd hitem (Finset.notMem_empty item)
    · obtain ⟨client, hclient⟩ := hold
      exact ⟨client, hheld client hclient⟩

theorem FrameworkInv.updateSubscription (h : s.FrameworkInv) {walk : ErasedWalk Item} {l : List Item}
    (hmsg : s.KeepsFramework (.updateSubscription walk l sender)) :
    (s.receive (.updateSubscription walk l sender)).FrameworkInv := by
  by_cases hl : l = []
  · subst hl
    exact h.quiet (Or.inl rfl) rfl rfl (fun client => Finset.Subset.refl _) fun _ client => Finset.Subset.refl _
  · obtain ⟨hnone, hcovered⟩ := hmsg.resolve_left hl
    have hne : l.toFinset ≠ ∅ := fun hempty => hl ((List.toFinset_eq_empty_iff l).mp hempty)
    have hwanted : s.wanted sender = ∅ := Finset.subset_empty.mp (hnone ▸ h.wantedHeld sender)
    have hprocess : s.observer.process (.updateSubscription walk l sender) =
        s.observer.handleUpdateSubscriptionReq walk l sender := if_neg hl
    have hcommon : walk.meets (s.observer.mClientToDataItems.vals sender ∩ l.toFinset) = ∅ := by
      have hvals : s.observer.mClientToDataItems.vals sender = ∅ := (h.records.items sender).trans hnone
      rw [hvals, Finset.empty_inter]
      exact Finset.subset_empty.mp (walk.meets_subset ∅)
    have hupdate : (s.observer.mClientToDataItems.update walk sender l.toFinset).2 = (∅, l.toFinset) := by
      unfold LocUnorderedSetMap.update
      rw [if_neg hne]
      change (walk.meets _, l.toFinset \ walk.meets _) = _
      rw [hcommon, Finset.sdiff_empty]
    have hkeys : (s.observer.mDataItemToClients.trimOrRemove ∅ {sender}).1.getKeys =
        s.observer.mDataItemToClients.getKeys := by
      simp [LocUnorderedSetMap.trimOrRemove, LocUnorderedSetMap.getKeys]
    refine h.enter (Or.inr hnone) l.toFinset sender ?_ ?_ ?_ ?_ fun hon item hitem =>
      hcovered hon item (List.mem_toFinset.mp hitem)
    · change (s.observer.process _).1.mSubscriptionObj = _
      rw [hprocess]
      rfl
    · rw [hprocess]
      unfold OsObserver.handleUpdateSubscriptionReq
      simp only [hupdate]
      rw [addEach_newKeys, hkeys]
      have hgone : (s.observer.mDataItemToClients.trimOrRemove ∅ {sender}).2.1 = ∅ := by
        simp [LocUnorderedSetMap.trimOrRemove]
      rw [hgone, if_pos rfl, List.append_nil]
    · change (if l = [] then s.held else Function.update s.held sender l.toFinset) = _
      rw [if_neg hl, hnone, Finset.empty_union]
    · change (if l = [] then s.wanted else Function.update s.wanted sender l.toFinset) = _
      rw [if_neg hl, hwanted, Finset.empty_union]

theorem FrameworkInv.unsubscribe (h : s.FrameworkInv) (l : List Item) (sender : Client) :
    (s.receive (.unsubscribe l sender)).FrameworkInv := by
  by_cases hl : l = []
  · subst hl
    refine h.quiet trivial rfl rfl (fun client => ?_) fun _ client => ?_
    · change _ ⊆ Function.update s.held sender (s.held sender \ ([] : List Item).toFinset) client
      simp
    · change Function.update s.wanted sender (s.wanted sender \ ([] : List Item).toFinset) client ⊆ _
      simp
  · have hprocess : s.observer.process (.unsubscribe l sender) = s.observer.handleUnsubscribeReq l sender :=
      if_neg hl
    have hunused : (s.observer.mClientToDataItems.trimOrRemove {sender} l.toFinset).2.2 =
        s.held sender ∩ l.toFinset := by
      rw [← h.records.items]
      simp [LocUnorderedSetMap.trimOrRemove, LocUnorderedSetMap.getValSet]
    refine h.giveBack trivial (s.held sender ∩ l.toFinset) sender ?_ ?_ ?_ ?_
    · change (s.observer.process _).1.mSubscriptionObj = _
      rw [hprocess]
      rfl
    · rw [hprocess]
      simp only [OsObserver.handleUnsubscribeReq]
      grind
    · change Function.update s.held sender (s.held sender \ l.toFinset) = _
      rw [Finset.sdiff_inter_self_left]
    · change Function.update s.wanted sender (s.wanted sender \ l.toFinset) = _
      congr 1
      ext item
      have hheld : item ∈ s.wanted sender → item ∈ s.held sender := fun hitem => h.wantedHeld sender hitem
      simp only [Finset.mem_sdiff, Finset.mem_inter]
      tauto

theorem FrameworkInv.unsubscribeAll (h : s.FrameworkInv) (sender : Client) :
    (s.receive (.unsubscribeAll sender)).FrameworkInv := by
  have hitems := h.records.items sender
  have hholds : Function.update s.held sender ∅ = Function.update s.held sender (s.held sender \ s.held sender) := by
    rw [Finset.sdiff_self]
  have hwants : Function.update s.wanted sender ∅ =
      Function.update s.wanted sender (s.wanted sender \ s.held sender) := by
    rw [Finset.sdiff_eq_empty_iff_subset.mpr (h.wantedHeld sender)]
  refine h.giveBack trivial (s.held sender) sender ?_ ?_ hholds hwants
  · change (s.observer.handleUnsubscribeAllReq sender).1.mSubscriptionObj = _
    grind [OsObserver.handleUnsubscribeAllReq]
  · change (s.observer.handleUnsubscribeAllReq sender).2.framework = _
    unfold OsObserver.handleUnsubscribeAllReq
    by_cases hempty : s.observer.mClientToDataItems.getValSet sender = ∅
    · simp only [if_pos hempty]
      rw [← hitems, hempty]
      simp [LocUnorderedSetMap.trimOrRemove]
    grind

theorem FrameworkInv.notify (h : s.FrameworkInv) (ds : List (NotifiedItem Item Val)) :
    (s.receive (.notify ds)).FrameworkInv := by
  by_cases hds : ds = []
  · subst hds
    exact h.quiet trivial rfl rfl (fun client => Finset.Subset.refl _) fun _ client => Finset.Subset.refl _
  · have hprocess : s.observer.process (.notify ds) = s.observer.handleNotify ds := if_neg hds
    refine h.quiet trivial ?_ ?_ (fun client => Finset.Subset.refl _) fun _ client => Finset.Subset.refl _
    · change (s.observer.process _).1.mSubscriptionObj = _
      rw [hprocess]
      exact (s.observer.updateCaches_maps ds).2.2
    · rw [hprocess]
      rfl

theorem FrameworkInv.keeps (h : s.FrameworkInv) (hmsg : s.KeepsFramework msg) :
    (s.receive msg).FrameworkInv := by
  cases msg with
  | setSubscriptionObj => exact h.setSubscriptionObj
  | subscribe l client => exact h.subscribe hmsg
  | requestData l client => exact h.requestData l client
  | updateSubscription walk l client => exact h.updateSubscription hmsg
  | unsubscribe l client => exact h.unsubscribe l client
  | unsubscribeAll client => exact h.unsubscribeAll client
  | notify ds => exact h.notify ds

/-- The subscriptions at the framework are right along a run in which only clients without items
update, and no item that is held but not subscribed is asked for. -/
theorem frameworkRight_of_keepsFramework (msgs : List (ObserverMsg Client Item Val))
    (hmsgs : OpsMeet step KeepsFramework ({} : ObserverRun Client Item Val) msgs) :
    Always step FrameworkRight ({} : ObserverRun Client Item Val) msgs := by
  have holds : ∀ s : ObserverRun Client Item Val, s.FrameworkInv → s.FrameworkRight := fun s h => h.toFrameworkRight
  refine always_invariant holds (fun s msg t h hmsg ht => ?_) new_frameworkInv hmsgs
  cases Option.some.inj ht
  exact h.keeps hmsg

/-- Two clients share an item; one of them leaves, the other updates once it holds nothing. -/
def sharing : List (ObserverMsg Bool Nat Nat) :=
  [.subscribe [1, 2] true, .setSubscriptionObj, .subscribe [2, 3] false, .requestData [4] true,
    .unsubscribeAll false, .updateSubscription .all [2, 5] false, .unsubscribe [1, 4] true]

theorem sharing_frameworkRight : Always step FrameworkRight ({} : ObserverRun Bool Nat Nat) sharing :=
  frameworkRight_of_keepsFramework sharing (by decide)

/-- One client subscribes to an item that another has only requested. -/
def requestedFirst : List (ObserverMsg Nat Nat Nat) :=
  [.setSubscriptionObj, .requestData [1] 7, .subscribe [1] 8]

theorem requestedFirst_unsubscribed :
    ¬Always step FrameworkRight ({} : ObserverRun Nat Nat Nat) requestedFirst := by
  intro h
  have last := (((h.2 _ rfl).2 _ rfl).2 _ rfl).covers rfl 8
  revert last
  decide

end ObserverRun

end DeviceHal.Gps
