import DeviceHal.Gps.AgpsRun

namespace DeviceHal.Gps

open Lib AgpsStateMachine

/-- Each of the handles has a message queued, unless a retry timer runs. -/
def Awaited (queue : List (Int × AGpsExtType)) (timers : Nat) (handles : List Int) : Prop :=
  0 < timers ∨ ∀ h ∈ handles, ∃ message ∈ queue, message.1 = h

instance (queue : List (Int × AGpsExtType)) (timers : Nat) (handles : List Int) :
    Decidable (Awaited queue timers handles) :=
  inferInstanceAs (Decidable (_ ∨ _))

theorem Awaited.mono {queue queue' : List (Int × AGpsExtType)} {timers timers' : Nat}
    {hs : List Int} (ha : Awaited queue timers hs) (hq : queue ⊆ queue')
    (ht : timers ≤ timers') : Awaited queue' timers' hs := by
  rcases ha with hrun | hall
  · exact Or.inl (Nat.lt_of_lt_of_le hrun ht)
  · refine Or.inr fun h hh => ?_
    grind

theorem awaited_nil (queue : List (Int × AGpsExtType)) (timers : Nat) :
    Awaited queue timers [] := Or.inr (by simp)

/-- The active handles but that of the first active subscriber. -/
def othersActive (subscribers : List AgpsSubscriber) : List Int :=
  (activeHandles subscribers).filter (some · ≠ (activeHandles subscribers).head?)

theorem awaited_first {queue : List (Int × AGpsExtType)} {timers : Nat}
    {subscribers : List AgpsSubscriber} {first : Int}
    (hf : (activeHandles subscribers).head? = some first) (agpsType : AGpsExtType) :
    Awaited (queue ++ [(first, agpsType)]) timers (activeHandles subscribers) ↔
      Awaited queue timers (othersActive subscribers) := by
  unfold Awaited othersActive
  rw [hf]
  refine or_congr_right ⟨fun hall h hh => ?_, fun hall h hh => ?_⟩
  · grind
  · by_cases he : h = first
    · exact ⟨(first, agpsType), by simp, he.symm⟩
    · obtain ⟨message, hm, hh⟩ := hall h (List.mem_filter.mpr ⟨hh, by simpa using he⟩)
      exact ⟨message, List.mem_append_left _ hm, hh⟩

namespace AgpsStateMachine

variable {sm : AgpsStateMachine}

theorem getFirstSubscriber_head (sm : AgpsStateMachine) :
    (sm.getFirstSubscriber false).map (·.mConnHandle) =
      (activeHandles sm.mSubscriberList).head? := by
  unfold getFirstSubscriber activeHandles handles
  rw [List.head?_map, List.head?_filter]
  simp

/-- The start succeeds, or the machine tries again later. -/
def GoesOn (client : DSClient) (sm : AgpsStateMachine) : Prop :=
  client.openAndStartDataCallFn = some locApiAdapterErrSuccess ∨
    client.openAndStartDataCallFn = some locApiAdapterErrEngineBusy ∧
      sm.mRetries < maxStartDataCallRetries

/-- The results of a start that is not tried again for which the first active subscriber is sent
back to SUPL. -/
def FallsBack (client : DSClient) : Prop :=
  client.openAndStartDataCallFn = none ∨
    client.openAndStartDataCallFn = some locApiAdapterErrEngineBusy ∨
    client.openAndStartDataCallFn = some locApiAdapterErrUnsupported

instance (client : DSClient) (sm : AgpsStateMachine) : Decidable (GoesOn client sm) :=
  inferInstanceAs (Decidable (_ ∨ _))

instance (client : DSClient) : Decidable (FallsBack client) :=
  inferInstanceAs (Decidable (_ ∨ _))

/-- The active handles that a failed start does nothing for. -/
def leftWaiting (client : DSClient) (subscribers : List AgpsSubscriber) : List Int :=
  if FallsBack client then othersActive subscribers else activeHandles subscribers

/-- After a call for the data connection that is not under way. -/
def StartLeaves (queue : List (Int × AGpsExtType)) (timers : Nat)
    (result : AgpsStateMachine × List AgpsOut × Int) : Prop :=
  result.2.2 ≠ 0 →
    Awaited (queue ++ sentRequests result.2.1) (timers + result.2.1.count .startRetryTimer)
      (activeHandles result.1.mSubscriberList)

theorem dsRequest_leaves_iff (hk : sm.kind = .ds) (client : DSClient)
    (queue : List (Int × AGpsExtType)) (timers : Nat) :
    StartLeaves queue timers (sm.dsRequestOrRelease client true) ↔
      GoesOn client sm ∨ Awaited queue timers (leftWaiting client sm.mSubscriberList) := by
  have hhead := sm.getFirstSubscriber_head
  unfold dsRequestOrRelease
  simp only [Bool.not_true, Bool.false_and, Bool.false_eq_true, if_false]
  split
  next hnone =>
    -- no subscriber is active: nobody waits
    have hact : activeHandles sm.mSubscriberList = [] := by
      rw [hnone] at hhead
      exact List.head?_eq_none_iff.mp hhead.symm
    have hleft : leftWaiting client sm.mSubscriberList = [] := by
      unfold leftWaiting othersActive
      rw [hact]
      split <;> rfl
    rw [hleft]
    refine ⟨fun _ => Or.inr (awaited_nil _ _), fun _ _ => ?_⟩
    rw [hact]
    exact awaited_nil _ _
  next s hs =>
    have hfirst : (activeHandles sm.mSubscriberList).head? = some s.mConnHandle := by
      rw [← hhead, hs]
      rfl
    split
    next hfn =>
      have hback : FallsBack client := Or.inl hfn
      have hgo : ¬GoesOn client sm := by simp [GoesOn, hfn]
      rw [notifyDenied_ds hk]
      unfold leftWaiting StartLeaves
      rw [if_pos hback, ← awaited_first hfirst locAgpsTypeSupl]
      simp [hgo, sentRequests]
    next ret hfn =>
      by_cases hbusy : ret = locApiAdapterErrEngineBusy
      · have hback : FallsBack client := Or.inr (Or.inl (hbusy ▸ hfn))
        rw [if_pos hbusy]
        by_cases hex : sm.mRetries + 1 > maxStartDataCallRetries
        · have hgo : ¬GoesOn client sm := by
            rintro (hok | ⟨-, hlt⟩)
            · rw [hfn, hbusy] at hok
              cases hok
            · omega
          rw [if_pos hex, notifyDenied_ds (by exact hk)]
          unfold leftWaiting StartLeaves
          rw [if_pos hback, ← awaited_first hfirst locAgpsTypeSupl]
          simp [hgo, sentRequests, hbusy, locApiAdapterErrEngineBusy]
        · have hgo : GoesOn client sm := Or.inr ⟨hbusy ▸ hfn, by omega⟩
          rw [if_neg hex]
          refine ⟨fun _ => Or.inl hgo, fun _ _ => Or.inl ?_⟩
          simp
      · rw [if_neg hbusy]
        by_cases hun : ret = locApiAdapterErrUnsupported
        · have hback : FallsBack client := Or.inr (Or.inr (hun ▸ hfn))
          have hgo : ¬GoesOn client sm := by
            rintro (hok | ⟨hb, -⟩)
            · rw [hfn, hun] at hok
              cases hok
            · exact hbusy (Option.some.inj (hfn.symm.trans hb))
          rw [if_pos hun, notifyDenied_ds hk]
          unfold leftWaiting StartLeaves
          rw [if_pos hback, ← awaited_first hfirst locAgpsTypeSupl]
          simp [hgo, sentRequests, hun, locApiAdapterErrUnsupported]
        · have hback : ¬FallsBack client := by
            rintro (hn | hb | hu)
            · rw [hfn] at hn
              cases hn
            · exact hbusy (Option.some.inj (hfn.symm.trans hb))
            · exact hun (Option.some.inj (hfn.symm.trans hu))
          rw [if_neg hun]
          unfold leftWaiting StartLeaves
          rw [if_neg hback]
          dsimp only
          by_cases hzero : ret = 0
          · have hgo : GoesOn client sm := Or.inl (hfn.trans (congrArg some hzero))
            simp [hgo, hzero]
          · have hgo : ¬GoesOn client sm := by
              rintro (hok | ⟨hb, -⟩)
              · exact hzero (Option.some.inj (hfn.symm.trans hok))
              · exact hbusy (Option.some.inj (hfn.symm.trans hb))
            simp [hgo, hzero, sentRequests]

/-- The subscribers of a machine in RELEASED are awaited. -/
def ServesReleased (queue : List (Int × AGpsExtType)) (timers : Nat) (sm : AgpsStateMachine) :
    Prop :=
  sm.mState = .released → Awaited queue timers (activeHandles sm.mSubscriberList)

variable {queue : List (Int × AGpsExtType)} {timers : Nat}

theorem serves_of_not_released
    (hst : sm.mState ≠ .released) : ServesReleased queue timers sm := fun h => absurd h hst

theorem serves_of_none
    (hl : activeHandles sm.mSubscriberList = []) : ServesReleased queue timers sm := by
  intro _
  rw [hl]
  exact awaited_nil _ _

theorem subscribe_serves_iff (hk : sm.kind = .ds) (hst : sm.mState = .released)
    (client : DSClient) (s : AgpsSubscriber) (queue : List (Int × AGpsExtType)) (timers : Nat) :
    let result := sm.processAgpsEventSubscribe client s
    ServesReleased (queue ++ sentRequests result.2) (timers + result.2.count .startRetryTimer)
        result.1 ↔
      GoesOn client sm ∨
        Awaited queue timers (leftWaiting client (sm.addSubscriber s).mSubscriberList) := by
  have hadd := addSubscriber_eq s sm
  have hstart := @dsRequest_leaves_iff (sm.addSubscriber s) (by rw [hadd]; exact hk) client queue
    timers
  have hgo : GoesOn client (sm.addSubscriber s) ↔ GoesOn client sm := by
    unfold GoesOn
    rw [hadd]
  obtain ⟨retries, outs, ret, hcall, -⟩ :=
    requestOrReleaseDataConn_eq client true (sm.addSubscriber s)
  have hds : (sm.addSubscriber s).requestOrReleaseDataConn client true =
      (sm.addSubscriber s).dsRequestOrRelease client true := by
    unfold requestOrReleaseDataConn
    rw [hadd]
    dsimp only
    rw [hk]
  rw [hgo, ← hds, hcall] at hstart
  rw [← hstart]
  unfold processAgpsEventSubscribe
  rw [hst]
  grind [ServesReleased, StartLeaves, transitionState]

theorem subscribe_state (hst : sm.mState ≠ .released) (client : DSClient) (s : AgpsSubscriber) :
    (sm.processAgpsEventSubscribe client s).1.mState = sm.mState := by
  unfold processAgpsEventSubscribe
  split
  next h => exact absurd h hst
  next => rw [addSubscriber_eq]
  next => rw [addSubscriber_eq]
  next =>
    obtain ⟨retries, hr⟩ := noticed_eq .granted sm
    simp only [notifyEventToSubscriber, Bool.false_eq_true, if_false]
    rw [addSubscriber_eq, hr]

theorem retireSubscriber_state (s : AgpsSubscriber) :
    (sm.retireSubscriber s).1.mState = sm.mState := by
  unfold retireSubscriber
  split
  next => rfl
  next =>
    obtain ⟨retries, hr⟩ := noticed_eq (.unsubscribe s) sm
    simp only [notifyEventToSubscriber, if_true, deleteSubscriber, hr]

theorem leaveConnection_empty (hst : sm.mState ≠ .released) (client : DSClient)
    (s : AgpsSubscriber) (hrel : (sm.leaveConnection client s).1.mState = .released) :
    (sm.leaveConnection client s).1.mSubscriberList = [] := by
  have hkeep := sm.retireSubscriber_state s
  unfold leaveConnection at hrel ⊢
  generalize sm.retireSubscriber s = r at hkeep hrel ⊢
  obtain ⟨after, outs⟩ := r
  dsimp only at hkeep hrel ⊢
  split
  next hempty =>
    obtain ⟨retries, more, ret, hcall, -⟩ :=
      requestOrReleaseDataConn_eq client false (after.transitionState .released)
    rw [hcall]
    exact List.isEmpty_iff.mp hempty
  next hempty =>
    rw [if_neg hempty] at hrel
    split at hrel
    next =>
      obtain ⟨retries, more, ret, hcall, -⟩ :=
        requestOrReleaseDataConn_eq client false (after.transitionState .releasing)
      rw [hcall] at hrel
      cases hrel
    next => exact absurd (hkeep.symm.trans hrel) hst

theorem finishReleasing_none (client : DSClient)
    (hrel : (sm.finishReleasing client).1.mState = .released) :
    activeHandles (sm.finishReleasing client).1.mSubscriberList = [] := by
  unfold finishReleasing at hrel ⊢
  generalize sm.notifyAllSubscribers .released true .forInactiveSubscribers = r at hrel ⊢
  obtain ⟨after, outs⟩ := r
  dsimp only at hrel ⊢
  split
  next hact =>
    rw [if_pos hact] at hrel
    obtain ⟨retries, more, ret, hcall, -⟩ :=
      requestOrReleaseDataConn_eq client true (after.transitionState .pending)
    rw [hcall] at hrel
    cases hrel
  next hact =>
    have hnone := mt (anyActiveSubscribers_iff after).mpr hact
    simpa [transitionState] using hnone

theorem dropAll_none (event : AgpsEvent) (sm : AgpsStateMachine) :
    activeHandles
      (sm.notifyAllSubscribers event true .forAllSubscribers).1.mSubscriberList = [] := by
  obtain ⟨retries, hr⟩ := notifyAllSubscribers_drop event .forAllSubscribers sm
  rw [hr]
  simp [AgpsNotificationType.meets, activeHandles]

theorem unsubscribe_serves (client : DSClient) (s : AgpsSubscriber)
    (hs : ServesReleased queue timers sm) :
    ServesReleased queue timers (sm.processAgpsEventUnsubscribe client s).1 := by
  unfold processAgpsEventUnsubscribe
  split
  next =>
    obtain ⟨retries, hr⟩ := noticed_eq (.unsubscribe s) sm
    simp only [notifyEventToSubscriber, Bool.false_eq_true, if_false, hr]
    exact hs
  next hst =>
    intro hrel
    rw [leaveConnection_empty (by simp [hst]) client s hrel]
    exact awaited_nil _ _
  next hst =>
    intro hrel
    rw [leaveConnection_empty (by simp [hst]) client s hrel]
    exact awaited_nil _ _
  next hst =>
    have hkeep := sm.retireSubscriber_state s
    generalize sm.retireSubscriber s = r at hkeep ⊢
    obtain ⟨after, outs⟩ := r
    dsimp only at hkeep ⊢
    split
    next hempty =>
      refine serves_of_none ?_
      unfold transitionState
      rw [List.isEmpty_iff.mp hempty]
      rfl
    next => exact serves_of_not_released (by simp [hkeep, hst])

theorem answer_serves (client : DSClient) {event : AgpsEvent}
    (he : event = .granted ∨ event = .released ∨ event = .denied)
    (hs : ServesReleased queue timers sm) :
    ServesReleased queue timers (sm.dispatchEvent client event).1 := by
  rcases he with rfl | rfl | rfl
  · unfold dispatchEvent processAgpsEventGranted
    dsimp only
    split
    next => exact hs
    next => exact hs
    next => exact hs
    next =>
      obtain ⟨retries, hr⟩ := notifyAllSubscribers_keep .granted .forActiveSubscribers
        (sm.transitionState .acquired)
      rw [hr]
      exact serves_of_not_released (by simp [transitionState])
  · unfold dispatchEvent processAgpsEventReleased
    dsimp only
    split
    next => exact hs
    next => exact hs
    next => exact serves_of_none (dropAll_none _ _)
    next =>
      intro hrel
      rw [finishReleasing_none client hrel]
      exact awaited_nil _ _
  · unfold dispatchEvent processAgpsEventDenied
    dsimp only
    split
    next => exact hs
    next => exact hs
    next =>
      intro hrel
      rw [finishReleasing_none client hrel]
      exact awaited_nil _ _
    next => exact serves_of_none (dropAll_none _ _)

theorem processAgpsEvent_serves (client : DSClient) {event : AgpsEvent}
    (hne : ∀ s, event ≠ .subscribe s)
    (hs : ServesReleased queue timers sm) :
    ServesReleased queue timers (sm.processAgpsEvent client event).1 := by
  unfold processAgpsEvent
  cases event with
  | subscribe s => exact absurd rfl (hne s)
  | unsubscribe s =>
    rw [translate_unsubscribe]
    exact unsubscribe_serves client s hs
  | granted =>
    rw [translate_granted]
    exact answer_serves client (Or.inl rfl) hs
  | released =>
    unfold translate
    split
    · exact answer_serves client (Or.inr (Or.inr rfl)) hs
    · exact answer_serves client (Or.inr (Or.inl rfl)) hs
  | denied =>
    rw [translate_denied]
    exact answer_serves client (Or.inr (Or.inr rfl)) hs

theorem subscribe_kind (client : DSClient) (s : AgpsSubscriber) :
    (sm.processAgpsEventSubscribe client s).1.kind = sm.kind := by
  unfold processAgpsEventSubscribe
  split
  next =>
    obtain ⟨retries, outs, ret, hcall, -⟩ :=
      requestOrReleaseDataConn_eq client true (sm.addSubscriber s)
    rw [hcall]
    dsimp only
    split
    · rw [addSubscriber_eq]
      rfl
    · rw [addSubscriber_eq]
  next => rw [addSubscriber_eq]
  next => rw [addSubscriber_eq]
  next =>
    obtain ⟨retries, hr⟩ := noticed_eq .granted sm
    simp only [notifyEventToSubscriber, Bool.false_eq_true, if_false]
    rw [addSubscriber_eq, hr]

theorem retireSubscriber_kind (s : AgpsSubscriber) :
    (sm.retireSubscriber s).1.kind = sm.kind := by
  unfold retireSubscriber
  split
  next => rfl
  next =>
    obtain ⟨retries, hr⟩ := noticed_eq (.unsubscribe s) sm
    simp only [notifyEventToSubscriber, if_true, deleteSubscriber, hr]

theorem requestOrReleaseDataConn_kind (client : DSClient) (request : Bool) :
    (sm.requestOrReleaseDataConn client request).1.kind = sm.kind := by
  obtain ⟨retries, outs, ret, hcall, -⟩ := requestOrReleaseDataConn_eq client request sm
  rw [hcall]

theorem unsubscribe_kind (client : DSClient) (s : AgpsSubscriber) :
    (sm.processAgpsEventUnsubscribe client s).1.kind = sm.kind := by
  have hret := sm.retireSubscriber_kind s
  have hleave : (sm.leaveConnection client s).1.kind = sm.kind := by
    unfold leaveConnection
    generalize sm.retireSubscriber s = r at hret ⊢
    obtain ⟨after, outs⟩ := r
    dsimp only at hret ⊢
    split
    · exact (requestOrReleaseDataConn_kind client false).trans hret
    split
    · exact (requestOrReleaseDataConn_kind client false).trans hret
    · exact hret
  unfold processAgpsEventUnsubscribe
  split
  next =>
    obtain ⟨retries, hr⟩ := noticed_eq (.unsubscribe s) sm
    simp only [notifyEventToSubscriber, Bool.false_eq_true, if_false, hr]
  next => exact hleave
  next => exact hleave
  next =>
    dsimp only
    split
    · exact hret
    · exact hret

theorem finishReleasing_kind (client : DSClient) :
    (sm.finishReleasing client).1.kind = sm.kind := by
  obtain ⟨retries, hr⟩ := notifyAllSubscribers_drop .released .forInactiveSubscribers sm
  unfold finishReleasing
  rw [hr]
  dsimp only
  split
  · exact requestOrReleaseDataConn_kind client true
  · rfl

theorem dispatchEvent_kind (client : DSClient) (event : AgpsEvent) :
    (sm.dispatchEvent client event).1.kind = sm.kind := by
  have hdrop : ∀ e, ((sm.transitionState .released).notifyAllSubscribers e true
      .forAllSubscribers).1.kind = sm.kind := by
    intro e
    obtain ⟨retries, hr⟩ := notifyAllSubscribers_drop e .forAllSubscribers
      (sm.transitionState .released)
    rw [hr]
    rfl
  cases event with
  | subscribe s => exact subscribe_kind client s
  | unsubscribe s => exact unsubscribe_kind client s
  | granted =>
    unfold dispatchEvent processAgpsEventGranted
    dsimp only
    split
    next => rfl
    next => rfl
    next => rfl
    next =>
      obtain ⟨retries, hr⟩ := notifyAllSubscribers_keep .granted .forActiveSubscribers
        (sm.transitionState .acquired)
      rw [hr]
      rfl
  | released =>
    unfold dispatchEvent processAgpsEventReleased
    dsimp only
    split
    next => rfl
    next => rfl
    next => exact hdrop .released
    next => exact finishReleasing_kind client
  | denied =>
    unfold dispatchEvent processAgpsEventDenied
    dsimp only
    split
    next => rfl
    next => rfl
    next => exact finishReleasing_kind client
    next => exact hdrop .denied

theorem framework_subscribe_quiet (hk : sm.kind = .framework) (client : DSClient)
    (s : AgpsSubscriber) :
    sentRequests (sm.processAgpsEventSubscribe client s).2 = [] ∧
      (sm.processAgpsEventSubscribe client s).2.count .startRetryTimer = 0 := by
  have hka : (sm.addSubscriber s).kind = .framework := by
    rw [addSubscriber_eq]
    exact hk
  unfold processAgpsEventSubscribe
  split
  next => simp [requestOrReleaseDataConn, hka, frameworkRequestOrRelease, sentRequests]
  next => simp [sentRequests]
  next => simp [sentRequests]
  next => simp [notifyEventToSubscriber, notice, hk, frameworkNotice, sentRequests]

end AgpsStateMachine

/-- The DS machine of the manager, and only that one, is of the overriding class. -/
def AgpsManager.Kinds (m : AgpsManager) : Prop :=
  ∀ n sm, m.nif n = some sm → (sm.kind = .ds ↔ n = .ds)

/-- The subscribers of the DS machine are awaited while it is RELEASED. -/
structure DsInv (queue : List (Int × AGpsExtType)) (timers : Nat) (m : AgpsManager) : Prop where
  kinds : m.Kinds
  serves : ∀ sm, m.nif .ds = some sm → ServesReleased queue timers sm

namespace DsInv

variable {m : AgpsManager} {queue queue' : List (Int × AGpsExtType)} {timers timers' : Nat}

theorem mono (hi : DsInv queue timers m) (hq : queue ⊆ queue') (ht : timers ≤ timers') :
    DsInv queue' timers' m :=
  ⟨hi.kinds, fun sm hn hst => (hi.serves sm hn hst).mono hq ht⟩

theorem setNif (hi : DsInv queue timers m) {n : Nif} {sm : AgpsStateMachine}
    (hk : sm.kind = .ds ↔ n = .ds) (hs : n = .ds → ServesReleased queue timers sm) :
    DsInv queue timers (m.setNif n sm) := by
  refine ⟨fun n' sm' hn => ?_, fun sm' hn => ?_⟩
  · rw [AgpsManager.nif_setNif] at hn
    split at hn
    next he =>
      cases hn
      rw [he]
      exact hk
    next => exact hi.kinds n' sm' hn
  · rw [AgpsManager.nif_setNif] at hn
    split at hn
    next he =>
      cases hn
      exact hs he.symm
    next => exact hi.serves sm' hn

theorem createNif (hi : DsInv queue timers m) (n : Nif) (kind : NifKind)
    (hk : kind = .ds ↔ n = .ds) (agpsType : AGpsExtType) :
    DsInv queue timers (m.createNif n kind agpsType) := by
  unfold AgpsManager.createNif
  split
  · exact hi.setNif hk fun _ => serves_of_none rfl
  · exact hi

theorem create (hi : DsInv queue timers m) (client : DSClient) :
    DsInv queue timers (m.createAgpsStateMachines client) := by
  have hnet := hi.createNif .internet .framework (by simp) locAgpsTypeWwanAny
  have hgnss := hnet.createNif .agnss .framework (by simp) locAgpsTypeSupl
  unfold AgpsManager.createAgpsStateMachines
  dsimp only
  split
  · split
    · split
      next => exact hgnss
      next =>
        split
        · exact hgnss
        · exact hgnss.createNif .ds .ds (by simp) locAgpsTypeSuplEs
    · exact hgnss
  · exact hnet

theorem get (hi : DsInv queue timers m) (client : DSClient) (agpsType : AGpsExtType) :
    DsInv queue timers (m.getAgpsStateMachine client agpsType).1 := by
  unfold AgpsManager.getAgpsStateMachine
  split
  · exact hi
  split
  · split
    · dsimp only
      split
      · exact hi.create client
      · exact hi
    · exact hi
  · exact hi

theorem send (hi : DsInv queue timers m) {client : DSClient} {n : Nif} {event : AgpsEvent}
    (hne : ∀ s, event ≠ .subscribe s) {result : AgpsManager × List AgpsOut}
    (hsend : m.sendEvent client n event = some result) : DsInv queue timers result.1 := by
  obtain ⟨sm, hn, hr⟩ := Option.map_eq_some_iff.mp hsend
  cases hr
  refine hi.setNif ?_ fun hds => ?_
  · have hkind : (sm.processAgpsEvent client event).1.kind = sm.kind :=
      dispatchEvent_kind client _
    rw [hkind]
    exact hi.kinds n sm hn
  · exact processAgpsEvent_serves client hne (hi.serves sm (hds ▸ hn))

end DsInv

namespace AgpsManager

variable {m : AgpsManager}

/-- A request does not reach the DS machine in RELEASED, or its start goes on, or it leaves nobody
behind that is not awaited. One for another machine leaves the subscribers as they are awaited
without its message. -/
def RequestCovers (queue : List (Int × AGpsExtType)) (timers : Nat) (client : DSClient) (h : Int)
    (agpsType : AGpsExtType) (m : AgpsManager) : Prop :=
  ∀ sm, (m.getAgpsStateMachine client agpsType).1.nif .ds = some sm → sm.mState = .released →
    if (m.getAgpsStateMachine client agpsType).2 = .ds then
      GoesOn client sm ∨ Awaited queue timers (leftWaiting client (sm.addSubscriber
        ⟨h, decide (agpsType = locAgpsTypeSuplEs), false⟩).mSubscriberList)
    else Awaited queue timers (activeHandles sm.mSubscriberList)

theorem requestATL_sent (client : DSClient) (h : Int) (agpsType : AGpsExtType)
    (m : AgpsManager) :
    m.requestATL client h agpsType =
      (((m.getAgpsStateMachine client agpsType).1.sendEvent client
        (m.getAgpsStateMachine client agpsType).2
        (.subscribe ⟨h, decide (agpsType = locAgpsTypeSuplEs), false⟩)).getD
          ((m.getAgpsStateMachine client agpsType).1,
            [.atlOpenStatus h false none .invalid agpsType])) := by
  grind [requestATL]

theorem requestATL_kinds {queue : List (Int × AGpsExtType)} {timers : Nat}
    (hi : DsInv queue timers m) (client : DSClient) (h : Int) (agpsType : AGpsExtType) :
    (m.requestATL client h agpsType).1.Kinds := by
  have hget := (hi.get client agpsType).kinds
  rw [requestATL_sent]
  generalize m.getAgpsStateMachine client agpsType = r at hget ⊢
  obtain ⟨m', n⟩ := r
  dsimp only at hget ⊢
  unfold sendEvent
  cases hn : m'.nif n with
  | none => exact hget
  | some sm =>
    intro n' sm' hn'
    simp only [Option.map_some, Option.getD_some] at hn'
    rw [nif_setNif] at hn'
    split at hn'
    next he =>
      cases hn'
      have hkind : (sm.processAgpsEvent client
          (.subscribe ⟨h, decide (agpsType = locAgpsTypeSuplEs), false⟩)).1.kind = sm.kind :=
        dispatchEvent_kind client _
      rw [hkind, he]
      exact hget n sm hn
    next => exact hget n' sm' hn'

theorem requestATL_serves_iff {queue₀ queue : List (Int × AGpsExtType)} {timers₀ timers : Nat}
    (hi : DsInv queue₀ timers₀ m) (client : DSClient) (h : Int) (agpsType : AGpsExtType) :
    let result := m.requestATL client h agpsType
    (∀ sm, result.1.nif .ds = some sm →
        ServesReleased (queue ++ sentRequests result.2)
          (timers + result.2.count .startRetryTimer) sm) ↔
      m.RequestCovers queue timers client h agpsType := by
  have hget := (hi.get client agpsType).kinds
  unfold RequestCovers
  rw [requestATL_sent]
  generalize m.getAgpsStateMachine client agpsType = r at hget ⊢
  obtain ⟨m', n⟩ := r
  dsimp only at hget ⊢
  unfold sendEvent
  cases hn : m'.nif n with
  | none =>
    grind [sentRequests, ServesReleased]
  | some sm =>
    simp only [Option.map_some, Option.getD_some]
    have hevent : sm.processAgpsEvent client
        (.subscribe ⟨h, decide (agpsType = locAgpsTypeSuplEs), false⟩) =
        sm.processAgpsEventSubscribe client
          ⟨h, decide (agpsType = locAgpsTypeSuplEs), false⟩ := by
      unfold processAgpsEvent
      rw [translate_subscribe]
      rfl
    rw [hevent]
    by_cases hds : n = .ds
    · subst hds
      simp only [nif_setNif, if_true, hn, Option.some.injEq, forall_eq']
      have hk : sm.kind = .ds := (hget .ds sm hn).mpr rfl
      by_cases hst : sm.mState = .released
      · have hiff := subscribe_serves_iff hk hst client
          ⟨h, decide (agpsType = locAgpsTypeSuplEs), false⟩ queue timers
        exact ⟨fun hc _ => hiff.mp hc, fun hc => hiff.mpr (hc hst)⟩
      · refine ⟨fun _ hrel => absurd hrel hst, fun _ => serves_of_not_released ?_⟩
        rw [subscribe_state hst]
        exact hst
    · have hk : sm.kind = .framework := by
        cases hkind : sm.kind with
        | framework => rfl
        | ds => exact absurd ((hget n sm hn).mp hkind) hds
      obtain ⟨hsent, hcount⟩ := framework_subscribe_quiet hk client
        ⟨h, decide (agpsType = locAgpsTypeSuplEs), false⟩
      rw [hsent, hcount]
      simp only [nif_setNif, if_neg (Ne.symm hds), List.append_nil, Nat.add_zero, if_neg hds]
      rfl

end AgpsManager

end DeviceHal.Gps
