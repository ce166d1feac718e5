import DeviceHal.Gps.AgpsAwaited

namespace DeviceHal.Gps

open Lib AgpsStateMachine

theorem AgpsStateMachine.retryCallback_serves_iff (sm : AgpsStateMachine)
    (queue : List (Int × AGpsExtType)) (timers : Nat) :
    ServesReleased (queue ++ sentRequests sm.retryCallback)
        (timers + sm.retryCallback.count .startRetryTimer) sm ↔
      (sm.mState = .released → Awaited queue timers (othersActive sm.mSubscriberList)) := by
  have hhead := sm.getFirstSubscriber_head
  unfold ServesReleased retryCallback
  refine imp_congr_right fun _ => ?_
  cases hf : sm.getFirstSubscriber false with
  | none =>
    have hact : activeHandles sm.mSubscriberList = [] := by
      rw [hf] at hhead
      exact List.head?_eq_none_iff.mp hhead.symm
    have hleft : othersActive sm.mSubscriberList = [] := by
      unfold othersActive
      rw [hact]
      rfl
    rw [hact, hleft]
    exact ⟨fun _ => awaited_nil _ _, fun _ => awaited_nil _ _⟩
  | some s =>
    rw [hf] at hhead
    exact awaited_first hhead.symm locAgpsTypeSuplEs

namespace AgpsSystem

/-- Whoever is active in the DS machine while it is RELEASED has its retry timer running, or a
message queued. -/
def NoneStranded (s : AgpsSystem) : Prop :=
  ∀ sm, s.mgr.mDsNif = some sm → sm.mState = .released →
    ∀ sub ∈ sm.mSubscriberList, sub.mIsInactive = false →
      0 < s.timers ∨ ∃ message ∈ s.queue, message.1 = sub.mConnHandle

theorem noneStranded_iff (s : AgpsSystem) :
    s.NoneStranded ↔ ∀ sm, s.mgr.nif .ds = some sm → ServesReleased s.queue s.timers sm := by
  refine forall_congr' fun sm => forall_congr' fun _ => forall_congr' fun _ => ?_
  unfold Awaited
  constructor
  · intro h
    by_cases ht : 0 < s.timers
    · exact Or.inl ht
    · refine Or.inr fun g hg => ?_
      obtain ⟨sub, hs, ha, rfl⟩ := mem_activeHandles.mp hg
      exact (h sub hs ha).resolve_left ht
  · rintro (ht | hall) sub hs ha
    · exact Or.inl ht
    · exact Or.inr (hall _ (mem_activeHandles.mpr ⟨sub, hs, ha, rfl⟩))

/-- The call leaves nobody behind. A start of the data call that fails for good finds another timer
running, or all whom it sends no message with one queued. So does a timer that ends, and a message
that is taken for another machine. -/
def Covers (s : AgpsSystem) (call : DSClient × AgpsOp) : Prop :=
  match call.2 with
  | .requestATL h agpsType => s.mgr.RequestCovers s.queue s.timers call.1 h agpsType
  | .deliver => ∀ h agpsType rest, s.queue = (h, agpsType) :: rest →
    s.mgr.RequestCovers rest s.timers call.1 h agpsType
  | .retryTimer => 0 < s.timers → ∀ sm, s.mgr.mDsNif = some sm → sm.mState = .released →
    Awaited s.queue (s.timers - 1) (othersActive sm.mSubscriberList)
  | _ => True

/-- The invariant of a run that leaves nobody behind. -/
def Inv (s : AgpsSystem) : Prop := DsInv s.queue s.timers s.mgr

variable {s : AgpsSystem}

theorem Inv.noneStranded (hi : s.Inv) : s.NoneStranded :=
  s.noneStranded_iff.mpr hi.serves

theorem inv_after (entries : List AgpsEntry)
    {result : AgpsManager × List AgpsOut} (hi : DsInv s.queue s.timers result.1) :
    (s.after entries result).Inv :=
  hi.mono (List.subset_append_left _ _) (Nat.le_add_right _ _)

theorem inv_request (entries : List AgpsEntry) {queue : List (Int × AGpsExtType)}
    {timers : Nat} (hi : DsInv queue timers s.mgr) (client : DSClient) (h : Int)
    (agpsType : AGpsExtType) (hc : s.mgr.RequestCovers s.queue s.timers client h agpsType) :
    (s.after entries (s.mgr.requestATL client h agpsType)).Inv :=
  ⟨AgpsManager.requestATL_kinds hi client h agpsType,
    (AgpsManager.requestATL_serves_iff hi client h agpsType).mpr hc⟩

theorem setApn_eq (sm : AgpsStateMachine) (bearer : AGpsBearerType)
    (apn : Option (List UInt8)) (len : Nat) :
    ∃ name, (sm.setBearer bearer).setAPN apn len = { sm with mBearer := bearer, mAPN := name } := by
  unfold setAPN
  split
  next => exact ⟨none, rfl⟩
  next name =>
    split
    · exact ⟨none, rfl⟩
    · exact ⟨some name, rfl⟩

theorem retryTimer_none {client : DSClient}
    (hnone : s.timers = 0 ∨ s.mgr.mDsNif = none) : s.step (client, .retryTimer) = some s := by
  unfold step
  grind

theorem retryTimer_fires {client : DSClient} {sm : AgpsStateMachine}
    (ht : 0 < s.timers) (hds : s.mgr.mDsNif = some sm) :
    s.step (client, .retryTimer) =
      some ({ s with timers := s.timers - 1 }.after [] (s.mgr, sm.retryCallback)) := by
  unfold step
  dsimp only
  split
  next timers sm' ht' hds' =>
    cases Option.some.inj (hds.symm.trans hds')
    rw [ht']
    rfl
  next hno => exact absurd hds (hno (s.timers - 1) sm (by omega))

theorem fired_serves_iff {sm : AgpsStateMachine} (hds : s.mgr.mDsNif = some sm) (timers : Nat) :
    ({ s with timers }.after [] (s.mgr, sm.retryCallback)).NoneStranded ↔
      (sm.mState = .released → Awaited s.queue timers (othersActive sm.mSubscriberList)) := by
  rw [noneStranded_iff, ← sm.retryCallback_serves_iff s.queue timers]
  have hnif : s.mgr.nif .ds = some sm := hds
  constructor
  · intro h
    exact h sm hnif
  · intro h sm' hn
    cases Option.some.inj (hnif.symm.trans hn)
    exact h

theorem step_inv {s t : AgpsSystem} {call : DSClient × AgpsOp} (hi : s.Inv) (hc : s.Covers call)
    (hstep : s.step call = some t) : t.Inv := by
  obtain ⟨client, op⟩ := call
  have granted : ∀ e, AgpsEvent.granted ≠ .subscribe e := by simp
  have released : ∀ e, AgpsEvent.released ≠ .subscribe e := by simp
  have denied : ∀ e, AgpsEvent.denied ≠ .subscribe e := by simp
  cases op with
  | createAgpsStateMachines =>
    cases Option.some.inj hstep
    exact inv_after _ (hi.create client)
  | requestATL h agpsType =>
    cases Option.some.inj hstep
    exact inv_request _ hi client h agpsType hc
  | releaseATL h =>
    cases Option.some.inj hstep
    refine inv_after _ ?_
    cases hf : s.mgr.findSubscriber h with
    | none =>
      rw [AgpsManager.releaseATL_none hf]
      exact hi
    | some found =>
      obtain ⟨n, sub⟩ := found
      exact DsInv.send hi (by simp) (AgpsManager.releaseATL_found client hf)
  | reportDataCallOpened =>
    cases Option.some.inj hstep
    refine inv_after _ ?_
    unfold AgpsManager.reportDataCallOpened
    cases hsend : s.mgr.sendEvent client .ds .granted with
    | none => exact hi
    | some result => exact DsInv.send hi granted hsend
  | reportDataCallClosed =>
    cases Option.some.inj hstep
    refine inv_after _ ?_
    unfold AgpsManager.reportDataCallClosed
    cases hsend : s.mgr.sendEvent client .ds .released with
    | none => exact hi
    | some result => exact DsInv.send hi released hsend
  | reportAtlOpenSuccess agpsType apnName apnLen bearerType =>
    obtain ⟨result, hr, he⟩ := Option.map_eq_some_iff.mp hstep
    subst he
    refine inv_after _ ?_
    have hget := DsInv.get hi client agpsType
    unfold AgpsManager.reportAtlOpenSuccess at hr
    generalize s.mgr.getAgpsStateMachine client agpsType = r at hr hget
    obtain ⟨m', n⟩ := r
    obtain ⟨sm, hn, hsend⟩ := Option.bind_eq_some_iff.mp hr
    obtain ⟨name, hset⟩ := setApn_eq sm bearerType apnName apnLen
    rw [hset] at hsend
    have hi' : DsInv s.queue s.timers
        (m'.setNif n { sm with mBearer := bearerType, mAPN := name }) :=
      hget.setNif (hget.kinds n sm hn) fun hds => hget.serves sm (hds ▸ hn)
    exact hi'.send granted hsend
  | reportAtlOpenFailed agpsType =>
    obtain ⟨result, hr, he⟩ := Option.map_eq_some_iff.mp hstep
    subst he
    exact inv_after _ ((DsInv.get hi client agpsType).send denied hr)
  | reportAtlClosed agpsType =>
    obtain ⟨result, hr, he⟩ := Option.map_eq_some_iff.mp hstep
    subst he
    exact inv_after _ ((DsInv.get hi client agpsType).send released hr)
  | deliver =>
    rcases deliver_cases hstep with rfl | ⟨h, agpsType, rest, hq, rfl⟩
    · exact hi
    · exact inv_request (s := { s with queue := rest }) _ hi client h agpsType
        (hc h agpsType rest hq)
  | retryTimer =>
    by_cases ht : 0 < s.timers
    · cases hds : s.mgr.mDsNif with
      | none =>
        cases Option.some.inj ((retryTimer_none (Or.inr hds)).symm.trans hstep)
        exact hi
      | some sm =>
        cases Option.some.inj ((retryTimer_fires ht hds).symm.trans hstep)
        refine ⟨hi.kinds, (noneStranded_iff _).mp ?_⟩
        exact (fired_serves_iff hds _).mpr (hc ht sm hds)
    · cases Option.some.inj ((retryTimer_none (Or.inl (by omega))).symm.trans hstep)
      exact hi

theorem strands_of_not_covers {call : DSClient × AgpsOp} (hi : s.Inv)
    (hc : ¬s.Covers call) : ∃ t, s.step call = some t ∧ ¬t.NoneStranded := by
  obtain ⟨client, op⟩ := call
  cases op with
  | requestATL h agpsType =>
    refine ⟨_, rfl, fun hn => hc ?_⟩
    exact (AgpsManager.requestATL_serves_iff hi client h agpsType).mp
      ((noneStranded_iff _).mp hn)
  | deliver =>
    unfold Covers at hc
    dsimp only at hc
    push Not at hc
    obtain ⟨h, agpsType, rest, hq, hbad⟩ := hc
    refine ⟨{ s with queue := rest }.after [] (s.mgr.requestATL client h agpsType), ?_,
      fun hn => hbad ?_⟩
    · unfold step
      simp only [hq]
    · exact (AgpsManager.requestATL_serves_iff hi client h agpsType).mp
        ((noneStranded_iff _).mp hn)
  | retryTimer =>
    unfold Covers at hc
    dsimp only at hc
    push Not at hc
    obtain ⟨ht, sm, hds, hst, hbad⟩ := hc
    refine ⟨_, retryTimer_fires ht hds, fun hn => hbad ?_⟩
    exact (fired_serves_iff hds _).mp hn hst
  | createAgpsStateMachines => exact absurd trivial hc
  | releaseATL h => exact absurd trivial hc
  | reportDataCallOpened => exact absurd trivial hc
  | reportDataCallClosed => exact absurd trivial hc
  | reportAtlOpenSuccess agpsType apnName apnLen bearerType => exact absurd trivial hc
  | reportAtlOpenFailed agpsType => exact absurd trivial hc
  | reportAtlClosed agpsType => exact absurd trivial hc

theorem inv_new (agpsCapable useEmergencyPdn : Bool) :
    (new agpsCapable useEmergencyPdn).Inv := by
  have hnone : ∀ n, (new agpsCapable useEmergencyPdn).mgr.nif n = none := by
    intro n
    cases n <;> rfl
  constructor
  · intro n sm hn
    rw [hnone] at hn
    cases hn
  · intro sm hn
    rw [hnone] at hn
    cases hn

/-- Nobody is stranded in a run exactly if each of its calls leaves nobody behind. -/
theorem noneStranded_always_iff (agpsCapable useEmergencyPdn : Bool)
    (calls : List (DSClient × AgpsOp)) :
    Always step NoneStranded (new agpsCapable useEmergencyPdn) calls ↔
      OpsMeet step Covers (new agpsCapable useEmergencyPdn) calls := by
  have keeps : ∀ s call t, Inv s → True → Covers s call → s.step call = some t → Inv t :=
    fun _ _ _ hi _ hc hstep => step_inv hi hc hstep
  have breaks : ∀ s call, Inv s → True → ¬Covers s call →
      ∃ t, s.step call = some t ∧ ¬t.NoneStranded :=
    fun _ _ hi _ hc => strands_of_not_covers hi hc
  exact always_iff_of_keeps (fun _ hi => hi.noneStranded) keeps breaks (inv_new _ _)
    (opsMeet_true _ _)

/-- Two emergency requests when there is no emergency profile, and the messages they cause. -/
def strandingRun : List (DSClient × AgpsOp) :=
  let client : DSClient := ⟨some 0, some locApiAdapterErrUnsupported, true⟩
  [(client, .createAgpsStateMachines), (client, .requestATL 1 locAgpsTypeSuplEs),
    (client, .requestATL 2 locAgpsTypeSuplEs), (client, .deliver), (client, .deliver)]

/-- Both messages were for the first. The second is active in RELEASED with nothing to come. -/
theorem second_request_stranded : ∃ s sm sub, runOps step (new true true) strandingRun = some s ∧
    s.mgr.mDsNif = some sm ∧ sm.mState = .released ∧ sub ∈ sm.mSubscriberList ∧
    sub.mConnHandle = 2 ∧ sub.mIsInactive = false ∧ s.timers = 0 ∧ s.queue = [] := by
  refine ⟨_, _, ⟨2, true, false⟩, rfl, rfl, rfl, ?_, rfl, rfl, rfl, rfl⟩
  decide

end AgpsSystem

end DeviceHal.Gps
