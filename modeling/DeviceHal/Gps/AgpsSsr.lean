import DeviceHal.Gps.AgpsRun
import DeviceHal.Lib.Outputs

namespace DeviceHal.Gps

open Lib

namespace AgpsStateMachine

def dropAllSubscribers (sm : AgpsStateMachine) : AgpsStateMachine :=
  { sm with mSubscriberList := [] }

/-- What a constructor makes of the class and the type. -/
def new (kind : NifKind) (agpsType : AGpsExtType) : AgpsStateMachine :=
  { kind, mAgpsType := agpsType }

end AgpsStateMachine

/-- The calls of a restart to the DS client. -/
inductive DSClientCall where
  | stopDataCall
  | closeDataCall
  | release
  | init (isDueToSSR : Bool)
deriving DecidableEq, Repr

namespace AgpsManager

def dropSubscribers (m : AgpsManager) : AgpsManager :=
  { m with
    mAgnssNif := m.mAgnssNif.map (·.dropAllSubscribers)
    mInternetNif := m.mInternetNif.map (·.dropAllSubscribers)
    mDsNif := m.mDsNif.map (·.dropAllSubscribers) }

/-- The DS client functions are called whether they are registered or not. `none` is a call of one
that is not. -/
def handleModemSSR (client : DSClient) (m : AgpsManager) :
    Option (AgpsManager × List DSClientCall) :=
  let m := m.dropSubscribers
  if m.useEmergencyPdn then
    if client.stopDataCallFn && client.initFn.isSome then
      some (m, [.stopDataCall, .closeDataCall, .release, .init true])
    else none
  else some (m, [])

end AgpsManager

/-- An event for one machine, as the manager, the framework and the retry timer pass it on. -/
inductive NifOp where
  | subscribe (connHandle : Int) (waitForCloseComplete : Bool)
  | unsubscribe (connHandle : Int)
  | dataCallOpened
  | atlOpenSuccess (apnName : Option (List UInt8)) (apnLen : Nat) (bearerType : AGpsBearerType)
  | released
  | denied
  | retryTimer
deriving DecidableEq, Repr

namespace AgpsStateMachine

/-- One event, with what the DS client functions return in it. An UNSUBSCRIBE comes only with a
subscriber that was found in the list. -/
def nifStep (sm : AgpsStateMachine) (call : DSClient × NifOp) :
    AgpsStateMachine × List AgpsOut :=
  match call.2 with
  | .subscribe connHandle waitForCloseComplete =>
    sm.processAgpsEvent call.1 (.subscribe ⟨connHandle, waitForCloseComplete, false⟩)
  | .unsubscribe connHandle =>
    match sm.getSubscriber connHandle with
    | none => (sm, [])
    | some subscriber => sm.processAgpsEvent call.1 (.unsubscribe subscriber)
  | .dataCallOpened => sm.processAgpsEvent call.1 .granted
  | .atlOpenSuccess apnName apnLen bearerType =>
    ((sm.setBearer bearerType).setAPN apnName apnLen).processAgpsEvent call.1 .granted
  | .released => sm.processAgpsEvent call.1 .released
  | .denied => sm.processAgpsEvent call.1 .denied
  | .retryTimer => (sm, sm.retryCallback)

/-- On any events to come the machine answers as a new one of its class. -/
def LikeNew (sm : AgpsStateMachine) : Prop :=
  Indistinct nifStep sm (new sm.kind sm.mAgpsType)

/-- The APN and the bearer are read by a framework machine only, the retries by a DS machine. -/
structure Agrees (sm sm' : AgpsStateMachine) : Prop where
  kind : sm.kind = sm'.kind
  type : sm.mAgpsType = sm'.mAgpsType
  state : sm.mState = sm'.mState
  list : sm.mSubscriberList = sm'.mSubscriberList
  apn : sm.kind = .framework → sm.mAPN = sm'.mAPN
  bearer : sm.kind = .framework → sm.mBearer = sm'.mBearer
  retries : sm.kind = .ds → sm.mRetries = sm'.mRetries

/-- Two machines agree after a call, with the same calls out. -/
structure AgreesOn (r r' : AgpsStateMachine × List AgpsOut) : Prop where
  machine : Agrees r.1 r'.1
  outs : r.2 = r'.2

variable {sm sm' : AgpsStateMachine}

theorem Agrees.withList (h : Agrees sm sm') (l : List AgpsSubscriber) :
    Agrees { sm with mSubscriberList := l } { sm' with mSubscriberList := l } :=
  ⟨h.kind, h.type, h.state, rfl, h.apn, h.bearer, h.retries⟩

theorem Agrees.transition (h : Agrees sm sm') (newState : AgpsState) :
    Agrees (sm.transitionState newState) (sm'.transitionState newState) :=
  ⟨h.kind, h.type, rfl, h.list, h.apn, h.bearer, h.retries⟩

theorem Agrees.add (h : Agrees sm sm') (s : AgpsSubscriber) :
    Agrees (sm.addSubscriber s) (sm'.addSubscriber s) := by
  unfold addSubscriber
  rw [h.list]
  split
  · exact h
  · exact h.withList _

theorem Agrees.delete (h : Agrees sm sm') (s : AgpsSubscriber) :
    Agrees (sm.deleteSubscriber s) (sm'.deleteSubscriber s) := by
  unfold deleteSubscriber
  rw [h.list]
  exact h.withList _

theorem Agrees.first (h : Agrees sm sm') (isInactive : Bool) :
    sm.getFirstSubscriber isInactive = sm'.getFirstSubscriber isInactive := by
  unfold getFirstSubscriber
  rw [h.list]

theorem Agrees.anyActive (h : Agrees sm sm') :
    sm.anyActiveSubscribers = sm'.anyActiveSubscribers := by
  unfold anyActiveSubscribers
  rw [h.list]

theorem Agrees.notice_eq (h : Agrees sm sm') (event : AgpsEvent) (s : AgpsSubscriber) :
    sm.notice event s = sm'.notice event s := by
  unfold notice
  rw [← h.kind]
  cases hk : sm.kind with
  | framework =>
    dsimp only
    unfold frameworkNotice
    rw [h.apn hk, h.bearer hk, h.type]
  | ds => rfl

theorem Agrees.forget (h : Agrees sm sm') :
    Agrees { sm with mRetries := 0 } { sm' with mRetries := 0 } :=
  ⟨h.kind, h.type, h.state, h.list, h.apn, h.bearer, fun _ => rfl⟩

theorem Agrees.noticed (h : Agrees sm sm') (event : AgpsEvent) :
    Agrees (sm.noticed event) (sm'.noticed event) := by
  unfold AgpsStateMachine.noticed
  by_cases hd : sm.kind = .ds ∧ event = .denied
  · rw [if_pos hd, if_pos (h.kind ▸ hd)]
    exact h.forget
  · rw [if_neg hd, if_neg (h.kind ▸ hd)]
    exact h

theorem Agrees.notify (h : Agrees sm sm') (event : AgpsEvent) (s : AgpsSubscriber)
    (deletes : Bool) :
    AgreesOn (sm.notifyEventToSubscriber event s deletes)
      (sm'.notifyEventToSubscriber event s deletes) := by
  unfold notifyEventToSubscriber
  refine ⟨?_, h.notice_eq event s⟩
  dsimp only
  split
  · exact (h.noticed event).delete s
  · exact h.noticed event

theorem Agrees.notifyLoop (h : Agrees sm sm') (event : AgpsEvent) (deletes : Bool)
    (type : AgpsNotificationType) (passed rest : List AgpsSubscriber) :
    AgreesOn (notifyLoop event deletes type passed rest sm)
      (AgpsStateMachine.notifyLoop event deletes type passed rest sm') := by
  induction rest generalizing passed sm sm' with
  | nil => exact ⟨h.withList passed, rfl⟩
  | cons s rest ih =>
    unfold AgpsStateMachine.notifyLoop
    split
    · obtain ⟨hn, ho⟩ := h.notify event s false
      obtain ⟨hm, hmore⟩ := ih hn (if deletes then passed else passed ++ [s])
      refine ⟨hm, ?_⟩
      dsimp only
      rw [ho, hmore]
    · exact ih h _

theorem Agrees.notifyAll (h : Agrees sm sm') (event : AgpsEvent) (deletes : Bool)
    (type : AgpsNotificationType) :
    AgreesOn (sm.notifyAllSubscribers event deletes type)
      (sm'.notifyAllSubscribers event deletes type) := by
  unfold notifyAllSubscribers
  rw [h.list]
  exact h.notifyLoop event deletes type [] _

theorem Agrees.retry (h : Agrees sm sm') (hk : sm.kind = .ds) :
    Agrees { sm with mRetries := sm.mRetries + 1 } { sm' with mRetries := sm'.mRetries + 1 } :=
  ⟨h.kind, h.type, h.state, h.list, h.apn, h.bearer, fun _ => congrArg (· + 1) (h.retries hk)⟩

theorem Agrees.dsRequest (h : Agrees sm sm') (hk : sm.kind = .ds) (client : DSClient)
    (request : Bool) :
    Agrees (sm.dsRequestOrRelease client request).1 (sm'.dsRequestOrRelease client request).1 ∧
      (sm.dsRequestOrRelease client request).2 = (sm'.dsRequestOrRelease client request).2 := by
  unfold dsRequestOrRelease
  rw [← h.first false]
  split
  · exact ⟨h, rfl⟩
  split
  next => exact ⟨h, rfl⟩
  next s _ =>
    obtain ⟨hd, ho⟩ := h.notify .denied s false
    split
    next => exact ⟨hd, congrArg (·, (-1 : Int)) ho⟩
    next ret _ =>
      split
      · have hr := h.retry hk
        obtain ⟨hd, ho⟩ := hr.notify .denied s false
        dsimp only
        rw [h.retries hk] at hd ho ⊢
        split
        · exact ⟨hd, by rw [ho]⟩
        · exact ⟨h.retries hk ▸ hr, rfl⟩
      grind

theorem Agrees.request (h : Agrees sm sm') (client : DSClient) (request : Bool) :
    Agrees (sm.requestOrReleaseDataConn client request).1
        (sm'.requestOrReleaseDataConn client request).1 ∧
      (sm.requestOrReleaseDataConn client request).2 =
        (sm'.requestOrReleaseDataConn client request).2 := by
  unfold requestOrReleaseDataConn
  rw [← h.kind]
  cases hk : sm.kind with
  | framework =>
    refine ⟨h, ?_⟩
    dsimp only [frameworkRequestOrRelease]
    rw [h.type]
  | ds => exact h.dsRequest hk client request

theorem Agrees.subscribe (h : Agrees sm sm') (client : DSClient) (s : AgpsSubscriber) :
    AgreesOn (sm.processAgpsEventSubscribe client s)
      (sm'.processAgpsEventSubscribe client s) := by
  have hadd := h.add s
  unfold processAgpsEventSubscribe
  rw [← h.state]
  split
  next =>
    obtain ⟨hm, ho⟩ := hadd.request client true
    generalize (sm.addSubscriber s).requestOrReleaseDataConn client true = r at hm ho ⊢
    generalize (sm'.addSubscriber s).requestOrReleaseDataConn client true = r' at hm ho ⊢
    obtain ⟨after, outs, ret⟩ := r
    obtain ⟨after', outs', ret'⟩ := r'
    cases ho
    dsimp only at hm ⊢
    split
    · exact ⟨hm.transition .pending, rfl⟩
    · exact ⟨hm, rfl⟩
  next => exact ⟨hadd, rfl⟩
  next => exact ⟨hadd, rfl⟩
  next =>
    obtain ⟨hm, ho⟩ := h.notify .granted s false
    exact ⟨hm.add s, ho⟩

theorem Agrees.retire (h : Agrees sm sm') (s : AgpsSubscriber) :
    AgreesOn (sm.retireSubscriber s) (sm'.retireSubscriber s) := by
  unfold retireSubscriber
  split
  · refine ⟨?_, rfl⟩
    unfold setInactive
    dsimp only
    rw [h.list]
    exact h.withList _
  · exact h.notify (.unsubscribe s) s true

theorem AgreesOn.thenRequest {r r' : AgpsStateMachine × List AgpsOut} (h : AgreesOn r r')
    (newState : AgpsState) (client : DSClient) (request : Bool) :
    let more := (r.1.transitionState newState).requestOrReleaseDataConn client request
    let more' := (r'.1.transitionState newState).requestOrReleaseDataConn client request
    AgreesOn (more.1, r.2 ++ more.2.1) (more'.1, r'.2 ++ more'.2.1) := by
  obtain ⟨hm, ho⟩ := (h.machine.transition newState).request client request
  refine ⟨hm, ?_⟩
  dsimp only
  rw [h.outs, ho]

theorem Agrees.leave (h : Agrees sm sm') (client : DSClient) (s : AgpsSubscriber) :
    AgreesOn (sm.leaveConnection client s) (sm'.leaveConnection client s) := by
  have hret := h.retire s
  unfold leaveConnection
  generalize sm.retireSubscriber s = r at hret ⊢
  generalize sm'.retireSubscriber s = r' at hret ⊢
  obtain ⟨after, outs⟩ := r
  obtain ⟨after', outs'⟩ := r'
  dsimp only
  rw [← hret.machine.anyActive, ← show after.mSubscriberList = after'.mSubscriberList from
    hret.machine.list]
  split
  · exact hret.thenRequest .released client false
  split
  · exact hret.thenRequest .releasing client false
  · exact hret

theorem Agrees.unsubscribe (h : Agrees sm sm') (client : DSClient) (s : AgpsSubscriber) :
    AgreesOn (sm.processAgpsEventUnsubscribe client s)
      (sm'.processAgpsEventUnsubscribe client s) := by
  unfold processAgpsEventUnsubscribe
  rw [← h.state]
  split
  next => exact h.notify (.unsubscribe s) s false
  next => exact h.leave client s
  next => exact h.leave client s
  next =>
    obtain ⟨hm, ho⟩ := h.retire s
    dsimp only
    rw [← hm.list, ← ho]
    split
    · exact ⟨hm.transition .released, rfl⟩
    · exact ⟨hm, rfl⟩

theorem Agrees.granted (h : Agrees sm sm') :
    AgreesOn sm.processAgpsEventGranted sm'.processAgpsEventGranted := by
  unfold processAgpsEventGranted
  rw [← h.state]
  split
  next => exact ⟨h, rfl⟩
  next => exact ⟨h, rfl⟩
  next => exact ⟨h, rfl⟩
  next => exact (h.transition .acquired).notifyAll _ _ _

theorem Agrees.finish (h : Agrees sm sm') (client : DSClient) :
    AgreesOn (sm.finishReleasing client) (sm'.finishReleasing client) := by
  have hall := h.notifyAll .released true .forInactiveSubscribers
  unfold finishReleasing
  generalize sm.notifyAllSubscribers .released true .forInactiveSubscribers = r at hall ⊢
  generalize sm'.notifyAllSubscribers .released true .forInactiveSubscribers = r' at hall ⊢
  obtain ⟨after, outs⟩ := r
  obtain ⟨after', outs'⟩ := r'
  dsimp only
  rw [← hall.machine.anyActive]
  split
  · exact hall.thenRequest .pending client true
  · exact ⟨hall.machine.transition .released, hall.outs⟩

theorem Agrees.dispatch (h : Agrees sm sm') (client : DSClient) (event : AgpsEvent) :
    AgreesOn (sm.dispatchEvent client event) (sm'.dispatchEvent client event) := by
  cases event with
  | subscribe s => exact h.subscribe client s
  | unsubscribe s => exact h.unsubscribe client s
  | granted => exact h.granted
  | released =>
    unfold dispatchEvent processAgpsEventReleased
    dsimp only
    rw [← h.state]
    split
    next => exact ⟨h, rfl⟩
    next => exact ⟨h, rfl⟩
    next => exact (h.transition .released).notifyAll _ _ _
    next => exact h.finish client
  | denied =>
    unfold dispatchEvent processAgpsEventDenied
    dsimp only
    rw [← h.state]
    split
    next => exact ⟨h, rfl⟩
    next => exact ⟨h, rfl⟩
    next => exact h.finish client
    next => exact (h.transition .released).notifyAll _ _ _

theorem Agrees.process (h : Agrees sm sm') (client : DSClient) (event : AgpsEvent) :
    AgreesOn (sm.processAgpsEvent client event) (sm'.processAgpsEvent client event) := by
  have htr : sm'.translate event = sm.translate event := by
    unfold translate
    rw [h.kind, h.state]
  unfold processAgpsEvent
  rw [htr]
  exact h.dispatch client _

theorem Agrees.setApn (h : Agrees sm sm') (bearer : AGpsBearerType)
    (apn : Option (List UInt8)) (len : Nat) :
    Agrees ((sm.setBearer bearer).setAPN apn len) ((sm'.setBearer bearer).setAPN apn len) := by
  have hset : ∀ name, Agrees { sm with mBearer := bearer, mAPN := name }
      { sm' with mBearer := bearer, mAPN := name } :=
    fun _ => ⟨h.kind, h.type, h.state, h.list, fun _ => rfl, fun _ => rfl, h.retries⟩
  unfold setAPN
  split
  next => exact hset none
  next name =>
    split
    · exact hset none
    · exact hset (some name)

theorem Agrees.step (h : Agrees sm sm') (call : DSClient × NifOp) :
    AgreesOn (sm.nifStep call) (sm'.nifStep call) := by
  obtain ⟨client, op⟩ := call
  cases op with
  | subscribe connHandle wait => exact h.process client _
  | unsubscribe connHandle =>
    have hget : sm'.getSubscriber connHandle = sm.getSubscriber connHandle := by
      unfold getSubscriber
      rw [h.list]
    unfold nifStep
    dsimp only
    rw [hget]
    split
    next => exact ⟨h, rfl⟩
    next s _ => exact h.process client _
  | dataCallOpened => exact h.process client _
  | atlOpenSuccess apnName apnLen bearerType =>
    exact (h.setApn bearerType apnName apnLen).process client _
  | released => exact h.process client _
  | denied => exact h.process client _
  | retryTimer =>
    refine ⟨h, ?_⟩
    dsimp only [nifStep, retryCallback]
    rw [h.first]

theorem Agrees.indistinct (h : Agrees sm sm') : Indistinct nifStep sm sm' := by
  refine indistinct_of_simulation (R := Agrees) (fun s t call hst => ?_) h
  obtain ⟨hm, ho⟩ := hst.step call
  exact ⟨hm, ho⟩

/-- Apart from its list the machine is as new, as far as its class reads it. -/
structure AsNew (sm : AgpsStateMachine) : Prop where
  released : sm.mState = .released
  apn : sm.kind = .framework → sm.mAPN = none
  bearer : sm.kind = .framework → sm.mBearer = .invalid
  retries : sm.kind = .ds → sm.mRetries = 0

theorem AsNew.likeNew (h : sm.AsNew) : sm.dropAllSubscribers.LikeNew := by
  apply Agrees.indistinct
  exact ⟨rfl, rfl, h.released, rfl, h.apn, h.bearer, h.retries⟩

/-- A subscription, where the start of the data call returns `ret`. -/
def firstCall (ret : Int) : DSClient × NifOp := (⟨none, some ret, true⟩, .subscribe 0 false)

theorem released_of_likeNew (h : sm.dropAllSubscribers.LikeNew) : sm.mState = .released := by
  have ha := h.answer (firstCall locApiAdapterErrSuccess)
  obtain ⟨kind, type, state, list, apn, bearer, retries⟩ := sm
  cases kind with
  | framework =>
    cases state with
    | released => rfl
    | pending => cases ha
    | acquired => cases ha
    | releasing => cases ha
  | ds =>
    cases state with
    | released => rfl
    | pending => cases ha
    | acquired => cases ha
    | releasing => cases ha

theorem apn_of_likeNew (h : sm.dropAllSubscribers.LikeNew) (hk : sm.kind = .framework) :
    sm.mAPN = none ∧ sm.mBearer = .invalid := by
  have hst := released_of_likeNew h
  have ha := (h.next (firstCall 0)).answer (⟨none, none, true⟩, .denied)
  obtain ⟨kind, type, state, list, apn, bearer, retries⟩ := sm
  dsimp only at hk hst
  subst hk hst
  have he : AgpsOut.atlOpenStatus 0 false apn bearer type =
      AgpsOut.atlOpenStatus 0 false none .invalid type := (List.cons.inj ha).1
  injection he with _ _ hapn hbearer _
  exact ⟨hapn, hbearer⟩

theorem busy_step (type : AGpsExtType) {list : List AgpsSubscriber}
    (hl : list = [] ∨ list = [⟨0, false, false⟩]) (apn : Option (List UInt8))
    (bearer : AGpsBearerType) (retries : Nat) :
    nifStep ⟨.ds, type, .released, list, apn, bearer, retries⟩
        (firstCall locApiAdapterErrEngineBusy) =
      if retries + 1 > maxStartDataCallRetries then
        (⟨.ds, type, .released, [⟨0, false, false⟩], apn, bearer, 0⟩,
          [.openAndStartDataCall, .sendRequestATL 0 locAgpsTypeSupl])
      else
        (⟨.ds, type, .released, [⟨0, false, false⟩], apn, bearer, retries + 1⟩,
          [.openAndStartDataCall, .startRetryTimer]) := by
  by_cases hr : retries + 1 > maxStartDataCallRetries
  · rcases hl with rfl | rfl <;>
      simp [nifStep, firstCall, processAgpsEvent, dispatchEvent, translate,
        processAgpsEventSubscribe, addSubscriber, requestOrReleaseDataConn, dsRequestOrRelease,
        getFirstSubscriber, hr, notifyEventToSubscriber, notice, dsNotice, noticed,
        locApiAdapterErrEngineBusy]
  · rcases hl with rfl | rfl <;>
      simp [nifStep, firstCall, processAgpsEvent, dispatchEvent, translate,
        processAgpsEventSubscribe, addSubscriber, requestOrReleaseDataConn, dsRequestOrRelease,
        getFirstSubscriber, hr]

theorem retries_of_likeNew (h : sm.dropAllSubscribers.LikeNew) (hk : sm.kind = .ds) :
    sm.mRetries = 0 := by
  have hst := released_of_likeNew h
  let busy := firstCall locApiAdapterErrEngineBusy
  have ha := h [busy, busy, busy, busy]
  obtain ⟨kind, type, state, list, apn, bearer, retries⟩ := sm
  dsimp only at hk hst
  subst hk hst
  unfold dropAllSubscribers new at ha
  rcases retries with _ | _ | _ | _ | n
  · rfl
  · simp [outputs, busy, busy_step, maxStartDataCallRetries] at ha
  · simp [outputs, busy, busy_step, maxStartDataCallRetries] at ha
  · simp [outputs, busy, busy_step, maxStartDataCallRetries] at ha
  · simp [outputs, busy, busy_step, maxStartDataCallRetries] at ha

theorem likeNew_drop_iff (sm : AgpsStateMachine) :
    sm.dropAllSubscribers.LikeNew ↔ sm.AsNew := by
  constructor
  · intro h
    exact ⟨released_of_likeNew h, fun hk => (apn_of_likeNew h hk).1,
      fun hk => (apn_of_likeNew h hk).2, fun hk => retries_of_likeNew h hk⟩
  · exact AsNew.likeNew

end AgpsStateMachine

namespace AgpsManager

/-- A restart that returns leaves machines that answer as new ones. -/
def RestartsFresh (client : DSClient) (m : AgpsManager) : Prop :=
  ∀ m' calls, m.handleModemSSR client = some (m', calls) →
    ∀ n sm, m'.nif n = some sm → sm.LikeNew

/-- The restart calls the DS client, and its functions are registered. -/
def CanRestart (client : DSClient) (m : AgpsManager) : Prop :=
  m.useEmergencyPdn = true → client.stopDataCallFn = true ∧ client.initFn ≠ none

theorem nif_drop (m : AgpsManager) (n : Nif) :
    m.dropSubscribers.nif n = (m.nif n).map (·.dropAllSubscribers) := by
  cases n <;> rfl

theorem handleModemSSR_returns {client : DSClient} {m : AgpsManager}
    (hc : m.CanRestart client) : ∃ calls, m.handleModemSSR client = some (m.dropSubscribers, calls) := by
  have huse : m.dropSubscribers.useEmergencyPdn = m.useEmergencyPdn := rfl
  unfold handleModemSSR
  dsimp only
  rw [huse]
  split
  next hu =>
    obtain ⟨hstop, hinit⟩ := hc hu
    rw [hstop, Option.isSome_iff_ne_none.mpr hinit]
    exact ⟨_, rfl⟩
  next => exact ⟨_, rfl⟩

theorem handleModemSSR_eq {client : DSClient} {m m' : AgpsManager} {calls : List DSClientCall}
    (hr : m.handleModemSSR client = some (m', calls)) : m.CanRestart client ∧ m' = m.dropSubscribers := by
  have huse : m.dropSubscribers.useEmergencyPdn = m.useEmergencyPdn := rfl
  unfold handleModemSSR at hr
  dsimp only at hr
  rw [huse] at hr
  split at hr
  next hu =>
    split at hr
    next hreg =>
      obtain ⟨hstop, hinit⟩ := Bool.and_eq_true_iff.mp hreg
      cases hr
      exact ⟨fun _ => ⟨hstop, Option.isSome_iff_ne_none.mp hinit⟩, rfl⟩
    next => cases hr
  next hu =>
    cases hr
    exact ⟨fun h => absurd h hu, rfl⟩

/-- The machines answer as new ones exactly if the restart finds each of them RELEASED, with no
APN, bearer or retries left that it reads. -/
theorem restartsFresh_iff (client : DSClient) (m : AgpsManager) :
    m.RestartsFresh client ↔
      (m.CanRestart client → ∀ n sm, m.nif n = some sm → sm.AsNew) := by
  constructor
  · intro h hc n sm hn
    obtain ⟨calls, hr⟩ := handleModemSSR_returns hc
    have hn' : m.dropSubscribers.nif n = some sm.dropAllSubscribers := by
      rw [nif_drop, hn]
      rfl
    exact (AgpsStateMachine.likeNew_drop_iff sm).mp (h _ calls hr n _ hn')
  · intro h m' calls hr n sm' hn'
    obtain ⟨hc, rfl⟩ := handleModemSSR_eq hr
    rw [nif_drop] at hn'
    obtain ⟨sm, hn, rfl⟩ := Option.map_eq_some_iff.mp hn'
    exact (AgpsStateMachine.likeNew_drop_iff sm).mpr (h hc n sm hn)

end AgpsManager

namespace AgpsSystem

def acquiredRun : List (DSClient × AgpsOp) :=
  let client : DSClient := ⟨none, none, false⟩
  [(client, .createAgpsStateMachines), (client, .requestATL 1 locAgpsTypeSupl),
    (client, .reportAtlOpenSuccess locAgpsTypeSupl none 0 .ipv4)]

/-- The first request after the restart is told of the connection of before. A new manager asks
the framework for one. -/
theorem restart_grants_at_once : ∃ s m calls,
    runOps step (AgpsSystem.new true false) acquiredRun = some s ∧
      s.mgr.handleModemSSR ⟨none, none, false⟩ = some (m, calls) ∧
      ¬s.mgr.RestartsFresh ⟨none, none, false⟩ ∧
      (m.requestATL ⟨none, none, false⟩ 2 locAgpsTypeSupl).2 =
        [.atlOpenStatus 2 true none .ipv4 locAgpsTypeSupl] ∧
      (((AgpsSystem.new true false).mgr.createAgpsStateMachines ⟨none, none, false⟩).requestATL
        ⟨none, none, false⟩ 2 locAgpsTypeSupl).2 = [.frameworkStatus locAgpsTypeSupl true] := by
  refine ⟨_, _, [], rfl, rfl, fun h => ?_, rfl, rfl⟩
  have hlike := h _ _ rfl .agnss _ rfl
  have hanswer := hlike.answer (AgpsStateMachine.firstCall 0)
  cases hanswer

end AgpsSystem

end DeviceHal.Gps
