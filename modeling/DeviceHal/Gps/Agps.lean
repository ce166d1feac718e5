import Mathlib.Data.List.Basic

namespace DeviceHal.Gps

/-- `AGpsExtType`. -/
abbrev AGpsExtType := Int8

def locAgpsTypeInvalid : AGpsExtType := -1
def locAgpsTypeSupl : AGpsExtType := 1
def locAgpsTypeWwanAny : AGpsExtType := 3
def locAgpsTypeSuplEs : AGpsExtType := 5

inductive AGpsBearerType where
  | invalid
  | ipv4
  | ipv6
  | ipv4v6
deriving DecidableEq, Repr

inductive AgpsState where
  | released
  | pending
  | acquired
  | releasing
deriving DecidableEq, Repr

inductive AgpsNotificationType where
  | forAllSubscribers
  | forInactiveSubscribers
  | forActiveSubscribers
deriving DecidableEq, Repr

/-- One AGPS request. -/
structure AgpsSubscriber where
  mConnHandle : Int
  mWaitForCloseComplete : Bool
  mIsInactive : Bool
deriving DecidableEq, Repr

/-- An event, with `mCurrentSubscriber` for the two that read it. -/
inductive AgpsEvent where
  | subscribe (mCurrentSubscriber : AgpsSubscriber)
  | unsubscribe (mCurrentSubscriber : AgpsSubscriber)
  | granted
  | released
  | denied
deriving DecidableEq, Repr

/-- The calls out of the AGPS code. -/
inductive AgpsOut where
  | frameworkStatus (agpsType : AGpsExtType) (request : Bool)
  | atlOpenStatus (handle : Int) (isSuccess : Bool) (apn : Option (List UInt8))
      (bearerType : AGpsBearerType) (agpsType : AGpsExtType)
  | atlCloseStatus (handle : Int) (isSuccess : Bool)
  | sendRequestATL (handle : Int) (agpsType : AGpsExtType)
  | openAndStartDataCall
  | stopDataCall
  | closeDataCall
  | startRetryTimer
deriving DecidableEq, Repr

/-- The DS client functions: what a registered one returns, or whether it is registered. -/
structure DSClient where
  initFn : Option Int
  openAndStartDataCallFn : Option Int
  stopDataCallFn : Bool
deriving DecidableEq, Repr

def maxApnLen : Nat := 100

def locApiAdapterErrSuccess : Int := 0
def locApiAdapterErrUnsupported : Int := 2
def locApiAdapterErrEngineBusy : Int := 6

/-- Which class a machine is of: `AgpsStateMachine`, or `DSStateMachine`, which overrides it. -/
inductive NifKind where
  | framework
  | ds
deriving DecidableEq, Repr

/-- `mRetries` is of the DS machine only. -/
structure AgpsStateMachine where
  kind : NifKind
  mAgpsType : AGpsExtType
  mState : AgpsState := .released
  mSubscriberList : List AgpsSubscriber := []
  mAPN : Option (List UInt8) := none
  mBearer : AGpsBearerType := .invalid
  mRetries : Nat := 0
deriving DecidableEq, Repr

namespace AgpsStateMachine

def maxStartDataCallRetries : Nat := 4

def transitionState (newState : AgpsState) (sm : AgpsStateMachine) : AgpsStateMachine :=
  { sm with mState := newState }

/-- `apn` are the bytes of the string, up to its terminator. -/
def setAPN (apn : Option (List UInt8)) (len : Nat) (sm : AgpsStateMachine) : AgpsStateMachine :=
  match apn with
  | none => { sm with mAPN := none }
  | some name =>
    if len = 0 ∨ len > maxApnLen ∨ name.length ≠ len then { sm with mAPN := none }
    else { sm with mAPN := some name }

def setBearer (bearer : AGpsBearerType) (sm : AgpsStateMachine) : AgpsStateMachine :=
  { sm with mBearer := bearer }

def getSubscriber (connHandle : Int) (sm : AgpsStateMachine) : Option AgpsSubscriber :=
  sm.mSubscriberList.find? (·.mConnHandle = connHandle)

def getFirstSubscriber (isInactive : Bool) (sm : AgpsStateMachine) : Option AgpsSubscriber :=
  sm.mSubscriberList.find? (·.mIsInactive = isInactive)

def anyActiveSubscribers (sm : AgpsStateMachine) : Bool :=
  sm.mSubscriberList.any (!·.mIsInactive)

def addSubscriber (subscriberToAdd : AgpsSubscriber) (sm : AgpsStateMachine) : AgpsStateMachine :=
  if sm.mSubscriberList.any (·.mConnHandle = subscriberToAdd.mConnHandle) then sm
  else { sm with mSubscriberList := sm.mSubscriberList ++ [subscriberToAdd] }

def deleteSubscriber (subscriberToDelete : AgpsSubscriber) (sm : AgpsStateMachine) :
    AgpsStateMachine :=
  { sm with
    mSubscriberList :=
      sm.mSubscriberList.filter (·.mConnHandle ≠ subscriberToDelete.mConnHandle) }

/-- Marks the subscriber that `getSubscriber` finds. -/
def markInactive (connHandle : Int) : List AgpsSubscriber → List AgpsSubscriber
  | [] => []
  | subscriber :: rest =>
    if subscriber.mConnHandle = connHandle then { subscriber with mIsInactive := true } :: rest
    else subscriber :: markInactive connHandle rest

def setInactive (subscriber : AgpsSubscriber) (sm : AgpsStateMachine) : AgpsStateMachine :=
  { sm with mSubscriberList := markInactive subscriber.mConnHandle sm.mSubscriberList }

/-- What `AgpsStateMachine::notifyEventToSubscriber` calls. -/
def frameworkNotice (event : AgpsEvent) (subscriber : AgpsSubscriber) (sm : AgpsStateMachine) :
    List AgpsOut :=
  match event with
  | .granted =>
    [.atlOpenStatus subscriber.mConnHandle true sm.mAPN sm.mBearer sm.mAgpsType]
  | .denied =>
    [.atlOpenStatus subscriber.mConnHandle false sm.mAPN sm.mBearer sm.mAgpsType]
  | .unsubscribe _ | .released => [.atlCloseStatus subscriber.mConnHandle true]
  | .subscribe _ => []

/-- What `DSStateMachine::notifyEventToSubscriber` calls. -/
def dsNotice (event : AgpsEvent) (subscriber : AgpsSubscriber) : List AgpsOut :=
  match event with
  | .granted => [.atlOpenStatus subscriber.mConnHandle true none .invalid locAgpsTypeSuplEs]
  | .denied => [.sendRequestATL subscriber.mConnHandle locAgpsTypeSupl]
  | .unsubscribe _ => [.atlCloseStatus subscriber.mConnHandle true]
  | .released => [.closeDataCall, .atlCloseStatus subscriber.mConnHandle true]
  | .subscribe _ => []

def notice (event : AgpsEvent) (subscriber : AgpsSubscriber) (sm : AgpsStateMachine) :
    List AgpsOut :=
  match sm.kind with
  | .framework => sm.frameworkNotice event subscriber
  | .ds => dsNotice event subscriber

/-- A denial makes the DS machine forget its retries. -/
def noticed (event : AgpsEvent) (sm : AgpsStateMachine) : AgpsStateMachine :=
  if sm.kind = .ds ∧ event = .denied then { sm with mRetries := 0 } else sm

def notifyEventToSubscriber (event : AgpsEvent) (subscriberToNotify : AgpsSubscriber)
    (deleteSubscriberPostNotify : Bool) (sm : AgpsStateMachine) :
    AgpsStateMachine × List AgpsOut :=
  let outs := sm.notice event subscriberToNotify
  let sm := sm.noticed event
  (if deleteSubscriberPostNotify then sm.deleteSubscriber subscriberToNotify else sm, outs)

end AgpsStateMachine

def AgpsNotificationType.meets (notificationType : AgpsNotificationType)
    (subscriber : AgpsSubscriber) : Bool :=
  match notificationType with
  | .forAllSubscribers => true
  | .forInactiveSubscribers => subscriber.mIsInactive
  | .forActiveSubscribers => !subscriber.mIsInactive

namespace AgpsStateMachine

/-- The loop of `notifyAllSubscribers`: `passed` are the subscribers it has gone past and kept. -/
def notifyLoop (event : AgpsEvent) (deleteSubscriberPostNotify : Bool)
    (notificationType : AgpsNotificationType) (passed : List AgpsSubscriber) :
    List AgpsSubscriber → AgpsStateMachine → AgpsStateMachine × List AgpsOut
  | [], sm => ({ sm with mSubscriberList := passed }, [])
  | subscriber :: rest, sm =>
    if notificationType.meets subscriber then
      let (sm, notified) := sm.notifyEventToSubscriber event subscriber false
      let passed := if deleteSubscriberPostNotify then passed else passed ++ [subscriber]
      let (sm, outs) :=
        notifyLoop event deleteSubscriberPostNotify notificationType passed rest sm
      (sm, notified ++ outs)
    else
      notifyLoop event deleteSubscriberPostNotify notificationType (passed ++ [subscriber]) rest sm

def notifyAllSubscribers (event : AgpsEvent) (deleteSubscriberPostNotify : Bool)
    (notificationType : AgpsNotificationType) (sm : AgpsStateMachine) :
    AgpsStateMachine × List AgpsOut :=
  notifyLoop event deleteSubscriberPostNotify notificationType [] sm.mSubscriberList sm

def frameworkRequestOrRelease (request : Bool) (sm : AgpsStateMachine) :
    AgpsStateMachine × List AgpsOut × Int :=
  (sm, [.frameworkStatus sm.mAgpsType request], 0)

/-- `loc_timer_start` returns the timer it has started, which the code takes for an error. -/
def dsRequestOrRelease (client : DSClient) (request : Bool) (sm : AgpsStateMachine) :
    AgpsStateMachine × List AgpsOut × Int :=
  if !request && client.stopDataCallFn then (sm, [.stopDataCall], 0)
  else match sm.getFirstSubscriber false with
    | none => (sm, [], -1)
    | some subscriber =>
      match client.openAndStartDataCallFn with
      | none =>
        let (sm, outs) := sm.notifyEventToSubscriber .denied subscriber false
        (sm, outs, -1)
      | some ret =>
        if ret = locApiAdapterErrEngineBusy then
          let sm := { sm with mRetries := sm.mRetries + 1 }
          if sm.mRetries > maxStartDataCallRetries then
            let (sm, outs) := sm.notifyEventToSubscriber .denied subscriber false
            (sm, .openAndStartDataCall :: outs, ret)
          else (sm, [.openAndStartDataCall, .startRetryTimer], -1)
        else if ret = locApiAdapterErrUnsupported then
          let (sm, outs) := sm.notifyEventToSubscriber .denied subscriber false
          (sm, .openAndStartDataCall :: outs, ret)
        else (sm, [.openAndStartDataCall], ret)

def requestOrReleaseDataConn (client : DSClient) (request : Bool) (sm : AgpsStateMachine) :
    AgpsStateMachine × List AgpsOut × Int :=
  match sm.kind with
  | .framework => sm.frameworkRequestOrRelease request
  | .ds => sm.dsRequestOrRelease client request

def processAgpsEventSubscribe (client : DSClient) (current : AgpsSubscriber)
    (sm : AgpsStateMachine) : AgpsStateMachine × List AgpsOut :=
  match sm.mState with
  | .released =>
    let (sm, outs, ret) := (sm.addSubscriber current).requestOrReleaseDataConn client true
    (if ret = 0 then sm.transitionState .pending else sm, outs)
  | .pending | .releasing => (sm.addSubscriber current, [])
  | .acquired =>
    let (sm, outs) := sm.notifyEventToSubscriber .granted current false
    (sm.addSubscriber current, outs)

/-- The subscriber leaves, or waits for the connection to close. -/
def retireSubscriber (current : AgpsSubscriber) (sm : AgpsStateMachine) :
    AgpsStateMachine × List AgpsOut :=
  if current.mWaitForCloseComplete then (sm.setInactive current, [])
  else sm.notifyEventToSubscriber (.unsubscribe current) current true

/-- UNSUBSCRIBE in PENDING and ACQUIRED: the connection goes with the last active subscriber. -/
def leaveConnection (client : DSClient) (current : AgpsSubscriber) (sm : AgpsStateMachine) :
    AgpsStateMachine × List AgpsOut :=
  let (sm, outs) := sm.retireSubscriber current
  if sm.mSubscriberList.isEmpty then
    let (sm, more, _) := (sm.transitionState .released).requestOrReleaseDataConn client false
    (sm, outs ++ more)
  else if !sm.anyActiveSubscribers then
    let (sm, more, _) := (sm.transitionState .releasing).requestOrReleaseDataConn client false
    (sm, outs ++ more)
  else (sm, outs)

def processAgpsEventUnsubscribe (client : DSClient) (current : AgpsSubscriber)
    (sm : AgpsStateMachine) : AgpsStateMachine × List AgpsOut :=
  match sm.mState with
  | .released => sm.notifyEventToSubscriber (.unsubscribe current) current false
  | .pending | .acquired => sm.leaveConnection client current
  | .releasing =>
    let (sm, outs) := sm.retireSubscriber current
    (if sm.mSubscriberList.isEmpty then sm.transitionState .released else sm, outs)

def processAgpsEventGranted (sm : AgpsStateMachine) : AgpsStateMachine × List AgpsOut :=
  match sm.mState with
  | .released | .acquired | .releasing => (sm, [])
  | .pending =>
    (sm.transitionState .acquired).notifyAllSubscribers .granted false .forActiveSubscribers

/-- RELEASING ends: the subscribers that wait are notified, and those that came since are served. -/
def finishReleasing (client : DSClient) (sm : AgpsStateMachine) :
    AgpsStateMachine × List AgpsOut :=
  let (sm, outs) := sm.notifyAllSubscribers .released true .forInactiveSubscribers
  if sm.anyActiveSubscribers then
    let (sm, more, _) := (sm.transitionState .pending).requestOrReleaseDataConn client true
    (sm, outs ++ more)
  else (sm.transitionState .released, outs)

def processAgpsEventReleased (client : DSClient) (sm : AgpsStateMachine) :
    AgpsStateMachine × List AgpsOut :=
  match sm.mState with
  | .released | .pending => (sm, [])
  | .acquired =>
    (sm.transitionState .released).notifyAllSubscribers .released true .forAllSubscribers
  | .releasing => sm.finishReleasing client

def processAgpsEventDenied (client : DSClient) (sm : AgpsStateMachine) :
    AgpsStateMachine × List AgpsOut :=
  match sm.mState with
  | .released | .acquired => (sm, [])
  | .releasing => sm.finishReleasing client
  | .pending =>
    (sm.transitionState .released).notifyAllSubscribers .denied true .forAllSubscribers

/-- `AgpsStateMachine::processAgpsEvent`. -/
def dispatchEvent (client : DSClient) (event : AgpsEvent) (sm : AgpsStateMachine) :
    AgpsStateMachine × List AgpsOut :=
  match event with
  | .subscribe current => sm.processAgpsEventSubscribe client current
  | .unsubscribe current => sm.processAgpsEventUnsubscribe client current
  | .granted => sm.processAgpsEventGranted
  | .released => sm.processAgpsEventReleased client
  | .denied => sm.processAgpsEventDenied client

/-- The DS machine considers RELEASED as DENIED while it is PENDING. -/
def translate (event : AgpsEvent) (sm : AgpsStateMachine) : AgpsEvent :=
  if sm.kind = .ds ∧ event = .released ∧ sm.mState = .pending then .denied else event

def processAgpsEvent (client : DSClient) (event : AgpsEvent) (sm : AgpsStateMachine) :
    AgpsStateMachine × List AgpsOut :=
  sm.dispatchEvent client (sm.translate event)

/-- The message that the retry timer of a DS machine sends. -/
def retryCallback (sm : AgpsStateMachine) : List AgpsOut :=
  match sm.getFirstSubscriber false with
  | none => []
  | some subscriber => [.sendRequestATL subscriber.mConnHandle locAgpsTypeSuplEs]

end AgpsStateMachine

/-- The configuration bits read here are `agpsCapable` (MSA or MSB) and
`useEmergencyPdn` (USE_EMERGENCY_PDN_FOR_EMERGENCY_SUPL). -/
structure AgpsManager where
  agpsCapable : Bool
  useEmergencyPdn : Bool
  mAgnssNif : Option AgpsStateMachine := none
  mInternetNif : Option AgpsStateMachine := none
  mDsNif : Option AgpsStateMachine := none
deriving DecidableEq, Repr

/-- The three pointers of the manager. -/
inductive Nif where
  | agnss
  | internet
  | ds
deriving DecidableEq, Repr

namespace AgpsManager

def nif (m : AgpsManager) : Nif → Option AgpsStateMachine
  | .agnss => m.mAgnssNif
  | .internet => m.mInternetNif
  | .ds => m.mDsNif

def setNif (n : Nif) (sm : AgpsStateMachine) (m : AgpsManager) : AgpsManager :=
  match n with
  | .agnss => { m with mAgnssNif := some sm }
  | .internet => { m with mInternetNif := some sm }
  | .ds => { m with mDsNif := some sm }

def createNif (n : Nif) (kind : NifKind) (agpsType : AGpsExtType) (m : AgpsManager) :
    AgpsManager :=
  if (m.nif n).isNone then m.setNif n { kind, mAgpsType := agpsType } else m

def createAgpsStateMachines (client : DSClient) (m : AgpsManager) : AgpsManager :=
  let m := m.createNif .internet .framework locAgpsTypeWwanAny
  if m.agpsCapable then
    let m := m.createNif .agnss .framework locAgpsTypeSupl
    if m.mDsNif.isNone && m.useEmergencyPdn then
      match client.initFn with
      | none => m
      | some ret => if ret ≠ 0 then m else m.createNif .ds .ds locAgpsTypeSuplEs
    else m
  else m

/-- Which machine serves a type. The first call for SUPL_ES may create it. -/
def getAgpsStateMachine (client : DSClient) (agpsType : AGpsExtType) (m : AgpsManager) :
    AgpsManager × Nif :=
  if agpsType = locAgpsTypeInvalid ∨ agpsType = locAgpsTypeSupl then (m, .agnss)
  else if agpsType = locAgpsTypeSuplEs then
    if m.useEmergencyPdn then
      (if m.mDsNif.isNone then m.createAgpsStateMachines client else m, .ds)
    else (m, .agnss)
  else (m, .internet)

/-- Sends an event to a machine of the manager. `none` is a call through a null pointer. -/
def sendEvent (client : DSClient) (n : Nif) (event : AgpsEvent) (m : AgpsManager) :
    Option (AgpsManager × List AgpsOut) :=
  (m.nif n).map fun sm =>
    let (sm, outs) := sm.processAgpsEvent client event
    (m.setNif n sm, outs)

def requestATL (client : DSClient) (connHandle : Int) (agpsType : AGpsExtType)
    (m : AgpsManager) : AgpsManager × List AgpsOut :=
  let (m, n) := m.getAgpsStateMachine client agpsType
  let subscriber : AgpsSubscriber :=
    { mConnHandle := connHandle
      mWaitForCloseComplete := decide (agpsType = locAgpsTypeSuplEs)
      mIsInactive := false }
  match m.sendEvent client n (.subscribe subscriber) with
  | none => (m, [.atlOpenStatus connHandle false none .invalid agpsType])
  | some result => result

/-- The machine and the subscriber that `releaseATL` finds for a handle. -/
def findSubscriber (connHandle : Int) (m : AgpsManager) : Option (Nif × AgpsSubscriber) :=
  [Nif.agnss, .internet, .ds].findSome? fun n =>
    (m.nif n).bind fun sm => (sm.getSubscriber connHandle).map fun subscriber => (n, subscriber)

def releaseATL (client : DSClient) (connHandle : Int) (m : AgpsManager) :
    AgpsManager × List AgpsOut :=
  match m.findSubscriber connHandle with
  | none => (m, [.atlCloseStatus connHandle false])
  | some (n, subscriber) =>
    match m.sendEvent client n (.unsubscribe subscriber) with
    | none => (m, [])
    | some result => result

def reportDataCallOpened (client : DSClient) (m : AgpsManager) : AgpsManager × List AgpsOut :=
  (m.sendEvent client .ds .granted).getD (m, [])

def reportDataCallClosed (client : DSClient) (m : AgpsManager) : AgpsManager × List AgpsOut :=
  (m.sendEvent client .ds .released).getD (m, [])

def reportAtlOpenSuccess (client : DSClient) (agpsType : AGpsExtType)
    (apnName : Option (List UInt8)) (apnLen : Nat) (bearerType : AGpsBearerType)
    (m : AgpsManager) : Option (AgpsManager × List AgpsOut) :=
  let (m, n) := m.getAgpsStateMachine client agpsType
  (m.nif n).bind fun sm =>
    (m.setNif n ((sm.setBearer bearerType).setAPN apnName apnLen)).sendEvent client n .granted

def reportAtlOpenFailed (client : DSClient) (agpsType : AGpsExtType) (m : AgpsManager) :
    Option (AgpsManager × List AgpsOut) :=
  let (m, n) := m.getAgpsStateMachine client agpsType
  m.sendEvent client n .denied

def reportAtlClosed (client : DSClient) (agpsType : AGpsExtType) (m : AgpsManager) :
    Option (AgpsManager × List AgpsOut) :=
  let (m, n) := m.getAgpsStateMachine client agpsType
  m.sendEvent client n .released

end AgpsManager

end DeviceHal.Gps
