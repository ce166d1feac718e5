import DeviceHal.Gps.AgpsSubscribers

namespace DeviceHal.Gps

/-- An event for a framework machine, as the manager passes it on. -/
inductive FrameworkOp where
  | subscribe (connHandle : Int) (waitForCloseComplete : Bool)
  | unsubscribe (connHandle : Int)
  | granted (apnName : Option (List UInt8)) (apnLen : Nat) (bearerType : AGpsBearerType)
  | released
  | denied
deriving DecidableEq, Repr

/-- The output asks the framework for the data connection, or to release it. -/
def AgpsOut.isDataConn (request : Bool) : AgpsOut → Bool
  | .frameworkStatus _ r => r = request
  | _ => false

def dataConns (request : Bool) (outs : List AgpsOut) : Nat := outs.countP (·.isDataConn request)

namespace AgpsStateMachine

/-- An UNSUBSCRIBE comes only with a subscriber that was found in the list. -/
def frameworkStep (client : DSClient) (sm : AgpsStateMachine) :
    FrameworkOp → AgpsStateMachine × List AgpsOut
  | .subscribe connHandle waitForCloseComplete =>
    sm.processAgpsEvent client (.subscribe ⟨connHandle, waitForCloseComplete, false⟩)
  | .unsubscribe connHandle =>
    match sm.getSubscriber connHandle with
    | none => (sm, [])
    | some subscriber => sm.processAgpsEvent client (.unsubscribe subscriber)
  | .granted apnName apnLen bearerType =>
    ((sm.setBearer bearerType).setAPN apnName apnLen).processAgpsEvent client .granted
  | .released => sm.processAgpsEvent client .released
  | .denied => sm.processAgpsEvent client .denied

def runFramework (client : DSClient) (agpsType : AGpsExtType) (ops : List FrameworkOp) :
    AgpsStateMachine :=
  ops.foldl (fun sm op => (sm.frameworkStep client op).1)
    { kind := .framework, mAgpsType := agpsType }

/-- What the state of a machine says of its list. -/
structure Coherent (sm : AgpsStateMachine) : Prop where
  released : sm.mState = .released → sm.mSubscriberList = []
  serving : sm.mState = .pending ∨ sm.mState = .acquired →
    ∃ s ∈ sm.mSubscriberList, s.mIsInactive = false
  releasing : sm.mState = .releasing → sm.mSubscriberList ≠ []
  nodup : (handles sm.mSubscriberList).Nodup

/-- The last active subscriber leaves PENDING or ACQUIRED. -/
def lastLeaves (sm : AgpsStateMachine) : FrameworkOp → Bool
  | .unsubscribe connHandle =>
    (sm.mState = .pending || sm.mState = .acquired) &&
      activeHandles sm.mSubscriberList = [connHandle]
  | _ => false

/-- One event keeps the machine coherent. It asks for the connection on an entry to PENDING, and
releases it when `leaves`. -/
structure StepCoherent (leaves : Bool) (sm : AgpsStateMachine)
    (result : AgpsStateMachine × List AgpsOut) : Prop where
  kind : result.1.kind = .framework
  coherent : Coherent result.1
  requests : dataConns true result.2 =
    if sm.mState ≠ .pending ∧ result.1.mState = .pending then 1 else 0
  releases : dataConns false result.2 = if leaves then 1 else 0

variable {sm : AgpsStateMachine}

theorem serving_iff {l : List AgpsSubscriber} :
    (∃ s ∈ l, s.mIsInactive = false) ↔ activeHandles l ≠ [] := by
  simp [ne_eq, List.eq_nil_iff_forall_not_mem, mem_activeHandles]

@[simp] theorem dataConns_append (request : Bool) (outs more : List AgpsOut) :
    dataConns request (outs ++ more) = dataConns request outs + dataConns request more :=
  List.countP_append

@[simp] theorem dataConns_nil (request : Bool) : dataConns request [] = 0 := rfl

@[simp] theorem dataConns_status (request r : Bool) (agpsType : AGpsExtType) :
    dataConns request [.frameworkStatus agpsType r] = if r = request then 1 else 0 := by
  cases r <;> cases request <;> rfl

theorem dataConns_notices (request : Bool) (hk : sm.kind = .framework) (event : AgpsEvent)
    (l : List AgpsSubscriber) :
    dataConns request (l.flatMap fun s => sm.notice event s) = 0 := by
  unfold dataConns
  rw [List.countP_eq_zero]
  intro o ho
  obtain ⟨s, -, hs⟩ := List.mem_flatMap.mp ho
  unfold notice at hs
  rw [hk] at hs
  cases event <;> simp_all [frameworkNotice, AgpsOut.isDataConn]

theorem dataConns_notice (request : Bool) (hk : sm.kind = .framework) (event : AgpsEvent)
    (s : AgpsSubscriber) : dataConns request (sm.notice event s) = 0 := by
  simpa using dataConns_notices request hk event [s]

theorem framework_request (hk : sm.kind = .framework) (client : DSClient) (request : Bool) :
    sm.requestOrReleaseDataConn client request =
      (sm, [.frameworkStatus sm.mAgpsType request], 0) := by
  unfold requestOrReleaseDataConn
  rw [hk]
  rfl

theorem framework_noticed (hk : sm.kind = .framework) (event : AgpsEvent) :
    sm.noticed event = sm := by
  simp [noticed, hk]

theorem subscribe_coherent (hk : sm.kind = .framework) (hc : Coherent sm) (client : DSClient)
    {s : AgpsSubscriber} (ha : s.mIsInactive = false) :
    StepCoherent false sm (sm.processAgpsEventSubscribe client s) := by
  have hnodup := nodup_addSubscriber (s := s) hc.nodup
  have hmem : s.mConnHandle ∈ handles (sm.addSubscriber s).mSubscriberList :=
    mem_handles_addSubscriber.mpr (Or.inr rfl)
  have hkeep : ∀ h ∈ activeHandles sm.mSubscriberList,
      h ∈ activeHandles (sm.addSubscriber s).mSubscriberList :=
    fun h hh => (mem_activeHandles_addSubscriber ha).mpr (Or.inl hh)
  have hserve : (∃ t ∈ sm.mSubscriberList, t.mIsInactive = false) →
      ∃ t ∈ (sm.addSubscriber s).mSubscriberList, t.mIsInactive = false := by
    rintro ⟨t, ht, hta⟩
    obtain ⟨t', ht', hta', -⟩ :=
      mem_activeHandles.mp (hkeep _ (mem_activeHandles.mpr ⟨t, ht, hta, rfl⟩))
    exact ⟨t', ht', hta'⟩
  have hkind : (sm.addSubscriber s).kind = .framework := by
    rw [addSubscriber_eq]
    exact hk
  have hstate : (sm.addSubscriber s).mState = sm.mState := by rw [addSubscriber_eq]
  unfold processAgpsEventSubscribe
  split
  next hs =>
    have hnew : (sm.addSubscriber s).mSubscriberList = [s] := by
      rw [addSubscriber_list, hc.released hs]
      simp
    rw [framework_request hkind]
    refine ⟨hkind, ⟨by simp [transitionState], fun _ => ?_, by simp [transitionState], hnodup⟩,
      ?_, ?_⟩
    · exact ⟨s, by simp [transitionState, hnew], ha⟩
    · simp [transitionState, hs]
    · simp
  next hs =>
    refine ⟨hkind, ⟨by simp [hstate, hs], fun _ => hserve (hc.serving (Or.inl hs)),
      by simp [hstate, hs], hnodup⟩, ?_, rfl⟩
    simp [dataConns, hs]
  next hs =>
    refine ⟨hkind, ⟨by simp [hstate, hs], by simp [hstate, hs], fun _ he => ?_, hnodup⟩, ?_, rfl⟩
    · rw [he] at hmem
      simp at hmem
    · simp [dataConns, hstate, hs]
  next hs =>
    simp only [notifyEventToSubscriber, framework_noticed hk, Bool.false_eq_true, if_false]
    refine ⟨hkind, ⟨by simp [hstate, hs], fun _ => hserve (hc.serving (Or.inr hs)),
      by simp [hstate, hs], hnodup⟩, ?_, ?_⟩
    · rw [dataConns_notice true hk]
      simp [hstate, hs]
    · exact dataConns_notice false hk _ _

theorem retireSubscriber_framework (hk : sm.kind = .framework)
    (hn : (handles sm.mSubscriberList).Nodup) (s : AgpsSubscriber) :
    ∃ l outs, sm.retireSubscriber s = ({ sm with mSubscriberList := l }, outs) ∧
      (handles l).Nodup ∧
      activeHandles l = (activeHandles sm.mSubscriberList).filter (· ≠ s.mConnHandle) ∧
      ∀ request, dataConns request outs = 0 := by
  unfold retireSubscriber
  split
  · refine ⟨_, _, rfl, ?_, activeHandles_markInactive hn, fun _ => rfl⟩
    rw [handles_markInactive]
    exact hn
  · refine ⟨sm.mSubscriberList.filter (·.mConnHandle ≠ s.mConnHandle), _, ?_,
      handles_filter_nodup hn _, activeHandles_delete _ _,
      fun request => dataConns_notice request hk (.unsubscribe s) s⟩
    simp only [notifyEventToSubscriber, framework_noticed hk, if_true, deleteSubscriber]

theorem filter_ne_eq_nil {h : Int} {l : List Int} (hn : l.Nodup) (hne : l ≠ []) :
    l.filter (· ≠ h) = [] ↔ l = [h] := by
  constructor
  · intro hf
    have hall : ∀ x ∈ l, x = h := by
      intro x hx
      simpa using List.filter_eq_nil_iff.mp hf x hx
    have hrep := List.eq_replicate_of_mem hall
    have hlen : l.length ≤ 1 := by
      rw [hrep] at hn
      exact List.nodup_replicate.mp hn
    have hpos := List.length_pos_iff.mpr hne
    have hone : l.length = 1 := by omega
    rw [hrep, hone]
    rfl
  · rintro rfl
    simp

theorem leaveConnection_coherent (hk : sm.kind = .framework) (hc : Coherent sm)
    (hs : sm.mState = .pending ∨ sm.mState = .acquired) (client : DSClient) (s : AgpsSubscriber) :
    StepCoherent (sm.lastLeaves (.unsubscribe s.mConnHandle)) sm (sm.leaveConnection client s) := by
  obtain ⟨l, outs, hret, hnodup, hact, hquiet⟩ := retireSubscriber_framework hk hc.nodup s
  have hlast : sm.lastLeaves (.unsubscribe s.mConnHandle) = true ↔ activeHandles l = [] := by
    rw [hact, filter_ne_eq_nil (nodup_activeHandles hc.nodup) (serving_iff.mp (hc.serving hs))]
    cases hs with
    | inl hs => simp [lastLeaves, hs]
    | inr hs => simp [lastLeaves, hs]
  unfold leaveConnection
  rw [hret]
  dsimp only
  split
  next hempty =>
    have hl : l = [] := by simpa using hempty
    rw [framework_request (by exact hk)]
    refine ⟨hk, ⟨fun _ => hl, by simp [transitionState], by simp [transitionState], hnodup⟩,
      ?_, ?_⟩
    · rw [dataConns_append, hquiet]
      simp [transitionState]
    · rw [dataConns_append, hquiet, hlast.mpr (by rw [hl]; rfl)]
      simp
  next hempty =>
    have hl : l ≠ [] := by simpa using hempty
    have hany := anyActiveSubscribers_iff { sm with mSubscriberList := l }
    split
    next hnone =>
      have hnone' : activeHandles l = [] := by
        by_contra hne
        have hsome := hany.mpr hne
        simp [hsome] at hnone
      rw [framework_request (by exact hk)]
      refine ⟨hk, ⟨by simp [transitionState], by simp [transitionState], fun _ => hl, hnodup⟩,
        ?_, ?_⟩
      · rw [dataConns_append, hquiet]
        simp [transitionState]
      · rw [dataConns_append, hquiet, hlast.mpr hnone']
        simp
    next hsome =>
      have hsome' : activeHandles l ≠ [] := hany.mp (by simpa using hsome)
      have hnot : sm.lastLeaves (.unsubscribe s.mConnHandle) = false := by
        rw [← Bool.not_eq_true, hlast]
        exact hsome'
      refine ⟨hk, ⟨fun hr => ?_, fun _ => serving_iff.mpr hsome', fun hr => ?_, hnodup⟩, ?_, ?_⟩
      · grind
      · omega
      · rw [hquiet]
        simp
      · rw [hquiet, hnot]
        rfl

theorem unsubscribe_coherent (hk : sm.kind = .framework) (hc : Coherent sm) (client : DSClient)
    {s : AgpsSubscriber} {h : Int} (hg : sm.getSubscriber h = some s) :
    StepCoherent (sm.lastLeaves (.unsubscribe h)) sm
      (sm.processAgpsEventUnsubscribe client s) := by
  obtain ⟨hmem, rfl⟩ := getSubscriber_some hg
  unfold processAgpsEventUnsubscribe
  split
  next hs =>
    rw [hc.released hs] at hmem
    simp at hmem
  next hs => exact leaveConnection_coherent hk hc (Or.inl hs) client s
  next hs => exact leaveConnection_coherent hk hc (Or.inr hs) client s
  next hs =>
    obtain ⟨l, outs, hret, hnodup, hact, hquiet⟩ := retireSubscriber_framework hk hc.nodup s
    have hnot : sm.lastLeaves (.unsubscribe s.mConnHandle) = false := by simp [lastLeaves, hs]
    rw [hret]
    dsimp only
    split
    next hempty =>
      have hl : l = [] := by simpa using hempty
      refine ⟨hk, ⟨fun _ => hl, by simp [transitionState], by simp [transitionState], hnodup⟩,
        ?_, ?_⟩
      · simp [hquiet, transitionState]
      · simp [hquiet, hnot]
    next hempty =>
      have hl : l ≠ [] := by simpa using hempty
      refine ⟨hk, ⟨by simp [hs], by simp [hs], fun _ => hl, hnodup⟩, ?_, ?_⟩
      · simp [hquiet, hs]
      · simp [hquiet, hnot]

theorem ignored_coherent (hk : sm.kind = .framework) (hc : Coherent sm) :
    StepCoherent false sm (sm, []) :=
  ⟨hk, hc, by simp [dataConns], rfl⟩

theorem dropped_coherent (hk : sm.kind = .framework) (event : AgpsEvent) :
    StepCoherent false sm ((sm.transitionState .released).notifyAllSubscribers event true
      .forAllSubscribers) := by
  obtain ⟨r, hr⟩ := notifyAllSubscribers_drop event .forAllSubscribers
    (sm.transitionState .released)
  have hl : sm.mSubscriberList.filter (!AgpsNotificationType.forAllSubscribers.meets ·) = [] := by
    simp [AgpsNotificationType.meets]
  rw [hr]
  refine ⟨hk, ⟨fun _ => hl, by simp [transitionState], by simp [transitionState], ?_⟩, ?_, ?_⟩
  · exact hl ▸ List.nodup_nil
  · rw [dataConns_notices true (by exact hk)]
    simp [transitionState]
  · exact dataConns_notices false (by exact hk) _ _

theorem granted_coherent (hk : sm.kind = .framework) (hc : Coherent sm) :
    StepCoherent false sm sm.processAgpsEventGranted := by
  unfold processAgpsEventGranted
  split
  next => exact ignored_coherent hk hc
  next => exact ignored_coherent hk hc
  next => exact ignored_coherent hk hc
  next hs =>
    obtain ⟨r, hr⟩ := notifyAllSubscribers_keep .granted .forActiveSubscribers
      (sm.transitionState .acquired)
    rw [hr]
    refine ⟨hk, ⟨by simp [transitionState], fun _ => hc.serving (Or.inl hs),
      by simp [transitionState], hc.nodup⟩, ?_, ?_⟩
    · rw [dataConns_notices true (by exact hk)]
      simp [transitionState]
    · exact dataConns_notices false (by exact hk) _ _

theorem finishReleasing_coherent (hk : sm.kind = .framework) (hc : Coherent sm)
    (hs : sm.mState = .releasing) (client : DSClient) :
    StepCoherent false sm (sm.finishReleasing client) := by
  obtain ⟨r, hr⟩ := notifyAllSubscribers_drop .released .forInactiveSubscribers sm
  have hnodup := handles_filter_nodup hc.nodup (!·.mIsInactive)
  unfold finishReleasing
  rw [hr]
  dsimp only
  split
  next hany =>
    obtain ⟨s, hs', ha⟩ := List.any_eq_true.mp hany
    rw [framework_request (by exact hk)]
    refine ⟨hk, ⟨by simp [transitionState], fun _ => ⟨s, hs', by simpa using ha⟩,
      by simp [transitionState], hnodup⟩, ?_, ?_⟩
    · rw [dataConns_append, dataConns_notices true hk]
      simp [transitionState, hs]
    · rw [dataConns_append, dataConns_notices false hk]
      simp
  next hany =>
    have hnil : sm.mSubscriberList.filter (!·.mIsInactive) = [] := by
      rw [List.eq_nil_iff_forall_not_mem]
      intro s hs'
      apply hany
      exact List.any_eq_true.mpr ⟨s, hs', (List.mem_filter.mp hs').2⟩
    refine ⟨hk, ⟨fun _ => hnil, by simp [transitionState], by simp [transitionState], hnodup⟩,
      ?_, ?_⟩
    · rw [dataConns_notices true hk]
      simp [transitionState]
    · exact dataConns_notices false hk _ _

theorem released_coherent (hk : sm.kind = .framework) (hc : Coherent sm) (client : DSClient) :
    StepCoherent false sm (sm.processAgpsEventReleased client) := by
  unfold processAgpsEventReleased
  split
  next => exact ignored_coherent hk hc
  next => exact ignored_coherent hk hc
  next => exact dropped_coherent hk .released
  next hs => exact finishReleasing_coherent hk hc hs client

theorem denied_coherent (hk : sm.kind = .framework) (hc : Coherent sm) (client : DSClient) :
    StepCoherent false sm (sm.processAgpsEventDenied client) := by
  unfold processAgpsEventDenied
  split
  next => exact ignored_coherent hk hc
  next => exact ignored_coherent hk hc
  next hs => exact finishReleasing_coherent hk hc hs client
  next => exact dropped_coherent hk .denied

theorem processAgpsEvent_framework (hk : sm.kind = .framework) (client : DSClient)
    (event : AgpsEvent) : sm.processAgpsEvent client event = sm.dispatchEvent client event := by
  simp [processAgpsEvent, translate, hk]

theorem Coherent.of_same {sm' : AgpsStateMachine} (hc : Coherent sm)
    (hs : sm'.mState = sm.mState) (hl : sm'.mSubscriberList = sm.mSubscriberList) :
    Coherent sm' := by
  obtain ⟨hrel, hserv, hing, hn⟩ := hc
  exact ⟨by rwa [hs, hl], by rwa [hs, hl], by rwa [hs, hl], by rwa [hl]⟩

theorem setAPN_same (sm : AgpsStateMachine) (apn : Option (List UInt8)) (len : Nat) :
    (sm.setAPN apn len).kind = sm.kind ∧ (sm.setAPN apn len).mState = sm.mState ∧
      (sm.setAPN apn len).mSubscriberList = sm.mSubscriberList := by
  unfold setAPN
  grind

theorem frameworkStep_coherent (hk : sm.kind = .framework) (hc : Coherent sm) (client : DSClient)
    (op : FrameworkOp) :
    StepCoherent (sm.lastLeaves op) sm (sm.frameworkStep client op) := by
  cases op with
  | subscribe h wait =>
    have hstep : sm.frameworkStep client (.subscribe h wait) =
        sm.processAgpsEventSubscribe client ⟨h, wait, false⟩ := processAgpsEvent_framework hk _ _
    rw [hstep]
    exact subscribe_coherent hk hc client (by rfl)
  | unsubscribe h =>
    unfold frameworkStep
    dsimp only
    split
    next hg =>
      have hnot : sm.lastLeaves (.unsubscribe h) = false := by
        rw [← Bool.not_eq_true]
        intro hl
        have hact : activeHandles sm.mSubscriberList = [h] := by
          unfold lastLeaves at hl
          rw [Bool.and_eq_true] at hl
          simpa using hl.2
        exact getSubscriber_none.mp hg (activeHandles_subset (by rw [hact]; simp))
      rw [hnot]
      exact ignored_coherent hk hc
    next s hg =>
      rw [processAgpsEvent_framework hk]
      exact unsubscribe_coherent hk hc client hg
  | granted apnName apnLen bearerType =>
    obtain ⟨hk', hs', hl'⟩ := setAPN_same (sm.setBearer bearerType) apnName apnLen
    obtain ⟨kind, coherent, requests, releases⟩ := granted_coherent (hk'.trans hk)
      (hc.of_same hs' hl')
    have hstep : sm.frameworkStep client (.granted apnName apnLen bearerType) =
        ((sm.setBearer bearerType).setAPN apnName apnLen).processAgpsEventGranted :=
      processAgpsEvent_framework (hk'.trans hk) _ _
    rw [hs'] at requests
    rw [hstep]
    exact ⟨kind, coherent, requests, releases⟩
  | released =>
    have hstep : sm.frameworkStep client .released = sm.processAgpsEventReleased client :=
      processAgpsEvent_framework hk _ _
    rw [hstep]
    exact released_coherent hk hc client
  | denied =>
    have hstep : sm.frameworkStep client .denied = sm.processAgpsEventDenied client :=
      processAgpsEvent_framework hk _ _
    rw [hstep]
    exact denied_coherent hk hc client

theorem foldl_coherent (client : DSClient) {sm : AgpsStateMachine} (hk : sm.kind = .framework)
    (hc : Coherent sm) (ops : List FrameworkOp) :
    (ops.foldl (fun sm op => (sm.frameworkStep client op).1) sm).kind = .framework ∧
      Coherent (ops.foldl (fun sm op => (sm.frameworkStep client op).1) sm) := by
  induction ops generalizing sm with
  | nil => exact ⟨hk, hc⟩
  | cons op ops ih =>
    have hstep := frameworkStep_coherent hk hc client op
    exact ih hstep.kind hstep.coherent

theorem new_coherent (kind : NifKind) (agpsType : AGpsExtType) :
    Coherent { kind := kind, mAgpsType := agpsType } :=
  ⟨fun _ => rfl, by simp, by simp, List.nodup_nil⟩

/-- After every event the state of a framework machine agrees with its list. The connection is
asked for on each entry to PENDING, and released when the last active subscriber unsubscribes. -/
theorem framework_coherent (client : DSClient) (agpsType : AGpsExtType) (ops : List FrameworkOp)
    (op : FrameworkOp) :
    let sm := runFramework client agpsType ops
    let (after, outs) := sm.frameworkStep client op
    Coherent sm ∧ Coherent after ∧
      dataConns true outs = (if sm.mState ≠ .pending ∧ after.mState = .pending then 1 else 0) ∧
      dataConns false outs = if sm.lastLeaves op then 1 else 0 := by
  obtain ⟨hk, hc⟩ := foldl_coherent client rfl (new_coherent .framework agpsType) ops
  have hstep := frameworkStep_coherent hk hc client op
  exact ⟨hc, hstep.coherent, hstep.requests, hstep.releases⟩

end AgpsStateMachine

end DeviceHal.Gps
