import DeviceHal.Gps.AgpsEffects
import DeviceHal.Lib.Run

namespace DeviceHal.Gps

open AgpsStateMachine

namespace AgpsManager

/-- The subscribers of a machine. A machine that is not there has none. -/
def subscribers (n : Nif) (m : AgpsManager) : List AgpsSubscriber :=
  ((m.nif n).map (·.mSubscriberList)).getD []

def Active (h : Int) (n : Nif) (m : AgpsManager) : Prop := h ∈ activeHandles (m.subscribers n)

/-- How often a handle is listed, in all machines. -/
def subscriptions (h : Int) (m : AgpsManager) : Nat :=
  listed h (m.subscribers .agnss) + listed h (m.subscribers .internet) +
    listed h (m.subscribers .ds)

def Unique (m : AgpsManager) : Prop := ∀ n, (handles (m.subscribers n)).Nodup

theorem nif_setNif (n n' : Nif) (sm : AgpsStateMachine) (m : AgpsManager) :
    (m.setNif n sm).nif n' = if n' = n then some sm else m.nif n' := by
  cases n <;> cases n' <;> rfl

theorem subscribers_setNif (n n' : Nif) (sm : AgpsStateMachine) (m : AgpsManager) :
    (m.setNif n sm).subscribers n' =
      if n' = n then sm.mSubscriberList else m.subscribers n' := by
  unfold subscribers
  rw [nif_setNif]
  split <;> rfl

variable {n : Nif} {sm : AgpsStateMachine}

theorem subscribers_of_nif {m : AgpsManager}
    (hn : m.nif n = some sm) : m.subscribers n = sm.mSubscriberList := by
  simp [subscribers, hn]

@[simp] theorem subscribers_createNif (n n' : Nif) (kind : NifKind) (agpsType : AGpsExtType)
    (m : AgpsManager) : (m.createNif n kind agpsType).subscribers n' = m.subscribers n' := by
  unfold createNif
  split
  next hn =>
    rw [Option.isNone_iff_eq_none] at hn
    rw [subscribers_setNif]
    split
    next he =>
      subst he
      simp [subscribers, hn]
    next => rfl
  next => rfl

@[simp] theorem subscribers_create (client : DSClient) (m : AgpsManager) (n : Nif) :
    (m.createAgpsStateMachines client).subscribers n = m.subscribers n := by
  unfold createAgpsStateMachines
  dsimp only
  split
  · split
    · split
      next => simp
      next =>
        split
        · simp
        · simp
    · simp
  · simp

@[simp] theorem subscribers_get (client : DSClient) (agpsType : AGpsExtType) (m : AgpsManager)
    (n : Nif) :
    (m.getAgpsStateMachine client agpsType).1.subscribers n = m.subscribers n := by
  unfold getAgpsStateMachine
  split
  · rfl
  split
  · split
    · dsimp only
      split
      · exact subscribers_create client m n
      · rfl
    · rfl
  · rfl

theorem subscriptions_congr {h : Int} {m m' : AgpsManager}
    (hs : ∀ n, m'.subscribers n = m.subscribers n) : m'.subscriptions h = m.subscriptions h := by
  unfold subscriptions
  rw [hs, hs, hs]

theorem Unique.congr {m m' : AgpsManager} (hu : m.Unique)
    (hs : ∀ n, m'.subscribers n = m.subscribers n) : m'.Unique := by
  intro n
  rw [hs]
  exact hu n

theorem nodup_of_nif {m : AgpsManager} (hu : m.Unique)
    (hn : m.nif n = some sm) : (handles sm.mSubscriberList).Nodup :=
  subscribers_of_nif hn ▸ hu n

/-- As for one machine: no call makes the handle active, or tells of a connection for it unless it
stays active, and each close takes it out of a list. -/
structure Spares (h : Int) (m : AgpsManager) (result : AgpsManager × List AgpsOut) : Prop where
  active : ∀ n, result.1.Active h n → m.Active h n
  reopens : result.2.any (·.reopens h) = true → ∃ n, result.1.Active h n
  closes : closes h result.2 + result.1.subscriptions h = m.subscriptions h

variable {h : Int} {m : AgpsManager} {result : AgpsManager × List AgpsOut}

theorem Spares.congr {m' : AgpsManager} (hs : m.Spares h result)
    (he : ∀ n, m.subscribers n = m'.subscribers n) : m'.Spares h result := by
  obtain ⟨active, reopens, closes⟩ := hs
  refine ⟨fun n hn => ?_, reopens, ?_⟩
  · unfold Active
    rw [← he]
    exact active n hn
  · rw [closes, subscriptions_congr he]

theorem Spares.silent {outs : List AgpsOut} {m' : AgpsManager}
    (hl : ∀ n, m'.subscribers n = m.subscribers n) (ho : outs.any (·.reopens h) = false)
    (hc : DeviceHal.Gps.closes h outs = 0) : m.Spares h (m', outs) := by
  refine ⟨fun n hn => ?_, ?_, ?_⟩
  · unfold Active at hn
    rw [hl] at hn
    exact hn
  · simp [ho]
  · rw [hc, subscriptions_congr hl, Nat.zero_add]

theorem subscriptions_setNif (sm' : AgpsStateMachine) (hn : m.nif n = some sm) :
    (m.setNif n sm').subscriptions h + listed h sm.mSubscriberList =
      m.subscriptions h + listed h sm'.mSubscriberList := by
  have hl := subscribers_of_nif hn
  unfold subscriptions
  cases n with
  | agnss =>
    simp only [subscribers_setNif, if_true, reduceCtorEq, if_false, hl]
    omega
  | internet =>
    simp only [subscribers_setNif, if_true, reduceCtorEq, if_false, hl]
    omega
  | ds =>
    simp only [subscribers_setNif, if_true, reduceCtorEq, if_false, hl]
    omega

variable {client : DSClient} {event : AgpsEvent}

theorem sendEvent_spares (hu : m.Unique) (hn : m.nif n = some sm) (hw : sm.WellFormed event)
    (hh : sm.Harmless h event) (hsend : m.sendEvent client n event = some result) :
    m.Spares h result := by
  have hl := subscribers_of_nif hn
  obtain ⟨active, reopens, hclose⟩ :=
    processAgpsEvent_spares (nodup_of_nif hu hn) client hw hh
  unfold sendEvent at hsend
  rw [hn] at hsend
  cases Option.some.inj hsend
  dsimp only
  refine ⟨fun n' hn' => ?_, fun ho => ⟨n, ?_⟩, ?_⟩
  · grind [Active, subscribers_setNif]
  · unfold Active
    rw [subscribers_setNif, if_pos rfl]
    exact reopens ho
  · have hsub := subscriptions_setNif (h := h) (sm.processAgpsEvent client event).1 hn
    dsimp only
    omega

theorem sendEvent_keeps (hu : m.Unique) (hw : ∀ sm, m.nif n = some sm → sm.WellFormed event)
    (hsend : m.sendEvent client n event = some result) :
    result.1.Unique ∧ ∀ h n', result.1.Active h n' → m.Active h n' ∨
      n' = n ∧ ∃ s, event = .subscribe s ∧ s.mConnHandle = h ∧
        h ∉ handles (m.subscribers n) := by
  obtain ⟨sm, hn, hr⟩ := Option.map_eq_some_iff.mp hsend
  have hl := subscribers_of_nif hn
  obtain ⟨hnodup, hactive⟩ := processAgpsEvent_keeps (nodup_of_nif hu hn) client (hw sm hn)
  cases hr
  refine ⟨fun n' => ?_, fun h n' hn' => ?_⟩
  · rw [subscribers_setNif]
    split
    · exact hnodup
    · exact hu n'
  grind [Active, subscribers_setNif]

/-- The machine that a call for a type is sent to. -/
def target (client : DSClient) (agpsType : AGpsExtType) (m : AgpsManager) :
    Option AgpsStateMachine :=
  (m.getAgpsStateMachine client agpsType).1.nif (m.getAgpsStateMachine client agpsType).2

theorem requestATL_cases (client : DSClient) (g : Int) (agpsType : AGpsExtType)
    (m : AgpsManager) :
    m.target client agpsType = none ∧ m.requestATL client g agpsType =
        ((m.getAgpsStateMachine client agpsType).1,
          [.atlOpenStatus g false none .invalid agpsType]) ∨
      ∃ sm wait, m.target client agpsType = some sm ∧
        (m.getAgpsStateMachine client agpsType).1.sendEvent client
          (m.getAgpsStateMachine client agpsType).2 (.subscribe ⟨g, wait, false⟩) =
            some (m.requestATL client g agpsType) := by
  unfold target requestATL
  generalize m.getAgpsStateMachine client agpsType = r
  obtain ⟨m', n⟩ := r
  dsimp only
  cases hn : m'.nif n with
  | none =>
    refine Or.inl ⟨rfl, ?_⟩
    simp [sendEvent, hn]
  | some sm =>
    refine Or.inr ⟨sm, decide (agpsType = locAgpsTypeSuplEs), rfl, ?_⟩
    simp only [sendEvent, hn, Option.map_some]

variable {g : Int}

theorem requestATL_spares (hu : m.Unique) (client : DSClient) {agpsType : AGpsExtType}
    (hh : g = h → ∃ sm, m.target client agpsType = some sm ∧ h ∈ handles sm.mSubscriberList ∧
      sm.mState ≠ .acquired) :
    m.Spares h (m.requestATL client g agpsType) := by
  have hsame := subscribers_get client agpsType m
  rcases requestATL_cases client g agpsType m with ⟨hnone, hr⟩ | ⟨sm, wait, hsm, hsend⟩
  · have hne : g ≠ h := by
      intro he
      obtain ⟨sm, hsm, -⟩ := hh he
      rw [hnone] at hsm
      cases hsm
    rw [hr]
    exact .silent hsame (by simp [AgpsOut.reopens, hne]) (by simp [closes])
  · have hw : sm.WellFormed (.subscribe ⟨g, wait, false⟩) := by rfl
    refine (sendEvent_spares (hu.congr hsame) hsm hw (harmless_subscribe.mpr ?_) hsend).congr hsame
    grind

theorem requestATL_keeps (hu : m.Unique) (client : DSClient) (g : Int) (agpsType : AGpsExtType) :
    (m.requestATL client g agpsType).1.Unique ∧
      ∀ h n', (m.requestATL client g agpsType).1.Active h n' → m.Active h n' ∨
        n' = (m.getAgpsStateMachine client agpsType).2 ∧ g = h ∧
          ∃ sm, m.target client agpsType = some sm ∧ h ∉ handles sm.mSubscriberList := by
  have hsame := subscribers_get client agpsType m
  rcases requestATL_cases client g agpsType m with ⟨hnone, hr⟩ | ⟨sm, wait, hsm, hsend⟩
  · rw [hr]
    refine ⟨hu.congr hsame, fun h n' hn' => Or.inl ?_⟩
    unfold Active at hn' ⊢
    rw [hsame] at hn'
    exact hn'
  · obtain ⟨hunique, hactive⟩ := sendEvent_keeps (hu.congr hsame) (fun _ _ => by rfl) hsend
    refine ⟨hunique, fun h n' hn' => ?_⟩
    rcases hactive h n' hn' with hold | ⟨he, s, hs, rfl, hnew⟩
    · unfold Active at hold ⊢
      rw [hsame] at hold
      exact Or.inl hold
    · cases hs
      rw [subscribers_of_nif hsm] at hnew
      exact Or.inr ⟨he, rfl, sm, hsm, hnew⟩

variable {s : AgpsSubscriber}

theorem findSubscriber_some (hf : m.findSubscriber g = some (n, s)) :
    ∃ sm, m.nif n = some sm ∧ s ∈ sm.mSubscriberList ∧ s.mConnHandle = g := by
  obtain ⟨n', -, hn'⟩ := List.exists_of_findSome?_eq_some hf
  obtain ⟨sm, hsm, hg⟩ := Option.bind_eq_some_iff.mp hn'
  obtain ⟨s', hs', he⟩ := Option.map_eq_some_iff.mp hg
  cases he
  obtain ⟨hm, hh⟩ := getSubscriber_some hs'
  exact ⟨sm, hsm, hm, hh⟩

theorem findSubscriber_none (hf : m.findSubscriber g = none) (n : Nif) :
    g ∉ handles (m.subscribers n) := by
  have hn := List.findSome?_eq_none_iff.mp hf n (by cases n <;> simp)
  unfold subscribers
  cases hnif : m.nif n with
  | none => simp
  | some sm =>
    rw [hnif] at hn
    have hg : sm.getSubscriber g = none := by simpa using hn
    exact getSubscriber_none.mp hg

theorem releaseATL_found (client : DSClient) (hf : m.findSubscriber g = some (n, s)) :
    m.sendEvent client n (.unsubscribe s) = some (m.releaseATL client g) := by
  obtain ⟨sm, hn, -⟩ := findSubscriber_some hf
  unfold releaseATL
  rw [hf]
  simp [sendEvent, hn]

theorem releaseATL_none (hf : m.findSubscriber g = none) :
    m.releaseATL client g = (m, [.atlCloseStatus g false]) := by
  unfold releaseATL
  rw [hf]

theorem wellFormed_unsubscribe (hf : m.findSubscriber g = some (n, s)) :
    ∀ sm, m.nif n = some sm → sm.WellFormed (.unsubscribe s) := by
  obtain ⟨sm, hn, hs, -⟩ := findSubscriber_some hf
  intro sm' hn'
  cases Option.some.inj (hn.symm.trans hn')
  exact hs

/-- A release leaves every handle alone but the one it is for, and that one too unless its machine
is RELEASED. -/
theorem releaseATL_spares (hu : m.Unique) (client : DSClient)
    (hh : g = h → ∀ n s, m.findSubscriber g = some (n, s) → ∀ sm, m.nif n = some sm →
      sm.mState ≠ .released) :
    m.Spares h (m.releaseATL client g) := by
  cases hf : m.findSubscriber g with
  | none =>
    rw [releaseATL_none hf]
    exact .silent (fun _ => rfl) (by simp [AgpsOut.reopens]) (by simp [closes])
  | some found =>
    obtain ⟨n, s⟩ := found
    obtain ⟨sm, hn, hs, he⟩ := findSubscriber_some hf
    refine sendEvent_spares hu hn (wellFormed_unsubscribe hf sm hn)
      (harmless_unsubscribe.mpr ?_) (releaseATL_found client hf)
    intro hgh
    exact hh (he.symm.trans hgh) n s hf sm hn

theorem releaseATL_keeps (hu : m.Unique) (client : DSClient) (g : Int) :
    (m.releaseATL client g).1.Unique ∧
      ∀ h n, (m.releaseATL client g).1.Active h n → m.Active h n := by
  cases hf : m.findSubscriber g with
  | none =>
    rw [releaseATL_none hf]
    exact ⟨hu, fun h n => id⟩
  | some found =>
    obtain ⟨n, s⟩ := found
    obtain ⟨hunique, hactive⟩ :=
      sendEvent_keeps hu (wellFormed_unsubscribe hf) (releaseATL_found client hf)
    grind

theorem releaseATL_inactive (hu : m.Unique) (client : DSClient)
    (hf : m.findSubscriber g = some (n, s))
    (hst : ∀ sm, m.nif n = some sm → sm.mState ≠ .released) :
    ¬(m.releaseATL client g).1.Active g n := by
  obtain ⟨sm, hn, hs, rfl⟩ := findSubscriber_some hf
  have hsend := releaseATL_found client hf
  unfold sendEvent at hsend
  rw [hn] at hsend
  rw [← Option.some.inj hsend]
  unfold Active
  rw [subscribers_setNif, if_pos rfl]
  unfold processAgpsEvent
  rw [translate_unsubscribe]
  exact unsubscribe_inactive (nodup_of_nif hu hn) hs client (hst sm hn)

theorem not_active_elsewhere {n n' : Nif} (hone : m.subscriptions h = 1)
    (hf : m.findSubscriber h = some (n, s)) (hne : n' ≠ n) : ¬m.Active h n' := by
  intro ha
  obtain ⟨sm, hn, hs, he⟩ := findSubscriber_some hf
  have hhere : 0 < listed h (m.subscribers n) := by
    rw [listed_pos, subscribers_of_nif hn]
    exact mem_handles.mpr ⟨s, hs, he⟩
  have hthere : 0 < listed h (m.subscribers n') := listed_pos.mpr (activeHandles_subset ha)
  unfold subscriptions at hone
  cases n <;> cases n' <;> first | exact hne rfl | omega

theorem answer_spares (hu : m.Unique) (hw : ∀ sm : AgpsStateMachine, sm.WellFormed event)
    (hh : ∀ sm, m.nif n = some sm → sm.Harmless h event)
    (hsend : m.sendEvent client n event = some result) : m.Spares h result := by
  obtain ⟨sm, hn, -⟩ := Option.map_eq_some_iff.mp hsend
  exact sendEvent_spares hu hn (hw sm) (hh sm hn) hsend

theorem answer_keeps (hu : m.Unique)
    (hw : ∀ sm : AgpsStateMachine, sm.WellFormed event) (he : ∀ s, event ≠ .subscribe s)
    (hsend : m.sendEvent client n event = some result) :
    result.1.Unique ∧ ∀ h n', result.1.Active h n' → m.Active h n' := by
  obtain ⟨hunique, hactive⟩ := sendEvent_keeps hu (fun sm _ => hw sm) hsend
  grind

theorem reportAtlOpenSuccess_sends {agpsType : AGpsExtType}
    {apnName : Option (List UInt8)} {apnLen : Nat} {bearerType : AGpsBearerType}
    (hr : m.reportAtlOpenSuccess client agpsType apnName apnLen bearerType = some result) :
    ∃ (m' : AgpsManager) (n : Nif), (∀ n', m'.subscribers n' = m.subscribers n') ∧
      m'.sendEvent client n .granted = some result := by
  have hsame := subscribers_get client agpsType m
  unfold reportAtlOpenSuccess at hr
  generalize m.getAgpsStateMachine client agpsType = r at hr hsame
  obtain ⟨m', n⟩ := r
  obtain ⟨sm, hn, hsend⟩ := Option.bind_eq_some_iff.mp hr
  refine ⟨_, n, fun n' => ?_, hsend⟩
  rw [subscribers_setNif, ← hsame]
  split
  next he =>
    rw [he]
    dsimp only
    rw [subscribers_of_nif hn]
    unfold setAPN
    split
    · rfl
    · split <;> rfl
  next => rfl

end AgpsManager

/-- History: the calls of the modem, with whether a released handle was a subscriber, and the calls
out. -/
inductive AgpsEntry where
  | requestATL (connHandle : Int)
  | releaseATL (connHandle : Int) (subscribed : Bool)
  | out (call : AgpsOut)
deriving DecidableEq, Repr

/-- The manager, the `AgpsMsgRequestATL` messages it has sent to itself, the retry timers that run,
and the history. -/
structure AgpsSystem where
  mgr : AgpsManager
  queue : List (Int × AGpsExtType) := []
  timers : Nat := 0
  log : List AgpsEntry := []
deriving DecidableEq, Repr

inductive AgpsOp where
  | createAgpsStateMachines
  | requestATL (connHandle : Int) (agpsType : AGpsExtType)
  | releaseATL (connHandle : Int)
  | reportDataCallOpened
  | reportDataCallClosed
  | reportAtlOpenSuccess (agpsType : AGpsExtType) (apnName : Option (List UInt8)) (apnLen : Nat)
      (bearerType : AGpsBearerType)
  | reportAtlOpenFailed (agpsType : AGpsExtType)
  | reportAtlClosed (agpsType : AGpsExtType)
  | deliver
  | retryTimer
deriving DecidableEq, Repr

def sentRequests (outs : List AgpsOut) : List (Int × AGpsExtType) :=
  outs.filterMap fun
    | .sendRequestATL handle agpsType => some (handle, agpsType)
    | _ => none

namespace AgpsSystem

def new (agpsCapable useEmergencyPdn : Bool) : AgpsSystem :=
  { mgr := { agpsCapable, useEmergencyPdn } }

def after (s : AgpsSystem) (entries : List AgpsEntry) (result : AgpsManager × List AgpsOut) :
    AgpsSystem where
  mgr := result.1
  queue := s.queue ++ sentRequests result.2
  timers := s.timers + result.2.count .startRetryTimer
  log := s.log ++ entries ++ result.2.map .out

/-- One call, with what the DS client functions return in it. -/
def step (s : AgpsSystem) (call : DSClient × AgpsOp) : Option AgpsSystem :=
  match call.2 with
  | .createAgpsStateMachines => some (s.after [] (s.mgr.createAgpsStateMachines call.1, []))
  | .requestATL connHandle agpsType =>
    some (s.after [.requestATL connHandle] (s.mgr.requestATL call.1 connHandle agpsType))
  | .releaseATL connHandle =>
    some (s.after [.releaseATL connHandle (s.mgr.findSubscriber connHandle).isSome]
      (s.mgr.releaseATL call.1 connHandle))
  | .reportDataCallOpened => some (s.after [] (s.mgr.reportDataCallOpened call.1))
  | .reportDataCallClosed => some (s.after [] (s.mgr.reportDataCallClosed call.1))
  | .reportAtlOpenSuccess agpsType apnName apnLen bearerType =>
    (s.mgr.reportAtlOpenSuccess call.1 agpsType apnName apnLen bearerType).map (s.after [])
  | .reportAtlOpenFailed agpsType => (s.mgr.reportAtlOpenFailed call.1 agpsType).map (s.after [])
  | .reportAtlClosed agpsType => (s.mgr.reportAtlClosed call.1 agpsType).map (s.after [])
  | .deliver =>
    match s.queue with
    | [] => some s
    | (connHandle, agpsType) :: queue =>
      some ({ s with queue }.after [] (s.mgr.requestATL call.1 connHandle agpsType))
  | .retryTimer =>
    match s.timers, s.mgr.mDsNif with
    | timers + 1, some sm => some ({ s with timers }.after [] (s.mgr, sm.retryCallback))
    | _, _ => some s

theorem deliver_cases {s t : AgpsSystem} {client : DSClient}
    (hstep : s.step (client, .deliver) = some t) :
    t = s ∨ ∃ h agpsType rest, s.queue = (h, agpsType) :: rest ∧
      t = { s with queue := rest }.after [] (s.mgr.requestATL client h agpsType) := by
  change (match s.queue with
    | [] => some s
    | (connHandle, agpsType) :: queue =>
      some ({ s with queue }.after [] (s.mgr.requestATL client connHandle agpsType))) = some t
    at hstep
  grind

theorem retryTimer_cases {s t : AgpsSystem} {client : DSClient}
    (hstep : s.step (client, .retryTimer) = some t) :
    t = s ∨ ∃ timers sm, s.mgr.mDsNif = some sm ∧
      t = { s with timers }.after [] (s.mgr, sm.retryCallback) := by
  change (match s.timers, s.mgr.mDsNif with
    | timers + 1, some sm => some ({ s with timers }.after [] (s.mgr, sm.retryCallback))
    | _, _ => some s) = some t at hstep
  grind

end AgpsSystem

end DeviceHal.Gps
