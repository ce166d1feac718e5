import DeviceHal.Gps.AgpsRun

namespace DeviceHal.Gps

open Lib AgpsStateMachine

/-- The calls out since a subscribed handle was released, if the modem has not requested it
again. -/
def sinceRelease (h : Int) (log : List AgpsEntry) : Option (List AgpsOut) :=
  log.foldl (fun acc entry =>
    match entry with
    | .requestATL g => if g = h then none else acc
    | .releaseATL g subscribed => if g = h && subscribed then some (acc.getD []) else acc
    | .out call => acc.map (· ++ [call])) none

theorem sinceRelease_request (h g : Int) (log : List AgpsEntry) :
    sinceRelease h (log ++ [.requestATL g]) = if g = h then none else sinceRelease h log := by
  unfold sinceRelease
  rw [List.foldl_append]
  rfl

theorem sinceRelease_release (h g : Int) (subscribed : Bool) (log : List AgpsEntry) :
    sinceRelease h (log ++ [.releaseATL g subscribed]) =
      if g = h && subscribed then some ((sinceRelease h log).getD []) else sinceRelease h log := by
  unfold sinceRelease
  rw [List.foldl_append]
  rfl

theorem sinceRelease_outs (h : Int) (log : List AgpsEntry) (outs : List AgpsOut) :
    sinceRelease h (log ++ outs.map .out) = (sinceRelease h log).map (· ++ outs) := by
  induction outs generalizing log with
  | nil => simp
  | cons call outs ih =>
    have hone : sinceRelease h (log ++ [.out call]) =
        (sinceRelease h log).map (· ++ [call]) := by
      unfold sinceRelease
      rw [List.foldl_append]
      rfl
    have hsplit : log ++ (call :: outs).map AgpsEntry.out =
        log ++ [.out call] ++ outs.map AgpsEntry.out := by simp
    rw [hsplit, ih, hone]
    cases sinceRelease h log <;> simp

namespace AgpsStateMachine

/-- The event denies the connection to a machine in which a released handle waits. -/
def DeniesWaiting (event : AgpsEvent) (sm : AgpsStateMachine) : Prop :=
  sm.mState = .pending ∧ sm.translate event = .denied ∧
    ∃ s ∈ sm.mSubscriberList, s.mIsInactive = true

theorem harmless_answer {h : Int} {sm : AgpsStateMachine} {event : AgpsEvent}
    (hp : h ∉ activeHandles sm.mSubscriberList) (hd : ¬sm.DeniesWaiting event)
    (he : event = .released ∨ event = .denied) : sm.Harmless h event := by
  have hlisted : sm.mState = .pending → sm.translate event = .denied →
      h ∉ handles sm.mSubscriberList := by
    intro hst htr hm
    obtain ⟨s, hs, hh⟩ := mem_handles.mp hm
    cases hi : s.mIsInactive with
    | false => exact hp (mem_activeHandles.mpr ⟨s, hs, hi, hh⟩)
    | true => exact hd ⟨hst, htr, s, hs, hi⟩
  unfold Harmless
  have htr : sm.translate event = .released ∨ sm.translate event = .denied := by
    unfold translate
    split
    · exact Or.inr rfl
    · exact he
  grind

end AgpsStateMachine

namespace AgpsSystem

/-- Every released handle has been closed once if it is no longer listed, and not before that;
nothing has reopened it. -/
structure Answered (s : AgpsSystem) : Prop where
  closed : ∀ h outs, sinceRelease h s.log = some outs → s.mgr.subscriptions h = 0 →
    closes h outs = 1
  waits : ∀ h outs, sinceRelease h s.log = some outs → 0 < s.mgr.subscriptions h →
    closes h outs = 0
  kept : ∀ h outs, sinceRelease h s.log = some outs → outs.any (·.reopens h) = false

/-- The call comes when the code can answer the release. A release finds the only machine that
lists the handle, and not in RELEASED. A message for a released handle finds it listed, and not in
ACQUIRED. A denial finds no subscriber that waits. -/
def Answers (s : AgpsSystem) (call : DSClient × AgpsOp) : Prop :=
  match call.2 with
  | .releaseATL h => ∀ n sub, s.mgr.findSubscriber h = some (n, sub) →
    s.mgr.subscriptions h = 1 ∧ ∀ sm, s.mgr.nif n = some sm → sm.mState ≠ .released
  | .deliver => ∀ h agpsType rest, s.queue = (h, agpsType) :: rest →
    (sinceRelease h s.log).isSome = true → ∃ sm, s.mgr.target call.1 agpsType = some sm ∧
      h ∈ handles sm.mSubscriberList ∧ sm.mState ≠ .acquired
  | .reportDataCallClosed => ∀ sm, s.mgr.mDsNif = some sm → ¬sm.DeniesWaiting .released
  | .reportAtlClosed agpsType => ∀ sm, s.mgr.target call.1 agpsType = some sm →
    ¬sm.DeniesWaiting .released
  | .reportAtlOpenFailed agpsType => ∀ sm, s.mgr.target call.1 agpsType = some sm →
    ¬sm.DeniesWaiting .denied
  | _ => True

/-- A released handle waits in one list, or has been closed. -/
structure ReleaseInv (m : AgpsManager) (log : List AgpsEntry) : Prop where
  unique : m.Unique
  inactive : ∀ h outs, sinceRelease h log = some outs → ∀ n, ¬m.Active h n
  balance : ∀ h outs, sinceRelease h log = some outs → closes h outs + m.subscriptions h = 1
  kept : ∀ h outs, sinceRelease h log = some outs → outs.any (·.reopens h) = false

theorem ReleaseInv.answered {s : AgpsSystem} (hi : ReleaseInv s.mgr s.log) : s.Answered where
  closed h outs ho hz := by
    have hb := hi.balance h outs ho
    omega
  waits h outs ho hp := by
    have hb := hi.balance h outs ho
    omega
  kept := hi.kept

variable {m : AgpsManager} {log : List AgpsEntry} {result : AgpsManager × List AgpsOut}

theorem ReleaseInv.extend (hu : result.1.Unique)
    (hs : ∀ h outs, sinceRelease h log = some outs → outs.any (·.reopens h) = false ∧
      closes h outs + m.subscriptions h = 1 ∧ m.Spares h result ∧
      ∀ n, ¬result.1.Active h n) :
    ReleaseInv result.1 (log ++ result.2.map .out) := by
  have hprev : ∀ h outs, sinceRelease h (log ++ result.2.map .out) = some outs →
      ∃ prev, sinceRelease h log = some prev ∧ outs = prev ++ result.2 := by
    intro h outs ho
    rw [sinceRelease_outs] at ho
    obtain ⟨prev, hp, he⟩ := Option.map_eq_some_iff.mp ho
    exact ⟨prev, hp, he.symm⟩
  refine ⟨hu, fun h outs ho => ?_, fun h outs ho => ?_, fun h outs ho => ?_⟩
  · grind
  · obtain ⟨prev, hp, rfl⟩ := hprev h outs ho
    obtain ⟨-, hbal, hspares, -⟩ := hs h prev hp
    have hcl := hspares.closes
    rw [closes_append]
    omega
  · obtain ⟨prev, hp, rfl⟩ := hprev h outs ho
    obtain ⟨hkept, -, hspares, hinactive⟩ := hs h prev hp
    rw [List.any_append, hkept, Bool.false_or, ← Bool.not_eq_true]
    intro hr
    obtain ⟨n, hn⟩ := hspares.reopens hr
    exact hinactive n hn

theorem ReleaseInv.spared (hi : ReleaseInv m log) (hu : result.1.Unique)
    (hs : ∀ h outs, sinceRelease h log = some outs → m.Spares h result) :
    ReleaseInv result.1 (log ++ result.2.map .out) := by
  refine .extend (m := m) hu fun h outs ho => ?_
  have hspares := hs h outs ho
  exact ⟨hi.kept h outs ho, hi.balance h outs ho, hspares,
    fun n hn => hi.inactive h outs ho n (hspares.active n hn)⟩

theorem ReleaseInv.same {m' : AgpsManager} (hi : ReleaseInv m log)
    (hs : ∀ n, m'.subscribers n = m.subscribers n) : ReleaseInv m' log := by
  refine ⟨hi.unique.congr hs, fun h outs ho n => ?_, fun h outs ho => ?_, hi.kept⟩
  · unfold AgpsManager.Active
    rw [hs]
    exact hi.inactive h outs ho n
  · rw [AgpsManager.subscriptions_congr hs]
    exact hi.balance h outs ho

theorem ReleaseInv.answer {client : DSClient} {n : Nif} {event : AgpsEvent}
    (hi : ReleaseInv m log) (he : event = .released ∨ event = .denied)
    (hd : ∀ sm, m.nif n = some sm → ¬sm.DeniesWaiting event)
    (hsend : m.sendEvent client n event = some result) :
    ReleaseInv result.1 (log ++ result.2.map .out) := by
  have hw : ∀ sm : AgpsStateMachine, sm.WellFormed event := by
    rcases he with rfl | rfl <;> exact fun _ => trivial
  have hne : ∀ s, event ≠ .subscribe s := by
    rcases he with rfl | rfl <;> simp
  refine hi.spared (AgpsManager.answer_keeps hi.unique hw hne hsend).1 fun h outs ho => ?_
  refine AgpsManager.answer_spares hi.unique hw (fun sm hn => ?_) hsend
  have hp := hi.inactive h outs ho n
  unfold AgpsManager.Active at hp
  rw [AgpsManager.subscribers_of_nif hn] at hp
  exact harmless_answer hp (hd sm hn) he

theorem ReleaseInv.granted {client : DSClient} {n : Nif} (hi : ReleaseInv m log)
    (hsend : m.sendEvent client n .granted = some result) :
    ReleaseInv result.1 (log ++ result.2.map .out) := by
  have hw : ∀ sm : AgpsStateMachine, sm.WellFormed .granted := fun _ => trivial
  refine hi.spared (AgpsManager.answer_keeps hi.unique hw (by simp) hsend).1 fun h _ _ => ?_
  exact AgpsManager.answer_spares hi.unique hw (fun _ _ => harmless_granted) hsend

theorem ReleaseInv.forget (hi : ReleaseInv m log) (g : Int) :
    ReleaseInv m (log ++ [.requestATL g]) := by
  have hprev : ∀ h outs, sinceRelease h (log ++ [.requestATL g]) = some outs →
      sinceRelease h log = some outs := by
    intro h outs ho
    rw [sinceRelease_request] at ho
    split at ho
    next => cases ho
    next => exact ho
  exact ⟨hi.unique, fun h outs ho => hi.inactive h outs (hprev h outs ho),
    fun h outs ho => hi.balance h outs (hprev h outs ho),
    fun h outs ho => hi.kept h outs (hprev h outs ho)⟩

theorem ReleaseInv.request (hi : ReleaseInv m log) (client : DSClient) (g : Int)
    (agpsType : AGpsExtType)
    (hh : (sinceRelease g log).isSome = true → ∃ sm, m.target client agpsType = some sm ∧
      g ∈ handles sm.mSubscriberList ∧ sm.mState ≠ .acquired) :
    ReleaseInv (m.requestATL client g agpsType).1
      (log ++ (m.requestATL client g agpsType).2.map .out) := by
  refine hi.spared (AgpsManager.requestATL_keeps hi.unique client g agpsType).1 fun h outs ho => ?_
  refine AgpsManager.requestATL_spares hi.unique client fun he => ?_
  subst he
  exact hh (by rw [ho]; rfl)

theorem ReleaseInv.release (hi : ReleaseInv m log) (client : DSClient) (g : Int)
    (hg : ∀ n sub, m.findSubscriber g = some (n, sub) → m.subscriptions g = 1 ∧
      ∀ sm, m.nif n = some sm → sm.mState ≠ .released) :
    ReleaseInv (m.releaseATL client g).1
      (log ++ [.releaseATL g (m.findSubscriber g).isSome] ++
        (m.releaseATL client g).2.map .out) := by
  obtain ⟨hunique, hactive⟩ := AgpsManager.releaseATL_keeps hi.unique client g
  have hspares : ∀ h, m.Spares h (m.releaseATL client g) := fun h =>
    AgpsManager.releaseATL_spares hi.unique client fun _ n sub hf => (hg n sub hf).2
  refine .extend (m := m) hunique fun h outs ho => ?_
  rw [sinceRelease_release] at ho
  split at ho
  next hcase =>
    obtain ⟨he, hfound⟩ := Bool.and_eq_true_iff.mp hcase
    have hgh : g = h := by simpa using he
    subst hgh
    obtain ⟨⟨n, sub⟩, hf⟩ := Option.isSome_iff_exists.mp hfound
    obtain ⟨hone, hst⟩ := hg n sub hf
    -- before this call the handle has not been closed: it is listed
    have hprev : outs.any (·.reopens g) = false ∧ closes g outs = 0 := by
      cases hp : sinceRelease g log with
      | none =>
        rw [hp] at ho
        cases Option.some.inj ho
        exact ⟨rfl, rfl⟩
      | some prev =>
        rw [hp] at ho
        cases Option.some.inj ho
        have hb := hi.balance g prev hp
        exact ⟨hi.kept g prev hp, by simp only [Option.getD_some]; omega⟩
    refine ⟨hprev.1, by omega, hspares g, fun n' hn' => ?_⟩
    by_cases hnn : n' = n
    · subst hnn
      exact AgpsManager.releaseATL_inactive hi.unique client hf hst hn'
    · exact AgpsManager.not_active_elsewhere hone hf hnn (hactive g n' hn')
  next =>
    exact ⟨hi.kept h outs ho, hi.balance h outs ho, hspares h,
      fun n hn => hi.inactive h outs ho n (hactive h n hn)⟩

theorem retryCallback_spares {h : Int} {sm : AgpsStateMachine} (hn : m.mDsNif = some sm)
    (hi : ∀ n, ¬m.Active h n) : m.Spares h (m, sm.retryCallback) := by
  refine .silent (fun _ => rfl) ?_ ?_
  · unfold retryCallback
    split
    next => rfl
    next s hs =>
      have hact : m.Active s.mConnHandle .ds := by
        unfold AgpsManager.Active
        rw [AgpsManager.subscribers_of_nif (n := .ds) hn]
        exact getFirstSubscriber_active hs
      grind [AgpsOut.reopens]
  · unfold retryCallback
    split <;> simp [closes]

theorem step_releaseInv {s t : AgpsSystem} {call : DSClient × AgpsOp}
    (hi : ReleaseInv s.mgr s.log) (ha : s.Answers call) (hstep : s.step call = some t) :
    ReleaseInv t.mgr t.log := by
  obtain ⟨client, op⟩ := call
  cases op with
  | createAgpsStateMachines =>
    cases Option.some.inj hstep
    have hnew := hi.same (AgpsManager.subscribers_create client s.mgr)
    simpa [after] using hnew
  | requestATL h agpsType =>
    cases Option.some.inj hstep
    refine (hi.forget h).request client h agpsType fun hs => ?_
    rw [sinceRelease_request, if_pos rfl] at hs
    cases hs
  | releaseATL h =>
    cases Option.some.inj hstep
    exact hi.release client h ha
  | reportDataCallOpened =>
    cases Option.some.inj hstep
    cases hsend : s.mgr.sendEvent client .ds .granted with
    | none => simpa [after, AgpsManager.reportDataCallOpened, hsend] using hi
    | some result =>
      simpa [after, AgpsManager.reportDataCallOpened, hsend] using hi.granted hsend
  | reportDataCallClosed =>
    cases Option.some.inj hstep
    cases hsend : s.mgr.sendEvent client .ds .released with
    | none => simpa [after, AgpsManager.reportDataCallClosed, hsend] using hi
    | some result =>
      simpa [after, AgpsManager.reportDataCallClosed, hsend] using
        hi.answer (n := .ds) (Or.inl rfl) ha hsend
  | reportAtlOpenSuccess agpsType apnName apnLen bearerType =>
    obtain ⟨result, hr, he⟩ := Option.map_eq_some_iff.mp hstep
    obtain ⟨m', n, hsame, hsend⟩ := AgpsManager.reportAtlOpenSuccess_sends hr
    subst he
    simpa [after] using (hi.same hsame).granted hsend
  | reportAtlOpenFailed agpsType =>
    obtain ⟨result, hr, he⟩ := Option.map_eq_some_iff.mp hstep
    subst he
    have hsame := AgpsManager.subscribers_get client agpsType s.mgr
    simpa [after] using (hi.same hsame).answer (Or.inr rfl) ha hr
  | reportAtlClosed agpsType =>
    obtain ⟨result, hr, he⟩ := Option.map_eq_some_iff.mp hstep
    subst he
    have hsame := AgpsManager.subscribers_get client agpsType s.mgr
    simpa [after] using (hi.same hsame).answer (Or.inl rfl) ha hr
  | deliver =>
    rcases deliver_cases hstep with rfl | ⟨h, agpsType, rest, hq, rfl⟩
    · exact hi
    · simpa [after] using hi.request client h agpsType (ha h agpsType rest hq)
  | retryTimer =>
    rcases retryTimer_cases hstep with rfl | ⟨timers, sm, hds, rfl⟩
    · exact hi
    · have hs : ∀ h outs, sinceRelease h s.log = some outs →
          s.mgr.Spares h (s.mgr, sm.retryCallback) :=
        fun h outs ho => retryCallback_spares hds (hi.inactive h outs ho)
      simpa [after] using @ReleaseInv.spared s.mgr s.log (s.mgr, sm.retryCallback) hi hi.unique hs

theorem releaseInv_new (agpsCapable useEmergencyPdn : Bool) :
    ReleaseInv (new agpsCapable useEmergencyPdn).mgr (new agpsCapable useEmergencyPdn).log := by
  refine ⟨fun n => ?_, ?_, ?_, ?_⟩
  · cases n <;> exact List.nodup_nil
  · intro h outs ho
    cases ho
  · intro h outs ho
    cases ho
  · intro h outs ho
    cases ho

/-- If each call comes when the code can answer the release, every released handle is closed once,
when it leaves its list, and is not reopened until the modem requests it again. -/
theorem answered_of_answers (agpsCapable useEmergencyPdn : Bool)
    (calls : List (DSClient × AgpsOp))
    (meet : OpsMeet step Answers (new agpsCapable useEmergencyPdn) calls) :
    Always step Answered (new agpsCapable useEmergencyPdn) calls := by
  have holds : ∀ s : AgpsSystem, ReleaseInv s.mgr s.log → s.Answered := fun _ hi => hi.answered
  have keeps : ∀ s call t, ReleaseInv s.mgr s.log → Answers s call → s.step call = some t →
      ReleaseInv t.mgr t.log := fun _ _ _ hi ha hstep => step_releaseInv hi ha hstep
  exact always_invariant holds keeps (releaseInv_new _ _) meet

def busyClient : DSClient := ⟨some 0, some locApiAdapterErrEngineBusy, true⟩

/-- The modem requests a connection and releases it. -/
def releasedRun : List (DSClient × AgpsOp) :=
  [(busyClient, .createAgpsStateMachines), (busyClient, .requestATL 1 locAgpsTypeSupl),
    (busyClient, .releaseATL 1)]

theorem releasedRun_answered :
    OpsMeet step Answers (new true false) releasedRun ∧
      Always step Answered (new true false) releasedRun := by
  have meet : OpsMeet step Answers (new true false) releasedRun := by
    refine ⟨trivial, fun t ht => ?_⟩
    cases Option.some.inj ht
    refine ⟨trivial, fun t ht => ?_⟩
    cases Option.some.inj ht
    refine ⟨fun n sub hf => ?_, fun t ht => trivial⟩
    have he := Option.some.inj (hf.symm.trans (by rfl :
      _ = some (Nif.agnss, (⟨1, false, false⟩ : AgpsSubscriber))))
    cases he
    refine ⟨by decide, fun sm hn => ?_⟩
    cases Option.some.inj hn
    decide
  exact ⟨meet, answered_of_answers true false releasedRun meet⟩

/-- Two requests, of which the first waits for the close after its release. Then the framework
denies the connection. -/
def deniedRun : List (DSClient × AgpsOp) :=
  [(busyClient, .createAgpsStateMachines), (busyClient, .requestATL 1 locAgpsTypeSuplEs),
    (busyClient, .requestATL 2 locAgpsTypeSupl), (busyClient, .releaseATL 1),
    (busyClient, .reportAtlOpenFailed locAgpsTypeSupl)]

/-- The handle that was released gets an open status, and leaves the list with no close. -/
theorem denial_reopens : ∃ s outs, runOps step (new true false) deniedRun = some s ∧
    sinceRelease 1 s.log = some outs ∧ s.mgr.subscriptions 1 = 0 ∧ closes 1 outs = 0 ∧
      outs.any (·.reopens 1) = true :=
  ⟨_, _, rfl, rfl, by decide, by decide, by decide⟩

end AgpsSystem

end DeviceHal.Gps
