import DeviceHal.Gps.AgpsRun

namespace DeviceHal.Gps

open Lib AgpsStateMachine

/-- The last call of the modem for the handle was to release it. -/
def lastReleased (h : Int) (log : List AgpsEntry) : Bool :=
  log.foldl (fun acc entry =>
    match entry with
    | .requestATL g => if g = h then false else acc
    | .releaseATL g _ => if g = h then true else acc
    | .out _ => acc) false

theorem lastReleased_request (h g : Int) (log : List AgpsEntry) :
    lastReleased h (log ++ [.requestATL g]) = if g = h then false else lastReleased h log := by
  unfold lastReleased
  rw [List.foldl_append]
  rfl

theorem lastReleased_release (h g : Int) (subscribed : Bool) (log : List AgpsEntry) :
    lastReleased h (log ++ [.releaseATL g subscribed]) =
      if g = h then true else lastReleased h log := by
  unfold lastReleased
  rw [List.foldl_append]
  rfl

theorem lastReleased_outs (h : Int) (log : List AgpsEntry) (outs : List AgpsOut) :
    lastReleased h (log ++ outs.map .out) = lastReleased h log := by
  unfold lastReleased
  rw [List.foldl_append]
  generalize log.foldl _ false = acc
  induction outs with
  | nil => rfl
  | cons call outs ih => exact ih

namespace AgpsManager

/-- A request for the handle makes it active in one machine only: the one it is sent to lists it
already, or no other has it active. -/
def JoinsAlone (client : DSClient) (h : Int) (agpsType : AGpsExtType) (m : AgpsManager) : Prop :=
  ∀ sm, m.target client agpsType = some sm → h ∉ handles sm.mSubscriberList →
    ∀ n, n ≠ (m.getAgpsStateMachine client agpsType).2 → ¬m.Active h n

end AgpsManager

namespace AgpsSystem

/-- No handle is active in two machines, and a released one for which no message is queued is
active in none. -/
structure OneHome (s : AgpsSystem) : Prop where
  one : ∀ h n n', s.mgr.Active h n → s.mgr.Active h n' → n = n'
  gone : ∀ h, lastReleased h s.log = true → (∀ message ∈ s.queue, message.1 ≠ h) →
    ∀ n, ¬s.mgr.Active h n

/-- The call comes when the code can keep a handle in one machine. A message for a released handle
finds it listed. A release finds the only machine that has the handle active, and not in
RELEASED. -/
def KeepsHome (s : AgpsSystem) (call : DSClient × AgpsOp) : Prop :=
  match call.2 with
  | .requestATL h agpsType => s.mgr.JoinsAlone call.1 h agpsType
  | .deliver => ∀ h agpsType rest, s.queue = (h, agpsType) :: rest →
    s.mgr.JoinsAlone call.1 h agpsType ∧
      (lastReleased h s.log = true → ∀ sm, s.mgr.target call.1 agpsType = some sm →
        h ∈ handles sm.mSubscriberList)
  | .releaseATL h => ∀ n sub, s.mgr.findSubscriber h = some (n, sub) →
    (∀ sm, s.mgr.nif n = some sm → sm.mState = .released → sub.mIsInactive = true) ∧
      ∀ n', n' ≠ n → ¬s.mgr.Active h n'
  | _ => True

/-- A released handle is active in no machine, whatever is queued. -/
structure HomeInv (m : AgpsManager) (log : List AgpsEntry) : Prop where
  unique : m.Unique
  one : ∀ h n n', m.Active h n → m.Active h n' → n = n'
  gone : ∀ h, lastReleased h log = true → ∀ n, ¬m.Active h n

theorem HomeInv.oneHome {s : AgpsSystem} (hi : HomeInv s.mgr s.log) : s.OneHome :=
  ⟨hi.one, fun h hr _ => hi.gone h hr⟩

variable {m : AgpsManager} {log : List AgpsEntry} {result : AgpsManager × List AgpsOut}

theorem HomeInv.shrink (hi : HomeInv m log) (hu : result.1.Unique)
    (ha : ∀ h n, result.1.Active h n → m.Active h n) :
    HomeInv result.1 (log ++ result.2.map .out) := by
  refine ⟨hu, fun h n n' hn hn' => hi.one h n n' (ha h n hn) (ha h n' hn'), fun h hr n hn => ?_⟩
  rw [lastReleased_outs] at hr
  exact hi.gone h hr n (ha h n hn)

theorem HomeInv.same {m' : AgpsManager} (hi : HomeInv m log)
    (hs : ∀ n, m'.subscribers n = m.subscribers n) : HomeInv m' log := by
  have ha : ∀ h n, m'.Active h n → m.Active h n := by
    intro h n hn
    unfold AgpsManager.Active at hn ⊢
    rwa [← hs]
  exact ⟨hi.unique.congr hs, fun h n n' hn hn' => hi.one h n n' (ha h n hn) (ha h n' hn'),
    fun h hr n hn => hi.gone h hr n (ha h n hn)⟩

theorem HomeInv.answer {client : DSClient} {n : Nif} {event : AgpsEvent} (hi : HomeInv m log)
    (he : event = .granted ∨ event = .released ∨ event = .denied)
    (hsend : m.sendEvent client n event = some result) :
    HomeInv result.1 (log ++ result.2.map .out) := by
  have hw : ∀ sm : AgpsStateMachine, sm.WellFormed event := by
    rcases he with rfl | rfl | rfl <;> exact fun _ => trivial
  have hne : ∀ s, event ≠ .subscribe s := by
    rcases he with rfl | rfl | rfl <;> simp
  obtain ⟨hunique, hactive⟩ := AgpsManager.answer_keeps hi.unique hw hne hsend
  exact hi.shrink hunique hactive

theorem HomeInv.request (hi : HomeInv m log) (client : DSClient) (g : Int)
    (agpsType : AGpsExtType) (hj : m.JoinsAlone client g agpsType)
    (hr : lastReleased g log = true → ∀ sm, m.target client agpsType = some sm →
      g ∈ handles sm.mSubscriberList) :
    HomeInv (m.requestATL client g agpsType).1
      (log ++ (m.requestATL client g agpsType).2.map .out) := by
  obtain ⟨hunique, hactive⟩ := AgpsManager.requestATL_keeps hi.unique client g agpsType
  refine ⟨hunique, fun h n n' hn hn' => ?_, fun h hrel n hn => ?_⟩
  · rcases hactive h n hn with hold | ⟨he, rfl, sm, hsm, hnew⟩
    · rcases hactive h n' hn' with hold' | ⟨he', rfl, sm, hsm, hnew⟩
      · exact hi.one h n n' hold hold'
      · by_contra hne
        exact hj sm hsm hnew n (fun hh => hne (hh.trans he'.symm)) hold
    · rcases hactive g n' hn' with hold' | ⟨he', -⟩
      · by_contra hne
        exact hj sm hsm hnew n' (fun hh => hne (he.trans hh.symm)) hold'
      · exact he.trans he'.symm
  · rw [lastReleased_outs] at hrel
    rcases hactive h n hn with hold | ⟨-, rfl, sm, hsm, hnew⟩
    · exact hi.gone h hrel n hold
    · exact hnew (hr hrel sm hsm)

theorem not_active_of_inactive {m : AgpsManager} (hu : m.Unique) {h : Int} {n : Nif}
    {sub : AgpsSubscriber} (hf : m.findSubscriber h = some (n, sub))
    (hin : sub.mIsInactive = true) : ¬m.Active h n := by
  intro ha
  obtain ⟨sm, hn, hs, rfl⟩ := AgpsManager.findSubscriber_some hf
  unfold AgpsManager.Active at ha
  rw [AgpsManager.subscribers_of_nif hn] at ha
  obtain ⟨s, hs', hact, he⟩ := mem_activeHandles.mp ha
  have hsame : s = sub :=
    List.inj_on_of_nodup_map (AgpsManager.nodup_of_nif hu hn) hs' hs he
  rw [hsame, hin] at hact
  cases hact

theorem HomeInv.release (hi : HomeInv m log) (client : DSClient) (g : Int)
    (hg : ∀ n sub, m.findSubscriber g = some (n, sub) →
      (∀ sm, m.nif n = some sm → sm.mState = .released → sub.mIsInactive = true) ∧
        ∀ n', n' ≠ n → ¬m.Active g n') (subscribed : Bool) :
    HomeInv (m.releaseATL client g).1
      (log ++ [.releaseATL g subscribed] ++ (m.releaseATL client g).2.map .out) := by
  obtain ⟨hunique, hactive⟩ := AgpsManager.releaseATL_keeps hi.unique client g
  refine ⟨hunique, fun h n n' hn hn' => hi.one h n n' (hactive h n hn) (hactive h n' hn'),
    fun h hrel n' hn' => ?_⟩
  rw [lastReleased_outs, lastReleased_release] at hrel
  split at hrel
  next he =>
    subst he
    cases hf : m.findSubscriber g with
    | none => exact AgpsManager.findSubscriber_none hf n' (activeHandles_subset (hactive g n' hn'))
    | some found =>
      obtain ⟨n, sub⟩ := found
      obtain ⟨hst, hothers⟩ := hg n sub hf
      by_cases hnn : n' = n
      · subst hnn
        obtain ⟨sm, hsm, -⟩ := AgpsManager.findSubscriber_some hf
        by_cases hreleased : sm.mState = .released
        · exact not_active_of_inactive hi.unique hf (hst sm hsm hreleased) (hactive g n' hn')
        · refine AgpsManager.releaseATL_inactive hi.unique client hf (fun sm' hsm' => ?_) hn'
          grind
      · exact hothers n' hnn (hactive g n' hn')
  next => exact hi.gone h hrel n' (hactive h n' hn')

theorem step_homeInv {s t : AgpsSystem} {call : DSClient × AgpsOp}
    (hi : HomeInv s.mgr s.log) (hk : s.KeepsHome call) (hstep : s.step call = some t) :
    HomeInv t.mgr t.log := by
  obtain ⟨client, op⟩ := call
  cases op with
  | createAgpsStateMachines =>
    cases Option.some.inj hstep
    have hnew := hi.same (AgpsManager.subscribers_create client s.mgr)
    simpa [after] using hnew
  | requestATL h agpsType =>
    cases Option.some.inj hstep
    have hforget : HomeInv s.mgr (s.log ++ [.requestATL h]) := by
      refine ⟨hi.unique, hi.one, fun g hr => ?_⟩
      rw [lastReleased_request] at hr
      split at hr
      next => cases hr
      next => exact hi.gone g hr
    refine hforget.request client h agpsType hk fun hs => ?_
    rw [lastReleased_request, if_pos rfl] at hs
    cases hs
  | releaseATL h =>
    cases Option.some.inj hstep
    exact hi.release client h hk _
  | reportDataCallOpened =>
    cases Option.some.inj hstep
    cases hsend : s.mgr.sendEvent client .ds .granted with
    | none => simpa [after, AgpsManager.reportDataCallOpened, hsend] using hi
    | some result =>
      simpa [after, AgpsManager.reportDataCallOpened, hsend] using hi.answer (Or.inl rfl) hsend
  | reportDataCallClosed =>
    cases Option.some.inj hstep
    cases hsend : s.mgr.sendEvent client .ds .released with
    | none => simpa [after, AgpsManager.reportDataCallClosed, hsend] using hi
    | some result =>
      simpa [after, AgpsManager.reportDataCallClosed, hsend] using
        hi.answer (Or.inr (Or.inl rfl)) hsend
  | reportAtlOpenSuccess agpsType apnName apnLen bearerType =>
    obtain ⟨result, hr, he⟩ := Option.map_eq_some_iff.mp hstep
    obtain ⟨m', n, hsame, hsend⟩ := AgpsManager.reportAtlOpenSuccess_sends hr
    subst he
    simpa [after] using (hi.same hsame).answer (Or.inl rfl) hsend
  | reportAtlOpenFailed agpsType =>
    obtain ⟨result, hr, he⟩ := Option.map_eq_some_iff.mp hstep
    subst he
    have hsame := AgpsManager.subscribers_get client agpsType s.mgr
    simpa [after] using (hi.same hsame).answer (Or.inr (Or.inr rfl)) hr
  | reportAtlClosed agpsType =>
    obtain ⟨result, hr, he⟩ := Option.map_eq_some_iff.mp hstep
    subst he
    have hsame := AgpsManager.subscribers_get client agpsType s.mgr
    simpa [after] using (hi.same hsame).answer (Or.inr (Or.inl rfl)) hr
  | deliver =>
    rcases deliver_cases hstep with rfl | ⟨h, agpsType, rest, hq, rfl⟩
    · exact hi
    · obtain ⟨hj, hr⟩ := hk h agpsType rest hq
      simpa [after] using hi.request client h agpsType hj hr
  | retryTimer =>
    rcases retryTimer_cases hstep with rfl | ⟨timers, sm, -, rfl⟩
    · exact hi
    · simpa [after] using
        @HomeInv.shrink s.mgr s.log (s.mgr, sm.retryCallback) hi hi.unique fun _ _ => id

theorem homeInv_new (agpsCapable useEmergencyPdn : Bool) :
    HomeInv (new agpsCapable useEmergencyPdn).mgr (new agpsCapable useEmergencyPdn).log := by
  have hnone : ∀ h n, ¬(new agpsCapable useEmergencyPdn).mgr.Active h n := by
    intro h n
    cases n <;> simp [AgpsManager.Active, AgpsManager.subscribers, AgpsManager.nif, new,
      activeHandles]
  refine ⟨fun n => ?_, fun h n _ hn => absurd hn (hnone h n), fun h _ => hnone h⟩
  cases n <;> exact List.nodup_nil

/-- If each call comes when the code can keep a handle in one machine, no handle is active in two,
and none after its release and the messages that were queued for it. -/
theorem oneHome_of_keeps (agpsCapable useEmergencyPdn : Bool) (calls : List (DSClient × AgpsOp))
    (meet : OpsMeet step KeepsHome (new agpsCapable useEmergencyPdn) calls) :
    Always step OneHome (new agpsCapable useEmergencyPdn) calls := by
  have holds : ∀ s : AgpsSystem, HomeInv s.mgr s.log → s.OneHome := fun _ hi => hi.oneHome
  have keeps : ∀ s call t, HomeInv s.mgr s.log → KeepsHome s call → s.step call = some t →
      HomeInv t.mgr t.log := fun _ _ _ hi hk hstep => step_homeInv hi hk hstep
  exact always_invariant holds keeps (homeInv_new _ _) meet

/-- The DS client knows of no emergency profile. -/
def unsupportedClient : DSClient := ⟨some 0, some locApiAdapterErrUnsupported, true⟩

/-- The modem requests a connection and releases it. -/
def suplRun : List (DSClient × AgpsOp) :=
  [(unsupportedClient, .createAgpsStateMachines), (unsupportedClient, .requestATL 1 locAgpsTypeSupl),
    (unsupportedClient, .releaseATL 1)]

theorem suplRun_oneHome :
    OpsMeet step KeepsHome (new true true) suplRun ∧
      Always step OneHome (new true true) suplRun := by
  have meet : OpsMeet step KeepsHome (new true true) suplRun := by
    refine ⟨trivial, fun t ht => ?_⟩
    cases Option.some.inj ht
    refine ⟨fun sm _ _ n _ => ?_, fun t ht => ?_⟩
    · cases n <;> exact List.not_mem_nil
    cases Option.some.inj ht
    refine ⟨fun n sub hf => ?_, fun t ht => trivial⟩
    have he := Option.some.inj (hf.symm.trans (by rfl :
      _ = some (Nif.agnss, (⟨1, false, false⟩ : AgpsSubscriber))))
    cases he
    refine ⟨fun sm hn hst => ?_, fun n hne => ?_⟩
    · cases Option.some.inj hn
      cases hst
    · cases n with
      | agnss => exact absurd rfl hne
      | internet => exact List.not_mem_nil
      | ds => exact List.not_mem_nil
  exact ⟨meet, oneHome_of_keeps true true suplRun meet⟩

/-- An emergency request falls back to SUPL and is not taken out of the DS machine. -/
def fallbackRun : List (DSClient × AgpsOp) :=
  [(unsupportedClient, .createAgpsStateMachines),
    (unsupportedClient, .requestATL 1 locAgpsTypeSuplEs), (unsupportedClient, .deliver)]

/-- The handle is active in two machines. Its release leaves it active in one. -/
theorem fallback_two_homes : ∃ s t, runOps step (new true true) fallbackRun = some s ∧
    s.mgr.Active 1 .agnss ∧ s.mgr.Active 1 .ds ∧
    s.step (unsupportedClient, .releaseATL 1) = some t ∧ t.queue = [] ∧ t.mgr.Active 1 .ds := by
  refine ⟨_, _, rfl, ?_, ?_, rfl, rfl, ?_⟩
  · unfold AgpsManager.Active
    decide
  · unfold AgpsManager.Active
    decide
  · unfold AgpsManager.Active
    decide

end AgpsSystem

end DeviceHal.Gps
