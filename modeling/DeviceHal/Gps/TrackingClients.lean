import DeviceHal.Gps.TrackingRun

namespace DeviceHal.Gps

open Lib

namespace GnssAdapter

variable {engine : Engine} {s t : GnssAdapter} {client : LocationAPI}

theorem stopTrackingMultiplex_same (succeeds : EngineSucceeds engine) (id : UInt32) :
    (s.stopTrackingMultiplex engine client id).2 = .success ∧
      (s.stopTrackingMultiplex engine client id).1.mTrackingSessions = s.mTrackingSessions := by
  unfold stopTrackingMultiplex
  split
  next =>
    rw [stopTracking_eq succeeds]
    exact ⟨rfl, rfl⟩
  next =>
    dsimp only
    split
    next => exact ⟨rfl, rfl⟩
    next =>
      split
      next =>
        rw [startTracking_eq succeeds]
        exact ⟨rfl, rfl⟩
      next => exact ⟨rfl, rfl⟩

theorem erase_between {m : OrderedMap LocationSessionKey LocationOptions}
    {kept rest : List TrackingSession} {key : LocationSessionKey} {options : LocationOptions}
    (hm : m.entries = kept ++ (key, options) :: rest) : (m.erase key).entries = kept ++ rest := by
  have hsorted := m.sorted
  rw [hm] at hsorted
  obtain ⟨-, hrest, hkept⟩ := List.pairwise_append.mp hsorted
  have hk : ∀ x ∈ kept, x.1 ≠ key := fun x hx => ne_of_lt (hkept x hx _ List.mem_cons_self)
  have hr : ∀ x ∈ rest, x.1 ≠ key := fun x hx => ne_of_gt ((List.pairwise_cons.mp hrest).1 x hx)
  rw [OrderedMap.entries_erase, hm, List.filter_append, List.filter_cons]
  simp only [ne_eq, not_true_eq_false, decide_false, Bool.false_eq_true, if_false]
  rw [List.filter_eq_self.mpr fun x hx => by simpa using hk x hx,
    List.filter_eq_self.mpr fun x hx => by simpa using hr x hx]

variable {options : LocationOptions} {key : LocationSessionKey}

theorem stopSessions_cons (succeeds : EngineSucceeds engine)
    {rest : List TrackingSession} (hk : client = key.client) :
    stopSessions engine client ((key, options) :: rest) s = stopSessions engine client rest
      ((s.stopTrackingMultiplex engine key.client key.id).1.eraseTrackingSession
        key.client key.id) := by
  have hsuccess := (@stopTrackingMultiplex_same engine s key.client succeeds key.id).1
  change (if client = key.client then _ else _) = _
  rw [if_pos hk]
  dsimp only
  rw [if_pos hsuccess]

theorem stopSessions_entries (succeeds : EngineSucceeds engine) {kept rest : List TrackingSession}
    (hs : s.mTrackingSessions.entries = kept ++ rest) (hkept : ∀ x ∈ kept, client ≠ x.1.client) :
    (stopSessions engine client rest s).mTrackingSessions.entries =
      s.mTrackingSessions.entries.filter fun session => client ≠ session.1.client := by
  induction rest generalizing kept s with
  | nil =>
    rw [hs, List.append_nil]
    refine (hs.trans (List.append_nil kept)).trans (List.filter_eq_self.mpr fun x hx => ?_).symm
    simpa using hkept x hx
  | cons session rest ih =>
    obtain ⟨key, options⟩ := session
    by_cases hk : client = key.client
    · rw [stopSessions_cons succeeds hk]
      have herase := erase_between hs
      have hsame := (@stopTrackingMultiplex_same engine s key.client succeeds key.id).2
      have hnext : ((s.stopTrackingMultiplex engine key.client key.id).1.eraseTrackingSession
          key.client key.id).mTrackingSessions.entries = kept ++ rest := by
        change ((s.stopTrackingMultiplex engine key.client key.id).1.mTrackingSessions.erase
          key).entries = _
        rw [hsame]
        exact herase
      grind
    · have hnext : stopSessions engine client ((key, options) :: rest) s =
          stopSessions engine client rest s := if_neg hk
      have happend : s.mTrackingSessions.entries = (kept ++ [(key, options)]) ++ rest := by
        rw [hs, List.append_assoc, List.singleton_append]
      grind

theorem stopSessions_running (succeeds : EngineSucceeds engine) {rest : List TrackingSession}
    (hs : s.mTrackingSessions.entries = rest) (hown : ∀ x ∈ rest, client = x.1.client)
    (hne : rest ≠ []) : (stopSessions engine client rest s).running = false := by
  induction rest generalizing s with
  | nil => exact absurd rfl hne
  | cons session rest ih =>
    obtain ⟨key, options⟩ := session
    rw [stopSessions_cons succeeds (hown _ List.mem_cons_self)]
    cases rest with
    | nil =>
      have hlen : s.mTrackingSessions.entries.length = 1 := by rw [hs]; rfl
      unfold stopTrackingMultiplex
      rw [if_pos hlen, stopTracking_eq succeeds]
      rfl
    | cons next rest =>
      have hsame := (@stopTrackingMultiplex_same engine s key.client succeeds key.id).2
      refine ih ?_ (fun x hx => hown x (List.mem_cons_of_mem _ hx)) (List.cons_ne_nil _ _)
      change ((s.stopTrackingMultiplex engine key.client key.id).1.mTrackingSessions.erase
        key).entries = _
      rw [hsame]
      exact @erase_between _ [] (next :: rest) key options hs

theorem stopTrackingMultiplex_restart (succeeds : EngineSucceeds engine)
    (hm : (key, options) ∈ s.mTrackingSessions.entries)
    (hlen : s.mTrackingSessions.entries.length ≠ 1) :
    (s.stopTrackingMultiplex engine key.client key.id).1 =
      let smallest := smallestIntervalOptions (· ≠ key) s.mTrackingSessions.entries
      if options.minInterval < smallest.minInterval then s.started smallest else s := by
  rw [stopTrackingMultiplex_of_some hlen (OrderedMap.find?_eq_some_iff.mpr hm)]
  dsimp only
  split
  next => rw [startTracking_eq succeeds]
  next => rfl

variable {kept rest : List TrackingSession}

theorem smallest_beside (sized : ∀ session ∈ s.mTrackingSessions.entries, session.2.size ≠ 0)
    (hs : s.mTrackingSessions.entries = kept ++ (key, options) :: rest)
    (hkept : ∀ x ∈ kept, client ≠ x.1.client) (hk : client = key.client)
    (hothers : ∃ x ∈ s.mTrackingSessions.entries, client ≠ x.1.client) {low : UInt32}
    (hlow : (smallestIntervalOptions (client ≠ ·.client) s.mTrackingSessions.entries).minInterval =
      low)
    (hrest : ∀ x ∈ rest, client = x.1.client → ¬x.2.minInterval < low) :
    (smallestIntervalOptions (· ≠ key) s.mTrackingSessions.entries).minInterval = low := by
  obtain ⟨other, hother, hclient⟩ := hothers
  obtain ⟨least, hleast, hlooks, he, hle⟩ := @smallest_spec (client ≠ ·.client) _ sized
    ⟨other, hother, by simpa using hclient⟩
  obtain ⟨next, hnext, hnk, hne, hnle⟩ := @smallest_spec (· ≠ key) _ sized
    ⟨other, hother, by simpa using fun h : other.1 = key => hclient (h ▸ hk)⟩
  have hleastkey : decide (least.1 ≠ key) = true := by
    have hl : client ≠ least.1.client := by simpa using hlooks
    simpa using fun h : least.1 = key => hl (h ▸ hk)
  have hnextkey : next.1 ≠ key := by simpa using hnk
  rw [he] at hlow
  rw [hne, ← hlow]
  refine UInt32.le_antisymm (hnle least hleast hleastkey) ?_
  by_cases hc : client = next.1.client
  · grind
  · exact hle next hnext (by simpa using hc)

theorem stopSessions_turn (succeeds : EngineSucceeds engine)
    (hs : s.mTrackingSessions.entries = kept ++ (key, options) :: rest)
    (hlen : s.mTrackingSessions.entries.length ≠ 1) (hr : s.running = true)
    (hk : client = key.client) :
    ∃ next, stopSessions engine client ((key, options) :: rest) s =
        stopSessions engine client rest next ∧
      next.mTrackingSessions.entries = kept ++ rest ∧ next.running = true ∧
      next.active =
        let smallest := smallestIntervalOptions (· ≠ key) s.mTrackingSessions.entries
        if options.minInterval < smallest.minInterval then some smallest else s.active := by
  have hmem : (key, options) ∈ s.mTrackingSessions.entries := by
    rw [hs]
    exact List.mem_append_right _ List.mem_cons_self
  have hturn := stopTrackingMultiplex_restart succeeds hmem hlen
  refine ⟨_, stopSessions_cons succeeds hk, ?_, ?_, ?_⟩
  · change ((s.stopTrackingMultiplex engine key.client key.id).1.mTrackingSessions.erase
      key).entries = _
    rw [(stopTrackingMultiplex_same succeeds key.id).2]
    exact erase_between hs
  · change (s.stopTrackingMultiplex engine key.client key.id).1.running = true
    rw [hturn]
    dsimp only
    split
    · rfl
    · exact hr
  · change (s.stopTrackingMultiplex engine key.client key.id).1.active = _
    rw [hturn]
    dsimp only
    split <;> rfl

theorem stopSessions_active (succeeds : EngineSucceeds engine)
    (sized : ∀ session ∈ s.mTrackingSessions.entries, session.2.size ≠ 0)
    (hs : s.mTrackingSessions.entries = kept ++ rest) (hkept : ∀ x ∈ kept, client ≠ x.1.client)
    (hothers : ∃ x ∈ s.mTrackingSessions.entries, client ≠ x.1.client) {low : UInt32}
    (hlow : (smallestIntervalOptions (client ≠ ·.client) s.mTrackingSessions.entries).minInterval =
      low) (hr : s.running = true) :
    (stopSessions engine client rest s).running = true ∧
      (stopSessions engine client rest s).active =
        match (rest.filter fun x => client = x.1.client && x.2.minInterval < low).getLast? with
        | none => s.active
        | some last => some (smallestIntervalOptions
            (fun key => client ≠ key.client || last.1 < key) s.mTrackingSessions.entries) := by
  induction rest generalizing kept s with
  | nil => exact ⟨hr, rfl⟩
  | cons session rest ih =>
    obtain ⟨key, options⟩ := session
    by_cases hk : client = key.client
    · have hmem : (key, options) ∈ s.mTrackingSessions.entries := by
        rw [hs]
        exact List.mem_append_right _ List.mem_cons_self
      have hlen : s.mTrackingSessions.entries.length ≠ 1 := by
        intro hone
        obtain ⟨only, he⟩ := List.length_eq_one_iff.mp hone
        obtain ⟨x, hx, hc⟩ := hothers
        rw [he] at hx hmem
        rw [List.mem_singleton.mp hx, ← List.mem_singleton.mp hmem] at hc
        exact hc hk
      obtain ⟨next, hnext, hentries, hrun, hact⟩ := stopSessions_turn succeeds hs hlen hr hk
      have hother : (next.mTrackingSessions.entries.filter fun x => client ≠ x.1.client) =
          s.mTrackingSessions.entries.filter fun x => client ≠ x.1.client := by
        rw [hentries, hs]
        simp [hk]
      have hsub : ∀ x ∈ next.mTrackingSessions.entries, x ∈ s.mTrackingSessions.entries := by
        intro x hx
        rw [hentries] at hx
        rw [hs]
        simp only [List.mem_append, List.mem_cons] at hx ⊢
        tauto
      have hothers' : ∃ x ∈ next.mTrackingSessions.entries, client ≠ x.1.client := by
        obtain ⟨x, hx, hc⟩ := hothers
        have hm : x ∈ next.mTrackingSessions.entries.filter fun x => client ≠ x.1.client := by
          rw [hother]
          exact List.mem_filter.mpr ⟨hx, by simpa using hc⟩
        exact ⟨x, (List.mem_filter.mp hm).1, hc⟩
      have hlow' : (smallestIntervalOptions (client ≠ ·.client)
          next.mTrackingSessions.entries).minInterval = low := by
        rw [← hlow]
        exact congrArg LocationOptions.minInterval (smallest_congr hother)
      obtain ⟨hrunning, hactive⟩ := ih (fun x hx => sized x (hsub x hx)) hentries hkept hothers'
        hlow' hrun
      rw [hnext]
      refine ⟨hrunning, hactive.trans ?_⟩
      have hsorted := s.mTrackingSessions.sorted
      rw [hs] at hsorted
      have hafter := (List.pairwise_cons.mp (List.pairwise_append.mp hsorted).2.1).1
      cases hlast : (rest.filter fun x => client = x.1.client && x.2.minInterval < low).getLast? with
      | some last =>
        -- a later session restarts the engine
        have hlt := hafter last (List.mem_filter.mp (List.mem_of_getLast? hlast)).1
        have hcons : (((key, options) :: rest).filter
            fun x => client = x.1.client && x.2.minInterval < low).getLast? = some last := by
          rw [List.filter_cons]
          split
          · rw [List.getLast?_cons, hlast]
            rfl
          · exact hlast
        rw [hcons]
        refine congrArg some (smallest_congr ?_)
        rw [hentries, hs]
        simp [hk, not_lt_of_gt hlt]
      | none =>
        have hnil := List.getLast?_eq_none_iff.mp hlast
        have hsmall := smallest_beside sized hs hkept hk hothers hlow fun x hx hc hlt => by
          have hm := List.filter_eq_nil_iff.mp hnil x hx
          simp [hc, hlt] at hm
        rw [List.filter_cons, hnil, hact]
        dsimp only
        rw [hsmall]
        by_cases hlt : options.minInterval < low
        · simp only [hk, hlt, decide_true, Bool.and_self, if_true, List.getLast?_singleton]
          refine congrArg some (smallest_congr ?_)
          rw [hs]
          refine List.filter_congr fun x hx => ?_
          rcases List.mem_append.mp hx with hm | hm
          · have hc := hkept x hm
            have hne : x.1 ≠ key := fun he => hc (he ▸ hk)
            simp [hne, hk ▸ hc]
          · rcases List.mem_cons.mp hm with rfl | hm
            · simp
            · have hgt := hafter x hm
              simp [ne_of_gt hgt, hgt]
        · simp [hlt]
    · have hnext : stopSessions engine client ((key, options) :: rest) s =
          stopSessions engine client rest s := if_neg hk
      have happend : s.mTrackingSessions.entries = (kept ++ [(key, options)]) ++ rest := by
        rw [hs, List.append_assoc, List.singleton_append]
      have hfilter : ((key, options) :: rest).filter
          (fun x => client = x.1.client && x.2.minInterval < low) =
          rest.filter fun x => client = x.1.client && x.2.minInterval < low := by
        rw [List.filter_cons]
        simp [hk]
      rw [hnext, hfilter]
      refine ih sized happend (fun x hx => ?_) hothers hlow hr
      rcases List.mem_append.mp hx with hx | hx
      · exact hkept x hx
      · exact List.mem_singleton.mp hx ▸ hk

theorem removeClient_onMinimal (succeeds : EngineSucceeds engine) (hi : s.TrackInv)
    (client : LocationAPI) :
    (s.msgRemoveClient engine client).OnMinimal ↔ KeepsActive s (.removeClient client) := by
  have hkept : ∀ x ∈ ([] : List TrackingSession), client ≠ x.1.client := by simp
  have hentries := stopSessions_entries succeeds (List.nil_append s.mTrackingSessions.entries).symm
    hkept
  unfold msgRemoveClient stopClientSessions KeepsActive ActiveWithout
  dsimp only
  rw [onMinimal_congr (t := (stopSessions engine client s.mTrackingSessions.entries s).eraseClient
    client) (s := stopSessions engine client s.mTrackingSessions.entries s) rfl rfl rfl]
  by_cases hnil : (s.mTrackingSessions.entries.filter fun x => client ≠ x.1.client) = []
  · refine ⟨fun _ => Or.inl hnil, fun _ => ?_⟩
    rw [hnil] at hentries
    have hstopped : (stopSessions engine client s.mTrackingSessions.entries s).running = false := by
      by_cases hne : s.mTrackingSessions.entries = []
      · rw [hne]
        exact Bool.not_eq_true _ ▸ fun h => hi.onMinimal.running.mp h hne
      · refine stopSessions_running succeeds rfl (fun x hx => ?_) hne
        grind
    refine ⟨?_, fun h => absurd hentries h⟩
    rw [hstopped, hentries]
    simp
  · obtain ⟨other, hother⟩ := List.exists_mem_of_ne_nil _ hnil
    obtain ⟨hmem, hclient⟩ := List.mem_filter.mp hother
    have hclient' : client ≠ other.1.client := by simpa using hclient
    have hne := List.ne_nil_of_mem hmem
    obtain ⟨session, -, hact, hmin⟩ := hi.onMinimal.minimal hne
    obtain ⟨hrunning, hactive⟩ := stopSessions_active succeeds hi.sized
      (List.nil_append s.mTrackingSessions.entries).symm hkept ⟨other, hmem, hclient'⟩ rfl
      (hi.onMinimal.running.mpr hne)
    have hstays := hentries ▸ hnil
    rw [or_iff_right hnil]
    generalize stopSessions engine client s.mTrackingSessions.entries s = t at *
    split at hactive
    next hlast =>
      rw [hlast]
      rw [onMinimal_iff hrunning hstays (hactive.trans hact) fun x hx => hmin x
        (List.mem_filter.mp (hentries ▸ hx)).1, hentries]
      simp only [hact, Option.some.injEq]
    next last hlast =>
      rw [hlast]
      obtain ⟨least, -, -, hsmall, hle⟩ := @smallest_spec
        (fun key => client ≠ key.client || last.1 < key) _ hi.sized
        ⟨other, hmem, by simp [hclient']⟩
      rw [onMinimal_iff hrunning hstays hactive, hentries]
      grind

theorem startTracking_sessions (options : LocationOptions) :
    (s.startTracking engine options).1.mTrackingSessions = s.mTrackingSessions := by
  unfold startTracking
  dsimp only
  split
  · split <;> rfl
  · rfl

theorem startTrackingMultiplex_sessions (options : LocationOptions) :
    (s.startTrackingMultiplex engine options).1.mTrackingSessions = s.mTrackingSessions := by
  unfold startTrackingMultiplex
  split
  · exact startTracking_sessions options
  · dsimp only
    split
    · exact startTracking_sessions options
    · rfl

theorem updateTrackingMultiplex_sessions (client : LocationAPI) (id : UInt32)
    (options : LocationOptions) :
    (s.updateTrackingMultiplex engine client id options).1.mTrackingSessions =
      s.mTrackingSessions := by
  unfold updateTrackingMultiplex
  split
  · exact startTracking_sessions options
  · dsimp only
    split
    · rfl
    · split
      · exact startTracking_sessions options
      · split
        · exact startTracking_sessions _
        · rfl

def Sized (s : GnssAdapter) : Prop := ∀ session ∈ s.mTrackingSessions.entries, session.2.size ≠ 0

theorem Sized.mono (hs : s.Sized)
    (hsub : ∀ x ∈ t.mTrackingSessions.entries, x ∈ s.mTrackingSessions.entries) : t.Sized :=
  fun x hx => hs x (hsub x hx)

theorem Sized.reportResponse (hs : s.Sized) (client : LocationAPI) (err : LocationError)
    (id : UInt32) : (s.reportResponse client err id).Sized := by
  unfold Sized
  rw [(reportResponse_same client err id).1]
  exact hs

theorem Sized.saved (hs : s.Sized) {client : LocationAPI} {id : UInt32} (hsize : options.size ≠ 0)
    (ht : t.mTrackingSessions = s.mTrackingSessions) :
    (t.saveTrackingSession client id options).Sized := by
  have ht' : t.Sized := by
    unfold Sized
    rw [ht]
    exact hs
  exact sized_insert ht' hsize

theorem proc_sized (succeeds : EngineSucceeds engine) (hs : s.Sized) {msg : TrackingMsg}
    (hproc : s.proc engine msg = some t) : t.Sized := by
  cases msg with
  | addClient client callbacks =>
    cases Option.some.inj hproc
    exact hs
  | startTracking client id options =>
    cases Option.some.inj hproc
    unfold msgStartTracking
    split
    · exact hs.reportResponse _ _ _
    · split
      · exact hs.reportResponse _ _ _
      next hsize =>
        have hsame := @startTrackingMultiplex_sessions engine s options
        apply Sized.reportResponse
        split
        · exact hs.saved hsize hsame
        · exact hs.mono fun x hx => hsame ▸ hx
  | updateTracking client id options =>
    cases Option.some.inj hproc
    unfold msgUpdateTracking
    split
    · split
      · exact hs.reportResponse _ _ _
      next hsize =>
        have hsame := @updateTrackingMultiplex_sessions engine s client id options
        apply Sized.reportResponse
        split
        · exact hs.saved hsize hsame
        · exact hs.mono fun x hx => hsame ▸ hx
    · exact hs
  | stopTracking client id =>
    cases Option.some.inj hproc
    unfold msgStopTracking
    split
    · have hsame := (@stopTrackingMultiplex_same engine s client succeeds id).2
      apply Sized.reportResponse
      split
      · exact hs.mono fun x hx => hsame ▸ (OrderedMap.mem_erase.mp hx).1
      · exact hs.mono fun x hx => hsame ▸ hx
    · exact hs
  | removeClient client =>
    cases Option.some.inj hproc
    have hentries := @stopSessions_entries engine s client succeeds [] _
      (List.nil_append s.mTrackingSessions.entries).symm (by simp)
    refine hs.mono fun x hx => ?_
    change x ∈ (stopSessions engine client s.mTrackingSessions.entries
      s).mTrackingSessions.entries at hx
    rw [hentries] at hx
    exact (List.mem_filter.mp hx).1

theorem proc_onMinimal (succeeds : EngineSucceeds engine) (hi : s.TrackInv) {msg : TrackingMsg}
    (hproc : s.proc engine msg = some t) : t.OnMinimal ↔ KeepsActive s msg := by
  cases msg with
  | addClient client callbacks =>
    cases Option.some.inj hproc
    refine ⟨fun _ => trivial, fun _ => ?_⟩
    exact (@onMinimal_congr s (s.saveClient client callbacks) rfl rfl rfl).mpr hi.onMinimal
  | startTracking client id options =>
    cases Option.some.inj hproc
    exact startTracking_onMinimal succeeds hi client id options
  | updateTracking client id options =>
    cases Option.some.inj hproc
    exact updateTracking_onMinimal succeeds hi client id options
  | stopTracking client id =>
    cases Option.some.inj hproc
    exact stopTracking_onMinimal succeeds hi client id
  | removeClient client =>
    cases Option.some.inj hproc
    exact removeClient_onMinimal succeeds hi client

theorem proc_returns (engine : Engine) (s : GnssAdapter) (msg : TrackingMsg) :
    ∃ t, s.proc engine msg = some t := by
  cases msg <;> exact ⟨_, rfl⟩

theorem new_trackInv : TrackInv {} := by
  refine ⟨⟨by simp [OrderedMap.empty], fun h => absurd rfl h⟩, fun x hx => ?_⟩
  cases hx

/-- If engine and ULP calls succeed, the engine runs on a session with the smallest interval all
along exactly the runs whose messages restart it or leave it on options of a session that stays. -/
theorem onMinimal_iff_keepsActive (engine : Engine) (succeeds : EngineSucceeds engine)
    (msgs : List TrackingMsg) :
    Always (proc engine) OnMinimal {} msgs ↔ OpsMeet (proc engine) KeepsActive {} msgs := by
  have keeps : ∀ (s : GnssAdapter) (msg : TrackingMsg), TrackInv s → True → KeepsActive s msg →
      ∃ t, s.proc engine msg = some t ∧ TrackInv t := by
    intro s msg hi _ hkeeps
    obtain ⟨t, ht⟩ := proc_returns engine s msg
    exact ⟨t, ht, (proc_onMinimal succeeds hi ht).mpr hkeeps, proc_sized succeeds hi.sized ht⟩
  have breaks : ∀ (s : GnssAdapter) (msg : TrackingMsg), TrackInv s → True → ¬KeepsActive s msg →
      ∃ t, s.proc engine msg = some t ∧ ¬OnMinimal t := by
    intro s msg hi _ hnot
    obtain ⟨t, ht⟩ := proc_returns engine s msg
    exact ⟨t, ht, fun hmin => hnot ((proc_onMinimal succeeds hi ht).mp hmin)⟩
  exact always_iff (fun _ hi => hi.onMinimal) keeps breaks new_trackInv (opsMeet_true _ msgs)

def plainEngine : Engine := fun _ => ⟨false, locApiAdapterErrSuccess, false, locApiAdapterErrSuccess⟩

instance (key : LocationSessionKey) (s : GnssAdapter) : Decidable (s.ActiveBeside key) :=
  inferInstanceAs (Decidable (∃ session ∈ s.mTrackingSessions.entries,
    session.1 ≠ key ∧ s.active = some session.2))

instance (client : LocationAPI) (s : GnssAdapter) : Decidable (s.ActiveWithout client) := by
  unfold ActiveWithout
  dsimp only
  split <;> infer_instance

instance (s : GnssAdapter) : (msg : TrackingMsg) → Decidable (KeepsActive s msg)
  | .addClient _ _ => isTrue trivial
  | .startTracking _ _ _ => inferInstanceAs (Decidable (_ → _ → _ → _ ∨ _ ∨ _))
  | .updateTracking client id _ => inferInstanceAs (Decidable
      (_ → ∀ saved ∈ s.mTrackingSessions.find? ⟨client, id⟩, _))
  | .stopTracking client id => inferInstanceAs (Decidable
      (∀ saved ∈ s.mTrackingSessions.find? ⟨client, id⟩, _))
  | .removeClient client => inferInstanceAs (Decidable (s.ActiveWithout client))

/-- Two clients; the session with the smallest interval changes with each message. -/
def movingMsgs : List TrackingMsg :=
  [.addClient 1 ⟨true, false, true⟩, .addClient 2 ⟨true, false, true⟩,
    .startTracking 1 2 ⟨16, 1000, 0, .msb⟩, .startTracking 2 3 ⟨16, 500, 0, .standalone⟩,
    .updateTracking 2 3 ⟨16, 2000, 0, .standalone⟩, .startTracking 2 4 ⟨16, 100, 0, .msa⟩,
    .removeClient 2, .stopTracking 1 2]

theorem movingMsgs_onMinimal :
    EngineSucceeds plainEngine ∧ OpsMeet (proc plainEngine) KeepsActive {} movingMsgs ∧
      Always (proc plainEngine) OnMinimal {} movingMsgs := by
  have succeeds : EngineSucceeds plainEngine := fun _ => ⟨rfl, rfl⟩
  have keeps : OpsMeet (proc plainEngine) KeepsActive {} movingMsgs := by decide
  exact ⟨succeeds, keeps, (onMinimal_iff_keepsActive plainEngine succeeds movingMsgs).mpr keeps⟩

/-- Two sessions of one interval and different modes. -/
def tiedMsgs : List TrackingMsg :=
  [.addClient 1 ⟨true, false, true⟩, .startTracking 1 2 ⟨16, 1000, 0, .msb⟩,
    .startTracking 1 3 ⟨16, 1000, 0, .standalone⟩, .stopTracking 1 2]

/-- The engine stays on the mode of the stopped session. -/
theorem tie_keeps_stopped : ∃ s, EngineSucceeds plainEngine ∧
    runOps (proc plainEngine) {} tiedMsgs = some s ∧
    s.mTrackingSessions.entries = [(⟨1, 3⟩, ⟨16, 1000, 0, .standalone⟩)] ∧ s.running = true ∧
    s.posMode = some ⟨.msBased, true, 1000⟩ ∧ ¬s.OnMinimal := by
  have hrun : ∃ s, runOps (proc plainEngine) {} tiedMsgs = some s ∧
      s.mTrackingSessions.entries = [(⟨1, 3⟩, ⟨16, 1000, 0, .standalone⟩)] ∧ s.running = true ∧
      s.posMode = some ⟨.msBased, true, 1000⟩ ∧ s.active = some ⟨16, 1000, 0, .msb⟩ :=
    ⟨_, rfl, by decide, by decide, by decide, by decide⟩
  obtain ⟨s, hs, he, hr, hp, ha⟩ := hrun
  refine ⟨s, fun _ => ⟨rfl, rfl⟩, hs, he, hr, hp, fun h => ?_⟩
  obtain ⟨session, hm, hact, -⟩ := h.minimal (by simp [he])
  grind

end GnssAdapter

end DeviceHal.Gps
