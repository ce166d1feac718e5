import DeviceHal.Gps.Agps
import DeviceHal.Gps.Sessions
import DeviceHal.Lib.OrderedMap
import Mathlib.Data.Prod.Lex
import Mathlib.Data.List.MinMax

namespace DeviceHal.Gps

open Lib

abbrev LocationAPI := Nat

structure LocationSessionKey where
  client : LocationAPI
  id : UInt32
deriving DecidableEq, Repr

namespace LocationSessionKey

def toPair (key : LocationSessionKey) : Nat ×ₗ LocationAPI := toLex (key.id.toNat, key.client)

theorem toPair_injective : Function.Injective toPair := by
  intro left right h
  have hp := Prod.mk.inj (toLex.injective h)
  cases left
  cases right
  cases UInt32.toNat_inj.mp hp.1
  cases hp.2
  rfl

instance : LinearOrder LocationSessionKey := LinearOrder.lift' toPair toPair_injective

end LocationSessionKey

inductive GnssSuplMode where
  | standalone
  | msb
  | msa
deriving DecidableEq, Repr

structure LocationOptions where
  size : Nat
  minInterval : UInt32
  minDistance : UInt32
  mode : GnssSuplMode
deriving DecidableEq, Repr

def LocationOptions.unset : LocationOptions := ⟨0, 0, 0, .standalone⟩

inductive LocPositionMode where
  | standalone
  | msBased
  | msAssisted
deriving DecidableEq, Repr

structure LocPosMode where
  mode : LocPositionMode
  sharePosition : Bool
  minInterval : UInt32
deriving DecidableEq, Repr

def convertOptions (options : LocationOptions) : LocPosMode where
  mode :=
    match options.mode with
    | .msb => .msBased
    | .msa => .msAssisted
    | .standalone => .standalone
  sharePosition := true
  minInterval := options.minInterval

/-- Which callbacks a client has. -/
structure LocationCallbacks where
  trackingCb : Bool
  gnssMeasurementsCb : Bool
  responseCb : Bool
deriving DecidableEq, Repr

/-- What the ULP and the engine answer to a start or a stop. -/
structure EngineAnswer where
  sendStartFix : Bool
  startFix : Int
  sendStopFix : Bool
  stopFix : Int
deriving DecidableEq, Repr

abbrev TrackingSession := LocationSessionKey × LocationOptions

/-- The tracking part of `GnssAdapter`. History: the options last passed to `startTracking` and the
mode made of them, whether the engine runs, the number of starts and stops, and the responses. -/
structure GnssAdapter where
  mClientData : OrderedMap LocationAPI LocationCallbacks := .empty
  mTrackingSessions : OrderedMap LocationSessionKey LocationOptions := .empty
  active : Option LocationOptions := none
  posMode : Option LocPosMode := none
  running : Bool := false
  calls : Nat := 0
  responses : List (LocationAPI × LocationError × UInt32) := []

namespace GnssAdapter

def saveClient (client : LocationAPI) (callbacks : LocationCallbacks) (s : GnssAdapter) :
    GnssAdapter :=
  { s with mClientData := s.mClientData.insert client callbacks }

def eraseClient (client : LocationAPI) (s : GnssAdapter) : GnssAdapter :=
  { s with mClientData := s.mClientData.erase client }

def hasTrackingCallback (client : LocationAPI) (s : GnssAdapter) : Bool :=
  (s.mClientData.find? client).any LocationCallbacks.trackingCb

def hasMeasurementsCallback (client : LocationAPI) (s : GnssAdapter) : Bool :=
  (s.mClientData.find? client).any LocationCallbacks.gnssMeasurementsCb

def isTrackingSession (client : LocationAPI) (sessionId : UInt32) (s : GnssAdapter) : Bool :=
  (s.mTrackingSessions.find? ⟨client, sessionId⟩).isSome

def saveTrackingSession (client : LocationAPI) (sessionId : UInt32) (options : LocationOptions)
    (s : GnssAdapter) : GnssAdapter :=
  { s with mTrackingSessions := s.mTrackingSessions.insert ⟨client, sessionId⟩ options }

def eraseTrackingSession (client : LocationAPI) (sessionId : UInt32) (s : GnssAdapter) :
    GnssAdapter :=
  { s with mTrackingSessions := s.mTrackingSessions.erase ⟨client, sessionId⟩ }

def reportResponse (client : LocationAPI) (err : LocationError) (sessionId : UInt32)
    (s : GnssAdapter) : GnssAdapter :=
  if (s.mClientData.find? client).any LocationCallbacks.responseCb then
    { s with responses := s.responses ++ [(client, err, sessionId)] }
  else s

/-- The loop that looks for the smallest interval, among the sessions that are not left out. -/
def smallestIntervalOptions (looks : LocationSessionKey → Bool)
    (sessions : List TrackingSession) : LocationOptions :=
  sessions.foldl (fun smallest session =>
    if looks session.1 && (smallest.size = 0 || session.2.minInterval < smallest.minInterval) then
      session.2
    else smallest) .unset

/-- The answer to each start and stop, by its number. -/
abbrev Engine := Nat → EngineAnswer

variable (engine : Engine)

def startTracking (options : LocationOptions) (s : GnssAdapter) : GnssAdapter × LocationError :=
  let answer := engine s.calls
  let s := { s with
    active := some options, posMode := some (convertOptions options), calls := s.calls + 1 }
  if !answer.sendStartFix then
    if answer.startFix = locApiAdapterErrSuccess then ({ s with running := true }, .success)
    else (s, .generalFailure)
  else ({ s with running := true }, .success)

def stopTracking (s : GnssAdapter) : GnssAdapter × LocationError :=
  let answer := engine s.calls
  let s := { s with calls := s.calls + 1 }
  if !answer.sendStopFix then
    if answer.stopFix = locApiAdapterErrSuccess then ({ s with running := false }, .success)
    else (s, .generalFailure)
  else ({ s with running := false }, .success)

def startTrackingMultiplex (options : LocationOptions) (s : GnssAdapter) :
    GnssAdapter × LocationError :=
  if s.mTrackingSessions.entries.isEmpty then s.startTracking engine options
  else
    let smallest := smallestIntervalOptions (fun _ => true) s.mTrackingSessions.entries
    if options.minInterval < smallest.minInterval then s.startTracking engine options
    else (s, .success)

def updateTrackingMultiplex (client : LocationAPI) (id : UInt32) (options : LocationOptions)
    (s : GnssAdapter) : GnssAdapter × LocationError :=
  if s.mTrackingSessions.entries.length = 1 then s.startTracking engine options
  else
    let key : LocationSessionKey := ⟨client, id⟩
    match s.mTrackingSessions.find? key with
    | none => (s, .success)
    | some saved =>
      let smallest := smallestIntervalOptions (· ≠ key) s.mTrackingSessions.entries
      if options.minInterval < smallest.minInterval then s.startTracking engine options
      else if saved.minInterval < smallest.minInterval then s.startTracking engine smallest
      else (s, .success)

def stopTrackingMultiplex (client : LocationAPI) (id : UInt32) (s : GnssAdapter) :
    GnssAdapter × LocationError :=
  if s.mTrackingSessions.entries.length = 1 then s.stopTracking engine
  else
    let key : LocationSessionKey := ⟨client, id⟩
    match s.mTrackingSessions.find? key with
    | none => (s, .success)
    | some saved =>
      let smallest := smallestIntervalOptions (· ≠ key) s.mTrackingSessions.entries
      if saved.minInterval < smallest.minInterval then s.startTracking engine smallest
      else (s, .success)

/-- The loop of `stopClientSessions`. It erases no entry but the one it stands on, so it goes over
the entries that are there first. -/
def stopSessions (client : LocationAPI) : List TrackingSession → GnssAdapter → GnssAdapter
  | [], s => s
  | (key, _) :: sessions, s =>
    if client = key.client then
      let (s, err) := s.stopTrackingMultiplex engine key.client key.id
      if err = .success then
        stopSessions client sessions (s.eraseTrackingSession key.client key.id)
      else stopSessions client sessions s
    else stopSessions client sessions s

def stopClientSessions (client : LocationAPI) (s : GnssAdapter) : GnssAdapter :=
  stopSessions engine client s.mTrackingSessions.entries s

def msgStartTracking (client : LocationAPI) (sessionId : UInt32) (options : LocationOptions)
    (s : GnssAdapter) : GnssAdapter :=
  if !s.hasTrackingCallback client && !s.hasMeasurementsCallback client then
    s.reportResponse client .callbackMissing sessionId
  else if options.size = 0 then s.reportResponse client .invalidParameter sessionId
  else
    let (s, err) := s.startTrackingMultiplex engine options
    let s := if err = .success then s.saveTrackingSession client sessionId options else s
    s.reportResponse client err sessionId

def msgUpdateTracking (client : LocationAPI) (sessionId : UInt32) (options : LocationOptions)
    (s : GnssAdapter) : GnssAdapter :=
  if s.isTrackingSession client sessionId then
    if options.size = 0 then s.reportResponse client .invalidParameter sessionId
    else
      let (s, err) := s.updateTrackingMultiplex engine client sessionId options
      let s := if err = .success then s.saveTrackingSession client sessionId options else s
      s.reportResponse client err sessionId
  else s

def msgStopTracking (client : LocationAPI) (sessionId : UInt32) (s : GnssAdapter) : GnssAdapter :=
  if s.isTrackingSession client sessionId then
    let (s, err) := s.stopTrackingMultiplex engine client sessionId
    let s := if err = .success then s.eraseTrackingSession client sessionId else s
    s.reportResponse client err sessionId
  else s

def msgRemoveClient (client : LocationAPI) (s : GnssAdapter) : GnssAdapter :=
  (s.stopClientSessions engine client).eraseClient client

end GnssAdapter

inductive TrackingMsg where
  | addClient (client : LocationAPI) (callbacks : LocationCallbacks)
  | startTracking (client : LocationAPI) (sessionId : UInt32) (options : LocationOptions)
  | updateTracking (client : LocationAPI) (sessionId : UInt32) (options : LocationOptions)
  | stopTracking (client : LocationAPI) (sessionId : UInt32)
  | removeClient (client : LocationAPI)
deriving DecidableEq, Repr

namespace GnssAdapter

def proc (engine : Engine) (s : GnssAdapter) : TrackingMsg → Option GnssAdapter
  | .addClient client callbacks => some (s.saveClient client callbacks)
  | .startTracking client id options => some (s.msgStartTracking engine client id options)
  | .updateTracking client id options => some (s.msgUpdateTracking engine client id options)
  | .stopTracking client id => some (s.msgStopTracking engine client id)
  | .removeClient client => some (s.msgRemoveClient engine client)

theorem smallest_filter (looks : LocationSessionKey → Bool) (sessions : List TrackingSession) :
    smallestIntervalOptions looks sessions =
      smallestIntervalOptions (fun _ => true) (sessions.filter fun session => looks session.1) := by
  grind [smallestIntervalOptions, List.foldl_filter]

theorem smallest_congr {looks looks' : LocationSessionKey → Bool}
    {sessions sessions' : List TrackingSession}
    (h : (sessions.filter fun session => looks session.1) =
      sessions'.filter fun session => looks' session.1) :
    smallestIntervalOptions looks sessions = smallestIntervalOptions looks' sessions' := by
  rw [smallest_filter looks, smallest_filter looks', h]

theorem smallest_eq_argmin {sessions : List TrackingSession}
    (sized : ∀ session ∈ sessions, session.2.size ≠ 0) :
    smallestIntervalOptions (fun _ => true) sessions =
      ((sessions.argmin fun session => session.2.minInterval.toNat).map Prod.snd).getD .unset := by
  unfold smallestIntervalOptions List.argmin
  suffices h : ∀ first : Option TrackingSession, (∀ session, first = some session →
      session.2.size ≠ 0) →
      sessions.foldl (fun smallest session =>
        if true && (smallest.size = 0 || session.2.minInterval < smallest.minInterval) then
          session.2
        else smallest) ((first.map Prod.snd).getD .unset) =
      ((sessions.foldl (List.argAux fun b c => b.2.minInterval.toNat < c.2.minInterval.toNat)
        first).map Prod.snd).getD .unset by
    exact h none (fun _ hn => by cases hn)
  induction sessions with
  | nil => exact fun _ _ => rfl
  | cons session sessions ih =>
    intro first hfirst
    have hrest : ∀ x ∈ sessions, x.2.size ≠ 0 := fun x hx => sized x (List.mem_cons_of_mem _ hx)
    have hsome : ∀ x, some session = some x → x.2.size ≠ 0 := by
      intro x hx
      exact Option.some.inj hx ▸ sized session List.mem_cons_self
    rw [List.foldl_cons, List.foldl_cons]
    cases first with
    | none => exact ih hrest (some session) hsome
    | some old =>
      have hold := hfirst old rfl
      by_cases hlt : session.2.minInterval < old.2.minInterval
      · have hnat : session.2.minInterval.toNat < old.2.minInterval.toNat :=
          UInt32.lt_iff_toNat_lt.mp hlt
        simp only [Option.map_some, Option.getD_some, List.argAux, hold, hlt, hnat, decide_true,
          decide_false, Bool.or_true, Bool.and_true, if_true]
        exact ih hrest (some session) hsome
      · have hnat : ¬session.2.minInterval.toNat < old.2.minInterval.toNat :=
          fun hh => hlt (UInt32.lt_iff_toNat_lt.mpr hh)
        simp only [Option.map_some, Option.getD_some, List.argAux, hold, hlt, hnat, decide_false,
          Bool.or_false, Bool.and_false, Bool.false_eq_true, if_false]
        exact ih hrest (some old) hfirst

theorem smallest_spec {looks : LocationSessionKey → Bool} {sessions : List TrackingSession}
    (sized : ∀ session ∈ sessions, session.2.size ≠ 0)
    (some_looks : ∃ session ∈ sessions, looks session.1 = true) :
    ∃ least ∈ sessions, looks least.1 = true ∧
      smallestIntervalOptions looks sessions = least.2 ∧
      ∀ other ∈ sessions, looks other.1 = true → least.2.minInterval ≤ other.2.minInterval := by
  rw [smallest_filter, smallest_eq_argmin fun x hx => sized x (List.mem_filter.mp hx).1]
  cases hmin : (sessions.filter fun session => looks session.1).argmin
      fun session => session.2.minInterval.toNat with
  | none =>
    obtain ⟨session, hm, hl⟩ := some_looks
    have hnil := List.argmin_eq_none.mp hmin
    have hmem : session ∈ sessions.filter fun session => looks session.1 :=
      List.mem_filter.mpr ⟨hm, hl⟩
    rw [hnil] at hmem
    cases hmem
  | some least =>
    have hmem := List.mem_filter.mp (List.argmin_mem (Option.mem_def.mpr hmin))
    refine ⟨least, hmem.1, hmem.2, rfl, fun other hother hlooks => ?_⟩
    exact UInt32.le_iff_toNat_le.mpr (List.le_of_mem_argmin
      (f := fun session : TrackingSession => session.2.minInterval.toNat)
      (List.mem_filter.mpr ⟨hother, hlooks⟩) (Option.mem_def.mpr hmin))

def EngineSucceeds (engine : Engine) : Prop :=
  ∀ n, (engine n).startFix = locApiAdapterErrSuccess ∧ (engine n).stopFix = locApiAdapterErrSuccess

def started (options : LocationOptions) (s : GnssAdapter) : GnssAdapter :=
  { s with
    active := some options, posMode := some (convertOptions options), calls := s.calls + 1
    running := true }

def stopped (s : GnssAdapter) : GnssAdapter :=
  { s with calls := s.calls + 1, running := false }

variable {engine : Engine} {s t : GnssAdapter}

theorem startTracking_eq (succeeds : EngineSucceeds engine) (options : LocationOptions) :
    s.startTracking engine options = (s.started options, .success) := by
  unfold startTracking
  dsimp only
  rw [if_pos (succeeds s.calls).1]
  split <;> rfl

theorem stopTracking_eq (succeeds : EngineSucceeds engine) :
    s.stopTracking engine = (s.stopped, .success) := by
  unfold stopTracking
  dsimp only
  rw [if_pos (succeeds s.calls).2]
  split <;> rfl

/-- The engine runs if there is a session, and then on the options of a session with the smallest
interval. -/
structure OnMinimal (s : GnssAdapter) : Prop where
  running : s.running = true ↔ s.mTrackingSessions.entries ≠ []
  minimal : s.mTrackingSessions.entries ≠ [] → ∃ session ∈ s.mTrackingSessions.entries,
    s.active = some session.2 ∧
      ∀ other ∈ s.mTrackingSessions.entries, session.2.minInterval ≤ other.2.minInterval

/-- The active options are those of another session. -/
def ActiveBeside (key : LocationSessionKey) (s : GnssAdapter) : Prop :=
  ∃ session ∈ s.mTrackingSessions.entries, session.1 ≠ key ∧ s.active = some session.2

/-- What the engine runs on after the sessions of a client are stopped is of a session that stays.
The last stop that restarts it is of the last session below the intervals of the others. -/
def ActiveWithout (client : LocationAPI) (s : GnssAdapter) : Prop :=
  let sessions := s.mTrackingSessions.entries
  let others := sessions.filter fun session => client ≠ session.1.client
  let smallest := smallestIntervalOptions (client ≠ ·.client) sessions
  let below := sessions.filter fun session =>
    client = session.1.client && session.2.minInterval < smallest.minInterval
  others = [] ∨
    match below.getLast? with
    | none => ∃ session ∈ others, s.active = some session.2
    | some last => ∃ session ∈ others,
      smallestIntervalOptions (fun key => client ≠ key.client || last.1 < key) sessions = session.2

/-- The message restarts the engine, or leaves it on options of a session that stays. -/
def KeepsActive (s : GnssAdapter) : TrackingMsg → Prop
  | .addClient _ _ => True
  | .startTracking client id options =>
    let smallest := smallestIntervalOptions (fun _ => true) s.mTrackingSessions.entries
    (s.hasTrackingCallback client || s.hasMeasurementsCallback client) = true →
      options.size ≠ 0 → s.isTrackingSession client id = true →
      options.minInterval < smallest.minInterval ∨ s.active = some options ∨
        s.ActiveBeside ⟨client, id⟩
  | .updateTracking client id options =>
    let smallest := smallestIntervalOptions (· ≠ ⟨client, id⟩) s.mTrackingSessions.entries
    options.size ≠ 0 → ∀ saved, s.mTrackingSessions.find? ⟨client, id⟩ = some saved →
      s.mTrackingSessions.entries.length = 1 ∨ options.minInterval < smallest.minInterval ∨
        saved.minInterval < smallest.minInterval ∨ s.active = some options ∨
        s.ActiveBeside ⟨client, id⟩
  | .stopTracking client id =>
    let smallest := smallestIntervalOptions (· ≠ ⟨client, id⟩) s.mTrackingSessions.entries
    ∀ saved, s.mTrackingSessions.find? ⟨client, id⟩ = some saved →
      s.mTrackingSessions.entries.length = 1 ∨ saved.minInterval < smallest.minInterval ∨
        s.ActiveBeside ⟨client, id⟩
  | .removeClient client => s.ActiveWithout client

structure TrackInv (s : GnssAdapter) : Prop where
  onMinimal : s.OnMinimal
  sized : ∀ session ∈ s.mTrackingSessions.entries, session.2.size ≠ 0

theorem onMinimal_iff {options : LocationOptions} (hr : t.running = true)
    (hne : t.mTrackingSessions.entries ≠ []) (hact : t.active = some options)
    (hle : ∀ other ∈ t.mTrackingSessions.entries, options.minInterval ≤ other.2.minInterval) :
    t.OnMinimal ↔ ∃ session ∈ t.mTrackingSessions.entries, options = session.2 := by
  constructor
  · intro h
    obtain ⟨session, hm, ha, -⟩ := h.minimal hne
    exact ⟨session, hm, Option.some.inj (hact.symm.trans ha)⟩
  · rintro ⟨session, hm, rfl⟩
    exact ⟨⟨fun _ => hne, fun _ => hr⟩, fun _ => ⟨session, hm, hact, hle⟩⟩

theorem onMinimal_congr (hs : t.mTrackingSessions = s.mTrackingSessions)
    (ha : t.active = s.active) (hr : t.running = s.running) : t.OnMinimal ↔ s.OnMinimal := by
  constructor
  · intro ⟨running, minimal⟩
    rw [hs, hr] at running
    rw [hs, ha] at minimal
    exact ⟨running, minimal⟩
  · intro ⟨running, minimal⟩
    rw [← hs, ← hr] at running
    rw [← hs, ← ha] at minimal
    exact ⟨running, minimal⟩

end GnssAdapter

end DeviceHal.Gps
