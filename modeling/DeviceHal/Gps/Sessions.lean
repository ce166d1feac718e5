import Mathlib.Data.List.Nodup
import DeviceHal.Lib.Run

namespace DeviceHal.Gps

universe u

/-- The dictionary of client ids and sessions. `mExtMap` holds the data of a session. -/
structure BiDict (T : Type u) where
  mForwardMap : Std.TreeMap UInt32 UInt32 := {}
  mBackwardMap : Std.TreeMap UInt32 UInt32 := {}
  mExtMap : Std.TreeMap UInt32 T := {}

namespace BiDict

variable {T : Type u}

def hasId (id : UInt32) (d : BiDict T) : Bool := d.mForwardMap.contains id

def hasSession (session : UInt32) (d : BiDict T) : Bool := d.mBackwardMap.contains session

def set (id session : UInt32) (ext : T) (d : BiDict T) : BiDict T where
  mForwardMap := d.mForwardMap.insert id session
  mBackwardMap := d.mBackwardMap.insert session id
  mExtMap := d.mExtMap.insert session ext

/-- `mForwardMap[id]` of an id that is not there is 0. -/
def rmById (id : UInt32) (d : BiDict T) : BiDict T :=
  let session := d.mForwardMap[id]?.getD 0
  { mForwardMap := d.mForwardMap.erase id
    mBackwardMap := d.mBackwardMap.erase session
    mExtMap := d.mExtMap.erase session }

/-- `mBackwardMap[session]` of a session that is not there is 0. -/
def rmBySession (session : UInt32) (d : BiDict T) : BiDict T where
  mForwardMap := d.mForwardMap.erase (d.mBackwardMap[session]?.getD 0)
  mBackwardMap := d.mBackwardMap.erase session
  mExtMap := d.mExtMap.erase session

def getSession (id : UInt32) (d : BiDict T) : UInt32 := d.mForwardMap[id]?.getD 0

/-- Looking up an id that is not there enters it, with session 0. `zero` is the cleared data. -/
def getExtById (zero : T) (id : UInt32) (d : BiDict T) : BiDict T × T :=
  let session := d.mForwardMap[id]?.getD 0
  let d := if d.hasId id then d else { d with mForwardMap := d.mForwardMap.insert id 0 }
  (d, if session > 0 then d.mExtMap[session]?.getD zero else zero)

def getExtBySession (zero : T) (session : UInt32) (d : BiDict T) : T :=
  d.mExtMap[session]?.getD zero

def getAllSessions (d : BiDict T) : List UInt32 := d.mBackwardMap.keys

/-- The two maps are inverse to each other, and the sessions are those that have data. -/
structure Bijective (d : BiDict T) : Prop where
  inverse : ∀ id session : UInt32,
    d.mForwardMap[id]? = some session ↔ d.mBackwardMap[session]? = some id
  ext : ∀ session : UInt32, session ∈ d.mExtMap ↔ session ∈ d.mBackwardMap

variable {d : BiDict T}

theorem empty_bijective : ({} : BiDict T).Bijective := by
  refine ⟨fun id session => ?_, fun session => ?_⟩
  · simp
  · simp

theorem getElem?_insert {α : Type u} (m : Std.TreeMap UInt32 α) (k a : UInt32) (v : α) :
    (m.insert k v)[a]? = if k = a then some v else m[a]? := by
  grind

theorem getElem?_erase {α : Type u} (m : Std.TreeMap UInt32 α) (k a : UInt32) :
    (m.erase k)[a]? = if k = a then none else m[a]? := by
  grind

theorem mem_iff {α : Type u} (m : Std.TreeMap UInt32 α) (a : UInt32) :
    a ∈ m ↔ ∃ v, m[a]? = some v := by
  rw [Std.TreeMap.mem_iff_isSome_getElem?, Option.isSome_iff_exists]

theorem hasId_iff {id : UInt32} :
    d.hasId id = true ↔ ∃ session, d.mForwardMap[id]? = some session := by
  unfold hasId
  rw [Std.TreeMap.contains_iff_mem, mem_iff]

variable {session : UInt32}

theorem hasSession_iff :
    d.hasSession session = true ↔ ∃ id, d.mBackwardMap[session]? = some id := by
  unfold hasSession
  rw [Std.TreeMap.contains_iff_mem, mem_iff]

theorem mem_getAllSessions : session ∈ d.getAllSessions ↔ d.hasSession session = true := by
  unfold getAllSessions hasSession
  rw [Std.TreeMap.mem_keys, Std.TreeMap.contains_iff_mem]

/-- The entries that `set` may write and keep the maps inverse: both sides are new, or the pair is
there. -/
def Fits (id session : UInt32) (d : BiDict T) : Prop :=
  d.mForwardMap[id]? = none ∧ d.mBackwardMap[session]? = none ∨
    d.mForwardMap[id]? = some session

theorem set_bijective_iff (hd : d.Bijective) {id session : UInt32} {ext : T} :
    (d.set id session ext).Bijective ↔ d.Fits id session := by
  constructor
  · intro hs
    have hinv := hs.inverse
    simp only [set, getElem?_insert] at hinv
    by_contra hne
    unfold Fits at hne
    push Not at hne
    cases hf : d.mForwardMap[id]? with
    | some old =>
      have hold : old ≠ session := fun he => hne.2 (he ▸ hf)
      have hback := (hd.inverse id old).mp hf
      grind
    | none =>
      obtain ⟨other, hother⟩ := Option.ne_none_iff_exists'.mp (hne.1 hf)
      have hfor := (hd.inverse other session).mpr hother
      grind
  · intro hfits
    refine ⟨fun i s => ?_, fun s => ?_⟩
    · simp only [set, getElem?_insert]
      rcases hfits with ⟨hf, hb⟩ | hf
      · split
        next hi =>
          subst hi
          split
          next hs => simp [hs]
          next hs =>
            have hno : d.mBackwardMap[s]? ≠ some id := by
              intro hh
              rw [(hd.inverse id s).mpr hh] at hf
              cases hf
            simp [hs, hno]
        next hi =>
          split
          next hs =>
            subst hs
            have hno : d.mForwardMap[i]? ≠ some session := by
              intro hh
              rw [(hd.inverse i session).mp hh] at hb
              cases hb
            simp [hi, hno]
          next => exact hd.inverse i s
      · have hb := (hd.inverse id session).mp hf
        split
        next hi =>
          subst hi
          split
          next hs => simp [hs]
          next hs => rw [← hd.inverse id s, hf]
        next hi =>
          split
          next hs => rw [hd.inverse i s, ← hs, hb]
          next => exact hd.inverse i s
    · simp only [set, Std.TreeMap.mem_insert, Std.LawfulEqCmp.compare_eq_iff_eq, hd.ext s]

theorem rmBySession_bijective (hd : d.Bijective)
    (hs : d.hasSession session = true) : (d.rmBySession session).Bijective := by
  obtain ⟨id, hid⟩ := hasSession_iff.mp hs
  have hfor := (hd.inverse id session).mpr hid
  refine ⟨fun i s => ?_, fun s => ?_⟩
  · simp only [rmBySession, getElem?_erase, hid, Option.getD_some]
    split
    next hi =>
      subst hi
      split
      next => simp
      next hne =>
        have hno : d.mBackwardMap[s]? ≠ some id := by
          intro hh
          rw [(hd.inverse id s).mpr hh] at hfor
          exact hne (Option.some.inj hfor).symm
        simp [hno]
    next hi =>
      split
      next he =>
        subst he
        have hno : d.mForwardMap[i]? ≠ some session := by
          intro hh
          rw [(hd.inverse i session).mp hh] at hid
          exact hi (Option.some.inj hid).symm
        simp [hno]
      next => exact hd.inverse i s
  · simp only [rmBySession, Std.TreeMap.mem_erase, hd.ext s]

theorem rmById_eq (hd : d.Bijective) {id session : UInt32}
    (hf : d.mForwardMap[id]? = some session) : d.rmById id = d.rmBySession session := by
  unfold rmById rmBySession
  rw [(hd.inverse id session).mp hf, hf]
  rfl

theorem hasSession_set {id session s : UInt32} {ext : T} :
    (d.set id session ext).hasSession s = true ↔ s = session ∨ d.hasSession s = true := by
  unfold hasSession set
  rw [Std.TreeMap.contains_iff_mem, Std.TreeMap.contains_iff_mem, Std.TreeMap.mem_insert]
  simp only [Std.LawfulEqCmp.compare_eq_iff_eq]
  exact or_congr_left eq_comm

theorem hasSession_rmBySession {session s : UInt32} :
    (d.rmBySession session).hasSession s = true ↔ s ≠ session ∧ d.hasSession s = true := by
  unfold hasSession rmBySession
  rw [Std.TreeMap.contains_iff_mem, Std.TreeMap.contains_iff_mem, Std.TreeMap.mem_erase]
  simp only [ne_eq, Std.LawfulEqCmp.compare_eq_iff_eq]
  exact and_congr_left fun _ => not_congr eq_comm

end BiDict

/-- Of the other errors the client base only passes on which one it is. -/
inductive LocationError where
  | success
  | generalFailure
  | callbackMissing
  | invalidParameter
  | idExists
  | idUnknown
  | alreadyStarted
  | geofencesAtMax
  | notSupported
deriving DecidableEq, Repr

def sessionModeOnFull : UInt32 := 1
def sessionModeOnFix : UInt32 := 2
def sessionModeOnTripCompleted : UInt32 := 3

inductive BatchingMode where
  | routine
  | trip
  | noAutoReport
deriving DecidableEq, Repr

def batchingMode (sessionMode : UInt32) : BatchingMode :=
  if sessionMode = sessionModeOnFull then .routine
  else if sessionMode = sessionModeOnTripCompleted then .trip
  else .noAutoReport

structure SessionEntity where
  id : UInt32
  trackingSession : UInt32
  batchingSession : UInt32
  sessionMode : UInt32
deriving DecidableEq, Repr

def SessionEntity.cleared : SessionEntity := ⟨0, 0, 0, 0⟩

/-- The classes of request objects that sessions use. -/
inductive RequestKind where
  | startTracking
  | stopTracking
  | updateTrackingOptions
  | startBatching
  | stopBatching
  | updateBatchingOptions
  | getBatchedLocations
deriving DecidableEq, Repr

/-- A request object, by its number. -/
structure LocationAPIRequest where
  object : Nat
  kind : RequestKind
deriving DecidableEq, Repr

namespace RequestKind

/-- `onResponse` takes the session out of the dictionary. -/
def removes (kind : RequestKind) (error : LocationError) : Bool :=
  match kind with
  | .startTracking | .startBatching => error ≠ .success
  | .stopTracking | .stopBatching => error = .success
  | _ => false

end RequestKind

/-- The calls of `LocationAPI` that are answered. -/
inductive ApiCallKind where
  | startTracking
  | stopTracking
  | updateTrackingOptions
  | startBatching (mode : BatchingMode)
  | stopBatching
  | updateBatchingOptions (mode : BatchingMode)
  | getBatchedLocations (count : Nat)
deriving DecidableEq, Repr

def ApiCallKind.isStart : ApiCallKind → Bool
  | .startTracking | .startBatching _ => true
  | _ => false

def ApiCallKind.isStop : ApiCallKind → Bool
  | .stopTracking | .stopBatching => true
  | _ => false

/-- A call that `LocationAPI` has to answer, with the request object that was pushed for it. -/
structure ApiCall where
  kind : ApiCallKind
  session : UInt32
  request : Option LocationAPIRequest
deriving DecidableEq, Repr

/-- A response that was dispatched: the object of the call it answers, and the one it reached. -/
structure Dispatch where
  answered : Option LocationAPIRequest
  dispatched : LocationAPIRequest
  error : LocationError
deriving DecidableEq, Repr

/-- The sessions of `LocationAPIClientBase`, with the calls that `LocationAPI` has not answered.
`queue` is `mRequestQueues[REQUEST_SESSION]`. History: the sessions returned so far, those whose
start succeeded, those that were stopped, changed or completed, and the responses dispatched. -/
structure SessionClient where
  mLocationAPI : Bool
  mSessionBiDict : BiDict SessionEntity := {}
  queue : List LocationAPIRequest := []
  objects : Nat := 0
  pending : List ApiCall := []
  used : List UInt32 := []
  started : List UInt32 := []
  ended : List UInt32 := []
  dispatched : List Dispatch := []

namespace SessionClient

/-- `new` of a request and its `push`. -/
def push (kind : RequestKind) (s : SessionClient) : SessionClient × LocationAPIRequest :=
  let request := ⟨s.objects, kind⟩
  ({ s with queue := s.queue ++ [request], objects := s.objects + 1 }, request)

/-- A call of `LocationAPI` for a session. -/
def call (kind : ApiCallKind) (session : UInt32) (request : Option LocationAPIRequest)
    (s : SessionClient) : SessionClient :=
  { s with pending := s.pending ++ [⟨kind, session, request⟩] }

/-- A call that starts a session, and returns it. -/
def start (kind : ApiCallKind) (session : UInt32) (request : Option LocationAPIRequest)
    (s : SessionClient) : SessionClient :=
  { s.call kind session request with used := session :: s.used }

def setSession (id session : UInt32) (entity : SessionEntity) (s : SessionClient) :
    SessionClient :=
  { s with mSessionBiDict := s.mSessionBiDict.set id session entity }

/-- `newSession` is what `startTracking` or `startBatching` returns. -/
def locAPIStartSession (id sessionMode newSession : UInt32) (s : SessionClient) :
    SessionClient × LocationError :=
  if s.mLocationAPI then
    if s.mSessionBiDict.hasId id then (s, .alreadyStarted)
    else if sessionMode = sessionModeOnFix then
      let (s, request) := s.push .startTracking
      ((s.start .startTracking newSession (some request)).setSession id newSession
        ⟨id, newSession, 0, sessionMode⟩, .success)
    else
      let (s, request) := s.push .startBatching
      ((s.start (.startBatching (batchingMode sessionMode)) newSession (some request)).setSession id
        newSession ⟨id, 0, newSession, sessionMode⟩, .success)
  else (s, .generalFailure)

/-- Looks up the entity of an id, which may enter the id. -/
def getEntity (id : UInt32) (s : SessionClient) : SessionClient × SessionEntity :=
  let (mSessionBiDict, entity) := s.mSessionBiDict.getExtById .cleared id
  ({ s with mSessionBiDict }, entity)

def locAPIStopSession (id : UInt32) (s : SessionClient) : SessionClient × LocationError :=
  if s.mLocationAPI then
    if s.mSessionBiDict.hasId id then
      let (s, entity) := s.getEntity id
      if entity.sessionMode = sessionModeOnFix then
        let (s, request) := s.push .stopTracking
        (s.call .stopTracking entity.trackingSession (some request), .success)
      else
        let (s, request) := s.push .stopBatching
        (s.call .stopBatching entity.batchingSession (some request), .success)
    else (s, .idUnknown)
  else (s, .generalFailure)

/-- The session of an entity ends: its mode changes from or to tracking. -/
def endSession (session : UInt32) (s : SessionClient) : SessionClient :=
  { s with ended := session :: s.ended }

def locAPIUpdateSessionOptions (id sessionMode newSession : UInt32) (s : SessionClient) :
    SessionClient × LocationError :=
  if s.mLocationAPI then
    if s.mSessionBiDict.hasId id then
      let (s, entity) := s.getEntity id
      let (s, trackingSession, batchingSession) :=
        if sessionMode = sessionModeOnFix then
          let (s, request) := s.push .updateTrackingOptions
          if entity.sessionMode = sessionModeOnFix then
            (s.call .updateTrackingOptions entity.trackingSession (some request),
              entity.trackingSession, entity.batchingSession)
          else
            -- no request object for the stop: the session leaves the dictionary
            (((s.call .stopBatching entity.batchingSession none).endSession
                entity.batchingSession).start .startTracking newSession (some request),
              newSession, 0)
        else
          let (s, request) := s.push .updateBatchingOptions
          if entity.sessionMode = sessionModeOnFix then
            (((s.call .stopTracking entity.trackingSession none).endSession
                entity.trackingSession).start (.startBatching (batchingMode sessionMode))
                newSession (some request),
              0, newSession)
          else
            (s.call (.updateBatchingOptions (batchingMode sessionMode)) entity.batchingSession
                (some request),
              entity.trackingSession, entity.batchingSession)
      let session := if sessionMode ≠ sessionModeOnFix then batchingSession else trackingSession
      let dict := (s.mSessionBiDict.rmById id).set id session
        { entity with trackingSession, batchingSession, sessionMode }
      ({ s with mSessionBiDict := dict }, .success)
    else (s, .idUnknown)
  else (s, .generalFailure)

def locAPIGetBatchedLocations (id : UInt32) (count : Nat) (s : SessionClient) :
    SessionClient × LocationError :=
  if s.mLocationAPI then
    if s.mSessionBiDict.hasId id then
      let (s, entity) := s.getEntity id
      let (s, request) := s.push .getBatchedLocations
      (s.call (.getBatchedLocations count) entity.batchingSession (some request), .success)
    else (s, .idUnknown)
  else (s, .generalFailure)

/-- The session is in the dictionary, in trip mode. -/
def onTrip (session : UInt32) (s : SessionClient) : Bool :=
  s.mSessionBiDict.hasSession session &&
    (s.mSessionBiDict.getExtBySession .cleared session).sessionMode = sessionModeOnTripCompleted

/-- The loop of `beforeBatchingStatusCb` over the completed trips, with the client ids it finds. -/
def completeTrips : List UInt32 → SessionClient → SessionClient × List UInt32
  | [], s => (s, [])
  | session :: trips, s =>
    if s.onTrip session then
      let id := (s.mSessionBiDict.getExtBySession .cleared session).id
      let (s, ids) := completeTrips trips { s.endSession session with
        mSessionBiDict := s.mSessionBiDict.rmBySession session }
      (s, id :: ids)
    else completeTrips trips s

def removeSession (session : UInt32) (s : SessionClient) : SessionClient :=
  if s.mSessionBiDict.hasSession session then
    { s with mSessionBiDict := s.mSessionBiDict.rmBySession session }
  else s

/-- The queues that are not used are empty: their `pop` finds no request. -/
def getRequestBySession (session : UInt32) (s : SessionClient) :
    SessionClient × Option LocationAPIRequest :=
  if s.mSessionBiDict.hasSession session then
    match s.queue with
    | [] => (s, none)
    | request :: queue => ({ s with queue }, some request)
  else (s, none)

/-- `onResponseCb` for a call. -/
def onResponseCb (error : LocationError) (answered : ApiCall) (s : SessionClient) :
    SessionClient :=
  match s.getRequestBySession answered.session with
  | (s, none) => s
  | (s, some request) =>
    let s := if request.kind.removes error then s.removeSession answered.session else s
    { s with dispatched := ⟨answered.request, request, error⟩ :: s.dispatched }

def note (error : LocationError) (answered : ApiCall) (s : SessionClient) : SessionClient :=
  if error = .success then
    if answered.kind.isStart then { s with started := answered.session :: s.started }
    else if answered.kind.isStop then s.endSession answered.session
    else s
  else s

/-- `LocationAPI` answers its oldest call. -/
def answer (error : LocationError) (s : SessionClient) : SessionClient :=
  match s.pending with
  | [] => s
  | answered :: pending => ({ s with pending }.onResponseCb error answered).note error answered

end SessionClient

inductive SessionOp where
  | startSession (id sessionMode newSession : UInt32)
  | stopSession (id : UInt32)
  | updateSessionOptions (id sessionMode newSession : UInt32)
  | getBatchedLocations (id : UInt32) (count : Nat)
  | tripCompleted (trips : List UInt32)
  | answer (error : LocationError)
deriving DecidableEq, Repr

def SessionClient.step (s : SessionClient) : SessionOp → Option SessionClient
  | .startSession id sessionMode newSession => (s.locAPIStartSession id sessionMode newSession).1
  | .stopSession id => (s.locAPIStopSession id).1
  | .updateSessionOptions id sessionMode newSession =>
    (s.locAPIUpdateSessionOptions id sessionMode newSession).1
  | .getBatchedLocations id count => (s.locAPIGetBatchedLocations id count).1
  | .tripCompleted trips => (s.completeTrips trips).1
  | .answer error => s.answer error

end DeviceHal.Gps
