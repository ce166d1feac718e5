import DeviceHal.Gps.Sessions

namespace DeviceHal.Gps

def geofenceSessionId : UInt32 := 0xFFFFFFFF

/-- A geofence of a call: its client id and its `breachTypeMask`. -/
abbrev Fence := UInt32 × UInt32

/-- The classes of request objects that geofences use. -/
inductive GeofenceRequest where
  | add
  | remove
  | modify
  | pause
  | resume
deriving DecidableEq, Repr

/-- The calls of `LocationAPI` and of the client. -/
inductive GeofenceOut where
  | addGeofences (fences : List Fence)
  | removeGeofences (sessions : List UInt32)
  | modifyGeofences (sessions : List UInt32) (fences : List Fence)
  | pauseGeofences (sessions : List UInt32)
  | resumeGeofences (sessions : List UInt32)
  | onRemoveGeofencesCb (error : LocationError) (id : UInt32)
deriving DecidableEq, Repr

/-- The geofences of `LocationAPIClientBase`. `session` and `queue` are of
`mRequestQueues[REQUEST_GEOFENCE]`. History: the sessions added, the calls out, and whether the last
call was `locAPIRemoveAllGeofences`. -/
structure GeofenceClient where
  mLocationAPI : Bool
  mGeofenceBiDict : BiDict UInt32 := {}
  session : UInt32 := 0
  queue : List GeofenceRequest := []
  added : List UInt32 := []
  log : List GeofenceOut := []
  cleared : Bool := false

namespace GeofenceClient

def push (request : GeofenceRequest) (s : GeofenceClient) : GeofenceClient :=
  { s with queue := s.queue ++ [request] }

def out (call : GeofenceOut) (s : GeofenceClient) : GeofenceClient :=
  { s with log := s.log ++ [call] }

/-- Sets the session of the queue, and deletes the requests in it. -/
def reset (session : UInt32) (s : GeofenceClient) : GeofenceClient :=
  { s with session, queue := [] }

/-- The loop of `locAPIAddGeofences`. -/
def setAll : List Fence → List UInt32 → BiDict UInt32 → BiDict UInt32
  | (id, mask) :: fences, session :: sessions, d => setAll fences sessions (d.set id session mask)
  | _, _, d => d

/-- `sessions` is the array that `addGeofences` returns, if any. -/
def locAPIAddGeofences (fences : List Fence) (sessions : Option (List UInt32))
    (s : GeofenceClient) : GeofenceClient × LocationError :=
  if s.mLocationAPI then
    let s := if s.session ≠ geofenceSessionId then s.reset geofenceSessionId else s
    let s := s.out (.addGeofences fences)
    match sessions with
    | none => (s, .generalFailure)
    | some sessions =>
      let s := s.push .add
      ({ s with
          mGeofenceBiDict := setAll fences sessions s.mGeofenceBiDict
          added := s.added ++ sessions },
        .success)
  else (s, .generalFailure)

/-- The loop of `locAPIRemoveGeofences`, with the sessions it collects and the calls it makes. -/
def removeAll : List UInt32 → BiDict UInt32 → BiDict UInt32 × List UInt32 × List GeofenceOut
  | [], d => (d, [], [])
  | id :: ids, d =>
    let session := d.getSession id
    if session > 0 then
      let (d, sessions, outs) := removeAll ids (d.rmBySession session)
      (d, session :: sessions, .onRemoveGeofencesCb .success id :: outs)
    else
      let (d, sessions, outs) := removeAll ids d
      (d, sessions, .onRemoveGeofencesCb .idUnknown id :: outs)

def locAPIRemoveGeofences (ids : List UInt32) (s : GeofenceClient) : GeofenceClient :=
  if s.mLocationAPI && s.session = geofenceSessionId then
    let (mGeofenceBiDict, sessions, outs) := removeAll ids s.mGeofenceBiDict
    let s := { s with mGeofenceBiDict, log := s.log ++ outs }
    if sessions.length > 0 then (s.push .remove).out (.removeGeofences sessions) else s
  else s

/-- The loop of `locAPIModifyGeofences`, and of `locAPIResumeGeofences` if it has masks. -/
def modifyAll (hasMask : Bool) : List Fence → BiDict UInt32 → BiDict UInt32 × List UInt32
  | [], d => (d, [])
  | (id, mask) :: fences, d =>
    let session := d.getSession id
    if session > 0 then
      let (d, sessions) := modifyAll hasMask fences (if hasMask then d.set id session mask else d)
      (d, session :: sessions)
    else modifyAll hasMask fences d

def locAPIModifyGeofences (fences : List Fence) (s : GeofenceClient) : GeofenceClient :=
  if s.mLocationAPI && s.session = geofenceSessionId then
    let (mGeofenceBiDict, sessions) := modifyAll true fences s.mGeofenceBiDict
    let s := { s with mGeofenceBiDict }
    if sessions.length > 0 then (s.push .modify).out (.modifyGeofences sessions fences) else s
  else s

def locAPIPauseGeofences (ids : List UInt32) (s : GeofenceClient) : GeofenceClient :=
  if s.mLocationAPI && s.session = geofenceSessionId then
    let sessions := (ids.map fun id => s.mGeofenceBiDict.getSession id).filter (· > 0)
    if sessions.length > 0 then (s.push .pause).out (.pauseGeofences sessions) else s
  else s

/-- `hasMask` is whether the array of masks is there. -/
def locAPIResumeGeofences (fences : List Fence) (hasMask : Bool) (s : GeofenceClient) :
    GeofenceClient :=
  if s.mLocationAPI && s.session = geofenceSessionId then
    let (mGeofenceBiDict, sessions) := modifyAll hasMask fences s.mGeofenceBiDict
    let s := { s with mGeofenceBiDict }
    if sessions.length > 0 then (s.push .resume).out (.resumeGeofences sessions) else s
  else s

/-- The sessions are passed where the client ids are expected. -/
def locAPIRemoveAllGeofences (s : GeofenceClient) : GeofenceClient :=
  s.locAPIRemoveGeofences s.mGeofenceBiDict.getAllSessions

end GeofenceClient

inductive GeofenceOp where
  | add (fences : List Fence) (sessions : Option (List UInt32))
  | remove (ids : List UInt32)
  | modify (fences : List Fence)
  | pause (ids : List UInt32)
  | resume (fences : List Fence) (hasMask : Bool)
  | removeAll
deriving DecidableEq, Repr

namespace GeofenceClient

def step (s : GeofenceClient) : GeofenceOp → Option GeofenceClient
  | .add fences sessions => some { (s.locAPIAddGeofences fences sessions).1 with cleared := false }
  | .remove ids => some { s.locAPIRemoveGeofences ids with cleared := false }
  | .modify fences => some { s.locAPIModifyGeofences fences with cleared := false }
  | .pause ids => some { s.locAPIPauseGeofences ids with cleared := false }
  | .resume fences hasMask => some { s.locAPIResumeGeofences fences hasMask with cleared := false }
  | .removeAll => some { s.locAPIRemoveAllGeofences with cleared := true }

end GeofenceClient

/-- `GeofenceOption`. -/
structure GeofenceOption where
  breachTypeMask : UInt32
  responsiveness : UInt32
  dwellTime : UInt32
deriving DecidableEq, Repr

abbrev FenceRequest := UInt32 × GeofenceOption

def FenceRequest.fence (request : FenceRequest) : Fence := (request.1, request.2.breachTypeMask)

theorem zip_map_eq_iff {α β γ : Type} {f : α → β} {g : α → γ} {xs : List α} {array : List γ} :
    (xs.map f).zip array = xs.map (fun x => (f x, g x)) ↔ xs.map g <+: array := by
  induction xs generalizing array with
  | nil => simp
  | cons x xs ih =>
    cases array with
    | nil => simp
    | cons c array => simp [ih, List.cons_prefix_cons, eq_comm]

namespace BiDict

variable {T : Type} {d : BiDict T}

theorem getSession_set_own {id i : UInt32} {ext : T} :
    (d.set id (d.getSession id) ext).getSession i = d.getSession i := by
  unfold getSession set
  grind

end BiDict

namespace GeofenceClient

def Ready (s : GeofenceClient) : Prop :=
  s.mLocationAPI = true ∧ s.session = geofenceSessionId

/-- The arrays that `locAPIModifyGeofences` forwards, the first one counting: the sessions it has
collected, and the options as they were given. -/
def modifyCall (requests : List FenceRequest) (s : GeofenceClient) :
    Option (List UInt32 × List GeofenceOption) :=
  if s.mLocationAPI && s.session = geofenceSessionId then
    let sessions := (modifyAll true (requests.map FenceRequest.fence) s.mGeofenceBiDict).2
    if sessions.length > 0 then some (sessions, requests.map Prod.snd) else none
  else none

def known (requests : List FenceRequest) (d : BiDict UInt32) : List FenceRequest :=
  requests.filter fun request => d.getSession request.1 > 0

def modified (requests : List FenceRequest) (s : GeofenceClient) : BiDict UInt32 :=
  (s.locAPIModifyGeofences (requests.map FenceRequest.fence)).mGeofenceBiDict

/-- Each known id's session is forwarded with the id's own option, in order, and no others; the
last option given for a session has its mask recorded, and nothing else changes. -/
structure ModifiesRight (requests : List FenceRequest) (s : GeofenceClient) : Prop where
  forwards : s.Ready → ((s.modifyCall requests).map fun call => call.1.zip call.2).getD [] =
    (known requests s.mGeofenceBiDict).map fun request =>
      (s.mGeofenceBiDict.getSession request.1, request.2)
  records : s.Ready → ∀ front request rest, requests = front ++ request :: rest →
    s.mGeofenceBiDict.getSession request.1 > 0 →
    (∀ later ∈ rest, s.mGeofenceBiDict.getSession later.1 ≠
      s.mGeofenceBiDict.getSession request.1) →
    (s.modified requests).mExtMap[s.mGeofenceBiDict.getSession request.1]? =
      some request.2.breachTypeMask
  skips : ∀ session, session ∉ (known requests s.mGeofenceBiDict).map
      (fun request => s.mGeofenceBiDict.getSession request.1) →
    (s.modified requests).mExtMap[session]? = s.mGeofenceBiDict.mExtMap[session]?
  ids : ∀ id, (s.modified requests).getSession id = s.mGeofenceBiDict.getSession id

/-- The options of the known ids stand at the front of the array. -/
def OptionsInPlace (requests : List FenceRequest) (s : GeofenceClient) : Prop :=
  s.Ready → (known requests s.mGeofenceBiDict).map Prod.snd <+: requests.map Prod.snd

variable {d : BiDict UInt32} {s : GeofenceClient} {requests : List FenceRequest}

theorem modifyAll_cons_known {id mask : UInt32} {fences : List Fence} (h : d.getSession id > 0) :
    modifyAll true ((id, mask) :: fences) d =
      ((modifyAll true fences (d.set id (d.getSession id) mask)).1,
        d.getSession id :: (modifyAll true fences (d.set id (d.getSession id) mask)).2) := by
  rw [modifyAll]
  simp only [if_pos h, if_true]

theorem modifyAll_cons_unknown {id mask : UInt32} {fences : List Fence}
    (h : ¬d.getSession id > 0) : modifyAll true ((id, mask) :: fences) d = modifyAll true fences d := by
  rw [modifyAll]
  simp only [if_neg h]

theorem modifyAll_sessions :
    (modifyAll true (requests.map FenceRequest.fence) d).2 =
      (known requests d).map fun request => d.getSession request.1 := by
  induction requests generalizing d with
  | nil => rfl
  | cons request requests ih =>
    have hfence : (request :: requests).map FenceRequest.fence =
      (request.1, request.2.breachTypeMask) :: requests.map FenceRequest.fence := rfl
    rw [hfence]
    by_cases h : d.getSession request.1 > 0
    · rw [modifyAll_cons_known h, ih]
      simp [known, h, BiDict.getSession_set_own]
    · rw [modifyAll_cons_unknown h, ih]
      simp [known, h]

theorem modifyAll_getSession {id : UInt32} :
    (modifyAll true (requests.map FenceRequest.fence) d).1.getSession id = d.getSession id := by
  induction requests generalizing d with
  | nil => rfl
  | cons request requests ih =>
    have hfence : (request :: requests).map FenceRequest.fence =
      (request.1, request.2.breachTypeMask) :: requests.map FenceRequest.fence := rfl
    rw [hfence]
    by_cases h : d.getSession request.1 > 0
    · rw [modifyAll_cons_known h, ih, BiDict.getSession_set_own]
    · rw [modifyAll_cons_unknown h, ih]

theorem modifyAll_skips {session : UInt32}
    (h : ∀ request ∈ requests, d.getSession request.1 > 0 → d.getSession request.1 ≠ session) :
    (modifyAll true (requests.map FenceRequest.fence) d).1.mExtMap[session]? =
      d.mExtMap[session]? := by
  induction requests generalizing d with
  | nil => rfl
  | cons request requests ih =>
    have hfence : (request :: requests).map FenceRequest.fence =
      (request.1, request.2.breachTypeMask) :: requests.map FenceRequest.fence := rfl
    have hrest : ∀ request ∈ requests, d.getSession request.1 > 0 →
        d.getSession request.1 ≠ session := fun r hr => h r (List.mem_cons_of_mem _ hr)
    rw [hfence]
    by_cases hknown : d.getSession request.1 > 0
    · rw [modifyAll_cons_known hknown]
      dsimp only
      rw [ih (by simpa only [BiDict.getSession_set_own] using hrest)]
      unfold BiDict.set
      dsimp only
      rw [BiDict.getElem?_insert, if_neg (h request List.mem_cons_self hknown)]
    · rw [modifyAll_cons_unknown hknown, ih hrest]

theorem modifyAll_records {front rest : List FenceRequest} {request : FenceRequest}
    (hknown : d.getSession request.1 > 0)
    (hlast : ∀ later ∈ rest, d.getSession later.1 ≠ d.getSession request.1) :
    (modifyAll true ((front ++ request :: rest).map FenceRequest.fence) d).1.mExtMap[
      d.getSession request.1]? = some request.2.breachTypeMask := by
  induction front generalizing d with
  | nil =>
    have hfence : (request :: rest).map FenceRequest.fence =
      (request.1, request.2.breachTypeMask) :: rest.map FenceRequest.fence := rfl
    rw [List.nil_append, hfence, modifyAll_cons_known hknown]
    dsimp only
    rw [modifyAll_skips (by
      intro later hl _
      rw [BiDict.getSession_set_own]
      exact hlast later hl)]
    unfold BiDict.set
    dsimp only
    rw [BiDict.getElem?_insert, if_pos rfl]
  | cons first front ih =>
    have hfence : (first :: front ++ request :: rest).map FenceRequest.fence =
      (first.1, first.2.breachTypeMask) ::
        (front ++ request :: rest).map FenceRequest.fence := rfl
    rw [hfence]
    by_cases h : d.getSession first.1 > 0
    · rw [modifyAll_cons_known h]
      grind [BiDict.getSession_set_own]
    · rw [modifyAll_cons_unknown h]
      exact ih hknown hlast

theorem modified_of_ready (h : s.Ready) :
    s.modified requests = (modifyAll true (requests.map FenceRequest.fence) s.mGeofenceBiDict).1 := by
  unfold modified locAPIModifyGeofences
  rw [if_pos (by simp [h.1, h.2])]
  dsimp only
  split <;> rfl

theorem modified_of_not_ready (h : ¬s.Ready) : s.modified requests = s.mGeofenceBiDict := by
  unfold modified locAPIModifyGeofences
  rw [if_neg]
  intro hr
  rw [Bool.and_eq_true, decide_eq_true_eq] at hr
  exact h hr

/-- The call in the log has the sessions that `modifyCall` has. -/
theorem log_modifyCall :
    (s.locAPIModifyGeofences (requests.map FenceRequest.fence)).log =
      s.log ++ (s.modifyCall requests).toList.map fun call =>
        .modifyGeofences call.1 (requests.map FenceRequest.fence) := by
  unfold locAPIModifyGeofences modifyCall
  split
  next =>
    dsimp only
    split
    next => rfl
    next => exact (List.append_nil _).symm
  next => exact (List.append_nil _).symm

theorem forwarded_of_ready (h : s.Ready) :
    ((s.modifyCall requests).map fun call => call.1.zip call.2).getD [] =
      ((known requests s.mGeofenceBiDict).map fun request =>
        s.mGeofenceBiDict.getSession request.1).zip (requests.map Prod.snd) := by
  unfold modifyCall
  rw [if_pos (by simp [h.1, h.2])]
  dsimp only
  rw [modifyAll_sessions]
  split
  next => rfl
  grind

/-- A modify is right exactly if the options of the known ids stand at the front of the array. -/
theorem modifiesRight_iff (s : GeofenceClient) (requests : List FenceRequest) :
    s.ModifiesRight requests ↔ s.OptionsInPlace requests := by
  constructor
  · intro h hr
    have := h.forwards hr
    rw [forwarded_of_ready hr] at this
    exact zip_map_eq_iff.mp this
  · intro h
    refine ⟨fun hr => ?_, fun hr front request rest he hknown hlast => ?_, fun session hs => ?_,
      fun id => ?_⟩
    · rw [forwarded_of_ready hr]
      exact zip_map_eq_iff.mpr (h hr)
    · rw [modified_of_ready hr, he]
      exact modifyAll_records hknown hlast
    · by_cases hr : s.Ready
      · rw [modified_of_ready hr]
        apply modifyAll_skips
        rintro request hm hknown rfl
        apply hs
        exact List.mem_map_of_mem (f := fun request : FenceRequest =>
          s.mGeofenceBiDict.getSession request.1) (List.mem_filter.mpr ⟨hm, by simpa using hknown⟩)
      · rw [modified_of_not_ready hr]
    · by_cases hr : s.Ready
      · rw [modified_of_ready hr, modifyAll_getSession]
      · rw [modified_of_not_ready hr]

/-- The id 5 is unknown, and the session of 1 is modified with the option given for 5. -/
theorem unknown_id_shifts_options :
    ¬ ∀ (s : GeofenceClient) (requests : List FenceRequest), s.ModifiesRight requests := by
  intro h
  have hright := h
    { mLocationAPI := true, session := geofenceSessionId,
      mGeofenceBiDict := ({} : BiDict UInt32).set 1 11 2 }
    [(5, { breachTypeMask := 1, responsiveness := 0, dwellTime := 0 }),
      (1, { breachTypeMask := 3, responsiveness := 0, dwellTime := 0 })]
  exact absurd (hright.forwards ⟨rfl, rfl⟩) (by decide)

end GeofenceClient

end DeviceHal.Gps
