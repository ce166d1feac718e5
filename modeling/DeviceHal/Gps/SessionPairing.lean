import DeviceHal.Gps.Sessions

namespace DeviceHal.Gps

open Lib

namespace ApiCall

/-- The kind of the object matches the call. Only the stop of a mode change has none. -/
structure Fits (c : ApiCall) : Prop where
  some : c.kind.isStop = false → ∃ r, c.request = some r
  removes : ∀ r error, c.request = Option.some r → r.kind.removes error = true →
    c.kind.isStart = true ∧ error ≠ .success ∨ c.kind.isStop = true ∧ error = .success

end ApiCall

/-- No call that has a request object is outstanding for the session. -/
def Unasked (session : UInt32) (pending : List ApiCall) : Prop :=
  ∀ c ∈ pending, c.session = session → c.request = none

/-- The entity of an entry: its id, and which of its two sessions is the one of the entry. -/
def SessionEntity.Of (id session : UInt32) (entity : SessionEntity) : Prop :=
  entity.id = id ∧
    (if entity.sessionMode = sessionModeOnFix then entity.trackingSession else
      entity.batchingSession) = session

namespace SessionClient

/-- Each response that reaches a request object reaches the one of its call, and a session that was
started stays until it ends. -/
structure Paired (s : SessionClient) : Prop where
  own : ∀ d ∈ s.dispatched, d.answered = some d.dispatched
  stays : ∀ session ∈ s.started, session ∉ s.ended → s.mSessionBiDict.hasSession session = true

/-- `LocationAPI` returns sessions that are not 0 and that it has not returned before. -/
def Fresh (s : SessionClient) : SessionOp → Prop
  | .startSession _ _ newSession | .updateSessionOptions _ _ newSession =>
    newSession ≠ 0 ∧ newSession ∉ s.used
  | _ => True

instance (s : SessionClient) : ∀ op, Decidable (s.Fresh op)
  | .startSession _ _ newSession | .updateSessionOptions _ _ newSession =>
    inferInstanceAs (Decidable (newSession ≠ 0 ∧ newSession ∉ s.used))
  | .stopSession _ | .getBatchedLocations _ _ | .tripCompleted _ | .answer _ =>
    inferInstanceAs (Decidable True)

/-- No session leaves the dictionary while a call with a request object is outstanding for it, and
batched locations are asked for a batching session only. -/
def Settled (s : SessionClient) : SessionOp → Prop
  | .updateSessionOptions id sessionMode _ => ∀ session : UInt32,
    s.mSessionBiDict.mForwardMap[id]? = some session →
      ((s.mSessionBiDict.getExtBySession .cleared session).sessionMode = sessionModeOnFix ↔
        sessionMode = sessionModeOnFix) ∨ Unasked session s.pending
  | .getBatchedLocations id _ => ∀ session : UInt32, s.mSessionBiDict.mForwardMap[id]? = some session →
    (s.mSessionBiDict.getExtBySession .cleared session).sessionMode ≠ sessionModeOnFix
  | .tripCompleted trips => ∀ session ∈ trips, s.onTrip session = true →
    Unasked session s.pending
  | .answer error => ∀ c rest, s.pending = c :: rest →
    (∃ r, c.request = some r ∧ r.kind.removes error = true) → Unasked c.session rest
  | _ => True

/-- The queue holds the objects of the outstanding calls, in their order. A call has one exactly if
its session is in the dictionary. -/
structure PairInv (s : SessionClient) : Prop where
  bijective : s.mSessionBiDict.Bijective
  entity : ∀ id session : UInt32, s.mSessionBiDict.mForwardMap[id]? = some session → session ≠ 0 ∧
    ∃ e : SessionEntity, s.mSessionBiDict.mExtMap[session]? = some e ∧ e.Of id session
  queue : s.queue = s.pending.filterMap (·.request)
  asked : ∀ c ∈ s.pending, (∃ r, c.request = some r) ↔
    s.mSessionBiDict.hasSession c.session = true
  fits : ∀ c ∈ s.pending, c.Fits
  usedDict : ∀ session, s.mSessionBiDict.hasSession session = true → session ∈ s.used
  usedPending : ∀ c ∈ s.pending, c.session ∈ s.used
  usedStarted : ∀ session ∈ s.started, session ∈ s.used
  starts : ((s.pending.filter (·.kind.isStart)).map (·.session)).Nodup
  unstarted : ∀ c ∈ s.pending, c.kind.isStart = true → c.session ∉ s.started
  own : ∀ d ∈ s.dispatched, d.answered = some d.dispatched
  stays : ∀ session ∈ s.started, session ∉ s.ended → s.mSessionBiDict.hasSession session = true

variable {s : SessionClient}

theorem PairInv.paired (hi : s.PairInv) : s.Paired := ⟨hi.own, hi.stays⟩

variable {session : UInt32}

theorem PairInv.remove (hi : s.PairInv)
    (hs : s.mSessionBiDict.hasSession session = true) (hu : Unasked session s.pending)
    (he : session ∈ s.started → session ∈ s.ended) :
    PairInv { s with mSessionBiDict := s.mSessionBiDict.rmBySession session } := by
  obtain ⟨id, hid⟩ := BiDict.hasSession_iff.mp hs
  refine ⟨BiDict.rmBySession_bijective hi.bijective hs, fun i x hx => ?_, hi.queue,
    fun c hc => ?_, hi.fits, fun x hx => ?_, hi.usedPending, hi.usedStarted, hi.starts,
    hi.unstarted, hi.own, fun x hx hn => ?_⟩
  · simp only [BiDict.rmBySession, BiDict.getElem?_erase] at hx ⊢
    split at hx
    next => cases hx
    next hi' =>
      have hxs : session ≠ x := by
        rintro rfl
        apply hi'
        rw [hid, Option.getD_some]
        have := (hi.bijective.inverse i session).mp hx
        rw [hid] at this
        exact Option.some.inj this
      rw [if_neg hxs]
      exact hi.entity i x hx
  · have hne : c.session ≠ session := by
      intro hcs
      have hnone := hu c hc hcs
      obtain ⟨r, hr⟩ := (hi.asked c hc).mpr (hcs ▸ hs)
      rw [hnone] at hr
      cases hr
    dsimp only
    rw [BiDict.hasSession_rmBySession, hi.asked c hc]
    exact ⟨fun hh => ⟨hne, hh⟩, fun hh => hh.2⟩
  · exact hi.usedDict x (BiDict.hasSession_rmBySession.mp hx).2
  · refine BiDict.hasSession_rmBySession.mpr ⟨?_, hi.stays x hx hn⟩
    rintro rfl
    exact hn (he hx)

variable {kind : ApiCallKind}

variable {rk : RequestKind}

theorem PairInv.ask (hi : s.PairInv) (hs : s.mSessionBiDict.hasSession session = true)
    (hk : kind.isStart = false)
    (hf : ∀ error, rk.removes error = true → kind.isStop = true ∧ error = .success) :
    PairInv ((s.push rk).1.call kind session (some (s.push rk).2)) := by
  refine ⟨hi.bijective, hi.entity, ?_, ?_, ?_, hi.usedDict, ?_, hi.usedStarted, ?_, ?_, hi.own,
    hi.stays⟩
  · simp [push, call, hi.queue]
  · intro c hc
    rcases List.mem_append.mp hc with hc | hc
    · exact hi.asked c hc
    · cases List.mem_singleton.mp hc
      exact ⟨fun _ => hs, fun _ => ⟨_, rfl⟩⟩
  · intro c hc
    rcases List.mem_append.mp hc with hc | hc
    · exact hi.fits c hc
    · cases List.mem_singleton.mp hc
      refine ⟨fun _ => ⟨_, rfl⟩, fun r error hr hrem => ?_⟩
      cases hr
      exact Or.inr (hf error hrem)
  · intro c hc
    rcases List.mem_append.mp hc with hc | hc
    · exact hi.usedPending c hc
    · cases List.mem_singleton.mp hc
      exact hi.usedDict session hs
  · simpa [push, call, List.filter_append, hk] using hi.starts
  · intro c hc hstart
    rcases List.mem_append.mp hc with hc | hc
    · exact hi.unstarted c hc hstart
    grind

variable {entity : SessionEntity}

theorem PairInv.start (hi : s.PairInv) {id session : UInt32}
    (hid : s.mSessionBiDict.mForwardMap[id]? = none) (hz : session ≠ 0)
    (hfresh : session ∉ s.used) (he : entity.Of id session)
    (hk : kind.isStart = true)
    (hf : ∀ error, rk.removes error = true → error ≠ .success) :
    PairInv (((s.push rk).1.start kind session (some (s.push rk).2)).setSession id session
      entity) := by
  have hnew : s.mSessionBiDict.hasSession session ≠ true := fun hh => hfresh (hi.usedDict _ hh)
  have hback : s.mSessionBiDict.mBackwardMap[session]? = none := by
    rw [← Option.not_isSome_iff_eq_none, Option.isSome_iff_exists, ← BiDict.hasSession_iff]
    exact hnew
  have hother : ∀ x ∈ s.used, x ≠ session := by
    rintro x hx rfl
    exact hfresh hx
  refine ⟨(BiDict.set_bijective_iff hi.bijective).mpr (Or.inl ⟨hid, hback⟩), ?_, ?_, ?_, ?_, ?_,
    ?_, ?_, ?_, ?_, hi.own, ?_⟩
  · intro i x hx
    simp only [setSession, SessionClient.start, call, push, BiDict.set, BiDict.getElem?_insert]
      at hx ⊢
    split at hx
    next hii =>
      grind
    next =>
      have hxs : session ≠ x := by
        rintro rfl
        rw [(hi.bijective.inverse i session).mp hx] at hback
        cases hback
      rw [if_neg hxs]
      exact hi.entity i x hx
  · simp [setSession, SessionClient.start, push, call, hi.queue]
  · intro c hc
    rw [show ((((s.push rk).1.start kind session (some (s.push rk).2)).setSession id session
      entity).mSessionBiDict.hasSession c.session = true) ↔ c.session = session ∨
        s.mSessionBiDict.hasSession c.session = true from BiDict.hasSession_set]
    rcases List.mem_append.mp hc with hc | hc
    · rw [hi.asked c hc]
      exact ⟨Or.inr, fun hh => hh.resolve_left (hother _ (hi.usedPending c hc))⟩
    grind
  · intro c hc
    rcases List.mem_append.mp hc with hc | hc
    · exact hi.fits c hc
    · cases List.mem_singleton.mp hc
      refine ⟨fun _ => ⟨_, rfl⟩, fun r error hr hrem => ?_⟩
      cases hr
      exact Or.inl ⟨hk, hf error hrem⟩
  · intro x hx
    rcases BiDict.hasSession_set.mp hx with rfl | hx
    · exact List.mem_cons_self
    · exact List.mem_cons_of_mem _ (hi.usedDict x hx)
  · intro c hc
    rcases List.mem_append.mp hc with hc | hc
    · exact List.mem_cons_of_mem _ (hi.usedPending c hc)
    · cases List.mem_singleton.mp hc
      exact List.mem_cons_self
  · intro x hx
    exact List.mem_cons_of_mem _ (hi.usedStarted x hx)
  · have hnot : session ∉ (s.pending.filter (·.kind.isStart)).map (·.session) := by
      intro hm
      obtain ⟨c, hc, hcs⟩ := List.mem_map.mp hm
      exact hother _ (hi.usedPending c (List.mem_filter.mp hc).1) hcs
    simp only [setSession, SessionClient.start, push, call, List.filter_append, List.map_append]
    rw [List.filter_cons_of_pos (by exact hk), List.filter_nil]
    exact hi.starts.append (List.nodup_singleton _) (by simpa using hnot)
  · intro c hc hstart hm
    rcases List.mem_append.mp hc with hc | hc
    · exact hi.unstarted c hc hstart hm
    · cases List.mem_singleton.mp hc
      exact hfresh (hi.usedStarted _ hm)
  · intro x hx hn
    exact BiDict.hasSession_set.mpr (Or.inr (hi.stays x hx hn))

theorem PairInv.end (hi : s.PairInv) (session : UInt32) : PairInv (s.endSession session) :=
  ⟨hi.bijective, hi.entity, hi.queue, hi.asked, hi.fits, hi.usedDict, hi.usedPending,
    hi.usedStarted, hi.starts, hi.unstarted, hi.own,
    fun x hx hn => hi.stays x hx fun hh => hn (List.mem_cons_of_mem _ hh)⟩

theorem PairInv.retire (hi : s.PairInv)
    (hs : s.mSessionBiDict.hasSession session = true) (hu : Unasked session s.pending)
    (hk : kind.isStop = true) (hk' : kind.isStart = false) :
    PairInv { (s.call kind session none).endSession session with
      mSessionBiDict := s.mSessionBiDict.rmBySession session } := by
  have hrem := (hi.end session).remove hs hu fun _ => List.mem_cons_self
  refine ⟨hrem.bijective, hrem.entity, ?_, ?_, ?_, hrem.usedDict, ?_, hrem.usedStarted, ?_, ?_,
    hrem.own, hrem.stays⟩
  · simpa [call, endSession] using hrem.queue
  · intro c hc
    rcases List.mem_append.mp hc with hc | hc
    · exact hrem.asked c hc
    grind [BiDict.hasSession_rmBySession]
  · intro c hc
    rcases List.mem_append.mp hc with hc | hc
    · exact hrem.fits c hc
    · cases List.mem_singleton.mp hc
      exact ⟨fun hh => by simp [hk] at hh, fun r error hr => by cases hr⟩
  · intro c hc
    rcases List.mem_append.mp hc with hc | hc
    · exact hrem.usedPending c hc
    · cases List.mem_singleton.mp hc
      exact hi.usedDict session hs
  · simpa [call, endSession, List.filter_append, hk'] using hrem.starts
  · intro c hc hstart
    rcases List.mem_append.mp hc with hc | hc
    · exact hrem.unstarted c hc hstart
    grind

theorem PairInv.relabel (hi : s.PairInv) {id session : UInt32}
    (hf : s.mSessionBiDict.mForwardMap[id]? = some session) (he : entity.Of id session) :
    PairInv { s with mSessionBiDict := (s.mSessionBiDict.rmById id).set id session entity } := by
  have hback := (hi.bijective.inverse id session).mp hf
  have hs : s.mSessionBiDict.hasSession session = true := BiDict.hasSession_iff.mpr ⟨id, hback⟩
  have hhas : ∀ x, (((s.mSessionBiDict.rmById id).set id session entity).hasSession x = true) ↔
      s.mSessionBiDict.hasSession x = true := by
    intro x
    rw [BiDict.rmById_eq hi.bijective hf, BiDict.hasSession_set, BiDict.hasSession_rmBySession]
    constructor
    · rintro (rfl | hh)
      · exact hs
      · exact hh.2
    · grind
  have hfits : (s.mSessionBiDict.rmBySession session).Fits id session := by
    refine Or.inl ⟨?_, ?_⟩
    · simp [BiDict.rmBySession, hback]
    · simp [BiDict.rmBySession]
  refine ⟨?_, fun i x hx => ?_, hi.queue, fun c hc => ?_, hi.fits, fun x hx => ?_, hi.usedPending,
    hi.usedStarted, hi.starts, hi.unstarted, hi.own, fun x hx hn => ?_⟩
  · dsimp only
    rw [BiDict.rmById_eq hi.bijective hf]
    exact (BiDict.set_bijective_iff (BiDict.rmBySession_bijective hi.bijective hs)).mpr hfits
  · simp only [BiDict.set, BiDict.rmById, BiDict.getElem?_insert, BiDict.getElem?_erase] at hx ⊢
    split at hx
    next hii =>
      cases hx
      subst hii
      exact ⟨(hi.entity _ _ hf).1, entity, if_pos rfl, he⟩
    next hii =>
      have hxs : session ≠ x := by
        rintro rfl
        rw [(hi.bijective.inverse i session).mp hx] at hback
        exact hii (Option.some.inj hback).symm
      rw [hf, Option.getD_some, if_neg hxs, if_neg hxs]
      exact hi.entity i x hx
  · exact (hi.asked c hc).trans (hhas c.session).symm
  · exact hi.usedDict x ((hhas x).mp hx)
  · exact (hhas x).mpr (hi.stays x hx hn)

theorem PairInv.getEntity (hi : s.PairInv) {id : UInt32}
    (hid : s.mSessionBiDict.hasId id = true) :
    ∃ session e, s.mSessionBiDict.mForwardMap[id]? = some session ∧
      s.mSessionBiDict.hasSession session = true ∧ e.Of id session ∧
      s.mSessionBiDict.getExtBySession .cleared session = e ∧ s.getEntity id = (s, e) := by
  obtain ⟨session, hf⟩ := BiDict.hasId_iff.mp hid
  obtain ⟨hz, e, he, hof⟩ := hi.entity id session hf
  refine ⟨session, e, hf, BiDict.hasSession_iff.mpr ⟨id, (hi.bijective.inverse id session).mp hf⟩,
    hof, ?_, ?_⟩
  · simp [BiDict.getExtBySession, he]
  · have hpos : session > 0 := UInt32.pos_iff_ne_zero.mpr hz
    simp [SessionClient.getEntity, BiDict.getExtById, hid, hf, he, hpos]

theorem PairInv.switch (hi : s.PairInv) {id session newSession : UInt32}
    (hf : s.mSessionBiDict.mForwardMap[id]? = some session) (hu : Unasked session s.pending)
    (hz : newSession ≠ 0) (hfresh : newSession ∉ s.used) (he : entity.Of id newSession)
    {stopKind startKind : ApiCallKind} (hstop : stopKind.isStop = true)
    (hstop' : stopKind.isStart = false) (hstart : startKind.isStart = true)
    (hr : ∀ error, rk.removes error = true → error ≠ .success) :
    PairInv { (((s.push rk).1.call stopKind session none).endSession session).start startKind
        newSession (some (s.push rk).2) with
      mSessionBiDict := (s.mSessionBiDict.rmById id).set id newSession entity } := by
  have hback := (hi.bijective.inverse id session).mp hf
  have hs : s.mSessionBiDict.hasSession session = true := BiDict.hasSession_iff.mpr ⟨id, hback⟩
  have hleft : (s.mSessionBiDict.rmBySession session).mForwardMap[id]? = none := by
    simp [BiDict.rmBySession, hback]
  rw [BiDict.rmById_eq hi.bijective hf]
  exact (hi.retire hs hu hstop hstop').start hleft hz hfresh he hstart hr

variable {id sessionMode newSession : UInt32}

theorem startSession_inv (hi : s.PairInv) (hf : newSession ≠ 0 ∧ newSession ∉ s.used) :
    PairInv (s.locAPIStartSession id sessionMode newSession).1 := by
  unfold locAPIStartSession
  split
  · split
    next => exact hi
    next hid =>
      have hnone : s.mSessionBiDict.mForwardMap[id]? = none := by
        rw [← Option.not_isSome_iff_eq_none, Option.isSome_iff_exists, ← BiDict.hasId_iff]
        exact hid
      split
      next hm =>
        refine hi.start hnone hf.1 hf.2 ?_ rfl fun error hrem => by simpa [RequestKind.removes] using hrem
        exact ⟨rfl, if_pos hm⟩
      next hm =>
        refine hi.start hnone hf.1 hf.2 ?_ rfl fun error hrem => by simpa [RequestKind.removes] using hrem
        exact ⟨rfl, if_neg hm⟩
  · exact hi

theorem stopSession_inv (hi : s.PairInv) (id : UInt32) : PairInv (s.locAPIStopSession id).1 := by
  unfold locAPIStopSession
  split
  · split
    next hid =>
      obtain ⟨session, e, -, hs, ⟨-, hsession⟩, -, hget⟩ := hi.getEntity hid
      rw [hget]
      dsimp only
      split
      next hm =>
        rw [if_pos hm] at hsession
        rw [hsession]
        exact hi.ask hs rfl fun error hrem => ⟨rfl, by simpa [RequestKind.removes] using hrem⟩
      next hm =>
        rw [if_neg hm] at hsession
        rw [hsession]
        exact hi.ask hs rfl fun error hrem => ⟨rfl, by simpa [RequestKind.removes] using hrem⟩
    next => exact hi
  · exact hi

theorem getBatchedLocations_inv (hi : s.PairInv) {id : UInt32} {count : Nat}
    (hg : s.Settled (.getBatchedLocations id count)) :
    PairInv (s.locAPIGetBatchedLocations id count).1 := by
  unfold locAPIGetBatchedLocations
  split
  · split
    next hid =>
      obtain ⟨session, e, hf, hs, ⟨-, hsession⟩, hext, hget⟩ := hi.getEntity hid
      have hm := hg session hf
      rw [hext] at hm
      rw [if_neg hm] at hsession
      rw [hget]
      dsimp only
      rw [hsession]
      exact hi.ask hs rfl fun error hrem => by cases hrem
    next => exact hi
  · exact hi

theorem updateSessionOptions_inv (hi : s.PairInv) (hf : newSession ≠ 0 ∧ newSession ∉ s.used)
    (hg : s.Settled (.updateSessionOptions id sessionMode newSession)) :
    PairInv (s.locAPIUpdateSessionOptions id sessionMode newSession).1 := by
  unfold locAPIUpdateSessionOptions
  split
  · split
    next hid =>
      obtain ⟨session, e, hfor, hs, ⟨heid, hsession⟩, hext, hget⟩ := hi.getEntity hid
      have hno := hg session hfor
      rw [hext] at hno
      rw [hget]
      dsimp only
      by_cases hm : sessionMode = sessionModeOnFix
      · by_cases he : e.sessionMode = sessionModeOnFix
        · rw [if_pos he] at hsession
          rw [if_pos hm, if_pos he]
          dsimp only
          rw [if_neg (not_not.mpr hm), hsession]
          have hask : PairInv ((s.push .updateTrackingOptions).1.call .updateTrackingOptions session
              (some (s.push .updateTrackingOptions).2)) :=
            hi.ask hs rfl fun error hrem => by cases hrem
          exact hask.relabel hfor ⟨heid, if_pos hm⟩
        · rw [if_neg he] at hsession
          rw [if_pos hm, if_neg he]
          dsimp only
          rw [if_neg (not_not.mpr hm), hsession]
          have hu := hno.resolve_left fun hh => he (hh.mpr hm)
          have hof : SessionEntity.Of id newSession
              { e with trackingSession := newSession, batchingSession := 0, sessionMode } :=
            ⟨heid, if_pos hm⟩
          have hr : ∀ error, RequestKind.updateTrackingOptions.removes error = true →
              error ≠ .success := fun error hrem => by cases hrem
          exact hi.switch hfor hu hf.1 hf.2 hof rfl rfl rfl hr
      · by_cases he : e.sessionMode = sessionModeOnFix
        · rw [if_pos he] at hsession
          rw [if_neg hm, if_pos he]
          dsimp only
          rw [if_pos hm, hsession]
          have hu := hno.resolve_left fun hh => hm (hh.mp he)
          have hof : SessionEntity.Of id newSession
              { e with trackingSession := 0, batchingSession := newSession, sessionMode } :=
            ⟨heid, if_neg hm⟩
          have hr : ∀ error, RequestKind.updateBatchingOptions.removes error = true →
              error ≠ .success := fun error hrem => by cases hrem
          exact hi.switch hfor hu hf.1 hf.2 hof rfl rfl rfl hr
        · rw [if_neg he] at hsession
          rw [if_neg hm, if_neg he]
          dsimp only
          rw [if_pos hm, hsession]
          have hask : PairInv ((s.push .updateBatchingOptions).1.call
              (.updateBatchingOptions (batchingMode sessionMode)) session
              (some (s.push .updateBatchingOptions).2)) :=
            hi.ask hs rfl fun error hrem => by cases hrem
          exact hask.relabel hfor ⟨heid, if_neg hm⟩
    next => exact hi
  · exact hi

theorem onTrip_rmBySession {session x : UInt32}
    (ht : onTrip x { s.endSession session with
      mSessionBiDict := s.mSessionBiDict.rmBySession session } = true) : s.onTrip x = true := by
  obtain ⟨hhas, hmode⟩ := Bool.and_eq_true_iff.mp ht
  obtain ⟨hne, hx⟩ := BiDict.hasSession_rmBySession.mp hhas
  refine Bool.and_eq_true_iff.mpr ⟨hx, ?_⟩
  have hsame : (s.mSessionBiDict.rmBySession session).getExtBySession SessionEntity.cleared x =
      s.mSessionBiDict.getExtBySession .cleared x := by
    unfold BiDict.getExtBySession BiDict.rmBySession
    dsimp only
    rw [BiDict.getElem?_erase, if_neg (Ne.symm hne)]
  exact hsame ▸ hmode

theorem completeTrips_inv (hi : s.PairInv) {trips : List UInt32}
    (hg : s.Settled (.tripCompleted trips)) : PairInv (s.completeTrips trips).1 := by
  induction trips generalizing s with
  | nil => exact hi
  | cons session trips ih =>
    unfold completeTrips
    split
    next htrip =>
      have hs : s.mSessionBiDict.hasSession session = true := (Bool.and_eq_true_iff.mp htrip).1
      have hu := hg session List.mem_cons_self htrip
      refine ih ((hi.end session).remove hs hu fun _ => List.mem_cons_self) fun x hx hon => ?_
      exact hg x (List.mem_cons_of_mem _ hx) (onTrip_rmBySession hon)
    next => exact ih hi fun x hx => hg x (List.mem_cons_of_mem _ hx)

/-- The state when the oldest call has been answered to its request, before its session leaves. -/
def taken (c : ApiCall) (rest : List ApiCall) (r : LocationAPIRequest) (error : LocationError)
    (s : SessionClient) : SessionClient :=
  { s with
    pending := rest
    queue := rest.filterMap (·.request)
    dispatched := ⟨c.request, r, error⟩ :: s.dispatched }

variable {rest : List ApiCall} {c : ApiCall}

theorem PairInv.taken (hi : s.PairInv)
    {r : LocationAPIRequest} (hp : s.pending = c :: rest) (hr : c.request = some r)
    (error : LocationError) : PairInv (s.taken c rest r error) := by
  have hmem : ∀ x ∈ rest, x ∈ s.pending := fun x hx => hp ▸ List.mem_cons_of_mem _ hx
  refine ⟨hi.bijective, hi.entity, rfl, fun x hx => hi.asked x (hmem x hx),
    fun x hx => hi.fits x (hmem x hx), hi.usedDict, fun x hx => hi.usedPending x (hmem x hx),
    hi.usedStarted, ?_, fun x hx => hi.unstarted x (hmem x hx), ?_, hi.stays⟩
  · have hs := hi.starts
    rw [hp] at hs
    exact hs.sublist (((List.sublist_cons_self c rest).filter _).map _)
  · intro d hd
    rcases List.mem_cons.mp hd with rfl | hd
    · exact hr
    · exact hi.own d hd

theorem PairInv.skipped (hi : s.PairInv) (hp : s.pending = c :: rest) (hr : c.request = none) :
    PairInv { s with pending := rest } := by
  have hmem : ∀ x ∈ rest, x ∈ s.pending := fun x hx => hp ▸ List.mem_cons_of_mem _ hx
  refine ⟨hi.bijective, hi.entity, ?_, fun x hx => hi.asked x (hmem x hx),
    fun x hx => hi.fits x (hmem x hx), hi.usedDict, fun x hx => hi.usedPending x (hmem x hx),
    hi.usedStarted, ?_, fun x hx => hi.unstarted x (hmem x hx), hi.own, hi.stays⟩
  · have hq := hi.queue
    rw [hp, List.filterMap_cons_none hr] at hq
    exact hq
  · have hs := hi.starts
    grind

variable {error : LocationError}

theorem PairInv.note (hi : s.PairInv) (hstart : c.kind.isStart = true → error = .success →
      s.mSessionBiDict.hasSession c.session = true ∧
        ∀ x ∈ s.pending, x.kind.isStart = true → x.session ≠ c.session) :
    PairInv (s.note error c) := by
  unfold SessionClient.note
  split
  next he =>
    split
    next hk =>
      obtain ⟨hs, hother⟩ := hstart hk he
      refine ⟨hi.bijective, hi.entity, hi.queue, hi.asked, hi.fits, hi.usedDict, hi.usedPending,
        fun x hx => ?_, hi.starts, fun x hx hxk hm => ?_, hi.own, fun x hx hn => ?_⟩
      · rcases List.mem_cons.mp hx with rfl | hx
        · exact hi.usedDict _ hs
        · exact hi.usedStarted x hx
      · rcases List.mem_cons.mp hm with heq | hm
        · exact hother x hx hxk heq
        · exact hi.unstarted x hx hxk hm
      · rcases List.mem_cons.mp hx with rfl | hx
        · exact hs
        · exact hi.stays x hx hn
    next =>
      split
      · exact hi.end c.session
      · exact hi
  next => exact hi

theorem isStart_not_isStop (h : kind.isStop = true) : kind.isStart = false := by
  cases kind <;> first | rfl | cases h

theorem note_dict (error : LocationError) (c : ApiCall) (d : BiDict SessionEntity) :
    { s with mSessionBiDict := d }.note error c =
      { s.note error c with mSessionBiDict := d } := by
  unfold note
  split
  · split
    · rfl
    · split <;> rfl
  · rfl

theorem note_mSessionBiDict (error : LocationError) (c : ApiCall) :
    (s.note error c).mSessionBiDict = s.mSessionBiDict := by
  unfold note
  split
  · split
    · rfl
    · split <;> rfl
  · rfl

theorem note_pending (error : LocationError) (c : ApiCall) :
    (s.note error c).pending = s.pending := by
  unfold note
  split
  · split
    · rfl
    · split <;> rfl
  · rfl

theorem answer_asked_inv (hi : s.PairInv)
    {r : LocationAPIRequest} (hp : s.pending = c :: rest) (hr : c.request = some r)
    (hu : r.kind.removes error = true → Unasked c.session rest) :
    PairInv (({ s with pending := rest }.onResponseCb error c).note error c) := by
  have hc : c ∈ s.pending := hp ▸ List.mem_cons_self
  have hs : s.mSessionBiDict.hasSession c.session = true := (hi.asked c hc).mp ⟨r, hr⟩
  have hq : s.queue = r :: rest.filterMap (·.request) := by
    rw [hi.queue, hp, List.filterMap_cons_some hr]
  have hothers : ∀ x ∈ rest, x.kind.isStart = true → c.kind.isStart = true →
      x.session ≠ c.session := by
    intro x hx hxk hck he
    have hnodup := hi.starts
    rw [hp, List.filter_cons_of_pos (by exact hck), List.map_cons] at hnodup
    exact (List.nodup_cons.mp hnodup).1
      (List.mem_map.mpr ⟨x, List.mem_filter.mpr ⟨hx, hxk⟩, he⟩)
  have hcb : { s with pending := rest }.onResponseCb error c =
      if r.kind.removes error then
        { s.taken c rest r error with
          mSessionBiDict := s.mSessionBiDict.rmBySession c.session }
      else s.taken c rest r error := by
    simp only [onResponseCb, getRequestBySession, hs, hq, removeSession, if_true]
    split <;> rfl
  have htaken := hi.taken hp hr error
  rw [hcb]
  split
  next hrem =>
    rw [note_dict]
    have hfit := (hi.fits c hc).removes r error hr hrem
    have hnoted : PairInv ((s.taken c rest r error).note error c) := by
      refine htaken.note fun hck he => ?_
      rcases hfit with ⟨-, hne⟩ | ⟨hstop, -⟩
      · exact absurd he hne
      · rw [isStart_not_isStop hstop] at hck
        cases hck
    have hdict : ((s.taken c rest r error).note error c).mSessionBiDict = s.mSessionBiDict :=
      note_mSessionBiDict error c
    have hrest : ((s.taken c rest r error).note error c).pending = rest := note_pending error c
    have hunasked : Unasked c.session ((s.taken c rest r error).note error c).pending := by
      rw [hrest]
      exact hu hrem
    have hgone := hnoted.remove (hdict ▸ hs) hunasked fun hst => by
      rcases hfit with ⟨hstart, hne⟩ | ⟨hstop, rfl⟩
      · simp only [note, if_neg hne] at hst
        exact absurd hst (hi.unstarted c hc hstart)
      · simp [note, isStart_not_isStop hstop, hstop, endSession]
    rw [hdict] at hgone
    exact hgone
  next =>
    exact htaken.note fun hck _ => ⟨hs, fun x hx hxk => hothers x hx hxk hck⟩

theorem answer_inv (hi : s.PairInv) (hg : s.Settled (.answer error)) :
    PairInv (s.answer error) := by
  unfold answer
  split
  next => exact hi
  next c rest hp =>
    have hc : c ∈ s.pending := hp ▸ List.mem_cons_self
    cases hr : c.request with
    | some r => exact answer_asked_inv hi hp hr fun hrem => hg c rest hp ⟨r, hr, hrem⟩
    | none =>
      have hs : s.mSessionBiDict.hasSession c.session ≠ true := by
        intro hh
        obtain ⟨r, hr'⟩ := (hi.asked c hc).mpr hh
        rw [hr] at hr'
        cases hr'
      have hstop : c.kind.isStop = true := by
        by_contra hno
        obtain ⟨r, hr'⟩ := (hi.fits c hc).some (by simpa using hno)
        rw [hr] at hr'
        cases hr'
      have hcb : { s with pending := rest }.onResponseCb error c = { s with pending := rest } := by
        simp [onResponseCb, getRequestBySession, hs]
      rw [hcb]
      refine (hi.skipped hp hr).note fun hk => ?_
      rw [isStart_not_isStop hstop] at hk
      cases hk

theorem step_pairInv {t : SessionClient} {op : SessionOp} (hi : s.PairInv) (hf : s.Fresh op)
    (hg : s.Settled op) (hstep : s.step op = some t) : t.PairInv := by
  cases op with
  | startSession id sessionMode newSession =>
    cases Option.some.inj hstep
    exact startSession_inv hi hf
  | stopSession id =>
    cases Option.some.inj hstep
    exact stopSession_inv hi id
  | updateSessionOptions id sessionMode newSession =>
    cases Option.some.inj hstep
    exact updateSessionOptions_inv hi hf hg
  | getBatchedLocations id count =>
    cases Option.some.inj hstep
    exact getBatchedLocations_inv hi hg
  | tripCompleted trips =>
    cases Option.some.inj hstep
    exact completeTrips_inv hi hg
  | answer error =>
    cases Option.some.inj hstep
    exact answer_inv hi hg

theorem new_pairInv (mLocationAPI : Bool) : PairInv { mLocationAPI } := by
  refine ⟨BiDict.empty_bijective, fun id session hs => ?_, rfl, ?_, ?_, fun session hs => ?_, ?_,
    ?_, List.nodup_nil, ?_, ?_, ?_⟩
  · simp at hs
  all_goals first | (intro c hc; cases hc) | simp [BiDict.hasSession] at hs

/-- If no session leaves the dictionary while a request is outstanding for it, and batched
locations are asked for batching sessions only, each response reaches the request object of its
call, and a started session stays until it ends. -/
theorem paired_of_settled (mLocationAPI : Bool) (ops : List SessionOp)
    (fresh : OpsMeet step Fresh { mLocationAPI } ops)
    (settled : OpsMeet step Settled { mLocationAPI } ops) :
    Always step Paired { mLocationAPI } ops := by
  have keeps : ∀ s op t, PairInv s → (Fresh s op ∧ Settled s op) → s.step op = some t →
      PairInv t := fun _ _ _ hi hok hstep => step_pairInv hi hok.1 hok.2 hstep
  exact always_invariant (fun _ hi => hi.paired) keeps (new_pairInv mLocationAPI)
    (fresh.and settled)

def stoppedOps : List SessionOp :=
  [.startSession 1 sessionModeOnFix 10, .answer .success, .stopSession 1, .answer .success]

theorem stoppedOps_paired :
    OpsMeet step Fresh { mLocationAPI := true } stoppedOps ∧
      OpsMeet step Settled { mLocationAPI := true } stoppedOps ∧
      Always step Paired { mLocationAPI := true } stoppedOps := by
  have fresh : OpsMeet step Fresh { mLocationAPI := true } stoppedOps := by decide
  have settled : OpsMeet step Settled { mLocationAPI := true } stoppedOps := by
    refine ⟨trivial, fun t ht => ?_⟩
    cases Option.some.inj ht
    refine ⟨fun c rest hp _ => ?_, fun t ht => ?_⟩
    · cases (List.cons.inj hp).2
      exact fun _ hc => by cases hc
    cases Option.some.inj ht
    refine ⟨trivial, fun t ht => ?_⟩
    cases Option.some.inj ht
    refine ⟨fun c rest hp _ => ?_, fun t ht => trivial⟩
    cases (List.cons.inj hp).2
    exact fun _ hc => by cases hc
  exact ⟨fresh, settled, paired_of_settled true stoppedOps fresh settled⟩

/-- A session is stopped twice: the second answer finds no session and leaves its request object in
the queue. Then another session is started. -/
def stoppedTwiceOps : List SessionOp :=
  [.startSession 1 sessionModeOnFix 10, .answer .success, .stopSession 1, .stopSession 1,
    .answer .success, .answer .idUnknown, .startSession 1 sessionModeOnFix 11, .answer .success]

/-- The answer to the start reaches the object of the stop, which takes the new session out. -/
theorem stop_takes_start : ∃ s, OpsMeet step Fresh { mLocationAPI := true } stoppedTwiceOps ∧
    runOps step { mLocationAPI := true } stoppedTwiceOps = some s ∧
    (∃ d ∈ s.dispatched, d.answered ≠ some d.dispatched) ∧
    (11 : UInt32) ∈ s.started ∧ (11 : UInt32) ∉ s.ended ∧
    s.mSessionBiDict.hasSession 11 = false := by
  refine ⟨_, by decide, rfl, ?_, by decide, by decide, by decide⟩
  exact ⟨⟨some ⟨3, .startTracking⟩, ⟨2, .stopTracking⟩, .success⟩, by decide,
    by decide⟩

end SessionClient

end DeviceHal.Gps
