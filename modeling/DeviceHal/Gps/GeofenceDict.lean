import DeviceHal.Gps.Geofences

namespace DeviceHal.Gps

open Lib

namespace BiDict

variable {T : Type} {d : BiDict T}

def Empty (d : BiDict T) : Prop :=
  d.mForwardMap.isEmpty = true ∧ d.mBackwardMap.isEmpty = true ∧ d.mExtMap.isEmpty = true

theorem isEmpty_iff {α : Type} (m : Std.TreeMap UInt32 α) :
    m.isEmpty = true ↔ ∀ a : UInt32, m[a]? = none := by
  rw [Std.TreeMap.isEmpty_iff_forall_not_mem]
  apply forall_congr'
  intro a
  rw [Std.TreeMap.mem_iff_isSome_getElem?, Option.not_isSome_iff_eq_none]

theorem Bijective.empty_iff (hd : d.Bijective) :
    d.Empty ↔ ∀ id : UInt32, d.mForwardMap[id]? = none := by
  constructor
  · intro he
    exact (isEmpty_iff _).mp he.1
  · intro hf
    have hb : ∀ session : UInt32, d.mBackwardMap[session]? = none := by
      intro session
      cases hs : d.mBackwardMap[session]? with
      | none => rfl
      | some id =>
        have hfor := (hd.inverse id session).mpr hs
        rw [hf id] at hfor
        cases hfor
    refine ⟨(isEmpty_iff _).mpr hf, (isEmpty_iff _).mpr hb, ?_⟩
    rw [Std.TreeMap.isEmpty_iff_forall_not_mem]
    intro session hm
    obtain ⟨id, hid⟩ := (mem_iff _ _).mp ((hd.ext session).mp hm)
    rw [hb session] at hid
    cases hid

theorem Bijective.hasSession_iff (hd : d.Bijective) {session : UInt32} :
    d.hasSession session = true ↔ ∃ id : UInt32, d.mForwardMap[id]? = some session := by
  rw [BiDict.hasSession_iff]
  apply exists_congr
  intro id
  exact (hd.inverse id session).symm

theorem getSession_pos {id : UInt32}
    (hz : ∀ id session : UInt32, d.mForwardMap[id]? = some session → session ≠ 0) :
    d.getSession id > 0 ↔ ∃ session, d.mForwardMap[id]? = some session := by
  grind [getSession]

end BiDict

namespace GeofenceClient

variable {d : BiDict UInt32}

variable {sessions : List UInt32} {fences : List Fence}

theorem setAll_backward {x : UInt32} (hx : x ∉ sessions) :
    (setAll fences sessions d).mBackwardMap[x]? = d.mBackwardMap[x]? := by
  induction fences generalizing sessions d with
  | nil =>
    cases sessions <;> rfl
  | cons fence fences ih =>
    cases sessions with
    | nil => rfl
    | cons session sessions =>
      have hne : x ≠ session := fun he => hx (he ▸ List.mem_cons_self)
      grind [setAll, BiDict.set, BiDict.getElem?_insert]

theorem setAll_forward {i : UInt32} (hi : i ∉ fences.map Prod.fst) :
    (setAll fences sessions d).mForwardMap[i]? = d.mForwardMap[i]? := by
  induction fences generalizing sessions d with
  | nil =>
    cases sessions <;> rfl
  | cons fence fences ih =>
    cases sessions with
    | nil => rfl
    | cons session sessions =>
      have hne : i ≠ fence.1 := fun he => hi (he ▸ List.mem_cons_self)
      grind [setAll, BiDict.set, BiDict.getElem?_insert]

theorem setAll_hasSession {x : UInt32} (hl : sessions.length = fences.length) :
    (setAll fences sessions d).hasSession x = true ↔ x ∈ sessions ∨ d.hasSession x = true := by
  induction fences generalizing sessions d with
  | nil =>
    cases List.length_eq_zero_iff.mp hl
    simp [setAll]
  | cons fence fences ih =>
    cases sessions with
    | nil => cases hl
    | cons session sessions =>
      unfold setAll
      rw [ih (Nat.succ.inj hl), BiDict.hasSession_set, List.mem_cons]
      tauto

theorem setAll_new {i x : UInt32} (hf : (setAll fences sessions d).mForwardMap[i]? = some x) :
    d.mForwardMap[i]? = some x ∨ x ∈ sessions := by
  induction fences generalizing sessions d with
  | nil =>
    cases sessions <;> exact Or.inl hf
  | cons fence fences ih =>
    cases sessions with
    | nil => exact Or.inl hf
    | cons session sessions =>
      unfold setAll at hf
      rcases ih hf with hold | hnew
      · simp only [BiDict.set, BiDict.getElem?_insert] at hold
        split at hold
        next => exact Or.inr (Option.some.inj hold ▸ List.mem_cons_self)
        next => exact Or.inl hold
      · exact Or.inr (List.mem_cons_of_mem _ hnew)

theorem setAll_bijective (hd : d.Bijective)
    (hs : sessions.Nodup) (hnew : ∀ x ∈ sessions, d.mBackwardMap[x]? = none)
    (hids : (fences.map Prod.fst).Nodup)
    (hfor : ∀ i ∈ fences.map Prod.fst, d.mForwardMap[i]? = none) :
    (setAll fences sessions d).Bijective := by
  induction fences generalizing sessions d with
  | nil =>
    cases sessions <;> exact hd
  | cons fence fences ih =>
    cases sessions with
    | nil => exact hd
    | cons session sessions =>
      obtain ⟨id, mask⟩ := fence
      obtain ⟨hsession, hsessions⟩ := List.nodup_cons.mp hs
      obtain ⟨hid, hids'⟩ := List.nodup_cons.mp hids
      unfold setAll
      refine ih ((BiDict.set_bijective_iff hd).mpr (Or.inl
        ⟨hfor id List.mem_cons_self, hnew session List.mem_cons_self⟩)) hsessions ?_ hids' ?_
      · intro x hx
        have hne : session ≠ x := fun he => hsession (he ▸ hx)
        grind [BiDict.set, BiDict.getElem?_insert]
      · intro i hi
        have hne : id ≠ i := fun he => hid (he ▸ hi)
        simp only [BiDict.set, BiDict.getElem?_insert, if_neg hne]
        exact hfor i (List.mem_cons_of_mem _ hi)

theorem ids_of_setAll_bijective (hl : sessions.length = fences.length) (hs : sessions.Nodup)
    (hnew : ∀ x ∈ sessions, d.mBackwardMap[x]? = none)
    (hhalf : ∀ i x : UInt32, d.mForwardMap[i]? = some x → d.mBackwardMap[x]? = some i)
    (hb : (setAll fences sessions d).Bijective) :
    (fences.map Prod.fst).Nodup ∧ ∀ i ∈ fences.map Prod.fst, d.mForwardMap[i]? = none := by
  induction fences generalizing sessions d with
  | nil => simp
  | cons fence fences ih =>
    cases sessions with
    | nil => cases hl
    | cons session sessions =>
      obtain ⟨id, mask⟩ := fence
      obtain ⟨hsession, hsessions⟩ := List.nodup_cons.mp hs
      have hfresh := hnew session List.mem_cons_self
      unfold setAll at hb
      have hhalf' : ∀ i x : UInt32, (d.set id session mask).mForwardMap[i]? = some x →
          (d.set id session mask).mBackwardMap[x]? = some i := by
        intro i x hx
        simp only [BiDict.set, BiDict.getElem?_insert] at hx ⊢
        split at hx
        next hi =>
          rw [if_pos (Option.some.inj hx), hi]
        next =>
          have hold := hhalf i x hx
          have hne : session ≠ x := by
            rintro rfl
            rw [hfresh] at hold
            cases hold
          rw [if_neg hne]
          exact hold
      have hnew' : ∀ x ∈ sessions, (d.set id session mask).mBackwardMap[x]? = none := by
        intro x hx
        have hne : session ≠ x := fun he => hsession (he ▸ hx)
        simp only [BiDict.set, BiDict.getElem?_insert, if_neg hne]
        exact hnew x (List.mem_cons_of_mem _ hx)
      obtain ⟨hids, hfor⟩ := ih (Nat.succ.inj hl) hsessions hnew' hhalf' hb
      have hid : id ∉ fences.map Prod.fst := by
        intro hm
        have hnone := hfor id hm
        simp [BiDict.set] at hnone
      refine ⟨List.nodup_cons.mpr ⟨hid, hids⟩, fun i hi => ?_⟩
      rcases List.mem_cons.mp hi with he | hi
      · rw [he]
        -- an old session would still lead back to the id
        cases hold : d.mForwardMap[id]? with
        | none => rfl
        | some old =>
          have hback := hhalf id old hold
          have hne : old ≠ session := by
            rintro rfl
            rw [hfresh] at hback
            cases hback
          have hnot : old ∉ sessions := by
            intro hm
            rw [hnew old (List.mem_cons_of_mem _ hm)] at hback
            cases hback
          have hlast : (setAll fences sessions (d.set id session mask)).mBackwardMap[old]? =
              some id := by
            rw [setAll_backward hnot]
            simp only [BiDict.set, BiDict.getElem?_insert, if_neg (Ne.symm hne)]
            exact hback
          have hfinal := (hb.inverse id old).mpr hlast
          rw [setAll_forward hid] at hfinal
          simp [BiDict.set] at hfinal
          exact absurd hfinal.symm hne
      · have hnone := hfor i hi
        have hne : id ≠ i := fun he => hid (he ▸ hi)
        simpa only [BiDict.set, BiDict.getElem?_insert, if_neg hne] using hnone

def removedBy (outs : List GeofenceOut) : List UInt32 :=
  outs.flatMap fun
    | .removeGeofences sessions => sessions
    | _ => []

/-- The loop of a removal, on inverse maps without session 0. -/
structure RemoveSpec (ids : List UInt32) (d : BiDict UInt32)
    (result : BiDict UInt32 × List UInt32 × List GeofenceOut) : Prop where
  bijective : result.1.Bijective
  forward : ∀ i : UInt32, result.1.mForwardMap[i]? = if i ∈ ids then none else d.mForwardMap[i]?
  sessions : ∀ x, x ∈ result.2.1 ↔ ∃ i ∈ ids, d.mForwardMap[i]? = some x
  outs : removedBy result.2.2 = []

theorem removeAll_spec (hd : d.Bijective)
    (hz : ∀ i x : UInt32, d.mForwardMap[i]? = some x → x ≠ 0) (ids : List UInt32) :
    RemoveSpec ids d (removeAll ids d) := by
  induction ids generalizing d with
  | nil => exact ⟨hd, by simp [removeAll], by simp [removeAll], rfl⟩
  | cons id ids ih =>
    unfold removeAll
    dsimp only
    split
    next hpos =>
      obtain ⟨session, hf⟩ := (BiDict.getSession_pos hz).mp hpos
      have hget : d.getSession id = session := by simp [BiDict.getSession, hf]
      have hback := (hd.inverse id session).mp hf
      have hfor : ∀ i : UInt32, (d.rmBySession session).mForwardMap[i]? =
          if id = i then none else d.mForwardMap[i]? := by
        intro i
        simp only [BiDict.rmBySession, BiDict.getElem?_erase, hback, Option.getD_some]
      have hrem := BiDict.rmBySession_bijective hd (BiDict.hasSession_iff.mpr ⟨id, hback⟩)
      obtain ⟨bij, forward, sessions, outs⟩ := ih hrem fun i x hx => by
        grind
      rw [hget]
      refine ⟨bij, fun i => ?_, fun x => ?_, outs⟩
      · dsimp only
        rw [forward, hfor]
        by_cases hi : i = id
        · simp [hi]
        · simp [hi, Ne.symm hi]
      · dsimp only
        rw [List.mem_cons, sessions]
        constructor
        · rintro (rfl | ⟨i, hi, hx⟩)
          · exact ⟨id, List.mem_cons_self, hf⟩
          · rw [hfor] at hx
            split at hx
            · cases hx
            · exact ⟨i, List.mem_cons_of_mem _ hi, hx⟩
        · rintro ⟨i, hi, hx⟩
          by_cases hii : id = i
          · grind
          · rcases List.mem_cons.mp hi with rfl | hi
            · exact absurd rfl hii
            · exact Or.inr ⟨i, hi, by rw [hfor, if_neg hii]; exact hx⟩
    next hpos =>
      have hf : d.mForwardMap[id]? = none := by
        rw [← Option.not_isSome_iff_eq_none, Option.isSome_iff_exists]
        exact fun hh => hpos ((BiDict.getSession_pos hz).mpr hh)
      obtain ⟨bij, forward, sessions, outs⟩ := ih hd hz
      refine ⟨bij, fun i => ?_, fun x => ?_, outs⟩
      · grind
      · dsimp only
        rw [sessions]
        constructor
        · grind
        simp [hf]

theorem modifyAll_spec (hd : d.Bijective)
    (hz : ∀ i x : UInt32, d.mForwardMap[i]? = some x → x ≠ 0) (hasMask : Bool)
    (fences : List Fence) :
    (modifyAll hasMask fences d).1.Bijective ∧
      ∀ i : UInt32, (modifyAll hasMask fences d).1.mForwardMap[i]? = d.mForwardMap[i]? := by
  induction fences generalizing d with
  | nil => exact ⟨hd, fun _ => rfl⟩
  | cons fence fences ih =>
    obtain ⟨id, mask⟩ := fence
    unfold modifyAll
    dsimp only
    split
    next hpos =>
      obtain ⟨session, hf⟩ := (BiDict.getSession_pos hz).mp hpos
      have hget : d.getSession id = session := by simp [BiDict.getSession, hf]
      have hfor : ∀ i : UInt32, (if hasMask then d.set id session mask else d).mForwardMap[i]? =
          d.mForwardMap[i]? := by
        intro i
        cases hasMask
        · rfl
        · simp only [if_true, BiDict.set, BiDict.getElem?_insert]
          split
          next hi => rw [← hi, hf]
          next => rfl
      have hb : (if hasMask then d.set id session mask else d).Bijective := by
        cases hasMask
        · exact hd
        · exact (BiDict.set_bijective_iff hd).mpr (Or.inr hf)
      rw [hget]
      obtain ⟨bij, forward⟩ := ih hb fun i x hx => hz i x (hfor i ▸ hx)
      exact ⟨bij, fun i => (forward i).trans (hfor i)⟩
    next => exact ih hd hz

/-- The sessions that have been passed to `LocationAPI::removeGeofences`. -/
def removed (s : GeofenceClient) : List UInt32 := removedBy s.log

/-- The maps are inverse to each other. After `locAPIRemoveAllGeofences` they are empty, and every
session that was added has been removed. -/
structure Coherent (s : GeofenceClient) : Prop where
  bijective : s.mGeofenceBiDict.Bijective
  cleared : s.cleared = true →
    s.mGeofenceBiDict.Empty ∧ ∀ session ∈ s.added, session ∈ s.removed

/-- `addGeofences` returns a session for each geofence, not 0 and not returned before. -/
def Fresh (s : GeofenceClient) : GeofenceOp → Prop
  | .add fences (some sessions) => sessions.length = fences.length ∧ sessions.Nodup ∧
    ∀ session ∈ sessions, session ≠ 0 ∧ session ∉ s.added
  | _ => True

/-- New geofences have new ids that differ, and all are removed only when each client id is also a
session of the dictionary. -/
def KeepsMaps (s : GeofenceClient) : GeofenceOp → Prop
  | .add fences (some _) => s.mLocationAPI = true → (fences.map Prod.fst).Nodup ∧
    ∀ id ∈ fences.map Prod.fst, s.mGeofenceBiDict.hasId id = false
  | .removeAll => ∀ id, s.mGeofenceBiDict.hasId id = true → s.mGeofenceBiDict.hasSession id = true
  | _ => True

/-- Every session that was added is in the dictionary or has been removed. -/
structure DictInv (s : GeofenceClient) : Prop where
  bijective : s.mGeofenceBiDict.Bijective
  nonzero : ∀ id session : UInt32, s.mGeofenceBiDict.mForwardMap[id]? = some session →
    session ≠ 0
  known : ∀ session, s.mGeofenceBiDict.hasSession session = true → session ∈ s.added
  gone : ∀ session ∈ s.added, s.mGeofenceBiDict.hasSession session = true ∨
    session ∈ s.removed
  ready : ∀ id session : UInt32, s.mGeofenceBiDict.mForwardMap[id]? = some session →
    s.mLocationAPI = true ∧ s.session = geofenceSessionId
  cleared : s.cleared = true → s.mGeofenceBiDict.Empty

variable {s : GeofenceClient}

theorem DictInv.coherent (hi : s.DictInv) : s.Coherent := by
  refine ⟨hi.bijective, fun hc => ⟨hi.cleared hc, fun session hs => ?_⟩⟩
  refine (hi.gone session hs).resolve_left fun hh => ?_
  obtain ⟨id, hid⟩ := hi.bijective.hasSession_iff.mp hh
  rw [hi.bijective.empty_iff.mp (hi.cleared hc) id] at hid
  cases hid

theorem removedBy_append (outs more : List GeofenceOut) :
    removedBy (outs ++ more) = removedBy outs ++ removedBy more := List.flatMap_append

theorem DictInv.unchanged (hi : s.DictInv) {t : GeofenceClient}
    (hb : t.mGeofenceBiDict.Bijective)
    (hf : ∀ id : UInt32, t.mGeofenceBiDict.mForwardMap[id]? = s.mGeofenceBiDict.mForwardMap[id]?)
    (ha : t.added = s.added) (hr : t.removed = s.removed) (hapi : t.mLocationAPI = s.mLocationAPI)
    (hses : t.session = s.session ∨ t.session = geofenceSessionId) (hc : t.cleared = false) :
    t.DictInv := by
  have hhas : ∀ session, t.mGeofenceBiDict.hasSession session = true ↔
      s.mGeofenceBiDict.hasSession session = true := by
    intro session
    rw [hb.hasSession_iff, hi.bijective.hasSession_iff]
    simp only [hf]
  refine ⟨hb, fun id session h => hi.nonzero id session (hf id ▸ h), fun session h => ?_,
    fun session h => ?_, fun id session h => ?_, fun h => ?_⟩
  · rw [ha]
    exact hi.known session ((hhas session).mp h)
  · rw [ha] at h
    rw [hr, hhas]
    exact hi.gone session h
  · obtain ⟨hready, hold⟩ := hi.ready id session (hf id ▸ h)
    grind
  · rw [hc] at h
    cases h

theorem locAPIRemoveGeofences_spec (hi : s.DictInv) (ids : List UInt32) :
    (s.locAPIRemoveGeofences ids).mGeofenceBiDict.Bijective ∧
      (∀ i : UInt32, (s.locAPIRemoveGeofences ids).mGeofenceBiDict.mForwardMap[i]? =
        if i ∈ ids then none else s.mGeofenceBiDict.mForwardMap[i]?) ∧
      (s.locAPIRemoveGeofences ids).added = s.added ∧
      (s.locAPIRemoveGeofences ids).mLocationAPI = s.mLocationAPI ∧
      (s.locAPIRemoveGeofences ids).session = s.session ∧
      ∀ session, session ∈ (s.locAPIRemoveGeofences ids).removed ↔ session ∈ s.removed ∨
        ∃ i ∈ ids, s.mGeofenceBiDict.mForwardMap[i]? = some session := by
  unfold locAPIRemoveGeofences
  split
  next =>
    obtain ⟨bij, forward, sessions, outs⟩ := removeAll_spec hi.bijective hi.nonzero ids
    generalize GeofenceClient.removeAll ids s.mGeofenceBiDict = r at bij forward sessions outs ⊢
    obtain ⟨d, found, calls⟩ := r
    dsimp only at bij forward sessions outs ⊢
    split
    next =>
      refine ⟨bij, forward, rfl, rfl, rfl, fun session => ?_⟩
      have hlog : ((({ s with mGeofenceBiDict := d, log := s.log ++ calls } :
          GeofenceClient).push .remove).out (.removeGeofences found)).removed =
            s.removed ++ found := by
        simp only [removed, push, out, removedBy_append, outs, List.append_nil]
        simp [removedBy]
      rw [hlog, List.mem_append, sessions]
    grind [removed, removedBy_append]
  next hnot =>
    have hempty : ∀ i : UInt32, s.mGeofenceBiDict.mForwardMap[i]? = none := by
      intro i
      cases hf : s.mGeofenceBiDict.mForwardMap[i]? with
      | none => rfl
      | some session =>
        obtain ⟨hapi, hses⟩ := hi.ready i session hf
        exact absurd (by simp [hapi, hses]) hnot
    refine ⟨hi.bijective, fun i => by simp [hempty], rfl, rfl, rfl, fun session => ?_⟩
    simp [hempty]

theorem DictInv.remove (hi : s.DictInv) (ids : List UInt32) (cleared : Bool)
    (hc : cleared = true → ∀ id : UInt32, s.mGeofenceBiDict.hasId id = true → id ∈ ids) :
    DictInv { s.locAPIRemoveGeofences ids with cleared } := by
  obtain ⟨hb, hf, ha, hapi, hses, hr⟩ := locAPIRemoveGeofences_spec hi ids
  have hold : ∀ {i session : UInt32},
      (s.locAPIRemoveGeofences ids).mGeofenceBiDict.mForwardMap[i]? = some session →
        s.mGeofenceBiDict.mForwardMap[i]? = some session := by
    intro i session hs
    rw [hf] at hs
    split at hs
    · cases hs
    · exact hs
  refine ⟨hb, fun i session h => hi.nonzero i session (hold h), fun session h => ?_,
    fun session h => ?_, fun i session h => ?_, fun h => ?_⟩
  · obtain ⟨i, hs⟩ := hb.hasSession_iff.mp h
    dsimp only
    rw [ha]
    exact hi.known session (hi.bijective.hasSession_iff.mpr ⟨i, hold hs⟩)
  · dsimp only at h ⊢
    rw [ha] at h
    change _ ∨ session ∈ (s.locAPIRemoveGeofences ids).removed
    rw [hr, hb.hasSession_iff]
    rcases hi.gone session h with hh | hh
    · obtain ⟨i, hs⟩ := hi.bijective.hasSession_iff.mp hh
      grind
    · exact Or.inr (Or.inl hh)
  · dsimp only
    rw [hapi, hses]
    exact hi.ready i session (hold h)
  · refine hb.empty_iff.mpr fun i => ?_
    rw [hf]
    split
    next => rfl
    next hm =>
      cases hs : s.mGeofenceBiDict.mForwardMap[i]? with
      | none => rfl
      | some session => exact absurd (hc h i (BiDict.hasId_iff.mpr ⟨session, hs⟩)) hm

theorem locAPIAddGeofences_spec (hapi : s.mLocationAPI = true) (fences : List Fence)
    (sessions : List UInt32) :
    (s.locAPIAddGeofences fences (some sessions)).1.mGeofenceBiDict =
        setAll fences sessions s.mGeofenceBiDict ∧
      (s.locAPIAddGeofences fences (some sessions)).1.added = s.added ++ sessions ∧
      (s.locAPIAddGeofences fences (some sessions)).1.removed = s.removed ∧
      (s.locAPIAddGeofences fences (some sessions)).1.mLocationAPI = true ∧
      (s.locAPIAddGeofences fences (some sessions)).1.session = geofenceSessionId := by
  unfold locAPIAddGeofences
  rw [if_pos hapi]
  dsimp only
  split
  next hses =>
    refine ⟨rfl, rfl, ?_, hapi, rfl⟩
    simp [removed, reset, push, out, removedBy]
  next hses =>
    refine ⟨rfl, rfl, ?_, hapi, Decidable.not_not.mp hses⟩
    simp [removed, push, out, removedBy]

theorem locAPIAddGeofences_none (fences : List Fence) (sessions : Option (List UInt32))
    (hnone : s.mLocationAPI = false ∨ sessions = none) :
    (s.locAPIAddGeofences fences sessions).1.mGeofenceBiDict = s.mGeofenceBiDict ∧
      (s.locAPIAddGeofences fences sessions).1.added = s.added ∧
      (s.locAPIAddGeofences fences sessions).1.removed = s.removed ∧
      (s.locAPIAddGeofences fences sessions).1.mLocationAPI = s.mLocationAPI ∧
      ((s.locAPIAddGeofences fences sessions).1.session = s.session ∨
        (s.locAPIAddGeofences fences sessions).1.session = geofenceSessionId) := by
  unfold locAPIAddGeofences
  split
  next hapi =>
    have hs : sessions = none := hnone.resolve_left (by simp [hapi])
    subst hs
    dsimp only
    split
    next => exact ⟨rfl, rfl, by simp [removed, reset, out, removedBy], rfl, Or.inr rfl⟩
    next => exact ⟨rfl, rfl, by simp [removed, out, removedBy], rfl, Or.inl rfl⟩
  next => exact ⟨rfl, rfl, rfl, rfl, Or.inl rfl⟩

theorem DictInv.backward_none (hi : s.DictInv) {session : UInt32} (hs : session ∉ s.added) :
    s.mGeofenceBiDict.mBackwardMap[session]? = none := by
  cases hb : s.mGeofenceBiDict.mBackwardMap[session]? with
  | none => rfl
  | some id => exact absurd (hi.known session (BiDict.hasSession_iff.mpr ⟨id, hb⟩)) hs

theorem hasId_false_iff {id : UInt32} : d.hasId id = false ↔ d.mForwardMap[id]? = none := by
  rw [← Bool.not_eq_true, BiDict.hasId_iff]
  cases d.mForwardMap[id]? <;> simp

theorem DictInv.add (hi : s.DictInv)
    (hapi : s.mLocationAPI = true) (fresh : Fresh s (.add fences (some sessions)))
    (keeps : KeepsMaps s (.add fences (some sessions))) :
    DictInv { (s.locAPIAddGeofences fences (some sessions)).1 with cleared := false } := by
  obtain ⟨hl, hnodup, hnew⟩ := fresh
  obtain ⟨hids, hfor⟩ := keeps hapi
  obtain ⟨hd, ha, hr, hapi', hses⟩ := locAPIAddGeofences_spec hapi fences sessions
  have hback : ∀ x ∈ sessions, s.mGeofenceBiDict.mBackwardMap[x]? = none :=
    fun x hx => hi.backward_none (hnew x hx).2
  have hb := setAll_bijective hi.bijective hnodup hback hids
    fun i him => hasId_false_iff.mp (hfor i him)
  have hhas : ∀ x, (s.locAPIAddGeofences fences (some sessions)).1.mGeofenceBiDict.hasSession x =
      true ↔ x ∈ sessions ∨ s.mGeofenceBiDict.hasSession x = true := by
    intro x
    rw [hd, setAll_hasSession hl]
  refine ⟨by rw [hd]; exact hb, fun i x hx => ?_, fun x hx => ?_, fun x hx => ?_,
    fun _ _ _ => ⟨hapi', hses⟩, fun hc => by cases hc⟩
  · dsimp only at hx
    rw [hd] at hx
    rcases setAll_new hx with hold | hmem
    · exact hi.nonzero i x hold
    · exact (hnew x hmem).1
  · dsimp only
    rw [ha, List.mem_append]
    rcases (hhas x).mp hx with hmem | hold
    · exact Or.inr hmem
    · exact Or.inl (hi.known x hold)
  · dsimp only at hx
    rw [ha, List.mem_append] at hx
    change (s.locAPIAddGeofences fences (some sessions)).1.mGeofenceBiDict.hasSession x = true ∨
      x ∈ (s.locAPIAddGeofences fences (some sessions)).1.removed
    rw [hhas, hr]
    rcases hx with hold | hmem
    · rcases hi.gone x hold with hh | hh
      · exact Or.inl (Or.inr hh)
      · exact Or.inr hh
    · exact Or.inl (Or.inl hmem)

/-- A modification, a pause or a resumption changes the masks only. -/
structure MasksOnly (s t : GeofenceClient) : Prop where
  bijective : t.mGeofenceBiDict.Bijective
  forward : ∀ id : UInt32,
    t.mGeofenceBiDict.mForwardMap[id]? = s.mGeofenceBiDict.mForwardMap[id]?
  added : t.added = s.added
  removed : t.removed = s.removed
  api : t.mLocationAPI = s.mLocationAPI
  session : t.session = s.session

theorem locAPIModifyGeofences_spec (hi : s.DictInv) (fences : List Fence) :
    s.MasksOnly (s.locAPIModifyGeofences fences) := by
  unfold locAPIModifyGeofences
  split
  next =>
    obtain ⟨hb, hf⟩ := modifyAll_spec hi.bijective hi.nonzero true fences
    generalize modifyAll true fences s.mGeofenceBiDict = r at hb hf ⊢
    obtain ⟨d, sessions⟩ := r
    dsimp only at hb hf ⊢
    split
    next => exact ⟨hb, hf, rfl, by simp [GeofenceClient.removed, push, out, removedBy], rfl, rfl⟩
    next => exact ⟨hb, hf, rfl, rfl, rfl, rfl⟩
  next => exact ⟨hi.bijective, fun _ => rfl, rfl, rfl, rfl, rfl⟩

theorem locAPIResumeGeofences_spec (hi : s.DictInv) (fences : List Fence) (hasMask : Bool) :
    s.MasksOnly (s.locAPIResumeGeofences fences hasMask) := by
  unfold locAPIResumeGeofences
  split
  next =>
    obtain ⟨hb, hf⟩ := modifyAll_spec hi.bijective hi.nonzero hasMask fences
    generalize modifyAll hasMask fences s.mGeofenceBiDict = r at hb hf ⊢
    obtain ⟨d, sessions⟩ := r
    dsimp only at hb hf ⊢
    split
    next => exact ⟨hb, hf, rfl, by simp [GeofenceClient.removed, push, out, removedBy], rfl, rfl⟩
    next => exact ⟨hb, hf, rfl, rfl, rfl, rfl⟩
  next => exact ⟨hi.bijective, fun _ => rfl, rfl, rfl, rfl, rfl⟩

theorem locAPIPauseGeofences_spec (hi : s.DictInv) (ids : List UInt32) :
    s.MasksOnly (s.locAPIPauseGeofences ids) := by
  unfold locAPIPauseGeofences
  split
  next =>
    dsimp only
    split
    next =>
      exact ⟨hi.bijective, fun _ => rfl, rfl,
        by simp [GeofenceClient.removed, push, out, removedBy], rfl, rfl⟩
    next => exact ⟨hi.bijective, fun _ => rfl, rfl, rfl, rfl, rfl⟩
  next => exact ⟨hi.bijective, fun _ => rfl, rfl, rfl, rfl, rfl⟩

theorem DictInv.masksOnly (hi : s.DictInv) {t : GeofenceClient} (h : s.MasksOnly t) :
    DictInv { t with cleared := false } :=
  hi.unchanged (t := { t with cleared := false }) h.bijective h.forward h.added h.removed h.api
    (Or.inl h.session) rfl

theorem step_dictInv (hi : s.DictInv) {op : GeofenceOp} (fresh : Fresh s op)
    (keeps : KeepsMaps s op) : ∃ t, step s op = some t ∧ DictInv t := by
  cases op with
  | add fences sessions =>
    refine ⟨_, rfl, ?_⟩
    by_cases hnone : s.mLocationAPI = false ∨ sessions = none
    · obtain ⟨hd, ha, hr, hapi, hses⟩ := locAPIAddGeofences_none fences sessions hnone
      exact hi.unchanged (t := { (s.locAPIAddGeofences fences sessions).1 with cleared := false })
        (by dsimp only; rw [hd]; exact hi.bijective) (fun id => by dsimp only; rw [hd]) ha hr hapi
        hses rfl
    · push Not at hnone
      obtain ⟨hapi, hsome⟩ := hnone
      obtain ⟨sessions, rfl⟩ := Option.ne_none_iff_exists'.mp hsome
      exact hi.add (by simpa using hapi) fresh keeps
  | remove ids => exact ⟨_, rfl, hi.remove ids false fun hc => by cases hc⟩
  | modify fences => exact ⟨_, rfl, hi.masksOnly (locAPIModifyGeofences_spec hi fences)⟩
  | pause ids => exact ⟨_, rfl, hi.masksOnly (locAPIPauseGeofences_spec hi ids)⟩
  | resume fences hasMask =>
    exact ⟨_, rfl, hi.masksOnly (locAPIResumeGeofences_spec hi fences hasMask)⟩
  | removeAll =>
    refine ⟨_, rfl, hi.remove _ true fun _ id hid => ?_⟩
    exact BiDict.mem_getAllSessions.mpr (keeps id hid)

theorem step_breaks (hi : s.DictInv) {op : GeofenceOp} (fresh : Fresh s op)
    (hnot : ¬KeepsMaps s op) : ∃ t, step s op = some t ∧ ¬Coherent t := by
  cases op with
  | add fences sessions =>
    refine ⟨_, rfl, fun hc => hnot ?_⟩
    cases sessions with
    | none => trivial
    | some sessions =>
      intro hapi
      obtain ⟨hl, hnodup, hnew⟩ := fresh
      have hb := hc.bijective
      dsimp only at hb
      rw [(locAPIAddGeofences_spec hapi fences sessions).1] at hb
      obtain ⟨hids, hfor⟩ := ids_of_setAll_bijective hl hnodup
        (fun x hx => hi.backward_none (hnew x hx).2)
        (fun i x hx => (hi.bijective.inverse i x).mp hx) hb
      exact ⟨hids, fun i him => hasId_false_iff.mpr (hfor i him)⟩
  | removeAll =>
    refine ⟨_, rfl, fun hc => hnot fun id hid => ?_⟩
    by_contra hses
    obtain ⟨session, hs⟩ := BiDict.hasId_iff.mp hid
    obtain ⟨hb, hf, -⟩ := locAPIRemoveGeofences_spec hi s.mGeofenceBiDict.getAllSessions
    have hstays := hf id
    rw [if_neg fun hm => hses (BiDict.mem_getAllSessions.mp hm), hs] at hstays
    have hnone := hb.empty_iff.mp (hc.cleared rfl).1 id
    rw [hstays] at hnone
    cases hnone
  | remove ids => exact absurd trivial hnot
  | modify fences => exact absurd trivial hnot
  | pause ids => exact absurd trivial hnot
  | resume fences hasMask => exact absurd trivial hnot

theorem new_dictInv (mLocationAPI : Bool) : DictInv { mLocationAPI } := by
  refine ⟨BiDict.empty_bijective, fun id session h => ?_, fun session h => ?_,
    fun session h => (by cases h), fun id session h => ?_, fun h => (by cases h)⟩
  · simp at h
  · simp [BiDict.hasSession] at h
  · simp at h

/-- The dictionary stays a bijection, and is empty after all geofences were removed, exactly in the
runs in which each call meets the condition. -/
theorem coherent_iff_keepsMaps (mLocationAPI : Bool) (ops : List GeofenceOp)
    (fresh : OpsMeet step Fresh { mLocationAPI } ops) :
    Always step Coherent { mLocationAPI } ops ↔ OpsMeet step KeepsMaps { mLocationAPI } ops := by
  have keeps : ∀ (s : GeofenceClient) (op : GeofenceOp), DictInv s → Fresh s op → KeepsMaps s op →
      ∃ t, step s op = some t ∧ DictInv t := fun _ _ hi hfresh hkeeps =>
    step_dictInv hi hfresh hkeeps
  have breaks : ∀ (s : GeofenceClient) (op : GeofenceOp), DictInv s → Fresh s op →
      ¬KeepsMaps s op → ∃ t, step s op = some t ∧ ¬Coherent t := fun _ _ hi hfresh hnot =>
    step_breaks hi hfresh hnot
  exact always_iff (fun _ hi => hi.coherent) keeps breaks (new_dictInv mLocationAPI) fresh

instance (s : GeofenceClient) : (op : GeofenceOp) → Decidable (Fresh s op)
  | .add fences (some sessions) =>
    -- by the list, not by all sessions there are
    have := List.decidableBAll (fun session => session ≠ 0 ∧ session ∉ s.added) sessions
    inferInstanceAs (Decidable (sessions.length = fences.length ∧ sessions.Nodup ∧
      ∀ session ∈ sessions, session ≠ 0 ∧ session ∉ s.added))
  | .add _ none => isTrue trivial
  | .remove _ => isTrue trivial
  | .modify _ => isTrue trivial
  | .pause _ => isTrue trivial
  | .resume _ _ => isTrue trivial
  | .removeAll => isTrue trivial

/-- One geofence, whose client id is also its session. -/
def sameIdOps : List GeofenceOp := [.add [(10, 3)] (some [10]), .removeAll]

theorem sameIdOps_coherent :
    OpsMeet step Fresh { mLocationAPI := true } sameIdOps ∧
      OpsMeet step KeepsMaps { mLocationAPI := true } sameIdOps ∧
      Always step Coherent { mLocationAPI := true } sameIdOps := by
  have fresh : OpsMeet step Fresh { mLocationAPI := true } sameIdOps := by decide
  have keeps : OpsMeet step KeepsMaps { mLocationAPI := true } sameIdOps := by
    refine ⟨fun _ => ⟨by decide, fun id hid => ?_⟩, fun t ht => ⟨?_, fun _ _ => trivial⟩⟩
    · rw [List.mem_singleton.mp hid]
      decide
    cases Option.some.inj ht
    intro id hid
    change (({} : BiDict UInt32).set 10 10 3).hasId id = true at hid
    change (({} : BiDict UInt32).set 10 10 3).hasSession id = true
    obtain ⟨session, hs⟩ := BiDict.hasId_iff.mp hid
    simp only [BiDict.set, BiDict.getElem?_insert] at hs
    split at hs
    next he => exact BiDict.hasSession_set.mpr (Or.inl he.symm)
    next => simp at hs
  exact ⟨fresh, keeps, (coherent_iff_keepsMaps true sameIdOps fresh).mpr keeps⟩

/-- One geofence, whose client id is 1 and whose session is 10. -/
def oneFenceOps : List GeofenceOp := [.add [(1, 3)] (some [10]), .removeAll]

/-- `locAPIRemoveAllGeofences` finds no geofence with client id 10. -/
theorem removeAll_leaves_fence :
    ∃ s, OpsMeet step Fresh { mLocationAPI := true } oneFenceOps ∧
      runOps step { mLocationAPI := true } oneFenceOps = some s ∧ s.cleared = true ∧
      s.mGeofenceBiDict.getSession 1 = 10 ∧ (10 : UInt32) ∈ s.added ∧ (10 : UInt32) ∉ s.removed :=
  ⟨_, by decide, rfl, rfl, by decide, by decide, by decide⟩

end GeofenceClient

end DeviceHal.Gps
