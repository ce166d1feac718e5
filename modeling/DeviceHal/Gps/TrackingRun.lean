import DeviceHal.Gps.Tracking

namespace DeviceHal.Gps

open Lib

namespace GnssAdapter

variable {engine : Engine} {s t : GnssAdapter}

variable {client : LocationAPI}

variable {id : UInt32}

theorem isTrackingSession_iff : s.isTrackingSession client id = true ↔
      ∃ saved, s.mTrackingSessions.find? ⟨client, id⟩ = some saved :=
  Option.isSome_iff_exists

variable {key : LocationSessionKey} {saved : LocationOptions}

theorem mem_of_find?
    (hf : s.mTrackingSessions.find? key = some saved) : (key, saved) ∈ s.mTrackingSessions.entries :=
  OrderedMap.find?_eq_some_iff.mp hf

theorem reportResponse_same (client : LocationAPI) (err : LocationError) (id : UInt32) :
    (s.reportResponse client err id).mTrackingSessions = s.mTrackingSessions ∧
      (s.reportResponse client err id).active = s.active ∧
      (s.reportResponse client err id).running = s.running := by
  unfold reportResponse
  split <;> exact ⟨rfl, rfl, rfl⟩

theorem reportResponse_onMinimal {err : LocationError} :
    (s.reportResponse client err id).OnMinimal ↔ s.OnMinimal := by
  obtain ⟨hs, ha, hr⟩ := @reportResponse_same s client err id
  exact onMinimal_congr hs ha hr

variable {options : LocationOptions}

theorem sized_insert (sized : ∀ session ∈ s.mTrackingSessions.entries, session.2.size ≠ 0)
    (hsize : options.size ≠ 0) :
    ∀ session ∈ (s.mTrackingSessions.insert key options).entries, session.2.size ≠ 0 := by
  intro session hm
  rcases OrderedMap.mem_insert.mp hm with rfl | ⟨-, hm⟩
  · exact hsize
  · exact sized session hm

theorem onMinimal_saved (hs : t.mTrackingSessions = s.mTrackingSessions.insert key options)
    (ha : t.active = some options) (hr : t.running = true)
    (hle : ∀ other ∈ s.mTrackingSessions.entries, other.1 ≠ key →
      options.minInterval ≤ other.2.minInterval) : t.OnMinimal := by
  have hmem : (key, options) ∈ t.mTrackingSessions.entries := by
    rw [hs]
    exact OrderedMap.mem_insert.mpr (Or.inl rfl)
  refine (onMinimal_iff hr (List.ne_nil_of_mem hmem) ha fun other hother => ?_).mpr
    ⟨(key, options), hmem, rfl⟩
  rw [hs] at hother
  rcases OrderedMap.mem_insert.mp hother with rfl | ⟨hne, hm⟩
  · exact UInt32.le_refl _
  · exact hle other hm hne

theorem onMinimal_saved_iff (hi : s.TrackInv)
    (hs : t.mTrackingSessions = s.mTrackingSessions.insert key options)
    (ha : t.active = s.active) (hr : t.running = s.running)
    {least : TrackingSession} (hleast : least ∈ s.mTrackingSessions.entries)
    (hle : least.2.minInterval ≤ options.minInterval) :
    t.OnMinimal ↔ s.active = some options ∨ s.ActiveBeside key := by
  have hne := List.ne_nil_of_mem hleast
  obtain ⟨session, hsession, hact, hmin⟩ := hi.onMinimal.minimal hne
  have hmem : (key, options) ∈ t.mTrackingSessions.entries := by
    rw [hs]
    exact OrderedMap.mem_insert.mpr (Or.inl rfl)
  have hlow : ∀ other ∈ t.mTrackingSessions.entries,
      session.2.minInterval ≤ other.2.minInterval := by
    intro other hother
    rw [hs] at hother
    rcases OrderedMap.mem_insert.mp hother with rfl | ⟨-, hm⟩
    · exact UInt32.le_trans (hmin least hleast) hle
    · exact hmin other hm
  rw [onMinimal_iff (hr.trans (hi.onMinimal.running.mpr hne)) (List.ne_nil_of_mem hmem)
    (ha.trans hact) hlow, hact, hs]
  constructor
  · rintro ⟨other, hother, he⟩
    rcases OrderedMap.mem_insert.mp hother with rfl | ⟨hk, hm⟩
    · exact Or.inl (congrArg some he)
    · exact Or.inr ⟨other, hm, hk, hact.trans (congrArg some he)⟩
  · rintro (he | ⟨other, hm, hk, ho⟩)
    · grind
    · exact ⟨other, OrderedMap.mem_insert.mpr (Or.inr ⟨hk, hm⟩),
        Option.some.inj (hact.symm.trans ho)⟩

theorem others_least (hi : s.TrackInv) (hf : s.mTrackingSessions.find? key = some saved)
    (hlen : s.mTrackingSessions.entries.length ≠ 1) :
    ∃ least ∈ s.mTrackingSessions.entries, least.1 ≠ key ∧
      smallestIntervalOptions (· ≠ key) s.mTrackingSessions.entries = least.2 ∧
      ∀ other ∈ s.mTrackingSessions.entries, other.1 ≠ key →
        least.2.minInterval ≤ other.2.minInterval := by
  have hmem := mem_of_find? hf
  have hother : ∃ session ∈ s.mTrackingSessions.entries, decide (session.1 ≠ key) = true := by
    by_contra hnone
    push Not at hnone
    have hall : ∀ session ∈ s.mTrackingSessions.entries, session.1 = key := by
      intro session hm
      simpa using hnone session hm
    have hsorted := s.mTrackingSessions.sorted
    cases hl : s.mTrackingSessions.entries with
    | nil =>
      rw [hl] at hmem
      cases hmem
    | cons a rest =>
      cases rest with
      | nil => exact hlen (by rw [hl]; rfl)
      | cons b rest =>
        grind
  obtain ⟨least, hm, hl, he, hle⟩ := @smallest_spec (· ≠ key) _ hi.sized hother
  grind

theorem startTracking_onMinimal (succeeds : EngineSucceeds engine) (hi : s.TrackInv)
    (client : LocationAPI) (id : UInt32) (options : LocationOptions) :
    (s.msgStartTracking engine client id options).OnMinimal ↔
      KeepsActive s (.startTracking client id options) := by
  unfold msgStartTracking KeepsActive
  dsimp only
  split
  next hcb =>
    refine ⟨fun _ hhas => ?_, fun _ => reportResponse_onMinimal.mpr hi.onMinimal⟩
    simp_all
  next hcb =>
  split
  next hsize => exact ⟨fun _ _ h => absurd hsize h, fun _ => reportResponse_onMinimal.mpr hi.onMinimal⟩
  next hsize =>
  have hhas : (s.hasTrackingCallback client || s.hasMeasurementsCallback client) = true := by
    rw [← Bool.not_or, Bool.not_eq_true', Bool.not_eq_false] at hcb
    exact hcb
  unfold startTrackingMultiplex
  split
  next hnil =>
    have hempty : s.mTrackingSessions.entries = [] := List.isEmpty_iff.mp hnil
    rw [startTracking_eq succeeds]
    dsimp only
    rw [if_pos rfl, reportResponse_onMinimal]
    have hmin : (((s.started options).saveTrackingSession client id options)).OnMinimal :=
      onMinimal_saved (s := s) rfl rfl rfl fun other hm => by
        rw [hempty] at hm
        cases hm
    refine ⟨fun _ _ _ htrack => ?_, fun _ => hmin⟩
    obtain ⟨saved, hf⟩ := isTrackingSession_iff.mp htrack
    have hm := mem_of_find? hf
    rw [hempty] at hm
    cases hm
  next hsome =>
  have hne : s.mTrackingSessions.entries ≠ [] := fun he => hsome (List.isEmpty_iff.mpr he)
  obtain ⟨first, hfirst⟩ := List.exists_mem_of_ne_nil _ hne
  obtain ⟨least, hleast, -, hsmall, hle⟩ := @smallest_spec (fun _ => true) _ hi.sized
    ⟨first, hfirst, rfl⟩
  dsimp only
  rw [hsmall]
  split
  next hlt =>
    rw [startTracking_eq succeeds]
    dsimp only
    rw [if_pos rfl, reportResponse_onMinimal]
    refine ⟨fun _ _ _ _ => Or.inl hlt, fun _ => ?_⟩
    exact onMinimal_saved (s := s) rfl rfl rfl fun other hm _ =>
      UInt32.le_trans (UInt32.le_of_lt hlt) (hle other hm rfl)
  next hnot =>
    dsimp only
    rw [if_pos rfl, reportResponse_onMinimal,
      onMinimal_saved_iff (t := s.saveTrackingSession client id options) hi rfl rfl rfl hleast (UInt32.not_lt.mp hnot)]
    constructor
    · exact fun h _ _ _ => Or.inr h
    · intro h
      by_cases htrack : s.isTrackingSession client id = true
      · exact (h hhas hsize htrack).resolve_left hnot
      · obtain ⟨session, hm, hact, -⟩ := hi.onMinimal.minimal hne
        refine Or.inr ⟨session, hm, fun hk => htrack ?_, hact⟩
        exact isTrackingSession_iff.mpr
          ⟨session.2, OrderedMap.find?_eq_some_iff.mpr (hk ▸ hm)⟩

theorem updateTrackingMultiplex_of_some
    {options saved : LocationOptions} (hlen : s.mTrackingSessions.entries.length ≠ 1)
    (hf : s.mTrackingSessions.find? ⟨client, id⟩ = some saved) :
    s.updateTrackingMultiplex engine client id options =
      let smallest := smallestIntervalOptions (· ≠ ⟨client, id⟩) s.mTrackingSessions.entries
      if options.minInterval < smallest.minInterval then s.startTracking engine options
      else if saved.minInterval < smallest.minInterval then s.startTracking engine smallest
      else (s, .success) := by
  unfold updateTrackingMultiplex
  rw [if_neg hlen]
  dsimp only
  rw [hf]

theorem stopTrackingMultiplex_of_some (hlen : s.mTrackingSessions.entries.length ≠ 1)
    (hf : s.mTrackingSessions.find? ⟨client, id⟩ = some saved) :
    s.stopTrackingMultiplex engine client id =
      let smallest := smallestIntervalOptions (· ≠ ⟨client, id⟩) s.mTrackingSessions.entries
      if saved.minInterval < smallest.minInterval then s.startTracking engine smallest
      else (s, .success) := by
  unfold stopTrackingMultiplex
  rw [if_neg hlen]
  dsimp only
  rw [hf]

theorem updateTracking_onMinimal (succeeds : EngineSucceeds engine) (hi : s.TrackInv)
    (client : LocationAPI) (id : UInt32) (options : LocationOptions) :
    (s.msgUpdateTracking engine client id options).OnMinimal ↔
      KeepsActive s (.updateTracking client id options) := by
  unfold msgUpdateTracking KeepsActive
  dsimp only
  split
  next htrack =>
    obtain ⟨saved, hf⟩ := isTrackingSession_iff.mp htrack
    have hmem := mem_of_find? hf
    split
    next hsize => exact ⟨fun _ h => absurd hsize h, fun _ => reportResponse_onMinimal.mpr hi.onMinimal⟩
    next hsize =>
    by_cases hlen : s.mTrackingSessions.entries.length = 1
    · unfold updateTrackingMultiplex
      rw [if_pos hlen, startTracking_eq succeeds]
      dsimp only
      rw [if_pos rfl, reportResponse_onMinimal]
      refine ⟨fun _ _ _ _ => Or.inl hlen, fun _ => ?_⟩
      refine onMinimal_saved (s := s) rfl rfl rfl fun other hm hk => ?_
      obtain ⟨only, he⟩ := List.length_eq_one_iff.mp hlen
      grind
    obtain ⟨least, hleast, hk, hsmall, hle⟩ := others_least hi hf hlen
    rw [updateTrackingMultiplex_of_some hlen hf, hsmall]
    dsimp only
    by_cases hlt : options.minInterval < least.2.minInterval
    · rw [if_pos hlt, startTracking_eq succeeds]
      dsimp only
      rw [if_pos rfl, reportResponse_onMinimal]
      refine ⟨fun _ _ _ _ => Or.inr (Or.inl hlt), fun _ => ?_⟩
      exact onMinimal_saved (s := s) rfl rfl rfl fun other hm hne =>
        UInt32.le_trans (UInt32.le_of_lt hlt) (hle other hm hne)
    rw [if_neg hlt]
    by_cases hlt' : saved.minInterval < least.2.minInterval
    · rw [if_pos hlt', startTracking_eq succeeds]
      dsimp only
      rw [if_pos rfl, reportResponse_onMinimal]
      refine ⟨fun _ _ old ho => Or.inr (Or.inr (Or.inl ?_)), fun _ => ?_⟩
      · exact Option.some.inj (hf.symm.trans ho) ▸ hlt'
      have hstays : least ∈ (s.mTrackingSessions.insert ⟨client, id⟩ options).entries :=
        OrderedMap.mem_insert.mpr (Or.inr ⟨hk, hleast⟩)
      refine (onMinimal_iff rfl (List.ne_nil_of_mem hstays) rfl fun other hother => ?_).mpr
        ⟨least, hstays, rfl⟩
      rcases OrderedMap.mem_insert.mp hother with rfl | ⟨hne, hm⟩
      · exact UInt32.not_lt.mp hlt
      · exact hle other hm hne
    · rw [if_neg hlt']
      dsimp only
      rw [if_pos rfl, reportResponse_onMinimal,
        onMinimal_saved_iff (t := s.saveTrackingSession client id options) hi rfl rfl rfl hleast (UInt32.not_lt.mp hlt)]
      grind
  next htrack =>
    refine ⟨fun _ _ saved hf => absurd ?_ htrack, fun _ => hi.onMinimal⟩
    exact isTrackingSession_iff.mpr ⟨saved, hf⟩

theorem stopTracking_onMinimal (succeeds : EngineSucceeds engine) (hi : s.TrackInv)
    (client : LocationAPI) (id : UInt32) :
    (s.msgStopTracking engine client id).OnMinimal ↔ KeepsActive s (.stopTracking client id) := by
  unfold msgStopTracking KeepsActive
  dsimp only
  split
  next htrack =>
    obtain ⟨saved, hf⟩ := isTrackingSession_iff.mp htrack
    have hmem := mem_of_find? hf
    by_cases hlen : s.mTrackingSessions.entries.length = 1
    · unfold stopTrackingMultiplex
      rw [if_pos hlen, stopTracking_eq succeeds]
      dsimp only
      rw [if_pos rfl, reportResponse_onMinimal]
      refine ⟨fun _ _ _ => Or.inl hlen, fun _ => ?_⟩
      obtain ⟨only, he⟩ := List.length_eq_one_iff.mp hlen
      rw [he] at hmem
      have hnil : (s.mTrackingSessions.erase ⟨client, id⟩).entries = [] := by
        simp [OrderedMap.erase, he, ← List.mem_singleton.mp hmem]
      exact ⟨⟨fun h => (by cases h), fun h => absurd hnil h⟩, fun h => absurd hnil h⟩
    obtain ⟨least, hleast, hk, hsmall, hle⟩ := others_least hi hf hlen
    have hstays : least ∈ (s.mTrackingSessions.erase ⟨client, id⟩).entries :=
      OrderedMap.mem_erase.mpr ⟨hleast, hk⟩
    rw [stopTrackingMultiplex_of_some hlen hf, hsmall]
    dsimp only
    by_cases hlt : saved.minInterval < least.2.minInterval
    · rw [if_pos hlt, startTracking_eq succeeds]
      dsimp only
      rw [if_pos rfl, reportResponse_onMinimal]
      refine ⟨fun _ old ho => Or.inr (Or.inl ?_), fun _ => ?_⟩
      · exact Option.some.inj (hf.symm.trans ho) ▸ hlt
      refine (onMinimal_iff rfl (List.ne_nil_of_mem hstays) rfl fun other hother => ?_).mpr
        ⟨least, hstays, rfl⟩
      obtain ⟨hm, hne⟩ := OrderedMap.mem_erase.mp hother
      exact hle other hm hne
    · rw [if_neg hlt]
      dsimp only
      rw [if_pos rfl, reportResponse_onMinimal]
      have hne := List.ne_nil_of_mem hleast
      obtain ⟨session, -, hact, hmin⟩ := hi.onMinimal.minimal hne
      have hlow : ∀ other ∈ (s.mTrackingSessions.erase ⟨client, id⟩).entries,
          session.2.minInterval ≤ other.2.minInterval :=
        fun other hother => hmin other (OrderedMap.mem_erase.mp hother).1
      rw [onMinimal_iff (t := s.eraseTrackingSession client id) (hi.onMinimal.running.mpr hne)
        (List.ne_nil_of_mem hstays) hact hlow]
      constructor
      · rintro ⟨other, hother, he⟩ _ _
        obtain ⟨hm, hkey⟩ := OrderedMap.mem_erase.mp hother
        exact Or.inr (Or.inr ⟨other, hm, hkey, hact.trans (congrArg some he)⟩)
      · intro h
        obtain ⟨other, hm, hkey, ho⟩ := ((h saved hf).resolve_left hlen).resolve_left hlt
        exact ⟨other, OrderedMap.mem_erase.mpr ⟨hm, hkey⟩, Option.some.inj (hact.symm.trans ho)⟩
  next htrack =>
    refine ⟨fun _ saved hf => absurd ?_ htrack, fun _ => hi.onMinimal⟩
    exact isTrackingSession_iff.mpr ⟨saved, hf⟩

end GnssAdapter

end DeviceHal.Gps
