import DeviceHal.Gps.SystemStatus

namespace DeviceHal.Gps

open Lib

/-- The fields of a sentence: the texts between the commas before the checksum. -/
def sentenceFields (data : List Char) : List (List Char) :=
  (data.takeWhile (· ≠ '*')).splitOn ','

def checksumText (data : List Char) : List Char := (data.dropWhile (· ≠ '*')).tail

/-- The texts that end with a comma or with the first asterisk. -/
def cutTexts (data : List Char) : List (List Char) :=
  if '*' ∈ data then sentenceFields data ++ ((checksumText data).splitOn ',').dropLast else []

/-- A debug sentence of the type with its checksum and all the fields that its parser asks for. -/
def NmeaString.Complete (nmea : NmeaString) (t : NmeaType) : Prop :=
  locNmeaIsDebug nmea.data nmea.len = true ∧ nmeaType nmea.data = some t ∧ '*' ∈ nmea.data ∧
    requiredFields t ≤ (sentenceFields nmea.data).length

theorem tokenize_eq_splitOn (s : List Char) {str : List Char} (hstr : ',' ∉ str) :
    tokenize str s = ((str ++ s).splitOn ',').dropLast := by
  induction s generalizing str with
  | nil => simp [tokenize, List.splitOn_eq_singleton hstr]
  | cons c s ih =>
    by_cases hc : c = ','
    · subst hc
      have hrest := @ih [] (by simp)
      rw [List.splitOn_append_cons_self_of_not_mem hstr,
        List.dropLast_cons_of_ne_nil (List.splitOn_ne_nil _ _)]
      simpa [tokenize] using hrest
    grind [tokenize]

theorem nmeaFields_eq_cutTexts {data : List Char} {len : Nat} (hdebug : locNmeaIsDebug data len) :
    nmeaFields data len = cutTexts data := by
  unfold nmeaFields cutTexts
  rw [hdebug, if_neg (by simp)]
  split
  next =>
    rw [tokenize_eq_splitOn _ (by simp), List.nil_append, List.splitOn_append_cons_self,
      List.dropLast_append_of_ne_nil (List.splitOn_ne_nil _ _)]
    rfl
  next => rfl

theorem dropLast_splitOn_eq_nil_iff (text : List Char) :
    (text.splitOn ',').dropLast = [] ↔ ',' ∉ text := by
  constructor
  · intro hnil hmem
    obtain ⟨before, after, rfl⟩ := List.append_of_mem hmem
    rw [List.splitOn_append_cons_self, List.dropLast_append_of_ne_nil (List.splitOn_ne_nil _ _)]
      at hnil
    exact List.splitOn_ne_nil _ _ (List.append_eq_nil_iff.mp hnil).1
  · intro hno
    rw [List.splitOn_eq_singleton hno]
    rfl

theorem cutTexts_eq_iff {data : List Char} (hstar : '*' ∈ data) :
    cutTexts data = sentenceFields data ↔ ',' ∉ checksumText data := by
  rw [cutTexts, if_pos hstar, ← dropLast_splitOn_eq_nil_iff]
  exact List.append_right_eq_self

theorem NmeaString.take_data {nmea : NmeaString} (hdebug : locNmeaIsDebug nmea.data nmea.len) :
    nmea.data.take debugNmeaMaxSize = nmea.data := by
  simp only [locNmeaIsDebug, Bool.and_eq_true, decide_eq_true_eq] at hdebug
  exact List.take_of_length_le (nmea.data_le.trans hdebug.1.2)

section Histories

variable {Time Info Cache : Type}

/-- The history ends with an equal report, and one that was reported at this time. -/
def EndsWith (equals : Info → Info → Bool) (report : List (SystemStatusItem Time Info))
    (info : Info) (now : Time) : Prop :=
  ∃ back, report.getLast? = some back ∧ equals back.info info = true ∧ back.mUtcReported = now

theorem setIteminReport_unchanged_iff {equals : Info → Info → Bool}
    {report : List (SystemStatusItem Time Info)} {info : Info} {now : Time} :
    setIteminReport equals report info now = (false, report) ↔
      EndsWith equals report info now := by
  unfold setIteminReport EndsWith
  cases hback : report.getLast? with
  | none => simp
  | some back =>
    have hsplit : report = report.dropLast ++ [back] :=
      (List.dropLast_append_getLast? back hback).symm
    cases heq : equals back.info info with
    | false => simp [heq]
    | true =>
      simp only [if_true, Prod.mk.injEq, true_and, Option.some.injEq, exists_eq_left', heq]
      conv_lhs => rw [hsplit]
      rw [List.dropLast_concat, List.append_right_inj]
      cases back
      simp [eq_comm]

theorem stored_unchanged_iff {Report : Type} (put : Report → Cache) (hput : Function.Injective put)
    (stored : Bool × Report) (report : Report) :
    (stored.1, put stored.2) = (false, put report) ↔ stored = (false, report) := by
  rw [Prod.mk.injEq, hput.eq_iff, Prod.ext_iff]

end Histories

section Store

variable {Time Float32 Float64 : Type} (floats : CFloats Float32 Float64) (longBits : Nat)
  (call : NmeaCall Time Float32) (nmea : NmeaString)
  (mCache : SystemStatusReports Time Float32 Float64)

/-- Every history that the type feeds ends with the report that its parser makes of the fields. -/
def Repeats (mField : List (List Char)) : NmeaType → Prop
  | .pqwm1 =>
    let s := parsePQWM1 floats longBits mField
    EndsWith (· == ·) mCache.mTimeAndClock s.timeAndClock (call.now 0) ∧
      EndsWith (· == ·) mCache.mXoState ⟨s.mXoState⟩ (call.now 1) ∧
      EndsWith (SystemStatusRfAndParams.equals floats) mCache.mRfAndParams s.rfAndParams
        (call.now 2) ∧
      EndsWith (· == ·) mCache.mErrRecovery ⟨s.mRecErrorRecovery⟩ (call.now 3)
  | .pqwp1 =>
    EndsWith (SystemStatusPQWP1.equals floats) mCache.mInjectedPosition
      (parsePQWP1 floats longBits mField call.memory.p1) (call.now 0)
  | .pqwp2 =>
    EndsWith (SystemStatusBestPosition.equals floats) mCache.mBestPosition
      ⟨parsePQWP2 floats mField call.memory.p2, true⟩ (call.now 0)
  | .pqwp3 =>
    EndsWith (· == ·) mCache.mXtra (parsePQWP3 longBits mField call.memory.p3) (call.now 0)
  | .pqwp4 =>
    EndsWith (· == ·) mCache.mEphemeris (parsePQWP4 longBits mField call.memory.p4) (call.now 0)
  | .pqwp5 =>
    EndsWith (· == ·) mCache.mSvHealth (parsePQWP5 longBits mField call.memory.p5) (call.now 0)
  | .pqwp6 =>
    EndsWith (· == ·) mCache.mPdr (parsePQWP6 longBits mField call.memory.p6) (call.now 0)
  | .pqwp7 =>
    EndsWith (· == ·) mCache.mNavData (parsePQWP7 longBits mField call.memory.p7) (call.now 0)
  | .pqws1 =>
    EndsWith (· == ·) mCache.mPositionFailure (parsePQWS1 longBits mField call.memory.s1)
      (call.now 0)

/-- A malformed string is not taken and changes no history, and the parser of a complete one works
on its fields. -/
def ParsedOrIgnored : Prop :=
  ((¬ ∃ t, nmea.Complete t) →
    setNmeaString floats longBits call nmea mCache = (false, mCache)) ∧
  ((∃ t, nmea.Complete t) →
    nmeaFields (nmea.data.take debugNmeaMaxSize) nmea.len = sentenceFields nmea.data)

/-- Of a debug string of a known type: no comma follows the checksum of a complete one, and a
malformed one comes when the histories end with what it makes the parser leave. -/
def RepeatsOrWellCut : Prop :=
  ∀ t, locNmeaIsDebug nmea.data nmea.len = true → nmeaType nmea.data = some t →
    (nmea.Complete t → ',' ∉ checksumText nmea.data) ∧
    (¬ nmea.Complete t → Repeats floats longBits call mCache (cutTexts nmea.data) t)

variable {nmea}

theorem setNmeaString_unchanged_iff {t : NmeaType}
    (hdebug : locNmeaIsDebug nmea.data nmea.len = true) (htype : nmeaType nmea.data = some t) :
    setNmeaString floats longBits call nmea mCache = (false, mCache) ↔
      Repeats floats longBits call mCache (cutTexts nmea.data) t := by
  have hfields : nmeaFields (nmea.data.take debugNmeaMaxSize) nmea.len = cutTexts nmea.data := by
    rw [nmea.take_data hdebug]
    exact nmeaFields_eq_cutTexts hdebug
  unfold setNmeaString
  rw [hdebug, if_neg (by simp)]
  dsimp only
  rw [htype, hfields]
  cases t
  case pqwm1 =>
    simp only [Repeats, ← setIteminReport_unchanged_iff, Prod.ext_iff, Bool.or_eq_false_iff]
    cases mCache
    simp only [SystemStatusReports.mk.injEq, and_true]
    tauto
  case pqwp1 =>
    exact (stored_unchanged_iff (fun r => { mCache with mInjectedPosition := r })
      (fun _ _ h => congrArg (·.mInjectedPosition) h) _ _).trans setIteminReport_unchanged_iff
  case pqwp2 =>
    exact (stored_unchanged_iff (fun r => { mCache with mBestPosition := r })
      (fun _ _ h => congrArg (·.mBestPosition) h) _ _).trans setIteminReport_unchanged_iff
  case pqwp3 =>
    exact (stored_unchanged_iff (fun r => { mCache with mXtra := r })
      (fun _ _ h => congrArg (·.mXtra) h) _ _).trans setIteminReport_unchanged_iff
  case pqwp4 =>
    exact (stored_unchanged_iff (fun r => { mCache with mEphemeris := r })
      (fun _ _ h => congrArg (·.mEphemeris) h) _ _).trans setIteminReport_unchanged_iff
  case pqwp5 =>
    exact (stored_unchanged_iff (fun r => { mCache with mSvHealth := r })
      (fun _ _ h => congrArg (·.mSvHealth) h) _ _).trans setIteminReport_unchanged_iff
  case pqwp6 =>
    exact (stored_unchanged_iff (fun r => { mCache with mPdr := r })
      (fun _ _ h => congrArg (·.mPdr) h) _ _).trans setIteminReport_unchanged_iff
  case pqwp7 =>
    exact (stored_unchanged_iff (fun r => { mCache with mNavData := r })
      (fun _ _ h => congrArg (·.mNavData) h) _ _).trans setIteminReport_unchanged_iff
  case pqws1 =>
    exact (stored_unchanged_iff (fun r => { mCache with mPositionFailure := r })
      (fun _ _ h => congrArg (·.mPositionFailure) h) _ _).trans setIteminReport_unchanged_iff

theorem parsedOrIgnored_iff :
    ParsedOrIgnored floats longBits call nmea mCache ↔
      RepeatsOrWellCut floats longBits call nmea mCache := by
  constructor
  · rintro ⟨hmalformed, hcomplete⟩ t hdebug htype
    constructor
    · intro hc
      have hfields := hcomplete ⟨t, hc⟩
      rw [nmea.take_data hdebug, nmeaFields_eq_cutTexts hdebug] at hfields
      exact (cutTexts_eq_iff hc.2.2.1).mp hfields
    · intro hnc
      have hnone : ¬ ∃ t', nmea.Complete t' := by
        rintro ⟨t', hc⟩
        obtain rfl : t = t' := Option.some.inj (htype.symm.trans hc.2.1)
        exact hnc hc
      exact (setNmeaString_unchanged_iff floats longBits call mCache hdebug htype).mp
        (hmalformed hnone)
  · intro hright
    constructor
    · intro hnone
      by_cases hdebug : locNmeaIsDebug nmea.data nmea.len = true
      · cases htype : nmeaType nmea.data with
        | none => simp [setNmeaString, hdebug, htype]
        | some t =>
          exact (setNmeaString_unchanged_iff floats longBits call mCache hdebug htype).mpr
            ((hright t hdebug htype).2 fun hc => hnone ⟨t, hc⟩)
      · simp [setNmeaString, hdebug]
    · rintro ⟨t, hc⟩
      rw [nmea.take_data hc.1, nmeaFields_eq_cutTexts hc.1]
      exact (cutTexts_eq_iff hc.2.2.1).mpr ((hright t hc.1 hc.2.1).1 hc)

/-- A first sentence of its type is recorded even when its checksum is missing. -/
theorem malformed_sentence_recorded :
    let floats : CFloats Unit Unit := ⟨fun _ => (), id, fun _ => (), (), fun _ _ => true,
      fun _ _ => true⟩
    let memory : Uninitialized Unit := ⟨⟨0, (), (), (), (), (), 0⟩, ⟨(), (), (), (), ()⟩,
      ⟨0, 0, 0, 0, 0, 0, 0, 0, 0, 0, 0⟩, ⟨0, 0, 0, 0, 0⟩,
      ⟨0, 0, 0, 0, 0, 0, 0, 0, 0, 0, 0, 0, 0, 0, 0⟩, ⟨7⟩, ⟨fun _ => ⟨0, 0, 0⟩⟩, ⟨0, 0⟩⟩
    let nmea : NmeaString := ⟨"$PQWP6,1".toList, 8, by decide⟩
    let call : NmeaCall Nat Unit := ⟨memory, fun _ => 0⟩
    (setNmeaString floats 64 call nmea {}).2.mPdr = [⟨⟨7⟩, 0, 0⟩] ∧
      ¬ ParsedOrIgnored floats 64 call nmea {} := by
  refine ⟨by decide, ?_⟩
  rintro ⟨hmalformed, -⟩
  have hno : '*' ∉ "$PQWP6,1".toList := by decide
  have hunchanged := congrArg Prod.fst (hmalformed fun ⟨_, hc⟩ => hno hc.2.2.1)
  exact absurd hunchanged (by decide)

end Store

end DeviceHal.Gps
