import DeviceHal.Lib.CText
import Mathlib.Data.Fintype.Basic

namespace DeviceHal.Gps

open Lib

def debugNmeaMinSize : Nat := 6
def debugNmeaMaxSize : Nat := 4096

/-- A string argument: the characters before the terminator, and the length that is passed. The
caller has copied no more than that. -/
structure NmeaString where
  data : List Char
  len : Nat
  data_le : data.length ≤ len
deriving DecidableEq, Repr

def locNmeaIsDebug (data : List Char) (length : Nat) : Bool :=
  debugNmeaMinSize ≤ length && length ≤ debugNmeaMaxSize && data.take 4 = ['$', 'P', 'Q', 'W']

/-- The loop that cuts the text at each comma. What follows the last one is dropped. -/
def tokenize (str : List Char) : List Char → List (List Char)
  | [] => []
  | c :: parser => if c = ',' then str :: tokenize [] parser else tokenize (str ++ [c]) parser

/-- `SystemStatusNmeaBase`: `mField`, for which the first asterisk is a comma too. -/
def nmeaFields (data : List Char) (len : Nat) : List (List Char) :=
  if !locNmeaIsDebug data len then []
  else if '*' ∈ data then
    tokenize [] (data.takeWhile (· ≠ '*') ++ ',' :: (data.dropWhile (· ≠ '*')).tail)
  else []

/-- The floating-point types, of which the code uses `atof`, the conversions, the zero that memset
leaves, and equality. -/
structure CFloats (Float32 Float64 : Type) where
  atof : List Char → Float64
  narrow : Float64 → Float32
  ofInt : Int → Float32
  zero : Float64
  eq32 : Float32 → Float32 → Bool
  eq64 : Float64 → Float64 → Bool

structure SystemStatusPQWM1 (Float64 : Type) where
  mGpsWeek : UInt16
  mGpsTowMs : UInt32
  mTimeValid : UInt8
  mTimeSource : UInt8
  mTimeUnc : Int
  mClockFreqBias : Int
  mClockFreqBiasUnc : Int
  mXoState : UInt8
  mPgaGain : Int
  mGpsBpAmpI : UInt32
  mGpsBpAmpQ : UInt32
  mAdcI : UInt32
  mAdcQ : UInt32
  mJammerGps : UInt32
  mJammerGlo : UInt32
  mJammerBds : UInt32
  mJammerGal : UInt32
  mRecErrorRecovery : UInt32
  mAgcGps : Float64
  mAgcGlo : Float64
  mAgcBds : Float64
  mAgcGal : Float64
  mLeapSeconds : Int
  mLeapSecUnc : Int

structure SystemStatusPQWP1 (Float32 : Type) where
  mEpiValidity : UInt8
  mEpiLat : Float32
  mEpiLon : Float32
  mEpiAlt : Float32
  mEpiHepe : Float32
  mEpiAltUnc : Float32
  mEpiSrc : UInt8

structure SystemStatusPQWP2 (Float32 : Type) where
  mBestLat : Float32
  mBestLon : Float32
  mBestAlt : Float32
  mBestHepe : Float32
  mBestAltUnc : Float32

structure SystemStatusPQWP3 where
  mXtraValidMask : UInt8
  mGpsXtraAge : UInt32
  mGloXtraAge : UInt32
  mBdsXtraAge : UInt32
  mGalXtraAge : UInt32
  mQzssXtraAge : UInt32
  mGpsXtraValid : UInt32
  mGloXtraValid : UInt32
  mBdsXtraValid : UInt64
  mGalXtraValid : UInt64
  mQzssXtraValid : UInt8
deriving DecidableEq, Repr

structure SystemStatusPQWP4 where
  mGpsEpheValid : UInt32
  mGloEpheValid : UInt32
  mBdsEpheValid : UInt64
  mGalEpheValid : UInt64
  mQzssEpheValid : UInt8
deriving DecidableEq, Repr

structure SystemStatusPQWP5 where
  mGpsUnknownMask : UInt32
  mGloUnknownMask : UInt32
  mBdsUnknownMask : UInt64
  mGalUnknownMask : UInt64
  mQzssUnknownMask : UInt8
  mGpsGoodMask : UInt32
  mGloGoodMask : UInt32
  mBdsGoodMask : UInt64
  mGalGoodMask : UInt64
  mQzssGoodMask : UInt8
  mGpsBadMask : UInt32
  mGloBadMask : UInt32
  mBdsBadMask : UInt64
  mGalBadMask : UInt64
  mQzssBadMask : UInt8
deriving DecidableEq, Repr

structure SystemStatusPQWP6 where
  mFixInfoMask : UInt32
deriving DecidableEq, Repr

/-- The two enumerations are cast from the numbers. -/
structure SystemStatusNav where
  mType : Int
  mSource : Int
  mAgeSec : Int
deriving DecidableEq, Repr

def svAllNum : Nat := 134

structure SystemStatusPQWP7 where
  mNav : Fin svAllNum → SystemStatusNav
deriving DecidableEq

structure SystemStatusPQWS1 where
  mFixInfoMask : UInt32
  mHepeLimit : UInt32
deriving DecidableEq, Repr

/-- The sentences that are parsed. -/
inductive NmeaType where
  | pqwm1
  | pqwp1
  | pqwp2
  | pqwp3
  | pqwp4
  | pqwp5
  | pqwp6
  | pqwp7
  | pqws1
deriving DecidableEq, Repr

def requiredFields : NmeaType → Nat
  | .pqwm1 => 23
  | .pqwp1 => 9
  | .pqwp2 => 7
  | .pqwp3 => 13
  | .pqwp4 => 7
  | .pqwp5 => 17
  | .pqwp6 => 3
  | .pqwp7 => 2 + svAllNum * 3
  | .pqws1 => 4

/-- What the parsers that do not clear their record first leave in it: the memory as it was. -/
structure Uninitialized (Float32 : Type) where
  p1 : SystemStatusPQWP1 Float32
  p2 : SystemStatusPQWP2 Float32
  p3 : SystemStatusPQWP3
  p4 : SystemStatusPQWP4
  p5 : SystemStatusPQWP5
  p6 : SystemStatusPQWP6
  p7 : SystemStatusPQWP7
  s1 : SystemStatusPQWS1

section Parsers

variable {Float32 Float64 : Type} (floats : CFloats Float32 Float64) (longBits : Nat)
  (mField : List (List Char))

/-- `atoi` of a field. -/
def fieldInt (i : Nat) : Int := atoi longBits (mField.getD i [])

/-- `strtol` of a field in base 16. -/
def fieldHex (i : Nat) : Int := strtol longBits 16 (mField.getD i [])

/-- `atof` of a field. -/
def fieldFloat (i : Nat) : Float64 := floats.atof (mField.getD i [])

def parsePQWM1 : SystemStatusPQWM1 Float64 :=
  if mField.length < requiredFields .pqwm1 then
    ⟨0, 0, 0, 0, 0, 0, 0, 0, 0, 0, 0, 0, 0, 0, 0, 0, 0, 0, floats.zero, floats.zero, floats.zero,
      floats.zero, 0, 0⟩
  else
    { mGpsWeek := .ofInt (fieldInt longBits mField 1)
      mGpsTowMs := .ofInt (fieldInt longBits mField 2)
      mTimeValid := .ofInt (fieldInt longBits mField 3)
      mTimeSource := .ofInt (fieldInt longBits mField 4)
      mTimeUnc := fieldInt longBits mField 5
      mClockFreqBias := fieldInt longBits mField 6
      mClockFreqBiasUnc := fieldInt longBits mField 7
      mXoState := .ofInt (fieldInt longBits mField 8)
      mPgaGain := fieldInt longBits mField 9
      mGpsBpAmpI := .ofInt (fieldInt longBits mField 10)
      mGpsBpAmpQ := .ofInt (fieldInt longBits mField 11)
      mAdcI := .ofInt (fieldInt longBits mField 12)
      mAdcQ := .ofInt (fieldInt longBits mField 13)
      mJammerGps := .ofInt (fieldInt longBits mField 14)
      mJammerGlo := .ofInt (fieldInt longBits mField 15)
      mJammerBds := .ofInt (fieldInt longBits mField 16)
      mJammerGal := .ofInt (fieldInt longBits mField 17)
      mRecErrorRecovery := .ofInt (fieldInt longBits mField 18)
      mAgcGps := fieldFloat floats mField 19
      mAgcGlo := fieldFloat floats mField 20
      mAgcBds := fieldFloat floats mField 21
      mAgcGal := fieldFloat floats mField 22
      mLeapSeconds := if mField.length > 24 then fieldInt longBits mField 23 else 0
      mLeapSecUnc := if mField.length > 24 then fieldInt longBits mField 24 else 0 }

def parsePQWP1 (memory : SystemStatusPQWP1 Float32) : SystemStatusPQWP1 Float32 :=
  if mField.length < requiredFields .pqwp1 then memory
  else
    { mEpiValidity := .ofInt (fieldHex longBits mField 2)
      mEpiLat := floats.narrow (fieldFloat floats mField 3)
      mEpiLon := floats.narrow (fieldFloat floats mField 4)
      mEpiAlt := floats.narrow (fieldFloat floats mField 5)
      mEpiHepe := floats.ofInt (fieldInt longBits mField 6)
      mEpiAltUnc := floats.narrow (fieldFloat floats mField 7)
      mEpiSrc := .ofInt (fieldInt longBits mField 8) }

def parsePQWP2 (memory : SystemStatusPQWP2 Float32) : SystemStatusPQWP2 Float32 :=
  if mField.length < requiredFields .pqwp2 then memory
  else
    { mBestLat := floats.narrow (fieldFloat floats mField 2)
      mBestLon := floats.narrow (fieldFloat floats mField 3)
      mBestAlt := floats.narrow (fieldFloat floats mField 4)
      mBestHepe := floats.narrow (fieldFloat floats mField 5)
      mBestAltUnc := floats.narrow (fieldFloat floats mField 6) }

def parsePQWP3 (memory : SystemStatusPQWP3) : SystemStatusPQWP3 :=
  if mField.length < requiredFields .pqwp3 then memory
  else
    { mXtraValidMask := .ofInt (fieldHex longBits mField 2)
      mGpsXtraAge := .ofInt (fieldInt longBits mField 3)
      mGloXtraAge := .ofInt (fieldInt longBits mField 4)
      mBdsXtraAge := .ofInt (fieldInt longBits mField 5)
      mGalXtraAge := .ofInt (fieldInt longBits mField 6)
      mQzssXtraAge := .ofInt (fieldInt longBits mField 7)
      mGpsXtraValid := .ofInt (fieldHex longBits mField 8)
      mGloXtraValid := .ofInt (fieldHex longBits mField 9)
      mBdsXtraValid := .ofInt (fieldHex longBits mField 10)
      mGalXtraValid := .ofInt (fieldHex longBits mField 11)
      mQzssXtraValid := .ofInt (fieldHex longBits mField 12) }

def parsePQWP4 (memory : SystemStatusPQWP4) : SystemStatusPQWP4 :=
  if mField.length < requiredFields .pqwp4 then memory
  else
    { mGpsEpheValid := .ofInt (fieldHex longBits mField 2)
      mGloEpheValid := .ofInt (fieldHex longBits mField 3)
      mBdsEpheValid := .ofInt (fieldHex longBits mField 4)
      mGalEpheValid := .ofInt (fieldHex longBits mField 5)
      mQzssEpheValid := .ofInt (fieldHex longBits mField 6) }

def parsePQWP5 (memory : SystemStatusPQWP5) : SystemStatusPQWP5 :=
  if mField.length < requiredFields .pqwp5 then memory
  else
    { mGpsUnknownMask := .ofInt (fieldHex longBits mField 2)
      mGloUnknownMask := .ofInt (fieldHex longBits mField 3)
      mBdsUnknownMask := .ofInt (fieldHex longBits mField 4)
      mGalUnknownMask := .ofInt (fieldHex longBits mField 5)
      mQzssUnknownMask := .ofInt (fieldHex longBits mField 6)
      mGpsGoodMask := .ofInt (fieldHex longBits mField 7)
      mGloGoodMask := .ofInt (fieldHex longBits mField 8)
      mBdsGoodMask := .ofInt (fieldHex longBits mField 9)
      mGalGoodMask := .ofInt (fieldHex longBits mField 10)
      mQzssGoodMask := .ofInt (fieldHex longBits mField 11)
      mGpsBadMask := .ofInt (fieldHex longBits mField 12)
      mGloBadMask := .ofInt (fieldHex longBits mField 13)
      mBdsBadMask := .ofInt (fieldHex longBits mField 14)
      mGalBadMask := .ofInt (fieldHex longBits mField 15)
      mQzssBadMask := .ofInt (fieldHex longBits mField 16) }

def parsePQWP6 (memory : SystemStatusPQWP6) : SystemStatusPQWP6 :=
  if mField.length < requiredFields .pqwp6 then memory
  else { mFixInfoMask := .ofInt (fieldHex longBits mField 2) }

def parsePQWP7 (memory : SystemStatusPQWP7) : SystemStatusPQWP7 :=
  if mField.length < requiredFields .pqwp7 then memory
  else
    { mNav := fun i =>
        { mType := fieldInt longBits mField (i * 3 + 2)
          mSource := fieldInt longBits mField (i * 3 + 3)
          mAgeSec := fieldInt longBits mField (i * 3 + 4) } }

def parsePQWS1 (memory : SystemStatusPQWS1) : SystemStatusPQWS1 :=
  if mField.length < requiredFields .pqws1 then memory
  else
    { mFixInfoMask := .ofInt (fieldInt longBits mField 2)
      mHepeLimit := .ofInt (fieldInt longBits mField 3) }

end Parsers

/-- A report with the times that `SystemStatusItemBase` gives it. -/
structure SystemStatusItem (Time Info : Type) where
  info : Info
  mUtcTime : Time
  mUtcReported : Time
deriving DecidableEq, Repr

def maxItem : Nat := 5

structure SystemStatusTimeAndClock where
  mGpsWeek : UInt16
  mGpsTowMs : UInt32
  mTimeValid : UInt8
  mTimeSource : UInt8
  mTimeUnc : Int
  mClockFreqBias : Int
  mClockFreqBiasUnc : Int
  mLeapSeconds : Int
  mLeapSecUnc : Int
deriving DecidableEq, Repr

structure SystemStatusXoState where
  mXoState : UInt8
deriving DecidableEq, Repr

structure SystemStatusRfAndParams (Float64 : Type) where
  mPgaGain : Int
  mGpsBpAmpI : UInt32
  mGpsBpAmpQ : UInt32
  mAdcI : UInt32
  mAdcQ : UInt32
  mJammerGps : UInt32
  mJammerGlo : UInt32
  mJammerBds : UInt32
  mJammerGal : UInt32
  mAgcGps : Float64
  mAgcGlo : Float64
  mAgcBds : Float64
  mAgcGal : Float64
deriving DecidableEq, Repr

structure SystemStatusErrRecovery where
  mRecErrorRecovery : UInt32
deriving DecidableEq, Repr

structure SystemStatusBestPosition (Float32 : Type) extends SystemStatusPQWP2 Float32 where
  mValid : Bool

section Items

variable {Float32 Float64 : Type} (floats : CFloats Float32 Float64)

def SystemStatusPQWM1.timeAndClock (nmea : SystemStatusPQWM1 Float64) :
    SystemStatusTimeAndClock :=
  { mGpsWeek := nmea.mGpsWeek
    mGpsTowMs := nmea.mGpsTowMs
    mTimeValid := nmea.mTimeValid
    mTimeSource := nmea.mTimeSource
    mTimeUnc := nmea.mTimeUnc
    mClockFreqBias := nmea.mClockFreqBias
    mClockFreqBiasUnc := nmea.mClockFreqBiasUnc
    mLeapSeconds := nmea.mLeapSeconds
    mLeapSecUnc := nmea.mLeapSecUnc }

def SystemStatusPQWM1.rfAndParams (nmea : SystemStatusPQWM1 Float64) :
    SystemStatusRfAndParams Float64 :=
  { mPgaGain := nmea.mPgaGain
    mGpsBpAmpI := nmea.mGpsBpAmpI
    mGpsBpAmpQ := nmea.mGpsBpAmpQ
    mAdcI := nmea.mAdcI
    mAdcQ := nmea.mAdcQ
    mJammerGps := nmea.mJammerGps
    mJammerGlo := nmea.mJammerGlo
    mJammerBds := nmea.mJammerBds
    mJammerGal := nmea.mJammerGal
    mAgcGps := nmea.mAgcGps
    mAgcGlo := nmea.mAgcGlo
    mAgcBds := nmea.mAgcBds
    mAgcGal := nmea.mAgcGal }

def SystemStatusRfAndParams.equals (r peer : SystemStatusRfAndParams Float64) : Bool :=
  r.mPgaGain == peer.mPgaGain && r.mGpsBpAmpI == peer.mGpsBpAmpI &&
    r.mGpsBpAmpQ == peer.mGpsBpAmpQ && r.mAdcI == peer.mAdcI && r.mAdcQ == peer.mAdcQ &&
    r.mJammerGps == peer.mJammerGps && r.mJammerGlo == peer.mJammerGlo &&
    r.mJammerBds == peer.mJammerBds && r.mJammerGal == peer.mJammerGal &&
    floats.eq64 r.mAgcGps peer.mAgcGps && floats.eq64 r.mAgcGlo peer.mAgcGlo &&
    floats.eq64 r.mAgcBds peer.mAgcBds && floats.eq64 r.mAgcGal peer.mAgcGal

/-- `SystemStatusInjectedPosition` has the fields of the parsed record. -/
def SystemStatusPQWP1.equals (r peer : SystemStatusPQWP1 Float32) : Bool :=
  r.mEpiValidity == peer.mEpiValidity && floats.eq32 r.mEpiLat peer.mEpiLat &&
    floats.eq32 r.mEpiLon peer.mEpiLon && floats.eq32 r.mEpiAlt peer.mEpiAlt &&
    floats.eq32 r.mEpiHepe peer.mEpiHepe && floats.eq32 r.mEpiAltUnc peer.mEpiAltUnc &&
    r.mEpiSrc == peer.mEpiSrc

def SystemStatusBestPosition.equals (r peer : SystemStatusBestPosition Float32) : Bool :=
  floats.eq32 r.mBestLat peer.mBestLat && floats.eq32 r.mBestLon peer.mBestLon &&
    floats.eq32 r.mBestAlt peer.mBestAlt && floats.eq32 r.mBestHepe peer.mBestHepe &&
    floats.eq32 r.mBestAltUnc peer.mBestAltUnc

end Items

/-- The reports that debug sentences feed. The other items of the kind have the fields of the
parsed records, and compare all of them. -/
structure SystemStatusReports (Time Float32 Float64 : Type) where
  mTimeAndClock : List (SystemStatusItem Time SystemStatusTimeAndClock) := []
  mXoState : List (SystemStatusItem Time SystemStatusXoState) := []
  mRfAndParams : List (SystemStatusItem Time (SystemStatusRfAndParams Float64)) := []
  mErrRecovery : List (SystemStatusItem Time SystemStatusErrRecovery) := []
  mInjectedPosition : List (SystemStatusItem Time (SystemStatusPQWP1 Float32)) := []
  mBestPosition : List (SystemStatusItem Time (SystemStatusBestPosition Float32)) := []
  mXtra : List (SystemStatusItem Time SystemStatusPQWP3) := []
  mEphemeris : List (SystemStatusItem Time SystemStatusPQWP4) := []
  mSvHealth : List (SystemStatusItem Time SystemStatusPQWP5) := []
  mPdr : List (SystemStatusItem Time SystemStatusPQWP6) := []
  mNavData : List (SystemStatusItem Time SystemStatusPQWP7) := []
  mPositionFailure : List (SystemStatusItem Time SystemStatusPQWS1) := []

/-- `setIteminReport` for an item of the kind, made at a time. Its `collate` is the item itself. -/
def setIteminReport {Time Info : Type} (equals : Info → Info → Bool)
    (report : List (SystemStatusItem Time Info)) (info : Info) (now : Time) :
    Bool × List (SystemStatusItem Time Info) :=
  let pushed := report ++ [⟨info, now, now⟩]
  let grown := if pushed.length > maxItem then pushed.tail else pushed
  match report.getLast? with
  | none => (true, grown)
  | some back =>
    if equals back.info info then
      (false, report.dropLast ++ [{ back with mUtcReported := now }])
    else (true, grown)

/-- Which of the comparisons with `strncmp` succeeds. -/
def nmeaType (data : List Char) : Option NmeaType :=
  let head := data.take debugNmeaMinSize
  if head = "$PQWM1".toList then some .pqwm1
  else if head = "$PQWP1".toList then some .pqwp1
  else if head = "$PQWP2".toList then some .pqwp2
  else if head = "$PQWP3".toList then some .pqwp3
  else if head = "$PQWP4".toList then some .pqwp4
  else if head = "$PQWP5".toList then some .pqwp5
  else if head = "$PQWP6".toList then some .pqwp6
  else if head = "$PQWP7".toList then some .pqwp7
  else if head = "$PQWS1".toList then some .pqws1
  else none

/-- What a call meets: the memory of the parsers, and what `gettimeofday` returns for each of the
items it makes. -/
structure NmeaCall (Time Float32 : Type) where
  memory : Uninitialized Float32
  now : Nat → Time

section Store

variable {Time Float32 Float64 : Type} (floats : CFloats Float32 Float64) (longBits : Nat)

def setNmeaString (call : NmeaCall Time Float32) (nmea : NmeaString)
    (mCache : SystemStatusReports Time Float32 Float64) :
    Bool × SystemStatusReports Time Float32 Float64 :=
  if !locNmeaIsDebug nmea.data nmea.len then (false, mCache)
  else
    -- strlcpy into a buffer of one byte more
    let buf := nmea.data.take debugNmeaMaxSize
    let mField := nmeaFields buf nmea.len
    match nmeaType nmea.data with
    | some .pqwm1 =>
      let s := parsePQWM1 floats longBits mField
      let (ret1, mTimeAndClock) :=
        setIteminReport (· == ·) mCache.mTimeAndClock s.timeAndClock (call.now 0)
      let (ret2, mXoState) := setIteminReport (· == ·) mCache.mXoState ⟨s.mXoState⟩ (call.now 1)
      let (ret3, mRfAndParams) := setIteminReport (SystemStatusRfAndParams.equals floats)
        mCache.mRfAndParams s.rfAndParams (call.now 2)
      let (ret4, mErrRecovery) :=
        setIteminReport (· == ·) mCache.mErrRecovery ⟨s.mRecErrorRecovery⟩ (call.now 3)
      (ret1 || ret2 || ret3 || ret4,
        { mCache with mTimeAndClock, mXoState, mRfAndParams, mErrRecovery })
    | some .pqwp1 =>
      let (ret, mInjectedPosition) := setIteminReport (SystemStatusPQWP1.equals floats)
        mCache.mInjectedPosition (parsePQWP1 floats longBits mField call.memory.p1) (call.now 0)
      (ret, { mCache with mInjectedPosition })
    | some .pqwp2 =>
      let (ret, mBestPosition) := setIteminReport (SystemStatusBestPosition.equals floats)
        mCache.mBestPosition ⟨parsePQWP2 floats mField call.memory.p2, true⟩ (call.now 0)
      (ret, { mCache with mBestPosition })
    | some .pqwp3 =>
      let (ret, mXtra) := setIteminReport (· == ·) mCache.mXtra
        (parsePQWP3 longBits mField call.memory.p3) (call.now 0)
      (ret, { mCache with mXtra })
    | some .pqwp4 =>
      let (ret, mEphemeris) := setIteminReport (· == ·) mCache.mEphemeris
        (parsePQWP4 longBits mField call.memory.p4) (call.now 0)
      (ret, { mCache with mEphemeris })
    | some .pqwp5 =>
      let (ret, mSvHealth) := setIteminReport (· == ·) mCache.mSvHealth
        (parsePQWP5 longBits mField call.memory.p5) (call.now 0)
      (ret, { mCache with mSvHealth })
    | some .pqwp6 =>
      let (ret, mPdr) := setIteminReport (· == ·) mCache.mPdr
        (parsePQWP6 longBits mField call.memory.p6) (call.now 0)
      (ret, { mCache with mPdr })
    | some .pqwp7 =>
      let (ret, mNavData) := setIteminReport (· == ·) mCache.mNavData
        (parsePQWP7 longBits mField call.memory.p7) (call.now 0)
      (ret, { mCache with mNavData })
    | some .pqws1 =>
      let (ret, mPositionFailure) := setIteminReport (· == ·) mCache.mPositionFailure
        (parsePQWS1 longBits mField call.memory.s1) (call.now 0)
      (ret, { mCache with mPositionFailure })
    | none => (false, mCache)

end Store

end DeviceHal.Gps
