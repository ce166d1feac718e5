import DeviceHal.Camera.Mpo
import Mathlib.Logic.Relation

namespace DeviceHal.Camera

open Relation

variable {buf : List UInt8} {p q : Nat}

/-- From one place where the search for 0xFF reads to the next one. -/
inductive ScanRound (buf : List UInt8) : Nat → Nat → Prop
  | other {p : Nat} {byte : UInt8} (hp : buf[p]? = some byte) (hbyte : byte ≠ 0xff)
      (hin : p + 2 < buf.length) : ScanRound buf p (p + 1)
  | soi {p : Nat} (hp : buf[p]? = some 0xff) (hmarker : buf[p + 1]? = some mSoi)
      (hin : p + 2 < buf.length) : ScanRound buf p (p + 1)
  | segment {p size : Nat} {marker : UInt8} (hp : buf[p]? = some 0xff)
      (hmarker : buf[p + 1]? = some marker) (happ : marker ≠ mApp2) (hsoi : marker ≠ mSoi)
      (heoi : marker ≠ mEoi) (hsize : readShort buf (p + 2) = some size)
      (hin : p + 1 + size + 1 < buf.length) : ScanRound buf p (p + 1 + size)

/-- A place from which there is no further round, and what the search returns there. -/
inductive ScanEnd (buf : List UInt8) : Nat → Option (Option Nat) → Prop
  | noByte {p : Nat} (hp : buf.length ≤ p) : ScanEnd buf p none
  | noFF {p : Nat} {byte : UInt8} (hp : buf[p]? = some byte) (hbyte : byte ≠ 0xff)
      (hout : buf.length ≤ p + 2) : ScanEnd buf p (some none)
  | noMarker {p : Nat} (hp : buf[p]? = some 0xff) (hout : buf.length ≤ p + 1) :
      ScanEnd buf p none
  | found {p : Nat} (hp : buf[p]? = some 0xff) (hmarker : buf[p + 1]? = some mApp2) :
      ScanEnd buf p (some (some (p + 2)))
  | soi {p : Nat} (hp : buf[p]? = some 0xff) (hmarker : buf[p + 1]? = some mSoi)
      (hout : buf.length ≤ p + 2) : ScanEnd buf p (some none)
  | noLength {p : Nat} {marker : UInt8} (hp : buf[p]? = some 0xff)
      (hmarker : buf[p + 1]? = some marker) (happ : marker ≠ mApp2) (hsoi : marker ≠ mSoi)
      (hout : buf.length ≤ p + 3) : ScanEnd buf p none
  | eoi {p size : Nat} (hp : buf[p]? = some 0xff) (hmarker : buf[p + 1]? = some mEoi)
      (hsize : readShort buf (p + 2) = some size) : ScanEnd buf p (some none)
  | last {p size : Nat} {marker : UInt8} (hp : buf[p]? = some 0xff)
      (hmarker : buf[p + 1]? = some marker) (happ : marker ≠ mApp2) (hsoi : marker ≠ mSoi)
      (heoi : marker ≠ mEoi) (hsize : readShort buf (p + 2) = some size)
      (hout : buf.length ≤ p + 1 + size + 1) : ScanEnd buf p (some none)

theorem readShort_eq_none_iff {o : Nat} : readShort buf o = none ↔ buf.length ≤ o + 1 := by
  unfold readShort
  by_cases h : o + 1 < buf.length
  · grind
  grind

theorem scanRound_or_end (buf : List UInt8) (p : Nat) :
    (∃ p', ScanRound buf p p') ∨ ∃ r, ScanEnd buf p r := by
  cases hp : buf[p]? with
  | none => exact Or.inr ⟨_, .noByte (List.getElem?_eq_none_iff.mp hp)⟩
  | some byte =>
    by_cases hbyte : byte = 0xff
    case neg =>
      rcases Nat.lt_or_ge (p + 2) buf.length with hin | hout
      · exact Or.inl ⟨_, .other hp hbyte hin⟩
      · exact Or.inr ⟨_, .noFF hp hbyte hout⟩
    subst hbyte
    cases hmarker : buf[p + 1]? with
    | none => exact Or.inr ⟨_, .noMarker hp (List.getElem?_eq_none_iff.mp hmarker)⟩
    | some marker =>
      by_cases happ : marker = mApp2
      · subst happ
        exact Or.inr ⟨_, .found hp hmarker⟩
      by_cases hsoi : marker = mSoi
      · subst hsoi
        rcases Nat.lt_or_ge (p + 2) buf.length with hin | hout
        · exact Or.inl ⟨_, .soi hp hmarker hin⟩
        · exact Or.inr ⟨_, .soi hp hmarker hout⟩
      cases hsize : readShort buf (p + 2) with
      | none =>
        exact Or.inr ⟨_, .noLength hp hmarker happ hsoi (readShort_eq_none_iff.mp hsize)⟩
      | some size =>
        by_cases heoi : marker = mEoi
        · subst heoi
          exact Or.inr ⟨_, .eoi hp hmarker hsize⟩
        · rcases Nat.lt_or_ge (p + 1 + size + 1) buf.length with hin | hout
          · exact Or.inl ⟨_, .segment hp hmarker happ hsoi heoi hsize hin⟩
          · exact Or.inr ⟨_, .last hp hmarker happ hsoi heoi hsize hout⟩

theorem ScanRound.lt (h : ScanRound buf p q) : p < q ∧ q + 1 < buf.length := by
  cases h with
  | other | soi | segment => omega

theorem nextFF_of_ne {byte : UInt8} (hp : buf[p]? = some byte) (hbyte : byte ≠ 0xff) :
    nextFF buf buf.length p =
      if p + 2 < buf.length then nextFF buf buf.length (p + 1) else some (byte, p + 1) := by
  obtain ⟨hlt, rfl⟩ := List.getElem?_eq_some_iff.mp hp
  rw [nextFF, dif_pos hlt]
  simp only [ne_eq, hbyte, not_false_eq_true, true_and]

variable {bufferSize : Nat}

theorem nextFF_of_eq (hp : buf[p]? = some 0xff) : nextFF buf bufferSize p = some (0xff, p + 1) := by
  grind [nextFF]

theorem getAppMarkerFrom_eq_of_nextFF {appMarker : UInt8}
    (h : nextFF buf bufferSize p = nextFF buf bufferSize q) :
    getAppMarkerFrom buf bufferSize appMarker p = getAppMarkerFrom buf bufferSize appMarker q := by
  rw [getAppMarkerFrom, getAppMarkerFrom.eq_def buf bufferSize appMarker q, h]

theorem getAppMarkerFrom_ff {appMarker marker : UInt8}
    (hp : buf[p]? = some 0xff) (hmarker : buf[p + 1]? = some marker) :
    getAppMarkerFrom buf bufferSize appMarker p =
      if marker = appMarker then some (some (p + 2))
      else
        (if marker ≠ mSoi then readShort buf (p + 2) else some 0).bind fun size =>
          if marker ≠ mEoi ∧ p + 1 + size + 1 < bufferSize then
            getAppMarkerFrom buf bufferSize appMarker (p + 1 + size)
          else some none := by
  rw [getAppMarkerFrom]
  split
  next h =>
    rw [nextFF_of_eq hp] at h
    cases h
  next byte p' h =>
    rw [nextFF_of_eq hp] at h
    cases h
    simp only [ne_eq, not_true, if_false, hmarker]
    split
    · rfl
    · split <;> rename_i hsize <;> rw [hsize] <;> rfl

theorem ScanRound.from_eq (h : ScanRound buf p q) :
    getAppMarkerFrom buf buf.length mApp2 p = getAppMarkerFrom buf buf.length mApp2 q := by
  cases h with
  | other hp hbyte hin =>
    refine getAppMarkerFrom_eq_of_nextFF ?_
    rw [nextFF_of_ne hp hbyte, if_pos hin]
  | soi hp hmarker hin =>
    rw [getAppMarkerFrom_ff hp hmarker, if_neg (by decide), if_neg (by decide),
      Option.bind_some, if_pos ⟨by decide, hin⟩]
  | segment hp hmarker happ hsoi heoi hsize hin =>
    rw [getAppMarkerFrom_ff hp hmarker, if_neg happ, if_pos hsoi, hsize, Option.bind_some,
      if_pos ⟨heoi, hin⟩]

theorem ScanEnd.from_eq {r : Option (Option Nat)} (h : ScanEnd buf p r) :
    getAppMarkerFrom buf buf.length mApp2 p = r := by
  cases h with
  | noByte hp =>
    grind [nextFF, getAppMarkerFrom]
  | noFF hp hbyte hout =>
    have hff := nextFF_of_ne hp hbyte
    grind [getAppMarkerFrom]
  | noMarker hp hout =>
    rw [getAppMarkerFrom]
    split
    next => rfl
    next h =>
      rw [nextFF_of_eq hp] at h
      grind
  | found hp hmarker => rw [getAppMarkerFrom_ff hp hmarker, if_pos rfl]
  | soi hp hmarker hout =>
    rw [getAppMarkerFrom_ff hp hmarker, if_neg (by decide), if_neg (by decide),
      Option.bind_some, if_neg (by omega)]
  | noLength hp hmarker happ hsoi hout =>
    rw [getAppMarkerFrom_ff hp hmarker, if_neg happ, if_pos hsoi,
      readShort_eq_none_iff.mpr hout, Option.bind_none]
  | eoi hp hmarker hsize =>
    rw [getAppMarkerFrom_ff hp hmarker, if_neg (by decide), if_pos (by decide), hsize,
      Option.bind_some, if_neg (by simp)]
  | last hp hmarker happ hsoi heoi hsize hout =>
    rw [getAppMarkerFrom_ff hp hmarker, if_neg happ, if_pos hsoi, hsize, Option.bind_some,
      if_neg (by omega)]

def ScanVisits (buf : List UInt8) (p : Nat) : Prop := ReflTransGen (ScanRound buf) 0 p

/-- The search takes the byte at `q` for a marker. -/
def ScanMarker (buf : List UInt8) (q : Nat) (marker : UInt8) : Prop :=
  ∃ p, ScanVisits buf p ∧ buf[p]? = some 0xff ∧ buf[q]? = some marker ∧ q = p + 1

theorem ScanVisits.in_bounds (h : ScanVisits buf p) : p = 0 ∨ p + 1 < buf.length := by
  cases h with
  | refl => exact Or.inl rfl
  | tail _ hround => exact Or.inr hround.lt.2

theorem ScanVisits.from_eq (h : ScanVisits buf p) :
    mmJpegMpoGetAppMarker buf buf.length mApp2 = getAppMarkerFrom buf buf.length mApp2 p := by
  induction h with
  | refl => rfl
  | tail _ hround ih => rw [ih, hround.from_eq]

theorem exists_scanEnd (h : ScanVisits buf p) :
    ∃ q r, ScanVisits buf q ∧ ScanEnd buf q r := by
  induction hn : buf.length - p using Nat.strongRecOn generalizing p with
  | _ n ih =>
    rcases scanRound_or_end buf p with ⟨q, hround⟩ | ⟨r, hend⟩
    · have hlt := hround.lt
      exact ih (buf.length - q) (by omega) (h.tail hround) rfl
    · exact ⟨p, r, h, hend⟩

theorem getAppMarker_eq_iff {r : Option (Option Nat)} :
    mmJpegMpoGetAppMarker buf buf.length mApp2 = r ↔
      ∃ p, ScanVisits buf p ∧ ScanEnd buf p r := by
  constructor
  · intro h
    obtain ⟨p, r', hvisits, hend⟩ := exists_scanEnd (ReflTransGen.refl : ScanVisits buf 0)
    grind [hvisits.from_eq, hend.from_eq]
  · rintro ⟨p, hvisits, hend⟩
    rw [hvisits.from_eq, hend.from_eq]

theorem getAppMarker_found_iff {n : Nat} :
    mmJpegMpoGetAppMarker buf buf.length mApp2 = some (some n) ↔
      ∃ q, ScanMarker buf q mApp2 ∧ n = q + 1 := by
  rw [getAppMarker_eq_iff]
  constructor
  · rintro ⟨p, hvisits, hend⟩
    cases hend with
    | found hp hmarker => exact ⟨p + 1, ⟨p, hvisits, hp, hmarker, rfl⟩, rfl⟩
  · rintro ⟨_, ⟨p, hvisits, hp, hmarker, rfl⟩, rfl⟩
    exact ⟨p, hvisits, .found hp hmarker⟩

/-- Every marker that is asked for its length has it in the buffer. -/
def LengthsInside (buf : List UInt8) : Prop :=
  ∀ q marker, ScanMarker buf q marker → marker ≠ mApp2 → marker ≠ mSoi → q + 2 < buf.length

theorem getAppMarker_inside_iff :
    mmJpegMpoGetAppMarker buf buf.length mApp2 ≠ none ↔
      buf ≠ [] ∧ buf ≠ [0xff] ∧ LengthsInside buf := by
  constructor
  · intro h
    have hno : ∀ p, ScanVisits buf p → ¬ ScanEnd buf p none :=
      fun p hvisits hend => h (getAppMarker_eq_iff.mpr ⟨p, hvisits, hend⟩)
    refine ⟨?_, ?_, ?_⟩
    · rintro rfl
      exact hno 0 .refl (.noByte (Nat.le_refl 0))
    · rintro rfl
      exact hno 0 .refl (.noMarker rfl (Nat.le_refl 1))
    · rintro _ marker ⟨p, hvisits, hp, hmarker, rfl⟩ happ hsoi
      by_contra hout
      exact hno p hvisits (.noLength hp hmarker happ hsoi (by omega))
  · rintro ⟨hempty, hsingle, hlengths⟩ h
    obtain ⟨p, hvisits, hend⟩ := getAppMarker_eq_iff.mp h
    cases hend with
    | noByte hp =>
      rcases hvisits.in_bounds with rfl | hin
      · exact hempty (List.length_eq_zero_iff.mp (Nat.le_zero.mp hp))
      · omega
    | noMarker hp hout =>
      rcases hvisits.in_bounds with rfl | hin
      · obtain ⟨hlt, hff⟩ := List.getElem?_eq_some_iff.mp hp
        obtain ⟨byte, rfl⟩ := List.length_eq_one_iff.mp (by omega : buf.length = 1)
        exact hsingle (congrArg (fun b => [b]) hff)
      · omega
    | noLength hp hmarker happ hsoi hout =>
      have hin := hlengths (p + 1) _ ⟨p, hvisits, hp, hmarker, rfl⟩ happ hsoi
      omega

/-- A marker segment. Its length counts the two bytes that it takes itself. -/
structure Segment where
  marker : UInt8
  payload : List UInt8
  not_ff : marker ≠ 0xff
  not_soi : marker ≠ mSoi
  not_eoi : marker ≠ mEoi
  fits : payload.length + 2 < 0x10000

def Segment.size (s : Segment) : Nat := s.payload.length + 2

def Segment.bytes (s : Segment) : List UInt8 :=
  0xff :: s.marker :: UInt8.ofNat (s.size / 0x100) :: UInt8.ofNat (s.size % 0x100) :: s.payload

/-- The end marker with what follows it, where the header has one. -/
def eoiBytes : Option (List UInt8) → List UInt8
  | none => []
  | some rest => 0xff :: mEoi :: rest

/-- The start marker and these segments, up to the end marker or the end of the buffer. -/
def headerBytes (segs : List Segment) (rest : Option (List UInt8)) : List UInt8 :=
  0xff :: mSoi :: (segs.flatMap Segment.bytes ++ eoiBytes rest)

/-- The place after the marker of the first APP2 segment, of segments that start at `p`. -/
def firstApp2From (p : Nat) : List Segment → Option Nat
  | [] => none
  | s :: segs =>
    if s.marker = mApp2 then some (p + 2) else firstApp2From (p + s.bytes.length) segs

def firstApp2 (segs : List Segment) : Option Nat := firstApp2From 2 segs

/-- No payload in front of the first APP2 segment ends in 0xFF. -/
def OnTrack : List Segment → Prop
  | [] => True
  | s :: segs => s.marker = mApp2 ∨ (s.payload.getLast? ≠ some 0xff ∧ OnTrack segs)

/-- What the search returns on a header it keeps track of. The length of the end marker is read
from what follows it. -/
def headerOutcome (p : Nat) (segs : List Segment) (rest : Option (List UInt8)) :
    Option (Option Nat) :=
  if firstApp2From p segs = none ∧ (rest.any fun r => r.length < 2) then none
  else some (firstApp2From p segs)

theorem Segment.length_bytes (s : Segment) : s.bytes.length = s.size + 2 := by
  simp [bytes, size]

theorem Segment.readShort_size {s : Segment} {tail : List UInt8}
    (hdrop : buf.drop p = s.bytes ++ tail) : readShort buf (p + 2) = some s.size := by
  have hhi : buf[p + 2]? = some (UInt8.ofNat (s.size / 0x100)) := by
    rw [← List.getElem?_drop, hdrop]
    rfl
  have hlo : buf[p + 2 + 1]? = some (UInt8.ofNat (s.size % 0x100)) := by
    rw [Nat.add_assoc, ← List.getElem?_drop, hdrop]
    rfl
  have hfits : s.size < 0x10000 := s.fits
  simp only [readShort, hhi, hlo, UInt8.toNat_ofNat', Option.some.injEq]
  omega

theorem Segment.last_ne {s : Segment} (hlast : s.payload.getLast? ≠ some 0xff) :
    s.bytes.getLast? ≠ some 0xff := by
  cases hp : s.payload with
  | nil =>
    have hsize : s.size = 2 := by simp [size, hp]
    simp [bytes, hp, hsize]
  | cons b bs =>
    have hbytes : s.bytes.getLast? = s.payload.getLast? := by
      simp [bytes, hp, List.getLast?_cons_cons]
    rwa [hbytes]

theorem search_header {segs : List Segment} {rest : Option (List UInt8)}
    (hbyte : ∃ byte, buf[p]? = some byte ∧ byte ≠ 0xff)
    (hdrop : buf.drop (p + 1) = segs.flatMap Segment.bytes ++ eoiBytes rest)
    (htrack : OnTrack segs) :
    (if p + 1 < buf.length then getAppMarkerFrom buf buf.length mApp2 p else some none) =
      headerOutcome (p + 1) segs rest := by
  obtain ⟨byte, hp, hbyte⟩ := hbyte
  have hlength : buf.length - (p + 1) =
      (segs.flatMap Segment.bytes ++ eoiBytes rest).length := by
    rw [← hdrop, List.length_drop]
  induction segs generalizing p byte with
  | nil =>
    cases rest with
    | none =>
      grind [eoiBytes, headerOutcome, firstApp2From]
    | some rest =>
      simp only [eoiBytes, List.flatMap_nil, List.nil_append, List.length_cons] at hlength hdrop
      have hff : buf[p + 1]? = some 0xff := by
        rw [← Nat.add_zero (p + 1), ← List.getElem?_drop, hdrop]
        rfl
      have heoi : buf[p + 2]? = some mEoi := by
        rw [← List.getElem?_drop (i := p + 1) (j := 1), hdrop]
        rfl
      rw [if_pos (by omega), (ScanRound.other hp hbyte (by omega)).from_eq]
      simp only [headerOutcome, firstApp2From, Option.any_some, decide_eq_true_eq, true_and]
      split
      · exact (ScanEnd.noLength hff heoi (by decide) (by decide) (by omega)).from_eq
      · cases hsize : readShort buf (p + 1 + 2) with
        | none =>
          have := readShort_eq_none_iff.mp hsize
          omega
        | some size => exact (ScanEnd.eoi hff heoi hsize).from_eq
  | cons s segs ih =>
    simp only [List.flatMap_cons, List.append_assoc] at hdrop hlength
    rw [List.length_append, s.length_bytes] at hlength
    have hff : buf[p + 1]? = some 0xff := by
      rw [← Nat.add_zero (p + 1), ← List.getElem?_drop, hdrop]
      rfl
    have hmarker : buf[p + 2]? = some s.marker := by
      rw [← List.getElem?_drop (i := p + 1) (j := 1), hdrop]
      rfl
    rw [if_pos (by omega), (ScanRound.other hp hbyte (by omega)).from_eq,
      getAppMarkerFrom_ff hff hmarker]
    by_cases happ : s.marker = mApp2
    · rw [if_pos happ]
      simp [headerOutcome, firstApp2From, happ]
    · obtain ⟨hlast, htrack⟩ := htrack.resolve_left happ
      have hskip : buf.drop (p + 1 + 1 + s.size + 1) =
          segs.flatMap Segment.bytes ++ eoiBytes rest := by
        have hstart : p + 1 + 1 + s.size + 1 = p + 1 + s.bytes.length := by
          rw [s.length_bytes]
          omega
        rw [hstart, ← List.drop_drop, hdrop, List.drop_left]
      have hend : ∃ byte, buf[p + 1 + 1 + s.size]? = some byte ∧ byte ≠ 0xff := by
        have hindex : p + 1 + 1 + s.size = p + 1 + (s.bytes.length - 1) := by
          rw [s.length_bytes]
          omega
        rw [hindex, ← List.getElem?_drop, hdrop,
          List.getElem?_append_left (by rw [s.length_bytes]; omega), ← List.getLast?_eq_getElem?]
        have hne := Segment.last_ne hlast
        cases hget : s.bytes.getLast? with
        | none => exact absurd (List.getLast?_eq_none_iff.mp hget) (by simp [Segment.bytes])
        | some byte => exact ⟨byte, rfl, fun h => hne (by rw [hget, h])⟩
      obtain ⟨byte', hp', hbyte'⟩ := hend
      have hgo := ih hskip htrack byte' hp' hbyte' (by rw [← hskip, List.length_drop])
      rw [if_neg happ, if_pos s.not_soi, Segment.readShort_size hdrop, Option.bind_some]
      simp only [ne_eq, s.not_eoi, not_false_eq_true, true_and]
      rw [hgo]
      simp only [headerOutcome, firstApp2From, if_neg happ, s.length_bytes]
      grind

theorem getAppMarker_header {segs : List Segment} (rest : Option (List UInt8))
    (htrack : OnTrack segs) :
    mmJpegMpoGetAppMarker (headerBytes segs rest) (headerBytes segs rest).length mApp2 =
      headerOutcome 2 segs rest := by
  have hbyte : ∃ byte, (headerBytes segs rest)[1]? = some byte ∧ byte ≠ 0xff :=
    ⟨mSoi, rfl, by decide⟩
  have hgo := search_header hbyte rfl htrack
  rw [← hgo]
  unfold mmJpegMpoGetAppMarker
  have hsoi : (headerBytes segs rest)[0 + 1]? = some mSoi := rfl
  rw [getAppMarkerFrom_ff rfl hsoi, if_neg (by decide),
    if_neg (by decide), Option.bind_some]
  simp only [ne_eq, show mSoi ≠ mEoi by decide, not_false_eq_true, true_and]

/-- The search comes to an end, reads in the buffer only, and finds the first APP2 segment of a
header. -/
structure ScansRight (buf : List UInt8) : Prop where
  ends : ¬ ∃ places : Nat → Nat, places 0 = 0 ∧ ∀ n, ScanRound buf (places n) (places (n + 1))
  inside : mmJpegMpoGetAppMarker buf buf.length mApp2 ≠ none
  finds : ∀ segs rest, buf = headerBytes segs rest →
    mmJpegMpoGetAppMarker buf buf.length mApp2 = some (firstApp2 segs)

/-- There are two bytes to read at first and every length that is asked for is there. On a header
no payload in front of the first APP2 segment ends in 0xFF, or the skips from there on lead to that
segment again, and to no other byte 0xE2, by chance. -/
structure ScanFits (buf : List UInt8) : Prop where
  start : buf ≠ [] ∧ buf ≠ [0xff]
  lengths : LengthsInside buf
  track : ∀ segs rest, buf = headerBytes segs rest →
    OnTrack segs ∨ ∀ q, ScanMarker buf q mApp2 ↔ firstApp2 segs = some (q + 1)

theorem no_endless_scan (buf : List UInt8) :
    ¬ ∃ places : Nat → Nat, places 0 = 0 ∧ ∀ n, ScanRound buf (places n) (places (n + 1)) := by
  rintro ⟨places, -, hrounds⟩
  have hfar : ∀ n, n ≤ places n := by
    intro n
    induction n with
    | zero => exact Nat.zero_le _
    | succ n ih =>
      have hlt := (hrounds n).lt.1
      omega
  have hin := (hrounds buf.length).lt
  have hplace := hfar buf.length
  omega

theorem firstApp2From_ne_zero (segs : List Segment) : firstApp2From p segs ≠ some 0 := by
  induction segs generalizing p with
  | nil => simp [firstApp2From]
  | cons s segs ih =>
    unfold firstApp2From
    split
    · simp
    · exact ih

theorem finds_iff {r : Option Nat} (hr : r ≠ some 0)
    (hinside : mmJpegMpoGetAppMarker buf buf.length mApp2 ≠ none) :
    mmJpegMpoGetAppMarker buf buf.length mApp2 = some r ↔
      ∀ q, ScanMarker buf q mApp2 ↔ r = some (q + 1) := by
  obtain ⟨r', hr'⟩ := Option.ne_none_iff_exists'.mp hinside
  have hfound : ∀ q, ScanMarker buf q mApp2 ↔ r' = some (q + 1) := by
    intro q
    rw [← Option.some.injEq, ← hr', getAppMarker_found_iff]
    constructor
    · exact fun h => ⟨q, h, rfl⟩
    · rintro ⟨_, h, heq⟩
      cases heq
      exact h
  rw [hr', Option.some.injEq]
  constructor
  · rintro rfl
    exact hfound
  · intro h
    have hsame : ∀ q, r' = some (q + 1) ↔ r = some (q + 1) :=
      fun q => (hfound q).symm.trans (h q)
    have hr' : r' ≠ some 0 := by
      rintro rfl
      obtain ⟨q, -, hq⟩ := getAppMarker_found_iff.mp hr'
      cases hq
    ext (_ | q)
    · exact ⟨fun h => absurd h hr', fun h => absurd h hr⟩
    · exact hsame q

/-- An APP1 segment with the payload 0xFF, and an APP2 segment. -/
def ffPayloadJpeg : List UInt8 :=
  [0xff, 0xd8, 0xff, 0xe1, 0x00, 0x03, 0xff, 0xff, 0xe2, 0x00, 0x02]

end DeviceHal.Camera
