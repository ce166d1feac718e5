import DeviceHal.Camera.Mpo

namespace DeviceHal.Camera

open Lib

variable {buf buf' : List UInt8} {bufferSize p p' off o : Nat} {byte appMarker : UInt8}

theorem nextFF_congr (h : nextFF buf bufferSize p = some (byte, p'))
    (hsame : ∀ q < p', buf'[q]? = buf[q]?) : nextFF buf' bufferSize p = some (byte, p') := by
  induction p using nextFF.induct buf bufferSize with
  | case1 p hp hgo ih =>
    rw [nextFF, dif_pos hp, if_pos hgo] at h
    have hread := hsame p (by have hrest := nextFF_bounds h; omega)
    grind [nextFF]
  | case2 p hp hstop =>
    rw [nextFF, dif_pos hp, if_neg hstop] at h
    cases h
    have hread := hsame p (Nat.lt_succ_self p)
    grind [nextFF]
  | case3 p hp =>
    rw [nextFF, dif_neg hp] at h
    cases h

theorem readShort_congr (hsame : ∀ q, o ≤ q → q < o + 2 → buf'[q]? = buf[q]?) :
    readShort buf' o = readShort buf o := by
  unfold readShort
  rw [hsame o (by omega) (by omega), hsame (o + 1) (by omega) (by omega)]

theorem readLongAs_congr (little : Bool) (hsame : ∀ q, o ≤ q → q < o + 4 → buf'[q]? = buf[q]?) :
    readLongAs little buf' o = readLongAs little buf o := by
  grind [readLongAs, readLongLittle, readLong]

theorem getAppMarkerFrom_step (h : getAppMarkerFrom buf bufferSize appMarker p = some (some off)) :
    ∃ p' b, nextFF buf bufferSize p = some (0xff, p') ∧ buf[p']? = some b ∧
      (b = appMarker ∧ off = p' + 1 ∨
        b ≠ appMarker ∧ ∃ n, (if b ≠ mSoi then readShort buf (p' + 1) else some 0) = some n ∧
          (b ≠ mEoi ∧ p' + n + 1 < bufferSize) ∧
          getAppMarkerFrom buf bufferSize appMarker (p' + n) = some (some off)) := by
  rw [getAppMarkerFrom] at h
  split at h
  next => cases h
  next b p' hff =>
    by_cases hb : b = 0xff
    · subst hb
      rw [if_neg (by simp)] at h
      cases hb' : buf[p']? with
      | none =>
        rw [hb'] at h
        cases h
      | some b =>
        rw [hb'] at h
        dsimp only at h
        refine ⟨p', b, hff, hb', ?_⟩
        by_cases hm : b = appMarker
        · grind
        · rw [if_neg hm] at h
          refine Or.inr ⟨hm, ?_⟩
          cases hn : (if b ≠ mSoi then readShort buf (p' + 1) else some 0) with
          | none =>
            rw [hn] at h
            cases h
          | some n =>
            grind
    · rw [if_pos hb] at h
      cases h

theorem getAppMarkerFrom_bounds
    (h : getAppMarkerFrom buf bufferSize appMarker p = some (some off)) :
    p + 2 ≤ off ∧ off ≤ buf.length := by
  induction hn : buf.length - p using Nat.strongRecOn generalizing p with
  | ind n ih =>
    obtain ⟨p', b, hff, hb, hcase⟩ := getAppMarkerFrom_step h
    have hp := nextFF_bounds hff
    have hp' := (List.getElem?_eq_some_iff.mp hb).1
    rcases hcase with ⟨-, rfl⟩ | ⟨-, k, -, -, hrest⟩
    · omega
    · have hlater := ih _ (by omega) hrest rfl
      omega

theorem getAppMarkerFrom_congr
    (h : getAppMarkerFrom buf bufferSize appMarker p = some (some off))
    (hsame : ∀ q ≤ off, buf'[q]? = buf[q]?) :
    getAppMarkerFrom buf' bufferSize appMarker p = some (some off) := by
  induction hn : buf.length - p using Nat.strongRecOn generalizing p with
  | ind n ih =>
    obtain ⟨p', b, hff, hb, hcase⟩ := getAppMarkerFrom_step h
    have hp := nextFF_bounds hff
    have hp' := (List.getElem?_eq_some_iff.mp hb).1
    have hoff : p' + 1 ≤ off := by
      rcases hcase with ⟨-, rfl⟩ | ⟨-, k, -, -, hrest⟩
      · exact Nat.le_refl _
      · have hlater := getAppMarkerFrom_bounds hrest
        omega
    have hff' := nextFF_congr hff fun q hq => hsame q (by omega)
    rw [getAppMarkerFrom]
    split
    next hnone =>
      rw [hff'] at hnone
      cases hnone
    next b' p'' hsome =>
      rw [hff'] at hsome
      cases hsome
      rw [if_neg (by simp), hsame p' (by omega), hb]
      dsimp only
      rcases hcase with ⟨hm, rfl⟩ | ⟨hm, k, hk, hgo, hrest⟩
      · rw [if_pos hm]
      · have hlater := getAppMarkerFrom_bounds hrest
        have hread : readShort buf' (p' + 1) = readShort buf (p' + 1) :=
          readShort_congr fun q _ hq => hsame q (by omega)
        rw [if_neg hm, hread, hk]
        dsimp only
        rw [if_pos hgo]
        exact ih _ (by omega) hrest rfl

theorem length_longBytes (little : Bool) (value : Int) : (longBytes little value).length = 4 := by
  unfold longBytes
  split <;> rfl

theorem byteOf_nat (v k : Nat) : byteOf v k = UInt8.ofNat (v / 0x100 ^ k % 0x100) := by
  have hcast : ((v : Int) / 0x100 ^ k % 0x100) = ((v / 0x100 ^ k % 0x100 : Nat) : Int) := by
    rw [Int.natCast_emod, Int.natCast_ediv, Int.natCast_pow]
    rfl
  unfold byteOf
  rw [hcast, Int.toNat_natCast]

theorem ofNat_eq_iff {n : Nat} {b : UInt8} (h : n < 0x100) : UInt8.ofNat n = b ↔ n = b.toNat := by
  constructor
  · rintro rfl
    exact (UInt8.toNat_ofNat_of_lt' h).symm
  · rintro rfl
    exact UInt8.ofNat_toNat

theorem readLongAs_iff (little : Bool) {v : Nat} (hv : v < 0x100000000) :
    readLongAs little buf o = some v ↔
      ∀ k, k < 4 → buf[o + k]? = (longBytes little v)[k]? := by
  have hall : (∀ k, k < 4 → buf[o + k]? = (longBytes little v)[k]?) ↔
      buf[o]? = (longBytes little v)[0]? ∧ buf[o + 1]? = (longBytes little v)[1]? ∧
        buf[o + 2]? = (longBytes little v)[2]? ∧ buf[o + 3]? = (longBytes little v)[3]? := by
    constructor
    · grind
    · rintro ⟨h0, h1, h2, h3⟩ k hk
      match k, hk with
      | 0, _ => exact h0
      | 1, _ => exact h1
      | 2, _ => exact h2
      | 3, _ => exact h3
  rw [hall]
  unfold readLongAs readLongLittle readLong longBytes
  cases buf[o]? with
  | none => cases little <;> simp
  | some b0 =>
  cases buf[o + 1]? with
  | none => cases little <;> simp
  | some b1 =>
  cases buf[o + 2]? with
  | none => cases little <;> simp
  | some b2 =>
  cases buf[o + 3]? with
  | none => cases little <;> simp
  | some b3 =>
    have h0 := b0.toNat_lt
    have h1 := b1.toNat_lt
    have h2 := b2.toNat_lt
    have h3 := b3.toNat_lt
    simp only [byteOf_nat]
    cases little
    · simp only [Bool.false_eq_true, if_false, Option.some.injEq, List.getElem?_cons_zero,
        List.getElem?_cons_succ]
      simp only [eq_comm (b := UInt8.ofNat _), ofNat_eq_iff (Nat.mod_lt _ (by decide : 0 < 0x100))]
      omega
    · simp only [if_true, Option.some.injEq, List.getElem?_cons_zero, List.getElem?_cons_succ]
      simp only [eq_comm (b := UInt8.ofNat _), ofNat_eq_iff (Nat.mod_lt _ (by decide : 0 < 0x100))]
      omega

/-- Where a reader finds the MP header, its byte order, the MP index IFD and the two bytes of the
number of its tags. -/
structure MpIndex where
  mpHeader : Nat
  little : Bool
  ifd : Nat
  count : UInt8 × UInt8
deriving DecidableEq

def MpIndex.tagCount (little : Bool) (idx : MpIndex) : Nat :=
  if little then idx.count.2.toNat * 0x100 + idx.count.1.toNat
  else idx.count.1.toNat * 0x100 + idx.count.2.toNat

/-- The first MP entry, if the number of tags is read in the byte order. -/
def MpIndex.entryAt (little : Bool) (idx : MpIndex) : Nat :=
  idx.ifd + 2 + idx.tagCount little * 12 + 4

/-- The first MP entry in the byte order of the header. -/
def MpIndex.entry (idx : MpIndex) : Nat := idx.entryAt idx.little

def mpIndex (buf : List UInt8) (bufferSize : Nat) : Option MpIndex :=
  match mmJpegMpoGetAppMarker buf bufferSize mApp2 with
  | some (some app2) =>
    let mpHeader := mmJpegMpoGetMpHeader app2
    (readLong buf mpHeader).bind fun endianess =>
    let little : Bool := endianess = mpoLittleEndian
    (readLongAs little buf (mpHeader + 4)).bind fun offsetToNxtIfd =>
    let ifd := mpHeader + offsetToNxtIfd
    buf[ifd]?.bind fun b0 => buf[ifd + 1]?.map fun b1 => ⟨mpHeader, little, ifd, (b0, b1)⟩
  | _ => none

/-- What is read of a buffer with an MP index. -/
structure MpIndexAt (buf : List UInt8) (bufferSize : Nat) (idx : MpIndex)
    (app2 endianess offsetToNxtIfd : Nat) : Prop where
  marker : mmJpegMpoGetAppMarker buf bufferSize mApp2 = some (some app2)
  mpHeader : idx.mpHeader = app2 + 6
  order : readLong buf idx.mpHeader = some endianess
  little : idx.little = decide (endianess = mpoLittleEndian)
  offset : readLongAs idx.little buf (idx.mpHeader + 4) = some offsetToNxtIfd
  ifd : idx.ifd = idx.mpHeader + offsetToNxtIfd
  count : buf[idx.ifd]? = some idx.count.1 ∧ buf[idx.ifd + 1]? = some idx.count.2

theorem mpIndex_eq_some {idx : MpIndex} :
    mpIndex buf bufferSize = some idx ↔
      ∃ app2 endianess offset, MpIndexAt buf bufferSize idx app2 endianess offset := by
  constructor
  · intro h
    unfold mpIndex at h
    split at h
    next app2 happ2 =>
      obtain ⟨endianess, hend, h⟩ := Option.bind_eq_some_iff.mp h
      obtain ⟨offset, hoff, h⟩ := Option.bind_eq_some_iff.mp h
      obtain ⟨b0, hb0, h⟩ := Option.bind_eq_some_iff.mp h
      obtain ⟨b1, hb1, rfl⟩ := Option.map_eq_some_iff.mp h
      exact ⟨app2, endianess, offset, happ2, rfl, hend, rfl, hoff, rfl, hb0, hb1⟩
    next => cases h
  · rintro ⟨app2, endianess, offset, h⟩
    have hheader : mmJpegMpoGetMpHeader app2 = idx.mpHeader := h.mpHeader.symm
    unfold mpIndex
    rw [h.marker]
    dsimp only
    rw [hheader, h.order, Option.bind_some, ← h.little, h.offset, Option.bind_some, ← h.ifd,
      h.count.1, Option.bind_some, h.count.2]
    rfl

theorem mpIndex_congr {idx : MpIndex} (h : mpIndex buf bufferSize = some idx)
    (hsame : ∀ q, q < idx.ifd + 8 → buf'[q]? = buf[q]?) :
    mpIndex buf' bufferSize = some idx := by
  obtain ⟨app2, endianess, offset, h⟩ := mpIndex_eq_some.mp h
  have hheader := h.mpHeader
  have hifd := h.ifd
  refine mpIndex_eq_some.mpr ⟨app2, endianess, offset, ?_, h.mpHeader, ?_, h.little, ?_, h.ifd, ?_⟩
  · exact getAppMarkerFrom_congr h.marker fun q hq => hsame q (by omega)
  · have hread := @readLongAs_congr buf buf' idx.mpHeader false fun q _ hq => hsame q (by omega)
    exact hread.trans h.order
  · rw [readLongAs_congr idx.little fun q _ hq => hsame q (by omega)]
    exact h.offset
  · rw [hsame _ (by omega), hsame _ (by omega)]
    exact h.count

/-- What belongs into the MP entries of the auxiliary images after an entry. -/
def auxFields (little : Bool) (mpHeader : Nat) :
    List (List UInt8) → Nat → Nat → List (Nat × List UInt8)
  | [], _, _ => []
  | img :: rest, entry, auxStart =>
    (entry + 20, longBytes little img.length) ::
      (entry + 24, longBytes little (auxStart - mpHeader : Int)) ::
      auxFields little mpHeader rest (entry + 16) (auxStart + img.length)

/-- What belongs into the MP entries if the first one is at `entry`. -/
def MpoInfo.fields (info : MpoInfo) (idx : MpIndex) (entry : Nat) : List (Nat × List UInt8) :=
  (entry + 4, longBytes idx.little info.primaryImage.length) ::
    auxFields idx.little idx.mpHeader info.auxImages entry info.primaryImage.length

end DeviceHal.Camera

namespace DeviceHal.Camera

open Lib

variable {bytes : List UInt8} {little : Bool} {o size mpHeader entry auxStart : Nat} {value : Int}
  {auxs : List (List UInt8)}

theorem uint32_of_lt {n : Nat} (h : n < 0x100000000) : uint32 n = n := Nat.mod_eq_of_lt h

theorem writeLongAs_eq (little : Bool) (o size : Nat) (value : Int) (s : Bool × List UInt8) :
    writeLongAs little o size value s = writeLong little o size value s := by
  unfold writeLongAs
  cases little <;> rfl

theorem writeLongAs_overflowed :
    writeLongAs little o size value (true, bytes) = some (true, bytes) := by
  rw [writeLongAs_eq]
  unfold writeLong
  rw [Bool.true_or]
  rfl

theorem writeLongAs_inside (hsize : bytes.length = size) (hsmall : size < 0x80000000)
    (h : o + 4 ≤ size) : writeLongAs little o size value (false, bytes) =
      some (false, overwrite o (longBytes little value) bytes) := by
  have hin : ¬size ≤ uint32 (o + 3) := by
    rw [uint32_of_lt (by omega)]
    omega
  rw [writeLongAs_eq]
  unfold writeLong
  grind

theorem writeLongAs_outside (ho : o + 3 < 0x100000000) (h : size < o + 4) :
    writeLongAs little o size value (false, bytes) = some (true, bytes) := by
  have hout : size ≤ uint32 (o + 3) := by
    rw [uint32_of_lt ho]
    omega
  rw [writeLongAs_eq]
  unfold writeLong
  dsimp only
  rw [Bool.false_or, if_pos (by simpa using hout)]

theorem entryLoop_overflowed : entryLoop little size mpHeader auxs entry auxStart (true, bytes) =
    some (true, bytes) := by
  induction auxs generalizing entry auxStart with
  | nil => rfl
  | cons img rest ih =>
    simpa [entryLoop, writeLongAs_overflowed, Option.bind_some] using ih

theorem fits_cons {f : Nat × List UInt8} {fields : List (Nat × List UInt8)} {n : Nat} :
    Fits (f :: fields) n ↔ f.1 + f.2.length ≤ n ∧ Fits fields n :=
  List.forall_mem_cons

theorem entryLoop_cases (hsize : bytes.length = size) (hsmall : size < 0x80000000)
    (hentry : entry < 0x80200000) :
    (Fits (auxFields little mpHeader auxs entry auxStart) size ∧
      entryLoop little size mpHeader auxs entry auxStart (false, bytes) =
        some (false, overwriteAll (auxFields little mpHeader auxs entry auxStart) bytes)) ∨
    ¬Fits (auxFields little mpHeader auxs entry auxStart) size ∧
      ∃ bytes', entryLoop little size mpHeader auxs entry auxStart (false, bytes) =
        some (true, bytes') := by
  induction auxs generalizing entry auxStart bytes with
  | nil => exact Or.inl ⟨fun f hf => (by cases hf), rfl⟩
  | cons img rest ih =>
    unfold entryLoop auxFields
    dsimp only
    rw [uint32_of_lt (by omega : entry + 16 < 0x100000000),
      uint32_of_lt (by omega : entry + 16 + 4 < 0x100000000),
      uint32_of_lt (by omega : entry + 16 + 4 + 4 < 0x100000000)]
    simp only [fits_cons, length_longBytes]
    by_cases hfirst : entry + 16 + 4 + 4 ≤ size
    · rw [writeLongAs_inside hsize hsmall hfirst, Option.bind_some]
      have hlen : (overwrite (entry + 16 + 4) (longBytes little img.length) bytes).length = size := by
        rw [length_overwrite (by rw [length_longBytes]; omega), hsize]
      by_cases hsecond : entry + 16 + 4 + 4 + 4 ≤ size
      · rw [writeLongAs_inside hlen hsmall hsecond, Option.bind_some]
        have hlen' : (overwrite (entry + 16 + 4 + 4) (longBytes little (auxStart - mpHeader : Int))
            (overwrite (entry + 16 + 4) (longBytes little img.length) bytes)).length = size := by
          rw [length_overwrite (by rw [length_longBytes]; omega), hlen]
        rcases @ih _ (entry + 16) (auxStart + img.length) hlen' (by omega) with
          ⟨hfits, heq⟩ | ⟨hnot, hover⟩
        · exact Or.inl ⟨⟨by omega, by omega, hfits⟩, heq⟩
        · exact Or.inr ⟨fun h => hnot h.2.2, hover⟩
      · rw [writeLongAs_outside (by omega) (by omega), Option.bind_some, entryLoop_overflowed]
        exact Or.inr ⟨fun h => by omega, _, rfl⟩
    · rw [writeLongAs_outside (by omega) (by omega), Option.bind_some, writeLongAs_overflowed,
        Option.bind_some, entryLoop_overflowed]
      exact Or.inr ⟨fun h => by omega, _, rfl⟩

theorem updateHeader_cases {info : MpoInfo} {idx : MpIndex}
    (hidx : mpIndex bytes info.primaryImage.length = some idx)
    (hsmall : bytes.length < 0x80000000) :
    (Fits (info.fields idx (idx.entryAt false)) bytes.length ∧
      mmJpegMpoUpdateHeader info bytes =
        some (0, overwriteAll (info.fields idx (idx.entryAt false)) bytes)) ∨
    ¬Fits (info.fields idx (idx.entryAt false)) bytes.length ∧
      ∃ bytes', mmJpegMpoUpdateHeader info bytes = some (-1, bytes') := by
  obtain ⟨app2, endianess, offset, h⟩ := mpIndex_eq_some.mp hidx
  have hheader : mmJpegMpoGetMpHeader app2 = idx.mpHeader := h.mpHeader.symm
  have hifd := (List.getElem?_eq_some_iff.mp h.count.1).1
  have hshort : readShort bytes idx.ifd = some (idx.tagCount false) := by
    unfold readShort
    rw [h.count.1, h.count.2]
    rfl
  have htags : idx.tagCount false < 0x10000 := by
    have h0 := idx.count.1.toNat_lt
    have h1 := idx.count.2.toNat_lt
    unfold MpIndex.tagCount
    rw [if_neg Bool.false_ne_true]
    omega
  have hat : uint32 (idx.ifd + 2 + idx.tagCount false * 12 + 4) = idx.entryAt false :=
    uint32_of_lt (by omega)
  have hentry : idx.entryAt false < 0x80200000 := by
    unfold MpIndex.entryAt
    omega
  unfold mmJpegMpoUpdateHeader
  rw [h.marker, Option.bind_some]
  dsimp only
  rw [hheader, h.order, Option.bind_some, ← h.little, h.offset, Option.bind_some, ← h.ifd,
    uint32_of_lt (by omega), hshort, Option.bind_some, hat, uint32_of_lt (by omega)]
  unfold MpoInfo.fields
  simp only [fits_cons, length_longBytes]
  by_cases hfirst : idx.entryAt false + 4 + 4 ≤ bytes.length
  · rw [writeLongAs_inside rfl hsmall hfirst, Option.bind_some]
    have hlen : (overwrite (idx.entryAt false + 4) (longBytes idx.little info.primaryImage.length)
        bytes).length = bytes.length :=
      length_overwrite (by rw [length_longBytes]; omega)
    rcases @entryLoop_cases _ idx.little _ idx.mpHeader (idx.entryAt false)
      info.primaryImage.length info.auxImages hlen hsmall hentry with
      ⟨hfits, heq⟩ | ⟨hnot, bytes', heq⟩
    · rw [heq]
      exact Or.inl ⟨⟨hfirst, hfits⟩, rfl⟩
    grind
  · rw [writeLongAs_outside (by omega) (by omega), Option.bind_some, entryLoop_overflowed]
    exact Or.inr ⟨fun hall => hfirst hall.1, bytes, rfl⟩

theorem appendLoop_fits {b : MpoBuff} (h : b.bufFilledLen + auxs.flatten.length ≤ b.bytes.length) :
    appendLoop auxs b = (0, ⟨overwrite b.bufFilledLen auxs.flatten b.bytes,
      b.bufFilledLen + auxs.flatten.length⟩) := by
  induction auxs generalizing b with
  | nil =>
    rw [List.flatten_nil, overwrite_nil]
    rfl
  | cons img rest ih =>
    rw [List.flatten_cons, List.length_append] at h ⊢
    have hfits : b.bufFilledLen + img.length ≤ b.bytes.length := by omega
    have hlen : (overwrite b.bufFilledLen img b.bytes).length = b.bytes.length :=
      length_overwrite hfits
    rw [appendLoop, if_pos hfits, ih (by dsimp only; omega), overwrite_append (by omega),
      Nat.add_assoc]

theorem appendLoop_overflows {b : MpoBuff}
    (h : b.bytes.length < b.bufFilledLen + auxs.flatten.length)
    (hb : b.bufFilledLen ≤ b.bytes.length) :
    (appendLoop auxs b).1 = -1 ∧ b.bufFilledLen ≤ (appendLoop auxs b).2.bufFilledLen := by
  induction auxs generalizing b with
  | nil =>
    rw [List.flatten_nil, List.length_nil] at h
    omega
  | cons img rest ih =>
    rw [List.flatten_cons, List.length_append] at h
    unfold appendLoop
    split
    next hfits =>
      have hlen : (overwrite b.bufFilledLen img b.bytes).length = b.bytes.length :=
        length_overwrite hfits
      grind
    next => exact ⟨rfl, Nat.le_refl _⟩

end DeviceHal.Camera
