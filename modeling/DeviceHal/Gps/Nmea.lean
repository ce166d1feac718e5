import DeviceHal.Lib.CText
import DeviceHal.Lib.Slices

namespace DeviceHal.Gps

open Lib

inductive GnssSvType where
  | unknown
  | gps
  | sbas
  | glonass
  | qzss
  | beidou
  | galileo
deriving DecidableEq, Repr

def gnssSvMax : Nat := 64
def gnssSvOptionsUsedInFixBit : UInt16 := 4
def glonassSvIdOffset : Nat := 64
def nmeaSentenceMaxLength : Nat := 200

/-- What the code does with a `float` of type `F`: `(int)(0.5 + x)`, `x > 0` and `%.1f`. -/
structure FloatOps (F : Type) where
  rounded : F → Int32
  positive : F → Bool
  fixed1 : F → List Char

structure GnssSv (F : Type) where
  svId : UInt16
  type : GnssSvType
  cN0Dbhz : F
  elevation : F
  azimuth : F
  gnssSvOptionsMask : UInt16
deriving DecidableEq, Repr

/-- The first `count` entries of the array. -/
structure GnssSvNotification (F : Type) where
  gnssSvs : List (GnssSv F)
  count_le : gnssSvs.length ≤ gnssSvMax

/-- The used masks are 32 bits wide. The DOP values, which a position report caches, are left
out. -/
structure SvCacheInfo where
  gpsUsedMask : BitVec 32 := 0
  gloUsedMask : BitVec 32 := 0
  galUsedMask : BitVec 32 := 0
  qzssUsedMask : BitVec 32 := 0
  bdsUsedMask : BitVec 32 := 0
  gpsCount : Nat := 0
  gloCount : Nat := 0
  galCount : Nat := 0
  qzssCount : Nat := 0
  bdsCount : Nat := 0
deriving DecidableEq, Repr

structure LocNmeaSvMeta where
  talker : List Char
  svType : GnssSvType
  mask : BitVec 32
  svCount : Nat
  svIdOffset : Nat
  systemId : Nat
deriving DecidableEq, Repr

/-- `loc_nmea_sv_meta_init` before the talker is combined. -/
def svMeta (cache : SvCacheInfo) (svType : GnssSvType) : Option LocNmeaSvMeta :=
  match svType with
  | .gps => some ⟨['G', 'P'], svType, cache.gpsUsedMask, cache.gpsCount, 0, 1⟩
  | .glonass =>
    some ⟨['G', 'L'], svType, cache.gloUsedMask, cache.gloCount, glonassSvIdOffset, 2⟩
  | .galileo => some ⟨['G', 'A'], svType, cache.galUsedMask, cache.galCount, 0, 3⟩
  | .qzss => some ⟨['P', 'Q'], svType, cache.qzssUsedMask, cache.qzssCount, 0, 5⟩
  | .beidou => some ⟨['P', 'Q'], svType, cache.bdsUsedMask, cache.bdsCount, 0, 4⟩
  | .unknown | .sbas => none

/-- How many constellations have satellites used in the fix. -/
def combined (cache : SvCacheInfo) : Nat :=
  [cache.gpsUsedMask, cache.gloUsedMask, cache.galUsedMask, cache.qzssUsedMask,
    cache.bdsUsedMask].countP (· ≠ 0)

def locNmeaSvMetaInit (cache : SvCacheInfo) (svType : GnssSvType) (needCombine : Bool) :
    Option LocNmeaSvMeta :=
  (svMeta cache svType).map fun sv_meta =>
    if needCombine && decide (combined cache > 1) then { sv_meta with talker := ['G', 'N'] }
    else sv_meta

def xorBytes (text : List Char) : UInt8 :=
  text.foldl (fun checksum c => checksum ^^^ c.toNat.toUInt8) 0

/-- The sentence with its checksum, in a buffer of `maxSize`. -/
def locNmeaPutChecksum (maxSize : Nat) : List Char → List Char
  | [] => []
  | dollar :: body =>
    dollar :: body ++
      ('*' :: fmtHexByte (xorBytes body) ++ ['\r', '\n']).take (maxSize - body.length - 1 - 1)

section GSV

variable {F : Type} (ops : FloatOps F)

/-- One satellite: number, elevation, azimuth, and the signal strength if there is one. -/
def gsvEntry (sv_meta : LocNmeaSvMeta) (sv : GnssSv F) (b : CBuf) : Option CBuf :=
  (b.tryPrint (',' :: fmtInt 2 (sv.svId.toNat + sv_meta.svIdOffset : Nat) ++
    ',' :: fmtInt 2 (ops.rounded sv.elevation).toInt ++
    ',' :: fmtInt 3 (ops.rounded sv.azimuth).toInt ++ [','])).bind fun b =>
  if ops.positive sv.cN0Dbhz then b.tryPrint (fmtInt 2 (ops.rounded sv.cN0Dbhz).toInt)
  else some b

/-- The loop over the satellites of one sentence. It returns those that the cursor has not come
to. -/
def gsvFill (sv_meta : LocNmeaSvMeta) : Nat → List (GnssSv F) → CBuf →
    Option (CBuf × List (GnssSv F))
  | _, [], b => some (b, [])
  | i, sv :: rest, b =>
    if i < 4 then
      if sv_meta.svType = sv.type then
        (gsvEntry ops sv_meta sv b).bind fun b => gsvFill sv_meta (i + 1) rest b
      else gsvFill sv_meta i rest b
    else some (b, sv :: rest)

/-- The loop over the sentences: `left` are still to come. A text that does not fit ends it. -/
def gsvSentences (sv_meta : LocNmeaSvMeta) (bufSize sentenceCount : Nat) :
    Nat → Nat → List (GnssSv F) → List (List Char)
  | 0, _, _ => []
  | left + 1, sentenceNumber, svs =>
    match (CBuf.empty bufSize).tryPrint ('$' :: sv_meta.talker ++ ['G', 'S', 'V', ','] ++
        fmtInt 0 sentenceCount ++ ',' :: fmtInt 0 sentenceNumber ++
        ',' :: fmtInt 2 sv_meta.svCount) with
    | none => []
    | some b =>
      match gsvFill ops sv_meta 0 svs b with
      | none => []
      | some (b, svs) =>
        -- the signal id, which is 0, and the system id
        let b :=
          if sv_meta.svType = .qzss ∨ sv_meta.svType = .beidou then
            b.print (',' :: fmtInt 0 0 ++ ',' :: fmtInt 0 sv_meta.systemId)
          else b
        locNmeaPutChecksum bufSize b.text ::
          gsvSentences sv_meta bufSize sentenceCount left (sentenceNumber + 1) svs

def locNmeaGenerateGSV (svs : List (GnssSv F)) (bufSize : Nat) (sv_meta : LocNmeaSvMeta) :
    List (List Char) :=
  if sv_meta.svCount = 0 then
    [locNmeaPutChecksum bufSize ((CBuf.empty bufSize).print
      ('$' :: sv_meta.talker ++ "GSV,1,1,0,".toList)).text]
  else
    let sentenceCount := sv_meta.svCount / 4 + if sv_meta.svCount % 4 ≠ 0 then 1 else 0
    gsvSentences ops sv_meta bufSize sentenceCount sentenceCount 1 svs

def GnssSv.usedInFix (sv : GnssSv F) : Bool :=
  sv.gnssSvOptionsMask &&& gnssSvOptionsUsedInFixBit = gnssSvOptionsUsedInFixBit

/-- `1 << (svId - 1)`. The shift of an `int` by a count out of its width is undefined: `wide` is
what it gives. -/
def svBit (wide : Nat → BitVec 32) (svId : Nat) : BitVec 32 :=
  if 1 ≤ svId ∧ svId ≤ 32 then 1#32 <<< (svId - 1) else wide svId

def orUsed (wide : Nat → BitVec 32) (sv : GnssSv F) (mask : BitVec 32) : BitVec 32 :=
  if sv.usedInFix then mask ||| svBit wide sv.svId.toNat else mask

/-- One round of the loop that counts the satellites and caches which are used. -/
def countSv (wide : Nat → BitVec 32) (cache : SvCacheInfo) (sv : GnssSv F) : SvCacheInfo :=
  match sv.type with
  | .gps =>
    { cache with
      gpsUsedMask := orUsed wide sv cache.gpsUsedMask
      gpsCount := cache.gpsCount + 1 }
  | .glonass =>
    { cache with
      gloUsedMask := orUsed wide sv cache.gloUsedMask
      gloCount := cache.gloCount + 1 }
  | .galileo =>
    { cache with
      galUsedMask := orUsed wide sv cache.galUsedMask
      galCount := cache.galCount + 1 }
  | .qzss =>
    { cache with
      qzssUsedMask := orUsed wide sv cache.qzssUsedMask
      qzssCount := cache.qzssCount + 1 }
  | .beidou =>
    { cache with
      bdsUsedMask := orUsed wide sv cache.bdsUsedMask
      bdsCount := cache.bdsCount + 1 }
  | .unknown | .sbas => cache

/-- The constellations that are reported, in the order of their sentences. -/
def constellations : List GnssSvType := [.gps, .glonass, .galileo, .qzss, .beidou]

def countSvs (wide : Nat → BitVec 32) (svs : List (GnssSv F)) : SvCacheInfo :=
  svs.foldl (countSv wide) {}

/-- The cache that is left for the next position report, and the sentences. `none` would be a
constellation without metadata. -/
def locNmeaGenerateSv (wide : Nat → BitVec 32) (svNotify : GnssSvNotification F) :
    Option (SvCacheInfo × List (List Char)) :=
  let cache := countSvs wide svNotify.gnssSvs
  (constellations.mapM fun svType => (locNmeaSvMetaInit cache svType false).map
    (locNmeaGenerateGSV ops svNotify.gnssSvs nmeaSentenceMaxLength)).map
      fun sentences => (cache, sentences.flatten)

end GSV

section GSA

/-- The DOP values of a position report, if its flags say that it has them. -/
structure GpsLocationExtended (F : Type) where
  hasDop : Bool
  pdop : F
  hdop : F
  vdop : F
deriving DecidableEq, Repr

/-- The loop that reads the ids out of a mask. A mask of 32 bits is 0 after 32 rounds. -/
def usedLoop (svIdOffset : Nat) : Nat → Nat → BitVec 32 → List Nat → List Nat
  | 0, _, _, used => used
  | rounds + 1, i, mask, used =>
    if mask ≠ 0 ∧ used.length < 32 then
      usedLoop svIdOffset rounds (i + 1) (mask >>> 1)
        (if mask &&& 1 ≠ 0 then used ++ [i + svIdOffset] else used)
    else used

def svUsedList (sv_meta : LocNmeaSvMeta) : List Nat :=
  usedLoop sv_meta.svIdOffset 32 1 sv_meta.mask []

/-- The field of a satellite that is used, or a blank one. -/
def gsaField (used : List Nat) (i : Nat) : List Char :=
  match used[i]? with
  | some svId => fmtInt 2 svId ++ [',']
  | none => [',']

def gsaFields (used : List Nat) : Nat → Nat → CBuf → Option CBuf
  | 0, _, b => some b
  | left + 1, i, b => (b.tryPrint (gsaField used i)).bind fun b => gsaFields used left (i + 1) b

def fixType (svUsedCount : Nat) : Char :=
  if svUsedCount = 0 then '1' else if svUsedCount ≤ 3 then '2' else '3'

variable {F : Type} (ops : FloatOps F)

/-- The sentence, if there is one, and the number of satellites used. -/
def locNmeaGenerateGSA (locationExtended : GpsLocationExtended F) (bufSize : Nat)
    (sv_meta : Option LocNmeaSvMeta) : List (List Char) × Nat :=
  match sv_meta with
  | none => ([], 0)
  | some sv_meta =>
    let used := svUsedList sv_meta
    if used = [] ∧ sv_meta.svType ≠ .gps then ([], 0)
    else
      match ((CBuf.empty bufSize).tryPrint ('$' :: sv_meta.talker ++ "GSA,A,".toList ++
          [fixType used.length, ','])).bind (gsaFields used 12 0) with
      | none => ([], 0)
      | some b =>
        let b := b.print (
          if locationExtended.hasDop then
            ops.fixed1 locationExtended.pdop ++ ',' :: ops.fixed1 locationExtended.hdop ++
              ',' :: ops.fixed1 locationExtended.vdop ++ [',']
          else [',', ',', ','])
        let b := b.print (fmtInt 0 sv_meta.systemId)
        ([locNmeaPutChecksum bufSize b.text], used.length)

end GSA

def nmeaFrame (body : List Char) : List Char :=
  '$' :: body ++ '*' :: fmtHexByte (xorBytes body) ++ ['\r', '\n']

theorem locNmeaPutChecksum_eq {maxSize : Nat} {body : List Char}
    (h : body.length + 7 ≤ maxSize) :
    locNmeaPutChecksum maxSize ('$' :: body) = nmeaFrame body := by
  unfold locNmeaPutChecksum nmeaFrame
  dsimp only
  rw [List.take_of_length_le]
  · simp
  · simp only [List.cons_append, List.length_cons, List.length_append, fmtHexByte_length,
      List.length_nil]
    omega

theorem mapM_map_eq {α β : Type} {f : α → Option β} {g : α → β} {l : List α}
    (h : ∀ a ∈ l, f a = some (g a)) : l.mapM f = some (l.map g) := by
  induction l with
  | nil => rfl
  | cons a l ih =>
    grind

section Entry

variable {F : Type} (ops : FloatOps F)

theorem rounded_natAbs_lt (n : Int32) : n.toInt.natAbs < 10 ^ 10 := by
  have hlow := n.le_toInt
  have hhigh := n.toInt_lt
  omega

def entryText (svIdOffset : Nat) (sv : GnssSv F) : List Char :=
  ',' :: fmtInt 2 (sv.svId.toNat + svIdOffset : Nat) ++
    ',' :: fmtInt 2 (ops.rounded sv.elevation).toInt ++
    ',' :: fmtInt 3 (ops.rounded sv.azimuth).toInt ++ [','] ++
    if ops.positive sv.cN0Dbhz then fmtInt 2 (ops.rounded sv.cN0Dbhz).toInt else []

theorem entryText_length_le {svIdOffset : Nat} (ho : svIdOffset ≤ 64) (sv : GnssSv F) :
    (entryText ops svIdOffset sv).length ≤ 42 := by
  have hid : (fmtInt 2 (sv.svId.toNat + svIdOffset : Nat)).length ≤ 5 := by
    refine fmtNat_length_le (by decide) (by decide) ?_
    have := sv.svId.toNat_lt
    omega
  have hel := fmtInt_length_le 2 10 (by decide) (by decide)
    (rounded_natAbs_lt (ops.rounded sv.elevation))
  have haz := fmtInt_length_le 3 10 (by decide) (by decide)
    (rounded_natAbs_lt (ops.rounded sv.azimuth))
  have hcn := fmtInt_length_le 2 10 (by decide) (by decide)
    (rounded_natAbs_lt (ops.rounded sv.cN0Dbhz))
  unfold entryText
  split
  · simp only [List.length_append, List.length_cons, List.length_nil]
    omega
  · simp only [List.length_append, List.length_cons, List.length_nil]
    omega

variable {sv_meta : LocNmeaSvMeta}

theorem gsvEntry_eq {sv : GnssSv F} {b : CBuf}
    (hroom : (entryText ops sv_meta.svIdOffset sv).length < b.room) :
    gsvEntry ops sv_meta sv b = some (b.append (entryText ops sv_meta.svIdOffset sv)) := by
  unfold gsvEntry
  unfold entryText at hroom ⊢
  rw [List.length_append] at hroom
  rw [CBuf.tryPrint_of_lt (by omega), Option.bind_some]
  split
  next hpos =>
    rw [if_pos hpos] at hroom
    rw [CBuf.tryPrint_of_lt (by rw [CBuf.append_room]; omega), CBuf.append_append]
  next => rw [List.append_nil]

theorem gsvFill_eq (ho : sv_meta.svIdOffset ≤ 64) {i : Nat}
    (hi : i ≤ 4) (svs : List (GnssSv F)) {b : CBuf} (hroom : (4 - i) * 42 < b.room) :
    ∃ rest, gsvFill ops sv_meta i svs b =
        some (b.append (((svs.filter (sv_meta.svType = ·.type)).take (4 - i)).flatMap
          (entryText ops sv_meta.svIdOffset)), rest) ∧
      rest.filter (sv_meta.svType = ·.type) =
        (svs.filter (sv_meta.svType = ·.type)).drop (4 - i) := by
  induction svs generalizing i b with
  | nil => exact ⟨[], by simp [gsvFill], by simp⟩
  | cons sv svs ih =>
    unfold gsvFill
    by_cases hlt : i < 4
    · rw [if_pos hlt]
      by_cases ht : sv_meta.svType = sv.type
      · have hlen := entryText_length_le ops ho sv
        obtain ⟨rest, hfill, hrest⟩ := ih (i := i + 1) (by omega)
          (b := b.append (entryText ops sv_meta.svIdOffset sv)) (by rw [CBuf.append_room]; omega)
        have hn : 4 - i = 4 - (i + 1) + 1 := by omega
        rw [if_pos ht, gsvEntry_eq ops (by omega), Option.bind_some, hfill,
          List.filter_cons_of_pos (by simpa using ht), hn]
        refine ⟨rest, by simp, ?_⟩
        rw [hrest, List.drop_succ_cons]
      grind
    · have hn : 4 - i = 0 := by omega
      rw [if_neg hlt, hn]
      exact ⟨sv :: svs, by simp, rfl⟩

/-- The signal id and the system id stand at the end for two of the constellations. -/
def gsvTail (svType : GnssSvType) (systemId : Nat) : List Char :=
  if svType = .qzss ∨ svType = .beidou then ',' :: fmtInt 0 0 ++ ',' :: fmtInt 0 systemId else []

/-- The body of a sentence that lists some of the satellites. -/
def gsvBody (sv_meta : LocNmeaSvMeta) (sentenceCount sentenceNumber : Nat)
    (svs : List (GnssSv F)) : List Char :=
  sv_meta.talker ++ ['G', 'S', 'V', ','] ++ fmtInt 0 sentenceCount ++
    ',' :: fmtInt 0 sentenceNumber ++ ',' :: fmtInt 2 sv_meta.svCount ++
    (svs.flatMap (entryText ops sv_meta.svIdOffset) ++ gsvTail sv_meta.svType sv_meta.systemId)

/-- What holds of the metadata of each constellation. -/
structure MetaFits (sv_meta : LocNmeaSvMeta) : Prop where
  talker : sv_meta.talker.length = 2
  offset : sv_meta.svIdOffset ≤ 64
  tail : (gsvTail sv_meta.svType sv_meta.systemId).length ≤ 4
  count : sv_meta.svCount ≤ gnssSvMax

theorem entries_length_le {svIdOffset : Nat} (ho : svIdOffset ≤ 64) (svs : List (GnssSv F)) :
    (svs.flatMap (entryText ops svIdOffset)).length ≤ svs.length * 42 := by
  induction svs with
  | nil => exact Nat.zero_le _
  | cons sv svs ih =>
    have hlen := entryText_length_le ops ho sv
    grind

theorem printTail_eq {b : CBuf}
    (hroom : (gsvTail sv_meta.svType sv_meta.systemId).length < b.room) :
    (if sv_meta.svType = .qzss ∨ sv_meta.svType = .beidou then
      b.print (',' :: fmtInt 0 0 ++ ',' :: fmtInt 0 sv_meta.systemId)
    else b) = b.append (gsvTail sv_meta.svType sv_meta.systemId) := by
  unfold gsvTail at hroom ⊢
  split
  next h =>
    rw [if_pos h] at hroom
    rw [CBuf.print_of_lt hroom]
  next => rw [CBuf.append_nil]

theorem gsvSentences_eq (hm : MetaFits sv_meta) {sentenceCount : Nat}
    (hc : sentenceCount ≤ 16) {left sentenceNumber : Nat}
    (hn : sentenceNumber + left ≤ sentenceCount + 1) (svs : List (GnssSv F)) :
    gsvSentences ops sv_meta nmeaSentenceMaxLength sentenceCount left sentenceNumber svs =
      (slices 4 left (svs.filter (sv_meta.svType = ·.type))).mapIdx fun k chunk =>
        nmeaFrame (gsvBody ops sv_meta sentenceCount (sentenceNumber + k) chunk) := by
  induction left generalizing sentenceNumber svs with
  | zero => rfl
  | succ left ih =>
    have hnum : (fmtInt 0 sentenceNumber).length ≤ 2 :=
      fmtNat_length_le (by decide) (by decide) (by omega)
    have htotal : (fmtInt 0 sentenceCount).length ≤ 2 :=
      fmtNat_length_le (by decide) (by decide) (by omega)
    have hcount : (fmtInt 2 sv_meta.svCount).length ≤ 2 := by
      have hmax := hm.count
      unfold gnssSvMax at hmax
      exact fmtNat_length_le (by decide) (by decide) (by omega)
    have htalker := hm.talker
    have htail := hm.tail
    let head := '$' :: sv_meta.talker ++ ['G', 'S', 'V', ','] ++ fmtInt 0 sentenceCount ++
      ',' :: fmtInt 0 sentenceNumber ++ ',' :: fmtInt 2 sv_meta.svCount
    have hhead : head.length ≤ 15 := by
      simp only [head, List.length_append, List.length_cons, List.length_nil]
      omega
    obtain ⟨rest, hfill, hrest⟩ := gsvFill_eq ops hm.offset (Nat.zero_le 4) svs
      (b := (CBuf.empty nmeaSentenceMaxLength).append head)
      (by rw [CBuf.append_room]; change _ < 200 - _; omega)
    let chunk := (svs.filter (sv_meta.svType = ·.type)).take 4
    have hchunk := entries_length_le ops hm.offset chunk
    have hfour : chunk.length ≤ 4 := List.length_take_le _ _
    have hroom : (gsvTail sv_meta.svType sv_meta.systemId).length <
        (((CBuf.empty nmeaSentenceMaxLength).append head).append
          (chunk.flatMap (entryText ops sv_meta.svIdOffset))).room := by
      rw [CBuf.append_append, CBuf.append_room, List.length_append]
      change _ < 200 - _
      omega
    have hbody : head ++ chunk.flatMap (entryText ops sv_meta.svIdOffset) ++
        gsvTail sv_meta.svType sv_meta.systemId =
        '$' :: gsvBody ops sv_meta sentenceCount sentenceNumber chunk := by
      simp [head, gsvBody]
    have hlen : (gsvBody ops sv_meta sentenceCount sentenceNumber chunk).length + 7 ≤
        nmeaSentenceMaxLength := by
      have h := congrArg List.length hbody
      rw [List.length_append, List.length_append, List.length_cons] at h
      change _ ≤ 200
      omega
    have hsentence : gsvSentences ops sv_meta nmeaSentenceMaxLength sentenceCount (left + 1)
        sentenceNumber svs =
        nmeaFrame (gsvBody ops sv_meta sentenceCount sentenceNumber chunk) ::
          gsvSentences ops sv_meta nmeaSentenceMaxLength sentenceCount left
            (sentenceNumber + 1) rest := by
      rw [gsvSentences, CBuf.tryPrint_of_lt (by change head.length < 200; omega)]
      dsimp only
      rw [hfill]
      dsimp only
      rw [printTail_eq hroom, CBuf.append_append, CBuf.append_append, CBuf.empty_append_text,
        ← List.append_assoc, hbody, locNmeaPutChecksum_eq hlen]
    rw [hsentence, ih (by omega), hrest, slices, List.mapIdx_cons]
    grind

/-- The talker, the offset of the numbers and the text at the end, by the constellation. -/
def talkerOf : GnssSvType → List Char
  | .gps => ['G', 'P']
  | .glonass => ['G', 'L']
  | .galileo => ['G', 'A']
  | .qzss | .beidou => ['P', 'Q']
  | .unknown | .sbas => []

def svIdOffsetOf (svType : GnssSvType) : Nat := if svType = .glonass then 64 else 0

def tailOf : GnssSvType → List Char
  | .qzss => ",0,5".toList
  | .beidou => ",0,4".toList
  | _ => []

/-- The sentences partition the satellites of a constellation. Without any there is a blank one.
Else there are as many as it takes with four satellites in each, numbered from 1, with the total,
and together they list the satellites in their order. -/
def GsvOf (svType : GnssSvType) (svs : List (GnssSv F)) (sentences : List (List Char)) : Prop :=
  (svs = [] → sentences = [nmeaFrame (talkerOf svType ++ "GSV,1,1,0,".toList)]) ∧
  (svs ≠ [] → ∃ chunks : List (List (GnssSv F)), chunks.flatten = svs ∧
    chunks.length = (svs.length + 3) / 4 ∧ (∀ chunk ∈ chunks.dropLast, chunk.length = 4) ∧
    sentences = chunks.mapIdx fun k chunk => nmeaFrame (
      talkerOf svType ++ "GSV,".toList ++ fmtInt 0 chunks.length ++
        ',' :: fmtInt 0 (k + 1 : Nat) ++ ',' :: fmtInt 2 svs.length ++
        chunk.flatMap (entryText ops (svIdOffsetOf svType)) ++ tailOf svType))

def countOf (cache : SvCacheInfo) : GnssSvType → Nat
  | .gps => cache.gpsCount
  | .glonass => cache.gloCount
  | .galileo => cache.galCount
  | .qzss => cache.qzssCount
  | .beidou => cache.bdsCount
  | .unknown | .sbas => 0

variable {svType : GnssSvType}

theorem svMeta_eq (ht : svType ∈ constellations) (cache : SvCacheInfo) :
    ∃ sv_meta, locNmeaSvMetaInit cache svType false = some sv_meta ∧
      sv_meta.svType = svType ∧ sv_meta.talker = talkerOf svType ∧
      sv_meta.svIdOffset = svIdOffsetOf svType ∧
      gsvTail sv_meta.svType sv_meta.systemId = tailOf svType ∧
      sv_meta.svCount = countOf cache svType := by
  cases svType with
  | gps => exact ⟨_, rfl, rfl, rfl, rfl, rfl, rfl⟩
  | glonass => exact ⟨_, rfl, rfl, rfl, rfl, rfl, rfl⟩
  | galileo => exact ⟨_, rfl, rfl, rfl, rfl, rfl, rfl⟩
  | qzss =>
    have htail : gsvTail .qzss 5 = tailOf .qzss := by decide
    exact ⟨_, rfl, rfl, rfl, rfl, htail, rfl⟩
  | beidou =>
    have htail : gsvTail .beidou 4 = tailOf .beidou := by decide
    exact ⟨_, rfl, rfl, rfl, rfl, htail, rfl⟩
  | unknown => simp [constellations] at ht
  | sbas => simp [constellations] at ht

theorem countOf_step (ht : svType ∈ constellations)
    (wide : Nat → BitVec 32) (cache : SvCacheInfo) (sv : GnssSv F) :
    countOf (countSv wide cache sv) svType =
      countOf cache svType + if svType = sv.type then 1 else 0 := by
  unfold countSv
  cases svType <;> cases sv.type <;> first | rfl | simp [constellations] at ht

theorem countOf_countSvs (ht : svType ∈ constellations)
    (wide : Nat → BitVec 32) (svs : List (GnssSv F)) :
    countOf (countSvs wide svs) svType = (svs.filter (svType = ·.type)).length := by
  have hfold : ∀ cache, countOf (svs.foldl (countSv wide) cache) svType =
      countOf cache svType + (svs.filter (svType = ·.type)).length := by
    induction svs with
    | nil => exact fun _ => rfl
    | cons sv svs ih =>
      intro cache
      rw [List.foldl_cons, ih, countOf_step ht, List.filter_cons]
      grind
  have hzero : countOf {} svType = 0 := by cases svType <;> rfl
  rw [countSvs, hfold, hzero, Nat.zero_add]

theorem generateGSV_of {svs : List (GnssSv F)}
    (htype : sv_meta.svType = svType) (htalker : sv_meta.talker = talkerOf svType)
    (hoffset : sv_meta.svIdOffset = svIdOffsetOf svType)
    (htail : gsvTail sv_meta.svType sv_meta.systemId = tailOf svType)
    (hm : MetaFits sv_meta)
    (hcount : sv_meta.svCount = (svs.filter (svType = ·.type)).length) :
    GsvOf ops svType (svs.filter (svType = ·.type))
      (locNmeaGenerateGSV ops svs nmeaSentenceMaxLength sv_meta) := by
  unfold locNmeaGenerateGSV
  refine ⟨fun hnone => ?_, fun hsome => ?_⟩
  · have hlen : (sv_meta.talker ++ "GSV,1,1,0,".toList).length = 12 := by
      rw [List.length_append, hm.talker]
      rfl
    have hprint : ((CBuf.empty nmeaSentenceMaxLength).print
        ('$' :: sv_meta.talker ++ "GSV,1,1,0,".toList)).text =
        '$' :: (sv_meta.talker ++ "GSV,1,1,0,".toList) := by
      rw [CBuf.print_of_lt, CBuf.empty_append_text]
      · rfl
      · change _ < 200
        rw [List.cons_append, List.length_cons, hlen]
        decide
    rw [if_pos (by rw [hcount, hnone]; rfl), hprint,
      locNmeaPutChecksum_eq (by rw [hlen]; decide), htalker]
  · have hpos : 0 < sv_meta.svCount := by
      rw [hcount]
      exact List.length_pos_iff.mpr hsome
    have hle := hm.count
    have hsentences : sv_meta.svCount / 4 + (if sv_meta.svCount % 4 ≠ 0 then 1 else 0) =
        (sv_meta.svCount + 3) / 4 := by
      split <;> omega
    rw [if_neg (by omega)]
    dsimp only
    rw [hsentences, gsvSentences_eq ops hm (by unfold gnssSvMax at hle; omega) (by omega), htype]
    refine ⟨slices 4 ((sv_meta.svCount + 3) / 4) (svs.filter (svType = ·.type)),
      slices_flatten (by omega), by rw [slices_length, hcount],
      fun chunk hc => length_of_mem_slices (by omega) hc, ?_⟩
    rw [slices_length]
    refine congrArg (fun f => List.mapIdx f _) (funext fun k => funext fun chunk => ?_)
    unfold gsvBody
    rw [htalker, hoffset, htail, hcount, Nat.add_comm 1 k]
    simp

theorem talkerOf_length (ht : svType ∈ constellations) : (talkerOf svType).length = 2 := by
  cases svType <;> first | rfl | simp [constellations] at ht

theorem tailOf_length_le (svType : GnssSvType) : (tailOf svType).length ≤ 4 := by
  cases svType <;> decide

theorem framed_of_gsv {svs : List (GnssSv F)}
    {sentences : List (List Char)} (h : GsvOf ops svType svs sentences) {sentence : List Char}
    (hs : sentence ∈ sentences) : ∃ body, sentence = nmeaFrame body := by
  obtain ⟨hblank, hlisted⟩ := h
  by_cases hnone : svs = []
  · grind
  grind

/-- The sentences of a report are those of each constellation in turn, and every one of them ends
with its checksum. -/
theorem generateSv_partitions (wide : Nat → BitVec 32) (svNotify : GnssSvNotification F) :
    ∃ cache, ∃ sentencesOf : GnssSvType → List (List Char),
      locNmeaGenerateSv ops wide svNotify =
          some (cache, (constellations.map sentencesOf).flatten) ∧
        (∀ svType ∈ constellations, GsvOf ops svType
          (svNotify.gnssSvs.filter (svType = ·.type)) (sentencesOf svType)) ∧
        ∀ sentence ∈ (constellations.map sentencesOf).flatten,
          ∃ body, sentence = nmeaFrame body := by
  let cache := countSvs wide svNotify.gnssSvs
  let sentencesOf := fun svType => ((locNmeaSvMetaInit cache svType false).map
    (locNmeaGenerateGSV ops svNotify.gnssSvs nmeaSentenceMaxLength)).getD []
  have hof : ∀ svType ∈ constellations, GsvOf ops svType
      (svNotify.gnssSvs.filter (svType = ·.type)) (sentencesOf svType) := by
    intro svType ht
    obtain ⟨sv_meta, hmeta, htype, htalker, hoffset, htail, hcount⟩ := svMeta_eq ht cache
    rw [countOf_countSvs ht] at hcount
    have hsize : sv_meta.svCount ≤ gnssSvMax := by
      rw [hcount]
      exact Nat.le_trans (List.length_filter_le _ _) svNotify.count_le
    have hm : MetaFits sv_meta := by
      refine ⟨?_, ?_, ?_, hsize⟩
      · rw [htalker]
        exact talkerOf_length ht
      · rw [hoffset]
        unfold svIdOffsetOf
        split <;> decide
      · rw [htail]
        exact tailOf_length_le svType
    simp only [sentencesOf, hmeta, Option.map_some, Option.getD_some]
    exact generateGSV_of ops htype htalker hoffset htail hm hcount
  have hall : ∀ svType ∈ constellations, (locNmeaSvMetaInit cache svType false).map
      (locNmeaGenerateGSV ops svNotify.gnssSvs nmeaSentenceMaxLength) =
      some (sentencesOf svType) := by
    intro svType ht
    obtain ⟨sv_meta, hmeta, -⟩ := svMeta_eq ht cache
    simp only [sentencesOf, hmeta, Option.map_some, Option.getD_some]
  refine ⟨cache, sentencesOf, ?_, hof, fun sentence hs => ?_⟩
  · unfold locNmeaGenerateSv
    dsimp only
    rw [mapM_map_eq hall, Option.map_some]
  · obtain ⟨sentences, hm, hs⟩ := List.mem_flatten.mp hs
    obtain ⟨svType, ht, rfl⟩ := List.mem_map.mp hm
    exact framed_of_gsv ops (hof svType ht) hs

end Entry

end DeviceHal.Gps
