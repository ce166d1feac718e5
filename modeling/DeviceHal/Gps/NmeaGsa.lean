import DeviceHal.Gps.Nmea

namespace DeviceHal.Gps

open Lib

theorem and_one_ne_zero (mask : BitVec 32) : mask &&& 1 ≠ 0 ↔ mask.getLsbD 0 = true := by
  rw [BitVec.getLsbD_eq_getElem (by decide)]
  constructor
  · grind
  · intro h he
    have hbit := congrArg (·.getLsbD 0) he
    simp [h] at hbit

theorem usedLoop_eq (svIdOffset rounds i : Nat) (mask : BitVec 32) (used : List Nat)
    (h : used.length + rounds ≤ 32) :
    usedLoop svIdOffset rounds i mask used =
      used ++ ((List.range rounds).filter (mask.getLsbD ·)).map (· + i + svIdOffset) := by
  induction rounds generalizing i mask used with
  | zero => simp [usedLoop]
  | succ rounds ih =>
    unfold usedLoop
    by_cases hz : mask = 0
    · simp [hz]
    · rw [if_pos ⟨hz, by omega⟩]
      have hshift : ∀ j, (mask >>> 1).getLsbD j = mask.getLsbD (j + 1) := by
        intro j
        rw [BitVec.getLsbD_ushiftRight, Nat.add_comm]
      have htail : ((List.range rounds).map Nat.succ).filter (mask.getLsbD ·) =
          ((List.range rounds).filter ((mask >>> 1).getLsbD ·)).map Nat.succ := by
        rw [List.filter_map]
        simp only [Function.comp_def, hshift, Nat.succ_eq_add_one]
      have hmap : ∀ l : List Nat, (l.map Nat.succ).map (· + i + svIdOffset) =
          l.map (· + (i + 1) + svIdOffset) := by
        intro l
        rw [List.map_map]
        refine List.map_congr_left fun j _ => ?_
        simp only [Function.comp_apply]
        omega
      rw [List.range_succ_eq_map, List.filter_cons, htail]
      by_cases hbit : mask.getLsbD 0 = true
      · rw [if_pos ((and_one_ne_zero mask).mpr hbit), if_pos hbit, List.map_cons, hmap,
          ih _ _ _ (by rw [List.length_append]; simp; omega)]
        simp
      · rw [if_neg (mt (and_one_ne_zero mask).mp hbit), if_neg hbit, hmap,
          ih _ _ _ (by omega)]

theorem svUsedList_eq (sv_meta : LocNmeaSvMeta) :
    svUsedList sv_meta = ((List.range 32).filter (sv_meta.mask.getLsbD ·)).map
      (· + 1 + sv_meta.svIdOffset) := by
  unfold svUsedList
  rw [usedLoop_eq _ _ _ _ _ (by decide), List.nil_append]

theorem svUsedList_pairwise (sv_meta : LocNmeaSvMeta) :
    (svUsedList sv_meta).Pairwise (· < ·) := by
  rw [svUsedList_eq, List.pairwise_map]
  refine (List.pairwise_lt_range.filter _).imp fun h => ?_
  omega

theorem mem_svUsedList {sv_meta : LocNmeaSvMeta} {n : Nat} :
    n ∈ svUsedList sv_meta ↔
      ∃ j < 32, sv_meta.mask.getLsbD j = true ∧ n = j + 1 + sv_meta.svIdOffset := by
  rw [svUsedList_eq, List.mem_map]
  constructor
  · grind
  · rintro ⟨j, hlt, hbit, rfl⟩
    grind

theorem getLsbD_svBit {wide : Nat → BitVec 32} {svId j : Nat} (h : 1 ≤ svId ∧ svId ≤ 32)
    (hj : j < 32) : (svBit wide svId).getLsbD j = true ↔ j + 1 = svId := by
  unfold svBit
  rw [if_pos h, BitVec.getLsbD_shiftLeft]
  grind

def maskOf (cache : SvCacheInfo) : GnssSvType → BitVec 32
  | .gps => cache.gpsUsedMask
  | .glonass => cache.gloUsedMask
  | .galileo => cache.galUsedMask
  | .qzss => cache.qzssUsedMask
  | .beidou => cache.bdsUsedMask
  | .unknown | .sbas => 0

section Report

variable {F : Type}

variable {svType : GnssSvType}

theorem maskOf_step (ht : svType ∈ constellations)
    (wide : Nat → BitVec 32) (cache : SvCacheInfo) (sv : GnssSv F) :
    maskOf (countSv wide cache sv) svType =
      if sv.type = svType then orUsed wide sv (maskOf cache svType) else maskOf cache svType := by
  unfold countSv
  cases svType <;> cases sv.type <;> first | rfl | simp [constellations] at ht

theorem getLsbD_maskOf (ht : svType ∈ constellations)
    (wide : Nat → BitVec 32) (svs : List (GnssSv F)) (j : Nat) :
    (maskOf (countSvs wide svs) svType).getLsbD j = true ↔
      ∃ sv ∈ svs, sv.type = svType ∧ sv.usedInFix = true ∧
        (svBit wide sv.svId.toNat).getLsbD j = true := by
  have hfold : ∀ cache, (maskOf (svs.foldl (countSv wide) cache) svType).getLsbD j = true ↔
      (maskOf cache svType).getLsbD j = true ∨
        ∃ sv ∈ svs, sv.type = svType ∧ sv.usedInFix = true ∧
          (svBit wide sv.svId.toNat).getLsbD j = true := by
    induction svs with
    | nil => simp
    | cons sv svs ih =>
      intro cache
      rw [List.foldl_cons, ih, maskOf_step ht]
      unfold orUsed
      by_cases h : sv.type = svType <;> by_cases hu : sv.usedInFix = true <;>
        simp [h, hu, or_assoc]
  have hzero : maskOf {} svType = 0 := by cases svType <;> rfl
  rw [countSvs, hfold, hzero]
  simp

/-- The first twelve ids, and blank fields up to twelve. -/
def idFields (ids : List Nat) : List Char :=
  (ids.take 12).flatMap (fun svId : Nat => fmtInt 2 svId ++ [',']) ++
    List.replicate (12 - ids.length) ','

theorem gsaField_length_le {ids : List Nat} (hs : ∀ svId ∈ ids, svId < 100) (i : Nat) :
    (gsaField ids i).length ≤ 3 := by
  unfold gsaField
  split
  next svId hi =>
    have hlen : (fmtInt 2 svId).length ≤ 2 :=
      fmtNat_length_le (by decide) (by decide) (hs svId (List.mem_of_getElem? hi))
    rw [List.length_append, List.length_singleton]
    omega
  next => decide

theorem gsaFields_eq {ids : List Nat} (hs : ∀ svId ∈ ids, svId < 100) (left i : Nat) {b : CBuf}
    (hroom : left * 3 < b.room) :
    gsaFields ids left i b =
      some (b.append ((List.range' i left).flatMap (gsaField ids))) := by
  induction left generalizing i b with
  | zero => simp [gsaFields]
  | succ left ih =>
    have hlen := gsaField_length_le hs i
    unfold gsaFields
    rw [CBuf.tryPrint_of_lt (by omega), Option.bind_some,
      ih (i + 1) (by rw [CBuf.append_room]; omega), CBuf.append_append, List.range'_succ,
      List.flatMap_cons]

theorem fields_from (ids : List Nat) (left i : Nat) :
    (List.range' i left).flatMap (gsaField ids) =
      ((ids.drop i).take left).flatMap (fun svId : Nat => fmtInt 2 svId ++ [',']) ++
        List.replicate (left - (ids.length - i)) ',' := by
  induction left generalizing i with
  | zero => simp
  | succ left ih =>
    rw [List.range'_succ, List.flatMap_cons, ih]
    unfold gsaField
    by_cases hi : i < ids.length
    · have hn : left + 1 - (ids.length - i) = left - (ids.length - (i + 1)) := by omega
      rw [List.getElem?_eq_getElem hi, List.drop_eq_getElem_cons hi, hn, List.take_succ_cons,
        List.flatMap_cons, List.append_assoc _ _ (List.replicate _ _)]
    · have hnone : ids.drop i = [] := List.drop_eq_nil_of_le (by omega)
      have hnone' : ids.drop (i + 1) = [] := List.drop_eq_nil_of_le (by omega)
      have hn : ids.length - i = 0 := by omega
      have hn' : ids.length - (i + 1) = 0 := by omega
      rw [List.getElem?_eq_none (by omega), hnone, hnone', hn, hn']
      simp [List.replicate_succ]

theorem print_text_eq (b : CBuf) (piece : List Char) :
    ∃ more, (b.print piece).text = b.text ++ more := ⟨_, rfl⟩

theorem putChecksum_text (maxSize : Nat) (c : Char) (text : List Char) :
    ∃ more, locNmeaPutChecksum maxSize (c :: text) = c :: text ++ more := ⟨_, rfl⟩

variable (ops : FloatOps F)

theorem generateGSA_eq (loc : GpsLocationExtended F) {sv_meta : LocNmeaSvMeta}
    (htalker : sv_meta.talker.length = 2) (hoffset : sv_meta.svIdOffset ≤ 64) :
    (svUsedList sv_meta = [] ∧ locNmeaGenerateGSA ops loc nmeaSentenceMaxLength (some sv_meta) =
        ([], 0)) ∨
      ∃ rest, locNmeaGenerateGSA ops loc nmeaSentenceMaxLength (some sv_meta) =
        (['$' :: sv_meta.talker ++ "GSA,A,".toList ++
            [fixType (svUsedList sv_meta).length, ','] ++ idFields (svUsedList sv_meta) ++ rest],
          (svUsedList sv_meta).length) := by
  have hsmall : ∀ svId ∈ svUsedList sv_meta, svId < 100 := by
    intro svId hm
    obtain ⟨j, hj, -, rfl⟩ := mem_svUsedList.mp hm
    omega
  unfold locNmeaGenerateGSA
  dsimp only
  split
  next h => exact Or.inl ⟨h.1, rfl⟩
  next =>
    refine Or.inr ?_
    let head := '$' :: sv_meta.talker ++ "GSA,A,".toList ++
      [fixType (svUsedList sv_meta).length, ',']
    have hhead : head.length = 11 := by
      simp [head, htalker]
    have hfields : idFields (svUsedList sv_meta) =
        (List.range' 0 12).flatMap (gsaField (svUsedList sv_meta)) := by
      rw [fields_from]
      rfl
    rw [CBuf.tryPrint_of_lt (by change head.length < 200; omega), Option.bind_some,
      gsaFields_eq hsmall _ _ (by rw [CBuf.append_room]; change _ < 200 - head.length; omega),
      ← hfields]
    dsimp only
    generalize (if loc.hasDop then _ else _) = dop
    obtain ⟨more, hdop⟩ := print_text_eq
      (((CBuf.empty nmeaSentenceMaxLength).append head).append (idFields (svUsedList sv_meta))) dop
    obtain ⟨last, hsystem⟩ := print_text_eq
      ((((CBuf.empty nmeaSentenceMaxLength).append head).append
        (idFields (svUsedList sv_meta))).print dop) (fmtInt 0 sv_meta.systemId)
    rw [hsystem, hdop, CBuf.append_append, CBuf.empty_append_text]
    obtain ⟨checksum, hsum⟩ := putChecksum_text nmeaSentenceMaxLength '$'
      (sv_meta.talker ++ "GSA,A,".toList ++ [fixType (svUsedList sv_meta).length, ','] ++
        idFields (svUsedList sv_meta) ++ more ++ last)
    refine ⟨more ++ last ++ checksum, ?_⟩
    simpa [head] using hsum

/-- The ids of a constellation that were used, in ascending order, with its offset. -/
structure UsedIds (svType : GnssSvType) (svs : List (GnssSv F)) (ids : List Nat) : Prop where
  ascending : ids.Pairwise (· < ·)
  mem_iff : ∀ n, n ∈ ids ↔ ∃ sv ∈ svs, sv.type = svType ∧ sv.usedInFix = true ∧
    n = sv.svId.toNat + svIdOffsetOf svType

/-- The count is that of the satellites used, and the sentence, which only GPS has without any,
lists the first twelve. -/
def GsaOf (svType : GnssSvType) (svs : List (GnssSv F)) (result : List (List Char) × Nat) : Prop :=
  ∃ ids, UsedIds svType svs ids ∧ result.2 = ids.length ∧
    (result.1 = [] ∧ ids = [] ∨ ∃ talker rest, talker.length = 2 ∧
      result.1 = ['$' :: talker ++ "GSA,A,".toList ++ [fixType ids.length, ','] ++
        idFields ids ++ rest])

/-- After the report the GSA sentence of each constellation lists the satellites used. -/
def ListsUsed (wide : Nat → BitVec 32) (svNotify : GnssSvNotification F) : Prop :=
  ∀ cache sentences, locNmeaGenerateSv ops wide svNotify = some (cache, sentences) →
    ∀ svType ∈ constellations, ∀ needCombine locationExtended,
      GsaOf svType svNotify.gnssSvs (locNmeaGenerateGSA ops locationExtended nmeaSentenceMaxLength
        (locNmeaSvMetaInit cache svType needCombine))

theorem metaInit_mask (ht : svType ∈ constellations) (cache : SvCacheInfo) (needCombine : Bool) :
    ∃ sv_meta, locNmeaSvMetaInit cache svType needCombine = some sv_meta ∧
      sv_meta.talker.length = 2 ∧ sv_meta.svIdOffset = svIdOffsetOf svType ∧
      sv_meta.mask = maskOf cache svType := by
  have hinit : ∃ sv_meta, svMeta cache svType = some sv_meta ∧ sv_meta.talker.length = 2 ∧
      sv_meta.svIdOffset = svIdOffsetOf svType ∧ sv_meta.mask = maskOf cache svType := by
    cases svType with
    | gps => exact ⟨_, rfl, rfl, rfl, rfl⟩
    | glonass => exact ⟨_, rfl, rfl, rfl, rfl⟩
    | galileo => exact ⟨_, rfl, rfl, rfl, rfl⟩
    | qzss => exact ⟨_, rfl, rfl, rfl, rfl⟩
    | beidou => exact ⟨_, rfl, rfl, rfl, rfl⟩
    | unknown => simp [constellations] at ht
    | sbas => simp [constellations] at ht
  grind [locNmeaSvMetaInit]

variable {wide : Nat → BitVec 32}

theorem generateSv_cache {svNotify : GnssSvNotification F}
    {cache : SvCacheInfo} {sentences : List (List Char)}
    (h : locNmeaGenerateSv ops wide svNotify = some (cache, sentences)) :
    cache = countSvs wide svNotify.gnssSvs := by
  unfold locNmeaGenerateSv at h
  obtain ⟨lists, -, he⟩ := Option.map_eq_some_iff.mp h
  exact (Prod.mk.inj he).1.symm

theorem generateSv_returns (wide : Nat → BitVec 32) (svNotify : GnssSvNotification F) :
    ∃ result, locNmeaGenerateSv ops wide svNotify = some result := by
  let cache := countSvs wide svNotify.gnssSvs
  have hall : ∀ svType ∈ constellations, (locNmeaSvMetaInit cache svType false).map
      (locNmeaGenerateGSV ops svNotify.gnssSvs nmeaSentenceMaxLength) =
      some (((locNmeaSvMetaInit cache svType false).map
        (locNmeaGenerateGSV ops svNotify.gnssSvs nmeaSentenceMaxLength)).getD []) := by
    intro svType ht
    obtain ⟨sv_meta, hmeta, -⟩ := metaInit_mask ht cache false
    rw [hmeta, Option.map_some, Option.getD_some]
  unfold locNmeaGenerateSv
  dsimp only
  rw [mapM_map_eq hall]
  exact ⟨_, rfl⟩

variable {svs : List (GnssSv F)}

theorem mem_svUsedList_iff (ht : svType ∈ constellations) {sv_meta : LocNmeaSvMeta}
    (hoffset : sv_meta.svIdOffset = svIdOffsetOf svType)
    (hmask : sv_meta.mask = maskOf (countSvs wide svs) svType) (n : Nat) :
    n ∈ svUsedList sv_meta ↔ ∃ j < 32, n = j + 1 + svIdOffsetOf svType ∧
      ∃ sv ∈ svs, sv.type = svType ∧ sv.usedInFix = true ∧
        (svBit wide sv.svId.toNat).getLsbD j = true := by
  simp [mem_svUsedList, hoffset, hmask, getLsbD_maskOf ht, and_comm]

theorem svIdOffsetOf_le (svType : GnssSvType) : svIdOffsetOf svType ≤ 64 := by
  unfold svIdOffsetOf
  split <;> decide

theorem gsaOf_of_inRange (ht : svType ∈ constellations)
    (hr : ∀ sv ∈ svs, sv.type = svType → sv.usedInFix = true →
      1 ≤ sv.svId.toNat ∧ sv.svId.toNat ≤ 32)
    (needCombine : Bool) (loc : GpsLocationExtended F) :
    GsaOf svType svs (locNmeaGenerateGSA ops loc nmeaSentenceMaxLength
      (locNmeaSvMetaInit (countSvs wide svs) svType needCombine)) := by
  obtain ⟨sv_meta, hmeta, htalker, hoffset, hmask⟩ := metaInit_mask ht (countSvs wide svs) needCombine
  have hids : UsedIds svType svs (svUsedList sv_meta) := by
    refine ⟨svUsedList_pairwise sv_meta, fun n => ?_⟩
    rw [mem_svUsedList_iff ht hoffset hmask]
    constructor
    · rintro ⟨j, hj, rfl, sv, hsv, htype, hused, hbit⟩
      have hid := (getLsbD_svBit (hr sv hsv htype hused) hj).mp hbit
      exact ⟨sv, hsv, htype, hused, by rw [← hid]⟩
    · rintro ⟨sv, hsv, htype, hused, rfl⟩
      obtain ⟨hlow, hhigh⟩ := hr sv hsv htype hused
      refine ⟨sv.svId.toNat - 1, by omega, by omega, sv, hsv, htype, hused, ?_⟩
      exact (getLsbD_svBit ⟨hlow, hhigh⟩ (by omega)).mpr (by omega)
  rw [hmeta]
  refine ⟨svUsedList sv_meta, hids, ?_⟩
  rcases generateGSA_eq ops loc htalker (hoffset ▸ svIdOffsetOf_le svType) with
    ⟨hnone, he⟩ | ⟨rest, he⟩
  · rw [he, hnone]
    exact ⟨rfl, Or.inl ⟨rfl, rfl⟩⟩
  grind

theorem inRange_of_gsaOf (ht : svType ∈ constellations) {loc : GpsLocationExtended F}
    (h : GsaOf svType svs (locNmeaGenerateGSA ops loc nmeaSentenceMaxLength
      (locNmeaSvMetaInit (countSvs (fun _ => 0) svs) svType false))) {sv : GnssSv F}
    (hsv : sv ∈ svs) (htype : sv.type = svType) (hused : sv.usedInFix = true) :
    1 ≤ sv.svId.toNat ∧ sv.svId.toNat ≤ 32 := by
  by_contra hout
  obtain ⟨sv_meta, hmeta, htalker, hoffset, hmask⟩ :=
    metaInit_mask ht (countSvs (fun _ => 0) svs) false
  obtain ⟨ids, hids, hcount, -⟩ := h
  have hlisted := mem_svUsedList_iff ht hoffset hmask
  have hbits : ∀ sv' : GnssSv F, ∀ j < 32, (svBit (fun _ => 0) sv'.svId.toNat).getLsbD j = true →
      j + 1 = sv'.svId.toNat ∧ sv'.svId.toNat ≤ 32 := by
    intro sv' j hj hbit
    by_cases hin : 1 ≤ sv'.svId.toNat ∧ sv'.svId.toNat ≤ 32
    · exact ⟨(getLsbD_svBit hin hj).mp hbit, hin.2⟩
    · unfold svBit at hbit
      rw [if_neg hin] at hbit
      simp at hbit
  have hsub : ((sv.svId.toNat + svIdOffsetOf svType) :: svUsedList sv_meta) ⊆ ids := by
    intro n hn
    rw [hids.mem_iff]
    rcases List.mem_cons.mp hn with rfl | hn
    · exact ⟨sv, hsv, htype, hused, rfl⟩
    · grind
  have hnew : sv.svId.toNat + svIdOffsetOf svType ∉ svUsedList sv_meta := by
    intro hn
    obtain ⟨j, hj, he, sv', -, -, -, hbit⟩ := (hlisted _).mp hn
    obtain ⟨hid, hle⟩ := hbits sv' j hj hbit
    omega
  have hnodup : ((sv.svId.toNat + svIdOffsetOf svType) :: svUsedList sv_meta).Nodup :=
    List.nodup_cons.mpr ⟨hnew, (svUsedList_pairwise sv_meta).imp Nat.ne_of_lt⟩
  have hlen := List.Nodup.length_le_of_subset hnodup hsub
  rw [List.length_cons] at hlen
  have hsame : ids.length = (svUsedList sv_meta).length := by
    rw [← hcount, hmeta]
    rcases generateGSA_eq ops loc htalker (hoffset ▸ svIdOffsetOf_le svType) with
      ⟨hnone, he⟩ | ⟨rest, he⟩
    · rw [he, hnone]
      rfl
    · rw [he]
  omega

/-- Whatever a shift out of its width gives, the sentences list the satellites used exactly if all
of these have ids from 1 to 32. -/
theorem listsUsed_iff (svNotify : GnssSvNotification F) :
    (∀ wide, ListsUsed ops wide svNotify) ↔
      ∀ sv ∈ svNotify.gnssSvs, sv.type ∈ constellations → sv.usedInFix = true →
        1 ≤ sv.svId.toNat ∧ sv.svId.toNat ≤ 32 := by
  constructor
  · intro h sv hsv ht hused
    obtain ⟨⟨cache, sentences⟩, hrun⟩ := generateSv_returns ops (fun _ => 0) svNotify
    have hlists := h (fun _ => 0) cache sentences hrun sv.type ht false
      ⟨false, sv.elevation, sv.elevation, sv.elevation⟩
    rw [generateSv_cache ops hrun] at hlists
    exact inRange_of_gsaOf ops ht hlists hsv rfl hused
  · intro hr wide cache sentences hrun svType ht needCombine loc
    rw [generateSv_cache ops hrun]
    refine gsaOf_of_inRange ops ht (fun sv hsv htype hused => ?_) needCombine loc
    exact hr sv hsv (htype ▸ ht) hused

end Report

def qzssOnly : GnssSvNotification Unit :=
  { gnssSvs := [⟨193, .qzss, (), (), (), gnssSvOptionsUsedInFixBit⟩]
    count_le := by decide }

/-- Where the count of a shift is taken modulo 32, the sentence lists satellite 1. -/
theorem qzss_listed_as_first :
    ¬ListsUsed ⟨fun _ => 0, fun _ => false, fun _ => []⟩ (fun svId => 1#32 <<< ((svId - 1) % 32))
      qzssOnly := by
  intro h
  obtain ⟨ids, hids, hcount, hsentence⟩ := h _ _ rfl .qzss (by decide) false ⟨false, (), (), ()⟩
  have hone : ids.length = 1 := hcount.symm
  have hmem : 193 ∈ ids := (hids.mem_iff 193).mpr ⟨_, List.mem_singleton_self _, rfl, rfl, rfl⟩
  obtain ⟨svId, rfl⟩ := List.length_eq_one_iff.mp hone
  cases List.mem_singleton.mp hmem
  rcases hsentence with ⟨-, hnone⟩ | ⟨talker, rest, hlen, hsome⟩
  · cases hnone
  · obtain ⟨first, second, rfl⟩ := List.length_eq_two.mp hlen
    -- the first digit of the id: 0 as it is printed, 1 in 193
    have hdigit := congrArg (fun sentences => (sentences.head?.getD [])[11]?) hsome
    have hzero : some '0' = some '1' := hdigit
    cases hzero

end DeviceHal.Gps
