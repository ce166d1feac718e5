import DeviceHal.Camera.MpoIndex

namespace DeviceHal.Camera

open Lib

namespace MpoInfo

variable {info : MpoInfo} {idx : MpIndex} {entry q : Nat} {out : MpoBuff}

def images (info : MpoInfo) : List UInt8 := info.primaryImage ++ info.auxImages.flatten

def appended (info : MpoInfo) : List UInt8 := overwrite 0 info.images info.outputBuff.bytes

/-- The images with the MP entries from `entry` on. -/
def written (info : MpoInfo) (idx : MpIndex) (entry : Nat) : List UInt8 :=
  overwriteAll (info.fields idx entry) info.appended

/-- Where image `i` begins. -/
def auxStart (info : MpoInfo) (i : Nat) : Nat :=
  info.primaryImage.length + (info.auxImages.take i).flatten.length

/-- The sizes of the images and the offsets of the auxiliary ones are here. -/
def InEntry (info : MpoInfo) (idx : MpIndex) (q : Nat) : Prop :=
  ∃ i, i ≤ info.auxImages.length ∧ idx.entry + 16 * i + 4 ≤ q ∧
    q < idx.entry + 16 * i + if i = 0 then 8 else 12

/-- The output is the images but for the MP entries, in which a reader finds their sizes and
offsets. -/
structure Joined (info : MpoInfo) (idx : MpIndex) (out : MpoBuff) : Prop where
  filled : out.bufFilledLen = info.images.length
  kept : ∀ q, q < info.images.length → ¬info.InEntry idx q → out.bytes[q]? = info.images[q]?
  index : mpIndex out.bytes info.primaryImage.length = some idx
  size : ∀ i img, (info.primaryImage :: info.auxImages)[i]? = some img →
    readLongAs idx.little out.bytes (idx.entry + 16 * i + 4) = some img.length
  begins : ∀ i img, info.auxImages[i]? = some img → ∃ off,
    readLongAs idx.little out.bytes (idx.entry + 16 * (i + 1) + 8) = some off ∧
      idx.mpHeader + off = info.auxStart i ∧
      (out.bytes.drop (idx.mpHeader + off)).take img.length = img

/-- The composition succeeds with the images joined, or fails with the output buffer's contents as
they were. -/
def Composes (info : MpoInfo) (idx : MpIndex) : Prop :=
  ∃ r, mmJpegMpoCompose info = some r ∧
    (r.1 = 0 ∧ info.Joined idx r.2 ∨
      r.1 = -1 ∧ r.2.bufFilledLen = info.outputBuff.bufFilledLen ∧
        r.2.bytes.take r.2.bufFilledLen =
          info.outputBuff.bytes.take info.outputBuff.bufFilledLen)

variable {f : Nat × List UInt8}

theorem mem_auxFields {little : Bool} {mpHeader entry start : Nat} {auxs : List (List UInt8)}
    : f ∈ auxFields little mpHeader auxs entry start ↔
      ∃ i img, auxs[i]? = some img ∧
        (f = (entry + 16 * (i + 1) + 4, longBytes little img.length) ∨
          f = (entry + 16 * (i + 1) + 8,
            longBytes little ((start + (auxs.take i).flatten.length : Nat) - mpHeader : Int))) := by
  induction auxs generalizing entry start with
  | nil => simp [auxFields]
  | cons img rest ih =>
    unfold auxFields
    simp only [List.mem_cons, ih]
    constructor
    · rintro (rfl | rfl | ⟨i, img', himg, hf⟩)
      · exact ⟨0, img, rfl, Or.inl rfl⟩
      · exact ⟨0, img, rfl, Or.inr rfl⟩
      · refine ⟨i + 1, img', himg, ?_⟩
        grind
    · rintro ⟨i, img', himg, hf⟩
      cases i with
      | zero =>
        grind
      | succ i =>
        refine Or.inr (Or.inr ⟨i, img', himg, ?_⟩)
        grind

theorem auxFields_apart (little : Bool) (mpHeader : Nat) (auxs : List (List UInt8))
    (entry start : Nat) : Apart (auxFields little mpHeader auxs entry start) ∧
      ∀ f ∈ auxFields little mpHeader auxs entry start, entry + 20 ≤ f.1 := by
  induction auxs generalizing entry start with
  | nil => exact ⟨List.Pairwise.nil, fun f hf => by cases hf⟩
  | cons img rest ih =>
    obtain ⟨hapart, hlow⟩ := ih (entry + 16) (start + img.length)
    unfold auxFields
    refine ⟨List.pairwise_cons.mpr ⟨fun f hf => ?_, List.pairwise_cons.mpr ⟨fun f hf => ?_, hapart⟩⟩,
      fun f hf => ?_⟩
    · grind [length_longBytes]
    · rw [length_longBytes]
      have hf' := hlow f hf
      dsimp only
      omega
    grind

theorem fields_apart (info : MpoInfo) (idx : MpIndex) (entry : Nat) :
    Apart (info.fields idx entry) := by
  obtain ⟨hapart, hlow⟩ := auxFields_apart idx.little idx.mpHeader info.auxImages entry
    info.primaryImage.length
  refine List.pairwise_cons.mpr ⟨fun f hf => ?_, hapart⟩
  have hf' := hlow f hf
  rw [length_longBytes]
  dsimp only
  omega

theorem mem_fields : f ∈ info.fields idx entry ↔
    (∃ i img, (info.primaryImage :: info.auxImages)[i]? = some img ∧
      f = (entry + 16 * i + 4, longBytes idx.little img.length)) ∨
    ∃ i img, info.auxImages[i]? = some img ∧
      f = (entry + 16 * (i + 1) + 8,
        longBytes idx.little ((info.auxStart i : Int) - idx.mpHeader)) := by
  unfold fields
  rw [List.mem_cons, mem_auxFields]
  constructor
  · rintro (rfl | ⟨i, img, himg, rfl | rfl⟩)
    · exact Or.inl ⟨0, info.primaryImage, rfl, rfl⟩
    · exact Or.inl ⟨i + 1, img, himg, rfl⟩
    · exact Or.inr ⟨i, img, himg, rfl⟩
  · rintro (⟨i, img, himg, rfl⟩ | ⟨i, img, himg, rfl⟩)
    · cases i with
      | zero =>
        cases himg
        exact Or.inl rfl
      | succ i => exact Or.inr ⟨i, img, himg, Or.inl rfl⟩
    · exact Or.inr ⟨i, img, himg, Or.inr rfl⟩

theorem fields_inEntry (hf : f ∈ info.fields idx idx.entry)
    (hq : f.1 ≤ q ∧ q < f.1 + f.2.length) : info.InEntry idx q := by
  rcases mem_fields.mp hf with ⟨i, img, himg, rfl⟩ | ⟨i, img, himg, rfl⟩
  · rw [length_longBytes] at hq
    have hi := (List.getElem?_eq_some_iff.mp himg).1
    rw [List.length_cons] at hi
    refine ⟨i, by omega, hq.1, ?_⟩
    split <;> omega
  · rw [length_longBytes] at hq
    have hi := (List.getElem?_eq_some_iff.mp himg).1
    refine ⟨i + 1, by omega, by omega, ?_⟩
    rw [if_neg (by omega)]
    omega

theorem inEntry_field (h : info.InEntry idx q) :
    ∃ f ∈ info.fields idx idx.entry, f.1 ≤ q ∧ q < f.1 + f.2.length := by
  obtain ⟨i, hi, hlow, hhigh⟩ := h
  have hall : i < (info.primaryImage :: info.auxImages).length := by
    rw [List.length_cons]
    omega
  by_cases hsize : q < idx.entry + 16 * i + 8
  · refine ⟨_, mem_fields.mpr (Or.inl ⟨i, _, List.getElem?_eq_getElem hall, rfl⟩), hlow, ?_⟩
    rw [length_longBytes]
    omega
  · cases i with
    | zero =>
      rw [if_pos rfl] at hhigh
      omega
    | succ i =>
      rw [if_neg (by omega)] at hhigh
      have haux : i < info.auxImages.length := by omega
      refine ⟨_, mem_fields.mpr (Or.inr ⟨i, _, List.getElem?_eq_getElem haux, rfl⟩), by omega, ?_⟩
      rw [length_longBytes]
      omega

theorem length_images (info : MpoInfo) :
    info.images.length = info.primaryImage.length + info.auxImages.flatten.length :=
  List.length_append

theorem drop_auxStart {i : Nat} {img : List UInt8} (h : info.auxImages[i]? = some img) :
    (info.images.drop (info.auxStart i)).take img.length = img ∧
      info.auxStart i + img.length ≤ info.images.length := by
  obtain ⟨hi, rfl⟩ := List.getElem?_eq_some_iff.mp h
  have hsplit : info.images = info.primaryImage ++ (info.auxImages.take i).flatten ++
      (info.auxImages[i] ++ (info.auxImages.drop (i + 1)).flatten) := by
    have haux : info.auxImages =
        info.auxImages.take i ++ info.auxImages[i] :: info.auxImages.drop (i + 1) := by
      rw [← List.drop_eq_getElem_cons hi, List.take_append_drop]
    unfold images
    conv_lhs => rw [haux]
    rw [List.flatten_append, List.flatten_cons, List.append_assoc]
  have hstart : info.auxStart i =
      (info.primaryImage ++ (info.auxImages.take i).flatten).length := by
    rw [List.length_append]
    rfl
  grind

theorem length_le_images {i : Nat} {img : List UInt8}
    (h : (info.primaryImage :: info.auxImages)[i]? = some img) :
    img.length ≤ info.images.length := by
  cases i with
  | zero =>
    cases h
    rw [length_images]
    omega
  | succ i =>
    have hdrop := (drop_auxStart h).2
    omega

section Fitting

variable (hfits : info.images.length ≤ info.outputBuff.bytes.length)

include hfits in
theorem length_appended : info.appended.length = info.outputBuff.bytes.length :=
  length_overwrite (by omega)

include hfits in
theorem getElem?_appended (hq : q < info.images.length) :
    info.appended[q]? = info.images[q]? := by
  have hself := @getElem?_overwrite_self _ info.outputBuff.bytes info.images 0 q (by omega) hq
  rwa [Nat.zero_add] at hself

end Fitting

/-- The MP index of the primary image, with room for an entry for each image. -/
structure HasRoom (info : MpoInfo) (idx : MpIndex) : Prop where
  index : mpIndex info.primaryImage info.primaryImage.length = some idx
  room : idx.entry + 16 * (info.auxImages.length + 1) ≤ info.primaryImage.length

theorem HasRoom.inEntry (h : info.HasRoom idx) (hq : info.InEntry idx q) :
    idx.ifd + 8 ≤ q ∧ q < info.primaryImage.length := by
  obtain ⟨i, hi, hlow, hhigh⟩ := hq
  have hroom := h.room
  grind [MpIndex.entry, MpIndex.entryAt]

theorem HasRoom.fits (h : info.HasRoom idx) :
    Fits (info.fields idx idx.entry) info.primaryImage.length := by
  intro f hf
  rcases mem_fields.mp hf with ⟨i, img, himg, rfl⟩ | ⟨i, img, himg, rfl⟩
  · have hi := (List.getElem?_eq_some_iff.mp himg).1
    have hroom := h.room
    rw [List.length_cons] at hi
    rw [length_longBytes]
    dsimp only
    omega
  · have hi := (List.getElem?_eq_some_iff.mp himg).1
    have hroom := h.room
    rw [length_longBytes]
    dsimp only
    omega

theorem HasRoom.mpHeader_le (h : info.HasRoom idx) :
    idx.mpHeader ≤ info.primaryImage.length ∧ idx.ifd + 8 ≤ info.primaryImage.length := by
  obtain ⟨app2, endianess, offset, hat⟩ := mpIndex_eq_some.mp h.index
  have hifd := hat.ifd
  have hroom := h.room
  grind [MpIndex.entry, MpIndex.entryAt]

theorem HasRoom.index_of_same (h : info.HasRoom idx) {bytes : List UInt8}
    (hsame : ∀ q, q < idx.ifd + 8 → bytes[q]? = info.images[q]?) :
    mpIndex bytes info.primaryImage.length = some idx := by
  refine mpIndex_congr h.index fun q hq => ?_
  have hle := h.mpHeader_le.2
  rw [hsame q hq]
  exact List.getElem?_append_left (by omega)

theorem HasRoom.joined_iff (h : info.HasRoom idx)
    (hfits : info.images.length ≤ info.outputBuff.bytes.length)
    (hfilled : out.bufFilledLen = info.images.length) : info.Joined idx out ↔
      ∀ q, q < info.images.length → out.bytes[q]? = (info.written idx idx.entry)[q]? := by
  have hsmall := info.outputSmall
  have hlen := info.length_images
  have hlenApp := length_appended hfits
  have hfieldFits : Fits (info.fields idx idx.entry) info.appended.length := by
    intro f hf
    have hf' := h.fits f hf
    omega
  have hheader := h.mpHeader_le
  constructor
  · intro hj
    refine overwriteAll_unique hfieldFits (info.fields_apart idx idx.entry) (fun q hq hout => ?_)
      fun f hf k hk => ?_
    · rw [getElem?_appended hfits hq]
      refine hj.kept q hq fun hin => ?_
      obtain ⟨f, hf, hlow, hhigh⟩ := inEntry_field hin
      have hapart := hout f hf
      omega
    · rcases mem_fields.mp hf with ⟨i, img, himg, rfl⟩ | ⟨i, img, himg, rfl⟩
      · have himages := length_le_images himg
        rw [length_longBytes] at hk
        exact (readLongAs_iff idx.little (by omega)).mp (hj.size i img himg) k hk
      · obtain ⟨off, hread, hoff, -⟩ := hj.begins i img himg
        have hbound := (drop_auxStart himg).2
        have hvalue : (info.auxStart i : Int) - idx.mpHeader = (off : Int) := by omega
        rw [hvalue] at hk ⊢
        rw [length_longBytes] at hk
        exact (readLongAs_iff idx.little (by omega)).mp hread k hk
  · intro hsame
    have hkept : ∀ q, q < info.images.length → ¬info.InEntry idx q →
        out.bytes[q]? = info.images[q]? := by
      intro q hq hnot
      rw [hsame q hq, ← getElem?_appended hfits hq]
      refine getElem?_overwriteAll_frame hfieldFits fun f hf => ?_
      by_contra hin
      exact hnot (fields_inEntry hf (by omega))
    have hfield : ∀ f ∈ info.fields idx idx.entry, ∀ k, k < 4 →
        out.bytes[f.1 + k]? = f.2[k]? := by
      intro f hf k hk
      have hlen4 : f.2.length = 4 := by
        rcases mem_fields.mp hf with ⟨i, img, himg, rfl⟩ | ⟨i, img, himg, rfl⟩
        · exact length_longBytes _ _
        · exact length_longBytes _ _
      have hf' := h.fits f hf
      rw [hsame _ (by omega)]
      exact getElem?_overwriteAll_field hfieldFits (info.fields_apart idx idx.entry) hf (by omega)
    refine ⟨hfilled, hkept, ?_, fun i img himg => ?_, fun i img himg => ?_⟩
    · refine h.index_of_same fun q hq => hkept q (by omega) fun hin => ?_
      have hbound := h.inEntry hin
      omega
    · have himages := length_le_images himg
      refine (readLongAs_iff idx.little (by omega)).mpr ?_
      exact hfield _ (mem_fields.mpr (Or.inl ⟨i, img, himg, rfl⟩))
    · obtain ⟨hbegin, hbound⟩ := drop_auxStart himg
      have hstart : info.primaryImage.length ≤ info.auxStart i := Nat.le_add_right _ _
      have hoff : idx.mpHeader + (info.auxStart i - idx.mpHeader) = info.auxStart i := by omega
      have hvalue : ((info.auxStart i - idx.mpHeader : Nat) : Int) =
          (info.auxStart i : Int) - idx.mpHeader := by omega
      refine ⟨info.auxStart i - idx.mpHeader, ?_, hoff, ?_⟩
      · refine (readLongAs_iff idx.little (by omega)).mpr ?_
        rw [hvalue]
        exact hfield _ (mem_fields.mpr (Or.inr ⟨i, img, himg, rfl⟩))
      · rw [hoff, ← hbegin, List.length_take, List.length_drop,
          Nat.min_eq_left (by omega)]
        refine take_drop_congr fun k hk => hkept _ (by omega) fun hin => ?_
        have hentry := h.inEntry hin
        omega

end MpoInfo

namespace MpoInfo

variable {info : MpoInfo} {idx : MpIndex}

theorem compose_primary (hzero : info.outputBuff.bufFilledLen = 0)
    (h : info.outputBuff.bytes.length ≤ info.primaryImage.length) :
    mmJpegMpoCompose info = some (-1, info.outputBuff) := by
  unfold mmJpegMpoCompose
  dsimp only
  rw [if_pos ⟨hzero, by omega⟩]

theorem compose_aux (hzero : info.outputBuff.bufFilledLen = 0)
    (hprimary : info.primaryImage.length < info.outputBuff.bytes.length)
    (h : info.outputBuff.bytes.length < info.images.length) :
    ∃ out, mmJpegMpoCompose info = some (-1, out) ∧
      info.primaryImage.length ≤ out.bufFilledLen := by
  have hlen : (overwrite 0 info.primaryImage info.outputBuff.bytes).length =
      info.outputBuff.bytes.length := length_overwrite (by omega)
  rw [length_images] at h
  obtain ⟨hrc, hfilled⟩ := @appendLoop_overflows info.auxImages
    ⟨overwrite 0 info.primaryImage info.outputBuff.bytes, info.primaryImage.length⟩
    (by dsimp only; omega) (by dsimp only; omega)
  grind [mmJpegMpoCompose]

theorem compose_all (hzero : info.outputBuff.bufFilledLen = 0)
    (hprimary : info.primaryImage.length < info.outputBuff.bytes.length)
    (h : info.images.length ≤ info.outputBuff.bytes.length) :
    mmJpegMpoCompose info = (mmJpegMpoUpdateHeader info info.appended).map fun u =>
      (u.1, ⟨u.2, info.images.length⟩) := by
  have hlen : (overwrite 0 info.primaryImage info.outputBuff.bytes).length =
      info.outputBuff.bytes.length := length_overwrite (by omega)
  have hall : info.appended = overwrite info.primaryImage.length info.auxImages.flatten
      (overwrite 0 info.primaryImage info.outputBuff.bytes) := by
    unfold appended images
    rw [overwrite_append (Nat.zero_le _), Nat.zero_add]
  rw [length_images] at h
  unfold mmJpegMpoCompose
  dsimp only
  rw [if_neg (by omega), if_pos hzero, appendLoop_fits (by dsimp only; omega),
    if_neg (not_not.mpr rfl), hall, length_images]

theorem HasRoom.compose_cases (h : info.HasRoom idx) (hzero : info.outputBuff.bufFilledLen = 0)
    (hprimary : info.primaryImage.length < info.outputBuff.bytes.length)
    (hfits : info.images.length ≤ info.outputBuff.bytes.length) :
    Fits (info.fields idx (idx.entryAt false)) info.outputBuff.bytes.length ∧
        mmJpegMpoCompose info =
          some (0, ⟨info.written idx (idx.entryAt false), info.images.length⟩) ∨
      ¬Fits (info.fields idx (idx.entryAt false)) info.outputBuff.bytes.length ∧
        ∃ bytes, mmJpegMpoCompose info = some (-1, ⟨bytes, info.images.length⟩) := by
  have hsmall := info.outputSmall
  have hlen := length_appended hfits
  have hlenAll := info.length_images
  have hidx : mpIndex info.appended info.primaryImage.length = some idx := by
    refine h.index_of_same fun q hq => getElem?_appended hfits ?_
    have hle := h.mpHeader_le.2
    omega
  rw [compose_all hzero hprimary hfits]
  rcases updateHeader_cases hidx (by omega) with ⟨hin, hupdate⟩ | ⟨hout, bytes, hupdate⟩
  · rw [hupdate]
    rw [hlen] at hin
    exact Or.inl ⟨hin, rfl⟩
  grind

/-- The place of the entries for a big-endian number of tags gives the same file as the place where a
reader looks for them. -/
structure EntriesAgree (info : MpoInfo) (idx : MpIndex) : Prop where
  fits : Fits (info.fields idx (idx.entryAt false)) info.outputBuff.bytes.length
  same : ∀ q, q < info.images.length →
    (info.written idx (idx.entryAt false))[q]? = (info.written idx idx.entry)[q]?

theorem HasRoom.entriesAgree (h : info.HasRoom idx)
    (hprimary : info.primaryImage.length < info.outputBuff.bytes.length)
    (horder : idx.little = false ∨ idx.count.1 = idx.count.2) : info.EntriesAgree idx := by
  have hentry : idx.entryAt false = idx.entry := by
    unfold MpIndex.entry
    rcases horder with hbig | hcount
    · rw [hbig]
    · unfold MpIndex.entryAt MpIndex.tagCount
      rw [hcount, ite_self, ite_self]
  refine ⟨fun f hf => ?_, fun q _ => by rw [hentry]⟩
  rw [hentry] at hf
  have hf' := h.fits f hf
  omega

theorem not_composes {out : MpoBuff} (hzero : info.outputBuff.bufFilledLen = 0)
    (hcompose : mmJpegMpoCompose info = some (-1, out)) (hfilled : 0 < out.bufFilledLen) :
    ¬info.Composes idx := by
  rintro ⟨r, hr, hresult⟩
  grind

/-- Composition keeps its promise exactly if the primary image does not fit, or all images fit and
the entries are put where a reader looks for them. -/
theorem composes_iff (info : MpoInfo) (idx : MpIndex) (h : info.HasRoom idx)
    (hzero : info.outputBuff.bufFilledLen = 0) :
    info.Composes idx ↔ info.outputBuff.bytes.length ≤ info.primaryImage.length ∨
      info.primaryImage.length < info.outputBuff.bytes.length ∧
        info.images.length ≤ info.outputBuff.bytes.length ∧ info.EntriesAgree idx := by
  have hroom := h.room
  have hlen := info.length_images
  by_cases hprimary : info.outputBuff.bytes.length ≤ info.primaryImage.length
  · have hcompose := compose_primary hzero hprimary
    exact iff_of_true ⟨_, hcompose, Or.inr ⟨rfl, rfl, rfl⟩⟩ (Or.inl hprimary)
  have hprimary' := Nat.lt_of_not_le hprimary
  rw [or_iff_right hprimary, and_iff_right hprimary']
  by_cases hfits : info.images.length ≤ info.outputBuff.bytes.length
  · rw [and_iff_right hfits]
    rcases h.compose_cases hzero hprimary' hfits with ⟨hin, hcompose⟩ | ⟨hout, bytes, hcompose⟩
    · have hjoined := @HasRoom.joined_iff info idx
        ⟨info.written idx (idx.entryAt false), info.images.length⟩ h hfits rfl
      constructor
      · rintro ⟨r, hr, hresult⟩
        cases hr.symm.trans hcompose
        rcases hresult with ⟨-, hj⟩ | ⟨hrc, -⟩
        · exact ⟨hin, hjoined.mp hj⟩
        · cases hrc
      · intro hagree
        exact ⟨_, hcompose, Or.inl ⟨rfl, hjoined.mpr hagree.same⟩⟩
    · exact iff_of_false (not_composes hzero hcompose (by dsimp only; omega))
        fun hagree => hout hagree.fits
  · obtain ⟨out, hcompose, hfilled⟩ := compose_aux hzero hprimary' (Nat.lt_of_not_le hfits)
    exact iff_of_false (not_composes hzero hcompose (by omega)) fun hall => hfits hall.1

/-- An image with an MP header of three tags and two entries, in either byte order. -/
def mpImage (little : Bool) : List UInt8 :=
  [0xff, 0xd8, 0xff, 0xe2, 0, 0x58, 0x4d, 0x50, 0x46, 0] ++
    (if little then [0x49, 0x49, 0x2a, 0, 8, 0, 0, 0, 3, 0]
      else [0x4d, 0x4d, 0, 0x2a, 0, 0, 0, 8, 0, 3]) ++ List.replicate 72 0

def mpImageIndex (little : Bool) : MpIndex := ⟨10, little, 18, if little then (3, 0) else (0, 3)⟩

/-- The image and a second one, with an output buffer of a size. -/
def twoImages (little : Bool) (n : Nat) (h : n < 0x80000000) : MpoInfo where
  primaryImage := mpImage little
  auxImages := [[0xff, 0xd8, 0xff, 0xd9]]
  outputBuff := ⟨List.replicate n 0, 0⟩
  primarySmall := by cases little <;> decide
  outputSmall := by rwa [List.length_replicate]

theorem twoImages_room (little : Bool) (n : Nat) (h : n < 0x80000000) :
    (twoImages little n h).HasRoom (mpImageIndex little) := by
  have hindex : mpIndex (mpImage little) (mpImage little).length = some (mpImageIndex little) := by
    cases little <;> decide +kernel
  have hroom : (mpImageIndex little).entry + 16 * 2 ≤ (mpImage little).length := by
    cases little <;> decide
  exact ⟨hindex, hroom⟩

theorem bigEndian_composes :
    (twoImages false 96 (by decide)).Composes (mpImageIndex false) := by
  have hroom := twoImages_room false 96 (by decide)
  have hagree := hroom.entriesAgree (by decide) (Or.inl rfl)
  exact (composes_iff _ _ hroom rfl).mpr (Or.inr ⟨by decide, by decide, hagree⟩)

/-- The tags of a little-endian header are miscounted, so that the entries lie outside a buffer with
room for both images, and an image that does not fit leaves the other one in the buffer. -/
theorem failure_leaves_images :
    (∃ out, mmJpegMpoCompose (twoImages true 96 (by decide)) = some (-1, out) ∧
      out.bufFilledLen = 96 ∧ ¬(twoImages true 96 (by decide)).Composes (mpImageIndex true)) ∧
    ∃ out, mmJpegMpoCompose (twoImages false 94 (by decide)) = some (-1, out) ∧
      92 ≤ out.bufFilledLen ∧
      ¬(twoImages false 94 (by decide)).Composes (mpImageIndex false) := by
  constructor
  · have hroom := twoImages_room true 96 (by decide)
    rcases hroom.compose_cases rfl (by decide) (by decide) with ⟨hin, -⟩ | ⟨-, bytes, hcompose⟩
    · have hfirst := hin _ List.mem_cons_self
      exact absurd hfirst (by decide)
    · have hall : (twoImages true 96 (by decide)).images.length = 96 := by decide
      exact ⟨_, hcompose, hall, not_composes rfl hcompose (by dsimp only; omega)⟩
  · obtain ⟨out, hcompose, hfilled⟩ :=
      @compose_aux (twoImages false 94 (by decide)) rfl (by decide) (by decide)
    have hfilled' : 92 ≤ out.bufFilledLen := hfilled
    exact ⟨out, hcompose, hfilled', not_composes rfl hcompose (by omega)⟩

end MpoInfo

end DeviceHal.Camera
