import DeviceHal.Camera.PlaneLayout
import Mathlib.Algebra.Order.BigOperators.Group.List
import Mathlib.Algebra.Order.Ring.Nat
import Mathlib.Algebra.Group.Action.Defs

namespace DeviceHal.Camera

open DeviceHal.Lib

def BayerFormat.bitsPerPixel : BayerFormat → Nat
  | .qcomRaw8bpp | .mipiRaw8bpp | .idealRawQcom8bpp | .idealRawMipi8bpp | .idealRawPlain8b8bpp => 8
  | .qcomRaw10bpp | .mipiRaw10bpp | .idealRawQcom10bpp | .idealRawMipi10bpp => 10
  | .qcomRaw12bpp | .mipiRaw12bpp | .idealRawQcom12bpp | .idealRawMipi12bpp => 12
  | .qcomRaw14bpp | .mipiRaw14bpp | .idealRawQcom14bpp | .idealRawMipi14bpp => 14
  | .idealRawPlain16b8bpp | .idealRawPlain16b10bpp | .idealRawPlain16b12bpp
  | .idealRawPlain16b14bpp => 16

def IsPadding (n : Nat) : Prop := ∃ k ≤ 12, n = 2 ^ k

structure CamDimension.InRange (dim : CamDimension) : Prop where
  width_pos : 0 < dim.width
  width_even : 2 ∣ dim.width
  width_le : dim.width ≤ 16384
  height_pos : 0 < dim.height
  height_even : 2 ∣ dim.height
  height_le : dim.height ≤ 16384

structure CamPaddingInfo.InRange (padding : CamPaddingInfo) : Prop where
  width : IsPadding padding.widthPadding
  height : IsPadding padding.heightPadding
  plane : IsPadding padding.planePadding
  minStride : padding.minStride ≤ 16384
  minScanline : padding.minScanline ≤ 16384

section padding

variable {padding : Nat}

theorem isPadding_2 : IsPadding 2 := ⟨1, by omega, rfl⟩
theorem isPadding_4 : IsPadding 4 := ⟨2, by omega, rfl⟩
theorem isPadding_8 : IsPadding 8 := ⟨3, by omega, rfl⟩
theorem isPadding_16 : IsPadding 16 := ⟨4, by omega, rfl⟩
theorem isPadding_32 : IsPadding 32 := ⟨5, by omega, rfl⟩
theorem isPadding_64 : IsPadding 64 := ⟨6, by omega, rfl⟩
theorem isPadding_4k : IsPadding 4096 := ⟨12, by omega, rfl⟩

theorem IsPadding.pos (h : IsPadding padding) : 0 < padding := by
  obtain ⟨k, -, rfl⟩ := h
  exact Nat.two_pow_pos k

theorem IsPadding.le (h : IsPadding padding) : padding ≤ 4096 := by
  obtain ⟨k, hk, rfl⟩ := h
  exact Nat.pow_le_pow_right (by omega : 0 < 2) hk

theorem IsPadding.roundUp_le (h : IsPadding padding) (n : Nat) : roundUp n padding ≤ n + 4096 := by
  have := roundUp_lt n h.pos
  have := h.le
  omega

theorem IsPadding.roundUp_le_side (h : IsPadding padding) {side : Nat} (hside : side ≤ 16384) :
    roundUp side padding ≤ 16384 := by
  refine roundUp_le_of_dvd h.pos ?_ hside
  obtain ⟨k, hk, rfl⟩ := h
  exact Nat.pow_dvd_pow 2 (hk.trans (by omega : 12 ≤ 14))

theorem IsPadding.ite {p : Prop} [Decidable p] {m : Nat} (h : IsPadding padding)
    (h' : IsPadding m) : IsPadding (if p then padding else m) := by
  split <;> assumption

end padding

namespace PlaneLayout

/-- What an image needs of a plane. -/
structure PlaneNeed where
  rows : Nat
  rowBits : Nat
deriving DecidableEq

def neededPlanes (fmt : CamFormat) (dim : CamDimension) : List PlaneNeed :=
  let luma : PlaneNeed := ⟨dim.height, 8 * dim.width⟩
  match fmt with
  | .yuv420Nv12 | .yuv420Nv21 | .yuv420Nv21Adreno | .yuv420Nv12Venus | .yuv420Nv21Venus
  | .yuv420Nv12Ubwc => [luma, ⟨dim.height / 2, 8 * dim.width⟩]
  | .yuv420Yv12 =>
    [luma, ⟨dim.height / 2, 8 * (dim.width / 2)⟩, ⟨dim.height / 2, 8 * (dim.width / 2)⟩]
  | .yuv422Nv16 | .yuv422Nv61 => [luma, luma]
  | .yuv444Nv24 | .yuv444Nv42 => [luma, ⟨dim.height, 16 * dim.width⟩]
  | .yOnly | .jpegRaw8bit | .metaRaw8bit => [luma]
  | .yuvRaw8bit _ => [⟨dim.height, 16 * dim.width⟩]
  | .bayer format _ => [⟨dim.height, format.bitsPerPixel * dim.width⟩]
  | .jpeg => []

/-- The bytes from one row to the next. A packed raw format has them in `stride_in_bytes`. -/
def rowPitch (fmt : CamFormat) (plane : MpLenOffset) : Nat :=
  match fmt with
  | .yuvRaw8bit _ | .bayer _ _ | .jpegRaw8bit | .metaRaw8bit => plane.strideInBytes
  | _ => plane.stride

/-- The planes hold the rows of the image, and the frame holds the planes. -/
structure Holds (needs : List PlaneNeed) (pitch : MpLenOffset → Nat) (planes : StreamBufPlanes) :
    Prop where
  count : planes.numPlanes = needs.length
  wide : ∀ i need, needs[i]? = some need → need.rowBits ≤ 8 * pitch (planes.mp i)
  rows : ∀ i need, needs[i]? = some need →
    (planes.mp i).offset + need.rows * pitch (planes.mp i) ≤ (planes.mp i).len
  total : (lens planes planes.numPlanes).sum ≤ planes.frameLen

/-- The type the planes of the stream are laid out for. -/
def laidAs (info : StreamInfo) : CamStreamType :=
  if info.streamType = .offlineProc then inputType info.reprocessConfig else info.streamType

def imageDim (info : StreamInfo) : CamDimension :=
  if info.streamType = .offlineProc then info.dim else rotatedDim info

/-- What the planes laid out for a stream type must hold. Metadata is bytes in one plane, whatever
the format. -/
def HeldAs (type : CamStreamType) (fmt : CamFormat) (dim : CamDimension) :
    StreamBufPlanes → Prop :=
  if type = .metadata then Holds [⟨dim.height, 8 * dim.width⟩] MpLenOffset.stride
  else Holds (neededPlanes fmt dim) (rowPitch fmt)

def ImageHeld (info : StreamInfo) : StreamBufPlanes → Prop :=
  HeldAs (laidAs info) info.fmt (imageDim info)

/-- A computation that stays within 32 bits and whose planes, if there are any, are right. -/
def CalcRight (result : Calc StreamBufPlanes) (Right : StreamBufPlanes → Prop) : Prop :=
  result ≠ .error .overflow ∧ ∀ planes, result = .ok planes → Right planes

/-- The format has its layout from the macros of the media headers. -/
def IsVenus (fmt : CamFormat) : Prop :=
  fmt = .yuv420Nv12Venus ∨ fmt = .yuv420Nv21Venus ∨ fmt = .yuv420Nv12Ubwc

instance (fmt : CamFormat) : Decidable (IsVenus fmt) := inferInstanceAs (Decidable (_ ∨ _))

/-- The A family leaves `rows` rows free above the picture. The offset that skips them is rounded
up to the plane padding, and so is the length, but each for itself. -/
def ShiftFits (fmt : CamFormat) (dim : CamDimension) (padding : Nat) : Prop :=
  let rows := roundUp dim.height 16 - dim.height
  let strideC := roundUp (dim.width / 2) 16
  match fmt with
  | .yuv420Nv12 | .yuv420Nv21 =>
    Carries (dim.width * rows) (dim.width * (dim.height / 2)) padding
  | .yuv420Yv12 => RoomBetween (dim.width * rows) (dim.width * dim.height) padding ∧
      Carries (strideC * rows) (strideC * (dim.height / 2)) padding
  | .yuv422Nv16 | .yuv422Nv61 | .yOnly =>
    RoomBetween (dim.width * rows) (dim.width * dim.height) padding
  | _ => True

/-- Only the A family, and only where it lays out a snapshot, shifts the picture. -/
def ShiftFitsAs (isAFamily : Bool) (type : CamStreamType) (fmt : CamFormat) (dim : CamDimension)
    (padding : CamPaddingInfo) : Prop :=
  isAFamily = true → type = .snapshot ∨ type = .offlineProc →
    ShiftFits fmt dim padding.planePadding

/-- The planes of an offline source that `mm_stream_calc_offset` takes over. -/
def copied (info : StreamInfo) : Option StreamBufPlanes :=
  if info.streamType = .offlineProc then takenOver info else none

/-- Planes taken over hold the image already, and where the A family lays out a snapshot the
rounded offset leaves room for it. -/
def LayoutFits (isAFamily : Bool) (info : StreamInfo) (padding : CamPaddingInfo) : Prop :=
  match copied info with
  | some planes => ImageHeld info planes
  | none => ShiftFitsAs isAFamily (laidAs info) info.fmt (imageDim info) padding

section arithmetic

variable {n padding : Nat}

theorem ok_bind {α β : Type} (a : α) (f : α → Calc β) : ((.ok a : Calc α) >>= f) = f a :=
  pure_bind a f

theorem int32_eq (h : n < 2 ^ 31) : int32 n = .ok n := if_pos h

theorem uint32_eq (h : n < 2 ^ 32) : uint32 n = .ok n := if_pos h

theorem padInt_eq (h : IsPadding padding) (hn : n ≤ 2 ^ 30) :
    padInt n padding = .ok (roundUp n padding) := by
  have hle := h.le
  obtain ⟨k, hk, rfl⟩ := h
  have hfit : n + (2 ^ k - 1) < 2 ^ 31 := by omega
  rw [padInt, int32_eq hfit, ok_bind, add_land_mask (by omega) (by omega)]

theorem padUint_eq (h : IsPadding padding) (hn : n < 2 ^ 32 - 4096) :
    padUint n padding = .ok (roundUp n padding) := by
  have hle := h.le
  obtain ⟨k, hk, rfl⟩ := h
  have hfit : n + (2 ^ k - 1) < 2 ^ 32 := by omega
  rw [padUint, uint32_eq hfit, ok_bind, add_land_mask (by omega) (by omega)]

theorem sumUint_eq {lens : List Nat} (h : lens.sum < 2 ^ 32) : sumUint lens = .ok lens.sum := by
  induction lens with
  | nil => rfl
  | cons len lens ih =>
    rw [List.sum_cons] at h
    rw [sumUint, ih (by omega), ok_bind, Nat.add_comm, uint32_eq h, List.sum_cons]

end arithmetic

namespace PlaneRule

/-- Its padding is one, and its offset is small. -/
def InRange : PlaneRule → Prop
  | .bare => True
  | .padded padding => IsPadding padding
  | .shifted padding offsetX offsetY => IsPadding padding ∧ offsetX = 0 ∧ offsetY ≤ 2 ^ 14

def lenOf (stride scanline : Nat) : PlaneRule → Nat
  | .bare => stride * scanline
  | .padded padding => roundUp (stride * scanline) padding
  | .shifted padding _ _ => roundUp (stride * scanline) padding

def offsetOf (stride : Nat) : PlaneRule → Nat
  | .bare => 0
  | .padded _ => 0
  | .shifted padding _ offsetY => roundUp (stride * offsetY) padding

def planeOf (rule : PlaneRule) (shape : PlaneShape) (old : MpLenOffset) : MpLenOffset :=
  { len := rule.lenOf shape.stride shape.scanline
    offset := rule.offsetOf shape.stride
    offsetX := rule.offsetX
    offsetY := rule.offsetY
    stride := shape.stride
    strideInBytes := shape.strideInBytes.getD old.strideInBytes
    scanline := shape.scanline
    width := shape.width
    height := shape.height }

def Fits (rule : PlaneRule) (stride scanline rows : Nat) : Prop :=
  rule.offsetOf stride + rows * stride ≤ rule.lenOf stride scanline

end PlaneRule

def PlaneShape.InRange (shape : PlaneShape) : Prop :=
  shape.stride ≤ 2 ^ 15 ∧ shape.scanline ≤ 2 ^ 15

section planes

variable {rule : PlaneRule} {shape : PlaneShape} {shapes : List PlaneShape}

theorem PlaneShape.InRange.area_le (h : shape.InRange) :
    shape.stride * shape.scanline ≤ 2 ^ 30 :=
  (Nat.mul_le_mul h.1 h.2).trans (by omega)

theorem PlaneRule.lenOf_le (hrule : rule.InRange) (h : shape.InRange) :
    rule.lenOf shape.stride shape.scanline ≤ 2 ^ 30 + 4096 := by
  have harea := h.area_le
  cases rule with
  | bare => exact harea.trans (by omega)
  | padded padding => exact (hrule.roundUp_le _).trans (by omega)
  | shifted padding offsetX offsetY => exact (hrule.1.roundUp_le _).trans (by omega)

theorem PlaneRule.len_eq (hrule : rule.InRange) (h : shape.InRange) :
    rule.len shape.stride shape.scanline = .ok (rule.lenOf shape.stride shape.scanline) := by
  have harea := h.area_le
  have hint := int32_eq (n := shape.stride * shape.scanline) (by omega)
  cases rule with
  | bare => exact hint
  | padded padding =>
    simp only [PlaneRule.len, hint, ok_bind]
    exact padUint_eq hrule (by omega)
  | shifted padding offsetX offsetY =>
    simp only [PlaneRule.len, hint, ok_bind]
    exact padUint_eq hrule.1 (by omega)

theorem PlaneRule.offset_eq (hrule : rule.InRange) (h : shape.InRange) :
    rule.offset shape.stride = .ok (rule.offsetOf shape.stride) := by
  cases rule with
  | bare => rfl
  | padded padding => rfl
  | shifted padding offsetX offsetY =>
    obtain ⟨hpad, rfl, hy⟩ := hrule
    have habove : shape.stride * offsetY ≤ 2 ^ 15 * 2 ^ 14 := Nat.mul_le_mul h.1 hy
    have hint := int32_eq (n := shape.stride * offsetY) (by omega)
    simp only [PlaneRule.offset, hint, ok_bind, Nat.zero_add]
    exact padUint_eq hpad (by omega)

theorem writePlanes_ok (hrule : rule.InRange) (hshapes : ∀ shape ∈ shapes, shape.InRange)
    (i : Nat) (planes : StreamBufPlanes) : ∃ out, writePlanes rule i shapes planes = .ok out ∧
      (∀ j shape, shapes[j]? = some shape →
        out.mp (i + j) = rule.planeOf shape (planes.mp (i + j))) ∧
      ∀ j < i, out.mp j = planes.mp j := by
  induction shapes generalizing i planes with
  | nil => exact ⟨planes, rfl, by simp, fun _ _ => rfl⟩
  | cons shape rest ih =>
    have hshape := hshapes shape (by simp)
    obtain ⟨out, hout, hnew, hold⟩ := ih (fun shape hm => hshapes shape (by simp [hm])) (i + 1)
      (setPlane i (rule.planeOf shape (planes.mp i)) planes)
    refine ⟨out, ?_, ?_, ?_⟩
    · simp only [writePlanes, PlaneRule.len_eq hrule hshape, PlaneRule.offset_eq hrule hshape,
        ok_bind]
      exact hout
    · intro j sh hj
      cases j with
      | zero =>
        cases Option.some.inj hj
        rw [Nat.add_zero, hold i (by omega)]
        exact if_pos rfl
      | succ j =>
        have hmp := hnew j sh hj
        have hne : (setPlane i (rule.planeOf shape (planes.mp i)) planes).mp (i + 1 + j) =
            planes.mp (i + 1 + j) := if_neg (by omega)
        rw [hne, Nat.add_right_comm] at hmp
        exact hmp
    · intro j hj
      rw [hold j (by omega)]
      exact if_neg (by omega)

theorem layPlanes_ok (hrule : rule.InRange) (hshapes : ∀ shape ∈ shapes, shape.InRange)
    (hlen : shapes.length ≤ 3) (planes : StreamBufPlanes) :
    ∃ out, layPlanes rule shapes planes = .ok out ∧ out.numPlanes = shapes.length ∧
      (∀ j shape, shapes[j]? = some shape → out.mp j = rule.planeOf shape (planes.mp j)) ∧
      (lens out shapes.length).sum ≤ out.frameLen := by
  obtain ⟨out, hout, hmp, -⟩ := writePlanes_ok hrule hshapes 0 planes
  simp only [Nat.zero_add] at hmp
  have hle : ∀ len ∈ lens out shapes.length, len ≤ 2 ^ 30 + 4096 := by
    intro len hm
    obtain ⟨j, hj, rfl⟩ := List.mem_map.mp hm
    have hj := List.mem_range.mp hj
    rw [hmp j _ (List.getElem?_eq_getElem hj)]
    exact PlaneRule.lenOf_le hrule (hshapes _ (List.getElem_mem hj))
  have hsum : (lens out shapes.length).sum ≤ 3 * (2 ^ 30 + 4096) := by
    have := List.sum_le_card_nsmul _ _ hle
    simp only [lens, List.length_map, List.length_range, smul_eq_mul] at this
    exact this.trans (Nat.mul_le_mul_right _ hlen)
  refine ⟨{ out with numPlanes := shapes.length, frameLen := roundUp (lens out shapes.length).sum 4096 },
    ?_, rfl, hmp, le_roundUp _ _⟩
  simp only [layPlanes, hout, ok_bind]
  rw [sumUint_eq (by omega), ok_bind, padUint_eq isPadding_4k (by omega), ok_bind]

theorem layPlanes_holds_iff {needs : List PlaneNeed} {pitch : MpLenOffset → Nat}
    (hrule : rule.InRange) (hshapes : ∀ shape ∈ shapes, shape.InRange) (hlen : shapes.length ≤ 3)
    (hpitch : ∀ shape ∈ shapes, ∀ old, pitch (rule.planeOf shape old) = shape.stride)
    (hwide : List.Forall₂ (fun need shape => need.rowBits ≤ 8 * PlaneShape.stride shape) needs shapes)
    (planes : StreamBufPlanes) :
    CalcRight (layPlanes rule shapes planes) (Holds needs pitch) ↔
      List.Forall₂ (fun need shape => rule.Fits shape.stride shape.scanline need.rows) needs shapes := by
  obtain ⟨out, hout, hcount, hmp, htotal⟩ := layPlanes_ok hrule hshapes hlen planes
  have hlength := hwide.length_eq
  have hshape : ∀ (i : Nat) (need : PlaneNeed), needs[i]? = some need → ∃ shape ∈ shapes, shapes[i]? = some shape ∧
      need.rowBits ≤ 8 * shape.stride := by
    intro i need hi
    obtain ⟨hlt, rfl⟩ := List.getElem?_eq_some_iff.mp hi
    exact ⟨shapes[i], List.getElem_mem _, List.getElem?_eq_getElem _,
      (List.forall₂_iff_get.mp hwide).2 i hlt (hlength ▸ hlt)⟩
  rw [List.forall₂_iff_get, hout]
  constructor
  · rintro ⟨-, hholds⟩
    refine ⟨hlength, fun i hn hs => ?_⟩
    have hrows := (hholds out rfl).rows i _ (List.getElem?_eq_getElem hn)
    rw [hmp i _ (List.getElem?_eq_getElem hs), hpitch _ (List.getElem_mem hs)] at hrows
    exact hrows
  · rintro ⟨-, hfits⟩
    refine ⟨by simp, fun planes heq => ?_⟩
    cases heq
    refine ⟨hcount.trans hlength.symm, ?_, ?_, by rwa [hcount]⟩
    · intro i need hi
      obtain ⟨shape, hm, hs, hle⟩ := hshape i need hi
      rwa [hmp i shape hs, hpitch shape hm]
    · intro i need hi
      obtain ⟨shape, hm, hs, -⟩ := hshape i need hi
      obtain ⟨hn, rfl⟩ := List.getElem?_eq_some_iff.mp hi
      obtain ⟨hlt, rfl⟩ := List.getElem?_eq_some_iff.mp hs
      rw [hmp i _ hs, hpitch _ hm]
      exact hfits i hn hlt

theorem PlaneRule.area_le_lenOf (stride scanline : Nat) :
    stride * scanline ≤ rule.lenOf stride scanline := by
  cases rule with
  | bare => exact Nat.le_refl _
  | padded padding => exact le_roundUp _ _
  | shifted padding offsetX offsetY => exact le_roundUp _ _

/-- No row is left free above the picture. -/
structure PlaneRule.Plain (rule : PlaneRule) : Prop where
  inRange : rule.InRange
  offset_zero : ∀ stride, rule.offsetOf stride = 0

theorem PlaneRule.Plain.bare : PlaneRule.bare.Plain := ⟨trivial, fun _ => rfl⟩

theorem PlaneRule.Plain.padded {padding : Nat} (h : IsPadding padding) :
    (PlaneRule.padded padding).Plain := ⟨h, fun _ => rfl⟩

theorem PlaneRule.Plain.shiftedZero {padding : Nat} (h : IsPadding padding) :
    (PlaneRule.shifted padding 0 0).Plain :=
  ⟨⟨h, rfl, Nat.zero_le _⟩, fun _ => roundUp_zero padding⟩

theorem PlaneRule.Plain.fits (h : rule.Plain) {stride scanline rows : Nat}
    (hrows : rows ≤ scanline) : rule.Fits stride scanline rows := by
  unfold Fits
  rw [h.offset_zero, Nat.zero_add, Nat.mul_comm]
  exact (Nat.mul_le_mul_left _ hrows).trans (area_le_lenOf _ _)

end planes

/-- A side of the image and what it is padded to. -/
def Covers (side padded : Nat) : Prop := side ≤ padded ∧ padded ≤ 2 ^ 15

theorem Covers.half {side padded : Nat} (h : Covers side padded) :
    Covers (side / 2) (padded / 2) := by
  unfold Covers at *
  omega

theorem Covers.pad {padding side n : Nat} (h : IsPadding padding) (hside : side ≤ n)
    (hn : n ≤ 2 ^ 15 - 4096) : Covers side (roundUp n padding) := by
  have := h.roundUp_le n
  exact ⟨hside.trans (le_roundUp n padding), by omega⟩

theorem failed_right (Right : StreamBufPlanes → Prop) : CalcRight (.error .failed) Right :=
  ⟨by simp, fun _ h => nomatch h⟩

section bodies

variable {rule : PlaneRule} {stride scanline strideC scanlineC : Nat} {dim : CamDimension}

theorem twoPlanes_iff (hrule : rule.InRange) (hs : Covers dim.width stride)
    (hn : scanline ≤ 2 ^ 15) (hsC : Covers dim.width strideC) (hnC : scanlineC ≤ 2 ^ 15)
    (heightC : Nat) (bytes : Option Nat) (planes : StreamBufPlanes) :
    CalcRight (layPlanes rule
      [{ stride := stride, scanline := scanline, width := dim.width, height := dim.height,
         strideInBytes := bytes },
       { stride := strideC, scanline := scanlineC, width := dim.width, height := heightC,
         strideInBytes := bytes }] planes)
      (Holds [⟨dim.height, 8 * dim.width⟩, ⟨heightC, 8 * dim.width⟩] MpLenOffset.stride) ↔
    rule.Fits stride scanline dim.height ∧ rule.Fits strideC scanlineC heightC := by
  rw [layPlanes_holds_iff hrule ?_ (by simp) (fun _ _ _ => rfl) ?_]
  · simp
  · simp only [List.mem_cons, List.not_mem_nil, or_false, forall_eq_or_imp, forall_eq]
    exact ⟨⟨hs.2, hn⟩, hsC.2, hnC⟩
  · simp only [List.forall₂_cons, List.Forall₂.nil, and_true]
    exact ⟨Nat.mul_le_mul_left 8 hs.1, Nat.mul_le_mul_left 8 hsC.1⟩

theorem planar420_iff (hrule : rule.InRange) (hs : Covers dim.width stride)
    (hn : scanline ≤ 2 ^ 15) (planes : StreamBufPlanes) :
    CalcRight (planar420 rule stride scanline dim planes)
      (Holds (neededPlanes .yuv420Yv12 dim) MpLenOffset.stride) ↔
    rule.Fits stride scanline dim.height ∧
      rule.Fits (roundUp (stride / 2) 16) (scanline / 2) (dim.height / 2) := by
  obtain ⟨hle, hle'⟩ := hs
  have hsC : Covers (dim.width / 2) (roundUp (stride / 2) 16) :=
    Covers.pad isPadding_16 (by omega) (by omega)
  simp only [planar420, padInt_eq isPadding_16 (by omega : stride / 2 ≤ 2 ^ 30), ok_bind]
  rw [neededPlanes, layPlanes_holds_iff hrule ?_ (by simp) (fun _ _ _ => rfl) ?_]
  · simp
  · simp only [List.mem_cons, List.not_mem_nil, or_false, forall_eq_or_imp, forall_eq]
    exact ⟨⟨hle', hn⟩, ⟨hsC.2, by dsimp only; omega⟩, hsC.2, by dsimp only; omega⟩
  · simp only [List.forall₂_cons, List.Forall₂.nil, and_true]
    exact ⟨Nat.mul_le_mul_left 8 hle, Nat.mul_le_mul_left 8 hsC.1, Nat.mul_le_mul_left 8 hsC.1⟩

theorem lumaOnly_iff (hrule : rule.InRange) (hs : Covers dim.width stride)
    (hn : scanline ≤ 2 ^ 15) (planes : StreamBufPlanes) :
    CalcRight (lumaOnly rule stride scanline dim planes)
      (Holds (neededPlanes .yOnly dim) MpLenOffset.stride) ↔
    rule.Fits stride scanline dim.height := by
  rw [lumaOnly, neededPlanes, layPlanes_holds_iff hrule ?_ (by simp) (fun _ _ _ => rfl) ?_]
  · simp
  · simp only [List.mem_singleton, forall_eq]
    exact ⟨hs.2, hn⟩
  · simp only [List.forall₂_cons, List.Forall₂.nil, and_true]
    exact Nat.mul_le_mul_left 8 hs.1

section plain

variable (hrule : rule.Plain) (hs : Covers dim.width stride)
  (hn : Covers dim.height scanline) (planes : StreamBufPlanes)

include hrule hs hn

theorem semiplanar420_right : CalcRight (semiplanar420 rule stride scanline dim planes)
    (Holds (neededPlanes .yuv420Nv12 dim) MpLenOffset.stride) :=
  (twoPlanes_iff hrule.inRange hs hn.2 hs hn.half.2 _ none planes).mpr ⟨hrule.fits hn.1, hrule.fits hn.half.1⟩

theorem planar420_right : CalcRight (planar420 rule stride scanline dim planes)
    (Holds (neededPlanes .yuv420Yv12 dim) MpLenOffset.stride) :=
  (planar420_iff hrule.inRange hs hn.2 planes).mpr ⟨hrule.fits hn.1, hrule.fits hn.half.1⟩

theorem semiplanar422_right : CalcRight (semiplanar422 rule stride scanline dim planes)
    (Holds (neededPlanes .yuv422Nv16 dim) MpLenOffset.stride) :=
  (twoPlanes_iff hrule.inRange hs hn.2 hs hn.2 _ none planes).mpr ⟨hrule.fits hn.1, hrule.fits hn.1⟩

theorem lumaOnly_right : CalcRight (lumaOnly rule stride scanline dim planes)
    (Holds (neededPlanes .yOnly dim) MpLenOffset.stride) :=
  (lumaOnly_iff hrule.inRange hs hn.2 planes).mpr (hrule.fits hn.1)

theorem adrenoPlanes_right (hdim : dim.InRange) :
    CalcRight (adrenoPlanes rule stride scanline dim planes)
      (Holds (neededPlanes .yuv420Nv21Adreno dim) MpLenOffset.stride) := by
  have hw := hdim.width_le
  have hh := hdim.height_le
  have hhalf : Covers (dim.width / 2) (roundUp (dim.width / 2) 32) :=
    Covers.pad isPadding_32 (Nat.le_refl _) (by omega)
  have hhalf' := roundUp_lt (dim.width / 2) isPadding_32.pos
  have hsC : Covers dim.width (roundUp (dim.width / 2) 32 * 2) := by
    have := hdim.width_even
    unfold Covers at *
    omega
  have hnC : Covers (dim.height / 2) (roundUp (dim.height / 2) 32) :=
    Covers.pad isPadding_32 (Nat.le_refl _) (by omega)
  simp only [adrenoPlanes, padInt_eq isPadding_32 (by omega : dim.width / 2 ≤ 2 ^ 30),
    padInt_eq isPadding_32 (by omega : dim.height / 2 ≤ 2 ^ 30),
    int32_eq (by have := hsC.2; omega : roundUp (dim.width / 2) 32 * 2 < 2 ^ 31), ok_bind]
  exact (twoPlanes_iff hrule.inRange hs hn.2 hsC hnC.2 _ none planes).mpr ⟨hrule.fits hn.1, hrule.fits hnC.1⟩

end plain

end bodies

theorem padInt_side {side padding : Nat} (h : IsPadding padding) (hside : side ≤ 16384) :
    padInt side padding = .ok (roundUp side padding) ∧ Covers side (roundUp side padding) :=
  ⟨padInt_eq h (by omega), Covers.pad h (Nat.le_refl _) (by omega)⟩

end PlaneLayout

end DeviceHal.Camera
