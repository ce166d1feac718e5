import DeviceHal.Camera.PlanesHold

namespace DeviceHal.Camera.PlaneLayout

open DeviceHal.Lib

theorem Holds.single {need : PlaneNeed} {pitch : MpLenOffset → Nat} {planes : StreamBufPlanes}
    (hcount : planes.numPlanes = 1) (hwide : need.rowBits ≤ 8 * pitch (planes.mp 0))
    (hrows : (planes.mp 0).offset + need.rows * pitch (planes.mp 0) ≤ (planes.mp 0).len)
    (htotal : (planes.mp 0).len ≤ planes.frameLen) : Holds [need] pitch planes := by
  refine ⟨hcount, ?_, ?_, ?_⟩
  · simpa [List.getElem?_cons] using hwide
  · simpa [List.getElem?_cons] using hrows
  · rw [hcount]
    simpa [lens] using htotal

theorem shifted_fits_iff {pad : Nat} (h : IsPadding pad) (stride height rows : Nat) :
    (PlaneRule.shifted pad 0 rows).Fits stride (height + rows + rows) height ↔
      RoomBetween (stride * rows) (stride * height) pad := by
  have harea : stride * (height + rows + rows) =
      stride * rows + stride * height + stride * rows := by
    rw [Nat.mul_add, Nat.mul_add, Nat.add_comm (stride * height)]
  unfold PlaneRule.Fits PlaneRule.offsetOf PlaneRule.lenOf
  rw [harea, Nat.mul_comm height]
  exact roundUp_add_add_le_iff _ _ h.pos

theorem shifted_half_fits_iff {pad : Nat} (h : IsPadding pad) (stride height rows : Nat)
    (heven : 2 ∣ height) :
    (PlaneRule.shifted pad 0 rows).Fits stride ((height + rows + rows) / 2) (height / 2) ↔
      Carries (stride * rows) (stride * (height / 2)) pad := by
  have hhalf : (height + rows + rows) / 2 = rows + height / 2 := by omega
  unfold PlaneRule.Fits PlaneRule.offsetOf PlaneRule.lenOf
  rw [hhalf, Nat.mul_add, Nat.mul_comm (height / 2)]
  exact roundUp_add_le_iff _ _ h.pos

section layouts

variable {dim : CamDimension} {padding : CamPaddingInfo} (hdim : dim.InRange)
  (hpad : padding.InRange)

include hdim

theorem paddedPlanes_right {widthPadding heightPadding : Nat} (hw : IsPadding widthPadding)
    (hh : IsPadding heightPadding) (planes : StreamBufPlanes) :
    CalcRight (paddedPlanes widthPadding heightPadding dim planes)
      (Holds (neededPlanes .yuv420Nv12 dim) MpLenOffset.stride) := by
  obtain ⟨hstride, hs⟩ := padInt_side hw hdim.width_le
  obtain ⟨hscanline, hn⟩ := padInt_side hh hdim.height_le
  have hheight := hdim.height_le
  obtain ⟨hscanlineC, hnC⟩ := padInt_side hh (by omega : dim.height / 2 ≤ 16384)
  simp only [paddedPlanes, hstride, hscanline, hscanlineC, ok_bind]
  have hrule := PlaneRule.Plain.bare
  exact (twoPlanes_iff hrule.inRange hs hn.2 hs hnC.2 _ none planes).mpr
    ⟨hrule.fits hn.1, hrule.fits hnC.1⟩

variable {fmt : CamFormat}

theorem postView_right (venus : CamStreamType → CamFormat → CamDimension → StreamBufPlanes →
    Calc StreamBufPlanes) (hfmt : ¬ IsVenus fmt) (planes : StreamBufPlanes) :
    CalcRight (mmStreamCalcOffsetPostView venus fmt dim planes)
      (Holds (neededPlanes fmt dim) (rowPitch fmt)) := by
  obtain ⟨hwide, hs⟩ := padInt_side isPadding_64 hdim.width_le
  cases fmt with
  | yuv420Nv12 | yuv420Nv21 => exact paddedPlanes_right hdim isPadding_64 isPadding_64 planes
  | yuv420Nv21Adreno =>
    obtain ⟨hstride, hs⟩ := padInt_side isPadding_32 hdim.width_le
    obtain ⟨hscanline, hn⟩ := padInt_side isPadding_32 hdim.height_le
    simp only [mmStreamCalcOffsetPostView, hstride, hscanline, ok_bind]
    exact adrenoPlanes_right (.padded isPadding_4k) hs hn planes hdim
  | yuv420Yv12 =>
    obtain ⟨hstride, hs⟩ := padInt_side isPadding_16 hdim.width_le
    obtain ⟨hscanline, hn⟩ := padInt_side isPadding_2 hdim.height_le
    simp only [mmStreamCalcOffsetPostView, hstride, hscanline, ok_bind]
    exact planar420_right .bare hs hn planes
  | yuv422Nv16 | yuv422Nv61 =>
    obtain ⟨hstride, hs⟩ := padInt_side isPadding_16 hdim.width_le
    simp only [mmStreamCalcOffsetPostView, hstride, ok_bind]
    exact semiplanar422_right .bare hs ⟨Nat.le_refl _, hdim.height_le.trans (by omega)⟩ planes
  | yuv420Nv12Venus | yuv420Nv12Ubwc => exact absurd (by simp [IsVenus]) hfmt
  | yOnly =>
    obtain ⟨hscanline, hn⟩ := padInt_side isPadding_64 hdim.height_le
    simp only [mmStreamCalcOffsetPostView, hwide, hscanline, ok_bind]
    exact lumaOnly_right .bare hs hn planes
  | _ => exact failed_right _

theorem video_right (venus : CamStreamType → CamFormat → CamDimension → StreamBufPlanes →
    Calc StreamBufPlanes) (hfmt : ¬ IsVenus fmt) (planes : StreamBufPlanes) :
    CalcRight (mmStreamCalcOffsetVideo venus fmt dim planes)
      (Holds (neededPlanes fmt dim) (rowPitch fmt)) := by
  cases fmt with
  | yuv420Nv12 =>
    exact semiplanar420_right (.padded ⟨11, by omega, rfl⟩)
      ⟨Nat.le_refl _, hdim.width_le.trans (by omega)⟩
      ⟨Nat.le_refl _, hdim.height_le.trans (by omega)⟩ planes
  | yuv420Nv12Venus | yuv420Nv21Venus | yuv420Nv12Ubwc => exact absurd (by simp [IsVenus]) hfmt
  | _ => exact failed_right _

include hpad

theorem default_right (hfmt : ¬ IsVenus fmt) (planes : StreamBufPlanes) :
    CalcRight (mmStreamCalcOffsetDefault fmt dim padding planes)
      (Holds (neededPlanes fmt dim) (rowPitch fmt)) := by
  obtain ⟨hstride, hs⟩ := padInt_side hpad.width hdim.width_le
  obtain ⟨hscanline, hn⟩ := padInt_side hpad.height hdim.height_le
  have hrule := PlaneRule.Plain.padded hpad.plane
  simp only [mmStreamCalcOffsetDefault, hstride, hscanline, ok_bind]
  cases fmt with
  | yuv420Nv12 | yuv420Nv21 => exact semiplanar420_right hrule hs hn planes
  | yuv420Yv12 => exact planar420_right hrule hs hn planes
  | yuv422Nv16 | yuv422Nv61 => exact semiplanar422_right hrule hs hn planes
  | yOnly => exact lumaOnly_right hrule hs hn planes
  | yuv420Nv12Venus | yuv420Nv21Venus | yuv420Nv12Ubwc => exact absurd (by simp [IsVenus]) hfmt
  | _ => exact failed_right _

theorem preview_right (venus : CamStreamType → CamFormat → CamDimension → StreamBufPlanes →
    Calc StreamBufPlanes) {info : StreamInfo} (hfmt : ¬ IsVenus info.fmt)
    (planes : StreamBufPlanes) :
    CalcRight (mmStreamCalcOffsetPreview venus info dim padding planes)
      (Holds (neededPlanes info.fmt dim) (rowPitch info.fmt)) := by
  have hwidth : ∀ n, IsPadding n → IsPadding (if info.streamType = .offlineProc then
      padding.widthPadding else n) := fun _ h => hpad.width.ite h
  have hheight : ∀ n, IsPadding n → IsPadding (if info.streamType = .offlineProc then
      padding.heightPadding else n) := fun _ h => hpad.height.ite h
  unfold mmStreamCalcOffsetPreview
  generalize info.fmt = fmt at hfmt
  cases fmt with
  | yuv420Nv12 | yuv420Nv21 =>
    exact paddedPlanes_right hdim hpad.width (hheight 2 isPadding_2) planes
  | yuv420Nv21Adreno =>
    obtain ⟨hstride, hs⟩ := padInt_side (hwidth 32 isPadding_32) hdim.width_le
    obtain ⟨hscanline, hn⟩ := padInt_side (hheight 32 isPadding_32) hdim.height_le
    simp only [hstride, hscanline, ok_bind]
    exact adrenoPlanes_right (.padded isPadding_4k) hs hn planes hdim
  | yuv420Yv12 =>
    obtain ⟨hstride, hs⟩ := padInt_side (hwidth 16 isPadding_16) hdim.width_le
    obtain ⟨hscanline, hn⟩ := padInt_side (hheight 2 isPadding_2) hdim.height_le
    simp only [hstride, hscanline, ok_bind]
    exact planar420_right .bare hs hn planes
  | yuv422Nv16 | yuv422Nv61 =>
    by_cases hoffline : info.streamType = .offlineProc
    · obtain ⟨hstride, hs⟩ := padInt_side hpad.width hdim.width_le
      obtain ⟨hscanline, hn⟩ := padInt_side hpad.height hdim.height_le
      simp only [hoffline, if_true, hstride, hscanline, ok_bind]
      exact semiplanar422_right .bare hs hn planes
    · obtain ⟨hstride, hs⟩ := padInt_side isPadding_16 hdim.width_le
      simp only [hoffline, if_false, hstride, ok_bind]
      exact semiplanar422_right .bare hs ⟨Nat.le_refl _, hdim.height_le.trans (by omega)⟩ planes
  | yuv420Nv12Venus | yuv420Nv21Venus | yuv420Nv12Ubwc => exact absurd (by simp [IsVenus]) hfmt
  | yOnly =>
    obtain ⟨hstride, hs⟩ := padInt_side hpad.width hdim.width_le
    obtain ⟨hscanline, hn⟩ := padInt_side (hheight 2 isPadding_2) hdim.height_le
    simp only [hstride, hscanline, ok_bind]
    exact lumaOnly_right .bare hs hn planes
  | _ => exact failed_right _

theorem analysis_right (planes : StreamBufPlanes) :
    CalcRight (mmStreamCalcOffsetAnalysis fmt dim padding planes)
      (Holds (neededPlanes fmt dim) (rowPitch fmt)) := by
  have hw := hdim.width_le
  have hh := hdim.height_le
  have hms := hpad.minStride
  have hmn := hpad.minScanline
  have hside : ∀ side least : Nat, side ≤ 16384 → least ≤ 16384 →
      (if side < least then int32 least else .ok side) = .ok (max side least) := by
    intro side least hle hle'
    split
    · rw [int32_eq (by omega), Nat.max_eq_right (by omega)]
    · rw [Nat.max_eq_left (by omega)]
  have hs : Covers dim.width (roundUp (max dim.width padding.minStride) padding.widthPadding) :=
    Covers.pad hpad.width (Nat.le_max_left _ _) (by omega)
  have hn : Covers dim.height (roundUp (max dim.height padding.minScanline) padding.heightPadding) :=
    Covers.pad hpad.height (Nat.le_max_left _ _) (by omega)
  have hrule := PlaneRule.Plain.shiftedZero hpad.plane
  simp only [mmStreamCalcOffsetAnalysis, hside _ _ hw hms, hside _ _ hh hmn, ok_bind,
    padInt_eq hpad.width (by omega : max dim.width padding.minStride ≤ 2 ^ 30),
    padInt_eq hpad.height (by omega : max dim.height padding.minScanline ≤ 2 ^ 30)]
  cases fmt with
  | yuv420Nv12 | yuv420Nv21 => exact semiplanar420_right hrule hs hn planes
  | yuv420Yv12 => exact planar420_right hrule hs hn planes
  | yuv422Nv16 | yuv422Nv61 => exact semiplanar422_right hrule hs hn planes
  | yOnly => exact lumaOnly_right hrule hs hn planes
  | _ => exact failed_right _

theorem metadata_right (planes : StreamBufPlanes) :
    CalcRight (mmStreamCalcOffsetMetadata dim padding planes)
      (Holds [⟨dim.height, 8 * dim.width⟩] MpLenOffset.stride) := by
  have hrule := PlaneRule.Plain.padded hpad.plane
  let shape : PlaneShape :=
    { stride := dim.width, scanline := dim.height, width := dim.width, height := dim.height }
  have hshape : ∀ sh ∈ [shape], sh.InRange := by
    simp only [List.mem_singleton, forall_eq]
    exact ⟨hdim.width_le.trans (by omega), hdim.height_le.trans (by omega)⟩
  obtain ⟨out, hout, hmp, -⟩ := writePlanes_ok hrule.inRange hshape 0 planes
  have hplane : out.mp 0 = _ := hmp 0 shape rfl
  have hresult : mmStreamCalcOffsetMetadata dim padding planes =
      .ok { out with numPlanes := 1, frameLen := (out.mp 0).len } := by
    rw [mmStreamCalcOffsetMetadata, hout, ok_bind]
  rw [hresult]
  refine ⟨by simp, fun planes heq => ?_⟩
  cases heq
  refine Holds.single rfl ?_ ?_ (Nat.le_refl _)
  · show 8 * dim.width ≤ 8 * (out.mp 0).stride
    rw [hplane]
    exact Nat.le_refl _
  · show (out.mp 0).offset + dim.height * (out.mp 0).stride ≤ (out.mp 0).len
    rw [hplane]
    exact hrule.fits (Nat.le_refl _)

omit hdim in
theorem packedRaw_right {bits strideInBytes scanline : Nat} (hbits : bits ≤ 8 * strideInBytes)
    (hbytes : strideInBytes ≤ 2 ^ 15) (hn : Covers dim.height scanline) (asRow : Bool)
    (stride : Nat) (planes : StreamBufPlanes) :
    CalcRight (packedRaw asRow stride strideInBytes scanline padding planes)
      (Holds [⟨dim.height, bits⟩] MpLenOffset.strideInBytes) := by
  have harea : strideInBytes * scanline ≤ 2 ^ 30 := (Nat.mul_le_mul hbytes hn.2).trans (by omega)
  have hlen := hpad.plane.roundUp_le (strideInBytes * scanline)
  simp only [packedRaw, int32_eq (by omega : strideInBytes * scanline < 2 ^ 31), ok_bind,
    padUint_eq hpad.plane (by omega : strideInBytes * scanline < 2 ^ 32 - 4096),
    padUint_eq isPadding_4k
      (by omega : roundUp (strideInBytes * scanline) padding.planePadding < 2 ^ 32 - 4096),
    int32_eq (by omega : roundUp (strideInBytes * scanline) padding.planePadding < 2 ^ 31)]
  refine ⟨by simp, fun out heq => ?_⟩
  cases heq
  refine Holds.single rfl hbits ?_ (le_roundUp _ _)
  show 0 + dim.height * strideInBytes ≤ roundUp (strideInBytes * scanline) padding.planePadding
  rw [Nat.zero_add, Nat.mul_comm]
  exact (Nat.mul_le_mul_left _ hn.1).trans (le_roundUp _ _)

section raw

variable {scanline : Nat} (hn : Covers dim.height scanline) (planes : StreamBufPlanes)

include hn

theorem raw16Bit_right (asRow : Bool) {bits : Nat} (hbits : bits ≤ 16) :
    CalcRight (raw16Bit dim scanline padding planes asRow)
      (Holds [⟨dim.height, bits * dim.width⟩] MpLenOffset.strideInBytes) := by
  obtain ⟨hstride, hs, -⟩ := padInt_side isPadding_16 hdim.width_le
  have hle := isPadding_16.roundUp_le_side hdim.width_le
  have hbytes : roundUp dim.width 16 * 2 < 2 ^ 31 := by omega
  have hbits' := Nat.mul_le_mul hbits hs
  simp only [raw16Bit, hstride, int32_eq hbytes, ok_bind]
  exact packedRaw_right hpad (by omega) (by omega) hn _ _ planes

theorem raw8bpp_right : CalcRight (raw8bpp dim scanline padding planes)
    (Holds [⟨dim.height, 8 * dim.width⟩] MpLenOffset.strideInBytes) := by
  obtain ⟨hstride, hs⟩ := padInt_side isPadding_16 hdim.width_le
  simp only [raw8bpp, hstride, ok_bind]
  exact packedRaw_right hpad (Nat.mul_le_mul_left 8 hs.1) hs.2 hn _ _ planes

theorem rawQcom10bpp_right : CalcRight (rawQcom10bpp dim scanline padding planes)
    (Holds [⟨dim.height, 10 * dim.width⟩] MpLenOffset.strideInBytes) := by
  have hw := hdim.width_le
  have hsum : dim.width + 11 < 2 ^ 31 := by omega
  have hunits : (dim.width + 11) / 12 * 12 < 2 ^ 31 := by omega
  have hbytes : (dim.width + 11) / 12 * 12 * 8 < 2 ^ 31 := by omega
  simp only [rawQcom10bpp, int32_eq hsum, int32_eq hunits, int32_eq hbytes, ok_bind]
  exact packedRaw_right hpad (by omega) (by omega) hn _ _ planes

theorem rawQcom12bpp_right : CalcRight (rawQcom12bpp dim scanline padding planes)
    (Holds [⟨dim.height, 12 * dim.width⟩] MpLenOffset.strideInBytes) := by
  have hw := hdim.width_le
  have hsum : dim.width + 9 < 2 ^ 31 := by omega
  have hunits : (dim.width + 9) / 10 * 10 < 2 ^ 31 := by omega
  have hbytes : (dim.width + 9) / 10 * 10 * 8 < 2 ^ 31 := by omega
  simp only [rawQcom12bpp, int32_eq hsum, int32_eq hunits, int32_eq hbytes, ok_bind]
  exact packedRaw_right hpad (by omega) (by omega) hn _ _ planes

theorem rawMipi10bpp_right : CalcRight (rawMipi10bpp dim scanline padding planes)
    (Holds [⟨dim.height, 10 * dim.width⟩] MpLenOffset.strideInBytes) := by
  obtain ⟨hstride, hs, -⟩ := padInt_side isPadding_4 hdim.width_le
  have hle := isPadding_4.roundUp_le_side hdim.width_le
  have hbytes : roundUp dim.width 4 * 5 < 2 ^ 31 := by omega
  obtain ⟨hlow, hhigh⟩ : Covers (roundUp dim.width 4 * 5 / 4)
      (roundUp (roundUp dim.width 4 * 5 / 4) 8) :=
    Covers.pad isPadding_8 (Nat.le_refl _) (by omega)
  have hpad8 := padInt_eq isPadding_8 (by omega : roundUp dim.width 4 * 5 / 4 ≤ 2 ^ 30)
  -- four pixels are five bytes, and the stride is a multiple of four pixels
  obtain ⟨k, hk⟩ := dvd_roundUp dim.width isPadding_4.pos
  simp only [rawMipi10bpp, hstride, int32_eq hbytes, hpad8, ok_bind]
  exact packedRaw_right hpad (by omega) hhigh hn _ _ planes

theorem rawMipi12bpp_right : CalcRight (rawMipi12bpp dim scanline padding planes)
    (Holds [⟨dim.height, 12 * dim.width⟩] MpLenOffset.strideInBytes) := by
  obtain ⟨hstride, hs, -⟩ := padInt_side isPadding_32 hdim.width_le
  have hle := isPadding_32.roundUp_le_side hdim.width_le
  have hbytes : roundUp dim.width 32 * 3 < 2 ^ 31 := by omega
  obtain ⟨k, hk⟩ := dvd_roundUp dim.width isPadding_32.pos
  simp only [rawMipi12bpp, hstride, int32_eq hbytes, ok_bind]
  exact packedRaw_right hpad (by omega) (by omega) hn _ _ planes

theorem rawPlain16_right : CalcRight (rawPlain16 dim scanline padding planes)
    (Holds [⟨dim.height, 16 * dim.width⟩] MpLenOffset.strideInBytes) := by
  obtain ⟨hstride, hs, -⟩ := padInt_side isPadding_8 hdim.width_le
  have hle := isPadding_8.roundUp_le_side hdim.width_le
  have hbytes : roundUp dim.width 8 * 2 < 2 ^ 31 := by omega
  simp only [rawPlain16, hstride, int32_eq hbytes, ok_bind]
  exact packedRaw_right hpad (by omega) (by omega) hn _ _ planes

end raw

theorem raw_right (planes : StreamBufPlanes) :
    CalcRight (mmStreamCalcOffsetRaw fmt dim padding planes)
      (Holds (neededPlanes fmt dim) (rowPitch fmt)) := by
  obtain ⟨hstride, hs⟩ := padInt_side hpad.width hdim.width_le
  obtain ⟨hscanline, hn⟩ := padInt_side hpad.height hdim.height_le
  simp only [mmStreamCalcOffsetRaw, hstride, hscanline, ok_bind]
  cases fmt with
  | yuv420Nv21 =>
    have hrule := PlaneRule.Plain.padded hpad.plane
    exact (twoPlanes_iff hrule.inRange hs hn.2 hs hn.half.2 _ _ planes).mpr
      ⟨hrule.fits hn.1, hrule.fits hn.half.1⟩
  | yuvRaw8bit _ => exact raw16Bit_right hdim hpad hn planes true (Nat.le_refl 16)
  | jpegRaw8bit => exact raw16Bit_right hdim hpad hn planes true (by omega : 8 ≤ 16)
  | metaRaw8bit => exact raw16Bit_right hdim hpad hn planes false (by omega : 8 ≤ 16)
  | bayer format _ =>
    cases format with
    | qcomRaw8bpp | mipiRaw8bpp | idealRawQcom8bpp | idealRawMipi8bpp | idealRawPlain8b8bpp =>
      exact raw8bpp_right hdim hpad hn planes
    | qcomRaw10bpp | idealRawQcom10bpp => exact rawQcom10bpp_right hdim hpad hn planes
    | qcomRaw12bpp | idealRawQcom12bpp => exact rawQcom12bpp_right hdim hpad hn planes
    | mipiRaw10bpp | idealRawMipi10bpp => exact rawMipi10bpp_right hdim hpad hn planes
    | mipiRaw12bpp | idealRawMipi12bpp => exact rawMipi12bpp_right hdim hpad hn planes
    | idealRawPlain16b8bpp | idealRawPlain16b10bpp | idealRawPlain16b12bpp =>
      exact rawPlain16_right hdim hpad hn planes
    | _ => exact failed_right _
  | _ => exact failed_right _

variable (venus : CamStreamType → CamFormat → CamDimension → StreamBufPlanes →
  Calc StreamBufPlanes) {fmt : CamFormat} (hfmt : ¬ IsVenus fmt) (planes : StreamBufPlanes)

include hfmt

theorem snapshot_right : CalcRight (mmStreamCalcOffsetSnapshot venus false fmt dim padding planes)
    (Holds (neededPlanes fmt dim) (rowPitch fmt)) := by
  obtain ⟨hstride, hs⟩ := padInt_side hpad.width hdim.width_le
  obtain ⟨hscanline, hn⟩ := padInt_side hpad.height hdim.height_le
  have hrule := PlaneRule.Plain.shiftedZero hpad.plane
  have hint : roundUp dim.height padding.heightPadding + 0 < 2 ^ 31 := by
    have := hn.2
    omega
  simp only [mmStreamCalcOffsetSnapshot, Bool.false_eq_true, if_false, hstride, hscanline, ok_bind,
    int32_eq hint]
  cases fmt with
  | yuv420Nv12 | yuv420Nv21 => exact semiplanar420_right hrule hs hn planes
  | yuv420Yv12 => exact planar420_right hrule hs hn planes
  | yuv422Nv16 | yuv422Nv61 => exact semiplanar422_right hrule hs hn planes
  | yOnly => exact lumaOnly_right hrule hs hn planes
  | yuv420Nv12Venus | yuv420Nv12Ubwc => exact absurd (by simp [IsVenus]) hfmt
  | _ => exact failed_right _

theorem snapshot_aFamily_iff :
    CalcRight (mmStreamCalcOffsetSnapshot venus true fmt dim padding planes)
      (Holds (neededPlanes fmt dim) (rowPitch fmt)) ↔
    ShiftFits fmt dim padding.planePadding := by
  have hw := hdim.width_le
  have hh := hdim.height_le
  obtain ⟨hscanline, hn⟩ := padInt_side isPadding_16 hh
  have hle := isPadding_16.roundUp_le_side hh
  let rows := roundUp dim.height 16 - dim.height
  have hrows : roundUp dim.height 16 + rows = dim.height + rows + rows := by
    have := hn.1
    omega
  have hpadded : dim.height + rows + rows < 2 ^ 31 := by omega
  have hs : Covers dim.width dim.width := ⟨Nat.le_refl _, hw.trans (by omega)⟩
  have hn' : dim.height + rows + rows ≤ 2 ^ 15 := by omega
  have hrule : (PlaneRule.shifted padding.planePadding 0 rows).InRange :=
    ⟨hpad.plane, rfl, by omega⟩
  have hwhole := shifted_fits_iff hpad.plane dim.width dim.height rows
  have hhalf := fun stride => shifted_half_fits_iff hpad.plane stride dim.height rows hdim.height_even
  simp only [mmStreamCalcOffsetSnapshot, if_true, hscanline, ok_bind]
  rw [hrows, int32_eq hpadded, ok_bind]
  cases fmt with
  | yuv420Nv12 | yuv420Nv21 =>
    refine (twoPlanes_iff hrule hs hn' hs (by omega) _ none planes).trans ?_
    rw [hwhole, hhalf]
    refine and_iff_right_of_imp fun h => ?_
    have hsum : dim.width * dim.height =
        dim.width * (dim.height / 2) + dim.width * (dim.height / 2) := by
      have := hdim.height_even
      rw [← Nat.mul_add]
      congr 1
      omega
    rw [hsum]
    exact h.roomBetween hpad.plane.pos
  | yuv420Yv12 =>
    refine (planar420_iff hrule hs hn' planes).trans ?_
    rw [hwhole, hhalf]
    rfl
  | yuv422Nv16 | yuv422Nv61 =>
    refine (twoPlanes_iff hrule hs hn' hs hn' _ none planes).trans ?_
    rw [hwhole, and_self]
    rfl
  | yOnly => exact (lumaOnly_iff hrule hs hn' planes).trans hwhole
  | yuv420Nv12Venus | yuv420Nv12Ubwc => exact absurd (by simp [IsVenus]) hfmt
  | _ => exact iff_of_true (failed_right _) trivial

theorem snapshot_iff (isAFamily : Bool) {type : CamStreamType}
    (htype : type = .snapshot ∨ type = .offlineProc) :
    CalcRight (mmStreamCalcOffsetSnapshot venus isAFamily fmt dim padding planes)
      (HeldAs type fmt dim) ↔
    ShiftFitsAs isAFamily type fmt dim padding := by
  have hheld : HeldAs type fmt dim = Holds (neededPlanes fmt dim) (rowPitch fmt) := by
    rcases htype with rfl | rfl <;> exact if_neg (by simp)
  unfold ShiftFitsAs
  rw [hheld]
  cases isAFamily with
  | false => exact iff_of_true (snapshot_right hdim hpad venus hfmt planes) (by simp)
  | true => exact (snapshot_aFamily_iff hdim hpad venus hfmt planes).trans (by simp [htype])

end layouts

theorem rotatedDim_inRange {info : StreamInfo} (h : info.dim.InRange) :
    (rotatedDim info).InRange := by
  unfold rotatedDim
  split
  · exact ⟨h.height_pos, h.height_even, h.height_le, h.width_pos, h.width_even, h.width_le⟩
  · exact h

section dispatch

variable {isAFamily : Bool} {type : CamStreamType} {fmt : CamFormat} {dim : CamDimension}
  {padding : CamPaddingInfo} {result : Calc StreamBufPlanes}

theorem image_right (h : CalcRight result (Holds (neededPlanes fmt dim) (rowPitch fmt)))
    (htype : type ∉ [.metadata, .snapshot, .offlineProc]) :
    CalcRight result (HeldAs type fmt dim) ↔ ShiftFitsAs isAFamily type fmt dim padding := by
  simp only [List.mem_cons, List.not_mem_nil, or_false, not_or] at htype
  grind [HeldAs, ShiftFitsAs]

theorem metadata_held
    (h : CalcRight result (Holds [⟨dim.height, 8 * dim.width⟩] MpLenOffset.stride)) :
    CalcRight result (HeldAs .metadata fmt dim) ↔
      ShiftFitsAs isAFamily .metadata fmt dim padding := by
  grind [HeldAs, ShiftFitsAs]

theorem failed_held (htype : type ≠ .snapshot ∧ type ≠ .offlineProc) :
    CalcRight (.error .failed) (HeldAs type fmt dim) ↔
      ShiftFitsAs isAFamily type fmt dim padding :=
  iff_of_true (failed_right _) fun _ hshift => (not_or.mpr htype hshift).elim

theorem copied_held (planes : StreamBufPlanes) (Right : StreamBufPlanes → Prop) :
    CalcRight (.ok planes) Right ↔ Right planes :=
  ⟨fun h => h.2 planes rfl, fun h => ⟨by simp, fun _ heq => by cases heq; exact h⟩⟩

end dispatch

section stream

variable (venus : CamStreamType → CamFormat → CamDimension → StreamBufPlanes →
  Calc StreamBufPlanes) (isAFamily : Bool) {info : StreamInfo} {padding : CamPaddingInfo}

theorem postproc_iff (hdim : info.dim.InRange) (hpad : padding.InRange)
    (hfmt : ¬ IsVenus info.fmt) (htaken : takenOver info = none) :
    CalcRight (mmStreamCalcOffsetPostproc venus isAFamily info padding)
      (HeldAs (inputType info.reprocessConfig) info.fmt info.dim) ↔
    ShiftFitsAs isAFamily (inputType info.reprocessConfig) info.fmt info.dim padding := by
  unfold mmStreamCalcOffsetPostproc
  rw [htaken]
  cases inputType info.reprocessConfig with
  | preview | callback => exact image_right (preview_right hdim hpad venus hfmt _) (by decide)
  | postview => exact image_right (postView_right hdim venus hfmt _) (by decide)
  | snapshot => exact snapshot_iff hdim hpad venus hfmt _ isAFamily (.inl rfl)
  | offlineProc => exact snapshot_iff hdim hpad venus hfmt _ isAFamily (.inr rfl)
  | video => exact image_right (default_right hdim hpad hfmt _) (by decide)
  | raw => exact image_right (raw_right hdim hpad _) (by decide)
  | analysis => exact image_right (analysis_right hdim hpad _) (by decide)
  | metadata => exact metadata_held (metadata_right hdim hpad _)
  | default | implDefined | parm => exact failed_held (by decide)

/-- The planes hold the image unless the A family shifts a picture past the end of its plane. -/
theorem layout_holds_iff (hdim : info.dim.InRange) (hpad : padding.InRange)
    (hfmt : ¬ IsVenus info.fmt) :
    CalcRight (mmStreamCalcOffset venus isAFamily info padding) (ImageHeld info) ↔
      LayoutFits isAFamily info padding := by
  have hrot := rotatedDim_inRange hdim
  unfold LayoutFits copied ImageHeld laidAs imageDim mmStreamCalcOffset
  by_cases hoffline : info.streamType = .offlineProc
  · simp only [hoffline, if_true]
    cases htaken : takenOver info with
    | some planes =>
      rw [mmStreamCalcOffsetPostproc, htaken]
      exact copied_held planes _
    | none => exact postproc_iff venus isAFamily hdim hpad hfmt htaken
  simp only [hoffline, if_false]
  cases htype : info.streamType with
  | preview | callback => exact image_right (preview_right hrot hpad venus hfmt _) (by decide)
  | postview => exact image_right (postView_right hrot venus hfmt _) (by decide)
  | snapshot => exact snapshot_iff hrot hpad venus hfmt _ isAFamily (.inl rfl)
  | offlineProc => exact absurd htype hoffline
  | video => exact image_right (video_right hrot venus hfmt _) (by decide)
  | raw => exact image_right (raw_right hrot hpad _) (by decide)
  | analysis => exact image_right (analysis_right hrot hpad _) (by decide)
  | metadata => exact metadata_held (metadata_right hrot hpad _)
  | default | implDefined | parm => exact failed_held (by decide)

end stream

def snapshot1080 : StreamInfo :=
  { streamType := .snapshot, fmt := .yuv420Nv21, dim := { width := 1920, height := 1080 } }

def paddingTo (plane : Nat) : CamPaddingInfo :=
  { widthPadding := 32, heightPadding := 32, planePadding := plane, minStride := 0,
    minScanline := 0 }

theorem snapshot1080_inRange : snapshot1080.dim.InRange :=
  ⟨by decide, by decide, by decide, by decide, by decide, by decide⟩

theorem paddingTo_inRange {plane : Nat} (h : IsPadding plane) : (paddingTo plane).InRange :=
  ⟨isPadding_32, isPadding_32, h, Nat.zero_le _, Nat.zero_le _⟩

/-- Eight rows above the picture are whole units of 32 bytes. -/
theorem snapshot1080_held :
    CalcRight (mmStreamCalcOffset (fun _ _ _ _ => .error .failed) true snapshot1080 (paddingTo 32))
      (ImageHeld snapshot1080) :=
  (layout_holds_iff _ true snapshot1080_inRange (paddingTo_inRange isPadding_32) (by decide)).mpr
    fun _ _ => .inl (by decide)

/-- Padded to 4K the offset of the CbCr plane is 16384, and its last row ends 512 bytes behind the
plane. -/
theorem snapshot1080_overruns :
    snapshot1080.dim.InRange ∧ (paddingTo 4096).InRange ∧ ¬ IsVenus snapshot1080.fmt ∧
      ¬ CalcRight (mmStreamCalcOffset (fun _ _ _ _ => .error .failed) true snapshot1080
        (paddingTo 4096)) (ImageHeld snapshot1080) := by
  have hpad := paddingTo_inRange isPadding_4k
  refine ⟨snapshot1080_inRange, hpad, by decide, fun h => ?_⟩
  have hshift := (snapshot_iff snapshot1080_inRange hpad (fun _ _ _ _ => .error .failed)
    (by decide : ¬ IsVenus snapshot1080.fmt) _ true (.inl rfl)).mp h rfl (.inl rfl)
  exact absurd hshift (by decide : ¬ Carries (1920 * 8) (1920 * 540) 4096)

end DeviceHal.Camera.PlaneLayout
