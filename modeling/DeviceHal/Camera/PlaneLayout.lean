import DeviceHal.Camera.Channel
import DeviceHal.Lib.Rounding

namespace DeviceHal.Camera

inductive BayerOrder where
  | gbrg
  | grbg
  | rggb
  | bggr
deriving DecidableEq, Repr

inductive YuyvOrder where
  | yuyv
  | yvyu
  | uyvy
  | vyuy
deriving DecidableEq, Repr

/-- The Bayer formats less the order of their colours. -/
inductive BayerFormat where
  | qcomRaw8bpp
  | qcomRaw10bpp
  | qcomRaw12bpp
  | qcomRaw14bpp
  | mipiRaw8bpp
  | mipiRaw10bpp
  | mipiRaw12bpp
  | mipiRaw14bpp
  | idealRawQcom8bpp
  | idealRawQcom10bpp
  | idealRawQcom12bpp
  | idealRawQcom14bpp
  | idealRawMipi8bpp
  | idealRawMipi10bpp
  | idealRawMipi12bpp
  | idealRawMipi14bpp
  | idealRawPlain8b8bpp
  | idealRawPlain16b8bpp
  | idealRawPlain16b10bpp
  | idealRawPlain16b12bpp
  | idealRawPlain16b14bpp
deriving DecidableEq, Repr

inductive CamFormat where
  | jpeg
  | yuv420Nv12
  | yuv420Nv21
  | yuv420Nv21Adreno
  | yuv420Yv12
  | yuv422Nv16
  | yuv422Nv61
  | yuv420Nv12Venus
  | yuvRaw8bit (order : YuyvOrder)
  | bayer (format : BayerFormat) (order : BayerOrder)
  | jpegRaw8bit
  | metaRaw8bit
  | yuv444Nv24
  | yuv444Nv42
  | yOnly
  | yuv420Nv12Ubwc
  | yuv420Nv21Venus
deriving DecidableEq, Repr

structure CamDimension where
  width : Nat
  height : Nat
deriving DecidableEq, Repr

structure CamPaddingInfo where
  widthPadding : Nat
  heightPadding : Nat
  planePadding : Nat
  minStride : Nat
  minScanline : Nat
deriving DecidableEq, Repr

structure MpLenOffset where
  len : Nat := 0
  offset : Nat := 0
  offsetX : Nat := 0
  offsetY : Nat := 0
  stride : Nat := 0
  strideInBytes : Nat := 0
  scanline : Nat := 0
  width : Nat := 0
  height : Nat := 0
deriving DecidableEq, Repr

/-- `cam_stream_buf_plane_info_t`, the array of planes by its index. -/
structure StreamBufPlanes where
  numPlanes : Nat := 0
  mp : Nat → MpLenOffset := fun _ => {}
  frameLen : Nat := 0

inductive CamRotation where
  | rotate0
  | rotate90
  | rotate180
  | rotate270
deriving DecidableEq, Repr

inductive ReprocessConfig where
  | online (inputStreamType : CamStreamType)
  | offline (inputType : CamStreamType) (inputBufPlanes : StreamBufPlanes)

structure StreamInfo where
  streamType : CamStreamType
  fmt : CamFormat
  dim : CamDimension
  featureMask : UInt32 := 0
  rotation : CamRotation := .rotate0
  reprocessConfig : ReprocessConfig := .online .default
  bufPlanes : StreamBufPlanes := {}

/-- Why there is no layout: a 32 bit computation whose result does not fit its type, or the
return code -1. -/
inductive LayoutStop where
  | overflow
  | failed
deriving DecidableEq, Repr

abbrev Calc := Except LayoutStop

namespace PlaneLayout

/-- A result of type `int`. None of the layout code is negative. -/
def int32 (n : Nat) : Calc Nat := if n < 2 ^ 31 then .ok n else .error .overflow

def uint32 (n : Nat) : Calc Nat := if n < 2 ^ 32 then .ok n else .error .overflow

/-- `PAD_TO_SIZE` of an `int`. The complement of `padding - 1` has 32 bits. -/
def padInt (size padding : Nat) : Calc Nat := do
  let sum ← int32 (size + (padding - 1))
  .ok (sum &&& (2 ^ 32 - padding))

/-- `PAD_TO_SIZE` of an `uint32_t`. -/
def padUint (size padding : Nat) : Calc Nat := do
  let sum ← uint32 (size + (padding - 1))
  .ok (sum &&& (2 ^ 32 - padding))

/-- How the `len` and the `offset` of a plane are set: the bare product and no offset, the product
padded, or both padded with the offset of the first pixel. -/
inductive PlaneRule where
  | bare
  | padded (padding : Nat)
  | shifted (padding offsetX offsetY : Nat)

namespace PlaneRule

def len (stride scanline : Nat) : PlaneRule → Calc Nat
  | .bare => int32 (stride * scanline)
  | .padded padding => do padUint (← int32 (stride * scanline)) padding
  | .shifted padding _ _ => do padUint (← int32 (stride * scanline)) padding

def offset (stride : Nat) : PlaneRule → Calc Nat
  | .bare => .ok 0
  | .padded _ => .ok 0
  | .shifted padding offsetX offsetY => do
    let above ← int32 (stride * offsetY)
    let first ← int32 (offsetX + above)
    padUint first padding

def offsetX : PlaneRule → Nat
  | .shifted _ offsetX _ => offsetX
  | _ => 0

def offsetY : PlaneRule → Nat
  | .shifted _ _ offsetY => offsetY
  | _ => 0

end PlaneRule

structure PlaneShape where
  stride : Nat
  scanline : Nat
  width : Nat
  height : Nat
  /-- Only the raw layouts write this field. -/
  strideInBytes : Option Nat := none

def setPlane (i : Nat) (plane : MpLenOffset) (planes : StreamBufPlanes) : StreamBufPlanes :=
  { planes with mp := fun j => if j = i then plane else planes.mp j }

/-- The assignments to `mp[i]`, `mp[i + 1]` and so on. -/
def writePlanes (rule : PlaneRule) : Nat → List PlaneShape → StreamBufPlanes →
    Calc StreamBufPlanes
  | _, [], planes => .ok planes
  | i, shape :: rest, planes => do
    let len ← rule.len shape.stride shape.scanline
    let offset ← rule.offset shape.stride
    let old := planes.mp i
    writePlanes rule (i + 1) rest <| planes |> setPlane i
      { len := len
        offset := offset
        offsetX := rule.offsetX
        offsetY := rule.offsetY
        stride := shape.stride
        strideInBytes := shape.strideInBytes.getD old.strideInBytes
        scanline := shape.scanline
        width := shape.width
        height := shape.height }

def sumUint : List Nat → Calc Nat
  | [] => .ok 0
  | len :: lens => do uint32 ((← sumUint lens) + len)

def lens (planes : StreamBufPlanes) (n : Nat) : List Nat :=
  (List.range n).map fun i => (planes.mp i).len

/-- The planes are written, and `frame_len` is the sum of their lengths padded to 4K. -/
def layPlanes (rule : PlaneRule) (shapes : List PlaneShape) (planes : StreamBufPlanes) :
    Calc StreamBufPlanes := do
  let planes ← writePlanes rule 0 shapes planes
  let total ← sumUint (lens planes shapes.length)
  let frameLen ← padUint total 4096
  .ok { planes with numPlanes := shapes.length, frameLen := frameLen }

section bodies

variable (rule : PlaneRule) (stride scanline : Nat) (dim : CamDimension)

/-- Y and CbCr, the second scanline half the first. -/
def semiplanar420 : StreamBufPlanes → Calc StreamBufPlanes :=
  layPlanes rule
    [{ stride := stride, scanline := scanline, width := dim.width, height := dim.height },
     { stride := stride, scanline := scanline / 2, width := dim.width, height := dim.height / 2 }]

def planar420 (planes : StreamBufPlanes) : Calc StreamBufPlanes := do
  let strideC ← padInt (stride / 2) 16
  let shapeC : PlaneShape :=
    { stride := strideC, scanline := scanline / 2, width := dim.width / 2,
      height := dim.height / 2 }
  planes |> layPlanes rule
    [{ stride := stride, scanline := scanline, width := dim.width, height := dim.height },
     shapeC, shapeC]

def semiplanar422 : StreamBufPlanes → Calc StreamBufPlanes :=
  let shape : PlaneShape :=
    { stride := stride, scanline := scanline, width := dim.width, height := dim.height }
  layPlanes rule [shape, shape]

def lumaOnly : StreamBufPlanes → Calc StreamBufPlanes :=
  layPlanes rule
    [{ stride := stride, scanline := scanline, width := dim.width, height := dim.height }]

end bodies

def mmStreamCalcOffsetDefault (fmt : CamFormat) (dim : CamDimension) (padding : CamPaddingInfo)
    (planes : StreamBufPlanes) : Calc StreamBufPlanes := do
  let stride ← padInt dim.width padding.widthPadding
  let scanline ← padInt dim.height padding.heightPadding
  let rule := .padded padding.planePadding
  match fmt with
  | .yuv420Nv12 | .yuv420Nv21 | .yuv420Nv12Venus | .yuv420Nv21Venus | .yuv420Nv12Ubwc =>
    semiplanar420 rule stride scanline dim planes
  | .yuv420Yv12 => planar420 rule stride scanline dim planes
  | .yuv422Nv16 | .yuv422Nv61 => semiplanar422 rule stride scanline dim planes
  | .yOnly => lumaOnly rule stride scanline dim planes
  | _ => .error .failed

/-- The second plane's stride and scanline padded for themselves. -/
def adrenoPlanes (rule : PlaneRule) (stride scanline : Nat) (dim : CamDimension)
    (planes : StreamBufPlanes) : Calc StreamBufPlanes := do
  let half ← padInt (dim.width / 2) 32
  let strideC ← int32 (half * 2)
  let scanlineC ← padInt (dim.height / 2) 32
  planes |> layPlanes rule
    [{ stride := stride, scanline := scanline, width := dim.width, height := dim.height },
     { stride := strideC, scanline := scanlineC, width := dim.width, height := dim.height / 2 }]

def paddedPlanes (widthPadding heightPadding : Nat) (dim : CamDimension)
    (planes : StreamBufPlanes) : Calc StreamBufPlanes := do
  let stride ← padInt dim.width widthPadding
  let scanline ← padInt dim.height heightPadding
  let scanlineC ← padInt (dim.height / 2) heightPadding
  planes |> layPlanes .bare
    [{ stride := stride, scanline := scanline, width := dim.width, height := dim.height },
     { stride := stride, scanline := scanlineC, width := dim.width, height := dim.height / 2 }]

section stream

/- What the Venus and UBWC branches make of the planes. Their sizes come from macros of the media
headers. -/
variable (venus : CamStreamType → CamFormat → CamDimension → StreamBufPlanes →
  Calc StreamBufPlanes)

def mmStreamCalcOffsetPreview (info : StreamInfo) (dim : CamDimension) (padding : CamPaddingInfo)
    (planes : StreamBufPlanes) : Calc StreamBufPlanes :=
  let offline := info.streamType = .offlineProc
  match info.fmt with
  | .yuv420Nv12 | .yuv420Nv21 =>
    paddedPlanes padding.widthPadding (if offline then padding.heightPadding else 2) dim planes
  | .yuv420Nv21Adreno => do
    let stride ← padInt dim.width (if offline then padding.widthPadding else 32)
    let scanline ← padInt dim.height (if offline then padding.heightPadding else 32)
    adrenoPlanes (.padded 4096) stride scanline dim planes
  | .yuv420Yv12 => do
    let stride ← padInt dim.width (if offline then padding.widthPadding else 16)
    let scanline ← padInt dim.height (if offline then padding.heightPadding else 2)
    planar420 .bare stride scanline dim planes
  | .yuv422Nv16 | .yuv422Nv61 => do
    let stride ← padInt dim.width (if offline then padding.widthPadding else 16)
    let scanline ← (if offline then padInt dim.height padding.heightPadding else .ok dim.height)
    semiplanar422 .bare stride scanline dim planes
  | .yuv420Nv12Venus | .yuv420Nv21Venus | .yuv420Nv12Ubwc => venus .preview info.fmt dim planes
  | .yOnly => do
    let stride ← padInt dim.width padding.widthPadding
    let scanline ← padInt dim.height (if offline then padding.heightPadding else 2)
    lumaOnly .bare stride scanline dim planes
  | _ => .error .failed

def mmStreamCalcOffsetPostView (fmt : CamFormat) (dim : CamDimension) (planes : StreamBufPlanes) :
    Calc StreamBufPlanes :=
  match fmt with
  | .yuv420Nv12 | .yuv420Nv21 => paddedPlanes 64 64 dim planes
  | .yuv420Nv21Adreno => do
    let stride ← padInt dim.width 32
    let scanline ← padInt dim.height 32
    adrenoPlanes (.padded 4096) stride scanline dim planes
  | .yuv420Yv12 => do
    let stride ← padInt dim.width 16
    let scanline ← padInt dim.height 2
    planar420 .bare stride scanline dim planes
  | .yuv422Nv16 | .yuv422Nv61 => do
    let stride ← padInt dim.width 16
    semiplanar422 .bare stride dim.height dim planes
  | .yuv420Nv12Venus | .yuv420Nv12Ubwc => venus .postview fmt dim planes
  | .yOnly => do
    let stride ← padInt dim.width 64
    let scanline ← padInt dim.height 64
    lumaOnly .bare stride scanline dim planes
  | _ => .error .failed

/-- `mm_camera_util_chip_is_a_family` is a parameter, it depends on the build. -/
def mmStreamCalcOffsetSnapshot (isAFamily : Bool) (fmt : CamFormat) (dim : CamDimension)
    (padding : CamPaddingInfo) (planes : StreamBufPlanes) : Calc StreamBufPlanes := do
  let stride ← (if isAFamily then .ok dim.width else padInt dim.width padding.widthPadding)
  let padded ← padInt dim.height (if isAFamily then 16 else padding.heightPadding)
  let offsetY := if isAFamily then padded - dim.height else 0
  -- the rows above the picture once more below it
  let scanline ← int32 (padded + offsetY)
  let rule := .shifted padding.planePadding 0 offsetY
  match fmt with
  | .yuv420Nv12 | .yuv420Nv21 => semiplanar420 rule stride scanline dim planes
  | .yuv420Yv12 => planar420 rule stride scanline dim planes
  | .yuv422Nv16 | .yuv422Nv61 => semiplanar422 rule stride scanline dim planes
  | .yuv420Nv12Ubwc | .yuv420Nv12Venus => venus .snapshot fmt dim planes
  | .yOnly => lumaOnly rule stride scanline dim planes
  | _ => .error .failed

/-- The one plane of a packed raw format, described as a single row of bytes if `asRow`. -/
def packedRaw (asRow : Bool) (stride strideInBytes scanline : Nat) (padding : CamPaddingInfo)
    (planes : StreamBufPlanes) : Calc StreamBufPlanes := do
  let len ← padUint (← int32 (strideInBytes * scanline)) padding.planePadding
  let frameLen ← padUint len 4096
  let width ← int32 len
  let old := planes.mp 0
  let plane : MpLenOffset :=
    { len := len
      offset := 0
      offsetX := 0
      offsetY := 0
      stride := stride
      strideInBytes := strideInBytes
      scanline := scanline
      width := if asRow then width else old.width
      height := if asRow then 1 else old.height }
  .ok { setPlane 0 plane planes with numPlanes := 1, frameLen := frameLen }

section raw

variable (dim : CamDimension) (scanline : Nat) (padding : CamPaddingInfo) (planes : StreamBufPlanes)

def raw16Bit (asRow : Bool) : Calc StreamBufPlanes := do
  let stride ← padInt dim.width 16
  let strideInBytes ← int32 (stride * 2)
  packedRaw asRow stride strideInBytes scanline padding planes

/-- Every 16 pixels occupy 16 bytes. -/
def raw8bpp : Calc StreamBufPlanes := do
  let stride ← padInt dim.width 16
  packedRaw true stride stride scanline padding planes

/-- Every 12 pixels occupy 16 bytes. -/
def rawQcom10bpp : Calc StreamBufPlanes := do
  let sum ← int32 (dim.width + 11)
  let stride ← int32 (sum / 12 * 12)
  let bytes ← int32 (stride * 8)
  packedRaw true stride (bytes / 6) scanline padding planes

/-- Every 10 pixels occupy 16 bytes. -/
def rawQcom12bpp : Calc StreamBufPlanes := do
  let sum ← int32 (dim.width + 9)
  let stride ← int32 (sum / 10 * 10)
  let bytes ← int32 (stride * 8)
  packedRaw true stride (bytes / 5) scanline padding planes

/-- Every 64 pixels occupy 80 bytes. -/
def rawMipi10bpp : Calc StreamBufPlanes := do
  let stride ← padInt dim.width 4
  let bytes ← int32 (stride * 5)
  let strideInBytes ← padInt (bytes / 4) 8
  packedRaw true stride strideInBytes scanline padding planes

/-- Every 32 pixels occupy 48 bytes. -/
def rawMipi12bpp : Calc StreamBufPlanes := do
  let stride ← padInt dim.width 32
  let bytes ← int32 (stride * 3)
  packedRaw true stride (bytes / 2) scanline padding planes

/-- Every 8 pixels occupy 16 bytes. -/
def rawPlain16 : Calc StreamBufPlanes := do
  let stride ← padInt dim.width 8
  let strideInBytes ← int32 (stride * 2)
  packedRaw true stride strideInBytes scanline padding planes

end raw

def mmStreamCalcOffsetRaw (fmt : CamFormat) (dim : CamDimension) (padding : CamPaddingInfo)
    (planes : StreamBufPlanes) : Calc StreamBufPlanes := do
  let stride ← padInt dim.width padding.widthPadding
  let scanline ← padInt dim.height padding.heightPadding
  match fmt with
  | .yuv420Nv21 =>
    planes |> layPlanes (.padded padding.planePadding)
      [{ stride := stride, scanline := scanline, width := dim.width, height := dim.height,
         strideInBytes := some stride },
       { stride := stride, scanline := scanline / 2, width := dim.width, height := dim.height / 2,
         strideInBytes := some stride }]
  | .yuvRaw8bit _ | .jpegRaw8bit => raw16Bit dim scanline padding planes true
  | .metaRaw8bit => raw16Bit dim scanline padding planes false
  | .bayer .qcomRaw8bpp _ | .bayer .mipiRaw8bpp _ | .bayer .idealRawQcom8bpp _
  | .bayer .idealRawMipi8bpp _ | .bayer .idealRawPlain8b8bpp _ =>
    raw8bpp dim scanline padding planes
  | .bayer .qcomRaw10bpp _ | .bayer .idealRawQcom10bpp _ =>
    rawQcom10bpp dim scanline padding planes
  | .bayer .qcomRaw12bpp _ | .bayer .idealRawQcom12bpp _ =>
    rawQcom12bpp dim scanline padding planes
  | .bayer .mipiRaw10bpp _ | .bayer .idealRawMipi10bpp _ =>
    rawMipi10bpp dim scanline padding planes
  | .bayer .mipiRaw12bpp _ | .bayer .idealRawMipi12bpp _ =>
    rawMipi12bpp dim scanline padding planes
  | .bayer .idealRawPlain16b8bpp _ | .bayer .idealRawPlain16b10bpp _
  | .bayer .idealRawPlain16b12bpp _ => rawPlain16 dim scanline padding planes
  | _ => .error .failed

def mmStreamCalcOffsetVideo (fmt : CamFormat) (dim : CamDimension) (planes : StreamBufPlanes) :
    Calc StreamBufPlanes :=
  match fmt with
  | .yuv420Nv12 => semiplanar420 (.padded 2048) dim.width dim.height dim planes
  | .yuv420Nv12Venus | .yuv420Nv21Venus | .yuv420Nv12Ubwc => venus .video fmt dim planes
  | _ => .error .failed

def mmStreamCalcOffsetMetadata (dim : CamDimension) (padding : CamPaddingInfo)
    (planes : StreamBufPlanes) : Calc StreamBufPlanes := do
  let planes ← planes |> writePlanes (.padded padding.planePadding) 0
    [{ stride := dim.width, scanline := dim.height, width := dim.width, height := dim.height }]
  .ok { planes with numPlanes := 1, frameLen := (planes.mp 0).len }

def mmStreamCalcOffsetAnalysis (fmt : CamFormat) (dim : CamDimension) (padding : CamPaddingInfo)
    (planes : StreamBufPlanes) : Calc StreamBufPlanes := do
  let stride ← (if dim.width < padding.minStride then int32 padding.minStride else .ok dim.width)
  let scanline ←
    (if dim.height < padding.minScanline then int32 padding.minScanline else .ok dim.height)
  let stride ← padInt stride padding.widthPadding
  let scanline ← padInt scanline padding.heightPadding
  let rule := .shifted padding.planePadding 0 0
  match fmt with
  | .yuv420Nv12 | .yuv420Nv21 => semiplanar420 rule stride scanline dim planes
  | .yuv420Yv12 => planar420 rule stride scanline dim planes
  | .yuv422Nv16 | .yuv422Nv61 => semiplanar422 rule stride scanline dim planes
  | .yOnly => lumaOnly rule stride scanline dim planes
  | _ => .error .failed

/-- The type of the input that a reprocess stream is laid out as. -/
def inputType : ReprocessConfig → CamStreamType
  | .online inputStreamType => inputStreamType
  | .offline inputType _ => inputType

/-- The planes taken over from the input source. -/
def takenOver (info : StreamInfo) : Option StreamBufPlanes :=
  match info.reprocessConfig with
  | .offline .default inputBufPlanes =>
    if info.bufPlanes.frameLen = 0 then some inputBufPlanes else none
  | _ => none

variable (isAFamily : Bool)

def mmStreamCalcOffsetPostproc (info : StreamInfo) (padding : CamPaddingInfo) :
    Calc StreamBufPlanes :=
  match takenOver info with
  | some planes => .ok planes
  | none =>
    match inputType info.reprocessConfig with
    | .preview | .callback =>
      mmStreamCalcOffsetPreview venus info info.dim padding info.bufPlanes
    | .postview => mmStreamCalcOffsetPostView venus info.fmt info.dim info.bufPlanes
    | .snapshot | .offlineProc =>
      mmStreamCalcOffsetSnapshot venus isAFamily info.fmt info.dim padding info.bufPlanes
    | .video => mmStreamCalcOffsetDefault info.fmt info.dim padding info.bufPlanes
    | .raw => mmStreamCalcOffsetRaw info.fmt info.dim padding info.bufPlanes
    | .analysis => mmStreamCalcOffsetAnalysis info.fmt info.dim padding info.bufPlanes
    | .metadata => mmStreamCalcOffsetMetadata info.dim padding info.bufPlanes
    | _ => .error .failed

def camQcomFeatureRotation : UInt32 := (1 : UInt32) <<< 3

/-- The dimensions with the sides switched where the stream is rotated by 90 or 270 degrees. -/
def rotatedDim (info : StreamInfo) : CamDimension :=
  if info.featureMask &&& camQcomFeatureRotation ≠ 0 ∧ info.streamType ≠ .video ∧
      (info.rotation = .rotate90 ∨ info.rotation = .rotate270) then
    { width := info.dim.height, height := info.dim.width }
  else info.dim

/-- The planes that `mm_stream_calc_offset` leaves in the stream. -/
def mmStreamCalcOffset (info : StreamInfo) (padding : CamPaddingInfo) : Calc StreamBufPlanes :=
  let dim := rotatedDim info
  match info.streamType with
  | .preview | .callback => mmStreamCalcOffsetPreview venus info dim padding info.bufPlanes
  | .postview => mmStreamCalcOffsetPostView venus info.fmt dim info.bufPlanes
  | .snapshot => mmStreamCalcOffsetSnapshot venus isAFamily info.fmt dim padding info.bufPlanes
  | .offlineProc => mmStreamCalcOffsetPostproc venus isAFamily info padding
  | .video => mmStreamCalcOffsetVideo venus info.fmt dim info.bufPlanes
  | .raw => mmStreamCalcOffsetRaw info.fmt dim padding info.bufPlanes
  | .analysis => mmStreamCalcOffsetAnalysis info.fmt dim padding info.bufPlanes
  | .metadata => mmStreamCalcOffsetMetadata dim padding info.bufPlanes
  | _ => .error .failed

end stream

end PlaneLayout

end DeviceHal.Camera
