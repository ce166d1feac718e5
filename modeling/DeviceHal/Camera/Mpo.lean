import Mathlib.Algebra.Group.Int.Defs
import Mathlib.Algebra.Group.Nat.Defs
import DeviceHal.Lib.Overwrite

namespace DeviceHal.Camera

open Lib

def uint32 (n : Nat) : Nat := n % 0x100000000

def readLong (buf : List UInt8) (o : Nat) : Option Nat :=
  match buf[o]?, buf[o + 1]?, buf[o + 2]?, buf[o + 3]? with
  | some b0, some b1, some b2, some b3 =>
    some (b0.toNat * 0x1000000 + b1.toNat * 0x10000 + b2.toNat * 0x100 + b3.toNat)
  | _, _, _, _ => none

def readLongLittle (buf : List UInt8) (o : Nat) : Option Nat :=
  match buf[o]?, buf[o + 1]?, buf[o + 2]?, buf[o + 3]? with
  | some b0, some b1, some b2, some b3 =>
    some (b3.toNat * 0x1000000 + b2.toNat * 0x10000 + b1.toNat * 0x100 + b0.toNat)
  | _, _, _, _ => none

def readShort (buf : List UInt8) (o : Nat) : Option Nat :=
  match buf[o]?, buf[o + 1]? with
  | some b0, some b1 => some (b0.toNat * 0x100 + b1.toNat)
  | _, _ => none

def readLongAs (little : Bool) (buf : List UInt8) (o : Nat) : Option Nat :=
  if little then readLongLittle buf o else readLong buf o

/-- Byte `k` of an int. -/
def byteOf (value : Int) (k : Nat) : UInt8 := UInt8.ofNat (value / 0x100 ^ k % 0x100).toNat

def longBytes (little : Bool) (value : Int) : List UInt8 :=
  if little then [byteOf value 0, byteOf value 1, byteOf value 2, byteOf value 3]
  else [byteOf value 3, byteOf value 2, byteOf value 1, byteOf value 0]

/-- Writes a value, or sets the overflow flag. `none` is a write outside the buffer. -/
def writeLong (little : Bool) (buffOffset bufferSize : Nat) (value : Int)
    (s : Bool × List UInt8) : Option (Bool × List UInt8) :=
  let overflow := s.1 || uint32 (buffOffset + 3) ≥ bufferSize
  if overflow then some (true, s.2)
  else if buffOffset + 4 ≤ s.2.length then
    some (false, overwrite buffOffset (longBytes little value) s.2)
  else none

def mmJpegMpoWriteLongLittleEndian (buffOffset bufferSize : Nat) (value : Int)
    (s : Bool × List UInt8) : Option (Bool × List UInt8) :=
  writeLong true buffOffset bufferSize value s

def mmJpegMpoWriteLong (buffOffset bufferSize : Nat) (value : Int)
    (s : Bool × List UInt8) : Option (Bool × List UInt8) :=
  writeLong false buffOffset bufferSize value s

def writeLongAs (little : Bool) (buffOffset bufferSize : Nat) (value : Int)
    (s : Bool × List UInt8) : Option (Bool × List UInt8) :=
  if little then mmJpegMpoWriteLongLittleEndian buffOffset bufferSize value s
  else mmJpegMpoWriteLong buffOffset bufferSize value s

def mApp2 : UInt8 := 0xe2

def mEoi : UInt8 := 0xd9

def mSoi : UInt8 := 0xd8

/-- The byte where the search for 0xFF stops, and the place after it. `none` is a read outside the
buffer. -/
def nextFF (buf : List UInt8) (bufferSize p : Nat) : Option (UInt8 × Nat) :=
  if _ : p < buf.length then
    if buf[p] ≠ 0xff ∧ p + 2 < bufferSize then nextFF buf bufferSize (p + 1)
    else some (buf[p], p + 1)
  else none
termination_by buf.length - p

variable {buf buf' : List UInt8} {bufferSize p p' : Nat} {byte : UInt8}

theorem nextFF_bounds (h : nextFF buf bufferSize p = some (byte, p')) :
    p < p' ∧ p' ≤ buf.length := by
  induction p using nextFF.induct buf bufferSize with
  | case1 p hp hgo ih =>
    rw [nextFF, dif_pos hp, if_pos hgo] at h
    have hrest := ih h
    omega
  | case2 p hp hstop =>
    rw [nextFF, dif_pos hp, if_neg hstop] at h
    cases h
    omega
  | case3 p hp =>
    rw [nextFF, dif_neg hp] at h
    cases h

/-- The search from a place on. `none` is a read outside the buffer, `some none` a null pointer. -/
def getAppMarkerFrom (buf : List UInt8) (bufferSize : Nat) (appMarker : UInt8) (p : Nat) :
    Option (Option Nat) :=
  match _h : nextFF buf bufferSize p with
  | none => none
  | some (byte, p') =>
    if byte ≠ 0xff then some none
    else
      match buf[p']? with
      | none => none
      | some byte =>
        if byte = appMarker then some (some (p' + 1))
        else
          match if byte ≠ mSoi then readShort buf (p' + 1) else some 0 with
          | none => none
          | some appMarkerSize =>
            if byte ≠ mEoi ∧ p' + appMarkerSize + 1 < bufferSize then
              getAppMarkerFrom buf bufferSize appMarker (p' + appMarkerSize)
            else some none
termination_by buf.length - p
decreasing_by
  have hp := nextFF_bounds _h
  omega

def mmJpegMpoGetAppMarker (buf : List UInt8) (bufferSize : Nat) (appMarker : UInt8) :
    Option (Option Nat) :=
  getAppMarkerFrom buf bufferSize appMarker 0

def mmJpegMpoGetMpHeader (app2StartOffset : Nat) : Nat := app2StartOffset + 2 + 4

def mpoLittleEndian : Nat := 0x49492A00

/-- A buffer and how much of it is filled. -/
structure MpoBuff where
  bytes : List UInt8
  bufFilledLen : Nat
deriving DecidableEq

/-- The images to compose, and the output buffer. An object has less than half of the 32 bit address
space. -/
structure MpoInfo where
  primaryImage : List UInt8
  auxImages : List (List UInt8)
  outputBuff : MpoBuff
  primarySmall : primaryImage.length < 0x80000000
  outputSmall : outputBuff.bytes.length < 0x80000000

def appendLoop : List (List UInt8) → MpoBuff → Int × MpoBuff
  | [], b => (0, b)
  | img :: rest, b =>
    if b.bufFilledLen + img.length ≤ b.bytes.length then
      appendLoop rest
        { bytes := overwrite b.bufFilledLen img b.bytes
          bufFilledLen := b.bufFilledLen + img.length }
    else (-1, b)

/-- Writes the MP entries of the auxiliary images. -/
def entryLoop (little : Bool) (outputBuffSize mpHeader : Nat) :
    List (List UInt8) → Nat → Nat → Bool × List UInt8 → Option (Bool × List UInt8)
  | [], _, _, s => some s
  | img :: rest, mpEntryValOffset, auxStart, s =>
    let mpEntryValOffset := uint32 (mpEntryValOffset + 16)
    let currentOffset := uint32 (mpEntryValOffset + 4)
    (writeLongAs little currentOffset outputBuffSize img.length s).bind fun s =>
    let currentOffset := uint32 (currentOffset + 4)
    (writeLongAs little currentOffset outputBuffSize (auxStart - mpHeader : Int) s).bind fun s =>
    entryLoop little outputBuffSize mpHeader rest mpEntryValOffset (auxStart + img.length) s

/-- The bytes of the output buffer change. -/
def mmJpegMpoUpdateHeader (info : MpoInfo) (bytes : List UInt8) : Option (Int × List UInt8) :=
  (mmJpegMpoGetAppMarker bytes info.primaryImage.length mApp2).bind fun app2 =>
  match app2 with
  | none => some (-1, bytes)
  | some app2 =>
    let mpHeader := mmJpegMpoGetMpHeader app2
    let outputBuffSize := bytes.length
    (readLong bytes mpHeader).bind fun endianess =>
    let little : Bool := endianess = mpoLittleEndian
    (readLongAs little bytes (mpHeader + 4)).bind fun offsetToNxtIfd =>
    let mpIndexIfdOffset := uint32 (mpHeader + offsetToNxtIfd)
    (readShort bytes mpIndexIfdOffset).bind fun ifdTagCount =>
    let mpEntryValOffset := uint32 (mpIndexIfdOffset + 2 + ifdTagCount * 12 + 4)
    let currentOffset := uint32 (mpEntryValOffset + 4)
    (writeLongAs little currentOffset outputBuffSize info.primaryImage.length
      (false, bytes)).bind fun s =>
    (entryLoop little outputBuffSize mpHeader info.auxImages mpEntryValOffset
      info.primaryImage.length s).map fun s => (if s.1 then -1 else 0, s.2)

/-- `none` is an access outside the output buffer. -/
def mmJpegMpoCompose (info : MpoInfo) : Option (Int × MpoBuff) :=
  let out := info.outputBuff
  let primary := info.primaryImage
  if out.bufFilledLen = 0 ∧ ¬primary.length < out.bytes.length then some (-1, out)
  else
    let out :=
      if out.bufFilledLen = 0 then
        { bytes := overwrite 0 primary out.bytes, bufFilledLen := primary.length }
      else out
    let r := appendLoop info.auxImages out
    if r.1 ≠ 0 then some (-1, r.2)
    else (mmJpegMpoUpdateHeader info r.2.bytes).map fun u => (u.1, { r.2 with bytes := u.2 })

end DeviceHal.Camera
