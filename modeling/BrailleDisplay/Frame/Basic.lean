import BrailleDisplay.Text.Hex

/-!
# The frames a display sends

Two frame shapes arrive from a display, each fixed in length and closed by its own end marker:

* a **short** frame `1C id1 id2 1F` repeats an identity (`ShortFrame`);
* a **long** frame `FA type count data r0 r1 r2 r3 ck FB` carries input or a reply (`LongFrame`),
  where `ck` is the sum of the other nine bytes modulo 256.

A `Frame` value is a verified frame: markers and checksum are functions of its fields, so a value
that a display could not have sent does not exist.  `Frame.bytes` writes a frame out,
`Frame.describe` is its text in the log, and `FrameShape` is what a lead byte announces.
-/

namespace BrailleDisplay

/-! ### Markers, lengths and codes -/

namespace Marker

/-- Start of a short frame. -/
def shortLead : UInt8 := 0x1C
/-- End of a short frame. -/
def shortTail : UInt8 := 0x1F
/-- Start of a long frame. -/
def longLead : UInt8 := 0xFA
/-- End of a long frame. -/
def longTail : UInt8 := 0xFB
/-- Start of the first data section of a frame to the display. -/
def section1Lead : UInt8 := 0xF0
/-- End of the first data section of a frame to the display. -/
def section1Tail : UInt8 := 0xF1
/-- Start of the second data section of a frame to the display. -/
def section2Lead : UInt8 := 0xF2
/-- End of the second data section of a frame to the display. -/
def section2Tail : UInt8 := 0xF3
/-- Closing byte of a frame to the display, written twice. -/
def closing : UInt8 := 0xFD

end Marker

/-- Bytes in a short frame. -/
def shortSize : Nat := 4

/-- Bytes in a long frame. -/
def longSize : Nat := 10

/-- What a long frame reports. -/
inductive ReportType where
  /-- A routing key was pressed; `data` is the index of its cell. -/
  | cursor
  /-- The navigation keys held; the reserved bytes are the set of keys. -/
  | keys
  /-- The answer to a cell count request; `data` is the number of cells. -/
  | cells
  /-- A type that is not known. -/
  | unknown
  deriving DecidableEq, Repr

namespace ReportType

/-- The meaning of a long frame's type byte. -/
def ofByte (code : UInt8) : ReportType :=
  if code = 0x00 then cursor
  else if code = 0x01 then keys
  else if code = 0x02 then cells
  else unknown

/-- The name a report type has in the log. -/
def name : ReportType → String
  | cursor => "CURSOR"
  | keys => "KEYS"
  | cells => "CELLS"
  | unknown => "UNKNOWN"

end ReportType

/-! ### Rejections -/

/-- Why bytes were refused as a frame, or a frame could not be built. -/
inductive FrameFault where
  /-- The byte starts no known frame. -/
  | unexpectedLeadByte (got : UInt8)
  /-- The last byte is not the one that ends such a frame. -/
  | badTerminator (expected got : UInt8)
  /-- The checksum byte disagrees with the other bytes. -/
  | checksumMismatch (computed carried : UInt8)
  /-- The buffer ended before the frame did. -/
  | truncated (needed got : Nat)
  /-- A fixed marker byte is wrong. -/
  | badMarker (offset : Nat) (expected got : UInt8)
  /-- The two command bytes of a frame to the display differ. -/
  | commandMismatch (first second : UInt8)
  /-- The buffer goes on past the end of the frame. -/
  | trailingBytes (count : Nat)
  /-- A data section does not fit its 16-bit length field. -/
  | payloadTooLarge (size : Nat)
  deriving DecidableEq, Repr

open Text (hexByte hexDump) in
/-- The sentence shown for a rejection. -/
def FrameFault.message : FrameFault → String
  | unexpectedLeadByte got => s!"unexpected lead byte 0x{hexByte got}"
  | badTerminator expected got =>
    s!"bad terminator: expected 0x{hexByte expected}, got 0x{hexByte got}"
  | checksumMismatch computed carried =>
    s!"checksum mismatch: computed 0x{hexByte computed}, frame carries 0x{hexByte carried}"
  | truncated needed got => s!"truncated frame: need {needed} bytes, have {got}"
  | badMarker offset expected got =>
    s!"bad marker at offset {offset}: expected 0x{hexByte expected}, got 0x{hexByte got}"
  | commandMismatch first second =>
    s!"command bytes differ: 0x{hexByte first} / 0x{hexByte second}"
  | trailingBytes count => s!"{count} trailing bytes after frame"
  | payloadTooLarge size => s!"payload of {size} bytes exceeds the 16-bit length field"

/-! ### Frames -/

/-- The sum of the bytes, modulo 256. -/
def checksum (bytes : List UInt8) : UInt8 :=
  bytes.foldr (· + ·) 0

theorem checksum_append (xs ys : List UInt8) :
    checksum (xs ++ ys) = checksum xs + checksum ys := by
  induction xs with
  | nil => exact (UInt8.zero_add _).symm
  | cons b rest ih =>
    show b + checksum (rest ++ ys) = b + checksum rest + checksum ys
    rw [ih, UInt8.add_assoc]

/-- A byte taken out of a sum leaves the sum of the others. -/
theorem checksum_sub_slot (front back : List UInt8) (b : UInt8) :
    checksum (front ++ b :: back) - b = checksum (front ++ back) := by
  have slot : checksum (b :: back) = b + checksum back := rfl
  rw [checksum_append, checksum_append, slot, UInt8.add_comm b, ← UInt8.add_assoc,
    UInt8.add_sub_cancel]

/-- An identity frame. -/
structure ShortFrame where
  /-- First identity byte. -/
  id1 : UInt8
  /-- Second identity byte. -/
  id2 : UInt8
  deriving DecidableEq, Repr

/-- The four bytes of an identity frame; the host's identity probe is the same. -/
def ShortFrame.bytes (f : ShortFrame) : List UInt8 :=
  [Marker.shortLead, f.id1, f.id2, Marker.shortTail]

/-- An input or reply frame. -/
structure LongFrame where
  /-- The byte that tells what is reported. -/
  typeByte : UInt8
  /-- A byte displays fill in and no report uses. -/
  count : UInt8
  /-- A cell index or a cell count, by type. -/
  data : UInt8
  /-- Four bytes that hold the key set of a key report. -/
  reserved : Vector UInt8 4
  deriving DecidableEq, Repr

namespace LongFrame

/-- What the frame reports. -/
def reportType (f : LongFrame) : ReportType :=
  .ofByte f.typeByte

/-- The eight bytes before the checksum. -/
def body (f : LongFrame) : List UInt8 :=
  [Marker.longLead, f.typeByte, f.count, f.data] ++ f.reserved.toList

/-- The checksum byte: the sum of the other nine bytes, modulo 256. -/
def check (f : LongFrame) : UInt8 :=
  checksum (f.body ++ [Marker.longTail])

/-- The ten bytes of the frame. -/
def bytes (f : LongFrame) : List UInt8 :=
  f.body ++ [f.check, Marker.longTail]

/-- The reserved bytes as a set of 32 keys, the first byte holding the lowest numbers. -/
def keySet (f : LongFrame) : UInt32 :=
  f.reserved[0].toUInt32 ||| (f.reserved[1].toUInt32 <<< 8)
    ||| (f.reserved[2].toUInt32 <<< 16) ||| (f.reserved[3].toUInt32 <<< 24)

end LongFrame

/-- A verified frame from the display. -/
inductive Frame where
  | short (frame : ShortFrame)
  | long (frame : LongFrame)
  deriving DecidableEq, Repr

namespace Frame

/-- The bytes of the frame as they travel. -/
def bytes : Frame → List UInt8
  | short f => f.bytes
  | long f => f.bytes

open Text (hexByte hexDump) in
/-- The text of the frame in the log. -/
def describe : Frame → String
  | short f => s!"SHORT id={hexByte f.id1}/{hexByte f.id2}"
  | long f =>
    let name := f.reportType.name
    let reserved := hexDump f.reserved.toList
    s!"{name} count={f.count} data={f.data} reserved=[{reserved}]"

end Frame

/-! ### Shapes of frame -/

/-- The frame shape a lead byte announces. -/
inductive FrameShape where
  | short
  | long
  deriving DecidableEq, Repr

namespace FrameShape

/-- The shape of frame a byte starts, if it starts one. -/
def ofLeadByte? (b : UInt8) : Option FrameShape :=
  if b = Marker.shortLead then some short
  else if b = Marker.longLead then some long
  else none

/-- The byte that starts a frame of this shape. -/
def leadByte : FrameShape → UInt8
  | short => Marker.shortLead
  | long => Marker.longLead

/-- The number of bytes in a frame of this shape. -/
def length : FrameShape → Nat
  | short => shortSize
  | long => longSize

/-- The byte that ends a frame of this shape. -/
def lastByte : FrameShape → UInt8
  | short => Marker.shortTail
  | long => Marker.longTail

/-- A byte starts a frame of some shape just when it is the lead byte of that shape. -/
theorem ofLeadByte?_eq_some_iff {b : UInt8} {shape : FrameShape} :
    ofLeadByte? b = some shape ↔ b = shape.leadByte := by
  have apart : Marker.shortLead ≠ Marker.longLead := by decide
  unfold ofLeadByte?
  cases shape <;> simp only [leadByte] <;> split <;> simp_all

/-- No shape of frame is longer than a long frame. -/
theorem length_le (shape : FrameShape) : shape.length ≤ longSize := by
  cases shape <;> decide

/-- A frame of any shape has a first and a last byte. -/
theorem length_pos (shape : FrameShape) : 0 < shape.length := by
  cases shape <;> decide

end FrameShape

end BrailleDisplay
