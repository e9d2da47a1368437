import BrailleDisplay.Frame.Basic

/-!
# The frames a host sends

A frame to the display has two data sections of any length that 16 bits can count:

    cmd cmd mode F0 len1 data1 F1 F2 len2 data2 F3 00 00 00 00 ck FD FD

Lengths are two bytes, the low one first; `ck` is the sum of all other bytes modulo 256, the
closing pair included.

* `HostFrame.encode` writes a frame, unless a section is too long to be counted;
* `HostFrame.parse` reads one back and refuses everything `encode` does not write, naming the
  first thing that is wrong from the front, and the checksum last.
-/

namespace BrailleDisplay

/-- Zero bytes before the checksum of a frame to the display. -/
def zeroRun : Nat := 4

/-- Bytes of a frame to the display outside its two data sections. -/
def hostOverhead : Nat := 2 + 1 + 1 + 2 + 1 + 1 + 2 + 1 + zeroRun + 1 + 2

namespace Request

/-- Ask the display how many cells it has. -/
def cellCount : UInt8 := 0xFB
/-- Show a window of cells. -/
def window : UInt8 := 0xFC
/-- The one mode either command is sent with. -/
def mode : UInt8 := 0x01
/-- Zero bytes that fill a cell count request. -/
def padding : Nat := 32

/-- The name of a command byte. -/
def name (code : UInt8) : String :=
  if code = cellCount then "CELL_COUNT_REQUEST"
  else if code = window then "WRITE_CELLS"
  else "UNKNOWN"

end Request

/-- A frame to the display. -/
structure HostFrame where
  /-- What the display is asked to do. -/
  command : UInt8
  /-- How it is asked. -/
  mode : UInt8
  /-- First data section. -/
  data1 : List UInt8
  /-- Second data section; empty when there is none. -/
  data2 : List UInt8 := []
  deriving DecidableEq, Repr

/-! ### Writing -/

/-- The two bytes of a section length, the low one first; lengths beyond 16 bits have none. -/
def sectionLength? (data : List UInt8) : Except FrameFault (List UInt8) :=
  let size := data.length
  if size < 65536 then .ok [UInt8.ofNat (size % 256), UInt8.ofNat (size / 256)]
  else .error (.payloadTooLarge size)

namespace HostFrame

/-- The frame up to its checksum, with both lengths given. -/
def beforeCheck (f : HostFrame) (length1 length2 : List UInt8) : List UInt8 :=
  [f.command, f.command, f.mode, Marker.section1Lead] ++ length1 ++ f.data1
    ++ [Marker.section1Tail, Marker.section2Lead] ++ length2 ++ f.data2
    ++ [Marker.section2Tail] ++ List.replicate zeroRun 0

/-- The bytes of the frame; a section too long for its length field is refused. -/
def encode (f : HostFrame) : Except FrameFault (List UInt8) := do
  let length1 ← sectionLength? f.data1
  let length2 ← sectionLength? f.data2
  let front := f.beforeCheck length1 length2
  let close := [Marker.closing, Marker.closing]
  return front ++ [checksum (front ++ close)] ++ close

end HostFrame

/-! ### Reading -/

/-- A place in a buffer: how many bytes lie before it, and those that follow. -/
structure Reader where
  /-- Bytes already read. -/
  offset : Nat
  /-- Bytes still to read. -/
  rest : List UInt8
  deriving DecidableEq, Repr

namespace Reader

/-- Read `n` bytes. -/
def take (n : Nat) (c : Reader) : Except FrameFault (List UInt8 × Reader) :=
  if c.rest.length < n then
    .error (.truncated (c.offset + n) (c.offset + c.rest.length))
  else
    .ok (c.rest.take n, ⟨c.offset + n, c.rest.drop n⟩)

/-- Read one byte. -/
def byte (c : Reader) : Except FrameFault (UInt8 × Reader) :=
  match c.rest with
  | [] => .error (.truncated (c.offset + 1) c.offset)
  | b :: rest => .ok (b, ⟨c.offset + 1, rest⟩)

/-- Read a 16-bit number, the low byte first. -/
def word (c : Reader) : Except FrameFault (Nat × Reader) :=
  match c.rest with
  | low :: high :: rest => .ok (low.toNat + 256 * high.toNat, ⟨c.offset + 2, rest⟩)
  | rest => .error (.truncated (c.offset + 2) (c.offset + rest.length))

/-- Read a byte that must be `expected`. -/
def marker (expected : UInt8) (c : Reader) : Except FrameFault Reader := do
  let (got, next) ← c.byte
  if got = expected then return next
  else throw (.badMarker c.offset expected got)

/-- Read `n` bytes that must all be `expected`. -/
def markers (expected : UInt8) : Nat → Reader → Except FrameFault Reader
  | 0, c => .ok c
  | n + 1, c => do markers expected n (← c.marker expected)

/-- Read a data section between its markers. -/
def dataSection (start stop : UInt8) (c : Reader) : Except FrameFault (List UInt8 × Reader) := do
  let c ← c.marker start
  let (size, c) ← c.word
  let (data, c) ← c.take size
  let c ← c.marker stop
  return (data, c)

end Reader

/-- Read a complete frame to the display. -/
def HostFrame.parse (bytes : List UInt8) : Except FrameFault HostFrame := do
  let (command, c) ← Reader.byte ⟨0, bytes⟩
  let (again, c) ← c.byte
  if command ≠ again then throw (.commandMismatch command again)
  let (mode, c) ← c.byte
  let (data1, c) ← c.dataSection Marker.section1Lead Marker.section1Tail
  let (data2, c) ← c.dataSection Marker.section2Lead Marker.section2Tail
  let c ← c.markers 0 zeroRun
  let (carried, c) ← c.byte
  let c ← c.markers Marker.closing 2
  if c.rest ≠ [] then throw (.trailingBytes c.rest.length)
  let computed := checksum bytes - carried
  if computed ≠ carried then throw (.checksumMismatch computed carried)
  return ⟨command, mode, data1, data2⟩

end BrailleDisplay
