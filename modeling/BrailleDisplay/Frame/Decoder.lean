import BrailleDisplay.Frame.Basic

/-!
# Recognising frames in a byte stream

A `Decoder` takes the bytes of a display one at a time.  Between frames it waits for a lead byte;
once one has come it collects as many bytes as that frame is long and then verifies all of them at
once (`Decoder.push`).  A candidate that fails is dropped whole: recognition starts again at the
byte after it, and bytes inside it are never looked at a second time.

* `Verdict` — what one byte led to: nothing yet, a verified frame, or a rejected candidate;
* `Decoder.judge` — the end marker is tested first, then the checksum of a long frame;
* `Decoder.run` — pushing a list of bytes, with what each of them led to.

The collected bytes stand at the front of a buffer that is as long as the longest frame and is not
cleared between candidates; `Decoder.collected` is the part in use.
-/

namespace BrailleDisplay

/-- What pushing one byte led to. -/
inductive Verdict where
  /-- The candidate is well-formed so far. -/
  | incomplete
  /-- The candidate is complete and verified. -/
  | valid (frame : Frame)
  /-- The candidate was dropped, with all its bytes. -/
  | invalid (reason : FrameFault) (bytes : List UInt8)
  deriving DecidableEq, Repr

/-- What the decoder waits for. -/
inductive Expectation where
  /-- Nothing is collected; the next byte must start a frame. -/
  | lead
  /-- A frame of this shape has started and lacks bytes. -/
  | restOf (shape : FrameShape)
  deriving DecidableEq, Repr

/-- A byte-at-a-time frame recogniser. -/
structure Decoder where
  /-- What the next byte is taken for. -/
  state : Expectation
  /-- Room for the longest frame; only the first `filled` bytes mean anything. -/
  buffer : Vector UInt8 longSize
  /-- How many bytes of the candidate are collected. -/
  filled : Nat
  deriving Repr

namespace Decoder

/-- A decoder between frames. -/
def fresh : Decoder where
  state := .lead
  buffer := Vector.replicate longSize 0
  filled := 0

/-- The bytes of the current candidate. -/
def collected (d : Decoder) : List UInt8 :=
  d.buffer.toList.take d.filled

/-- The decoder with any partial candidate dropped. -/
def reset (d : Decoder) : Decoder :=
  { d with state := .lead, filled := 0 }

/-- Verify a complete candidate of the given shape: its end marker, then, for a long frame, its
checksum. -/
def judge (shape : FrameShape) (buffer : Vector UInt8 longSize) : Except FrameFault Frame :=
  have last_lt : shape.length - 1 < longSize := by
    have := shape.length_pos
    have := shape.length_le
    omega
  let last := buffer[shape.length - 1]
  if last ≠ shape.lastByte then
    .error (.badTerminator shape.lastByte last)
  else
    match shape with
    | .short => .ok (.short ⟨buffer[1], buffer[2]⟩)
    | .long =>
      let carried := buffer[8]
      let computed := checksum buffer.toList - carried
      if computed ≠ carried then
        .error (.checksumMismatch computed carried)
      else
        let reserved := #v[buffer[4], buffer[5], buffer[6], buffer[7]]
        .ok (.long ⟨buffer[1], buffer[2], buffer[3], reserved⟩)

/-- Take one byte. -/
def push (d : Decoder) (b : UInt8) : Verdict × Decoder :=
  match d.state with
  | .lead =>
    match FrameShape.ofLeadByte? b with
    | some shape =>
      (.incomplete,
        { state := .restOf shape, buffer := d.buffer.setIfInBounds 0 b, filled := 1 })
    | none => (.invalid (.unexpectedLeadByte b) [b], d)
  | .restOf shape =>
    let grown : Decoder :=
      { d with buffer := d.buffer.setIfInBounds d.filled b, filled := d.filled + 1 }
    if grown.filled < shape.length then
      (.incomplete, grown)
    else
      match judge shape grown.buffer with
      | .ok frame => (.valid frame, grown.reset)
      | .error reason => (.invalid reason grown.collected, grown.reset)

/-- Take a list of bytes, noting what each of them led to. -/
def run (d : Decoder) : List UInt8 → List Verdict × Decoder
  | [] => ([], d)
  | b :: rest =>
    let (outcome, next) := d.push b
    let (outcomes, last) := run next rest
    (outcome :: outcomes, last)

end Decoder

end BrailleDisplay
