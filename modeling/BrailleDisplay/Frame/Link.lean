import BrailleDisplay.Channel.Transport
import BrailleDisplay.Frame.Decoder

/-!
# Frames over a channel

A `Link` owns a channel and recognises the frames among the bytes that come in.

* `Link.write` — send a frame;
* `Link.nextFrame` — the next verified frame, within a time limit; rejected candidates are logged
  and skipped, and a frame may straddle any number of reads and calls;
* `Link.close` — close the channel, once; `Link.shut` — the same where nobody takes the error;
* `Link.drop` — let go of the link, which closes what is still open.

Reading repeats until a frame is complete, the channel has nothing, or it fails.  How often it may
repeat is bounded by `fuel`; it is cut short only when that does not suffice, and then more would
have been read.
-/

namespace BrailleDisplay

/-- The most bytes asked of the channel at once. -/
def readSize : Nat := 64

/-- A channel, and what is known of the bytes that came from it. -/
structure Link (χ : Type) where
  /-- The channel. -/
  channel : χ
  /-- The recogniser, with the bytes it has taken. -/
  decoder : Decoder := .fresh
  /-- Bytes read but not yet given to the recogniser. -/
  pending : List UInt8 := []
  /-- Whether the link has been closed. -/
  closed : Bool := false

namespace Link

variable {χ σ : Type}

/-- The device behind the link. -/
def info (T : Transport χ σ) (link : Link χ) : DeviceInfo :=
  T.info link.channel

/-- Send a frame. -/
def write (T : Transport χ σ) (bytes : List UInt8) (link : Link χ) (w : World σ) :
    Except ChannelFault Unit × Link χ × World σ :=
  if link.closed then (.error .closed, link, w)
  else
    let w := w.log .debug ("write: " ++ Text.hexDump bytes)
    let ((result, channel), w) := w.perform (T.write bytes link.channel)
    (result, { link with channel }, w)

/-- The log entry for a rejected candidate; zero bytes are the padding of HID reports. -/
def rejection (reason : FrameFault) (bytes : List UInt8) : Note :=
  if reason = .unexpectedLeadByte 0x00 then .log .trace "discarded padding byte"
  else .log .warn ("invalid frame (" ++ reason.message ++ "): " ++ Text.hexDump bytes)

/-- Give bytes to the recogniser until one completes a frame: the frame, the recogniser, and the
bytes left over. -/
def drain (d : Decoder) (w : World σ) :
    List UInt8 → Option Frame × Decoder × List UInt8 × World σ
  | [] => (none, d, [], w)
  | b :: rest =>
    match d.push b with
    | (.incomplete, d) => drain d w rest
    | (.valid frame, d) => (some frame, d, rest, w.log .debug ("read: " ++ frame.describe))
    | (.invalid reason bytes, d) => drain d (w.note (rejection reason bytes)) rest

/-- Read until a frame is complete, nothing has come by `deadline`, or the channel fails. -/
def awaitFrame (T : Transport χ σ) (deadline : Nat) : Nat → Link χ → World σ →
    Bounded σ (Except ChannelFault (Option Frame) × Link χ × World σ)
  | fuel, link, w =>
    match drain link.decoder w link.pending with
    | (some frame, decoder, pending, w) =>
      .ended (.ok (some frame), { link with decoder, pending }, w)
    | (none, decoder, pending, w) =>
      match fuel with
      | 0 => .cutShort w
      | fuel + 1 =>
        let ((result, channel), w) :=
          w.perform (T.read readSize (deadline - w.now) link.channel)
        let link := { link with channel, decoder, pending }
        match result with
        | .error e => .ended (.error e, link, w)
        | .ok [] => .ended (.ok none, link, w)
        | .ok bytes => awaitFrame T deadline fuel { link with pending := bytes } w

/-- The next verified frame, waiting at most `timeout` microseconds; none if it does not come. -/
def nextFrame (T : Transport χ σ) (fuel timeout : Nat) (link : Link χ) (w : World σ) :
    Bounded σ (Except ChannelFault (Option Frame) × Link χ × World σ) :=
  if link.closed then .ended (.error .closed, link, w)
  else awaitFrame T (w.now + timeout) fuel link w

/-- Close the channel; later calls do nothing. -/
def close (T : Transport χ σ) (link : Link χ) (w : World σ) :
    Except ChannelFault Unit × Link χ × World σ :=
  if link.closed then (.ok (), link, w)
  else
    let ((result, channel), w) := w.perform (T.close link.channel)
    (result, { link with channel, decoder := link.decoder.reset, pending := [], closed := true }, w)

/-- Close the channel and log the failure, if any. -/
def shut (T : Transport χ σ) (link : Link χ) (w : World σ) : Link χ × World σ :=
  match link.close T w with
  | (.ok (), link, w) => (link, w)
  | (.error e, link, w) => (link, w.log .warn ("closing channel failed: " ++ e.message))

/-- Let go of the link. -/
def drop (T : Transport χ σ) (link : Link χ) (w : World σ) : World σ :=
  (link.shut T w).2

end Link

end BrailleDisplay
