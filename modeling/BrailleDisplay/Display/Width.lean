import BrailleDisplay.Display.Fault
import BrailleDisplay.Frame.Link
import BrailleDisplay.Frame.Host

/-!
# Asking a device how wide it is

* `Width` — a number of cells, and whether the device told it;
* `awaitWidth` — after a request, the first cell count that is not zero, until the time window of
  the attempt closes; all other frames are skipped, but they do not prolong the window;
* `askWidth` — at most two attempts, then the profile's default.  A failure of the channel ends only
  the attempt it happens in.
-/

namespace BrailleDisplay

/-- How long an attempt waits for the cell count, in microseconds. -/
def widthTimeout : Nat := 1000000

/-- How often the cell count is asked for. -/
def widthAttempts : Nat := 2

/-- The width of a display. -/
inductive Width where
  /-- The device told it. -/
  | reported (cells : UInt8)
  /-- The device did not; the profile's default applies. -/
  | assumed (cells : UInt8)
  deriving DecidableEq, Repr

namespace Width

/-- The number of cells. -/
def cells : Width → UInt8
  | reported n => n
  | assumed n => n

/-- Whether the device told it. -/
def isReported : Width → Bool
  | reported _ => true
  | assumed _ => false

end Width

/-- The request for the cell count. -/
def widthRequest : HostFrame where
  command := Request.cellCount
  mode := Request.mode
  data1 := List.replicate Request.padding 0

/-- The number of cells a frame reports, if it does so. -/
def Frame.widthReport? : Frame → Option UInt8
  | .short _ => none
  | .long f => if f.reportType = .cells then some f.data else none

namespace Link

variable {χ σ : Type}

/-- Build a frame and send it. -/
def send (T : Transport χ σ) (frame : HostFrame) (link : Link χ) (w : World σ) :
    Except DisplayFault Unit × Link χ × World σ :=
  match frame.encode with
  | .error e => (.error (.frame e), link, w)
  | .ok bytes =>
    let (result, link, w) := link.write T bytes w
    (result.mapError .transport, link, w)

/-- Wait for a cell count until `deadline`. -/
def awaitWidth (T : Transport χ σ) (fuel deadline : Nat) : Nat → Link χ → World σ →
    Bounded σ (Except DisplayFault (Option UInt8) × Link χ × World σ)
  | 0, _, w => .cutShort w
  | more + 1, link, w =>
    if deadline ≤ w.now then .ended (.ok none, link, w)
    else do
      let (outcome, link, w) ← link.nextFrame T fuel (deadline - w.now) w
      match outcome with
      | .error e => .ended (.error (.transport e), link, w)
      | .ok none => .ended (.ok none, link, w)
      | .ok (some frame) =>
        match frame.widthReport? with
        | some count =>
          if count = 0 then
            awaitWidth T fuel deadline more link
              (w.log .warn "device reported zero cells, ignoring")
          else if maxCells < count then
            let message := s!"device reported {count} cells, limiting to {maxCells}"
            .ended (.ok (some maxCells), link, w.log .warn message)
          else .ended (.ok (some count), link, w)
        | none =>
          let message := "ignoring frame while awaiting cell count: " ++ frame.describe
          awaitWidth T fuel deadline more link (w.log .debug message)

/-- One request and its time window. -/
def askOnce (T : Transport χ σ) (fuel : Nat) (link : Link χ) (w : World σ) :
    Bounded σ (Except DisplayFault (Option UInt8) × Link χ × World σ) :=
  match link.send T widthRequest w with
  | (.error e, link, w) => .ended (.error e, link, w)
  | (.ok (), link, w) => awaitWidth T fuel (w.now + widthTimeout) fuel link w

/-- Make `remaining` more of the attempts, and fall back to `fallback`. -/
def askAgain (T : Transport χ σ) (fuel : Nat) (fallback : UInt8) : Nat → Link χ → World σ →
    Bounded σ (Width × Link χ × World σ)
  | 0, link, w =>
    let message := s!"device did not report its cell count, assuming {fallback}"
    .ended (.assumed fallback, link, w.log .warn message)
  | remaining + 1, link, w => do
    let attempt := widthAttempts - remaining
    let (outcome, link, w) ← link.askOnce T fuel w
    match outcome with
    | .ok (some cells) => .ended (.reported cells, link, w.log .info s!"cell count: {cells}")
    | .ok none =>
      let message := s!"no cell count response (attempt {attempt})"
      askAgain T fuel fallback remaining link (w.log .debug message)
    | .error e =>
      let message := s!"cell count request failed (attempt {attempt}): " ++ e.message
      askAgain T fuel fallback remaining link (w.log .warn message)

/-- The width the device reports, or else `fallback`. -/
def askWidth (T : Transport χ σ) (fuel : Nat) (fallback : UInt8) (link : Link χ)
    (w : World σ) : Bounded σ (Width × Link χ × World σ) :=
  askAgain T fuel fallback widthAttempts link w

end Link

end BrailleDisplay
