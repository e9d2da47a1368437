import BrailleDisplay.Key.Event
import BrailleDisplay.Frame.Link

/-!
# Polling for key events

`Link.poll` answers the next key event that has arrived, without waiting.  Frames that are no events
are logged and skipped; a channel that fails asks for a new connection.
-/

namespace BrailleDisplay

/-- What a poll found. -/
inductive Polled where
  /-- A key event. -/
  | event (event : KeyEvent)
  /-- Nothing has arrived. -/
  | nothing
  /-- The channel failed; the display must be connected anew. -/
  | lost
  deriving DecidableEq, Repr

namespace Link

variable {χ σ : Type}

/-- Look for a key event among the frames that have arrived, `more` of them at most. -/
def pollFrames (T : Transport χ σ) (fuel : Nat) : Nat → Link χ → World σ →
    Bounded σ (Polled × Link χ × World σ)
  | 0, _, w => .cutShort w
  | more + 1, link, w => do
    let (outcome, link, w) ← link.nextFrame T fuel 0 w
    match outcome with
    | .error e =>
      .ended (.lost, link, w.log .warn ("input read failed: " ++ e.message))
    | .ok none => .ended (.nothing, link, w)
    | .ok (some frame) =>
      match KeyEvent.ofFrame? frame with
      | some event => .ended (.event event, link, w)
      | none => pollFrames T fuel more link (w.log .debug ("unexpected frame: " ++ frame.describe))

/-- The next key event that has arrived. -/
def poll (T : Transport χ σ) (fuel : Nat) (link : Link χ) (w : World σ) :
    Bounded σ (Polled × Link χ × World σ) :=
  pollFrames T fuel fuel link w

end Link

end BrailleDisplay
