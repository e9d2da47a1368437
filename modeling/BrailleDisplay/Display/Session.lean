import BrailleDisplay.Channel.Traffic
import BrailleDisplay.Display.Connection

/-!
# Sessions: displays that come back

A session knows where displays come from and which profiles there are, so it can connect a display
and, when its channel fails, connect it anew.

* `Session.connect` — open a channel and bring the display up on it;
* `Session.printed` — the same session with all traffic printed;
* `Session.retry` — try again, after a pause each time, until it works or an interrupt comes;
* `Session.monitor` — deliver key events to a handler, reconnecting after failures, until the
  handler stops it or an interrupt comes; the answer is the number of events delivered.

Monitoring has no bound of its own.  `fuel` bounds every loop in it, and it is cut short only when
that does not suffice.
-/

namespace BrailleDisplay

/-- The pause between two polls when nothing has come, in microseconds. -/
def pollPause : Nat := 20000

/-- The pause before connecting a failed display anew, in microseconds. -/
def retryPause : Nat := 500000

/-- Whether monitoring goes on after an event. -/
inductive Onward where
  | goOn
  | stop
  deriving DecidableEq, Repr

/-- What to do with an event of a display: whether to go on, and a state of one's own. -/
abbrev EventHandler (χ σ κ : Type) :=
  Display χ → KeyEvent → κ → World σ → Onward × κ × World σ

/-- Where displays come from and which profiles there are. -/
structure Session (χ σ : Type) where
  /-- Where channels come from. -/
  source : Source χ σ
  /-- The profiles to choose from. -/
  profiles : ProfileSet

namespace Session

variable {χ σ κ : Type}

/-- The same session with all traffic printed. -/
def printed (s : Session χ σ) (config : PrintOptions) : Session (Printed χ) σ where
  source := s.source.printed config
  profiles := s.profiles

/-- Open a channel and bring up the display on it. -/
def connect (s : Session χ σ) (fuel : Nat) (w : World σ) :
    Bounded σ (Except DisplayFault (Display χ) × World σ) :=
  match w.perform s.source.acquire with
  | (.error e, w) => .ended (.error (.transport e), w)
  | (.ok channel, w) => Display.bringUp s.source.transport fuel s.profiles channel w

/-- Try to connect, `more` times at most, until it works or an interrupt comes. -/
def retry (s : Session χ σ) (fuel : Nat) :
    Nat → World σ → Bounded σ (Option (Display χ) × World σ)
  | 0, w => .cutShort w
  | more + 1, w =>
    if !w.running then .ended (none, w)
    else do
      let (result, w) ← s.connect fuel (w.sleep retryPause)
      match result with
      | .ok display => .ended (some display, w.log .info ("reconnected: " ++ display.modelName))
      | .error e => retry s fuel more (w.log .warn ("reconnect failed: " ++ e.message))

/-- Release a display that was monitored; the answer is `delivered`, unless closing fails. -/
def finish (s : Session χ σ) (display : Display χ) (delivered : Nat) (w : World σ) :
    Except DisplayFault Nat × World σ :=
  match display.release s.source.transport w with
  | (.ok (), w) => (.ok delivered, w)
  | (.error e, w) => (.error (.transport e), w)

/-- Release a display whose channel has failed. -/
def release (s : Session χ σ) (display : Display χ) (w : World σ) : World σ :=
  let w := w.log .warn "display channel failed, reconnecting"
  match display.release s.source.transport w with
  | (.ok (), w) => w
  | (.error e, w) => w.log .warn ("closing failed display: " ++ e.message)

/-- Deliver the events of a connected display, `delivered` having been delivered before. -/
def watch (s : Session χ σ) (fuel : Nat) (handle : EventHandler χ σ κ) :
    Nat → Display χ → Nat → κ → World σ → Bounded σ (Except DisplayFault Nat × κ × World σ)
  | 0, _, _, _, w => .cutShort w
  | more + 1, display, delivered, k, w =>
    if !w.running then
      let (result, w) := s.finish display delivered w
      .ended (result, k, w)
    else do
      let (found, display, w) ← display.nextEvent s.source.transport fuel w
      match found with
      | .event event =>
        match handle display event k w with
        | (.stop, k, w) =>
          let (result, w) := s.finish display (delivered + 1) w
          .ended (result, k, w)
        | (.goOn, k, w) => watch s fuel handle more display (delivered + 1) k w
      | .nothing => watch s fuel handle more display delivered k (w.sleep pollPause)
      | .lost =>
        match ← s.retry fuel fuel (s.release display w) with
        | (some next, w) => watch s fuel handle more next delivered k w
        | (none, w) => .ended (.ok delivered, k, w)

/-- Connect a display and deliver its events to a handler. -/
def monitor (s : Session χ σ) (fuel : Nat) (handle : EventHandler χ σ κ) (k : κ)
    (w : World σ) : Bounded σ (Except DisplayFault Nat × κ × World σ) := do
  let (result, w) ← s.connect fuel w
  match result with
  | .error e => .ended (.error e, k, w)
  | .ok display => watch s fuel handle fuel display 0 k w

end Session

end BrailleDisplay
