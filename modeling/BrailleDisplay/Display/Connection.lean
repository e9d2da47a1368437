import BrailleDisplay.Display.Identification
import BrailleDisplay.Display.Events
import BrailleDisplay.Display.Window

/-!
# A connected display

`Display.bringUp` brings a display up on an open channel: it selects the profile, probes the
identity, asks for the width, binds the key table and blanks the display; if that fails, the channel
is closed before the failure is answered.

* `Display.present`, `Display.clear` — show cells, and blank the display;
* `Display.nextEvent` — the next key event that has arrived;
* `Display.release` — close the channel, answering what that did; `Display.drop` logs it instead.
-/

namespace BrailleDisplay

/-- A connected display. -/
structure Display (χ : Type) where
  /-- The link to the device. -/
  link : Link χ
  /-- The profile of its model. -/
  profile : Profile
  /-- The identity that was confirmed or assumed. -/
  identity : Option Identity
  /-- Its width, and how it is known. -/
  width : Width
  /-- Its key table. -/
  keyTable : KeyTable
  /-- What it shows. -/
  window : Window

namespace Display

variable {χ σ : Type}

/-- Probe the identities of a profile, if it lists any. -/
def identify (T : Transport χ σ) (fuel : Nat) (profile : Profile) (link : Link χ) (w : World σ) :
    Bounded σ (Option Identity × Link χ × World σ) :=
  match profile.identities with
  | none => .ended (none, link, w)
  | some candidates => link.probe T fuel candidates w

/-- Bring up a display on an open channel. -/
def bringUp (T : Transport χ σ) (fuel : Nat) (profiles : ProfileSet) (channel : χ)
    (w : World σ) : Bounded σ (Except DisplayFault (Display χ) × World σ) := do
  let info := T.info channel
  let profile := profiles.profileFor info
  let w := (profiles.profileNotes info).foldl World.note w
  let w := w.log .info ("detected: " ++ profile.modelName)
  let (identity, link, w) ← identify T fuel profile { channel } w
  let (width, link, w) ← link.askWidth T fuel profile.usualCells w
  let probed := identity.map Identity.keyTable
  let keyTable := profile.keyTableFor probed width.cells
  let w := (profile.keyTableNotes probed width.cells).foldl World.note w
  match (Window.blank width.cells profile.dots).erase T link w with
  | (.error e, _, link, w) =>
    let w := w.log .warn ("initial clear failed: " ++ e.message)
    let (link, w) := link.shut T w
    return (.error e, link.drop T w)
  | (.ok (), window, link, w) =>
    let message :=
      profile.modelName ++ s!": {width.cells} cells, key table " ++ keyTable.name
    return (.ok { link, profile, identity, width, keyTable, window }, w.log .info message)

/-- Show cells, sending them only if they changed. -/
def present (T : Transport χ σ) (cells : List UInt8) (display : Display χ) (w : World σ) :
    Except DisplayFault Update × Display χ × World σ :=
  let (result, window, link, w) := display.window.update T cells display.link w
  (result, { display with window, link }, w)

/-- Blank the display. -/
def clear (T : Transport χ σ) (display : Display χ) (w : World σ) :
    Except DisplayFault Unit × Display χ × World σ :=
  let (result, window, link, w) := display.window.erase T display.link w
  (result, { display with window, link }, w)

/-- The next key event that has arrived. -/
def nextEvent (T : Transport χ σ) (fuel : Nat) (display : Display χ) (w : World σ) :
    Bounded σ (Polled × Display χ × World σ) := do
  let (result, link, w) ← display.link.poll T fuel w
  return (result, { display with link }, w)

/-- Release the channel, answering what closing it did. -/
def release (T : Transport χ σ) (display : Display χ) (w : World σ) :
    Except ChannelFault Unit × World σ :=
  let (result, link, w) := display.link.close T w
  (result, link.drop T w)

/-- Release the channel, logging a failure. -/
def drop (T : Transport χ σ) (display : Display χ) (w : World σ) : World σ :=
  display.link.drop T w

/-- The name of the model. -/
def modelName (display : Display χ) : String :=
  display.profile.modelName

/-- The width in cells. -/
def columns (display : Display χ) : Nat :=
  display.window.width

/-- The cells the display is known to show. -/
def shown (display : Display χ) : List UInt8 :=
  display.window.shown

/-- The device behind the display. -/
def deviceInfo (T : Transport χ σ) (display : Display χ) : DeviceInfo :=
  display.link.info T

end Display

end BrailleDisplay
