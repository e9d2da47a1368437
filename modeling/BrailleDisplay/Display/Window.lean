import BrailleDisplay.Display.Width

/-!
# Showing cells

A `Window` remembers the cells the device last accepted, so that cells it already shows are not sent
again, and cells it did not accept are.

* `Window.update` — send cells if they differ from those shown;
* `Window.erase` — send blank cells, whatever is shown.
-/

namespace BrailleDisplay

/-- What an update did. -/
inductive Update where
  /-- The cells are those shown; nothing was sent. -/
  | unchanged
  /-- The cells were sent. -/
  | transmitted
  deriving DecidableEq, Repr

/-- The cells a display shows. -/
structure Window where
  /-- The cells of the last write the device accepted. -/
  shown : List UInt8
  /-- How the display's dots are wired. -/
  dots : DotWiring
  deriving DecidableEq, Repr

namespace Window

variable {χ σ : Type}

/-- The window of a blank display. -/
def blank (cells : UInt8) (dots : DotWiring) : Window where
  shown := List.replicate cells.toNat 0
  dots := dots

/-- The width in cells. -/
def width (window : Window) : Nat :=
  window.shown.length

/-- The frame that makes the display show cells. -/
def frame (window : Window) (cells : List UInt8) : HostFrame where
  command := Request.window
  mode := Request.mode
  data1 := window.dots.driveAll cells

/-- Send cells; they are shown once the channel has accepted them. -/
def submit (T : Transport χ σ) (cells : List UInt8) (window : Window) (link : Link χ)
    (w : World σ) : Except DisplayFault Unit × Window × Link χ × World σ :=
  match link.send T (window.frame cells) w with
  | (.error e, link, w) => (.error e, window, link, w)
  | (.ok (), link, w) =>
    (.ok (), { window with shown := cells }, link, w.log .debug s!"wrote {cells.length} cells")

/-- Show cells, as many as the display is wide, unless it shows them already. -/
def update (T : Transport χ σ) (cells : List UInt8) (window : Window) (link : Link χ)
    (w : World σ) : Except DisplayFault Update × Window × Link χ × World σ :=
  if cells.length ≠ window.width then
    (.error (.cellCountMismatch window.width cells.length), window, link, w)
  else if cells = window.shown then (.ok .unchanged, window, link, w)
  else
    let (result, window, link, w) := window.submit T cells link w
    (result.map fun _ => .transmitted, window, link, w)

/-- Blank the display, whatever it shows. -/
def erase (T : Transport χ σ) (window : Window) (link : Link χ) (w : World σ) :
    Except DisplayFault Unit × Window × Link χ × World σ :=
  window.submit T (List.replicate window.width 0) link w

end Window

end BrailleDisplay
