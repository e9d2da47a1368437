import BrailleDisplay.Display.Window
import BrailleDisplay.Proofs.Cell.Driving
import BrailleDisplay.Proofs.Frame.LinkExchange

/-!
# What a window sends

Showing cells is one attempt to write one frame, and the window remembers the cells exactly when the
channel acknowledges it.

* `HostFrame.Shows`, `Attempt.Shows` — a frame, and an attempt to write one, that tells a display to
  show cells, field by field and cell by cell; `Window.shows_iff` says which frame that is;
* `Showing` — an attempt to show cells; `Window.after` is what it makes of a window, and
  `lastAcknowledged` the cells of the last one that was acknowledged: these are what the window
  remembers (`Window.shown_foldl_after`);
* `Window.Submitted`, `Window.submit_exchange` — sending cells is one such attempt;
* `Window.Updated`, `Window.update_exchange` — so is updating a window, unless the cells do not fit
  or are those it remembers.
-/

namespace BrailleDisplay

theorem DotWiring.length_driveAll (wiring : DotWiring) (cells : List UInt8) :
    (wiring.driveAll cells).length = cells.length :=
  List.length_map _

/-! ## Frames that show cells -/

/-- The frame tells a display of this wiring to show cells: it is the command 0xFC in mode 1, and
its data are the cells, each of them as it is wired. -/
structure HostFrame.Shows (frame : HostFrame) (wiring : DotWiring) (cells : List UInt8) : Prop where
  command : frame.command = 0xFC
  mode : frame.mode = 1
  cells : List.Forall₂ wiring.Translates cells frame.data1
  rest : frame.data2 = []

theorem HostFrame.shows_iff {frame : HostFrame} {wiring : DotWiring} {cells : List UInt8} :
    frame.Shows wiring cells ↔ frame = ⟨0xFC, 1, wiring.driveAll cells, []⟩ := by
  constructor
  · intro ⟨command, mode, cells, rest⟩
    obtain ⟨_, _, _, _⟩ := frame
    cases command
    cases mode
    cases rest
    exact congrArg (HostFrame.mk 0xFC 1 · []) (DotWiring.forall₂_translates_iff.mp cells)
  · rintro rfl
    exact ⟨rfl, rfl, DotWiring.forall₂_translates_iff.mpr rfl, rfl⟩

/-- **The frame of a window tells a display to show its cells**, and no other frame does. -/
theorem Window.shows_iff {window : Window} {frame : HostFrame} {cells : List UInt8} :
    frame.Shows window.dots cells ↔ frame = window.frame cells :=
  HostFrame.shows_iff

/-- What is sent tells a display of this wiring to show cells. -/
def Attempt.Shows (attempt : Attempt) (wiring : DotWiring) (cells : List UInt8) : Prop :=
  ∃ frame : HostFrame, frame.Shows wiring cells ∧ attempt.Sends frame

theorem Window.attempt_shows_iff {window : Window} {attempt : Attempt} {cells : List UInt8} :
    attempt.Shows window.dots cells ↔ attempt.Sends (window.frame cells) := by
  simp only [Attempt.Shows, shows_iff, exists_eq_left]

/-- In every wiring, to show blank cells is to send zeros. -/
theorem Attempt.shows_blank_iff {attempt : Attempt} {wiring : DotWiring} {count : Nat} :
    attempt.Shows wiring (List.replicate count 0)
      ↔ attempt.Sends { command := 0xFC, mode := 1, data1 := List.replicate count 0 } := by
  have blank : wiring.driveAll (List.replicate count 0) = List.replicate count 0 := by
    rw [DotWiring.driveAll, List.map_replicate, wiring.drive_zero]
  simp only [Attempt.Shows, HostFrame.shows_iff, blank, exists_eq_left]

/-! ## Attempts to show cells -/

/-- An attempt to show cells. -/
structure Showing where
  cells : List UInt8
  /-- The attempt to write their frame. -/
  attempt : Attempt
  deriving Repr

def Showing.acknowledged (showing : Showing) : Bool :=
  showing.attempt.result.isOk

/-- The cells of the most recent attempt that the channel acknowledged. -/
def lastAcknowledged (showings : List Showing) : Option (List UInt8) :=
  ((showings.filter Showing.acknowledged).getLast?).map Showing.cells

theorem lastAcknowledged_concat (showings : List Showing) (showing : Showing) :
    lastAcknowledged (showings ++ [showing])
      = if showing.acknowledged then some showing.cells else lastAcknowledged showings := by
  rw [lastAcknowledged, List.filter_append, List.filter_singleton]
  cases showing.acknowledged with
  | true => simp
  | false => simp [lastAcknowledged]

theorem lastAcknowledged_cons {first : Showing} (acknowledged : first.acknowledged = true)
    (rest : List Showing) :
    lastAcknowledged (first :: rest) = some ((lastAcknowledged rest).getD first.cells) := by
  rw [lastAcknowledged, List.filter_cons_of_pos acknowledged, List.getLast?_cons, lastAcknowledged]
  cases (rest.filter Showing.acknowledged).getLast? with
  | none => rfl
  | some last => rfl

namespace Window

theorem width_blank (cells : UInt8) (dots : DotWiring) : (blank cells dots).width = cells.toNat :=
  List.length_replicate

/-- The frame of a window can always be written. -/
theorem width_blank_lt (cells : UInt8) (dots : DotWiring) : (blank cells dots).width < 65536 := by
  have small := cells.toNat_lt
  rw [width_blank]
  omega

/-- The window after an attempt to show cells: it remembers them if they were acknowledged. -/
def after (window : Window) (showing : Showing) : Window :=
  if showing.acknowledged then { window with shown := showing.cells } else window

theorem dots_after (window : Window) (showing : Showing) :
    (window.after showing).dots = window.dots := by
  unfold after
  split
  · rfl
  · rfl

theorem width_after {window : Window} {showing : Showing}
    (fits : showing.cells.length = window.width) : (window.after showing).width = window.width := by
  unfold after
  split
  · exact fits
  · rfl

/-- **A window remembers the cells of the most recent attempt that was acknowledged**, and before
the first such what it remembered at the start. -/
theorem shown_foldl_after (window : Window) (showings : List Showing) :
    (showings.foldl after window).shown = (lastAcknowledged showings).getD window.shown := by
  induction showings using List.reverseRecOn with
  | nil => rfl
  | append_singleton showings showing ih =>
    rw [List.foldl_append, lastAcknowledged_concat]
    show (after _ showing).shown = _
    unfold after
    cases showing.acknowledged with
    | true => rfl
    | false => exact ih

/-- Attempts to show as many cells as the window has, as they are wired. -/
def Fitting (window : Window) (showings : List Showing) : Prop :=
  ∀ showing ∈ showings, showing.cells.length = window.width
    ∧ showing.attempt.Shows window.dots showing.cells

/-- Whether attempts fit is a matter of the width and the wiring alone. -/
theorem Fitting.transfer {window window' : Window} {showings : List Showing}
    (fitting : window.Fitting showings) (width : window'.width = window.width)
    (dots : window'.dots = window.dots) : window'.Fitting showings := by
  intro showing among
  obtain ⟨fits, shows⟩ := fitting showing among
  exact ⟨fits.trans width.symm, dots ▸ shows⟩

/-- Attempts that fit leave the window as it is, but for the cells it remembers. -/
theorem Fitting.foldl_after {window : Window} {showings : List Showing}
    (fitting : window.Fitting showings) :
    (showings.foldl after window).width = window.width
      ∧ (showings.foldl after window).dots = window.dots := by
  induction showings using List.reverseRecOn with
  | nil => exact ⟨rfl, rfl⟩
  | append_singleton showings showing ih =>
    obtain ⟨width, dots⟩ := ih fun other among => fitting other (List.mem_append_left _ among)
    obtain ⟨fits, -⟩ := fitting showing (List.mem_append_right _ (List.mem_singleton_self _))
    rw [List.foldl_append]
    exact ⟨(width_after (fits.trans width.symm)).trans width, (dots_after _ _).trans dots⟩

/-- More attempts fit behind those before them if they fit the window these leave. -/
theorem Fitting.append {window : Window} {showings more : List Showing}
    (fitting : window.Fitting showings) (later : (showings.foldl after window).Fitting more) :
    window.Fitting (showings ++ more) := by
  obtain ⟨width, dots⟩ := fitting.foldl_after
  intro showing among
  rcases List.mem_append.mp among with early | late
  · exact fitting showing early
  · exact later.transfer width.symm dots.symm showing late

/-! ## Sending cells -/

/-- What an attempt to show cells sends, what it answers, and the window it leaves. -/
structure Submitted (window : Window) (showing : Showing) (result : Except DisplayFault Unit)
    (window' : Window) : Prop where
  shows : showing.attempt.Shows window.dots showing.cells
  answers : result = showing.attempt.result.mapError .transport
  leaves : window' = window.after showing

/-- What updating a window with cells attempts, what it answers, and the window it leaves. -/
inductive Updated (window : Window) (cells : List UInt8) :
    List Showing → Except DisplayFault Update → Window → Prop
  | misfit (misfits : cells.length ≠ window.width) :
      Updated window cells [] (.error (.cellCountMismatch window.width cells.length)) window
  | unchanged (fits : cells.length = window.width) (same : cells = window.shown) :
      Updated window cells [] (.ok .unchanged) window
  | attempted {attempt : Attempt} {result : Except DisplayFault Unit} {window' : Window}
      (fits : cells.length = window.width) (differs : cells ≠ window.shown)
      (submitted : window.Submitted ⟨cells, attempt⟩ result window') :
      Updated window cells [⟨cells, attempt⟩] (result.map fun _ => .transmitted) window'

variable {χ σ : Type} {journal : σ → List Entry} {number : χ → Nat} {T : Transport χ σ}

/-- Sending cells is one attempt. -/
theorem submit_exchange (enters : T.Enters journal number) {cells : List UInt8}
    (short : cells.length < 65536) (window : Window) {link : Link χ} (w : World σ)
    (isOpen : link.closed = false) :
    let (result, window', link', w') := window.submit T cells link w
    ∃ attempt, Link.Exchange journal number link w [] [attempt] link' w'
      ∧ window.Submitted ⟨cells, attempt⟩ result window' := by
  obtain ⟨bytes, written⟩ := (window.frame cells).fits_encode
    (by rw [frame, DotWiring.length_driveAll]; exact short) (Nat.zero_lt_succ _)
  have sent := Link.send_exchange enters written w isOpen
  unfold submit
  generalize link.send T (window.frame cells) w = result at sent ⊢
  obtain ⟨result, link₁, w₁⟩ := result
  obtain ⟨outcome, talk, rfl⟩ := sent
  have shows : Attempt.Shows ⟨bytes, outcome⟩ window.dots cells := attempt_shows_iff.mpr written
  cases outcome with
  | error e => exact ⟨⟨bytes, .error e⟩, talk, shows, rfl, rfl⟩
  | ok _ => exact ⟨⟨bytes, .ok ()⟩, talk.thenIdle rfl, shows, rfl, rfl⟩

/-- Blanking a window is one attempt, whatever it shows. -/
theorem erase_exchange (enters : T.Enters journal number) {window : Window}
    (short : window.width < 65536) {link : Link χ} (w : World σ) (isOpen : link.closed = false) :
    let (result, window', link', w') := window.erase T link w
    ∃ attempt, Link.Exchange journal number link w [] [attempt] link' w'
      ∧ window.Submitted ⟨List.replicate window.width 0, attempt⟩ result window' :=
  submit_exchange enters (by rw [List.length_replicate]; exact short) window w isOpen

/-- **Updating a window attempts to send the cells only if they fit and are not those shown.** -/
theorem update_exchange (enters : T.Enters journal number) (cells : List UInt8) {window : Window}
    (short : window.width < 65536) {link : Link χ} (w : World σ) (isOpen : link.closed = false) :
    let (result, window', link', w') := window.update T cells link w
    ∃ showings, Link.Exchange journal number link w [] (showings.map Showing.attempt) link' w'
      ∧ window.Updated cells showings result window' := by
  unfold update
  by_cases misfits : cells.length ≠ window.width
  · rw [if_pos misfits]
    exact ⟨[], .idle isOpen rfl, .misfit misfits⟩
  · rw [if_neg misfits]
    have fits : cells.length = window.width := Decidable.not_not.mp misfits
    by_cases same : cells = window.shown
    · rw [if_pos same]
      exact ⟨[], .idle isOpen rfl, .unchanged fits same⟩
    · rw [if_neg same]
      have sent := submit_exchange enters (fits ▸ short) window w isOpen
      generalize window.submit T cells link w = result at sent ⊢
      obtain ⟨result, window', link', w'⟩ := result
      obtain ⟨attempt, talk, submitted⟩ := sent
      exact ⟨[⟨cells, attempt⟩], talk, .attempted fits same submitted⟩

end Window

end BrailleDisplay
