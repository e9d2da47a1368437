import BrailleDisplay.CommandLine.Report
import BrailleDisplay.CommandLine.Setup
import BrailleDisplay.Display.Session

/-!
# The commands

Each command works on a session and the world, prints its lines, and succeeds or fails.

* `showInfo`, `showCells`, `clearDisplay`, `printKeys` — the commands that connect a display; on
  every way out the display is released;
* `printDisplays`, `printProfiles` — the commands that do not;
* `perform` — the command of an invocation;
* `Outcome` — what a run of the program leaves behind: its exit code and what it printed.

As everywhere, a command is cut short only when `fuel` did not suffice.
-/

namespace BrailleDisplay.CommandLine

variable {χ σ η : Type}

/-- What becomes of a command. -/
abbrev Result (σ : Type) := Except Failure Unit × World σ

/-! ### Commands that connect a display -/

/-- Connect a display and go on with it. -/
def withDisplay (s : Session χ σ) (fuel : Nat) (w : World σ)
    (work : Display χ → World σ → Result σ) : Bounded σ (Result σ) := do
  let (connected, w) ← s.connect fuel w
  match connected with
  | .error e => return (.error (.ofDisplay e), w)
  | .ok display => return work display w

/-- Release a display after its work is done. -/
def release (s : Session χ σ) (display : Display χ) (w : World σ) : Result σ :=
  let (closed, w) := display.release s.source.transport w
  (closed.mapError .ofTransport, w)

/-- Give a display up after a failure. -/
def giveUp (s : Session χ σ) (display : Display χ) (failure : Failure) (w : World σ) :
    Result σ :=
  (.error failure, display.drop s.source.transport w)

/-- Describe the display. -/
def showInfo (s : Session χ σ) (fuel : Nat) (w : World σ) : Bounded σ (Result σ) :=
  withDisplay s fuel w fun display w =>
    let lines := displayLines (display.deviceInfo s.source.transport) display
    release s display (w.sayAll lines)

/-- The cells filled up with blank ones to a width. -/
def padded (width : Nat) (cells : List UInt8) : List UInt8 :=
  cells.rightpad width 0

/-- Show cells that fit the display. -/
def showWindow (s : Session χ σ) (cells : List UInt8) (display : Display χ) (w : World σ) :
    Result σ :=
  let width := display.columns
  match display.present s.source.transport (padded width cells) w with
  | (.error e, display, w) => giveUp s display (.ofDisplay e) w
  | (.ok .unchanged, display, w) => release s display (w.say "Display already blank")
  | (.ok .transmitted, display, w) =>
    let shown := " ".intercalate (cells.map dotsOfCell)
    release s display (w.say (s!"Wrote {cells.length}/{width} cells: " ++ shown))

/-- Show cells written as dot numbers; all of them are read before the display is connected. -/
def showCells (s : Session χ σ) (fuel : Nat) (texts : List String) (w : World σ) :
    Bounded σ (Result σ) :=
  match texts.mapM cellOfDots with
  | .error e => .ended (.error (.ofDisplay (.invalidCell e)), w)
  | .ok cells =>
    withDisplay s fuel w fun display w =>
      let width := display.columns
      if width < cells.length then
        match release s display w with
        | (.error failure, w) => (.error failure, w)
        | (.ok (), w) =>
          (.error { message := s!"{cells.length} cells given, display has {width}" }, w)
      else showWindow s cells display w

/-- Blank the display. -/
def clearDisplay (s : Session χ σ) (fuel : Nat) (w : World σ) : Bounded σ (Result σ) :=
  withDisplay s fuel w fun display w =>
    match display.clear s.source.transport w with
    | (.error e, display, w) => giveUp s display (.ofDisplay e) w
    | (.ok (), display, w) => release s display (w.say s!"Cleared {display.columns} cells")

/-- Print an event and stop when the last of `count` has been seen, the first one always being
printed. -/
def printEvent (count : Option Nat) (json : Bool) : EventHandler χ σ Nat :=
  fun display event seen w =>
    let line :=
      if json then (eventRecord display.keyTable event).compact
      else eventText display.keyTable event
    let seen := seen + 1
    (if count.any (· ≤ seen) then .stop else .goOn, seen, w.say line)

/-- Print key events until an interrupt comes or `count` were seen. -/
def printKeys (s : Session χ σ) (fuel : Nat) (count : Option Nat) (json : Bool) (w : World σ) :
    Bounded σ (Result σ) := do
  let w := if json then w else w.note (.printed "Press keys on the display, Ctrl-C to stop")
  let (delivered, _, w) ← s.monitor fuel (printEvent count json) 0 w
  return ((delivered.map fun _ => ()).mapError .ofDisplay, w)

/-! ### Commands that do not -/

/-- List the displays on the bus. -/
def printDisplays (B : HidBus η σ) (setup : Setup) (w : World σ) : Result σ :=
  match w.perform (listDisplays B {}) with
  | (.error e, w) => (.error (.ofTransport e), w)
  | (.ok devices, w) =>
    (.ok (), w.sayAll (deviceLines setup.locator setup.config.device devices))

/-- Print the profiles there are. -/
def printProfiles (profiles : ProfileSet) (json : Bool) (w : World σ) : Result σ :=
  (.ok (), if json then w.say profiles.json.pretty else w.sayAll (profileSetLines profiles))

/-! ### A run of the program -/

/-- Carry out a command on a session. -/
def Command.run (command : Command) (B : HidBus η σ) (fuel : Nat) (setup : Setup)
    (s : Session χ σ) (w : World σ) : Bounded σ (Result σ) :=
  match command with
  | .list => .ended (printDisplays B setup w)
  | .info => showInfo s fuel w
  | .profiles json => .ended (printProfiles setup.profiles json w)
  | .write cells => showCells s fuel cells w
  | .clear => clearDisplay s fuel w
  | .keys count json => printKeys s fuel count json w

/-- Carry out an invocation, given what was found at the place of its configuration. -/
def perform (B : HidBus η σ) (fuel : Nat) (invocation : Invocation) (file : ConfigFile)
    (contents : FileContents) (w : World σ) : Bounded σ (Result σ) :=
  match Setup.prepare invocation file contents with
  | .error failure => .ended (.error failure, w)
  | .ok setup =>
    let session : Session (ReportChannel η) σ := ⟨displaySource B {} setup.locator, setup.profiles⟩
    match setup.printer with
    | none => invocation.command.run B fuel setup session w
    | some config => invocation.command.run B fuel setup (session.printed config) w

/-- What a run of the program leaves behind. -/
structure Outcome where
  /-- Zero for success. -/
  exitCode : UInt8
  /-- What went to standard output. -/
  output : String := ""
  /-- What went to standard error. -/
  errors : String := ""
  deriving DecidableEq, Repr

/-- The name of the program. -/
def programName : String := "nattiq_driver"

/-- The version of the program. -/
def programVersion : String := "0.1.0"

/-- How the program is used. -/
def usageText : String :=
  "usage: " ++ programName ++ " [OPTIONS] [list|info|profiles|write|clear|keys|help]"

/-- The outcome when the reading of the arguments ends early. -/
def Stop.outcome : Stop → Outcome
  | usage => { exitCode := 2, errors := usageText ++ "\n" }
  | help => { exitCode := 0, output := usageText ++ "\n" }
  | version command =>
    let subject := programName ++ (command.map fun c => "-" ++ c.name).getD ""
    { exitCode := 0, output := subject ++ " " ++ programVersion ++ "\n" }

/-- The outcome of a command. -/
def Result.outcome (result : Result σ) : Outcome :=
  match result with
  | (.ok (), w) => { exitCode := 0, output := w.outputText, errors := w.printedText }
  | (.error failure, w) =>
    { exitCode := 1, output := w.outputText, errors := w.printedText ++ failure.text ++ "\n" }

end BrailleDisplay.CommandLine
