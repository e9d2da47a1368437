/-!
# The world around a channel

Everything that can be observed or moved, apart from the channels themselves, is a value.

* `Plant σ` — the clock, the flag that an interrupt clears, and the state `σ` of all devices;
* `Note` — what is said on the way: log entries, and lines for the two standard streams;
* `World σ` — a plant together with the notes taken so far; `World.logged`, `World.outputText` and
  `World.printedText` are what the log and the two streams show of them;
* `Reply σ α` — what an operation on the plant answers: a value, the plant afterwards, and notes;
* `Bounded σ α` — what loops come to that may repeat only so often: an answer, or the world in which
  the bound was used up.

Operations on devices work on the plant alone: they add notes but cannot see any, so nothing a
device does depends on what has been logged or printed.
-/

namespace BrailleDisplay

/-- How much a log entry matters. -/
inductive Level where
  | trace
  | debug
  | info
  | warn
  deriving DecidableEq, Repr

/-- The name of a level in the log. -/
def Level.name : Level → String
  | trace => "TRACE"
  | debug => "DEBUG"
  | info => "INFO"
  | warn => "WARN"

/-- Something said on the way. -/
inductive Note where
  /-- An entry of the log. -/
  | log (level : Level) (message : String)
  /-- A line on standard output. -/
  | output (line : String)
  /-- A line on standard error. -/
  | printed (line : String)
  deriving DecidableEq, Repr

/-- The clock and everything beyond the channels. -/
structure Plant (σ : Type) where
  /-- Time since the start, in microseconds. -/
  now : Nat
  /-- Cleared by an interrupt. -/
  running : Bool
  /-- The state of all devices. -/
  state : σ

/-- A plant and the notes taken so far, the oldest first. -/
structure World (σ : Type) where
  /-- The clock and the devices. -/
  plant : Plant σ
  /-- What has been said. -/
  notes : Array Note := #[]

/-- What an operation on the plant answers. -/
structure Reply (σ α : Type) where
  /-- The answer itself. -/
  value : α
  /-- The plant afterwards. -/
  plant : Plant σ
  /-- What was said, the oldest first. -/
  notes : List Note := []

namespace World

variable {σ α : Type}

/-- Take a note. -/
def note (w : World σ) (n : Note) : World σ :=
  { w with notes := w.notes.push n }

/-- Notes move nothing. -/
theorem plant_foldl_note (notes : List Note) (w : World σ) :
    (notes.foldl note w).plant = w.plant := by
  induction notes generalizing w with
  | nil => rfl
  | cons n rest ih => exact ih (w.note n)

/-- Write an entry to the log. -/
def log (w : World σ) (level : Level) (message : String) : World σ :=
  w.note (.log level message)

/-- Write a line to standard output. -/
def say (w : World σ) (line : String) : World σ :=
  w.note (.output line)

/-- Write lines to standard output. -/
def sayAll (w : World σ) (lines : List String) : World σ :=
  lines.foldl say w

/-- The time now. -/
def now (w : World σ) : Nat :=
  w.plant.now

/-- Whether no interrupt has come. -/
def running (w : World σ) : Bool :=
  w.plant.running

/-- Let time pass. -/
def sleep (w : World σ) (duration : Nat) : World σ :=
  { w with plant := { w.plant with now := w.plant.now + duration } }

/-- The entries of the log, each behind its level. -/
def logged (w : World σ) : List String :=
  w.notes.toList.filterMap fun
    | .log level message => some (level.name ++ " " ++ message)
    | _ => none

/-- What went to standard output, each line with its line break. -/
def outputText (w : World σ) : String :=
  String.join <| w.notes.toList.filterMap fun
    | .output line => some (line ++ "\n")
    | _ => none

/-- What went to standard error, each line with its line break. -/
def printedText (w : World σ) : String :=
  String.join <| w.notes.toList.filterMap fun
    | .printed line => some (line ++ "\n")
    | _ => none

/-- The world with its notes forgotten. -/
def quiet (w : World σ) : World σ :=
  { w with notes := #[] }

/-- Carry out an operation on the plant and keep what it said. -/
def perform (w : World σ) (operation : Plant σ → Reply σ α) : α × World σ :=
  let reply := operation w.plant
  (reply.value, { plant := reply.plant, notes := w.notes ++ reply.notes.toArray })

end World

/-! ### Bounded runs -/

/-- What loops come to that may repeat only so often. -/
inductive Bounded (σ α : Type) where
  /-- They ended with an answer. -/
  | ended (answer : α)
  /-- The bound was used up first; this is the world at that moment. -/
  | cutShort (w : World σ)

namespace Bounded

variable {σ α β : Type}

/-- Go on from an answer; a run that was cut short stays so. -/
def andThen (run : Bounded σ α) (next : α → Bounded σ β) : Bounded σ β :=
  match run with
  | ended answer => next answer
  | cutShort w => cutShort w

instance : Monad (Bounded σ) where
  pure := ended
  bind := andThen

end Bounded

end BrailleDisplay
