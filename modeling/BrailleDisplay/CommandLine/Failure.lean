import BrailleDisplay.Config.Applied
import BrailleDisplay.Text.Layout

/-!
# Failures as the user sees them

A failure is a sentence and the sentences of what lies behind it, the nearest cause first.

* `Failure.ofTransport`, `Failure.ofDisplay`, `Failure.ofConfig` — the failures of the library;
* `Failure.within` — a failure in the course of something larger;
* `Failure.text` — what is printed: one cause is indented, several are numbered.  Line breaks in a
  cause keep its indentation.
-/

namespace BrailleDisplay.CommandLine

/-- A failure and its causes. -/
structure Failure where
  /-- What has failed. -/
  message : String
  /-- What lies behind it, the nearest cause first. -/
  causes : List String := []
  deriving DecidableEq, Repr

namespace Failure

/-- A failure of a channel. -/
def ofTransport (e : ChannelFault) : Failure where
  message := e.message

/-- A failure of a display. -/
def ofDisplay (e : DisplayFault) : Failure where
  message := e.message
  causes := e.causes

/-- A failure of the configuration. -/
def ofConfig (e : ConfigFault) : Failure where
  message := e.message
  causes := e.causes

/-- A failure in the course of something larger. -/
def within (task : String) (f : Failure) : Failure where
  message := task
  causes := f.message :: f.causes

/-- A text behind a mark, its further lines indented as far as the mark is wide. -/
def hanging (mark : String) (text : String) : String :=
  let margin := List.replicate mark.length ' '
  mark ++ String.ofList (text.toList.flatMap fun c => if c = '\n' then c :: margin else [c])

/-- The number in front of a cause, when there are several. -/
def numbering (n : Nat) : String :=
  Text.decimalWidth 5 n ++ ": "

/-- The causes as they are printed. -/
def causeLines : List String → List String
  | [] => []
  | [cause] => [hanging "    " cause]
  | causes => causes.zipIdx.map fun (cause, n) => hanging (numbering n) cause

/-- What is printed for a failure. -/
def text (f : Failure) : String :=
  let heading := if f.causes.isEmpty then [] else ["", "Caused by:"]
  "\n".intercalate (("Error: " ++ f.message) :: heading ++ causeLines f.causes)

end Failure

end BrailleDisplay.CommandLine
