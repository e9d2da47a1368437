import BrailleDisplay.CommandLine.Program

/-!
# The program

Reads the variables and the file that tell the configuration, carries out the arguments, and prints
what the run leaves behind.  No HID system is attached: the bus is `silentBus`, which has no
entries.
-/

namespace BrailleDisplay.CommandLine

/-- A bus without entries. -/
def silentBus : HidBus Empty Unit where
  enumerate plant := (.ok [], plant)
  openEntry _ plant := (.error "No such device", plant)
  writeReport _ handle := handle.elim
  readReport _ _ handle := handle.elim

/-- The system's sentence for an error. -/
def systemReason (details : String) (code : UInt32) : String :=
  s!"{details} (os error {code})"

/-- What is found at a path. -/
def lookAt (path : String) : IO FileContents := do
  try
    return .content (← IO.FS.readFile path)
  catch
    | .noFileOrDirectory _ code details => return .absent (systemReason details code)
    | .permissionDenied _ code details => return .unreadable (systemReason details code)
    | .inappropriateType _ code details => return .unreadable (systemReason details code)
    | e => return .unreadable (toString e)

/-- Bounds every loop of a run; there are no devices that could make one long. -/
def runFuel : Nat := 1000000

/-- The outcome of the program for its arguments. -/
def runProgram (arguments : List String) : IO Outcome := do
  match Invocation.parse arguments with
  | .error stop => return stop.outcome
  | .ok invocation =>
    let surroundings : Surroundings :=
      { configHome := ← IO.getEnv "XDG_CONFIG_HOME", home := ← IO.getEnv "HOME" }
    let file := invocation.configFile surroundings
    let contents ← lookAt file.path
    match perform silentBus runFuel invocation file contents { plant := ⟨0, true, ()⟩ } with
    | .ended result => return Result.outcome result
    | .cutShort _ => return { exitCode := 1 }

end BrailleDisplay.CommandLine

/-- Run the program and print what it leaves behind. -/
def main (arguments : List String) : IO UInt32 := do
  let outcome ← BrailleDisplay.CommandLine.runProgram arguments
  IO.print outcome.output
  IO.eprint outcome.errors
  return outcome.exitCode.toUInt32
