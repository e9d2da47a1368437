import BrailleDisplay.Profile.Set
import BrailleDisplay.Frame.Basic

/-!
# Why a display operation failed
-/

namespace BrailleDisplay

/-- Why an operation on a display failed. -/
inductive DisplayFault where
  /-- The channel failed. -/
  | transport (cause : ChannelFault)
  /-- The profiles cannot be used. -/
  | invalidConfig (fault : ProfileFault)
  /-- The window is not as wide as the display. -/
  | cellCountMismatch (expected got : Nat)
  /-- A text is no cell. -/
  | invalidCell (cause : CellFault)
  /-- A frame could not be built. -/
  | frame (cause : FrameFault)
  deriving DecidableEq, Repr

namespace DisplayFault

/-- The sentence shown for a failure. -/
def message : DisplayFault → String
  | transport cause => "Transport error: " ++ cause.message
  | invalidConfig fault => "Invalid configuration: " ++ fault.message
  | cellCountMismatch expected got =>
    s!"Cell count mismatch: display has {expected} cells, got {got}"
  | invalidCell cause => "Invalid cell: " ++ cause.message
  | frame cause => "Frame error: " ++ cause.message

/-- The sentences of what lies behind a failure, the nearest cause first. -/
def causes : DisplayFault → List String
  | transport cause => [cause.message]
  | frame cause => [cause.message]
  | _ => []

end DisplayFault

end BrailleDisplay
