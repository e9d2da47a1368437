import BrailleDisplay.Key.Table
import BrailleDisplay.Frame.Basic
import BrailleDisplay.Text.Json

/-!
# Key events

A verified frame may carry a key event: a long frame of type `cursor` reports one routing key, one
of type `keys` the set of navigation keys held (`KeyEvent.ofFrame?`).  No other frame is an event.
-/

namespace BrailleDisplay

/-- A key event a display reports. -/
inductive KeyEvent where
  /-- The routing key above the cell with this index was pressed. -/
  | routingKeyPress (index : UInt8)
  /-- These navigation keys are held now, one bit for each. -/
  | navigationKeySet (bits : UInt32)
  deriving DecidableEq, Repr

namespace KeyEvent

/-- The key event a frame carries, if it carries one. -/
def ofFrame? : Frame → Option KeyEvent
  | .short _ => none
  | .long f =>
    match f.reportType with
    | .cursor => some (routingKeyPress f.data)
    | .keys => some (navigationKeySet f.keySet)
    | .cells => none
    | .unknown => none

/-- The kind of key an event is about. -/
def kind : KeyEvent → KeyKind
  | routingKeyPress _ => .routing
  | navigationKeySet _ => .navigation

/-- The fields of an event's record. -/
def fields : KeyEvent → List (String × Text.Json)
  | routingKeyPress index => [("event", .text "routing_key_press"), ("index", .byte index)]
  | navigationKeySet bits => [("event", .text "navigation_key_set"), ("bits", .nat bits.toNat)]

/-- What the keys of an event are called under a key table; routing keys count from one. -/
def labels (table : KeyTable) : KeyEvent → List String
  | routingKeyPress index => [routingLabel ++ toString (index.toNat + 1)]
  | navigationKeySet bits => table.labels bits

end KeyEvent

end BrailleDisplay
