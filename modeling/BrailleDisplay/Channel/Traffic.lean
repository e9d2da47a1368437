import BrailleDisplay.Channel.Transport
import BrailleDisplay.Text.Decimal
import BrailleDisplay.Text.Json
import BrailleDisplay.Text.Letter

/-!
# Printing the traffic of a channel

A printer stands between a channel and its user and prints what passes: a line `>>` for each write,
before it is tried, and a line `<<` for each read that brought bytes.  It changes nothing else.

* `TrafficFormat` — traffic as text or as JSON records;
* `TrafficLine`, `TrafficLine.render` — one line: when, which way, how many bytes and which;
* `Transport.printed` — a transport with a printer in front of it, and `Source.printed` likewise.

Times count from the moment the printer was put in front of the channel.
-/

namespace BrailleDisplay

/-! ### Formats -/

/-- How traffic is printed. -/
inductive TrafficFormat where
  | text
  | json
  deriving DecidableEq, Repr

namespace TrafficFormat

/-- A text that names no format. -/
structure Unknown where
  /-- The text as given. -/
  text : String
  deriving DecidableEq, Repr

/-- The sentence shown for a text that names no format. -/
def Unknown.message (unknown : Unknown) : String :=
  "Unknown output format: " ++ unknown.text

/-- The format a text names, in upper or lower case; no text at all names `text`. -/
def parse (text : String) : Except Unknown TrafficFormat :=
  if Text.spells text "text" ∨ text = "" then .ok .text
  else if Text.spells text "json" then .ok .json
  else .error ⟨text⟩

end TrafficFormat

/-- What a printer shows. -/
structure PrintOptions where
  /-- Bytes sent to the device. -/
  showWrites : Bool := true
  /-- Bytes received from it. -/
  showReads : Bool := true
  /-- How they are printed. -/
  format : TrafficFormat := .text
  deriving DecidableEq, Repr

namespace PrintOptions

/-- The same in another format. -/
def inFormat (config : PrintOptions) (format : TrafficFormat) : PrintOptions :=
  { config with format }

/-- The same for bytes sent only. -/
def hidingReads (config : PrintOptions) : PrintOptions :=
  { config with showReads := false }

end PrintOptions

/-! ### Lines -/

/-- Which way bytes went. -/
inductive Direction where
  | toDevice
  | fromDevice
  deriving DecidableEq, Repr

/-- The arrow of a direction. -/
def Direction.arrow : Direction → String
  | toDevice => ">>"
  | fromDevice => "<<"

/-- A duration in microseconds as a number of seconds, the whole seconds and the rest being rounded
apart. -/
def seconds (duration : Nat) : Float :=
  Float.ofNat (duration / 1000000) + Float.ofNat (duration % 1000000 * 1000) / 1000000000.0

/-- One line of printed traffic. -/
structure TrafficLine where
  /-- Microseconds since the printer was put in place. -/
  time : Nat
  /-- Which way the bytes went. -/
  direction : Direction
  /-- The bytes. -/
  bytes : List UInt8
  deriving DecidableEq, Repr

/-- A line in the given format. -/
def TrafficLine.render (format : TrafficFormat) (line : TrafficLine) : String :=
  let time := Text.Binary.ofFloat (seconds line.time)
  let size := line.bytes.length
  let dump := Text.hexDump line.bytes
  match format with
  | .text =>
    "[" ++ Text.padLeft 9 ' ' (time.fixed 3) ++ "] " ++ line.direction.arrow
      ++ " (" ++ Text.decimalWidth 3 size ++ ") " ++ dump
  | .json =>
    Text.Json.compact (.object
      [("t", .number time.plain), ("dir", .text line.direction.arrow), ("len", .nat size),
        ("hex", .text dump)])

/-! ### Printers -/

/-- A channel with a printer in front of it. -/
structure Printed (χ : Type) where
  /-- The channel itself. -/
  inner : χ
  /-- When the printer was put in place. -/
  start : Nat
  deriving DecidableEq, Repr

/-- Print what passes through a channel. -/
def Transport.printed {χ σ : Type} (T : Transport χ σ) (config : PrintOptions) :
    Transport (Printed χ) σ where
  info c := T.info c.inner
  write bytes c plant :=
    let reply := T.write bytes c.inner plant
    let line : TrafficLine := ⟨plant.now - c.start, .toDevice, bytes⟩
    { value := (reply.value.1, { c with inner := reply.value.2 })
      plant := reply.plant
      notes :=
        (if config.showWrites then [.printed (line.render config.format)] else []) ++ reply.notes }
  read limit timeout c plant :=
    let reply := T.read limit timeout c.inner plant
    let lines : List Note :=
      match reply.value.1 with
      | .ok (b :: rest) =>
        let line : TrafficLine := ⟨reply.plant.now - c.start, .fromDevice, b :: rest⟩
        if config.showReads then [.printed (line.render config.format)] else []
      | _ => []
    { value := (reply.value.1, { c with inner := reply.value.2 })
      plant := reply.plant
      notes := reply.notes ++ lines }
  close c plant :=
    let reply := T.close c.inner plant
    { value := (reply.value.1, { c with inner := reply.value.2 })
      plant := reply.plant
      notes := reply.notes }

/-- Print what passes through every channel a source opens. -/
def Source.printed {χ σ : Type} (S : Source χ σ) (config : PrintOptions) :
    Source (Printed χ) σ where
  transport := S.transport.printed config
  acquire plant :=
    let reply := S.acquire plant
    { value := reply.value.map fun c => ⟨c, reply.plant.now⟩
      plant := reply.plant
      notes := reply.notes }

/-- A printed channel stands for the one that was opened. -/
theorem Source.acquired_printed {χ σ : Type} {S : Source χ σ} {config : PrintOptions}
    {plant : Plant σ} {c : Printed χ}
    (found : ((S.printed config).acquire plant).value = .ok c) :
    (S.acquire plant).value = .ok c.inner := by
  simp only [Source.printed] at found
  cases answer : (S.acquire plant).value with
  | ok channel =>
    rw [answer] at found
    cases found
    rfl
  | error fault =>
    rw [answer] at found
    cases found

theorem Source.refused_printed {χ σ : Type} {S : Source χ σ} {config : PrintOptions}
    {plant : Plant σ} {fault : ChannelFault}
    (found : ((S.printed config).acquire plant).value = .error fault) :
    (S.acquire plant).value = .error fault := by
  simp only [Source.printed] at found
  cases answer : (S.acquire plant).value with
  | ok channel =>
    rw [answer] at found
    cases found
  | error fault' =>
    rw [answer] at found
    cases found
    rfl

end BrailleDisplay
