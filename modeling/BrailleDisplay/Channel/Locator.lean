import BrailleDisplay.Channel.Device
import BrailleDisplay.Text.Letter

/-!
# Naming a device

A locator says which device to open, as a qualifier and an operand set apart by a colon:
`usb:SERIAL`, `bluetooth:ADDRESS` (or `bt:`), `serial:PATH`; `auto` or nothing means any device.

* `Locator.parse` — blanks around the text and the case of the qualifier do not matter, and
  the operand is kept as it is, colons and all;
* `Locator.text` — the text of a locator, which parses back to it;
* `Locator.accepts` — whether a device answers the description.
-/

namespace BrailleDisplay

/-- Which device to open. -/
inductive Locator where
  /-- The first one there is. -/
  | any
  /-- One on USB, with this serial number if one is given. -/
  | usb (serial : Option String)
  /-- The Bluetooth device with this address. -/
  | bluetooth (address : String)
  /-- The device on this serial line. -/
  | serial (path : String)
  deriving DecidableEq, Repr

namespace Locator

/-- The text before the first colon and the text after it. -/
def splitColon? : List Char → Option (List Char × List Char)
  | [] => none
  | c :: rest =>
    if c = ':' then some ([], rest)
    else (splitColon? rest).map fun (before, after) => (c :: before, after)

/-- The locator a qualifier, in lower case, makes with an operand. -/
def ofParts (qualifier operand : String) : Except ChannelFault Locator :=
  if qualifier = "usb" then
    .ok (.usb (if operand = "" then none else some operand))
  else if qualifier = "bluetooth" ∨ qualifier = "bt" then
    if operand = "" then .error (.invalidLocator "bluetooth locator needs an address")
    else .ok (.bluetooth operand)
  else if qualifier = "serial" then
    if operand = "" then .error (.invalidLocator "serial locator needs a device path")
    else .ok (.serial operand)
  else
    .error (.invalidLocator
      ("unknown qualifier \"" ++ qualifier ++ "\". Use usb:, bluetooth: or serial:"))

/-- Read a locator. -/
def parse (text : String) : Except ChannelFault Locator :=
  let trimmed := Text.trim text
  if trimmed = "" ∨ Text.sameIgnoringCase trimmed "auto" then .ok .any
  else
    match splitColon? trimmed.toList with
    | none => .error (.invalidLocator ("missing qualifier: \"" ++ trimmed ++ "\""))
    | some (qualifier, operand) =>
      ofParts (Text.asciiLower (String.ofList qualifier)) (String.ofList operand)

/-- The text of a locator. -/
def text : Locator → String
  | any => "auto"
  | usb none => "usb:"
  | usb (some number) => "usb:" ++ number
  | bluetooth address => "bluetooth:" ++ address
  | serial path => "serial:" ++ path

/-- Whether a device answers the description; a serial line is never found among them. -/
def accepts (locator : Locator) (device : FoundDevice) : Bool :=
  match locator with
  | any => true
  | usb none => device.info.transport == .usb
  | usb (some number) => device.info.transport == .usb && device.info.serial == some number
  | bluetooth address =>
    device.info.transport == .bluetooth
      && device.info.serial.any (Text.sameIgnoringCase · address)
  | serial _ => false

end Locator

end BrailleDisplay
