import BrailleDisplay.Channel.Device
import BrailleDisplay.World
import BrailleDisplay.Text.Letter
import BrailleDisplay.Text.Utf8

/-!
# The HID bus

Displays are reached as human-interface devices.  `HidBus η σ` is what the system offers for them:
the entries of the bus, and handles of type `η` on opened devices.  All of its failures are texts;
`ChannelFault.ofHid` sorts them.
-/

namespace BrailleDisplay

/-- Which bus a HID device is on. -/
inductive HidBusKind where
  | usb
  | bluetooth
  | i2c
  | spi
  | unknown
  deriving DecidableEq, Repr

/-- An entry of the HID bus: one interface of one device. -/
structure HidEntry where
  /-- Vendor number. -/
  vendor : UInt16 := 0x04D8
  /-- Product number. -/
  product : UInt16 := 0xEB69
  /-- Where the system has it, as bytes of no certain encoding. -/
  path : List UInt8
  /-- Serial number. -/
  serial : Option String := none
  /-- The name the device gives itself. -/
  productName : Option String := none
  /-- Interface number, -1 when there is none. -/
  interfaceNumber : Int := 0
  /-- The bus. -/
  bus : HidBusKind := .usb
  deriving DecidableEq, Repr

namespace HidEntry

/-- The path as text. -/
def pathText (e : HidEntry) : String :=
  Text.decodeLossy e.path

/-- Whether the device is wireless. -/
def isBluetooth (e : HidEntry) : Bool :=
  e.bus == .bluetooth

end HidEntry

/-- What the system offers for HID devices, with handles `η` on devices whose state is `σ`. -/
structure HidBus (η σ : Type) where
  /-- All entries, in the bus's order. -/
  enumerate : Plant σ → Except String (List HidEntry) × Plant σ
  /-- Open the device of an entry. -/
  openEntry : HidEntry → Plant σ → Except String η × Plant σ
  /-- Write one report, its number first; the answer is how many bytes were sent. -/
  writeReport : List UInt8 → η → Plant σ → Except String Nat × Plant σ
  /-- Read at most `limit` bytes within `timeout` milliseconds. -/
  readReport : (limit timeout : Nat) → η → Plant σ → Except String (List UInt8) × Plant σ

/-- The failure a text of the HID system tells: one about permissions is of its own kind. -/
def ChannelFault.ofHid (text : String) : ChannelFault :=
  if Text.occursIn "Permission denied".toList text.toList
      || Text.occursIn "EPERM".toList text.toList then
    .hidPermissionDenied text
  else
    .hid text

end BrailleDisplay
