/-!
# Which devices are braille displays

* `UsbDefinition` — the vendor, product and interface of a braille channel on the USB;
* `Catalog` — all definitions to look for, the first match counting, and how a Bluetooth display is
  reached.

The configuration, the alternate setting and the Bluetooth channel describe the device as its
firmware expects to be opened; they are on record only, since the HID bus selects them itself.
-/

namespace BrailleDisplay

/-- A braille channel on the USB. -/
structure UsbDefinition where
  /-- Vendor number. -/
  vendor : UInt16 := 0x04D8
  /-- Product number; all models share it. -/
  product : UInt16 := 0xEB69
  /-- Configuration number. -/
  configuration : UInt8 := 1
  /-- The interface that carries the braille channel. -/
  interfaceNumber : UInt8 := 0
  /-- Alternate setting of that interface. -/
  alternative : UInt8 := 0
  /-- Whether opening must leave the endpoints alone. -/
  disableEndpointReset : Bool := true
  /-- The profile a match selects, if the match alone tells the model. -/
  profileHint : Option String := none
  deriving DecidableEq, Repr

/-- Whether a vendor and a product belong to a definition. -/
def UsbDefinition.matchesIds (d : UsbDefinition) (vendor product : UInt16) : Bool :=
  d.vendor == vendor && d.product == product

/-- How a Bluetooth display is reached. -/
structure BluetoothAccess where
  /-- RFCOMM channel number. -/
  channelNumber : UInt8 := 4
  /-- Whether to ask the device for the channel instead. -/
  discoverChannel : Bool := true
  deriving DecidableEq, Repr

/-- Everything that is looked for on the bus. -/
structure Catalog where
  /-- USB definitions, in order of preference. -/
  usb : List UsbDefinition := [{}]
  /-- Bluetooth parameters. -/
  bluetooth : BluetoothAccess := {}
  deriving DecidableEq, Repr

/-- The first definition for a vendor and a product. -/
def Catalog.find? (d : Catalog) (vendor product : UInt16) : Option UsbDefinition :=
  d.usb.find? (·.matchesIds vendor product)

end BrailleDisplay
