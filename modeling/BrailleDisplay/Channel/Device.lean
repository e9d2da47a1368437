import BrailleDisplay.Text.Json

/-!
# Byte channels: what they are to and how they fail

* `Attachment`, `DeviceInfo` — the device behind a channel;
* `FoundDevice` — a device that can be opened;
* `ChannelFault` — why an operation on a channel failed.
-/

namespace BrailleDisplay

/-- How a device is attached. -/
inductive Attachment where
  | usb
  | bluetooth
  /-- A channel in memory. -/
  | mock
  deriving DecidableEq, Repr

namespace Attachment

/-- The name in records. -/
def name : Attachment → String
  | usb => "usb"
  | bluetooth => "bluetooth"
  | mock => "mock"

/-- The name in reports and in the log. -/
def title : Attachment → String
  | usb => "Usb"
  | bluetooth => "Bluetooth"
  | mock => "Mock"

end Attachment

/-- The device behind a channel. -/
structure DeviceInfo where
  /-- Vendor number. -/
  vendor : UInt16
  /-- Product number. -/
  product : UInt16
  /-- How the device is attached. -/
  transport : Attachment
  /-- Where the system has the device. -/
  path : String
  /-- Serial number; for wireless devices, their address. -/
  serial : Option String := none
  /-- The name the device gives itself. -/
  resourceName : Option String := none
  /-- The name of a profile, if how the device was found already tells it. -/
  profileHint : Option String := none
  deriving DecidableEq, Repr

/-- The device as a record. -/
def DeviceInfo.json (info : DeviceInfo) : Text.Json :=
  .object
    [("vid", .nat info.vendor.toNat), ("pid", .nat info.product.toNat),
      ("transport_type", .text info.transport.name), ("device_path", .text info.path),
      ("serial", .optional info.serial), ("resource_name", .optional info.resourceName),
      ("profile_hint", .optional info.profileHint)]

/-- A device that can be opened. -/
structure FoundDevice where
  /-- What is known of it. -/
  info : DeviceInfo
  /-- Its interface number; -1 where the bus reports none. -/
  interfaceNumber : Int
  deriving DecidableEq, Repr

/-- Why an operation on a channel failed. -/
inductive ChannelFault where
  | deviceNotFound (what : String)
  /-- The channel has been closed. -/
  | closed
  /-- The device took only some of the bytes. -/
  | shortWrite (sent expected : Nat)
  | invalidLocator (reason : String)
  | unsupported (what : String)
  | hid (text : String)
  | hidPermissionDenied (text : String)
  | io (text : String)
  deriving DecidableEq, Repr

/-- The sentence shown for a failure. -/
def ChannelFault.message : ChannelFault → String
  | deviceNotFound what => "Device not found: " ++ what
  | closed => "Channel already closed"
  | shortWrite sent expected => s!"Short write: sent {sent} of {expected} bytes"
  | invalidLocator reason => "Invalid device locator: " ++ reason
  | unsupported what => "Unsupported transport: " ++ what
  | hid text => "HID error: " ++ text
  | hidPermissionDenied text => "HID permission denied: " ++ text
  | io text => "I/O error: " ++ text

end BrailleDisplay
