import BrailleDisplay.Hid.Catalog
import BrailleDisplay.Channel.Locator
import BrailleDisplay.Hid.Reports

/-!
# Finding displays on the HID bus

* `Catalog.admits` — whether an entry of the bus is a braille channel: the first definition for its
  vendor and product decides, by interface number, which wireless devices do not report;
* `Catalog.describe` — what is known of an entry;
* `listDisplays` — the displays on the bus, in its order;
* `openDisplay` — a channel to the first display that a locator accepts.
-/

namespace BrailleDisplay

namespace Catalog

/-- Whether an entry of the bus is a braille channel. -/
def admits (d : Catalog) (e : HidEntry) : Bool :=
  match d.find? e.vendor e.product with
  | none => false
  | some definition =>
    e.isBluetooth || e.interfaceNumber == (definition.interfaceNumber.toNat : Int)

/-- What is known of an entry. -/
def describe (d : Catalog) (e : HidEntry) : FoundDevice where
  info :=
    { vendor := e.vendor
      product := e.product
      transport := if e.isBluetooth then .bluetooth else .usb
      path := e.pathText
      serial := e.serial
      resourceName := e.productName
      profileHint := (d.find? e.vendor e.product).bind UsbDefinition.profileHint }
  interfaceNumber := e.interfaceNumber

/-- The displays among the entries of the bus. -/
def listed (d : Catalog) (entries : List HidEntry) : List FoundDevice :=
  (entries.filter d.admits).map d.describe

end Catalog

/-- A device's numbers, as in `04D8:EB69`. -/
def DeviceInfo.ids (info : DeviceInfo) : String :=
  Text.hexWidth 4 info.vendor.toNat ++ ":" ++ Text.hexWidth 4 info.product.toNat

/-- The log entry for a display found. -/
def foundNote (device : FoundDevice) : Note :=
  let info := device.info
  .log .debug
    ("Found device: VID=" ++ Text.hexWidth 4 info.vendor.toNat ++ " PID="
      ++ Text.hexWidth 4 info.product.toNat ++ " type=" ++ info.transport.title
      ++ " path=" ++ info.path)

/-- The log entries for a list of displays. -/
def listNotes (devices : List FoundDevice) : List Note :=
  devices.map foundNote ++ [.log .info s!"Found {devices.length} devices"]

variable {η σ : Type}

/-- The displays attached now. -/
def listDisplays (B : HidBus η σ) (d : Catalog) (plant : Plant σ) :
    Reply σ (Except ChannelFault (List FoundDevice)) :=
  match B.enumerate plant with
  | (.error text, plant) => { value := .error (.ofHid text), plant }
  | (.ok entries, plant) =>
    let devices := d.listed entries
    { value := .ok devices, plant, notes := listNotes devices }

/-- A channel to `device`, through the first entry of the bus that has its path. -/
def openListed (B : HidBus η σ) (entries : List HidEntry) (device : FoundDevice)
    (plant : Plant σ) : Reply σ (Except ChannelFault (ReportChannel η)) :=
  let info := device.info
  match entries.find? (·.pathText == info.path) with
  | none => { value := .error (.deviceNotFound info.path), plant }
  | some entry =>
    match B.openEntry entry plant with
    | (.error text, plant) => { value := .error (.ofHid text), plant }
    | (.ok handle, plant) =>
      let message := "Opened " ++ info.transport.title ++ " channel for " ++ info.ids
      { value := .ok ⟨some handle, info⟩, plant, notes := [.log .info message] }

/-- A channel to the first display that a locator accepts. -/
def openDisplay (B : HidBus η σ) (d : Catalog) (locator : Locator) (plant : Plant σ) :
    Reply σ (Except ChannelFault (ReportChannel η)) :=
  match locator with
  | .serial path =>
    { value := .error
        (.unsupported ("serial line " ++ path ++ ": only HID connections are supported"))
      plant }
  | locator =>
    match B.enumerate plant with
    | (.error text, plant) => { value := .error (.ofHid text), plant }
    | (.ok entries, plant) =>
      let devices := d.listed entries
      match devices.find? locator.accepts with
      | none =>
        { value := .error (.deviceNotFound ("no display for " ++ locator.text))
          plant
          notes := listNotes devices }
      | some device =>
        let opened := openListed B entries device plant
        { opened with notes := listNotes devices ++ opened.notes }

/-- The displays a locator names, as a source of channels. -/
def displaySource (B : HidBus η σ) (d : Catalog) (locator : Locator) :
    Source (ReportChannel η) σ where
  transport := ReportChannel.transport B
  acquire := openDisplay B d locator

end BrailleDisplay
