import BrailleDisplay.Hid.Bus
import BrailleDisplay.Simulator.Device

/-!
# A simulated HID system

* `HidSlot` — an entry of the bus, and the lives of its device: each opening gets the next;
* `HidSystem` — all slots and the devices opened so far;
* `HidSystem.bus` — the system as a bus.  A report travels whole, while the script of a device sees
  it without its number.

Where `interruptible` is set, an interrupt comes when nothing is left to happen: a device that has
nothing left to say is read without waiting, or one that has no lives left is opened.
-/

namespace BrailleDisplay.Simulator

/-- An entry of the bus. -/
structure HidSlot where
  /-- What the bus tells of it. -/
  entry : HidEntry
  /-- Why it cannot be opened, if so. -/
  openError : Option String := none
  /-- What its device does at each opening; a plain device forever when unset. -/
  lives : Option (List DeviceScript) := none

/-- A simulated HID system. -/
structure HidSystem where
  /-- The entries of the bus. -/
  slots : List HidSlot := []
  /-- Why nothing can be enumerated, if so. -/
  initError : Option String := none
  /-- Whether an interrupt comes when nothing is left to happen. -/
  interruptible : Bool := false
  /-- The devices opened so far, the oldest first. -/
  devices : Array Device := #[]

/-- The system as an interrupt leaves it, if one comes. -/
def interrupted (plant : Plant HidSystem) : Plant HidSystem :=
  { plant with running := plant.running && !plant.state.interruptible }

namespace HidSystem

/-- The slots after an opening of the first one for an entry, and what came of it: the script of the
device, or a text unless no life is left. -/
def takeLife (entry : HidEntry) : List HidSlot → Except (Option String) DeviceScript × List HidSlot
  | [] => (.error (some "No such file or directory"), [])
  | slot :: rest =>
    if slot.entry = entry then
      match slot.openError, slot.lives with
      | some text, _ => (.error (some text), slot :: rest)
      | none, none => (.ok {}, slot :: rest)
      | none, some [] => (.error none, slot :: rest)
      | none, some (life :: lives) => (.ok life, { slot with lives := some lives } :: rest)
    else
      let (outcome, rest) := takeLife entry rest
      (outcome, slot :: rest)

/-- All entries of the bus. -/
def enumerate (plant : Plant HidSystem) : Except String (List HidEntry) × Plant HidSystem :=
  match plant.state.initError with
  | some text => (.error text, plant)
  | none => (.ok (plant.state.slots.map HidSlot.entry), plant)

/-- Open the device of an entry. -/
def openEntry (entry : HidEntry) (plant : Plant HidSystem) : Except String Nat × Plant HidSystem :=
  let (outcome, slots) := takeLife entry plant.state.slots
  match outcome with
  | .error (some text) => (.error text, plant)
  | .error none => (.error "device is gone", interrupted plant)
  | .ok script =>
    let devices := plant.state.devices.push (.opened script plant.now)
    (.ok plant.state.devices.size, { plant with state := { plant.state with slots, devices } })

/-- The system with an opened device changed. -/
def withDevice (s : HidSystem) (place : Nat) (d : Device) : HidSystem :=
  { s with devices := s.devices.modify place fun _ => d }

/-- Write a report to a device. -/
def writeReport (report : List UInt8) (place : Nat) (plant : Plant HidSystem) :
    Except String Nat × Plant HidSystem :=
  match plant.state.devices[place]? with
  | none => (.error "No such device", plant)
  | some d =>
    let (outcome, d) := d.write report report.tail plant.now
    (outcome, { plant with state := plant.state.withDevice place d })

/-- Read from a device. -/
def readReport (limit timeout place : Nat) (plant : Plant HidSystem) :
    Except String (List UInt8) × Plant HidSystem :=
  match plant.state.devices[place]? with
  | none => (.error "No such device", plant)
  | some d =>
    let result := d.read limit (1000 * timeout) plant.now
    let after : Plant HidSystem :=
      { plant with now := result.now, state := plant.state.withDevice place result.device }
    (result.bytes, if result.idle then interrupted after else after)

/-- The system as a bus; a handle is the place of a device among those opened. -/
def bus : HidBus Nat HidSystem where
  enumerate := enumerate
  openEntry := openEntry
  writeReport := writeReport
  readReport := readReport

end HidSystem

end BrailleDisplay.Simulator
