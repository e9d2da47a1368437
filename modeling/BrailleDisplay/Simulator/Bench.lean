import BrailleDisplay.Channel.Transport
import BrailleDisplay.Simulator.Device

/-!
# A bench of simulated devices

On a bench, devices are connected one after the other, each over a channel of its own.

* `Bench` — the devices opened so far, and what is still to be opened;
* `Bench.transport` — the channels; the failures of a device are failures of its channel;
* `Bench.source` — the next device, or the next refusal; when nothing is left, an interrupt comes,
  as it does when a device that has nothing left to say is read without waiting.
-/

namespace BrailleDisplay.Simulator

/-- What the next attempt to open a device meets. -/
inductive Supply where
  /-- A device. -/
  | device (info : DeviceInfo) (script : DeviceScript)
  /-- A refusal by the HID system. -/
  | refusal (text : String)

/-- A bench. -/
structure Bench where
  /-- The devices opened so far, the oldest first. -/
  devices : Array Device := #[]
  /-- What is still to be opened. -/
  supply : List Supply := []

/-- A channel to a device on the bench. -/
structure BenchChannel where
  /-- The device's place among those opened. -/
  place : Nat
  /-- What is known of it. -/
  info : DeviceInfo
  deriving DecidableEq, Repr

namespace Bench

/-- What is known of a simulated device unless its script says otherwise. -/
def defaultInfo : DeviceInfo where
  vendor := 0x04D8
  product := 0xEB69
  transport := .mock
  path := "sim"

/-- The bench with a device changed. -/
def modify (b : Bench) (place : Nat) (change : Device → Device) : Bench :=
  { b with devices := b.devices.modify place change }

/-- The bench with the device opened last changed. -/
def modifyLast (b : Bench) (change : Device → Device) : Bench :=
  b.modify (b.devices.size - 1) change

/-- Connect a device: the channel to it. -/
def connect (b : Bench) (info : DeviceInfo) (script : DeviceScript) (now : Nat) :
    BenchChannel × Bench :=
  (⟨b.devices.size, info⟩, { b with devices := b.devices.push (.opened script now) })

/-- Work on the device of a channel and on the clock. -/
def onDevice {α : Type} (c : BenchChannel) (plant : Plant Bench)
    (work : Device → α × Device) : Except ChannelFault α × Plant Bench :=
  match plant.state.devices[c.place]? with
  | none => (.error .closed, plant)
  | some d =>
    let (answer, d) := work d
    (.ok answer, { plant with state := plant.state.modify c.place fun _ => d })

/-- Send bytes to a device. -/
def write (bytes : List UInt8) (c : BenchChannel) (plant : Plant Bench) :
    Reply Bench (Except ChannelFault Unit × BenchChannel) :=
  let (outcome, plant) := onDevice c plant fun d => d.write bytes bytes plant.now
  let result := outcome.bind fun sent => (sent.map fun _ => ()).mapError .io
  { value := (result, c), plant }

/-- Receive bytes from a device. -/
def read (limit timeout : Nat) (c : BenchChannel) (plant : Plant Bench) :
    Reply Bench (Except ChannelFault (List UInt8) × BenchChannel) :=
  match plant.state.devices[c.place]? with
  | none => { value := (.error .closed, c), plant }
  | some d =>
    let result := d.read limit timeout plant.now
    { value := (result.bytes.mapError .io, c)
      plant :=
        { now := result.now
          running := plant.running && !result.idle
          state := plant.state.modify c.place fun _ => result.device } }

/-- Release a device. -/
def close (c : BenchChannel) (plant : Plant Bench) :
    Reply Bench (Except ChannelFault Unit × BenchChannel) :=
  let (outcome, plant) := onDevice c plant Device.close
  { value := (outcome.bind fun closed => closed.mapError .io, c), plant }

/-- The channels of the bench. -/
def transport : Transport BenchChannel Bench where
  info := BenchChannel.info
  write := write
  read := read
  close := close

/-- Open what comes next. -/
def acquire (plant : Plant Bench) : Reply Bench (Except ChannelFault BenchChannel) :=
  match plant.state.supply with
  | [] =>
    { value := .error (.deviceNotFound "no more displays")
      plant := { plant with running := false } }
  | .refusal text :: supply =>
    { value := .error (.hid text), plant := { plant with state := { plant.state with supply } } }
  | .device info script :: supply =>
    let (channel, bench) := { plant.state with supply }.connect info script plant.now
    { value := .ok channel, plant := { plant with state := bench } }

/-- The bench as a source of channels. -/
def source : Source BenchChannel Bench where
  transport := transport
  acquire := acquire

end Bench

end BrailleDisplay.Simulator
