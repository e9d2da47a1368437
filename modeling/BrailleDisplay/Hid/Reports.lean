import BrailleDisplay.Channel.Transport
import BrailleDisplay.Hid.Bus
import BrailleDisplay.Text.Hex

/-!
# Byte channels over HID reports

Bytes travel to a HID device in output reports of a fixed size: the report number, then 64 bytes,
filled up with zeros.  Bytes from the device are handed on as they come, padding included.

* `reportChunks` — a buffer cut into pieces of at most 64 bytes;
* `ReportChannel.write` — one report for each piece, in order; the first report that fails, or that
  is acknowledged short of its piece, is the last;
* `ReportChannel.read` — one read, its time limit in whole milliseconds;
* `ReportChannel.close` — letting go of the handle; every use after that fails.
-/

namespace BrailleDisplay

/-- Bytes of a report behind its number. -/
def reportPayload : Nat := 64

/-- The number of every report. -/
def reportNumber : UInt8 := 0x00

/-- A buffer cut into pieces of `reportPayload` bytes, the last one shorter if need be. -/
def reportChunks (bytes : List UInt8) : List (List UInt8) :=
  (List.range ((bytes.length + reportPayload - 1) / reportPayload)).map fun i =>
    (bytes.drop (reportPayload * i)).take reportPayload

/-- The report that carries a piece. -/
def reportOf (chunk : List UInt8) : List UInt8 :=
  reportNumber :: chunk ++ List.replicate (reportPayload - chunk.length) 0

/-- A time limit as the HID system takes it: whole milliseconds that fit 31 bits. -/
def reportTimeout (timeout : Nat) : Nat :=
  min (timeout / 1000) (Nat.pow 2 31 - 1)

/-- A channel over a HID handle, which is gone once the channel is closed. -/
structure ReportChannel (η : Type) where
  /-- The handle, until the channel is closed. -/
  handle : Option η
  /-- The device. -/
  info : DeviceInfo
  deriving DecidableEq, Repr

namespace ReportChannel

variable {η σ : Type}

/-- Write a report for each piece until one fails. -/
def writeChunks (B : HidBus η σ) (handle : η) :
    List (List UInt8) → Plant σ → Except ChannelFault Unit × Plant σ
  | [], plant => (.ok (), plant)
  | chunk :: rest, plant =>
    let (sent, plant) := B.writeReport (reportOf chunk) handle plant
    match sent with
    | .error text => (.error (.ofHid text), plant)
    | .ok count =>
      if count < chunk.length + 1 then (.error (.shortWrite (count - 1) chunk.length), plant)
      else writeChunks B handle rest plant

/-- Send bytes. -/
def write (B : HidBus η σ) (bytes : List UInt8) (c : ReportChannel η) (plant : Plant σ) :
    Reply σ (Except ChannelFault Unit × ReportChannel η) :=
  match c.handle with
  | none => { value := (.error .closed, c), plant }
  | some handle =>
    let (outcome, plant) := writeChunks B handle (reportChunks bytes) plant
    match outcome with
    | .error e => { value := (.error e, c), plant }
    | .ok () =>
      let message := s!"HID wrote {bytes.length} bytes: " ++ Text.hexList bytes
      { value := (.ok (), c), plant, notes := [.log .debug message] }

/-- Receive bytes. -/
def read (B : HidBus η σ) (limit timeout : Nat) (c : ReportChannel η) (plant : Plant σ) :
    Reply σ (Except ChannelFault (List UInt8) × ReportChannel η) :=
  match c.handle with
  | none => { value := (.error .closed, c), plant }
  | some handle =>
    let (outcome, plant) := B.readReport limit (reportTimeout timeout) handle plant
    match outcome with
    | .error text => { value := (.error (.ofHid text), c), plant }
    | .ok [] => { value := (.ok [], c), plant }
    | .ok bytes =>
      let message := s!"HID read {bytes.length} bytes: " ++ Text.hexList bytes
      { value := (.ok bytes, c), plant, notes := [.log .debug message] }

/-- Let go of the handle. -/
def close (c : ReportChannel η) (plant : Plant σ) :
    Reply σ (Except ChannelFault Unit × ReportChannel η) :=
  match c.handle with
  | none => { value := (.ok (), c), plant }
  | some _ =>
    { value := (.ok (), { c with handle := none })
      plant
      notes := [.log .debug ("Closed HID channel " ++ c.info.path)] }

/-- HID channels as a transport. -/
def transport (B : HidBus η σ) : Transport (ReportChannel η) σ where
  info := info
  write := write B
  read := read B
  close := close

end ReportChannel

end BrailleDisplay
