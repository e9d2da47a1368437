import BrailleDisplay.Frame.Host

/-!
# A simulated device

A simulated device answers writes as its script says, and its answers arrive when the script says.

* `Reaction`, `DeviceScript` — the script;
* `Device` — a device at work: the bytes under way, each with the time it arrives, and what has been
  written so far;
* `Device.write` — take a write, unless the script lets it fail, and queue the reaction to it;
* `Device.read` — the bytes that arrive in time, at most so many.

Bytes are read in the order in which they were queued; one that arrives late holds back those behind
it.  All times are in microseconds.
-/

namespace BrailleDisplay.Simulator

/-! ### Scripts -/

/-- What a device does about a write. -/
inductive Reaction where
  /-- These bytes arrive after a delay. -/
  | bytes (delay : Nat) (content : List UInt8)
  /-- The first four bytes of the write arrive at once. -/
  | echo
  deriving DecidableEq, Repr

/-- The delay of a reaction and the bytes it brings. -/
def Reaction.answer (written : List UInt8) : Reaction → Nat × List UInt8
  | bytes delay content => (delay, content)
  | echo => (0, written.take shortSize)

/-- Which attempts to write fail. -/
inductive WriteFailures where
  | all
  /-- Those with these numbers, from zero. -/
  | attempts (numbers : List Nat)
  deriving DecidableEq, Repr

/-- Whether an attempt fails. -/
def WriteFailures.includes (attempt : Nat) : WriteFailures → Bool
  | all => true
  | attempts numbers => numbers.contains attempt

/-- Bytes that come over and over while nothing else is there. -/
structure Stream where
  /-- How long they take to come. -/
  every : Nat
  /-- The bytes. -/
  bytes : List UInt8
  deriving DecidableEq, Repr

/-- What a device does. -/
structure DeviceScript where
  /-- Bytes under way from the beginning. -/
  greeting : Option Reaction := none
  /-- Reactions to the first writes, in order; those left out follow the other rules. -/
  reactions : List (Option Reaction) := []
  /-- Reactions to identity probes, by the two bytes probed for in hexadecimal. -/
  probeIf : List (String × Reaction) := []
  /-- The reaction to all other identity probes. -/
  probe : Option Reaction := none
  /-- The reaction to a cell count request. -/
  cells : Option Reaction := none
  /-- The reaction to a window of cells. -/
  shown : Option Reaction := none
  /-- The most bytes one read returns; unlimited when unset. -/
  chunk : Option Nat := none
  /-- The writes that fail. -/
  writeFailures : WriteFailures := .attempts []
  /-- The text of a failing write. -/
  writeError : String := "sim write failure"
  /-- Whether every read fails. -/
  readsFail : Bool := false
  /-- Whether a read fails when nothing is under way. -/
  diesWhenEmpty : Bool := false
  /-- The text of a failing read. -/
  readError : String := "sim read failure"
  /-- Whether closing fails. -/
  closeFails : Bool := false
  /-- What comes when nothing else is under way. -/
  stream : Option Stream := none
  /-- Attempts to write that claim another number of bytes sent. -/
  claims : List (Nat × Nat) := []
  deriving DecidableEq, Repr

/-- The reaction to a write that is chosen by its first bytes. -/
def DeviceScript.byContent (script : DeviceScript) : List UInt8 → Option Reaction
  | [] => none
  | lead :: rest =>
    if lead = Marker.shortLead then
      (script.probeIf.lookup (Text.hexRun (rest.take 2))).or script.probe
    else if lead = Request.cellCount then script.cells
    else if lead = Request.window then script.shown
    else none

/-- The reaction to an accepted write, `earlier` having been accepted before it. -/
def DeviceScript.reaction? (script : DeviceScript) (earlier : Nat) (written : List UInt8) :
    Option Reaction :=
  match script.reactions[earlier]? with
  | some (some reaction) => some reaction
  | _ => script.byContent written

/-! ### Devices at work -/

/-- A byte under way. -/
structure Arrival where
  /-- When it arrives. -/
  time : Nat
  /-- The byte. -/
  byte : UInt8
  deriving DecidableEq, Repr

/-- A device at work. -/
structure Device where
  /-- What it does. -/
  script : DeviceScript
  /-- The bytes under way, the first to be read first. -/
  queue : List Arrival := []
  /-- How many writes have been tried. -/
  attempts : Nat := 0
  /-- The writes that were accepted, the oldest first. -/
  written : Array (List UInt8) := #[]
  /-- How often it has been closed. -/
  closes : Nat := 0
  deriving Repr

namespace Device

/-- Send bytes under way that arrive after a delay. -/
def enqueue (d : Device) (now delay : Nat) (bytes : List UInt8) : Device :=
  { d with queue := d.queue ++ bytes.map fun byte => ⟨now + delay, byte⟩ }

/-- Let a device react to a write. -/
def react (d : Device) (now : Nat) (written : List UInt8) (reaction : Option Reaction) : Device :=
  match reaction with
  | none => d
  | some reaction =>
    let (delay, bytes) := reaction.answer written
    d.enqueue now delay bytes

/-- A device that has just been opened. -/
def opened (script : DeviceScript) (now : Nat) : Device :=
  react { script } now [] script.greeting

/-- Take a write: `report` is what travels, `content` what the rules of the script see of it.  The
answer is how many bytes were sent. -/
def write (d : Device) (report content : List UInt8) (now : Nat) : Except String Nat × Device :=
  let attempt := d.attempts
  let tried := { d with attempts := attempt + 1 }
  if d.script.writeFailures.includes attempt then (.error d.script.writeError, tried)
  else
    let reaction := d.script.reaction? d.written.size content
    let sent := (d.script.claims.lookup attempt).getD report.length
    (.ok sent, { tried with written := d.written.push report }.react now content reaction)

/-! ### Reading -/

/-- How a read ended. -/
structure ReadResult where
  /-- What was read, or why nothing could be. -/
  bytes : Except String (List UInt8)
  /-- The device afterwards. -/
  device : Device
  /-- The time afterwards. -/
  now : Nat
  /-- Whether nothing was left to happen. -/
  idle : Bool := false

/-- The bytes that have arrived by `now`, at most `limit`. -/
def collect (d : Device) (limit now : Nat) : ReadResult :=
  let most := min limit (d.script.chunk.getD limit)
  let ready := (d.queue.take most).takeWhile (·.time ≤ now)
  { bytes := .ok (ready.map Arrival.byte)
    device := { d with queue := d.queue.drop ready.length }
    now }

/-- Wait for the first byte under way, until `deadline` at the latest. -/
def await (d : Device) (limit now deadline : Nat) : ReadResult :=
  match d.queue with
  | first :: _ =>
    if deadline < first.time then { bytes := .ok [], device := d, now := deadline }
    else d.collect limit (max now first.time)
  | [] => { bytes := .ok [], device := d, now }

/-- Read at most `limit` bytes within `timeout`. -/
def read (d : Device) (limit timeout now : Nat) : ReadResult :=
  let failure : ReadResult := { bytes := .error d.script.readError, device := d, now }
  if d.script.readsFail then failure
  else if !d.queue.isEmpty then d.await limit now (now + timeout)
  else if d.script.diesWhenEmpty then failure
  else
    let nothing : ReadResult :=
      { bytes := .ok [], device := d, now := now + timeout, idle := timeout == 0 }
    match d.script.stream with
    | none => nothing
    | some stream =>
      if timeout < stream.every then nothing
      else
        let later := now + stream.every
        (d.enqueue later 0 stream.bytes).await limit later (now + timeout)

/-- Close the device; every time counts. -/
def close (d : Device) : Except String Unit × Device :=
  let closed := { d with closes := d.closes + 1 }
  (if d.script.closeFails then .error "sim close failure" else .ok (), closed)

/-! ### Changing the script -/

/-- Limit how many bytes one read returns. -/
def setChunk (d : Device) (size : Nat) : Device :=
  { d with script := { d.script with chunk := some size } }

/-- Let all writes fail, or none. -/
def setWritesFail (d : Device) (fail : Bool) : Device :=
  { d with script := { d.script with writeFailures := if fail then .all else .attempts [] } }

/-- Let all reads fail, or none. -/
def setReadsFail (d : Device) (fail : Bool) : Device :=
  { d with script := { d.script with readsFail := fail } }

end Device

end BrailleDisplay.Simulator
