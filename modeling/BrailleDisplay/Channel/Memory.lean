import BrailleDisplay.Channel.Transport

/-!
# A channel in memory

A scripted channel reads from a queue that its script fills, and a `Partner` answers its writes.
Reads never wait: an empty queue answers at once what a real channel answers when its time is up.

* `ScriptedChannel` — the queue, the log of writes, and the failures set up;
* `queue`, `limitReads`, `attach`, `setWritesFail`, `setReadsFail`, `forgetWrites` — what a script
  does;
* `write`, `read`, `close` — what a user does.  Use after closing fails first, then the failures set
  up; an operation that fails changes nothing.
-/

namespace BrailleDisplay

/-- A device model: from all writes it has seen, the latest first, the bytes it answers the latest
one with. -/
structure Partner where
  /-- The answer. -/
  answer : List (List UInt8) → List UInt8
  /-- The writes seen so far, the latest first. -/
  seen : List (List UInt8) := []

namespace Partner

/-- A device that repeats every write. -/
def echo : Partner where
  answer seen := seen.headD []

/-- A device with one answer to everything. -/
def constant (bytes : List UInt8) : Partner where
  answer _ := bytes

/-- Let the device see a write: its answer, and the device afterwards. -/
def see (p : Partner) (bytes : List UInt8) : List UInt8 × Partner :=
  let seen := bytes :: p.seen
  (p.answer seen, { p with seen })

end Partner

/-- A channel in memory. -/
structure ScriptedChannel where
  /-- The device it pretends to reach. -/
  info : DeviceInfo
  /-- Bytes waiting to be read. -/
  inbound : List UInt8 := []
  /-- The most bytes one read returns; unlimited when unset. -/
  chunkSize : Option Nat := none
  /-- What answers writes. -/
  partner : Option Partner := none
  /-- The accepted writes, the oldest first. -/
  written : List (List UInt8) := []
  /-- Whether writes fail. -/
  writesFail : Bool := false
  /-- Whether reads fail. -/
  readsFail : Bool := false
  /-- Whether the channel has been closed. -/
  closed : Bool := false
  /-- How often it has been closed. -/
  closeCount : Nat := 0

namespace ScriptedChannel

/-- The device pretended when none is given. -/
def defaultInfo : DeviceInfo where
  vendor := 0x04D8
  product := 0xEB69
  transport := .mock
  path := "mock"

/-! ### The script's side -/

/-- Queue bytes to be read. -/
def queue (c : ScriptedChannel) (bytes : List UInt8) : ScriptedChannel :=
  { c with inbound := c.inbound ++ bytes }

/-- Limit how many bytes one read returns, to one at least. -/
def limitReads (c : ScriptedChannel) (size : Nat) : ScriptedChannel :=
  { c with chunkSize := some (max size 1) }

/-- Install a device model. -/
def attach (c : ScriptedChannel) (partner : Partner) : ScriptedChannel :=
  { c with partner := some partner }

/-- Let writes fail, or no longer. -/
def setWritesFail (c : ScriptedChannel) (fail : Bool) : ScriptedChannel :=
  { c with writesFail := fail }

/-- Let reads fail, or no longer. -/
def setReadsFail (c : ScriptedChannel) (fail : Bool) : ScriptedChannel :=
  { c with readsFail := fail }

/-- Forget the accepted writes. -/
def forgetWrites (c : ScriptedChannel) : ScriptedChannel :=
  { c with written := [] }

/-- The same channel to a device with this name. -/
def named (c : ScriptedChannel) (name : String) : ScriptedChannel :=
  { c with info := { c.info with resourceName := some name } }

/-- The same channel, found under this profile's definition. -/
def hinted (c : ScriptedChannel) (hint : String) : ScriptedChannel :=
  { c with info := { c.info with profileHint := some hint } }

/-! ### The user's side -/

/-- Send bytes. -/
def write (c : ScriptedChannel) (bytes : List UInt8) :
    Except ChannelFault Unit × ScriptedChannel :=
  if c.closed then (.error .closed, c)
  else if c.writesFail then (.error (.io "mock write failure"), c)
  else
    let recorded := { c with written := c.written ++ [bytes] }
    match c.partner with
    | none => (.ok (), recorded)
    | some partner =>
      let (answer, partner) := partner.see bytes
      (.ok (), { recorded with inbound := c.inbound ++ answer, partner := some partner })

/-- Receive at most `limit` bytes. -/
def read (c : ScriptedChannel) (limit : Nat) :
    Except ChannelFault (List UInt8) × ScriptedChannel :=
  if c.closed then (.error .closed, c)
  else if c.readsFail then (.error (.io "mock read failure"), c)
  else
    let size := min limit (c.chunkSize.getD c.inbound.length)
    (.ok (c.inbound.take size), { c with inbound := c.inbound.drop size })

/-- Close the channel; every time counts. -/
def close (c : ScriptedChannel) : ScriptedChannel :=
  { c with closed := true, closeCount := c.closeCount + 1 }

/-- Scripted channels as a transport; they do not touch the plant. -/
def transport {σ : Type} : Transport ScriptedChannel σ where
  info := info
  write bytes c plant := { value := c.write bytes, plant }
  read limit _ c plant := { value := c.read limit, plant }
  close c plant := { value := (.ok (), c.close), plant }

end ScriptedChannel

end BrailleDisplay
