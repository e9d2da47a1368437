import BrailleDisplay.Channel.Device
import BrailleDisplay.World

/-!
# Operations of byte channels

A channel carries bytes to and from one device and knows nothing of frames.  Its own state has a
type `χ`; a `Transport χ σ` says how such channels work on devices whose state is `σ`:

* `write` — all the bytes, or an error;
* `read` — at most so many bytes as have arrived, waiting at most so long; no bytes at all means
  that none came in time;
* `close` — release the device;
* `info` — the device behind the channel.

Each operation gives back the channel, whatever came of it.  A `Source χ σ` opens fresh channels.
-/

namespace BrailleDisplay

/-- How channels with state `χ` work on devices with state `σ`. -/
structure Transport (χ σ : Type) where
  /-- The device behind a channel. -/
  info : χ → DeviceInfo
  /-- Send bytes. -/
  write : List UInt8 → χ → Plant σ → Reply σ (Except ChannelFault Unit × χ)
  /-- Receive at most `limit` bytes within `timeout` microseconds. -/
  read : (limit timeout : Nat) → χ → Plant σ → Reply σ (Except ChannelFault (List UInt8) × χ)
  /-- Release the device. -/
  close : χ → Plant σ → Reply σ (Except ChannelFault Unit × χ)

/-- Where fresh channels come from. -/
structure Source (χ σ : Type) where
  /-- How its channels work. -/
  transport : Transport χ σ
  /-- Open a channel. -/
  acquire : Plant σ → Reply σ (Except ChannelFault χ)

end BrailleDisplay
