import BrailleDisplay.Frame.Link
import BrailleDisplay.Profile.Set

/-!
# Asking a device who it is

A device confirms an identity by repeating its short frame.  `probe` tries the candidates of a
profile in order and answers the first that is confirmed; a wildcard is accepted without asking.

* `awaitEcho` — after a probe, the first short frame decides, and it must be the probe itself; long
  frames meanwhile are ignored; every read waits at most `echoTimeout`;
* `confirms` — one probe and its echo;
* `probe` — a failure of the channel rejects the candidate being tested and no other.
-/

namespace BrailleDisplay

/-- How long each read waits for an echo, in microseconds. -/
def echoTimeout : Nat := 200000

namespace Link

variable {χ σ : Type}

/-- Wait for the short frame that decides about `expected`. -/
def awaitEcho (T : Transport χ σ) (fuel : Nat) (expected : ShortFrame) : Nat → Link χ → World σ →
    Bounded σ (Except ChannelFault Bool × Link χ × World σ)
  | 0, _, w => .cutShort w
  | more + 1, link, w => do
    let (outcome, link, w) ← link.nextFrame T fuel echoTimeout w
    match outcome with
    | .error e => .ended (.error e, link, w)
    | .ok none => .ended (.ok false, link, w)
    | .ok (some (.short echo)) => .ended (.ok (echo == expected), link, w)
    | .ok (some (.long frame)) =>
      let message := "ignoring frame while probing: " ++ (Frame.long frame).describe
      awaitEcho T fuel expected more link (w.log .debug message)

/-- Probe one identity: whether the device repeats it. -/
def confirms (T : Transport χ σ) (fuel : Nat) (candidate : Identity) (link : Link χ)
    (w : World σ) : Bounded σ (Except ChannelFault Bool × Link χ × World σ) :=
  let expected : ShortFrame := ⟨candidate.id1, candidate.id2⟩
  match link.write T expected.bytes w with
  | (.error e, link, w) => .ended (.error e, link, w)
  | (.ok (), link, w) => awaitEcho T fuel expected fuel link w

/-- The first candidate the device confirms, or the wildcard if it comes to that. -/
def probe (T : Transport χ σ) (fuel : Nat) : List Identity → Link χ → World σ →
    Bounded σ (Option Identity × Link χ × World σ)
  | [], link, w => .ended (none, link, w)
  | candidate :: rest, link, w =>
    let table := candidate.keyTable.name
    if candidate.isWildcard then
      .ended (some candidate, link, w.log .info ("assuming identity: " ++ table))
    else do
      let w := w.log .debug ("testing identity: " ++ table ++ " (" ++ candidate.code ++ ")")
      let (outcome, link, w) ← link.confirms T fuel candidate w
      match outcome with
      | .ok true => .ended (some candidate, link, w.log .info ("confirmed identity: " ++ table))
      | .ok false => probe T fuel rest link w
      | .error e =>
        let message := "identity probe for " ++ table ++ " failed: " ++ e.message
        probe T fuel rest link (w.log .warn message)

end Link

end BrailleDisplay
