import BrailleDisplay.Channel.Memory
import BrailleDisplay.Proofs.Channel.Journal

/-!
# The books of a channel in memory

A channel in memory is worked from two sides: its script fills the queue and sets up failures, its
user writes, reads and closes.  What the channel holds at any moment follows from what was done to it
and what came of that.

* `Cue`, `Call`, `Event` — what a script does, what either side does, and what came of it;
* `received`, `supplied`, `recorded` — the bytes that reads brought, the bytes that were to be read,
  and the writes on record, all told from the events alone;
* `write_eq`, `read_eq` — a use of the channel is refused and changes nothing, or goes through;
* `Step`, `answer_step` — what one call does to a channel;
* `Ran`, `carryOut_ran` — and what any number of calls do;
* `carryOut_keepsBooks` — what a fresh channel holds after any calls, and how it answers the next.
-/

namespace BrailleDisplay.ScriptedChannel

/-! ## Events -/

/-- What a script does to its channel. -/
inductive Cue where
  | queue (bytes : List UInt8)
  | limitReads (size : Nat)
  | attach (partner : Partner)
  | setWritesFail (fail : Bool)
  | setReadsFail (fail : Bool)
  | forgetWrites

/-- What may be done to a channel. -/
inductive Call where
  | cue (cue : Cue)
  | write (bytes : List UInt8)
  | read (limit : Nat)
  | close

/-- What was done to a channel, and what came of it. -/
inductive Event where
  | cued (cue : Cue)
  | wrote (bytes : List UInt8) (result : Except ChannelFault Unit)
  | read (limit : Nat) (result : Except ChannelFault (List UInt8))
  | closed

/-- Follow a cue. -/
def Cue.apply : Cue → ScriptedChannel → ScriptedChannel
  | queue bytes, c => c.queue bytes
  | limitReads size, c => c.limitReads size
  | attach partner, c => c.attach partner
  | setWritesFail fail, c => c.setWritesFail fail
  | setReadsFail fail, c => c.setReadsFail fail
  | forgetWrites, c => c.forgetWrites

/-- One call. -/
def answer : Call → ScriptedChannel → Event × ScriptedChannel
  | .cue cue, c => (.cued cue, cue.apply c)
  | .write bytes, c =>
    let (result, c) := c.write bytes
    (.wrote bytes result, c)
  | .read limit, c =>
    let (result, c) := c.read limit
    (.read limit result, c)
  | .close, c => (.closed, c.close)

/-- One call after the other. -/
def carryOut : List Call → ScriptedChannel → List Event × ScriptedChannel
  | [], c => ([], c)
  | call :: rest, c =>
    let (event, c) := answer call c
    let (events, c) := carryOut rest c
    (event :: events, c)

namespace Event

/-- The call that led to an event. -/
def call : Event → Call
  | cued cue => .cue cue
  | wrote bytes _ => .write bytes
  | read limit _ => .read limit
  | closed => .close

/-- The bytes a read brought. -/
@[simp]
def received : Event → List UInt8
  | read _ result => readBytes result
  | _ => []

/-- The bytes that are to be read from now on: those queued, and what answers an accepted write. -/
@[simp]
def supplied (partner : Option Partner) : Event → List UInt8
  | cued (.queue bytes) => bytes
  | wrote bytes (.ok ()) => (partner.map fun p => (p.see bytes).1).getD []
  | _ => []

/-- What answers writes from now on.  It sees the accepted writes, and no others. -/
@[simp]
def partnerAfter (partner : Option Partner) : Event → Option Partner
  | cued (.attach new) => some new
  | wrote bytes (.ok ()) => partner.map fun p => (p.see bytes).2
  | _ => partner

/-- The write that was accepted, if one was. -/
@[simp]
def accepted : Event → List (List UInt8)
  | wrote bytes (.ok ()) => [bytes]
  | _ => []

/-- Whether the writes so far are forgotten. -/
@[simp]
def forgets : Event → Bool
  | cued .forgetWrites => true
  | _ => false

/-- Whether writes fail from now on, if that is set. -/
@[simp]
def writesFail? : Event → Option Bool
  | cued (.setWritesFail fail) => some fail
  | _ => none

/-- Whether reads fail from now on, if that is set. -/
@[simp]
def readsFail? : Event → Option Bool
  | cued (.setReadsFail fail) => some fail
  | _ => none

/-- Whether the channel is closed. -/
@[simp]
def closes : Event → Bool
  | closed => true
  | _ => false

end Event

/-! ## The books -/

/-- The bytes that reads brought. -/
def received (events : List Event) : List UInt8 :=
  events.flatMap Event.received

/-- The bytes that were queued, and those that answered an accepted write. -/
def supplied : Option Partner → List Event → List UInt8
  | _, [] => []
  | partner, event :: rest => event.supplied partner ++ supplied (event.partnerAfter partner) rest

/-- The accepted writes that were not forgotten later. -/
def recorded : List Event → List (List UInt8)
  | [] => []
  | event :: rest => (if rest.any Event.forgets then [] else event.accepted) ++ recorded rest

/-- What was set last, `start` if nothing was. -/
def latest (setting? : Event → Option Bool) (events : List Event) (start : Bool) : Bool :=
  ((events.filterMap setting?).getLast?).getD start

/-- How often the channel was closed. -/
def closings (events : List Event) : Nat :=
  events.countP Event.closes

/-! ## One call -/

variable {c c' c'' : ScriptedChannel} {limit : Nat}

/-- What one call does to a channel. -/
structure Step (c : ScriptedChannel) (event : Event) (c' : ScriptedChannel) : Prop where
  inbound : event.received ++ c'.inbound = c.inbound ++ event.supplied c.partner
  partner : c'.partner = event.partnerAfter c.partner
  written : c'.written = (if event.forgets then [] else c.written) ++ event.accepted
  writesFail : c'.writesFail = event.writesFail?.getD c.writesFail
  readsFail : c'.readsFail = event.readsFail?.getD c.readsFail
  closed : c'.closed = (c.closed || event.closes)
  closeCount : c'.closeCount = c.closeCount + event.closes.toNat
  some_size : c.chunkSize ≠ some 0 → c'.chunkSize ≠ some 0

/-- The channel after an accepted write. -/
def accept (bytes : List UInt8) (c : ScriptedChannel) : ScriptedChannel :=
  { c with
    written := c.written ++ [bytes]
    inbound := c.inbound ++ (c.partner.map fun p => (p.see bytes).1).getD []
    partner := c.partner.map fun p => (p.see bytes).2 }

/-- How much one read takes off the queue. -/
def share (limit : Nat) (c : ScriptedChannel) : Nat :=
  min limit (c.chunkSize.getD c.inbound.length)

/-- Why a use of a channel fails: because it was closed, else because failures are set up. -/
def refusal? (closed failing : Bool) (failure : String) : Option ChannelFault :=
  if closed then some .closed
  else if failing then some (.io failure)
  else none

/-- A use of a channel is refused, and changes nothing, or it is what it is otherwise. -/
theorem refused_or {α : Type} (closed failing : Bool) (failure : String) (c : ScriptedChannel)
    (otherwise : Except ChannelFault α × ScriptedChannel) :
    (if closed then (.error .closed, c)
      else if failing then (.error (.io failure), c)
      else otherwise) =
    match refusal? closed failing failure with
    | some fault => (.error fault, c)
    | none => otherwise := by
  cases closed with
  | true => rfl
  | false =>
    cases failing with
    | true => rfl
    | false => rfl

theorem write_eq (bytes : List UInt8) (c : ScriptedChannel) :
    c.write bytes =
      match refusal? c.closed c.writesFail "mock write failure" with
      | some fault => (.error fault, c)
      | none => (.ok (), c.accept bytes) := by
  rw [← refused_or, write]
  cases answers : c.partner with
  | none => simp only [accept, answers, Option.map_none, Option.getD_none, List.append_nil]
  | some partner => simp only [accept, answers, Option.map_some, Option.getD_some]

theorem read_eq (limit : Nat) (c : ScriptedChannel) :
    c.read limit =
      match refusal? c.closed c.readsFail "mock read failure" with
      | some fault => (.error fault, c)
      | none => (.ok (c.inbound.take (c.share limit)),
          { c with inbound := c.inbound.drop (c.share limit) }) := by
  rw [← refused_or]
  rfl

/-- A read that may return something returns nothing only if nothing waits. -/
theorem nothing_waits (some_size : c.chunkSize ≠ some 0) (room : 0 < limit)
    (nothing : c.inbound.take (c.share limit) = []) : c.inbound = [] := by
  rcases List.take_eq_nil_iff.mp nothing with none | empty
  · cases limited : c.chunkSize with
    | none =>
      rw [share, limited, Option.getD_none] at none
      exact List.eq_nil_of_length_eq_zero (by omega)
    | some most =>
      rw [share, limited, Option.getD_some] at none
      exact absurd (limited.trans (congrArg some (by omega : most = 0))) some_size
  · exact empty

theorem cue_step (cue : Cue) (c : ScriptedChannel) : Step c (.cued cue) (cue.apply c) := by
  cases cue
  all_goals constructor
  all_goals
    simp [Cue.apply, queue, limitReads, attach, setWritesFail, setReadsFail, forgetWrites]

theorem write_step (bytes : List UInt8) (c : ScriptedChannel) :
    Step c (.wrote bytes (c.write bytes).1) (c.write bytes).2 := by
  rw [write_eq]
  cases refusal? c.closed c.writesFail "mock write failure" with
  | some fault =>
    constructor
    all_goals simp
  | none =>
    constructor
    all_goals simp [accept]

theorem read_step (limit : Nat) (c : ScriptedChannel) :
    Step c (.read limit (c.read limit).1) (c.read limit).2 := by
  rw [read_eq]
  cases refusal? c.closed c.readsFail "mock read failure" with
  | some fault =>
    constructor
    all_goals simp [readBytes]
  | none =>
    constructor
    all_goals simp [readBytes]

/-- **What one call does to a channel.** -/
theorem answer_step (call : Call) (c : ScriptedChannel) :
    Step c (answer call c).1 (answer call c).2 := by
  cases call with
  | cue cue => exact cue_step cue c
  | write bytes => exact write_step bytes c
  | read limit => exact read_step limit c
  | close =>
    constructor
    all_goals simp [answer, close]

/-! ## Any number of calls -/

/-- What any number of calls do to a channel. -/
structure Ran (c : ScriptedChannel) (events : List Event) (c' : ScriptedChannel) : Prop where
  conserved : received events ++ c'.inbound = c.inbound ++ supplied c.partner events
  written : c'.written = (if events.any Event.forgets then [] else c.written) ++ recorded events
  writesFail : c'.writesFail = latest Event.writesFail? events c.writesFail
  readsFail : c'.readsFail = latest Event.readsFail? events c.readsFail
  closed : c'.closed = (c.closed || events.any Event.closes)
  closeCount : c'.closeCount = c.closeCount + closings events
  some_size : c.chunkSize ≠ some 0 → c'.chunkSize ≠ some 0

theorem latest_cons (setting? : Event → Option Bool) (event : Event) (rest : List Event)
    (start : Bool) :
    latest setting? (event :: rest) start = latest setting? rest ((setting? event).getD start) := by
  unfold latest
  cases set : setting? event with
  | none => simp [set]
  | some value => simp [set, List.getLast?_cons]

theorem Ran.start (c : ScriptedChannel) : Ran c [] c := by
  constructor
  all_goals simp [received, supplied, recorded, latest, closings]

/-- A call, and the calls after it. -/
theorem Ran.cons {event : Event} {events : List Event} (step : Step c event c')
    (rest : Ran c' events c'') : Ran c (event :: events) c'' where
  conserved := by
    calc received (event :: events) ++ c''.inbound
        = event.received ++ (received events ++ c''.inbound) := by simp [received]
      _ = event.received ++ c'.inbound ++ supplied c'.partner events := by
        rw [rest.conserved, List.append_assoc]
      _ = c.inbound ++ supplied c.partner (event :: events) := by
        rw [step.inbound, step.partner, supplied, List.append_assoc]
  written := by
    rw [rest.written, step.written, recorded]
    cases later : events.any Event.forgets with
    | true => simp only [List.any_cons, later, Bool.or_true, if_true, List.nil_append]
    | false =>
      simp only [List.any_cons, later, Bool.or_false, Bool.false_eq_true, if_false,
        List.append_assoc]
  writesFail := by rw [rest.writesFail, step.writesFail, latest_cons]
  readsFail := by rw [rest.readsFail, step.readsFail, latest_cons]
  closed := by rw [rest.closed, step.closed, List.any_cons, Bool.or_assoc]
  closeCount := by
    rw [rest.closeCount, step.closeCount, closings, closings, List.countP_cons]
    cases event.closes with
    | true =>
      simp only [Bool.toNat_true, if_true]
      omega
    | false => simp only [Bool.toNat_false, Bool.false_eq_true, if_false, Nat.add_zero]
  some_size := fun positive => rest.some_size (step.some_size positive)

/-- **What any number of calls do to a channel**, by what each of them does. -/
theorem carryOut_ran (calls : List Call) (c : ScriptedChannel) :
    Ran c (carryOut calls c).1 (carryOut calls c).2 := by
  induction calls generalizing c with
  | nil => exact .start c
  | cons call rest ih => exact .cons (answer_step call c) (ih (answer call c).2)

/-- The events are those of the calls, one for each. -/
theorem carryOut_calls (calls : List Call) (c : ScriptedChannel) :
    (carryOut calls c).1.map Event.call = calls := by
  induction calls generalizing c with
  | nil => rfl
  | cons call rest ih =>
    have own : (answer call c).1.call = call := by
      cases call with
      | cue cue => rfl
      | write bytes => rfl
      | read limit => rfl
      | close => rfl
    show (answer call c).1.call :: (carryOut rest (answer call c).2).1.map Event.call = call :: rest
    rw [own, ih]

/-! ## The books of a fresh channel -/

/-- What a channel that was fresh holds after what was done to it, and how it answers. -/
structure Books (events : List Event) (c : ScriptedChannel) : Prop where
  /-- The bytes that reads brought, and those that wait behind them, are those that were queued and
  those that answered accepted writes, in order. -/
  conserved : received events ++ c.inbound = supplied none events
  /-- On record are the accepted writes since they were last forgotten. -/
  written : c.written = recorded events
  /-- Every closing counts. -/
  closeCount : c.closeCount = closings events
  /-- A write is refused once the channel was closed, else while writes are set to fail, and then it
  changes nothing; any other write is accepted. -/
  write : ∀ bytes,
    match refusal? (events.any Event.closes) (latest Event.writesFail? events false)
        "mock write failure" with
    | some fault => c.write bytes = (.error fault, c)
    | none => (c.write bytes).1 = .ok ()
  /-- A read is refused likewise; any other read brings bytes, and when there is room for some it
  brings none only if none wait. -/
  read : ∀ limit,
    match refusal? (events.any Event.closes) (latest Event.readsFail? events false)
        "mock read failure" with
    | some fault => c.read limit = (.error fault, c)
    | none => ∃ bytes, (c.read limit).1 = .ok bytes ∧ (0 < limit → bytes = [] → c.inbound = [])
  /-- Once it was closed, every use is refused for that. -/
  shut : closings events ≠ 0 →
    (∀ bytes, c.write bytes = (.error .closed, c)) ∧ ∀ limit, c.read limit = (.error .closed, c)

theorem closings_ne_zero_iff {events : List Event} :
    closings events ≠ 0 ↔ events.any Event.closes = true := by
  rw [closings, Ne, List.countP_eq_zero, List.any_eq_true]
  simp

/-- **What any calls do to a fresh channel is in its books.** -/
theorem Ran.books {info : DeviceInfo} {events : List Event} (ran : Ran { info } events c) :
    Books events c := by
  have closed : c.closed = events.any Event.closes := by rw [ran.closed, Bool.false_or]
  constructor
  case conserved => exact ran.conserved
  case written =>
    rw [ran.written, ite_self, List.nil_append]
  case closeCount => rw [ran.closeCount, Nat.zero_add]
  case write =>
    intro bytes
    rw [← closed, ← ran.writesFail, write_eq]
    cases refusal? c.closed c.writesFail "mock write failure" with
    | some fault => rfl
    | none => rfl
  case read =>
    intro limit
    rw [← closed, ← ran.readsFail, read_eq]
    cases refusal? c.closed c.readsFail "mock read failure" with
    | some fault => rfl
    | none =>
      have some_size : c.chunkSize ≠ some 0 := ran.some_size (by simp)
      exact ⟨_, rfl, nothing_waits some_size⟩
  case shut =>
    intro often
    have shut : c.closed = true := closed.trans (closings_ne_zero_iff.mp often)
    constructor
    · intro bytes
      rw [write_eq, shut]
      rfl
    · intro limit
      rw [read_eq, shut]
      rfl

/-- **A channel in memory keeps its books.**  Whatever calls were made on a fresh one, in whatever
order its script and its user made them, what it holds and how it answers the next call follow from
the events, of which there is one for each call. -/
theorem carryOut_keepsBooks (info : DeviceInfo) (calls : List Call) :
    let (events, c) := carryOut calls { info }
    events.map Event.call = calls ∧ Books events c :=
  ⟨carryOut_calls calls _, (carryOut_ran calls _).books⟩

-- a limit of no bytes counts as one of a single byte
example :
    let (events, c) := carryOut [.cue (.queue [1, 2]), .cue (.limitReads 0), .read 8]
      { info := defaultInfo }
    received events = [1] ∧ c.inbound = [2] := by decide

end BrailleDisplay.ScriptedChannel
