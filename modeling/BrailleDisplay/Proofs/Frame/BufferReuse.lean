import BrailleDisplay.Proofs.Frame.Resynchronisation

/-!
# Bytes left over in the buffer of a recogniser

The buffer of a recogniser is never cleared: behind the bytes of the candidate stand those of
earlier ones, and a short candidate is written over the beginning of a long one.  Nothing that a
recogniser does depends on them.

* `Decoder.judge?`, `Decoder.push?` — verifying and taking a byte with every access checked: there
  is no answer if a byte is written outside the buffer, or read that is not one of the candidate's;
* `Decoder.judge?_take`, `Decoder.push?_eq` — when there is an answer, and that it is the one of
  `judge` and of `push`;
* `Decoder.Current` — the candidate is what was pushed last, from a point between frames on;
  `Decoder.Current.concat` is the step lemma and `Decoder.current_after` the run lemma;
* `Decoder.Alike` — recognisers that differ in nothing but bytes left over; **the two-run argument**
  is `Decoder.Alike.push` for one byte and `Decoder.Alike.moves` for any pushes and resets;
* `Decoder.Confined`, `Decoder.after_confined` — all of this, wherever pushes and resets lead.
-/

namespace BrailleDisplay

namespace Decoder

/-! ## Checked accesses -/

/-- The first bytes of a list, if it has so many. -/
def firstBytes? (count : Nat) (bytes : List UInt8) : Option (List UInt8) :=
  if count ≤ bytes.length then some (bytes.take count) else none

/-- Verify a complete candidate of which these bytes are there.  A byte that is asked for and is not
there leaves it without an answer. -/
def judge? (shape : FrameShape) (bytes : List UInt8) : Option (Except FrameFault Frame) := do
  let last ← bytes[shape.length - 1]?
  if last ≠ shape.lastByte then
    return .error (.badTerminator shape.lastByte last)
  match shape with
  | .short => return .ok (.short ⟨← bytes[1]?, ← bytes[2]?⟩)
  | .long =>
    let carried ← bytes[8]?
    let computed := checksum (← firstBytes? longSize bytes) - carried
    if computed ≠ carried then
      return .error (.checksumMismatch computed carried)
    let reserved := #v[← bytes[4]?, ← bytes[5]?, ← bytes[6]?, ← bytes[7]?]
    return .ok (.long ⟨← bytes[1]?, ← bytes[2]?, ← bytes[3]?, reserved⟩)

theorem firstBytes?_toList (buffer : Vector UInt8 longSize) :
    firstBytes? longSize buffer.toList = some buffer.toList := by
  have size : buffer.toList.length = longSize := Vector.length_toList
  rw [firstBytes?, if_pos (Nat.le_of_eq size.symm), List.take_of_length_le (Nat.le_of_eq size)]

theorem getElem?_take_toList (buffer : Vector UInt8 longSize) {place count : Nat}
    (inside : place < longSize) (read : place < count) :
    (buffer.toList.take count)[place]? = some buffer[place] := by
  rw [List.getElem?_take_of_lt read, Vector.getElem?_toList]
  exact Vector.getElem?_eq_getElem inside

/-- **Verification reads the candidate and nothing else.**  Of the bytes in a buffer it needs as
many as a frame of the shape has, and from these it gets the answer that the whole buffer gives. -/
theorem judge?_take (shape : FrameShape) (buffer : Vector UInt8 longSize) (count : Nat) :
    judge? shape (buffer.toList.take count)
      = if shape.length ≤ count then some (judge shape buffer) else none := by
  have one_at_least := shape.length_pos
  have fits := shape.length_le
  split
  · rename_i enough
    have read (place : Nat) (inside : place < longSize) (near : place < shape.length) :
        (buffer.toList.take count)[place]? = some buffer[place] :=
      getElem?_take_toList buffer inside (Nat.lt_of_lt_of_le near enough)
    unfold judge?
    rw [read (shape.length - 1) (by omega) (by omega)]
    cases shape with
    | short =>
      simp (disch := decide) only [read, judge, Option.bind_eq_bind, Option.bind_some,
        Option.pure_def, apply_ite some]
    | long =>
      have whole : firstBytes? longSize (buffer.toList.take count) = some buffer.toList := by
        rw [List.take_of_length_le (by rw [Vector.length_toList]; exact enough)]
        exact firstBytes?_toList buffer
      simp (disch := decide) only [read, whole, judge, Option.bind_eq_bind, Option.bind_some,
        Option.pure_def, apply_ite some]
  · rename_i few
    -- the byte that has to be the end marker is not there
    have missing : (buffer.toList.take count)[shape.length - 1]? = none := by
      rw [List.getElem?_eq_none_iff, List.length_take]
      omega
    unfold judge?
    rw [missing]
    rfl

/-! ## One byte, with checked accesses -/

/-- The recogniser with the first byte of a frame in its buffer. -/
def begun (d : Decoder) (shape : FrameShape) (b : UInt8) : Decoder :=
  { state := .restOf shape, buffer := d.buffer.set 0 b, filled := 1 }

/-- The recogniser with one more byte behind those of its candidate. -/
def extended (d : Decoder) (b : UInt8) (room : d.filled < longSize) : Decoder :=
  { d with buffer := d.buffer.set d.filled b, filled := d.filled + 1 }

/-- What a verified candidate leads to. -/
def settled (d : Decoder) : Except FrameFault Frame → Verdict × Decoder
  | .ok frame => (.valid frame, d.reset)
  | .error reason => (.invalid reason d.collected, d.reset)

/-- Take one byte with every access to the buffer checked: there is no answer if the byte finds no
room in it, or if verification asks for a byte that is not one of the candidate's. -/
def push? (d : Decoder) (b : UInt8) : Option (Verdict × Decoder) :=
  match d.state with
  | .lead =>
    match FrameShape.ofLeadByte? b with
    | some shape => some (.incomplete, d.begun shape b)
    | none => some (.invalid (.unexpectedLeadByte b) [b], d)
  | .restOf shape =>
    if room : d.filled < longSize then
      let grown := d.extended b room
      if grown.filled < shape.length then
        some (.incomplete, grown)
      else
        (judge? shape grown.collected).map grown.settled
    else
      none

theorem setIfInBounds_eq_set {buffer : Vector UInt8 longSize} {place : Nat} {b : UInt8}
    (room : place < longSize) : buffer.setIfInBounds place b = buffer.set place b := by
  ext i inside
  rw [Vector.getElem_setIfInBounds, Vector.getElem_set]

/-- Writing behind the bytes in use appends to them. -/
theorem take_set (buffer : Vector UInt8 longSize) (b : UInt8) {n : Nat} (room : n < longSize) :
    (buffer.set n b).toList.take (n + 1) = buffer.toList.take n ++ [b] := by
  rw [← setIfInBounds_eq_set room]
  exact take_setIfInBounds buffer b room

theorem collected_begun (d : Decoder) (shape : FrameShape) (b : UInt8) :
    (d.begun shape b).collected = [b] :=
  take_set d.buffer b (by decide)

theorem collected_extended (d : Decoder) (b : UInt8) (room : d.filled < longSize) :
    (d.extended b room).collected = d.collected ++ [b] :=
  take_set d.buffer b room

/-- The candidate that a byte completes is verified by nothing but its own bytes. -/
theorem judge?_concat {d : Decoder} (room : d.filled < longSize) {shape : FrameShape}
    (full : shape.length ≤ d.filled + 1) (b : UInt8) :
    judge? shape (d.collected ++ [b]) = some (judge shape (d.extended b room).buffer) := by
  rw [← collected_extended d b room]
  exact (judge?_take shape (d.extended b room).buffer (d.filled + 1)).trans (if_pos full)

/-- Between frames a byte is the first of a frame, or none of any. -/
theorem push_lead {d : Decoder} (idle : d.state = .lead) (b : UInt8) :
    d.push b = match FrameShape.ofLeadByte? b with
      | some shape => (.incomplete, d.begun shape b)
      | none => (.invalid (.unexpectedLeadByte b) [b], d) := by
  have written : d.buffer.setIfInBounds 0 b = d.buffer.set 0 b := setIfInBounds_eq_set (by decide)
  simp only [push, idle, written]
  rfl

/-- Inside a frame a byte is added to the candidate, which is verified when it is complete. -/
theorem push_restOf {d : Decoder} {shape : FrameShape} (inside : d.state = .restOf shape)
    (b : UInt8) (room : d.filled < longSize) :
    d.push b = if (d.extended b room).filled < shape.length then (.incomplete, d.extended b room)
      else (d.extended b room).settled (judge shape (d.extended b room).buffer) := by
  have stored : d.buffer.setIfInBounds d.filled b = (d.extended b room).buffer :=
    setIfInBounds_eq_set room
  have grown : { d with buffer := (d.extended b room).buffer, filled := d.filled + 1 }
      = d.extended b room := rfl
  simp only [push, inside, stored]
  rw [← inside, grown]
  cases judge shape (d.extended b room).buffer <;> rfl

/-- **Checked accesses** change nothing as long as there is room for a byte, whatever the
recogniser: a candidate that is verified has all the bytes that verification asks for. -/
theorem push?_eq (d : Decoder) (b : UInt8) :
    d.push? b = if d.state = .lead ∨ d.filled < longSize then some (d.push b) else none := by
  cases state : d.state with
  | lead =>
    rw [if_pos (.inl rfl), push_lead state]
    simp only [push?, state]
    cases FrameShape.ofLeadByte? b <;> rfl
  | restOf shape =>
    by_cases room : d.filled < longSize
    · rw [if_pos (.inr room), push_restOf state b room, apply_ite some]
      simp only [push?, state, dif_pos room]
      split
      · rfl
      · rename_i full
        rw [collected_extended, judge?_concat room (Nat.not_lt.mp full)]
        rfl
    · have stuck : ¬(Expectation.restOf shape = .lead ∨ d.filled < longSize) := by
        simp [room]
      rw [if_neg stuck]
      simp only [push?, state, dif_neg room]

/-! ## Room in the buffer -/

/-- Inside a frame its lead byte stands first in the buffer, and bytes are lacking. -/
theorem Sound.filled_of_restOf {d : Decoder} (sound : d.Sound) {shape : FrameShape}
    (inside : d.state = .restOf shape) :
    1 ≤ d.filled ∧ d.filled < shape.length ∧ d.buffer[0] = shape.leadByte := by
  rw [Sound, inside] at sound
  obtain ⟨less, lead⟩ := sound
  rw [collected, List.head?_take] at lead
  split at lead
  · cases lead
  · rename_i started
    rw [List.head?_eq_getElem?, Vector.getElem?_toList, Vector.getElem?_eq_getElem (by decide)]
      at lead
    exact ⟨Nat.pos_of_ne_zero started, less, Option.some.inj lead⟩

theorem Sound.filled_eq_zero_iff {d : Decoder} (sound : d.Sound) :
    d.state = .lead ↔ d.filled = 0 := by
  cases state : d.state with
  | lead =>
    rw [Sound, state] at sound
    exact iff_of_true rfl sound
  | restOf shape =>
    have started := (sound.filled_of_restOf state).1
    exact iff_of_false Expectation.noConfusion (by omega)

theorem Sound.room {d : Decoder} (sound : d.Sound) : d.filled < longSize := by
  cases state : d.state with
  | lead =>
    rw [sound.filled_eq_zero_iff.mp state]
    decide
  | restOf shape => exact Nat.lt_of_lt_of_le (sound.filled_of_restOf state).2.1 shape.length_le

/-! ## Which bytes the candidate has -/

/-- The bytes of the candidate are those pushed last, from a point where the recogniser was between
frames. -/
def Current (moves : List Move) (d : Decoder) : Prop :=
  ∃ earlier, (after earlier).state = .lead ∧ moves = earlier ++ d.collected.map .push

theorem after_concat (moves : List Move) (m : Move) :
    after (moves ++ [m]) = (after moves).move m :=
  List.foldl_concat _ _ _ _

theorem current_of_lead {moves : List Move} (idle : (after moves).state = .lead) :
    Current moves (after moves) := by
  have empty := (sound_after moves).collected_eq_nil_iff.mpr idle
  exact ⟨moves, idle, by rw [empty, List.map_nil, List.append_nil]⟩

theorem Current.concat {moves : List Move} (current : Current moves (after moves)) (m : Move) :
    Current (moves ++ [m]) (after (moves ++ [m])) := by
  by_cases idle : (after (moves ++ [m])).state = .lead
  · exact current_of_lead idle
  -- a candidate that is not finished has been started or has grown
  rw [after_concat] at idle ⊢
  cases m with
  | reset => exact absurd rfl idle
  | push b =>
    have sound := sound_after moves
    have step := step_push sound b
    rw [move] at idle ⊢
    generalize ((after moves).push b).1 = outcome at step
    generalize ((after moves).push b).2 = next at step idle ⊢
    cases step with
    | started _ _ before _ _ _ holds =>
      exact ⟨moves, before, by rw [holds]; rfl⟩
    | strayed before => exact absurd before idle
    | grew _ _ _ _ _ _ holds =>
      obtain ⟨earlier, before, split⟩ := current
      refine ⟨earlier, before, ?_⟩
      rw [holds, List.map_append, ← List.append_assoc, ← split]
      rfl
    | accepted _ _ _ _ _ _ between => exact absurd between idle
    | dropped _ _ _ _ _ _ between => exact absurd between idle

theorem current_after (moves : List Move) : Current moves (after moves) := by
  induction moves using List.reverseRecOn with
  | nil => exact current_of_lead rfl
  | append_singleton moves m ih => exact ih.concat m

/-! ## Two recognisers -/

/-- The same is waited for and the same is collected.  The buffers may hold different bytes behind
those of the candidate. -/
structure Alike (d e : Decoder) : Prop where
  state : d.state = e.state
  collected : d.collected = e.collected

/-- What the bytes among some moves lead to, one after the other. -/
def outcomes (d : Decoder) : List Move → List Verdict
  | [] => []
  | .push b :: rest => (d.push b).1 :: (d.push b).2.outcomes rest
  | .reset :: rest => d.reset.outcomes rest

theorem alike_reset (d e : Decoder) : Alike d.reset e.reset where
  state := rfl
  collected := rfl

theorem Alike.filled {d e : Decoder} (alike : Alike d e) (room : d.filled < longSize) :
    d.filled = e.filled := by
  have sizes := congrArg List.length alike.collected
  rw [collected_length (Nat.le_of_lt room), Decoder.collected, List.length_take,
    Vector.length_toList] at sizes
  omega

/-- The same candidates get the same answer. -/
theorem Alike.judge {d e : Decoder} (alike : Alike d e) (same : d.filled = e.filled)
    {shape : FrameShape} (full : shape.length ≤ d.filled) :
    Decoder.judge shape d.buffer = Decoder.judge shape e.buffer := by
  have answers := congrArg (judge? shape) alike.collected
  rw [Decoder.collected, Decoder.collected, judge?_take, judge?_take, if_pos full,
    if_pos (same ▸ full)] at answers
  exact Option.some.inj answers

/-- **One byte leads to the same**, whatever stands behind the candidates. -/
theorem Alike.push {d e : Decoder} (alike : Alike d e) (room : d.filled < longSize) (b : UInt8) :
    (d.push b).1 = (e.push b).1 ∧ Alike (d.push b).2 (e.push b).2 := by
  cases waits : d.state with
  | lead =>
    rw [push_lead waits, push_lead (alike.state ▸ waits)]
    cases FrameShape.ofLeadByte? b with
    | some shape =>
      exact ⟨rfl, rfl, (collected_begun d shape b).trans (collected_begun e shape b).symm⟩
    | none => exact ⟨rfl, alike⟩
  | restOf shape =>
    have same := alike.filled room
    have room' : e.filled < longSize := same ▸ room
    rw [push_restOf waits b room, push_restOf (alike.state ▸ waits) b room']
    have grown : Alike (d.extended b room) (e.extended b room') := by
      refine ⟨alike.state, ?_⟩
      rw [collected_extended, collected_extended, alike.collected]
    have filled : (d.extended b room).filled = (e.extended b room').filled :=
      congrArg (· + 1) same
    -- from here on it does not matter how the two candidates came about
    generalize d.extended b room = d' at grown filled
    generalize e.extended b room' = e' at grown filled
    rw [← filled]
    split
    · exact ⟨rfl, grown⟩
    · rename_i full
      rw [← grown.judge filled (Nat.not_lt.mp full)]
      cases Decoder.judge shape d'.buffer with
      | ok frame => exact ⟨rfl, alike_reset d' e'⟩
      | error reason => exact ⟨congrArg (Verdict.invalid reason) grown.collected, alike_reset d' e'⟩

/-- **Pushes and resets lead to the same**, whatever stands behind the candidates. -/
theorem Alike.moves {d e : Decoder} (alike : Alike d e) (sound : d.Sound) (moves : List Move) :
    d.outcomes moves = e.outcomes moves
      ∧ Alike (moves.foldl Decoder.move d) (moves.foldl Decoder.move e) := by
  induction moves generalizing d e with
  | nil => exact ⟨rfl, alike⟩
  | cons m rest ih =>
    cases m with
    | push b =>
      obtain ⟨told, alike'⟩ := alike.push sound.room b
      obtain ⟨onward, last⟩ := ih alike' (sound.push b)
      exact ⟨by rw [outcomes, outcomes, told, onward], last⟩
    | reset => exact ih (alike_reset d e) (sound_reset d)

/-! ## Recognisers in use -/

/-- A recogniser that keeps to its buffer and to its candidate, after some moves. -/
structure Confined (moves : List Move) (d : Decoder) : Prop where
  /-- Nothing is collected between frames, and only there. -/
  idle : d.state = .lead ↔ d.filled = 0
  /-- Inside a frame its lead byte stands first in the buffer, and bytes are lacking. -/
  inside : ∀ shape, d.state = .restOf shape →
    1 ≤ d.filled ∧ d.filled < shape.length ∧ shape.length ≤ 10 ∧ d.buffer[0] = shape.leadByte
  /-- The place of the next byte is one of the buffer's. -/
  room : d.filled < longSize
  /-- A byte that completes the candidate has it verified by nothing but its own bytes. -/
  verified : ∀ shape b, d.state = .restOf shape → d.filled + 1 = shape.length →
    judge? shape (d.collected ++ [b]) = some (judge shape (d.buffer.set d.filled b room))
  /-- Taking a byte never fails for want of room, or of a byte that verification asks for. -/
  checked : ∀ b, d.push? b = some (d.push b)
  /-- The bytes of the candidate are those pushed last, and none of an earlier candidate's. -/
  current : Current moves d
  /-- What stands behind the candidate never makes a difference. -/
  alike : ∀ other, Alike d other → ∀ further,
    d.outcomes further = other.outcomes further
      ∧ Alike (further.foldl move d) (further.foldl move other)

/-- **A recogniser keeps to its buffer and to its candidate**, whatever has been pushed and
reset. -/
theorem after_confined (moves : List Move) : Confined moves (after moves) where
  idle := (sound_after moves).filled_eq_zero_iff
  inside shape inside := by
    obtain ⟨started, less, lead⟩ := (sound_after moves).filled_of_restOf inside
    exact ⟨started, less, shape.length_le, lead⟩
  room := (sound_after moves).room
  verified _ b _ full := judge?_concat (sound_after moves).room (Nat.le_of_eq full.symm) b
  checked b := by rw [push?_eq, if_pos (.inr (sound_after moves).room)]
  current := current_after moves
  alike _ alike further := alike.moves (sound_after moves) further

/-- Two bytes of an identity frame over a report that was dropped, every byte of which behind the
first would end an identity frame.  The recogniser goes on like one whose buffer was never used, and
refuses the identity frame for the end marker that it lacks. -/
theorem after_confined_leftOver :
    let report : List Move := (0xFA :: List.replicate 9 0x1F).map .push
    let identity : List Move := [.push 0x1C, .push 0x4E]
    let further : List Move := [.push 0x54, .push 0x00]
    let d := after (report ++ identity)
    let other := after identity
    Confined (report ++ identity) d ∧ d.buffer ≠ other.buffer ∧ Alike d other
      ∧ d.outcomes further = other.outcomes further
      ∧ d.outcomes further
          = [.incomplete, .invalid (.badTerminator 0x1F 0x00) [0x1C, 0x4E, 0x54, 0x00]] := by
  intro report identity further d other
  have confined : Confined (report ++ identity) d := after_confined (report ++ identity)
  have alike : Alike d other := ⟨rfl, rfl⟩
  exact ⟨confined, by decide, alike, (confined.alike other alike further).1, by decide⟩

end Decoder

end BrailleDisplay
