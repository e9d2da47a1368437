import Mathlib.Data.UInt
import BrailleDisplay.Frame.Decoder

/-!
# What a recogniser makes of a byte stream

A `Decoder` cuts the bytes it takes into pieces: verified frames, rejected candidates, and the
unfinished candidate it still holds.  This file says what the pieces are and that nothing else
happens to the bytes.

* `Candidate`, `Rejected`, `Judged` — complete candidates, and what may become of them, said of
  their bytes alone and without the recogniser;
* `Decoder.Sound` — the invariant: nothing is collected between frames, and inside a frame its lead
  byte and fewer bytes than it has;
* `Decoder.Step` — what one byte can do, by the bytes collected before and after; stale bytes of
  the buffer do not occur in it;
* **the run theorems** (`Decoder.pieces_run`, `Decoder.deserved_run`): from any sound recogniser the
  pieces of a run concatenate to the bytes it took, and each piece is what its verdict says;
* `Decoder.Partition`, `Decoder.run_fresh_partition` — all of this for a fresh recogniser and any
  bytes.
-/

namespace BrailleDisplay

/-! ## Complete candidates -/

/-- As many bytes as a frame of this shape has, begun by its lead byte. -/
structure Candidate (shape : FrameShape) (bytes : List UInt8) : Prop where
  size : bytes.length = shape.length
  lead : bytes.head? = some shape.leadByte

/-- The bytes of a verified frame: an identity frame, or a report whose ninth byte is the sum of the
other nine. -/
inductive WellFormed : List UInt8 → Prop where
  | short (x y : UInt8) : WellFormed [0x1C, x, y, 0x1F]
  | long (t c d r₀ r₁ r₂ r₃ ck : UInt8)
      (sum : ck.toNat =
        ([0xFA, t, c, d, r₀, r₁, r₂, r₃, 0xFB].map UInt8.toNat).sum % 256) :
      WellFormed [0xFA, t, c, d, r₀, r₁, r₂, r₃, ck, 0xFB]

/-- What may be refused, and why: a byte that begins no frame, a candidate with a wrong last byte,
or a report that ends as it should but carries another sum than that of its other bytes. -/
inductive Rejected : FrameFault → List UInt8 → Prop where
  | stray (b : UInt8) (short : b ≠ 0x1C) (long : b ≠ 0xFA) :
      Rejected (.unexpectedLeadByte b) [b]
  | tail {shape : FrameShape} {bytes : List UInt8} {last : UInt8}
      (candidate : Candidate shape bytes) (ends : bytes.getLast? = some last)
      (wrong : last ≠ shape.lastByte) :
      Rejected (.badTerminator shape.lastByte last) bytes
  | sum {bytes : List UInt8} {computed carried : UInt8}
      (candidate : Candidate .long bytes) (ends : bytes.getLast? = some 0xFB)
      (carries : bytes[8]? = some carried)
      (computes : computed.toNat = ((bytes.eraseIdx 8).map UInt8.toNat).sum % 256)
      (wrong : computed ≠ carried) :
      Rejected (.checksumMismatch computed carried) bytes

/-- What verifying a complete candidate may come to. -/
inductive Judged (bytes : List UInt8) : Except FrameFault Frame → Prop where
  | verified (frame : Frame) (same : frame.bytes = bytes) : Judged bytes (.ok frame)
  | refused (reason : FrameFault) (why : Rejected reason bytes) : Judged bytes (.error reason)

/-- The checksum is the sum of the bytes as numbers, modulo 256. -/
theorem checksum_toNat (bytes : List UInt8) :
    (checksum bytes).toNat = (bytes.map UInt8.toNat).sum % 256 := by
  induction bytes with
  | nil => rfl
  | cons b rest ih =>
    have step : checksum (b :: rest) = b + checksum rest := rfl
    rw [step, UInt8.toNat_add, ih, List.map_cons, List.sum_cons]
    omega

/-- The bytes of a frame are well-formed. -/
theorem Frame.bytes_wellFormed (frame : Frame) : WellFormed frame.bytes := by
  cases frame with
  | short f => exact .short f.id1 f.id2
  | long f =>
    obtain ⟨t, c, d, ⟨⟨reserved⟩, size⟩⟩ := f
    match reserved, size with
    | [r₀, r₁, r₂, r₃], _ => exact .long t c d r₀ r₁ r₂ r₃ _ (checksum_toNat _)

namespace Decoder

/-- Ten bytes, one by one. -/
theorem exists_bytes (buffer : Vector UInt8 longSize) :
    ∃ b₀ b₁ b₂ b₃ b₄ b₅ b₆ b₇ b₈ b₉,
      buffer = (#v[b₀, b₁, b₂, b₃, b₄, b₅, b₆, b₇, b₈, b₉] : Vector UInt8 longSize) := by
  obtain ⟨⟨bytes⟩, size⟩ := buffer
  match bytes, size with
  | [b₀, b₁, b₂, b₃, b₄, b₅, b₆, b₇, b₈, b₉], _ =>
    exact ⟨b₀, b₁, b₂, b₃, b₄, b₅, b₆, b₇, b₈, b₉, rfl⟩

/-- Verification of an identity frame, in terms of its bytes. -/
theorem judge_short (b₀ b₁ b₂ b₃ b₄ b₅ b₆ b₇ b₈ b₉ : UInt8) :
    judge .short (#v[b₀, b₁, b₂, b₃, b₄, b₅, b₆, b₇, b₈, b₉] : Vector UInt8 longSize)
      = if b₃ = 0x1F then .ok (.short ⟨b₁, b₂⟩) else .error (.badTerminator 0x1F b₃) := by
  rw [← ite_not]
  rfl

/-- Verification of a report, in terms of its bytes. -/
theorem judge_long (b₀ b₁ b₂ b₃ b₄ b₅ b₆ b₇ b₈ b₉ : UInt8) :
    judge .long (#v[b₀, b₁, b₂, b₃, b₄, b₅, b₆, b₇, b₈, b₉] : Vector UInt8 longSize)
      = if b₉ ≠ 0xFB then .error (.badTerminator 0xFB b₉)
        else
          let computed := checksum [b₀, b₁, b₂, b₃, b₄, b₅, b₆, b₇, b₉]
          if computed = b₈ then .ok (.long ⟨b₁, b₂, b₃, #v[b₄, b₅, b₆, b₇]⟩)
          else .error (.checksumMismatch computed b₈) := by
  have others := checksum_sub_slot [b₀, b₁, b₂, b₃, b₄, b₅, b₆, b₇] [b₉] b₈
  simp only [List.cons_append, List.nil_append] at others
  rw [← others, ← ite_not (_ = _)]
  rfl

/-- **Verification** looks at the candidate only, and its answer is what the bytes deserve. -/
theorem judge_judged (shape : FrameShape) (buffer : Vector UInt8 longSize)
    (lead : (buffer.toList.take shape.length).head? = some shape.leadByte) :
    Judged (buffer.toList.take shape.length) (judge shape buffer) := by
  obtain ⟨b₀, b₁, b₂, b₃, b₄, b₅, b₆, b₇, b₈, b₉, rfl⟩ := exists_bytes buffer
  cases shape with
  | short =>
    obtain rfl : b₀ = 0x1C := Option.some.inj lead
    show Judged [0x1C, b₁, b₂, b₃] _
    rw [judge_short]
    split
    · rename_i right
      subst right
      exact .verified (.short ⟨b₁, b₂⟩) rfl
    · rename_i wrong
      have candidate : Candidate .short [0x1C, b₁, b₂, b₃] := ⟨rfl, rfl⟩
      exact .refused _ (.tail candidate rfl wrong)
  | long =>
    obtain rfl : b₀ = 0xFA := Option.some.inj lead
    show Judged [0xFA, b₁, b₂, b₃, b₄, b₅, b₆, b₇, b₈, b₉] _
    have candidate : Candidate .long [0xFA, b₁, b₂, b₃, b₄, b₅, b₆, b₇, b₈, b₉] := ⟨rfl, rfl⟩
    have computes := checksum_toNat [0xFA, b₁, b₂, b₃, b₄, b₅, b₆, b₇, b₉]
    rw [judge_long]
    generalize same : checksum [0xFA, b₁, b₂, b₃, b₄, b₅, b₆, b₇, b₉] = computed at computes ⊢
    split
    · rename_i wrong
      exact .refused _ (.tail candidate rfl wrong)
    · rename_i right
      obtain rfl : b₉ = 0xFB := Decidable.not_not.mp right
      dsimp only
      split
      · rename_i agree
        refine .verified _ ?_
        show [0xFA, b₁, b₂, b₃, b₄, b₅, b₆, b₇, checksum [0xFA, b₁, b₂, b₃, b₄, b₅, b₆, b₇, 0xFB],
          0xFB] = _
        rw [same, agree]
      · rename_i wrong
        exact .refused _ (.sum candidate rfl rfl computes wrong)

/-! ## One byte -/

/-- Nothing is collected between frames; inside one, its lead byte and fewer bytes than it has. -/
def Sound (d : Decoder) : Prop :=
  match d.state with
  | .lead => d.filled = 0
  | .restOf shape => d.filled < shape.length ∧ d.collected.head? = some shape.leadByte

theorem sound_fresh : fresh.Sound := rfl

/-- What one byte does to a recogniser, by what it has collected. -/
inductive Step (d : Decoder) (b : UInt8) : Verdict → Decoder → Prop where
  | started (shape : FrameShape) (next : Decoder) (idle : d.state = .lead)
      (lead : b = shape.leadByte) (waits : next.state = .restOf shape) (one : next.filled = 1)
      (holds : next.collected = [b]) : Step d b .incomplete next
  | strayed (idle : d.state = .lead) (short : b ≠ 0x1C) (long : b ≠ 0xFA) :
      Step d b (.invalid (.unexpectedLeadByte b) [b]) d
  | grew (shape : FrameShape) (next : Decoder) (inside : d.state = .restOf shape)
      (room : d.filled + 1 < shape.length) (waits : next.state = .restOf shape)
      (more : next.filled = d.filled + 1) (holds : next.collected = d.collected ++ [b]) :
      Step d b .incomplete next
  | accepted (shape : FrameShape) (frame : Frame) (next : Decoder)
      (inside : d.state = .restOf shape) (full : d.filled + 1 = shape.length)
      (same : frame.bytes = d.collected ++ [b]) (idle : next.state = .lead)
      (empty : next.filled = 0) : Step d b (.valid frame) next
  | dropped (shape : FrameShape) (reason : FrameFault) (next : Decoder)
      (inside : d.state = .restOf shape) (full : d.filled + 1 = shape.length)
      (why : Rejected reason (d.collected ++ [b])) (idle : next.state = .lead)
      (empty : next.filled = 0) : Step d b (.invalid reason (d.collected ++ [b])) next

theorem collected_nil {d : Decoder} (empty : d.filled = 0) : d.collected = [] := by
  rw [collected, empty, List.take_zero]

theorem collected_length {d : Decoder} (fits : d.filled ≤ longSize) :
    d.collected.length = d.filled := by
  rw [collected, List.length_take, Vector.length_toList]
  omega

/-- Writing behind the bytes in use appends to them, whatever stood there. -/
theorem take_setIfInBounds (buffer : Vector UInt8 longSize) (b : UInt8) {n : Nat}
    (fits : n < longSize) :
    (buffer.setIfInBounds n b).toList.take (n + 1) = buffer.toList.take n ++ [b] := by
  have size : n < buffer.toList.length := by rw [Vector.length_toList]; exact fits
  rw [Vector.toList_setIfInBounds, List.take_add_one, List.take_set_of_le (Nat.le_refl n),
    List.getElem?_set_self size]
  rfl

/-- **The step lemma**: a sound recogniser takes a byte in one of five ways. -/
theorem step_push {d : Decoder} (sound : d.Sound) (b : UInt8) :
    d.Step b (d.push b).1 (d.push b).2 := by
  cases state : d.state with
  | lead =>
    cases found : FrameShape.ofLeadByte? b with
    | some shape =>
      have pushed : d.push b = (.incomplete,
          { state := .restOf shape, buffer := d.buffer.setIfInBounds 0 b, filled := 1 }) := by
        simp only [push, state, found]
      rw [pushed]
      refine .started shape _ state (FrameShape.ofLeadByte?_eq_some_iff.mp found) rfl rfl ?_
      exact take_setIfInBounds d.buffer b (by decide)
    | none =>
      have pushed : d.push b = (.invalid (.unexpectedLeadByte b) [b], d) := by
        simp only [push, state, found]
      have other (shape : FrameShape) : b ≠ shape.leadByte := by
        rw [Ne, ← FrameShape.ofLeadByte?_eq_some_iff, found]
        simp
      rw [pushed]
      exact .strayed state (other .short) (other .long)
  | restOf shape =>
    obtain ⟨room, lead⟩ : d.filled < shape.length ∧ d.collected.head? = some shape.leadByte := by
      simpa only [Sound, state] using sound
    have fits : d.filled < longSize := Nat.lt_of_lt_of_le room shape.length_le
    let grown : Decoder :=
      { state := .restOf shape
        buffer := d.buffer.setIfInBounds d.filled b
        filled := d.filled + 1 }
    have holds : grown.collected = d.collected ++ [b] := take_setIfInBounds d.buffer b fits
    by_cases more : d.filled + 1 < shape.length
    · have pushed : d.push b = (.incomplete, grown) := by
        simp only [push, state]
        exact if_pos more
      rw [pushed]
      exact .grew shape grown state more rfl rfl holds
    · have full : d.filled + 1 = shape.length := by omega
      have whole : grown.buffer.toList.take shape.length = d.collected ++ [b] := by
        rw [← full]
        exact holds
      have judged := judge_judged shape grown.buffer (by
        rw [whole, List.head?_append, lead]
        rfl)
      rw [whole] at judged
      cases answer : judge shape grown.buffer with
      | ok frame =>
        have pushed : d.push b = (.valid frame, grown.reset) := by
          simp only [push, state]
          rw [if_neg more, answer]
        rw [answer] at judged
        cases judged with
        | verified _ same =>
          rw [pushed]
          exact .accepted shape frame _ state full same rfl rfl
      | error reason =>
        have pushed : d.push b = (.invalid reason (d.collected ++ [b]), grown.reset) := by
          simp only [push, state]
          rw [if_neg more, answer, ← holds]
        rw [answer] at judged
        cases judged with
        | refused _ why =>
          rw [pushed]
          exact .dropped shape reason _ state full why rfl rfl

theorem Step.sound {d next : Decoder} {b : UInt8} {outcome : Verdict}
    (step : d.Step b outcome next) (sound : d.Sound) : next.Sound := by
  cases step with
  | started shape _ _ lead waits one holds =>
    rw [Sound, waits]
    refine ⟨?_, by rw [holds, lead]; rfl⟩
    rw [one]
    cases shape <;> decide
  | strayed => exact sound
  | grew shape _ inside room waits more holds =>
    have lead : d.collected.head? = some shape.leadByte := by
      rw [Sound, inside] at sound
      exact sound.2
    rw [Sound, waits]
    refine ⟨by omega, ?_⟩
    rw [holds, List.head?_append, lead]
    rfl
  | accepted _ _ _ _ _ _ idle empty => rw [Sound, idle]; exact empty
  | dropped _ _ _ _ _ _ idle empty => rw [Sound, idle]; exact empty

/-- A byte leaves a sound recogniser sound. -/
theorem Sound.push {d : Decoder} (sound : d.Sound) (b : UInt8) : (d.push b).2.Sound :=
  (step_push sound b).sound sound

/-! ## Pieces -/

end Decoder

/-- The bytes a verdict disposes of. -/
def Verdict.piece : Verdict → List UInt8
  | incomplete => []
  | valid frame => frame.bytes
  | invalid _ bytes => bytes

/-- What a verdict says of its piece. -/
def Verdict.Deserved : Verdict → Prop
  | incomplete => True
  | valid frame => WellFormed frame.bytes
  | invalid reason bytes => Rejected reason bytes

namespace Decoder

theorem Step.piece {d next : Decoder} {b : UInt8} {outcome : Verdict}
    (step : d.Step b outcome next) (sound : d.Sound) :
    outcome.piece ++ next.collected = d.collected ++ [b] := by
  cases step with
  | started shape _ idle _ _ _ holds =>
    rw [Sound, idle] at sound
    rw [holds, collected_nil sound]
    rfl
  | strayed idle =>
    rw [Sound, idle] at sound
    rw [collected_nil sound]
    rfl
  | grew _ _ _ _ _ _ holds => exact holds
  | accepted _ _ _ _ _ same _ empty =>
    rw [collected_nil empty, List.append_nil]
    exact same
  | dropped _ _ _ _ _ _ _ empty =>
    rw [collected_nil empty, List.append_nil]
    rfl

theorem Step.deserved {d next : Decoder} {b : UInt8} {outcome : Verdict}
    (step : d.Step b outcome next) : outcome.Deserved := by
  cases step with
  | started => trivial
  | strayed _ short long => exact .stray b short long
  | grew => trivial
  | accepted _ frame => exact frame.bytes_wellFormed
  | dropped _ _ _ _ _ why => exact why

/-! ## Runs -/

theorem run_nil (d : Decoder) : d.run [] = ([], d) := rfl

theorem run_cons (d : Decoder) (b : UInt8) (rest : List UInt8) :
    d.run (b :: rest)
      = ((d.push b).1 :: ((d.push b).2.run rest).1, ((d.push b).2.run rest).2) := rfl

/-- A run over two stretches of bytes is the run over the second from where the first ended. -/
theorem run_append (d : Decoder) (front back : List UInt8) :
    d.run (front ++ back)
      = ((d.run front).1 ++ ((d.run front).2.run back).1, ((d.run front).2.run back).2) := by
  induction front generalizing d with
  | nil => rfl
  | cons b rest ih => rw [List.cons_append, run_cons, ih, run_cons, List.cons_append]

theorem Sound.run {d : Decoder} (sound : d.Sound) (input : List UInt8) : (d.run input).2.Sound := by
  induction input generalizing d with
  | nil => exact sound
  | cons b rest ih => exact ih (sound.push b)

/-- **No byte is lost, repeated or moved**: the pieces of a run, and the candidate it leaves, are
the candidate it began with and the bytes it took. -/
theorem pieces_run {d : Decoder} (sound : d.Sound) (input : List UInt8) :
    (d.run input).1.flatMap Verdict.piece ++ (d.run input).2.collected
      = d.collected ++ input := by
  induction input generalizing d with
  | nil => rw [run_nil, List.flatMap_nil, List.nil_append, List.append_nil]
  | cons b rest ih =>
    have step := (step_push sound b).piece sound
    rw [run_cons, List.flatMap_cons, List.append_assoc, ih (sound.push b), ← List.append_assoc,
      step, List.append_assoc]
    rfl

/-- Every verdict of a run is deserved by the piece it disposes of. -/
theorem deserved_run {d : Decoder} (sound : d.Sound) (input : List UInt8) :
    ∀ outcome ∈ (d.run input).1, outcome.Deserved := by
  induction input generalizing d with
  | nil =>
    intro outcome mem
    cases mem
  | cons b rest ih =>
    intro outcome mem
    rw [run_cons] at mem
    cases mem with
    | head => exact (step_push sound b).deserved
    | tail _ mem => exact ih (sound.push b) outcome mem

/-- What is collected says what a sound recogniser waits for. -/
theorem Sound.collected_eq_nil_iff {d : Decoder} (sound : d.Sound) :
    d.collected = [] ↔ d.state = .lead := by
  cases state : d.state with
  | lead =>
    rw [Sound, state] at sound
    exact iff_of_true (collected_nil sound) rfl
  | restOf shape =>
    rw [Sound, state] at sound
    refine iff_of_false (fun empty => ?_) Expectation.noConfusion
    rw [empty] at sound
    cases sound.2

/-- Inside a frame, its lead byte is collected, and less than the frame. -/
theorem Sound.collected_of_restOf {d : Decoder} (sound : d.Sound) {shape : FrameShape}
    (inside : d.state = .restOf shape) :
    d.collected.head? = some shape.leadByte ∧ d.collected.length < shape.length := by
  rw [Sound, inside] at sound
  refine ⟨sound.2, ?_⟩
  rw [collected_length (Nat.le_of_lt (Nat.lt_of_lt_of_le sound.1 shape.length_le))]
  exact sound.1

/-- How a recogniser between frames has cut up the bytes of an input. -/
structure Partition (input : List UInt8) (outcomes : List Verdict) (last : Decoder) : Prop where
  /-- In the order of the verdicts, with the unfinished candidate at the end, the pieces are the
  input. -/
  whole : outcomes.flatMap Verdict.piece ++ last.collected = input
  accepted : ∀ frame, .valid frame ∈ outcomes → WellFormed frame.bytes
  refused : ∀ reason bytes, .invalid reason bytes ∈ outcomes → Rejected reason bytes
  idle : last.collected = [] ↔ last.state = .lead
  /-- The unfinished candidate begins as a frame that is longer than it. -/
  unfinished : ∀ shape, last.state = .restOf shape →
    last.collected.head? = some shape.leadByte ∧ last.collected.length < shape.length

/-- **A fresh recogniser cuts every byte sequence into frames and rejected candidates**: accepted
pieces are well-formed frames, refused pieces deserve the reason given, and what remains is the
beginning of a frame, or nothing. -/
theorem run_fresh_partition (input : List UInt8) :
    Partition input (fresh.run input).1 (fresh.run input).2 where
  whole := pieces_run sound_fresh input
  accepted _ mem := deserved_run sound_fresh input _ mem
  refused _ _ mem := deserved_run sound_fresh input _ mem
  idle := (sound_fresh.run input).collected_eq_nil_iff
  unfinished _ inside := (sound_fresh.run input).collected_of_restOf inside

end Decoder

end BrailleDisplay
