import BrailleDisplay.Proofs.Frame.FrameStream

/-!
# How a recogniser finds its way back

A candidate that is dropped takes the bytes behind it along until it is as long as it announced to
be, and no further.  So a recogniser is between frames again as soon as nine bytes have come that
start no frame, whatever it held before; and between frames such bytes do not hide a frame.

* `Decoder.Move`, `Decoder.after` — the recognisers that pushes and resets lead to;
* `Noise`, `Interspersed` — bytes that start no frame, and frames with such bytes around them;
* `Decoder.lacking` — how many bytes the unfinished candidate lacks: the measure that every byte of
  noise lowers (`Decoder.lacking_push`);
* **the run theorems** (`Decoder.lacking_run`, `Decoder.run_interspersed`): noise lowers it by its
  length, and frames among noise are recognised from a recogniser between frames;
* `Decoder.after_resynchronises` — both, for every recogniser that pushes and resets lead to.
-/

namespace BrailleDisplay

/-! ## Recognisers in use -/

namespace Decoder

/-- What may be done to a recogniser. -/
inductive Move where
  /-- It takes a byte. -/
  | push (b : UInt8)
  /-- It drops its candidate. -/
  | reset
  deriving DecidableEq, Repr

/-- The recogniser after one of them. -/
def move (d : Decoder) : Move → Decoder
  | .push b => (d.push b).2
  | .reset => d.reset

/-- A fresh recogniser after some moves. -/
def after (moves : List Move) : Decoder :=
  moves.foldl move fresh

theorem sound_reset (d : Decoder) : d.reset.Sound := rfl

theorem Sound.move {d : Decoder} (sound : d.Sound) (m : Move) : (d.move m).Sound := by
  cases m with
  | push b => exact sound.push b
  | reset => exact sound_reset d

theorem Sound.moves {d : Decoder} (sound : d.Sound) (moves : List Move) :
    (moves.foldl Decoder.move d).Sound := by
  induction moves generalizing d with
  | nil => exact sound
  | cons m rest ih => exact ih (sound.move m)

theorem sound_after (moves : List Move) : (after moves).Sound :=
  sound_fresh.moves moves

end Decoder

/-! ## Noise -/

/-- None of the bytes starts a frame. -/
def Noise (bytes : List UInt8) : Prop :=
  ∀ b ∈ bytes, b ≠ 0x1C ∧ b ≠ 0xFA

instance (bytes : List UInt8) : Decidable (Noise bytes) :=
  List.decidableBAll (fun b => b ≠ 0x1C ∧ b ≠ 0xFA) bytes

theorem noise_cons {b : UInt8} {rest : List UInt8} :
    Noise (b :: rest) ↔ (b ≠ 0x1C ∧ b ≠ 0xFA) ∧ Noise rest :=
  List.forall_mem_cons

/-- The bytes of frames one after the other, with noise before, between and after them. -/
inductive Interspersed : List Frame → List UInt8 → Prop
  | last {noise : List UInt8} (silent : Noise noise) : Interspersed [] noise
  | next {frames : List Frame} {noise rest : List UInt8} (silent : Noise noise) (frame : Frame)
      (later : Interspersed frames rest) :
      Interspersed (frame :: frames) (noise ++ frame.bytes ++ rest)

namespace Decoder

/-- Between frames, a byte that starts none leaves a recogniser as it is. -/
theorem push_stray {d : Decoder} (idle : d.state = .lead) {b : UInt8}
    (stray : b ≠ 0x1C ∧ b ≠ 0xFA) : d.push b = (.invalid (.unexpectedLeadByte b) [b], d) := by
  have none : FrameShape.ofLeadByte? b = none := by
    simp [FrameShape.ofLeadByte?, Marker.shortLead, Marker.longLead, stray]
  simp only [push, idle, none]

/-- Between frames, noise leaves a recogniser as it is, and completes nothing. -/
theorem run_noise {d : Decoder} (idle : d.state = .lead) {noise : List UInt8}
    (silent : Noise noise) : d.frames noise = [] ∧ (d.run noise).2 = d := by
  induction noise with
  | nil => exact ⟨rfl, rfl⟩
  | cons b rest ih =>
    obtain ⟨stray, silent⟩ := noise_cons.mp silent
    rw [frames_cons, run_cons, push_stray idle stray]
    exact ih silent

/-! ## Back between frames -/

/-- How many bytes the unfinished candidate lacks. -/
def lacking (d : Decoder) : Nat :=
  match d.state with
  | .lead => 0
  | .restOf shape => shape.length - d.filled

theorem lacking_lead {d : Decoder} (idle : d.state = .lead) : d.lacking = 0 := by
  simp [lacking, idle]

theorem lacking_restOf {d : Decoder} {shape : FrameShape} (inside : d.state = .restOf shape) :
    d.lacking = shape.length - d.filled := by
  simp [lacking, inside]

/-- A candidate has its lead byte, so it lacks nine bytes at most. -/
theorem Sound.lacking_le {d : Decoder} (sound : d.Sound) : d.lacking ≤ 9 := by
  cases state : d.state with
  | lead => simp [lacking_lead state]
  | restOf shape =>
    rw [Sound, state] at sound
    have started : d.filled ≠ 0 := by
      intro empty
      have lead := sound.2
      rw [collected_nil empty] at lead
      cases lead
    have longest := shape.length_le
    rw [lacking_restOf state]
    simp only [longSize] at longest
    omega

theorem Sound.lacking_eq_zero_iff {d : Decoder} (sound : d.Sound) :
    d.lacking = 0 ↔ d.state = .lead := by
  cases state : d.state with
  | lead => simp [lacking_lead state]
  | restOf shape =>
    rw [Sound, state] at sound
    rw [lacking_restOf state]
    refine iff_of_false (fun complete => ?_) Expectation.noConfusion
    have room := sound.1
    omega

/-- A byte of noise is one byte less that the candidate lacks. -/
theorem lacking_push {d : Decoder} (sound : d.Sound) {b : UInt8} (stray : b ≠ 0x1C ∧ b ≠ 0xFA) :
    (d.push b).2.lacking = d.lacking - 1 := by
  have step := step_push sound b
  generalize (d.push b).1 = outcome at step
  generalize (d.push b).2 = next at step ⊢
  cases step with
  | started shape _ _ lead =>
    cases shape with
    | short => exact absurd lead stray.1
    | long => exact absurd lead stray.2
  | strayed idle => simp [lacking_lead idle]
  | grew shape _ inside _ waits more =>
    rw [lacking_restOf waits, lacking_restOf inside, more]
    omega
  | accepted shape _ _ inside full _ idle =>
    rw [lacking_lead idle, lacking_restOf inside]
    omega
  | dropped shape _ _ inside full _ idle =>
    rw [lacking_lead idle, lacking_restOf inside]
    omega

/-- **Noise lowers what is lacking by its length.** -/
theorem lacking_run {d : Decoder} (sound : d.Sound) {noise : List UInt8} (silent : Noise noise) :
    (d.run noise).2.lacking = d.lacking - noise.length := by
  induction noise generalizing d with
  | nil => rfl
  | cons b rest ih =>
    obtain ⟨stray, silent⟩ := noise_cons.mp silent
    rw [run_cons, ih (sound.push b) silent, lacking_push sound stray, List.length_cons]
    omega

/-! ## Frames among noise -/

/-- The bytes of a frame leave a recogniser that was between frames there. -/
theorem run_frame {d : Decoder} (sound : d.Sound) (idle : d.state = .lead) (frame : Frame) :
    d.frames frame.bytes = [frame] ∧ (d.run frame.bytes).2.state = .lead := by
  have empty := sound.collected_eq_nil_iff.mpr idle
  have completes : d.collected ++ frame.bytes = frame.bytes := by simp [empty]
  have passed := frames_completing sound completes
  refine ⟨passed, (sound.run _).collected_eq_nil_iff.mp ?_⟩
  -- the frame is one of the pieces, so there is nothing left to be collected
  have part := length_le_pieces (by rw [passed]; exact List.mem_cons_self)
  have pieces := congrArg List.length (pieces_run sound frame.bytes)
  simp only [List.length_append, empty, List.length_nil] at pieces
  exact List.eq_nil_of_length_eq_zero (by omega)

/-- **Frames among noise are recognised**, all of them and no others. -/
theorem run_interspersed {d : Decoder} (sound : d.Sound) (idle : d.state = .lead)
    {frames : List Frame} {bytes : List UInt8} (sent : Interspersed frames bytes) :
    d.frames bytes = frames ∧ (d.run bytes).2.state = .lead := by
  induction sent generalizing d with
  | last silent =>
    obtain ⟨none, same⟩ := run_noise idle silent
    exact ⟨none, same.symm ▸ idle⟩
  | @next frames noise rest silent frame _ ih =>
    obtain ⟨none, same⟩ := run_noise idle silent
    obtain ⟨passed, idle'⟩ := run_frame sound idle frame
    obtain ⟨others, last⟩ := ih (sound.run frame.bytes) idle'
    rw [List.append_assoc, frames_append, run_append, none, same, frames_append, run_append,
      passed]
    exact ⟨congrArg (frame :: ·) others, last⟩

/-- **A recogniser finds its way back.**  Whatever has been pushed and reset, nine or more bytes
that start no frame leave it between frames; and if it is between frames, then frames of any
content, with any such bytes before, between and after them, are what it passes on, and it is
between frames again. -/
theorem after_resynchronises (moves : List Move) :
    (∀ noise, Noise noise → 9 ≤ noise.length → ((after moves).run noise).2.state = .lead)
      ∧ ((after moves).state = .lead → ∀ frames bytes, Interspersed frames bytes →
          (after moves).frames bytes = frames ∧ ((after moves).run bytes).2.state = .lead) := by
  have sound := sound_after moves
  constructor
  · intro noise silent long
    rw [← (sound.run noise).lacking_eq_zero_iff, lacking_run sound silent]
    have few := sound.lacking_le
    omega
  · intro idle frames bytes sent
    exact run_interspersed sound idle sent

/-- In the middle of a report, nine bytes that end frames but start none; and, after the report has
been dropped, frames whose content is full of lead bytes and end markers. -/
theorem after_resynchronises_midReport :
    let noise := List.replicate 9 0x1F
    let report : Frame := .long ⟨0x7F, 0x1C, 0xFA, #v[0xFB, 0x1F, 0xFA, 0x1C]⟩
    let identity : Frame := .short ⟨0xFA, 0x1F⟩
    let bytes := [0x00, 0xFB] ++ report.bytes ++ ([] ++ identity.bytes ++ [0x1F])
    (Noise noise ∧ 9 ≤ noise.length
        ∧ ((after [.push 0xFA, .push 0x1C]).run noise).2.state = .lead)
      ∧ (after [.push 0xFA, .push 0x1C, .reset]).state = .lead
      ∧ Interspersed [report, identity] bytes
      ∧ (after [.push 0xFA, .push 0x1C, .reset]).frames bytes = [report, identity]
      ∧ ((after [.push 0xFA, .push 0x1C, .reset]).run bytes).2.state = .lead := by
  intro noise report identity bytes
  have silent : Noise noise := by decide
  have sent : Interspersed [report, identity] bytes :=
    .next (by decide) report (.next (by decide) identity (.last (by decide)))
  have back := (after_resynchronises [.push 0xFA, .push 0x1C]).1 noise silent (by decide)
  have passed := (after_resynchronises [.push 0xFA, .push 0x1C, .reset]).2 rfl _ bytes sent
  exact ⟨⟨silent, by decide, back⟩, rfl, sent, passed⟩

end Decoder

end BrailleDisplay
