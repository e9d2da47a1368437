import BrailleDisplay.Proofs.Frame.HostDamage
import BrailleDisplay.Proofs.Frame.Resynchronisation

/-!
# Reports that do not arrive as they were sent

A report with one byte changed, its lead byte apart, is still a complete candidate; so a recogniser
collects all of it, and what its last byte leads to is a rejection that names what is wrong.

* `Verdict.Final` — what may be told of the bytes of a complete candidate;
* `Decoder.run_completing`, `Decoder.run_candidate` — the last byte of a candidate settles it, and
  the bytes before lead to nothing;
* `LongFrame.not_differOnce` — no two reports differ in one byte alone;
* `Decoder.Refuses`, `Decoder.run_damaged` — a report with one byte changed is refused as a whole,
  by its end marker if that is the byte, else by its checksum.
-/

namespace BrailleDisplay

/-! ## Candidates from their first byte to their last -/

/-- What may be told of a complete candidate: that it is a frame, or why it is none. -/
inductive Verdict.Final (bytes : List UInt8) : Verdict → Prop where
  | valid (frame : Frame) (same : frame.bytes = bytes) : Final bytes (.valid frame)
  | invalid (reason : FrameFault) (why : Rejected reason bytes) :
      Final bytes (.invalid reason bytes)

namespace Decoder

/-- **The last byte of a candidate settles it.**  The bytes before it lead to nothing, and after it
the recogniser is between frames. -/
theorem run_completing {d : Decoder} (sound : d.Sound) {shape : FrameShape} {input : List UInt8}
    (completes : Candidate shape (d.collected ++ input)) :
    ∃ outcome, Verdict.Final (d.collected ++ input) outcome
      ∧ (d.run input).1 = List.replicate (input.length - 1) .incomplete ++ [outcome]
      ∧ (d.run input).2.state = .lead := by
  induction input generalizing d with
  | nil =>
    rw [List.append_nil] at completes
    exact absurd completes (sound.not_candidate shape)
  | cons b rest ih =>
    rw [List.append_cons] at completes ⊢
    rw [run_cons, List.length_cons, Nat.add_sub_cancel]
    have step := step_push sound b
    have sound' := sound.push b
    generalize (d.push b).1 = outcome at step ⊢
    generalize (d.push b).2 = next at step sound' ⊢
    -- a byte that only makes the candidate grow is not the last one
    have growing (holds : next.collected = d.collected ++ [b]) :
        ∃ last, Verdict.Final (d.collected ++ [b] ++ rest) last
          ∧ .incomplete :: (next.run rest).1 = List.replicate rest.length .incomplete ++ [last]
          ∧ (next.run rest).2.state = .lead := by
      rw [← holds] at completes ⊢
      obtain ⟨last, final, told, idle⟩ := ih sound' completes
      refine ⟨last, final, ?_, idle⟩
      cases rest with
      | nil =>
        rw [List.append_nil] at completes
        exact absurd completes (sound'.not_candidate shape)
      | cons _ _ =>
        rw [told]
        rfl
    cases step with
    | started _ _ idle _ _ _ holds =>
      refine growing ?_
      rw [holds, sound.collected_eq_nil_iff.mpr idle]
      rfl
    | strayed idle short long =>
      rw [sound.collected_eq_nil_iff.mpr idle] at completes
      have lead : b = shape.leadByte := Option.some.inj completes.lead
      cases shape with
      | short => exact absurd lead short
      | long => exact absurd lead long
    | grew _ _ _ _ _ _ holds => exact growing holds
    | accepted _ frame _ _ _ same idle =>
      obtain rfl : rest = [] := (same ▸ frame.candidate).append_eq_nil completes
      rw [List.append_nil]
      exact ⟨_, .valid frame same, rfl, idle⟩
    | dropped _ reason _ inside full why idle =>
      obtain rfl : rest = [] := (sound.candidate_concat inside full b).append_eq_nil completes
      rw [List.append_nil]
      exact ⟨_, .invalid reason why, rfl, idle⟩

/-- Between frames it does not matter to a candidate what the buffer held before. -/
theorem run_reset {d : Decoder} (idle : d.state = .lead) {shape : FrameShape} {bytes : List UInt8}
    (candidate : Candidate shape bytes) : d.run bytes = d.reset.run bytes := by
  cases bytes with
  | nil => cases candidate.lead
  | cons b rest =>
    have lead := FrameShape.ofLeadByte?_eq_some_iff.mpr (Option.some.inj candidate.lead)
    have same : d.push b = d.reset.push b := by simp [push, reset, idle, lead]
    rw [run_cons, run_cons, same]

/-- **A candidate from its first byte to its last**, taken by a recogniser between frames. -/
theorem run_candidate {d : Decoder} (idle : d.state = .lead) {shape : FrameShape}
    {bytes : List UInt8} (candidate : Candidate shape bytes) :
    ∃ outcome, Verdict.Final bytes outcome
      ∧ (d.run bytes).1 = List.replicate (shape.length - 1) .incomplete ++ [outcome]
      ∧ (d.run bytes).2.state = .lead ∧ (d.run bytes).2.collected = [] := by
  have sound : d.reset.Sound := rfl
  have completes : Candidate shape (d.reset.collected ++ bytes) := candidate
  obtain ⟨outcome, final, told, between⟩ := run_completing sound completes
  rw [candidate.size] at told
  rw [run_reset idle candidate]
  exact ⟨outcome, final, told, between, (sound.run bytes).collected_eq_nil_iff.mpr between⟩

end Decoder

/-! ## One byte changed -/

/-- A candidate for a report is refused for its end marker, or else for its checksum. -/
theorem Rejected.of_long {bytes : List UInt8} {reason : FrameFault} (why : Rejected reason bytes)
    (candidate : Candidate .long bytes) :
    (∃ last, bytes.getLast? = some last ∧ last ≠ 0xFB ∧ reason = .badTerminator 0xFB last)
      ∨ bytes.getLast? = some 0xFB ∧ ∃ computed carried, computed ≠ carried
        ∧ reason = .checksumMismatch computed carried := by
  cases why with
  | stray => cases candidate.size
  | @tail shape _ last whole ends wrong =>
    obtain rfl : shape = .long :=
      FrameShape.leadByte_injective (Option.some.inj (whole.lead.symm.trans candidate.lead))
    exact .inl ⟨last, ends, wrong, rfl⟩
  | @sum _ computed carried _ ends _ _ wrong => exact .inr ⟨ends, computed, carried, wrong, rfl⟩

namespace LongFrame

/-- Two reports differ in more than one byte. -/
theorem not_differOnce (f g : LongFrame) : ¬DifferOnce f.bytes g.bytes :=
  @DifferOnce.not_sealed f.body g.body [Marker.longTail]

section

variable (f : LongFrame) {place : Nat} {b : UInt8}

theorem length_bytes : f.bytes.length = 10 :=
  (Frame.long f).candidate.size

/-- Behind its lead byte a report may be changed and is a candidate for a report still. -/
theorem candidate_set (behind : 1 ≤ place) : Candidate .long (f.bytes.set place b) := by
  have whole := (Frame.long f).candidate
  refine ⟨by rw [List.length_set]; exact whole.size, ?_⟩
  rw [List.head?_eq_getElem?, List.getElem?_set_ne (by omega), ← List.head?_eq_getElem?]
  exact whole.lead

/-- Behind its lead byte a report may not be changed and be a frame still. -/
theorem bytes_ne_set (behind : 1 ≤ place) (within : place ≤ 9)
    (differs : f.bytes[place]? ≠ some b) (frame : Frame) : frame.bytes ≠ f.bytes.set place b := by
  intro same
  have lead := (f.candidate_set (b := b) behind).lead
  rw [← same] at lead
  cases frame with
  | short g => exact absurd (Option.some.inj lead) (by decide)
  | long g =>
    have once := DifferOnce.of_set (by have := f.length_bytes; omega) differs
    rw [← same] at once
    exact f.not_differOnce g once

/-- A report ends with its end marker. -/
theorem getElem?_nine : f.bytes[9]? = some 0xFB := by
  have ends : f.bytes.getLast? = some 0xFB := by simp [bytes, Marker.longTail]
  rw [List.getLast?_eq_getElem?, f.length_bytes] at ends
  exact ends

theorem getLast?_set (place : Nat) (b : UInt8) :
    (f.bytes.set place b).getLast? = some (if place = 9 then b else 0xFB) := by
  have inside : 9 < f.bytes.length := by rw [f.length_bytes]; decide
  rw [List.getLast?_eq_getElem?, List.length_set, f.length_bytes]
  by_cases ending : place = 9
  · subst ending
    rw [if_pos rfl]
    exact List.getElem?_set_self inside
  · rw [if_neg ending, List.getElem?_set_ne ending]
    exact f.getElem?_nine

end

end LongFrame

namespace Decoder

/-- A recogniser collects as many bytes as a report has, refuses them as a whole with the last one,
and is between frames then. -/
structure Refuses (d : Decoder) (bytes : List UInt8) (reason : FrameFault) : Prop where
  verdicts : (d.run bytes).1 = List.replicate 9 .incomplete ++ [.invalid reason bytes]
  idle : (d.run bytes).2.state = .lead
  empty : (d.run bytes).2.collected = []

/-- **A report with one byte changed is refused.**  Whatever a recogniser between frames held
before, whatever the report, and whatever byte behind the first is another, it refuses the ten bytes
as a whole when the last of them comes: by their end marker if that is the byte changed, and else
because the checksum they carry, be it the byte changed or not, is not the sum of the others. -/
theorem run_damaged (d : Decoder) (idle : d.state = .lead) (f : LongFrame) (place : Nat) (b : UInt8)
    (behind : 1 ≤ place) (within : place ≤ 9) (differs : f.bytes[place]? ≠ some b) :
    ∃ reason, d.Refuses (f.bytes.set place b) reason
      ∧ Rejected reason (f.bytes.set place b)
      ∧ (place = 9 → reason = .badTerminator 0xFB b)
      ∧ (place ≠ 9 → ∃ computed carried, computed ≠ carried
          ∧ reason = .checksumMismatch computed carried) := by
  have candidate := f.candidate_set (b := b) behind
  obtain ⟨outcome, final, told, between, empty⟩ := run_candidate idle candidate
  cases final with
  | valid frame same => exact absurd same (f.bytes_ne_set behind within differs frame)
  | invalid reason why =>
    refine ⟨reason, ⟨told, between, empty⟩, why, ?_⟩
    have ends := f.getLast?_set place b
    rcases why.of_long candidate with ⟨last, holds, wrong, rfl⟩ | ⟨holds, mismatch⟩
    · -- an end marker that is wrong is the byte changed
      rw [holds, Option.some.injEq] at ends
      by_cases ending : place = 9
      · rw [if_pos ending] at ends
        exact ⟨fun _ => by rw [ends], fun other => absurd ending other⟩
      · rw [if_neg ending] at ends
        exact absurd ends wrong
    · -- one that is right is not
      refine ⟨fun ending => ?_, fun _ => mismatch⟩
      subst ending
      rw [holds, if_pos rfl] at ends
      exact absurd (f.getElem?_nine.trans ends) differs

/-- A report full of lead bytes and end markers, its checksum changed to the sum of the bytes before
it, without the end marker; and a recogniser with bytes of a dropped report in its buffer. -/
theorem run_damaged_checksum :
    let d := after [.push 0xFA, .push 0x1C, .push 0x1F, .reset]
    let f : LongFrame := ⟨0x01, 0x1C, 0xFA, #v[0xFB, 0x1F, 0xFA, 0x1C]⟩
    d.state = .lead ∧ 1 ≤ 8 ∧ 8 ≤ 9 ∧ f.bytes[8]? ≠ some 0x41
      ∧ ∃ reason, d.Refuses (f.bytes.set 8 0x41) reason
        ∧ Rejected reason (f.bytes.set 8 0x41)
        ∧ (8 = 9 → reason = .badTerminator 0xFB 0x41)
        ∧ (8 ≠ 9 → ∃ computed carried, computed ≠ carried
            ∧ reason = .checksumMismatch computed carried) := by
  intro d f
  have differs : f.bytes[8]? ≠ some 0x41 := by decide
  have refused := run_damaged d rfl f 8 0x41 (by decide) (by decide) differs
  exact ⟨rfl, by decide, by decide, differs, refused⟩

end Decoder

end BrailleDisplay
