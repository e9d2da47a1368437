import BrailleDisplay.Proofs.Frame.Recognition

/-!
# The frames in a byte stream

What a recogniser passes on is the frames among its verdicts.  This file says which bytes make it do
so: the ones that complete the candidate it holds to the bytes of a frame, and no fewer.

* `Decoder.frames` — the frames that a run over some bytes completes;
* `Frame.candidate`, `Frame.bytes_injective`, `WellFormed.not_rejected` — the bytes of a frame are a
  candidate, determine the frame, and are never refused;
* **the completion theorems** (`Decoder.frames_completing`, `Decoder.frames_unfinished`): bytes that
  complete the candidate yield its frame and nothing else, and any fewer of them yield nothing.
-/

namespace BrailleDisplay

/-! ## The bytes of frames -/

/-- The shape of a frame. -/
def Frame.shape : Frame → FrameShape
  | short _ => .short
  | long _ => .long

theorem FrameShape.leadByte_injective {shape other : FrameShape}
    (same : shape.leadByte = other.leadByte) : shape = other := by
  cases shape <;> cases other <;> first | rfl | exact absurd same (by decide)

/-- The bytes of a frame are a complete candidate. -/
theorem Frame.candidate (frame : Frame) : Candidate frame.shape frame.bytes := by
  cases frame with
  | short f => exact ⟨rfl, rfl⟩
  | long f =>
    refine ⟨?_, rfl⟩
    show (f.body ++ [f.check, Marker.longTail]).length = longSize
    rw [LongFrame.body, List.length_append, List.length_append, Vector.length_toList]
    rfl

/-- Frames with the same bytes are the same. -/
theorem Frame.bytes_injective {frame other : Frame} (same : frame.bytes = other.bytes) :
    frame = other := by
  cases frame with
  | short f =>
    cases other with
    | short g =>
      obtain ⟨a, b⟩ := f
      obtain ⟨c, d⟩ := g
      cases same
      rfl
    | long g => exact absurd (List.cons.inj same).1 (by decide)
  | long f =>
    cases other with
    | short g => exact absurd (List.cons.inj same).1 (by decide)
    | long g =>
      obtain ⟨t, c, d, r⟩ := f
      obtain ⟨t', c', d', r'⟩ := g
      have bodies := List.append_inj_left' same rfl
      obtain ⟨front, reserved⟩ := List.append_inj bodies rfl
      cases front
      obtain rfl : r = r' := Vector.toList_inj.mp reserved
      rfl

/-- A complete candidate goes on in no other. -/
theorem Candidate.append_eq_nil {shape other : FrameShape} {bytes more : List UInt8}
    (whole : Candidate shape bytes) (longer : Candidate other (bytes ++ more)) : more = [] := by
  have lead := longer.lead
  rw [List.head?_append, whole.lead] at lead
  obtain rfl := FrameShape.leadByte_injective (Option.some.inj lead)
  have sizes := longer.size
  rw [List.length_append, whole.size] at sizes
  exact List.eq_nil_of_length_eq_zero (by omega)

/-- Well-formed bytes deserve no rejection. -/
theorem WellFormed.not_rejected {bytes : List UInt8} (good : WellFormed bytes)
    (reason : FrameFault) : ¬ Rejected reason bytes := by
  intro bad
  cases good with
  | short x y =>
    cases bad with
    | @tail shape _ _ candidate ends wrong =>
      obtain rfl : shape = .short :=
        FrameShape.leadByte_injective (Option.some.inj candidate.lead).symm
      exact wrong (Option.some.inj ends).symm
    | sum candidate => exact absurd candidate.size (by simp [FrameShape.length, longSize])
  | long t c d r₀ r₁ r₂ r₃ ck total =>
    cases bad with
    | @tail shape _ _ candidate ends wrong =>
      obtain rfl : shape = .long :=
        FrameShape.leadByte_injective (Option.some.inj candidate.lead).symm
      exact wrong (Option.some.inj ends).symm
    | sum _ _ carries computes wrong =>
      obtain rfl := Option.some.inj carries
      exact wrong (UInt8.toNat_inj.mp (computes.trans total.symm))

/-! ## The frames of a run -/

/-- The frame a verdict passes on. -/
def Verdict.frame? : Verdict → Option Frame
  | valid frame => some frame
  | _ => none

namespace Decoder

/-- The frames that bytes complete, in the order they are completed. -/
def frames (d : Decoder) (input : List UInt8) : List Frame :=
  (d.run input).1.filterMap Verdict.frame?

theorem frames_cons (d : Decoder) (b : UInt8) (rest : List UInt8) :
    d.frames (b :: rest) = (d.push b).1.frame?.toList ++ (d.push b).2.frames rest := by
  rw [frames, run_cons, List.filterMap_cons]
  cases (d.push b).1.frame? <;> rfl

theorem frames_append (d : Decoder) (front back : List UInt8) :
    d.frames (front ++ back) = d.frames front ++ (d.run front).2.frames back := by
  rw [frames, run_append, List.filterMap_append]
  rfl

/-- An unfinished candidate is not a complete one. -/
theorem Sound.not_candidate {d : Decoder} (sound : d.Sound) (shape : FrameShape) :
    ¬ Candidate shape d.collected := by
  intro whole
  cases state : d.state with
  | lead =>
    have lead := whole.lead
    rw [sound.collected_eq_nil_iff.mpr state] at lead
    cases lead
  | restOf inside =>
    obtain ⟨lead, less⟩ := sound.collected_of_restOf state
    rw [whole.lead] at lead
    obtain rfl := FrameShape.leadByte_injective (Option.some.inj lead)
    rw [whole.size] at less
    exact Nat.lt_irrefl _ less

/-- A byte that completes a candidate makes it as long as it announced to be. -/
theorem Sound.candidate_concat {d : Decoder} (sound : d.Sound) {shape : FrameShape}
    (inside : d.state = .restOf shape) (full : d.filled + 1 = shape.length) (b : UInt8) :
    Candidate shape (d.collected ++ [b]) := by
  have longest := shape.length_le
  refine ⟨?_, ?_⟩
  · rw [List.length_append, collected_length (by omega)]
    exact full
  · rw [List.head?_append, (sound.collected_of_restOf inside).1]
    rfl

/-- A frame that is passed on is one of the pieces of the run. -/
theorem length_le_pieces {d : Decoder} {frame : Frame} {input : List UInt8}
    (passed : frame ∈ d.frames input) :
    frame.bytes.length ≤ ((d.run input).1.flatMap Verdict.piece).length := by
  obtain ⟨outcome, among, same⟩ := List.mem_filterMap.mp passed
  have piece : outcome.piece = frame.bytes := by
    cases outcome with
    | incomplete => cases same
    | valid _ => cases same; rfl
    | invalid _ _ => cases same
  rw [List.flatMap_def, ← piece]
  exact (List.sublist_flatten_of_mem (List.mem_map_of_mem among)).length_le

/-- **Bytes that complete the candidate to a frame yield that frame**, whatever its bytes are. -/
theorem frames_completing {d : Decoder} (sound : d.Sound) {frame : Frame} {input : List UInt8}
    (completes : d.collected ++ input = frame.bytes) : d.frames input = [frame] := by
  induction input generalizing d with
  | nil =>
    rw [List.append_nil] at completes
    exact absurd (completes ▸ frame.candidate) (sound.not_candidate _)
  | cons b rest ih =>
    have split : (d.collected ++ [b]) ++ rest = frame.bytes := by
      rw [List.append_assoc]
      exact completes
    have whole : Candidate frame.shape ((d.collected ++ [b]) ++ rest) := split ▸ frame.candidate
    have step := step_push sound b
    have onward := ih (sound.push b)
    rw [frames_cons]
    generalize (d.push b).1 = outcome at step onward ⊢
    generalize (d.push b).2 = next at step onward ⊢
    cases step with
    | started _ _ idle _ _ _ holds =>
      rw [sound.collected_eq_nil_iff.mpr idle] at split
      exact onward (holds ▸ split)
    | strayed idle short long =>
      rw [sound.collected_eq_nil_iff.mpr idle] at whole
      have lead : b = frame.shape.leadByte := Option.some.inj whole.lead
      cases frame with
      | short _ => exact absurd lead short
      | long _ => exact absurd lead long
    | grew _ _ _ _ _ _ holds => exact onward (holds ▸ split)
    | accepted _ other _ _ _ same _ _ =>
      obtain rfl : rest = [] := (same ▸ other.candidate).append_eq_nil whole
      rw [List.append_nil] at split
      rw [Frame.bytes_injective (same.trans split)]
      rfl
    | dropped shape reason _ inside full why _ _ =>
      obtain rfl : rest = [] := (sound.candidate_concat inside full b).append_eq_nil whole
      rw [List.append_nil] at split
      exact absurd (split ▸ why) (frame.bytes_wellFormed.not_rejected reason)

/-- **Fewer bytes than complete the candidate yield nothing.** -/
theorem frames_unfinished {d : Decoder} (sound : d.Sound) {frame : Frame}
    {input more : List UInt8} (lacks : more ≠ [])
    (completes : d.collected ++ (input ++ more) = frame.bytes) : d.frames input = [] := by
  have total := frames_completing sound completes
  rw [frames_append] at total
  cases first : d.frames input with
  | nil => rfl
  | cons other others =>
    rw [first, List.cons_append] at total
    obtain rfl : other = frame := (List.cons.inj total).1
    have part := length_le_pieces (d := d) (by rw [first]; exact List.mem_cons_self)
    have pieces := congrArg List.length (pieces_run sound input)
    have sizes := congrArg List.length completes
    have some_lack := List.length_pos_iff.mpr lacks
    simp only [List.length_append] at pieces sizes
    omega

end Decoder

end BrailleDisplay
