import BrailleDisplay.Proofs.Channel.Attempts
import BrailleDisplay.Proofs.Channel.Bookkeeping
import BrailleDisplay.Proofs.Frame.LinkInvariant

/-!
# How much a channel can bring

What comes from a channel may depend on what is written to it, since devices answer.  A channel
brings no more than so many bytes when that is what reads get from it in all, however it is used, as
long as it is not written to too often.

* `broughtBy` — the bytes that uses of a channel brought;
* `Transport.Reaches` — what a channel comes to by such uses;
* `Transport.BringsAtMost` — the bound on what it brings;
* `Transport.keeps_recounted` — a journal recounts how its channel came to be as it is;
* `ScriptedChannel.bringsAtMost` — a channel in memory brings what waits in it and the answers to
  what is written to it.
-/

namespace BrailleDisplay

variable {χ σ : Type}

/-! ## Uses of a channel -/

/-- The bytes that uses of a channel brought. -/
def broughtBy (uses : List Use) : List UInt8 :=
  uses.flatMap fun
    | .read result => readBytes result
    | .wrote _ _ => []

theorem broughtBy_concat_wrote (uses : List Use) (bytes : List UInt8)
    (result : Except ChannelFault Unit) :
    broughtBy (uses ++ [.wrote bytes result]) = broughtBy uses := by
  rw [broughtBy, List.flatMap_append]
  exact List.append_nil _

theorem broughtBy_concat_read (uses : List Use) (result : Except ChannelFault (List UInt8)) :
    broughtBy (uses ++ [.read result]) = broughtBy uses ++ readBytes result := by
  rw [broughtBy, List.flatMap_append, List.flatMap_singleton]
  rfl

/-- They are what was received by the journal of the channel. -/
theorem received_used (number : Nat) (uses : List Use) :
    received number (uses.map (.used number)) = broughtBy uses := by
  rw [received, broughtBy, List.flatMap_map]
  congr 1
  funext use
  cases use with
  | wrote _ _ => rfl
  | read result =>
    cases result with
    | ok bytes => exact if_pos rfl
    | error _ => rfl

/-- What a channel and the devices come to when the channel is written to and read from. -/
inductive Transport.Reaches (T : Transport χ σ) (c : χ) (plant : Plant σ) :
    List Use → χ → Plant σ → Prop
  | start : Reaches T c plant [] c plant
  | wrote {uses : List Use} {c' : χ} {plant' : Plant σ} (before : Reaches T c plant uses c' plant')
      (bytes : List UInt8) :
      Reaches T c plant (uses ++ [.wrote bytes (T.write bytes c' plant').value.1])
        (T.write bytes c' plant').value.2 (T.write bytes c' plant').plant
  | read {uses : List Use} {c' : χ} {plant' : Plant σ} (before : Reaches T c plant uses c' plant')
      (limit timeout : Nat) :
      Reaches T c plant (uses ++ [.read (T.read limit timeout c' plant').value.1])
        (T.read limit timeout c' plant').value.2 (T.read limit timeout c' plant').plant

/-- However a channel is used, as long as it is written to at most `writes` times, no more than
`total` bytes come from it. -/
def Transport.BringsAtMost (T : Transport χ σ) (writes total : Nat) (c : χ) (plant : Plant σ) :
    Prop :=
  ∀ uses c' plant', T.Reaches c plant uses c' plant' →
    (attempts uses).length ≤ writes → (broughtBy uses).length ≤ total

/-! ## The journal of a channel -/

/-- The journal recounts the uses that made a channel and the devices what they are. -/
def Transport.Recounted (T : Transport χ σ) (channel : Numbered χ) (start : Plant σ)
    (c : Numbered χ) (plant : Plant (Journaled σ)) : Prop :=
  c.number = channel.number
    ∧ ∃ uses, T.Reaches channel.inner start uses c.inner plant.bare
        ∧ plant.state.journal = uses.map (.used channel.number)

theorem Transport.recounted_start (T : Transport χ σ) (channel : Numbered χ) (w : World σ) :
    T.Recounted channel w.plant channel w.journaled.plant :=
  ⟨rfl, [], .start, rfl⟩

theorem Transport.keeps_recounted (T : Transport χ σ) (channel : Numbered χ) (start : Plant σ) :
    T.journaled.Keeps (T.Recounted channel start) where
  write bytes c plant := by
    rintro ⟨same, uses, reaches, journal⟩
    refine ⟨same, _, reaches.wrote bytes, ?_⟩
    rw [List.map_append, ← journal, ← same]
    rfl
  read limit timeout c plant := by
    rintro ⟨same, uses, reaches, journal⟩
    refine ⟨same, _, reaches.read limit timeout, ?_⟩
    rw [List.map_append, ← journal, ← same]
    rfl

/-! ## Channels in memory -/

namespace ScriptedChannel

/-- No answer to a write is longer than `size`. -/
def AnswersBriefly (size : Nat) (c : ScriptedChannel) : Prop :=
  ∀ partner, c.partner = some partner → ∀ seen, (partner.answer seen).length ≤ size

/-- An answer to a write is all that is queued by it. -/
theorem AnswersBriefly.write {size : Nat} {c : ScriptedChannel} (brief : c.AnswersBriefly size)
    (bytes : List UInt8) :
    (c.write bytes).2.AnswersBriefly size
      ∧ (c.write bytes).2.inbound.length ≤ c.inbound.length + size := by
  rw [write_eq]
  cases refusal? c.closed c.writesFail "mock write failure" with
  | some fault => exact ⟨brief, Nat.le_add_right _ _⟩
  | none =>
    dsimp only [accept]
    cases installed : c.partner with
    | none => exact ⟨fun _ none => (nomatch none), by simp⟩
    | some partner =>
      refine ⟨fun _ same => ?_, ?_⟩
      · cases same
        exact brief partner installed
      · have few := brief partner installed (bytes :: partner.seen)
        simp only [Option.map_some, Option.getD_some, Partner.see, List.length_append]
        omega

/-- What a read brings was queued before. -/
theorem AnswersBriefly.read {size : Nat} {c : ScriptedChannel} (brief : c.AnswersBriefly size)
    (limit : Nat) :
    (c.read limit).2.AnswersBriefly size
      ∧ (readBytes (c.read limit).1).length + (c.read limit).2.inbound.length
        = c.inbound.length := by
  have step := read_step limit c
  refine ⟨fun partner installed => brief partner (step.partner.symm.trans installed), ?_⟩
  have taken := congrArg List.length step.inbound
  simpa using taken

/-- What has come and what waits is no more than waited at first and what answered the writes. -/
theorem AnswersBriefly.reaches {size : Nat} {c c' : ScriptedChannel} {plant plant' : Plant σ}
    {uses : List Use} (brief : c.AnswersBriefly size)
    (reaches : transport.Reaches c plant uses c' plant') :
    c'.AnswersBriefly size
      ∧ (broughtBy uses).length + c'.inbound.length
        ≤ c.inbound.length + (attempts uses).length * size := by
  induction reaches with
  | start => exact ⟨brief, by simp [broughtBy]⟩
  | @wrote uses c' _ _ bytes ih =>
    obtain ⟨brief', few⟩ := ih
    obtain ⟨brief'', queued⟩ := brief'.write bytes
    refine ⟨brief'', ?_⟩
    rw [broughtBy_concat_wrote, attempts_append, List.length_append, Nat.add_mul]
    show _ + (c'.write bytes).2.inbound.length ≤ _ + (_ + 1 * size)
    omega
  | @read uses c' _ _ limit _ ih =>
    obtain ⟨brief', few⟩ := ih
    obtain ⟨brief'', taken⟩ := brief'.read limit
    refine ⟨brief'', ?_⟩
    rw [broughtBy_concat_read, attempts_append, List.length_append, List.length_append]
    show _ + (readBytes (c'.read limit).1).length + (c'.read limit).2.inbound.length
      ≤ _ + (_ + 0) * size
    rw [Nat.add_zero]
    omega

/-- **A channel in memory brings what waits in it and the answers to what is written.** -/
theorem bringsAtMost {size : Nat} {c : ScriptedChannel} (brief : c.AnswersBriefly size)
    (writes : Nat) (plant : Plant σ) :
    transport.BringsAtMost writes (c.inbound.length + writes * size) c plant := by
  intro uses c' plant' reaches few
  obtain ⟨-, most⟩ := brief.reaches reaches
  have bound := Nat.mul_le_mul_right size few
  omega

end ScriptedChannel

end BrailleDisplay
