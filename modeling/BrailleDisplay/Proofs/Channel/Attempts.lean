import BrailleDisplay.Proofs.Channel.Journal

/-!
# Attempts to write

What goes out over a channel is told by the attempts to write among the uses of it, with what came
of each.

* `Attempt`, `attempts`, `attempted` — the attempts among the uses of a channel, and in a journal;
* `UsedFor` — between two moments of a journal one channel was used and nothing else happened, and
  the attempts were these; such stretches can be put together (`UsedFor.trans`);
* `Transport.Enters.usedFor_write` — a write is one attempt.
-/

namespace BrailleDisplay

/-- An attempt to write, and what came of it. -/
structure Attempt where
  /-- The bytes. -/
  bytes : List UInt8
  /-- Whether the channel acknowledged them. -/
  result : Except ChannelFault Unit
  deriving Repr

/-- The attempt that a use of a channel is, if it is one. -/
def Use.attempt? : Use → Option Attempt
  | wrote bytes result => some ⟨bytes, result⟩
  | read _ => none

/-- The attempts to write among uses of a channel. -/
def attempts (uses : List Use) : List Attempt :=
  uses.filterMap Use.attempt?

theorem attempts_append (front back : List Use) :
    attempts (front ++ back) = attempts front ++ attempts back :=
  List.filterMap_append

/-- The attempts to write in a journal. -/
def attempted (journal : List Entry) : List Attempt :=
  journal.filterMap fun
    | .used _ use => use.attempt?
    | _ => none

theorem attempted_used (number : Nat) (uses : List Use) :
    attempted (uses.map (.used number)) = attempts uses :=
  List.filterMap_map

theorem attempted_append (front back : List Entry) :
    attempted (front ++ back) = attempted front ++ attempted back :=
  List.filterMap_append

theorem attempted_read (journal : List Entry) (number : Nat)
    (result : Except ChannelFault (List UInt8)) :
    attempted (journal ++ [.used number (.read result)]) = attempted journal := by
  rw [attempted_append]
  exact List.append_nil _

/-- Between two moments of a journal the channel of this number was used and nothing else happened,
and the attempts to write were `sent`. -/
def UsedFor (number : Nat) (sent : List Attempt) (before after : List Entry) : Prop :=
  ∃ uses, after = before ++ uses.map (Entry.used number) ∧ attempts uses = sent

theorem UsedFor.refl (number : Nat) (journal : List Entry) : UsedFor number [] journal journal :=
  ⟨[], (List.append_nil _).symm, rfl⟩

theorem UsedFor.trans {number : Nat} {sent more : List Attempt} {before between after : List Entry}
    (first : UsedFor number sent before between) (second : UsedFor number more between after) :
    UsedFor number (sent ++ more) before after := by
  obtain ⟨front, rfl, rfl⟩ := first
  obtain ⟨back, rfl, rfl⟩ := second
  refine ⟨front ++ back, ?_, attempts_append front back⟩
  rw [List.map_append, List.append_assoc]

/-- From the start of a journal, the uses of the channel are all there is. -/
theorem UsedFor.fromStart {number : Nat} {sent : List Attempt} {journal : List Entry}
    (used : UsedFor number sent [] journal) :
    ∃ uses, journal = uses.map (Entry.used number) ∧ attempts uses = sent :=
  used

section

variable {χ σ : Type} {T : Transport χ σ} {journal : σ → List Entry} {number : χ → Nat}

/-- A write is one attempt. -/
theorem Transport.Enters.usedFor_write (enters : T.Enters journal number) (bytes : List UInt8)
    (c : χ) (plant : Plant σ) :
    let reply := T.write bytes c plant
    UsedFor (number c) [⟨bytes, reply.value.1⟩] (journal plant.state)
      (journal reply.plant.state) :=
  ⟨[.wrote bytes _], (enters.write bytes c plant).1, rfl⟩

end

end BrailleDisplay
