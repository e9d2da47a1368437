import BrailleDisplay.World

/-!
# What holds at the end of a bounded run

A run of loops that may repeat only so often ends with an answer or is cut short in some world.
`Bounded.Ends P Q` says that `P` holds of the answer or `Q` of that world; since a run is cut short
at every moment that some bound falls on, `Q` is what holds on the way.

* `ends_bind_iff` — a composed run ends well when its first part leads to a second that does;
* `Ends.imp`, `Ends.and` — weaker conclusions, and two at once;
* `Ends.ended` — a run that cannot be cut short ends.
-/

namespace BrailleDisplay

namespace Bounded

variable {σ α β : Type}

/-- The answer satisfies `P`, or the world in which the run was cut short satisfies `Q`. -/
def Ends (run : Bounded σ α) (P : α → Prop) (Q : World σ → Prop) : Prop :=
  match run with
  | ended answer => P answer
  | cutShort w => Q w

/-- What follows an answer goes on from it. -/
theorem ended_bind (a : α) (next : α → Bounded σ β) : (ended a >>= next) = next a := rfl

theorem ends_bind_iff {run : Bounded σ α} {next : α → Bounded σ β} {P : β → Prop}
    {Q : World σ → Prop} :
    (run >>= next).Ends P Q ↔ run.Ends (fun a => (next a).Ends P Q) Q := by
  cases run with
  | ended a => exact Iff.rfl
  | cutShort w => exact Iff.rfl

theorem ends_anyhow (run : Bounded σ α) : run.Ends (fun _ => True) (fun _ => True) := by
  cases run with
  | ended a => exact trivial
  | cutShort w => exact trivial

/-- An answer is what the run ended with. -/
theorem ends_ended (run : Bounded σ α) :
    run.Ends (fun answer => run = .ended answer) (fun _ => True) := by
  cases run with
  | ended a => exact rfl
  | cutShort w => exact trivial

theorem Ends.imp {run : Bounded σ α} {P P' : α → Prop} {Q Q' : World σ → Prop} (h : run.Ends P Q)
    (answer : ∀ a, P a → P' a) (cut : ∀ w, Q w → Q' w) : run.Ends P' Q' := by
  cases run with
  | ended a => exact answer a h
  | cutShort w => exact cut w h

theorem Ends.and {run : Bounded σ α} {P P' : α → Prop} {Q Q' : World σ → Prop} (h : run.Ends P Q)
    (h' : run.Ends P' Q') : run.Ends (fun a => P a ∧ P' a) (fun w => Q w ∧ Q' w) := by
  cases run with
  | ended a => exact ⟨h, h'⟩
  | cutShort w => exact ⟨h, h'⟩

/-- A run ends if nothing is true of a world in which it would be cut short. -/
theorem Ends.ended {run : Bounded σ α} {P : α → Prop} {Q : World σ → Prop} (h : run.Ends P Q)
    (never : ∀ w, ¬Q w) : ∃ a, run = .ended a ∧ P a := by
  cases run with
  | ended a => exact ⟨a, rfl, h⟩
  | cutShort w => exact absurd h (never w)

/-- A run that ends well can be followed by one that ends well from every good answer. -/
theorem Ends.bind {run : Bounded σ α} {next : α → Bounded σ β} {P : α → Prop} {P' : β → Prop}
    {Q : World σ → Prop} (h : run.Ends P Q) (onward : ∀ a, P a → (next a).Ends P' Q) :
    (run >>= next).Ends P' Q :=
  ends_bind_iff.mpr (h.imp onward fun _ => id)

end Bounded

end BrailleDisplay
