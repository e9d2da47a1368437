import BrailleDisplay.Proofs.Display.Delivery
import BrailleDisplay.Proofs.Display.SessionUpkeep

/-!
# Writing calls down changes nothing

Calls of a handler are written down where no channel can see them.  So a session runs as it would if
they were not: the same is logged, printed and answered.

* `SameButCalls` — two worlds that differ in the calls written down, at most;
* `Source.Deaf` — channels that do the same in two such worlds, and leave them such; the overheard
  ones do, also behind a printer (`Source.deaf_overheard`, `Source.deaf_overheard_printed`);
* `Source.upholds_told` — what is true of the calls and of the lines printed stays so.
-/

namespace BrailleDisplay

open World (Steady HasPrinted)

variable {χ σ κ : Type}

/-- The world with other calls written down. -/
def World.recalled (w : TracedWorld σ) (calls : List Call) : TracedWorld σ :=
  { w with plant := (w.plant.bare.unheard.withCalls calls).withJournal w.plant.state.journal }

/-- The worlds differ in the calls written down, at most. -/
def SameButCalls (v w : TracedWorld σ) : Prop :=
  ∃ calls, v = w.recalled calls

theorem SameButCalls.refl (w : TracedWorld σ) : SameButCalls w w :=
  ⟨w.calls, rfl⟩

theorem SameButCalls.outputLines {v w : TracedWorld σ} (same : SameButCalls v w) :
    v.outputLines = w.outputLines := by
  obtain ⟨calls, rfl⟩ := same
  rfl

theorem SameButCalls.running {v w : TracedWorld σ} (same : SameButCalls v w) :
    v.running = w.running := by
  obtain ⟨calls, rfl⟩ := same
  rfl

theorem SameButCalls.kinship : Kinship (SameButCalls (σ := σ)) where
  now := by
    rintro v w ⟨calls, rfl⟩
    rfl
  running same := same.running
  log := by
    rintro v w level message ⟨calls, rfl⟩
    exact ⟨calls, rfl⟩
  sleep := by
    rintro v w duration ⟨calls, rfl⟩
    exact ⟨calls, rfl⟩

/-- Channels that cannot tell such worlds apart. -/
def Source.Deaf (S : Source χ (Journaled (Overheard σ))) : Prop :=
  S.Simulates S id SameButCalls

theorem Transport.deaf_overheard (T : Transport χ σ) :
    T.overheard.journaled.Simulates T.overheard.journaled id SameButCalls where
  info _ := rfl
  write := by
    rintro bytes c v w ⟨calls, rfl⟩
    exact ⟨⟨rfl, rfl⟩, calls, rfl⟩
  read := by
    rintro limit timeout c v w ⟨calls, rfl⟩
    exact ⟨⟨rfl, rfl⟩, calls, rfl⟩
  close := by
    rintro c v w ⟨calls, rfl⟩
    exact ⟨⟨rfl, rfl⟩, calls, rfl⟩

theorem Source.deaf_overheard (S : Source χ σ) : S.overheard.journaled.Deaf where
  transport := S.transport.deaf_overheard
  acquire := by
    rintro v w ⟨calls, rfl⟩
    exact ⟨.refl _, calls, rfl⟩

/-- Also behind a printer, since it looks at nothing but the clock. -/
theorem Source.deaf_overheard_printed (S : Source χ σ) (config : PrintOptions) :
    (S.overheard.journaled.printed config).Deaf where
  transport :=
    { info := fun _ => rfl
      write := by
        rintro bytes c v w ⟨calls, rfl⟩
        exact ⟨⟨rfl, rfl⟩, calls, rfl⟩
      read := by
        rintro limit timeout c v w ⟨calls, rfl⟩
        exact ⟨⟨rfl, rfl⟩, calls, rfl⟩
      close := by
        rintro c v w ⟨calls, rfl⟩
        exact ⟨⟨rfl, rfl⟩, calls, rfl⟩ }
  acquire := by
    rintro v w ⟨calls, rfl⟩
    exact ⟨.refl _, calls, rfl⟩

/-! ## Calls and lines -/

theorem Source.Mute.overheard {S : Source χ σ} (mute : S.Mute) : S.overheard.Mute where
  transport :=
    { write := fun bytes c plant => mute.transport.write bytes c plant.unheard
      read := fun limit timeout c plant => mute.transport.read limit timeout c plant.unheard
      close := fun c plant => mute.transport.close c plant.unheard }
  acquire plant := mute.acquire plant.unheard

theorem Source.Silent.upholds {S : Source χ (Journaled (Overheard σ))} (silent : S.Silent)
    (calls : List Call) : S.Upholds fun w => w.calls = calls where
  transport :=
    { write := fun bytes c w same => (silent calls).transport.keeps.write bytes c w.plant same
      read := fun limit timeout c w same =>
        (silent calls).transport.keeps.read limit timeout c w.plant same
      close := fun c w same => (silent calls).transport.closed c w.plant same }
  acquire {w} same := by
    cases answer : (S.acquire w.plant).value with
    | ok c => exact (silent calls).acquired w.plant c same answer
    | error fault => exact (silent calls).refused w.plant fault same answer

/-- Channels that leave the calls as they are and print nothing keep true what is true of the calls
and of the lines printed. -/
theorem Source.upholds_told {S : Source χ (Journaled (Overheard σ))} (silent : S.Silent)
    (mute : S.Mute) (P : List Call → List String → Prop) :
    S.Upholds fun w => P w.calls w.outputLines := by
  refine .of_each fun w holds => ⟨_, (silent.upholds w.calls).and (mute.upholds w.outputLines),
    ⟨rfl, rfl⟩, fun w' told => ?_⟩
  rw [told.1, show w'.outputLines = w.outputLines from told.2]
  exact holds

theorem World.steady_told (P : List Call → List String → Prop) :
    Steady (σ := Journaled (Overheard σ)) fun w => P w.calls w.outputLines where
  log {w} level message holds := by
    have printed := (hasPrinted_steady w.outputLines).log (w := w) level message rfl
    rw [show (w.log level message).outputLines = w.outputLines from printed]
    exact holds
  sleep _ holds := holds

end BrailleDisplay
