import BrailleDisplay.Hid.Search
import BrailleDisplay.Proofs.Channel.Journal
import BrailleDisplay.Proofs.Channel.Simulation

/-!
# What operations keep true of the world

A channel does as itself does.  So whatever is true of a world, and kept by logging, by waiting and
by each operation of a channel, is kept by all that is built from these.

* `Bounded.Alike.ends`, `Bounded.Alike.transfer` — from two runs that are alike to one of them;
* `World.Steady`, `Transport.Upholds`, `Source.Upholds` — what is kept, and by what
  (`Source.Upholds.simulates`);
* `World.outputLines` — the lines on standard output; channels that are `Mute` print none
  (`Source.Mute.upholds`), and displays on the HID bus are (`displaySource_mute`).
-/

namespace BrailleDisplay

namespace Bounded

variable {α α' σ : Type}

theorem Alike.ends {R : α → α → Prop} {W : World σ → World σ → Prop} {run : Bounded σ α}
    (alike : Alike R W run run) : run.Ends (fun a => R a a) (fun w => W w w) := by
  cases run with
  | ended a => exact alike
  | cutShort w => exact alike

/-- What is known of a run is known of a run like it. -/
theorem Alike.transfer {R : α' → α → Prop} {W : World σ → World σ → Prop} {run' : Bounded σ α'}
    {run : Bounded σ α} (alike : Alike R W run' run) {P : α' → Prop} {Q : World σ → Prop}
    (ends : run'.Ends P Q) :
    run.Ends (fun a => ∃ a', R a' a ∧ P a') (fun w => ∃ w', W w' w ∧ Q w') := by
  match run', run, alike with
  | ended a', ended a, agree => exact ⟨a', agree, ends⟩
  | cutShort w', cutShort w, agree => exact ⟨w', agree, ends⟩

end Bounded

/-! ## What is kept -/

section

variable {χ σ : Type} {I : World σ → Prop}

/-- Logging and waiting keep it true. -/
structure World.Steady (I : World σ → Prop) : Prop where
  log : ∀ {w} (level : Level) (message : String), I w → I (w.log level message)
  sleep : ∀ {w} (duration : Nat), I w → I (w.sleep duration)

/-- Operations of channels keep it true. -/
structure Transport.Upholds (T : Transport χ σ) (I : World σ → Prop) : Prop where
  write : ∀ bytes c {w}, I w → I (w.perform (T.write bytes c)).2
  read : ∀ limit timeout c {w}, I w → I (w.perform (T.read limit timeout c)).2
  close : ∀ c {w}, I w → I (w.perform (T.close c)).2

/-- So do openings. -/
structure Source.Upholds (S : Source χ σ) (I : World σ → Prop) : Prop where
  transport : S.transport.Upholds I
  acquire : ∀ {w}, I w → I (w.perform S.acquire).2

/-- The same world, of which it is true. -/
def World.Upheld (I : World σ → Prop) (w' w : World σ) : Prop :=
  w' = w ∧ I w

theorem World.Steady.kinship (steady : Steady I) : Kinship (Upheld I) where
  now kin := congrArg World.now kin.1
  running kin := congrArg World.running kin.1
  log level message kin := ⟨congrArg (World.log · level message) kin.1, steady.log _ _ kin.2⟩
  sleep duration kin := ⟨congrArg (World.sleep · duration) kin.1, steady.sleep _ kin.2⟩

theorem Transport.Upholds.simulates {T : Transport χ σ} (upholds : T.Upholds I) :
    T.Simulates T id (World.Upheld I) where
  info _ := rfl
  write bytes c {w' w} kin := by
    obtain ⟨rfl, holds⟩ := kin
    exact ⟨⟨rfl, rfl⟩, rfl, upholds.write bytes c holds⟩
  read limit timeout c {w' w} kin := by
    obtain ⟨rfl, holds⟩ := kin
    exact ⟨⟨rfl, rfl⟩, rfl, upholds.read limit timeout c holds⟩
  close c {w' w} kin := by
    obtain ⟨rfl, holds⟩ := kin
    exact ⟨⟨rfl, rfl⟩, rfl, upholds.close c holds⟩

theorem Answers.refl {α ε : Type} (result : Except ε α) : Answers (id · = ·) result result := by
  cases result with
  | ok a => exact .ok rfl
  | error fault => exact .error fault

/-- **Channels do as themselves do**, in worlds of which what they keep is true. -/
theorem Source.Upholds.simulates {S : Source χ σ} (upholds : S.Upholds I) :
    S.Simulates S id (World.Upheld I) where
  transport := upholds.transport.simulates
  acquire {w' w} kin := by
    obtain ⟨rfl, holds⟩ := kin
    exact ⟨.refl _, rfl, upholds.acquire holds⟩

/-- What follows in every world from something kept is kept. -/
theorem Source.Upholds.of_each {S : Source χ σ}
    (each : ∀ w, I w → ∃ I', S.Upholds I' ∧ I' w ∧ ∀ w', I' w' → I w') : S.Upholds I where
  transport :=
    { write := fun bytes c w holds =>
        have ⟨_, upholds, here, follows⟩ := each w holds
        follows _ (upholds.transport.write bytes c here)
      read := fun limit timeout c w holds =>
        have ⟨_, upholds, here, follows⟩ := each w holds
        follows _ (upholds.transport.read limit timeout c here)
      close := fun c w holds =>
        have ⟨_, upholds, here, follows⟩ := each w holds
        follows _ (upholds.transport.close c here) }
  acquire {w} holds :=
    have ⟨_, upholds, here, follows⟩ := each w holds
    follows _ (upholds.acquire here)

theorem Source.Upholds.and {S : Source χ σ} {I' : World σ → Prop} (upholds : S.Upholds I)
    (upholds' : S.Upholds I') : S.Upholds fun w => I w ∧ I' w where
  transport :=
    { write := fun bytes c _ ⟨holds, holds'⟩ =>
        ⟨upholds.transport.write bytes c holds, upholds'.transport.write bytes c holds'⟩
      read := fun limit timeout c _ ⟨holds, holds'⟩ =>
        ⟨upholds.transport.read limit timeout c holds,
          upholds'.transport.read limit timeout c holds'⟩
      close := fun c _ ⟨holds, holds'⟩ =>
        ⟨upholds.transport.close c holds, upholds'.transport.close c holds'⟩ }
  acquire := fun ⟨holds, holds'⟩ => ⟨upholds.acquire holds, upholds'.acquire holds'⟩

end

/-! ## Standard output -/

/-- The line that a note puts on standard output. -/
def Note.line? : Note → Option String
  | output line => some line
  | _ => none

namespace World

variable {σ α : Type}

/-- The lines on standard output. -/
def outputLines (w : World σ) : List String :=
  w.notes.toList.filterMap Note.line?

theorem outputLines_note (w : World σ) (n : Note) :
    (w.note n).outputLines = w.outputLines ++ n.line?.toList := by
  rw [outputLines, note, Array.toList_push, List.filterMap_append]
  cases n with
  | log level message => rfl
  | output line => rfl
  | printed line => rfl

theorem outputLines_say (w : World σ) (line : String) :
    (w.say line).outputLines = w.outputLines ++ [line] :=
  w.outputLines_note (.output line)

/-- Nothing but this has been printed. -/
def HasPrinted (lines : List String) (w : World σ) : Prop :=
  w.outputLines = lines

theorem hasPrinted_steady (lines : List String) : Steady (HasPrinted (σ := σ) lines) where
  log {w} level message printed := by
    rw [HasPrinted, log, outputLines_note, printed]
    exact List.append_nil lines
  sleep _ printed := printed

/-- Notes that put nothing on standard output. -/
def MuteNotes (notes : List Note) : Prop :=
  ∀ n ∈ notes, n.line? = none

theorem HasPrinted.perform {lines : List String} {w : World σ} (printed : w.HasPrinted lines)
    {operation : Plant σ → Reply σ α} (mute : MuteNotes (operation w.plant).notes) :
    (w.perform operation).2.HasPrinted lines := by
  have nothing : (operation w.plant).notes.filterMap Note.line? = [] :=
    List.filterMap_eq_nil_iff.mpr mute
  rw [HasPrinted, outputLines, World.perform, Array.toList_append, List.filterMap_append,
    List.toList_toArray, nothing, List.append_nil]
  exact printed

end World

open World (MuteNotes)

section

variable {χ σ η : Type}

/-- Channels whose operations put nothing on standard output. -/
structure Transport.Mute (T : Transport χ σ) : Prop where
  write : ∀ bytes c plant, MuteNotes (T.write bytes c plant).notes
  read : ∀ limit timeout c plant, MuteNotes (T.read limit timeout c plant).notes
  close : ∀ c plant, MuteNotes (T.close c plant).notes

structure Source.Mute (S : Source χ σ) : Prop where
  transport : S.transport.Mute
  acquire : ∀ plant, MuteNotes (S.acquire plant).notes

theorem Source.Mute.upholds {S : Source χ σ} (mute : S.Mute) (lines : List String) :
    S.Upholds (World.HasPrinted lines) where
  transport :=
    { write := fun bytes c w printed => printed.perform (mute.transport.write bytes c w.plant)
      read := fun limit timeout c w printed =>
        printed.perform (mute.transport.read limit timeout c w.plant)
      close := fun c w printed => printed.perform (mute.transport.close c w.plant) }
  acquire {w} printed := printed.perform (mute.acquire w.plant)

theorem Source.Mute.journaled {S : Source χ σ} (mute : S.Mute) : S.journaled.Mute where
  transport :=
    { write := fun bytes c plant => mute.transport.write bytes c.inner plant.bare
      read := fun limit timeout c plant => mute.transport.read limit timeout c.inner plant.bare
      close := fun c plant => mute.transport.close c.inner plant.bare }
  acquire plant := mute.acquire plant.bare

/-- A printer prints elsewhere. -/
theorem Source.Mute.printed {S : Source χ σ} (mute : S.Mute) (config : PrintOptions) :
    (S.printed config).Mute where
  transport :=
    { write := fun bytes c plant n among => by
        rcases List.mem_append.mp among with line | note
        · split at line
          · rw [List.mem_singleton.mp line]
            rfl
          · cases line
        · exact mute.transport.write bytes c.inner plant n note
      read := fun limit timeout c plant n among => by
        rcases List.mem_append.mp among with note | line
        · exact mute.transport.read limit timeout c.inner plant n note
        · split at line
          · split at line
            · rw [List.mem_singleton.mp line]
              rfl
            · cases line
          · cases line
      close := fun c plant => mute.transport.close c.inner plant }
  acquire plant := mute.acquire plant

/-- Displays on the HID bus log what they do, and print nothing. -/
theorem ReportChannel.transport_mute (B : HidBus η σ) : (transport B).Mute where
  write bytes c plant := by
    show MuteNotes (write B bytes c plant).notes
    unfold write
    split
    · simp [MuteNotes]
    · dsimp only
      split
      · simp [MuteNotes]
      · simp [MuteNotes, Note.line?]
  read limit timeout c plant := by
    show MuteNotes (read B limit timeout c plant).notes
    unfold read
    split
    · simp [MuteNotes]
    · dsimp only
      split
      · simp [MuteNotes]
      · simp [MuteNotes]
      · simp [MuteNotes, Note.line?]
  close c plant := by
    show MuteNotes (close c plant).notes
    unfold close
    split
    · simp [MuteNotes]
    · simp [MuteNotes, Note.line?]

theorem listNotes_mute (devices : List FoundDevice) : MuteNotes (listNotes devices) := by
  intro n among
  rcases List.mem_append.mp among with found | count
  · obtain ⟨device, -, rfl⟩ := List.mem_map.mp found
    rfl
  · rw [List.mem_singleton.mp count]
    rfl

theorem openListed_mute (B : HidBus η σ) (entries : List HidEntry) (device : FoundDevice)
    (plant : Plant σ) : MuteNotes (openListed B entries device plant).notes := by
  unfold openListed
  dsimp only
  split
  · simp [MuteNotes]
  · split
    · simp [MuteNotes]
    · simp [MuteNotes, Note.line?]

theorem openDisplay_mute (B : HidBus η σ) (d : Catalog) (locator : Locator) (plant : Plant σ) :
    MuteNotes (openDisplay B d locator plant).notes := by
  unfold openDisplay
  split
  · simp [MuteNotes]
  · split
    · simp [MuteNotes]
    · dsimp only
      split
      · exact listNotes_mute _
      · intro n among
        rcases List.mem_append.mp among with found | opened
        · exact listNotes_mute _ n found
        · exact openListed_mute B _ _ _ n opened

theorem displaySource_mute (B : HidBus η σ) (d : Catalog) (locator : Locator) :
    (displaySource B d locator).Mute where
  transport := ReportChannel.transport_mute B
  acquire plant := openDisplay_mute B d locator plant

end

end BrailleDisplay
