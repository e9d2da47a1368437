import BrailleDisplay.Proofs.Channel.Printing
import BrailleDisplay.Proofs.Channel.TrafficLines
import BrailleDisplay.Proofs.Display.SessionSimulation

/-!
# Printing changes nothing

Channels, displays and sessions run with a printer as they run without one: the same is written and
read, answered and delivered, and the same failures come of it.  The printer adds a line to the
notes for every attempt to write and every read that brought bytes, as far as they are to be shown,
and from each line the direction, the number of bytes and the bytes can be read.

* `EventHandler.reacting` — handlers that see displays and the plant, but not what was noted;
* `ChannelsTransparent`, `DisplaysTransparent`, `SessionsTransparent` — each with a printer and
  without;
* `printing_transparent` — all of them, and the lines.
-/

namespace BrailleDisplay

variable {χ χ' σ κ : Type}

/-! ## Handlers -/

/-- Carry out an operation beside a journal. -/
def Plant.besideJournal {α : Type} (operation : Plant σ → Reply σ α) (plant : Plant (Journaled σ)) :
    Reply (Journaled σ) α :=
  let reply := operation plant.bare
  { value := reply.value
    plant := reply.plant.withJournal plant.state.journal
    notes := reply.notes }

/-- What is not entered is not printed. -/
theorem PrintedJournal.beside {α : Type} {config : PrintOptions} {w' w : World (Journaled σ)}
    (kin : PrintedJournal config Journaled.journal w' w) (operation : Plant σ → Reply σ α) :
    Pairs Eq (PrintedJournal config Journaled.journal)
      (w'.perform (Plant.besideJournal operation)) (w.perform (Plant.besideJournal operation)) := by
  constructor
  · rw [World.perform, kin.plant]
    rfl
  · exact Printout.silently kin rfl rfl

/-- A handler that knows displays by what is left of their channels, and does what it likes to the
plant, but does not see what was noted. -/
def EventHandler.reacting (π : χ' → χ)
    (reaction : Display χ → KeyEvent → κ → Plant σ → Reply σ (Onward × κ)) :
    EventHandler χ' (Journaled σ) κ :=
  fun display event k w =>
    let ((onward, k), w) := w.perform (Plant.besideJournal (reaction (display.map π) event k))
    (onward, k, w)

theorem EventHandler.reacting_alike (config : PrintOptions)
    (reaction : Display χ → KeyEvent → κ → Plant σ → Reply σ (Onward × κ)) :
    EventHandler.Alike Printed.inner (PrintedJournal config Journaled.journal)
      (reacting (fun c : Printed (Numbered χ) => c.inner.inner) reaction)
      (reacting Numbered.inner reaction) := by
  intro display event k w' w kin
  obtain ⟨value, kin₁⟩ := kin.beside (reaction (display.map fun c => c.inner.inner) event k)
  have onward := congrArg Prod.fst value
  have state := congrArg Prod.snd value
  exact ⟨onward, state, kin₁⟩

/-! ## With a printer and without -/

/-- Calls on a channel, however many, are answered the same and leave the same channel behind; what
was printed is the traffic of the uses that they made of it. -/
def ChannelsTransparent (config : PrintOptions) (T : Transport χ σ) : Prop :=
  ∀ (calls : List ChannelCall) (channel : Printed χ) (w : World σ),
    let after := T.carryOut calls channel.inner w
    Pairs Eq (Pairs (Printed.inner · = ·) (Printout config (usesOf calls after.1)))
      ((T.printed config).carryOut calls channel w) after

/-- A display comes up, answers and ends the same; what was printed is the traffic of all uses that
were made of its channel. -/
def DisplaysTransparent (config : PrintOptions) (T : Transport χ σ) : Prop :=
  ∀ (fuel : Nat) (profiles : ProfileSet) (channel : Printed (Numbered χ))
    (calls : List DisplayCall) (ending : Ending) (w : World σ),
    Bounded.Alike
      (Pairs (Answers (Display.LegaciesAlike Printed.inner))
        (PrintedJournal config Journaled.journal))
      (PrintedJournal config Journaled.journal)
      (Display.live (T.journaled.printed config) fuel profiles channel calls ending w.journaled)
      (Display.live T.journaled fuel profiles channel.inner calls ending w.journaled)

/-- A session tells its handler of the same events and comes to the same end; what was printed is
the traffic of all uses that were made of its channels. -/
def SessionsTransparent (config : PrintOptions) (S : Source χ σ) (κ : Type) : Prop :=
  ∀ (fuel : Nat) (profiles : ProfileSet)
    (reaction : Display χ → KeyEvent → κ → Plant σ → Reply σ (Onward × κ)) (k : κ) (w : World σ),
    let session : Session (Numbered χ) (Journaled σ) := ⟨S.journaled, profiles⟩
    Bounded.Alike (Pairs Eq (Pairs Eq (PrintedJournal config Journaled.journal)))
      (PrintedJournal config Journaled.journal)
      ((session.printed config).monitor fuel (.reacting (fun c => c.inner.inner) reaction) k
        w.journaled)
      (session.monitor fuel (.reacting Numbered.inner reaction) k w.journaled)

theorem PrintedJournal.start (config : PrintOptions) (w : World σ) :
    PrintedJournal config Journaled.journal w.journaled w.journaled :=
  Printout.start config w.journaled

theorem channelsTransparent (config : PrintOptions) (T : Transport χ σ) :
    ChannelsTransparent config T := by
  intro calls channel w
  exact T.printed_carryOut calls channel (Printout.start config w)

theorem displaysTransparent (config : PrintOptions) (T : Transport χ σ) :
    DisplaysTransparent config T := by
  intro fuel profiles channel calls ending w
  have sim := T.enters_journaled.printed_simulates config
  exact Display.live_alike sim (PrintedJournal.kinship config _) fuel profiles channel calls ending
    (PrintedJournal.start config w)

theorem sessionsTransparent (config : PrintOptions) (S : Source χ σ) (κ : Type) :
    SessionsTransparent config S κ := by
  intro fuel profiles reaction k w session
  have sim := S.enters_journaled.printed_simulates config
  exact Session.monitor_alike sim (PrintedJournal.kinship config _) profiles fuel
    (EventHandler.reacting_alike config reaction) k (PrintedJournal.start config w)

/-- **A printer is transparent.**  With it and without it, calls on channels, displays and sessions
come to the same; it only prints, in order, a line for each attempt to write and for each read that
brought bytes, as far as they are to be shown; and from every line the direction, the number of
bytes and the bytes can be read. -/
theorem printing_transparent (config : PrintOptions) (T : Transport χ σ) (S : Source χ σ)
    (κ : Type) :
    ChannelsTransparent config T ∧ DisplaysTransparent config T ∧ SessionsTransparent config S κ
      ∧ ∀ line : TrafficLine, readTraffic config.format (line.render config.format)
          = some (line.direction, line.bytes.length, line.bytes) :=
  ⟨channelsTransparent config T, displaysTransparent config T, sessionsTransparent config S κ,
    readTraffic_render config.format⟩

end BrailleDisplay
