import BrailleDisplay.Proofs.Channel.Journal
import BrailleDisplay.Proofs.Display.Custodian

/-!
# Who holds which channel

A session holds at most one channel at a time.  The journal of the channels bears it out, whatever
the devices do.

* `InUse`, `AtRest`, `InOrder` — by the journal a certain channel is open, or none, or at most one;
* `Source.Enters.custodian` — using, opening and closing channels lead from one to the other;
* `Settled`, `InTurn` — what a journal in order comes to;
* `Session.monitor_alternates` — what monitoring does, with or without a printer.
-/

namespace BrailleDisplay

variable {χ σ κ : Type} {journal : σ → List Entry} {number : χ → Nat}

/-! ## States of the journal -/

variable (journal number) in
/-- By the journal the channel is open, and no other. -/
def InUse (c : χ) (plant : Plant σ) : Prop :=
  ∃ count, Orderly (some (number c)) count (journal plant.state)

variable (journal) in
/-- By the journal no channel is open. -/
def AtRest (plant : Plant σ) : Prop :=
  ∃ count, Orderly none count (journal plant.state)

variable (journal) in
/-- By the journal at most one channel is open. -/
def InOrder (plant : Plant σ) : Prop :=
  ∃ holder count, Orderly holder count (journal plant.state)

/-- Writing and reading leave the channel the one that is open. -/
theorem Transport.Enters.keeps {T : Transport χ σ} (enters : T.Enters journal number) :
    T.Keeps (InUse journal number) where
  write bytes c plant held := by
    obtain ⟨count, orderly⟩ := held
    obtain ⟨entered, same⟩ := enters.write bytes c plant
    refine ⟨count, ?_⟩
    rw [entered, same]
    exact orderly.used _
  read limit timeout c plant held := by
    obtain ⟨count, orderly⟩ := held
    obtain ⟨entered, same⟩ := enters.read limit timeout c plant
    refine ⟨count, ?_⟩
    rw [entered, same]
    exact orderly.used _

/-- **Opening, using and closing channels lead from one state of the journal to the other.** -/
theorem Source.Enters.custodian {S : Source χ σ} (enters : S.Enters journal number) :
    S.Custodian (InUse journal number) (AtRest journal) where
  transport :=
    { keeps := enters.transport.keeps
      closed := fun c plant ⟨count, orderly⟩ => by
        refine ⟨count, ?_⟩
        rw [enters.transport.close c plant]
        exact orderly.closed _ }
  acquired plant c free found := by
    obtain ⟨count, orderly⟩ := free
    obtain ⟨fresh, entered⟩ := enters.acquired plant c found
    refine ⟨count + 1, ?_⟩
    rw [entered, fresh, orderly.openings_eq]
    exact orderly.opened
  refused plant fault free found := by
    obtain ⟨count, orderly⟩ := free
    refine ⟨count, ?_⟩
    rw [enters.refused plant fault found]
    exact orderly.refused fault
  waited _ _ _ held := held
  rested _ _ free := free

/-- A channel that is open, or none, is at most one. -/
theorem HeldOrFree.inOrder {plant : Plant σ}
    (either : HeldOrFree (InUse journal number) (AtRest journal) plant) :
    InOrder journal plant := by
  rcases either with ⟨c, count, orderly⟩ | ⟨count, orderly⟩
  · exact ⟨some (number c), count, orderly⟩
  · exact ⟨none, count, orderly⟩

/-! ## Journals of whole runs -/

/-- Every channel that was opened has been closed once, before the next one was opened. -/
def Settled (journal : List Entry) : Prop :=
  ∃ count, lifetimes journal = lives count

/-- At every moment of the journal, all channels opened by then had been closed once, each before
the next one was opened, except that the last one may have been open. -/
def InTurn (journal : List Entry) : Prop :=
  ∀ moment, moment <+: journal →
    Settled moment ∨ ∃ count, lifetimes moment = lives count ++ [.opening count]

theorem Orderly.inTurn {holder : Option Nat} {count : Nat} {journal : List Entry}
    (orderly : Orderly holder count journal) : InTurn journal := by
  intro moment before
  obtain ⟨holder', count', orderly'⟩ := orderly.of_isPrefix before
  cases holder' with
  | none => exact .inl ⟨count', orderly'.lifetimes_idle⟩
  | some number => exact .inr ⟨number, orderly'.lifetimes_held⟩

/-- The handler, with the journal kept from it. -/
def EventHandler.shielded (handle : EventHandler χ (Journaled σ) κ) :
    EventHandler χ (Journaled σ) κ := fun display event k w =>
  let (onward, k, w') := handle display event k w
  (onward, k, { w' with plant := w'.plant.bare.withJournal w.plant.state.journal })

/-- All channels are opened and closed in turn, at every moment of the run, and when it ends every
channel it opened has been closed once. -/
def Bounded.Alternates
    (run : Bounded (Journaled σ) (Except DisplayFault Nat × κ × World (Journaled σ))) : Prop :=
  run.Ends
    (fun (_, _, w) => Settled w.plant.state.journal ∧ InTurn w.plant.state.journal)
    (fun w => InTurn w.plant.state.journal)

theorem Session.monitor_journaled {s : Session χ (Journaled σ)}
    (enters : s.source.Enters Journaled.journal number) (fuel : Nat)
    (handle : EventHandler χ (Journaled σ) κ) (k : κ) (w : World σ) :
    (s.monitor fuel handle.shielded k w.journaled).Alternates := by
  have heeds : Heeds (InUse Journaled.journal number) handle.shielded := fun _ _ _ _ _ held => held
  have rest : AtRest Journaled.journal w.journaled.plant := ⟨0, .start⟩
  refine (monitor_custody enters.custodian fuel heeds k rest).imp ?_ ?_
  · intro (_, _, w) ⟨count, orderly⟩
    exact ⟨⟨count, orderly.lifetimes_idle⟩, orderly.inTurn⟩
  · intro w either
    obtain ⟨_, _, orderly⟩ := either.inOrder
    exact orderly.inTurn

/-- **Monitoring opens and closes channels in turn**, wherever they come from, whatever the devices
and the handler do, and whether or not the traffic is printed.  A channel is opened only after the
one before it has been closed, and when monitoring ends, in whatever way, each has been closed once:
also those on which no display could be brought up, and those whose closing failed. -/
theorem Session.monitor_alternates (S : Source χ σ) (profiles : ProfileSet) (fuel : Nat)
    (w : World σ) :
    let session : Session (Numbered χ) (Journaled σ) := ⟨S.journaled, profiles⟩
    (∀ (handle : EventHandler _ _ κ) (k : κ),
      (session.monitor fuel handle.shielded k w.journaled).Alternates)
    ∧ ∀ (config : PrintOptions) (handle : EventHandler _ _ κ) (k : κ),
      ((session.printed config).monitor fuel handle.shielded k w.journaled).Alternates := by
  have enters := S.enters_journaled
  refine ⟨fun handle k => monitor_journaled enters fuel handle k w, fun config handle k => ?_⟩
  exact monitor_journaled (enters.printed config) fuel handle k w

end BrailleDisplay
