import BrailleDisplay.CommandLine.Program
import BrailleDisplay.Proofs.Display.Custody
import BrailleDisplay.Proofs.Display.Lifetime

/-!
# Commands close what they open

A command may end before its work is done: no display comes up, the cells are too many for it, or
the channel fails.  On every way out the display is released or let go of, so the channel is closed.

* `release_custody`, `giveUp_custody` — the two ways to be done with a display;
* `run_custody` — every command ends while no channel is held;
* `channel_closed_once` — what lifetimes of displays, commands, and runs of requests to a link have
  in common.
-/

namespace BrailleDisplay

/-! ## A bus without a journal -/

section

variable {η σ α : Type}

/-- An operation that enters nothing. -/
def Plant.unentered (plant : Plant (Journaled σ)) (operation : Plant σ → α × Plant σ) :
    α × Plant (Journaled σ) :=
  let (answer, plant') := operation plant.bare
  (answer, plant'.withJournal plant.state.journal)

/-- The same bus beside a journal in which nothing of it is entered. -/
def HidBus.besideJournal (B : HidBus η σ) : HidBus η (Journaled σ) where
  enumerate plant := plant.unentered B.enumerate
  openEntry entry plant := plant.unentered (B.openEntry entry)
  writeReport report handle plant := plant.unentered (B.writeReport report handle)
  readReport limit timeout handle plant := plant.unentered (B.readReport limit timeout handle)

end

namespace CommandLine

variable {χ σ η : Type} {Held : χ → Plant σ → Prop} {Free : Plant σ → Prop} {s : Session χ σ}

/-! ## Being done with a display -/

theorem plant_sayAll (lines : List String) (w : World σ) : (w.sayAll lines).plant = w.plant := by
  induction lines generalizing w with
  | nil => rfl
  | cons line rest ih => exact ih (w.say line)

theorem release_custody (custodian : s.source.Custodian Held Free) {display : Display χ}
    {w : World σ} (kept : display.link.Keeping Held w.plant) :
    Free (release s display w).2.plant :=
  display.release_frees custodian.transport.closed kept

theorem giveUp_custody (custodian : s.source.Custodian Held Free) {display : Display χ}
    (failure : Failure) {w : World σ} (kept : display.link.Keeping Held w.plant) :
    Free (giveUp s display failure w).2.plant :=
  Link.drop_frees custodian.transport.closed kept

/-! ## Commands -/

/-- A command that works on a display frees the channel if its work does. -/
theorem withDisplay_custody (custodian : s.source.Custodian Held Free) (fuel : Nat) {w : World σ}
    (free : Free w.plant) {work : Display χ → World σ → Result σ}
    (frees : ∀ display w, display.link.Keeping Held w.plant → Free (work display w).2.plant) :
    (withDisplay s fuel w work).Ends
      (fun (_, w') => Free w'.plant) (fun w' => HeldOrFree Held Free w'.plant) := by
  unfold withDisplay
  refine (Session.connect_custody custodian fuel free).bind ?_
  intro (connected, w₁) custody
  cases connected with
  | error e => exact custody
  | ok display => exact frees display w₁ custody

theorem showInfo_custody (custodian : s.source.Custodian Held Free) (fuel : Nat) {w : World σ}
    (free : Free w.plant) :
    (showInfo s fuel w).Ends
      (fun (_, w') => Free w'.plant) (fun w' => HeldOrFree Held Free w'.plant) := by
  refine withDisplay_custody custodian fuel free fun display w₁ kept => ?_
  have told : display.link.Keeping Held
      (w₁.sayAll (displayLines (display.deviceInfo s.source.transport) display)).plant := by
    rw [plant_sayAll]
    exact kept
  exact release_custody custodian told

theorem showWindow_custody (custodian : s.source.Custodian Held Free) (cells : List UInt8)
    {display : Display χ} {w : World σ} (kept : display.link.Keeping Held w.plant) :
    Free (showWindow s cells display w).2.plant := by
  have presented := Window.update_keeps custodian.transport.keeps
    (padded display.columns cells) display.window kept
  unfold showWindow Display.present
  dsimp only
  generalize display.window.update s.source.transport (padded display.columns cells) display.link w
    = result at presented ⊢
  obtain ⟨outcome, window, link, w₁⟩ := result
  match outcome with
  | .error e => exact giveUp_custody custodian _ presented
  | .ok .unchanged => exact release_custody custodian presented
  | .ok .transmitted => exact release_custody custodian presented

theorem showCells_custody (custodian : s.source.Custodian Held Free) (fuel : Nat)
    (texts : List String) {w : World σ} (free : Free w.plant) :
    (showCells s fuel texts w).Ends
      (fun (_, w') => Free w'.plant) (fun w' => HeldOrFree Held Free w'.plant) := by
  unfold showCells
  cases texts.mapM cellOfDots with
  | error e => exact free
  | ok cells =>
    refine withDisplay_custody custodian fuel free fun display w₁ kept => ?_
    dsimp only
    by_cases wide : display.columns < cells.length
    · -- the display is released before the cells are found to be too many
      rw [if_pos wide]
      have released := release_custody custodian kept
      generalize release s display w₁ = result at released ⊢
      match result with
      | (.error failure, w₂) => exact released
      | (.ok (), w₂) => exact released
    · rw [if_neg wide]
      exact showWindow_custody custodian cells kept

theorem clearDisplay_custody (custodian : s.source.Custodian Held Free) (fuel : Nat) {w : World σ}
    (free : Free w.plant) :
    (clearDisplay s fuel w).Ends
      (fun (_, w') => Free w'.plant) (fun w' => HeldOrFree Held Free w'.plant) := by
  refine withDisplay_custody custodian fuel free fun display w₁ kept => ?_
  have erased := Window.erase_keeps custodian.transport.keeps display.window kept
  unfold Display.clear
  dsimp only
  generalize display.window.erase s.source.transport display.link w₁ = result at erased ⊢
  obtain ⟨outcome, window, link, w₂⟩ := result
  cases outcome with
  | error e => exact giveUp_custody custodian _ erased
  | ok _ => exact release_custody custodian erased

theorem printKeys_custody (custodian : s.source.Custodian Held Free) (fuel : Nat)
    (count : Option Nat) (json : Bool) {w : World σ} (free : Free w.plant) :
    (printKeys s fuel count json w).Ends
      (fun (_, w') => Free w'.plant) (fun w' => HeldOrFree Held Free w'.plant) := by
  have heeds : Session.Heeds Held (printEvent (χ := χ) (σ := σ) count json) :=
    fun _ _ _ _ _ held => held
  unfold printKeys
  dsimp only
  refine (Session.monitor_custody custodian fuel heeds 0 ?_).bind fun _ ended => ended
  cases json with
  | true => exact free
  | false => exact free

/-- **Every command frees what it holds**, on every way out. -/
theorem run_custody (custodian : s.source.Custodian Held Free) (command : Command) {B : HidBus η σ}
    (listing : ∀ plant, Free plant → Free (listDisplays B {} plant).plant) (fuel : Nat)
    (setup : Setup) {w : World σ} (free : Free w.plant) :
    (command.run B fuel setup s w).Ends
      (fun (_, w') => Free w'.plant) (fun w' => HeldOrFree Held Free w'.plant) := by
  cases command with
  | list =>
    have found := listing w.plant free
    unfold Command.run printDisplays World.perform
    dsimp only
    cases (listDisplays B {} w.plant).value with
    | error e => exact found
    | ok devices =>
      show Free (World.plant _)
      rw [plant_sayAll]
      exact found
  | info => exact showInfo_custody custodian fuel free
  | profiles json =>
    cases json with
    | true => exact free
    | false =>
      show Free (w.sayAll (profileSetLines setup.profiles)).plant
      rw [plant_sayAll]
      exact free
  | write cells => exact showCells_custody custodian fuel cells free
  | clear => exact clearDisplay_custody custodian fuel free
  | keys count json => exact printKeys_custody custodian fuel count json free

/-- Looking at the bus enters nothing. -/
theorem listDisplays_atRest (B : HidBus η σ) (plant : Plant (Journaled σ))
    (rest : AtRest Journaled.journal plant) :
    AtRest Journaled.journal (listDisplays B.besideJournal {} plant).plant := by
  have same : (B.besideJournal.enumerate plant).2.state.journal = plant.state.journal := rfl
  obtain ⟨count, orderly⟩ := rest
  refine ⟨count, ?_⟩
  unfold listDisplays
  generalize B.besideJournal.enumerate plant = result at same ⊢
  obtain ⟨found, plant'⟩ := result
  rw [← same] at orderly
  cases found with
  | error text => exact orderly
  | ok entries => exact orderly

/-- By the journal, every command has closed each channel it opened, once and with nothing done to
it afterwards, before it opened another and before it ended. -/
theorem run_atRest {s : Session χ (Journaled σ)} {number : χ → Nat}
    (enters : s.source.Enters Journaled.journal number) (command : Command) (B : HidBus η σ)
    (fuel : Nat) (setup : Setup) (w : World σ) :
    (command.run B.besideJournal fuel setup s w.journaled).Ends
      (fun (_, w') => AtRest Journaled.journal w'.plant)
      (fun w' => InOrder Journaled.journal w'.plant) := by
  have rest : AtRest Journaled.journal w.journaled.plant := ⟨0, .start⟩
  exact (run_custody enters.custodian command (listDisplays_atRest B) fuel setup rest).imp
    (fun _ => id) fun _ => HeldOrFree.inOrder

end CommandLine

/-! ## Once and for all -/

/-- All that was done is that the channel of this number was used. -/
def OnlyUsed (number : Nat) (journal : List Entry) : Prop :=
  ∃ uses : List Use, journal = uses.map (.used number)

/-- All that was done is that the channel of this number was used and then closed. -/
def ClosedOnce (number : Nat) (outcome : Except ChannelFault Unit) (journal : List Entry) : Prop :=
  ∃ uses : List Use, journal = uses.map (.used number) ++ [.closed number outcome]

theorem UsedFor.onlyUsed {number : Nat} {sent : List Attempt} {journal : List Entry}
    (used : UsedFor number sent [] journal) : OnlyUsed number journal := by
  obtain ⟨uses, entered, -⟩ := used.fromStart
  exact ⟨uses, entered⟩

theorem UsedThenClosed.closedOnce {number : Nat} {sent : List Attempt}
    {outcome : Except ChannelFault Unit} {journal : List Entry}
    (disposed : UsedThenClosed number sent outcome [] journal) :
    ClosedOnce number outcome journal := by
  obtain ⟨between, used, entered⟩ := disposed
  obtain ⟨uses, rfl, -⟩ := used.fromStart
  exact ⟨uses, entered⟩

/-- **A channel is closed exactly once, and left alone after that.**

* A display that is brought up on a channel, used, and then released or let go of: the channel is
  used, then closed, and that is all; also if no display came up, and if closing failed.
* A command: each channel it opens is used only while it is open, and has been closed once when the
  command ends, on every way out.
* A link: requests use its channel up to the first that closes it; all later ones are refused, or
  closing again succeeds, and nothing is done to the channel. -/
theorem channel_closed_once {χ σ η : Type} (T : Transport χ σ) (fuel : Nat) (w : World σ) :
    (∀ (profiles : ProfileSet) (channel : Numbered χ) (calls : List DisplayCall) (ending : Ending),
      (Display.live T.journaled fuel profiles channel calls ending w.journaled).Ends
        (fun (result, w') => ∃ outcome,
          ClosedOnce channel.number outcome w'.plant.state.journal
            ∧ ∀ legacy, result = .ok legacy → legacy.closing = ending.answer outcome)
        (fun w' => OnlyUsed channel.number w'.plant.state.journal))
    ∧ (∀ (S : Source χ σ) (profiles : ProfileSet) (B : HidBus η σ)
        (setup : CommandLine.Setup) (command : CommandLine.Command),
      let session : Session (Numbered χ) (Journaled σ) := ⟨S.journaled, profiles⟩
      (command.run B.besideJournal fuel setup session w.journaled).Ends
          (fun (_, w') => AtRest Journaled.journal w'.plant)
          (fun w' => InOrder Journaled.journal w'.plant)
        ∧ ∀ config,
          (command.run B.besideJournal fuel setup (session.printed config) w.journaled).Ends
            (fun (_, w') => AtRest Journaled.journal w'.plant)
            (fun w' => InOrder Journaled.journal w'.plant))
    ∧ ∀ (channel : Numbered χ) (requests : List LinkRequest),
      (Link.serve T.journaled fuel requests { channel } w.journaled).Ends
        (fun (replies, link, w') =>
          Link.Served Journaled.journal Numbered.number { channel } w.journaled requests replies
              link w'
            ∧ ∃ outcome, ClosedOnce channel.number outcome
                (link.drop T.journaled w').plant.state.journal)
        (fun w' => OnlyUsed channel.number w'.plant.state.journal) := by
  refine ⟨fun profiles channel calls ending => ?_, fun S profiles B setup command => ⟨?_, ?_⟩,
    fun channel requests => ?_⟩
  · have lifetime :=
      Display.live_used T.enters_journaled fuel profiles channel calls ending w.journaled
    refine lifetime.imp ?_ ?_
    · rintro ⟨result, w'⟩ ⟨cells, sent, outcome, -, -, disposed, leaves⟩
      exact ⟨outcome, disposed.closedOnce, fun legacy left => (leaves legacy left).2⟩
    · rintro w' ⟨cells, sent, -, -, used⟩
      exact used.onlyUsed
  · exact CommandLine.run_atRest S.enters_journaled command B fuel setup w
  · intro config
    exact CommandLine.run_atRest (S.enters_journaled.printed config) command B fuel setup w
  · refine (Link.serve_closes T fuel requests channel w).imp ?_ ?_
    · intro (replies, link, w') ⟨served, sent, outcome, disposed⟩
      exact ⟨served, outcome, disposed.closedOnce⟩
    · intro w' ⟨sent, used⟩
      exact used.onlyUsed

end BrailleDisplay
