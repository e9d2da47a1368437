import BrailleDisplay.CommandLine.Program
import BrailleDisplay.Proofs.CommandLine.Custody
import BrailleDisplay.Proofs.Display.SessionUpkeep

/-!
# What writing cells does

All cells are read before anything is opened.  Then a display is connected, which leaves it blank;
cells that are too many for it are refused, and others are filled up with blank ones and shown,
unless all of them are blank.  On every way out the channel is closed once.

* `Presented` — what becomes of cells that fit a display, with the attempts this takes and what is
  printed; `showWindow_entered` says that one of these does;
* `Writing` — what becomes of cells on a channel that was opened;
* `showCells_entered` — from any session that keeps a journal and whose channels print nothing;
* `write_shows` — the command, on every bus and with every configuration.
-/

namespace BrailleDisplay.CommandLine

open World (HasPrinted)

/-! ## Cells -/

theorem mapM_cellOfDots_error {texts : List String} {text : String} {fault : CellFault}
    (among : text ∈ texts) (wrong : cellOfDots text = .error fault) :
    ∃ first, texts.mapM cellOfDots = .error first := by
  induction texts with
  | nil => cases among
  | cons first rest ih =>
    rw [List.mapM_cons]
    cases read : cellOfDots first with
    | error fault' => exact ⟨fault', rfl⟩
    | ok cell =>
      rcases List.mem_cons.mp among with rfl | later
      · rw [wrong] at read
        cases read
      · obtain ⟨fault', failed⟩ := ih later
        rw [failed]
        exact ⟨fault', rfl⟩

theorem padded_length {width : Nat} {cells : List UInt8} (fits : cells.length ≤ width) :
    (padded width cells).length = width := by
  rw [padded, List.rightpad, List.length_append, List.length_replicate]
  omega

/-- Filled up, the cells are blank exactly when each of them is. -/
theorem padded_eq_blank_iff {width : Nat} {cells : List UInt8} (fits : cells.length ≤ width) :
    padded width cells = List.replicate width 0 ↔ ∀ cell ∈ cells, cell = 0 := by
  rw [List.eq_replicate_iff, padded_length fits, padded, List.rightpad]
  constructor
  · rintro ⟨-, blank⟩ cell among
    exact blank cell (List.mem_append_left _ among)
  · intro blank
    refine ⟨rfl, fun cell among => ?_⟩
    rcases List.mem_append.mp among with given | filled
    · exact blank cell given
    · exact List.eq_of_mem_replicate filled

/-! ## On a display -/

/-- What is printed when blank cells were not sent. -/
def blankLine : String := "Display already blank"

/-- What is printed when cells were sent. -/
def writtenLine (cells : List UInt8) (width : Nat) : String :=
  s!"Wrote {cells.length}/{width} cells: " ++ " ".intercalate (cells.map dotsOfCell)

theorem writtenLine_ne (cells : List UInt8) (width : Nat) :
    writtenLine cells width ≠ blankLine := by
  intro same
  have first := congrArg (·.toList.head?) same
  simp [writtenLine, blankLine, show toString "Wrote " = "Wrote " from rfl] at first

/-- What becomes of cells that fit a window: the attempts to write this takes, the lines it prints
and what it answers, by what closing the channel did. -/
inductive Presented (window : Window) (cells : List UInt8) (closing : Except ChannelFault Unit) :
    List Attempt → List String → Except Failure Unit → Prop
  | unchanged (same : padded window.width cells = window.shown) :
      Presented window cells closing [] [blankLine] (closing.mapError .ofTransport)
  | written {attempt : Attempt} (differs : padded window.width cells ≠ window.shown)
      (shows : attempt.Shows window.dots (padded window.width cells))
      (acknowledged : attempt.result = .ok ()) :
      Presented window cells closing [attempt] [writtenLine cells window.width]
        (closing.mapError .ofTransport)
  | failed {attempt : Attempt} {fault : ChannelFault}
      (shows : attempt.Shows window.dots (padded window.width cells))
      (refused : attempt.result = .error fault) :
      Presented window cells closing [attempt] [] (.error (.ofDisplay (.transport fault)))

section

variable {χ σ : Type} {journal : σ → List Entry} {number : χ → Nat} {s : Session χ σ}
  (enters : s.source.Enters journal number) (mute : s.source.Mute)
include enters mute

/-- Releasing a display closes its channel and prints nothing. -/
theorem release_entered (display : Display χ) (w : World σ)
    (isOpen : display.link.closed = false) :
    ∃ closing w', release s display w = (closing.mapError .ofTransport, w')
      ∧ w'.outputLines = w.outputLines
      ∧ journal w'.plant.state
        = journal w.plant.state ++ [.closed (number display.link.channel) closing] := by
  have ended := Display.endWith_entered enters.transport .release (w := w) isOpen
  have printed : (display.release s.source.transport w).2.HasPrinted w.outputLines :=
    Display.release_upholds (mute.upholds w.outputLines).transport (World.hasPrinted_steady _)
      display rfl
  unfold Display.endWith at ended
  unfold release
  dsimp only at ended ⊢
  generalize display.release s.source.transport w = result at ended printed ⊢
  obtain ⟨outcome, w'⟩ := result
  obtain ⟨closing, answer, entered⟩ := ended
  obtain rfl := Option.some.inj answer
  exact ⟨_, w', rfl, printed, entered⟩

/-- Giving a display up closes its channel and prints nothing. -/
theorem giveUp_entered (failure : Failure) (display : Display χ) (w : World σ)
    (isOpen : display.link.closed = false) :
    ∃ closing w', giveUp s display failure w = (.error failure, w')
      ∧ w'.outputLines = w.outputLines
      ∧ journal w'.plant.state
        = journal w.plant.state ++ [.closed (number display.link.channel) closing] := by
  have printed : (display.drop s.source.transport w).HasPrinted w.outputLines :=
    Display.drop_upholds (mute.upholds w.outputLines).transport (World.hasPrinted_steady _)
      display rfl
  obtain ⟨closing, entered⟩ := Link.drop_entered enters.transport (w := w) isOpen
  exact ⟨closing, _, rfl, printed, entered⟩

/-- Cells that fit a display are presented on it, and its channel is closed. -/
theorem showWindow_entered (cells : List UInt8) {display : Display χ} (w : World σ)
    (narrow : display.window.width < 65536) (fits : cells.length ≤ display.columns)
    (isOpen : display.link.closed = false) :
    ∃ closing sent lines result w', showWindow s cells display w = (result, w')
      ∧ Presented display.window cells closing sent lines result
      ∧ UsedThenClosed (number display.link.channel) sent closing (journal w.plant.state)
          (journal w'.plant.state)
      ∧ w'.outputLines = w.outputLines ++ lines := by
  have updated := Window.update_exchange enters.transport (padded display.columns cells) narrow w
    isOpen
  have printed : (display.present s.source.transport (padded display.columns cells)
      w).2.2.HasPrinted w.outputLines :=
    Display.present_upholds (mute.upholds w.outputLines).transport (World.hasPrinted_steady _)
      _ display rfl
  unfold showWindow
  unfold Display.present at printed ⊢
  dsimp only at printed ⊢
  generalize display.window.update s.source.transport (padded display.columns cells) display.link w
    = result at updated printed ⊢
  obtain ⟨outcome, window, link, w₁⟩ := result
  obtain ⟨showings, talk, updated⟩ := updated
  have staysOpen : link.closed = false := talk.staysOpen
  have same : number link.channel = number display.link.channel := talk.same
  cases updated with
  | misfit misfits => exact absurd (padded_length fits) misfits
  | unchanged _ shown =>
    obtain ⟨closing, w', released, silent, entered⟩ := release_entered enters mute
      { display with link } (w₁.say blankLine) staysOpen
    refine ⟨closing, [], [blankLine], _, w', released, .unchanged shown,
      ⟨_, talk.used, same ▸ entered⟩, ?_⟩
    rw [silent, World.outputLines_say, printed]
  | @attempted attempt _ _ _ differs submitted =>
    obtain ⟨shows, rfl, -⟩ := submitted
    obtain ⟨bytes, acknowledged⟩ := attempt
    cases acknowledged with
    | error fault =>
      obtain ⟨closing, w', givenUp, silent, entered⟩ := giveUp_entered enters mute
        (.ofDisplay (.transport fault)) { display with window, link } w₁ staysOpen
      refine ⟨closing, _, [], _, w', givenUp, .failed shows rfl, ⟨_, talk.used, same ▸ entered⟩, ?_⟩
      rw [silent, printed, List.append_nil]
    | ok _ =>
      obtain ⟨closing, w', released, silent, entered⟩ := release_entered enters mute
        { display with window, link }
        (w₁.say (writtenLine cells display.columns)) staysOpen
      refine ⟨closing, _, [writtenLine cells display.columns], _, w', released,
        .written differs shows rfl, ⟨_, talk.used, same ▸ entered⟩, ?_⟩
      rw [silent, World.outputLines_say, printed]

end

/-! ## The command -/

/-- What becomes of cells on a channel that was opened, given the attempts to write over it, the
lines printed, and the answer.  First come the attempts of a course that brings up a display.  Cells
that are too many for the display fail, with nothing more attempted and nothing printed.  Success
means that they are not too many, that the last attempt of all was acknowledged and was to send
them, filled up with blank ones to the width of the display, in the wiring of its dots; and that one
line was printed, the one for a blank display exactly if all of the cells are blank.  With this line
nothing was attempted after the display had come up. -/
structure Writing (profile : Profile) (cells : List UInt8) (course : BringUp) (sent : List Attempt)
    (lines : List String) (result : Except Failure Unit) : Prop where
  follows : course.Follows profile
  connects : course.sent <+: sent
  overlong : course.width.cells.toNat < cells.length →
    (∃ failure, result = .error failure) ∧ sent = course.sent ∧ lines = []
  shows : result = .ok () → cells.length ≤ course.width.cells.toNat
    ∧ ∃ last line, sent.getLast? = some last ∧ last.result = .ok ()
      ∧ last.Shows profile.dots
          (cells ++ List.replicate (course.width.cells.toNat - cells.length) 0)
      ∧ lines = [line] ∧ (line = blankLine ↔ ∀ cell ∈ cells, cell = 0)
  blank : blankLine ∈ lines → sent = course.sent

/-- No display came up. -/
theorem Writing.ofFault {profile : Profile} {course : BringUp} (follows : course.Follows profile)
    (cells : List UInt8) (failure : Failure) :
    Writing profile cells course course.sent [] (.error failure) where
  follows := follows
  connects := List.prefix_rfl
  overlong _ := ⟨⟨failure, rfl⟩, rfl, rfl⟩
  shows succeeded := nomatch succeeded
  blank among := nomatch among

/-- Cells were presented on the display that came up. -/
theorem Writing.ofPresented {profile : Profile} {course : BringUp}
    (follows : course.Follows profile) (acknowledged : course.last.result = .ok ())
    {cells : List UInt8} (fits : cells.length ≤ course.width.cells.toNat)
    {closing : Except ChannelFault Unit} {sent : List Attempt} {lines : List String}
    {result : Except Failure Unit}
    (presented : Presented (course.window profile) cells closing sent lines result) :
    Writing profile cells course (course.sent ++ sent) lines result := by
  have wide : (course.window profile).width = course.width.cells.toNat := Window.width_blank _ _
  have shown : (course.window profile).shown = List.replicate course.width.cells.toNat 0 := rfl
  have overlong {P : Prop} (wider : course.width.cells.toNat < cells.length) : P :=
    absurd fits (Nat.not_le.mpr wider)
  cases presented with
  | unchanged same =>
    rw [shown, wide] at same
    rw [List.append_nil]
    refine ⟨follows, List.prefix_rfl, overlong, fun _ => ⟨fits, course.last, blankLine, ?_⟩,
      fun _ => rfl⟩
    have blank := (padded_eq_blank_iff fits).mp same
    refine ⟨List.getLast?_concat, acknowledged, ?_, rfl, iff_of_true rfl blank⟩
    have shows : course.last.Shows profile.dots _ := Attempt.shows_blank_iff.mpr follows.blanks
    rw [← same] at shows
    exact shows
  | @written attempt differs shows acknowledged =>
    rw [shown, wide] at differs
    rw [wide] at shows
    refine ⟨follows, List.prefix_append _ _, overlong, fun _ => ⟨fits, attempt, _,
      List.getLast?_concat, acknowledged, shows, rfl, ?_⟩, fun among => ?_⟩
    · have different : ¬∀ cell ∈ cells, cell = 0 := fun blank =>
        differs ((padded_eq_blank_iff fits).mpr blank)
      exact iff_of_false (writtenLine_ne _ _) different
    · exact absurd (List.mem_singleton.mp among).symm (writtenLine_ne _ _)
  | failed _ refused =>
    exact ⟨follows, List.prefix_append _ _, overlong, fun succeeded => (nomatch succeeded),
      fun among => (nomatch among)⟩

section

variable {χ σ : Type} {journal : σ → List Entry} {number : χ → Nat} {s : Session χ σ}

/-- Connecting prints nothing; a channel that is refused is not used, and one that is opened takes a
course for its profile. -/
theorem withDisplay_entered (enters : s.source.Enters journal number) (mute : s.source.Mute)
    (fuel : Nat) {w : World σ} (fresh : journal w.plant.state = [])
    {work : Display χ → World σ → Result σ} {channel : χ}
    (acquired : (s.source.acquire w.plant).value = .ok channel) :
    let profile := s.profiles.profileFor (s.source.transport.info channel)
    (withDisplay s fuel w work).Ends
      (fun (result, w') => ∃ course : BringUp, course.Follows profile
        ∧ match course.last.result with
          | .ok () => ∃ display w₁, work display w₁ = (result, w')
              ∧ display.window = course.window profile ∧ display.link.closed = false
              ∧ number display.link.channel = 0
              ∧ UsedFor 0 course.sent [.opened 0] (journal w₁.plant.state)
              ∧ w₁.outputLines = w.outputLines
          | .error fault => result = .error (.ofDisplay (.transport fault))
              ∧ (∃ closing,
                UsedThenClosed 0 course.sent closing [.opened 0] (journal w'.plant.state))
              ∧ w'.outputLines = w.outputLines)
      (fun w' => ∃ sent, BringUp.OnTheWay profile sent
        ∧ UsedFor 0 sent [.opened 0] (journal w'.plant.state)
        ∧ w'.outputLines = w.outputLines) := by
  intro profile
  have printed := Session.connect_upholds (mute.upholds w.outputLines)
    (World.hasPrinted_steady _) fuel rfl
  obtain ⟨first, opened⟩ := enters.acquired w.plant channel acquired
  rw [fresh] at first opened
  replace first : number channel = 0 := first
  have connected : s.connect fuel w = Display.bringUp s.source.transport fuel s.profiles channel
      (w.perform s.source.acquire).2 := by
    unfold Session.connect World.perform
    dsimp only
    rw [acquired]
  have course := Display.bringUp_course enters.transport fuel s.profiles channel
    (w.perform s.source.acquire).2
  have opened' : journal (w.perform s.source.acquire).2.plant.state = [.opened 0] := first ▸ opened
  rw [opened', first] at course
  rw [connected] at printed
  unfold withDisplay
  rw [connected]
  refine ((course.and printed).imp (fun _ => id) ?_).bind ?_
  · rintro w' ⟨⟨sent, onTheWay, used⟩, same⟩
    exact ⟨sent, onTheWay, used, same⟩
  rintro ⟨result, w₁⟩ ⟨⟨course, link₃, w₃, follows, talk, answer⟩, same⟩
  obtain ⟨found, exchange⟩ := talk.exchange
  have used := exchange.used
  rw [opened', first] at used
  cases acknowledged : course.last.result with
  | error fault =>
    rw [acknowledged] at answer
    obtain ⟨rfl, closing, entered⟩ := answer
    refine ⟨course, follows, ?_⟩
    rw [acknowledged]
    exact ⟨rfl, ⟨closing, _, used, entered⟩, same⟩
  | ok _ =>
    rw [acknowledged] at answer
    obtain ⟨display, rfl, -, window, rfl, unchanged⟩ := answer
    refine ⟨course, follows, ?_⟩
    rw [acknowledged]
    exact ⟨display, w₁, rfl, window, exchange.staysOpen, exchange.same.trans first,
      unchanged ▸ used, same⟩

theorem withDisplay_refused (enters : s.source.Enters journal number) (mute : s.source.Mute)
    (fuel : Nat) {w : World σ} (fresh : journal w.plant.state = [])
    (work : Display χ → World σ → Result σ) {fault : ChannelFault}
    (refused : (s.source.acquire w.plant).value = .error fault) :
    ∃ w', withDisplay s fuel w work = .ended (.error (.ofDisplay (.transport fault)), w')
      ∧ journal w'.plant.state = [.refused fault] ∧ w'.outputLines = w.outputLines := by
  have entered := enters.refused w.plant fault refused
  rw [fresh] at entered
  have printed : (w.perform s.source.acquire).2.HasPrinted w.outputLines :=
    (mute.upholds w.outputLines).acquire rfl
  refine ⟨_, ?_, entered, printed⟩
  unfold withDisplay Session.connect World.perform
  dsimp only
  rw [refused]
  rfl

/-- What becomes of cells when a display is connected for them. -/
def Shows (journal : σ → List Entry) (s : Session χ σ) (cells : List UInt8) (w : World σ)
    (run : Bounded σ (Result σ)) : Prop :=
  match (s.source.acquire w.plant).value with
  | .error fault =>
    ∃ w', run = .ended (.error (.ofDisplay (.transport fault)), w')
      ∧ journal w'.plant.state = [.refused fault] ∧ w'.outputLines = w.outputLines
  | .ok channel =>
    let profile := s.profiles.profileFor (s.source.transport.info channel)
    run.Ends
      (fun (result, w') => ∃ course sent closing lines,
        UsedThenClosed 0 sent closing [.opened 0] (journal w'.plant.state)
          ∧ w'.outputLines = w.outputLines ++ lines
          ∧ Writing profile cells course sent lines result)
      (fun w' => ∃ sent, UsedFor 0 sent [.opened 0] (journal w'.plant.state)
        ∧ w'.outputLines = w.outputLines ∧ BringUp.OnTheWay profile sent)

theorem showCells_entered (enters : s.source.Enters journal number) (mute : s.source.Mute)
    (fuel : Nat) {texts : List String} {cells : List UInt8}
    (read : texts.mapM cellOfDots = .ok cells) {w : World σ} (fresh : journal w.plant.state = []) :
    Shows journal s cells w (showCells s fuel texts w) := by
  unfold Shows showCells
  rw [read]
  cases acquired : (s.source.acquire w.plant).value with
  | error fault => exact withDisplay_refused enters mute fuel fresh _ acquired
  | ok channel =>
    refine (withDisplay_entered enters mute fuel fresh acquired).imp ?_ ?_
    · rintro ⟨result, w'⟩ ⟨course, follows, answer⟩
      cases acknowledged : course.last.result with
      | error fault =>
        rw [acknowledged] at answer
        obtain ⟨rfl, ⟨closing, disposed⟩, printed⟩ := answer
        exact ⟨course, course.sent, closing, [], disposed, by rw [printed, List.append_nil],
          .ofFault follows cells _⟩
      | ok _ =>
        rw [acknowledged] at answer
        obtain ⟨display, w₁, worked, window, isOpen, first, used, printed⟩ := answer
        have wide : display.columns = course.width.cells.toNat :=
          (congrArg Window.width window).trans (Window.width_blank _ _)
        dsimp only at worked
        by_cases wider : display.columns < cells.length
        · rw [if_pos wider] at worked
          obtain ⟨closing, w₂, released, silent, entered⟩ := release_entered enters mute display w₁
            isOpen
          rw [first] at entered
          have failed : ∃ failure, (.error failure, w₂) = (result, w') := by
            rw [released] at worked
            cases closing with
            | error fault => exact ⟨_, worked⟩
            | ok _ => exact ⟨_, worked⟩
          obtain ⟨failure, same⟩ := failed
          cases same
          exact ⟨course, course.sent, closing, [], ⟨_, used, entered⟩,
            by rw [silent, printed, List.append_nil], .ofFault follows cells failure⟩
        · rw [if_neg wider] at worked
          have narrow : display.window.width < 65536 := window ▸ Window.width_blank_lt _ _
          have fits : cells.length ≤ display.columns := Nat.le_of_not_lt wider
          obtain ⟨closing, sent, lines, _, _, shown, presented, disposed, said⟩ :=
            showWindow_entered enters mute cells w₁ narrow fits isOpen
          rw [shown] at worked
          cases worked
          rw [window] at presented
          rw [first] at disposed
          exact ⟨course, _, closing, lines, used.thenClosed disposed, by rw [said, printed],
            .ofPresented follows acknowledged (wide ▸ fits) presented⟩
    · rintro w' ⟨sent, onTheWay, used, printed⟩
      exact ⟨sent, used, printed, onTheWay⟩

end

variable {χ σ : Type}

/-- What a session that keeps a journal from the start makes of the command. -/
def WritesCells (s : Session χ (Journaled σ)) (texts : List String) (w : World (Journaled σ))
    (run : Bounded (Journaled σ) (Result (Journaled σ))) : Prop :=
  (∀ text ∈ texts, ∀ fault, cellOfDots text = .error fault →
    ∃ failure, run = .ended (.error failure, w))
  ∧ ∀ cells, texts.mapM cellOfDots = .ok cells → Shows Journaled.journal s cells w run

theorem writesCells_of_enters {s : Session χ (Journaled σ)} {number : χ → Nat}
    (enters : s.source.Enters Journaled.journal number) (mute : s.source.Mute) (fuel : Nat)
    (texts : List String) (w : World σ) :
    WritesCells s texts w.journaled (showCells s fuel texts w.journaled) := by
  refine ⟨fun text among fault wrong => ?_, fun cells read =>
    showCells_entered enters mute fuel read rfl⟩
  obtain ⟨fault', failed⟩ := mapM_cellOfDots_error among wrong
  rw [showCells, failed]
  exact ⟨_, rfl⟩

/-- **Writing cells shows them and nothing else.**  On every bus, with every locator and all
profiles, with and without printed traffic: if one of the texts is no cell, the command fails with
the world as it was; that is so of the whole program.  Otherwise the display is opened.  If that
fails, so does the command.  A channel that was opened is used and then closed, once, on every way
out; cells that are too many for the display fail after the attempts that bringing it up takes; and
success means that the last frame attempted, which was acknowledged, carries the cells, filled up
with blank ones to the width of the display and in the wiring of its dots.  The display is said to
be blank already exactly if all the cells are, and then nothing was attempted after it came up. -/
theorem write_shows {η : Type} (B : HidBus η σ) (setup : Setup) (fuel : Nat) (texts : List String)
    (w : World σ) :
    let session : Session (Numbered (ReportChannel η)) (Journaled σ) :=
      ⟨(displaySource B {} setup.locator).journaled, setup.profiles⟩
    WritesCells session texts w.journaled
      ((Command.write texts).run B.besideJournal fuel setup session w.journaled)
    ∧ (∀ config, WritesCells (session.printed config) texts w.journaled
      ((Command.write texts).run B.besideJournal fuel setup (session.printed config) w.journaled))
    ∧ ∀ (invocation : Invocation) (file : ConfigFile) (contents : FileContents),
      invocation.command = .write texts → (∃ text ∈ texts, (cellOfDots text).isOk = false) →
        ∃ failure, perform B fuel invocation file contents w = .ended (.error failure, w) := by
  intro session
  have enters := (displaySource B {} setup.locator).enters_journaled
  have mute := (displaySource_mute B {} setup.locator).journaled
  refine ⟨writesCells_of_enters enters mute fuel texts w, fun config => ?_, ?_⟩
  · exact writesCells_of_enters (s := session.printed config) (enters.printed config)
      (mute.printed config) fuel texts w
  · rintro invocation file contents asked ⟨text, among, wrong⟩
    have failed : ∃ fault, texts.mapM cellOfDots = .error fault := by
      cases read : cellOfDots text with
      | error fault => exact mapM_cellOfDots_error among read
      | ok cell =>
        rw [read] at wrong
        cases wrong
    obtain ⟨fault, failed⟩ := failed
    unfold perform
    cases Setup.prepare invocation file contents with
    | error failure => exact ⟨failure, rfl⟩
    | ok setup =>
      dsimp only
      rw [asked]
      cases setup.printer with
      | none =>
        refine ⟨.ofDisplay (.invalidCell fault), ?_⟩
        show showCells _ fuel texts w = _
        rw [showCells, failed]
      | some config =>
        refine ⟨.ofDisplay (.invalidCell fault), ?_⟩
        show showCells _ fuel texts w = _
        rw [showCells, failed]

end BrailleDisplay.CommandLine
