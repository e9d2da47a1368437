import BrailleDisplay.Proofs.Display.Buffers

/-!
# When cells need not be sent again

A display that is asked to show what it is known to show leaves the device alone.  On a HID device
that is right as long as the device was handed nothing else since; but a report of which the HID
system says that it was sent only in part has been handed over all the same.

* `Display.Knows.fitsReport` — every buffer a display sends fits a report, so the device is handed
  one report for each attempt;
* `lastShown`, `DeviceShows` — the last report that told the device to show cells;
* `Display.Knows.deviceShows` — it is that of the last attempt, acknowledged or not;
* `Display.WhenUnchanged`, `Display.unchanged_shown` — so if that was acknowledged, cells that need
  not be sent are shown;
* `Display.SuppressesSafely`, `Display.unchanged_stale` — and if not, something else may be shown.
-/

namespace BrailleDisplay

/-! ## Buffers that fit a report -/

namespace Display

variable {χ σ : Type}

/-- All that was said to a display may be said to displays of its profile with as many cells. -/
theorem Knows.utters {display : Display (Numbered χ)} {profile : Profile} {channel : Numbered χ}
    {w : World (Journaled σ)} (knows : display.Knows profile channel w) :
    ∀ attempt ∈ attempted w.plant.state.journal,
      profile.Utters display.width.cells.toNat attempt := by
  obtain ⟨course, showings, uses, follows, yields, journal, sent, -, fitting, -⟩ := knows.remembers
  have wide : display.window.width = display.width.cells.toNat := knows.columns
  intro attempt among
  rw [journal, attempted_used, sent] at among
  rcases List.mem_append.mp among with early | late
  · rw [yields.width]
    exact follows.utters attempt (List.mem_append_left _ early)
  · rw [← wide]
    exact fitting.utters attempt late

/-- **Every buffer a display sends fits a report.** -/
theorem Knows.fitsReport {display : Display (Numbered χ)} {profiles : ProfileSet}
    (accepted : profiles.Accepted) {info : DeviceInfo} {channel : Numbered χ}
    {w : World (Journaled σ)} (knows : display.Knows (profiles.profileFor info) channel w) :
    ∀ attempt ∈ attempted w.plant.state.journal, FitsReport attempt.bytes := by
  obtain ⟨course, _, _, follows, yields, _⟩ := knows.remembers
  have narrow : display.width.cells.toNat ≤ maxCells.toNat := by
    obtain ⟨-, limit⟩ := follows.cells_bounds accepted
    rw [yields.width]
    exact UInt8.le_iff_toNat_le.mp limit
  exact fun attempt among => (knows.utters attempt among).fitsReport narrow

end Display

/-! ## What the device shows -/

/-- Whether a report tells the device to show cells. -/
def showsCells (report : List UInt8) : Bool :=
  report[1]? == some 0xFC

/-- The last report that told the device to show cells. -/
def lastShown (reports : List (List UInt8)) : Option (List UInt8) :=
  (reports.filter showsCells).getLast?

theorem lastShown_concat (reports : List (List UInt8)) {report : List UInt8}
    (shows : showsCells report = true) : lastShown (reports ++ [report]) = some report := by
  rw [lastShown, List.filter_append, List.filter_singleton, shows]
  exact List.getLast?_concat

/-- A device of this wiring shows cells: a report carried the frame that tells it to, and none since
then told it to show any. -/
def DeviceShows (reports : List (List UInt8)) (wiring : DotWiring) (cells : List UInt8) : Prop :=
  ∃ (frame : HostFrame) (bytes : List UInt8), frame.Shows wiring cells
    ∧ frame.encode = .ok bytes ∧ lastShown reports = some (reportOf bytes)

instance (reports : List (List UInt8)) (wiring : DotWiring) (cells : List UInt8) :
    Decidable (DeviceShows reports wiring cells) :=
  let frame : HostFrame := ⟨0xFC, 1, wiring.driveAll cells, []⟩
  match written : frame.encode with
  | .ok bytes =>
    decidable_of_iff (lastShown reports = some (reportOf bytes))
      ⟨fun last => ⟨frame, bytes, HostFrame.shows_iff.mpr rfl, written, last⟩,
        fun ⟨_, _, shows, written', last⟩ => by
          cases HostFrame.shows_iff.mp shows
          cases written.symm.trans written'
          exact last⟩
  | .error _ => .isFalse fun ⟨_, _, shows, written', _⟩ => by
      cases HostFrame.shows_iff.mp shows
      cases written.symm.trans written'

/-- The frame of a window in a report tells the device to show cells. -/
theorem showsCells_reportOf {frame : HostFrame} {wiring : DotWiring} {cells bytes : List UInt8}
    (shows : frame.Shows wiring cells) (written : frame.encode = .ok bytes) :
    showsCells (reportOf bytes) = true := by
  cases HostFrame.shows_iff.mp shows
  obtain ⟨head, -⟩ := HostFrame.shape_of_encode written
  cases bytes with
  | nil => cases head
  | cons b rest =>
    cases head
    rfl

namespace Display

variable {χ η σ : Type}

/-- **The device shows the cells of the last attempt**, whatever became of it; and if it was
acknowledged, these are the cells the display remembers. -/
theorem Knows.deviceShows {display : Display (Numbered χ)} {profile : Profile}
    {channel : Numbered χ} {w : World (Journaled (Handed σ))}
    (knows : display.Knows profile channel w)
    (handed : w.plant.state.inner.reports
      = (attempted w.plant.state.journal).map fun attempt => reportOf attempt.bytes) :
    ∃ last : Showing, (attempted w.plant.state.journal).getLast? = some last.attempt
      ∧ DeviceShows w.plant.state.inner.reports display.window.dots last.cells
      ∧ (last.acknowledged = true → last.cells = display.shown) := by
  obtain ⟨course, showings, uses, -, -, journal, sent, first, fitting, remembered⟩ :=
    knows.remembers
  -- the first attempt is the one that blanked the display, so there is a last one
  rcases List.eq_nil_or_concat' showings with rfl | ⟨before, last, rfl⟩
  · cases first
  rw [List.map_append, ← List.append_assoc] at sent
  have latest : attempted w.plant.state.journal
      = (course.probes.map Round.attempt ++ course.requests.map Round.attempt
          ++ before.map Showing.attempt) ++ [last.attempt] := by
    rw [journal, attempted_used]
    exact sent
  obtain ⟨-, frame, shows, sends⟩ :=
    fitting last (List.mem_append_right _ (List.mem_singleton_self _))
  refine ⟨last, latest ▸ List.getLast?_concat, ⟨frame, last.attempt.bytes, shows, sends, ?_⟩, ?_⟩
  · rw [handed, latest, List.map_append]
    exact lastShown_concat _ (showsCells_reportOf shows sends)
  · intro acknowledged
    rw [lastAcknowledged_concat, if_pos acknowledged] at remembered
    exact Option.some.inj remembered

/-- Only cells that are remembered need not be sent. -/
theorem present_unchanged {T : Transport χ σ} {cells : List UInt8} {display : Display χ}
    {w : World σ} (unchanged : (display.present T cells w).1 = .ok .unchanged) :
    cells = display.shown := by
  unfold present Window.update at unchanged
  by_cases misfits : cells.length ≠ display.window.width
  · rw [if_pos misfits] at unchanged
    cases unchanged
  · rw [if_neg misfits] at unchanged
    by_cases same : cells = display.window.shown
    · exact same
    · rw [if_neg same] at unchanged
      dsimp only at unchanged
      generalize display.window.submit T cells display.link w = result at unchanged
      obtain ⟨outcome, rest⟩ := result
      cases outcome with
      | error e => cases unchanged
      | ok _ => cases unchanged

/-! ## A device that leaves a report in doubt -/

/-- A device that never answers; of the fifth report the HID system says that nothing was sent. -/
def doubtfulBus : HidBus Unit Nat where
  enumerate plant := (.ok [], plant)
  openEntry _ plant := (.ok (), plant)
  writeReport report _ plant :=
    (.ok (if plant.state = 4 then 1 else report.length), { plant with state := plant.state + 1 })
  readReport _ _ _ plant := (.ok [], plant)

def doubtfulChannel : Numbered (ReportChannel Unit) :=
  ⟨⟨some (), { ScriptedChannel.defaultInfo with profileHint := some "mokey" }⟩, 0⟩

/-- A row of 32 equal cells. -/
def row (cell : UInt8) : List UInt8 :=
  List.replicate 32 cell

/-- One row is to be shown, then another: the fifth report is that of the second. -/
def twoRows : List DisplayCall :=
  [.present (row 1), .present (row 2)]

def noReports : World Nat :=
  { plant := { now := 0, running := true, state := 0 } }

/-- The answer when the first row is to be shown again, and whether the device shows it. -/
def rowAgain : Option (Except DisplayFault Update × Bool) :=
  let T := (ReportChannel.transport doubtfulBus.recorded).journaled
  match operate T 1 .standard doubtfulChannel twoRows noReports.recorded.journaled with
  | .ended (.ok (_, display), w) =>
    some ((display.present T (row 1) w).1,
      decide (DeviceShows w.plant.state.inner.reports display.window.dots (row 1)))
  | _ => none

set_option maxRecDepth 10000 in
theorem rowAgain_eq : rowAgain = some (.ok .unchanged, false) := by
  rfl

/-- The first row need not be sent again, although the device does not show it. -/
theorem twoRows_ended :
    let T := (ReportChannel.transport doubtfulBus.recorded).journaled
    ∃ answers display w,
      operate T 1 .standard doubtfulChannel twoRows noReports.recorded.journaled
          = .ended (.ok (answers, display), w)
        ∧ (display.present T (row 1) w).1 = .ok .unchanged
        ∧ ¬DeviceShows w.plant.state.inner.reports display.window.dots (row 1) := by
  intro T
  have again := rowAgain_eq
  unfold rowAgain at again
  dsimp only at again
  generalize operate _ 1 .standard doubtfulChannel twoRows noReports.recorded.journaled = run
    at again
  match run, again with
  | .ended (.ok (answers, display), w), again =>
    obtain ⟨unchanged, stale⟩ := Prod.mk.inj (Option.some.inj again)
    exact ⟨answers, display, w, rfl, unchanged, of_decide_eq_false stale⟩

/-! ## Over a HID device -/

/-- The device shows the cells of the last attempt, and if that was acknowledged, `cells` are these
cells. -/
def LastAttemptShown (display : Display (Numbered (ReportChannel η))) (cells : List UInt8)
    (s : Journaled (Handed σ)) : Prop :=
  ∃ last : Showing, (attempted s.journal).getLast? = some last.attempt
    ∧ DeviceShows s.inner.reports display.window.dots last.cells
    ∧ (last.acknowledged = true → last.cells = cells)

/-- The device shows `cells`. -/
def CellsShown (display : Display (Numbered (ReportChannel η))) (cells : List UInt8)
    (s : Journaled (Handed σ)) : Prop :=
  DeviceShows s.inner.reports display.window.dots cells

/-- Bring up a display on a HID device and make calls on it, with the reports written down that the
device is handed: whenever cells need not be sent afterwards, `Good` is true of them. -/
def WhenUnchanged
    (Good : Display (Numbered (ReportChannel η)) → List UInt8 → Journaled (Handed σ) → Prop)
    (B : HidBus η σ) (fuel : Nat) (profiles : ProfileSet) (channel : Numbered (ReportChannel η))
    (calls : List DisplayCall) (w : World σ) : Prop :=
  let T := (ReportChannel.transport B.recorded).journaled
  (operate T fuel profiles channel calls w.recorded.journaled).Ends
    (fun (result, w') =>
      match result with
      | .error _ => True
      | .ok (_, display) =>
        ∀ cells, (display.present T cells w').1 = .ok .unchanged →
          Good display cells w'.plant.state)
    (fun _ => True)

theorem WhenUnchanged.good
    {Good : Display (Numbered (ReportChannel η)) → List UInt8 → Journaled (Handed σ) → Prop}
    {B : HidBus η σ} {fuel : Nat} {profiles : ProfileSet} {channel : Numbered (ReportChannel η)}
    {calls : List DisplayCall} {w : World σ}
    (always : WhenUnchanged Good B fuel profiles channel calls w) {answers : List DisplayAnswer}
    {display : Display (Numbered (ReportChannel η))} {w' : World (Journaled (Handed σ))}
    (ended : operate (ReportChannel.transport B.recorded).journaled fuel profiles channel calls
      w.recorded.journaled = .ended (.ok (answers, display), w')) {cells : List UInt8}
    (unchanged : (display.present (ReportChannel.transport B.recorded).journaled cells w').1
      = .ok .unchanged) :
    Good display cells w'.plant.state := by
  unfold WhenUnchanged at always
  dsimp only at always
  rw [ended] at always
  exact always cells unchanged

/-- **Cells that are not sent again are shown, if the last attempt was acknowledged.**  After any
calls on a HID device that is handed every report, whatever the HID system says of it, the device
shows the cells of the last attempt; and if that was acknowledged, the cells that need not be sent
are these. -/
theorem unchanged_shown (B : HidBus η σ) (fuel : Nat) {profiles : ProfileSet}
    (accepted : profiles.Accepted) {channel : Numbered (ReportChannel η)}
    (isOpen : channel.inner.handle.isSome = true) (calls : List DisplayCall) (w : World σ) :
    WhenUnchanged LastAttemptShown B fuel profiles channel calls w := by
  have custodian : (ReportChannel.transport B.recorded).journaled.Custodian
      ReportChannel.AsAttempted (fun _ => True) :=
    { keeps := ReportChannel.keeps_asAttempted B, closed := fun _ _ _ => trivial }
  have start : ReportChannel.AsAttempted channel w.recorded.journaled.plant :=
    ⟨isOpen, fun _ => rfl⟩
  have known := operate_knows (ReportChannel.transport B.recorded) fuel profiles channel calls
    w.recorded
  refine (known.and (operate_custody custodian fuel profiles channel calls start)).imp ?_
    fun _ _ => trivial
  intro (result, w') ⟨known, kept⟩
  cases result with
  | error e => exact trivial
  | ok answered =>
    obtain ⟨answers, display⟩ := answered
    obtain ⟨knows, -, -⟩ := known
    have handed := kept.holds.handed (knows.fitsReport accepted)
    obtain ⟨last, latest, shows, remembered⟩ := knows.deviceShows handed
    intro cells unchanged
    refine ⟨last, latest, shows, fun acknowledged => ?_⟩
    rw [present_unchanged unchanged]
    exact remembered acknowledged

/-- Of two rows the second is in doubt: when the first is to be shown again, it need not be sent. -/
theorem unchanged_shown_doubtful :
    ProfileSet.standard.Accepted ∧ doubtfulChannel.inner.handle.isSome = true
      ∧ WhenUnchanged LastAttemptShown doubtfulBus 1 .standard doubtfulChannel twoRows noReports
      ∧ ∃ answers display w',
          operate (ReportChannel.transport doubtfulBus.recorded).journaled 1 .standard
              doubtfulChannel twoRows noReports.recorded.journaled
            = .ended (.ok (answers, display), w')
          ∧ (display.present (ReportChannel.transport doubtfulBus.recorded).journaled (row 1) w').1
            = .ok .unchanged
          ∧ LastAttemptShown display (row 1) w'.plant.state := by
  have shown : WhenUnchanged LastAttemptShown doubtfulBus 1 .standard doubtfulChannel twoRows
      noReports :=
    unchanged_shown doubtfulBus 1 (.inl rfl) rfl twoRows noReports
  obtain ⟨answers, display, w', ended, unchanged, -⟩ := twoRows_ended
  exact ⟨.inl rfl, rfl, shown, answers, display, w', ended, unchanged, shown.good ended unchanged⟩

/-- Cells that need not be sent are shown, whatever became of the last attempt. -/
def SuppressesSafely : Prop :=
  ∀ {η σ : Type} (B : HidBus η σ) (fuel : Nat) {profiles : ProfileSet}, profiles.Accepted →
    ∀ {channel : Numbered (ReportChannel η)}, channel.inner.handle.isSome = true →
      ∀ (calls : List DisplayCall) (w : World σ),
        WhenUnchanged CellsShown B fuel profiles channel calls w

/-- **Cells that need not be sent may not be shown.**  The second row is handed to the device but
not acknowledged; when the first row is to be shown again, it need not be sent, although the device
does not show it. -/
theorem unchanged_stale : ¬SuppressesSafely := by
  intro safe
  have claimed := safe doubtfulBus 1 (.inl rfl : ProfileSet.standard.Accepted)
    (rfl : doubtfulChannel.inner.handle.isSome = true) twoRows noReports
  obtain ⟨answers, display, w', ended, unchanged, stale⟩ := twoRows_ended
  exact stale (claimed.good ended unchanged)

end Display

end BrailleDisplay
