import BrailleDisplay.Channel.Memory
import BrailleDisplay.Proofs.Display.Lifetime
import BrailleDisplay.Proofs.Frame.HostCodec
import BrailleDisplay.Proofs.Hid.Handed

/-!
# The buffers a display hands to its channel

All that is said to a display in its lifetime is one of three kinds of buffers, and none is longer
than what a HID report carries.  So over HID each goes out in one report of its own.

* `Profile.Buffer`, `Profile.Utters.buffer` — the three kinds, told by reading them back;
* `Profile.Utters.fitsReport` — each fits a report;
* `Display.live_custody`, `ReportChannel.custodian_allHanded` — up to its end, and when the channel
  is closed, the device has been handed one report for each attempt to write;
* `Display.live_buffers` — what is handed over in a lifetime.
-/

namespace BrailleDisplay

/-! ## Single buffers -/

/-- A buffer sent to a display of a profile with so many cells: the short frame of one of its
candidates, the request for the width, or the frame of as many cells. -/
def Profile.Buffer (profile : Profile) (cells : Nat) (bytes : List UInt8) : Prop :=
  (∃ candidate ∈ profile.identities.getD [], ¬candidate.IsZero
      ∧ bytes = [0x1C, candidate.id1, candidate.id2, 0x1F])
    ∨ HostFrame.parse bytes = .ok ⟨0xFB, 1, List.replicate 32 0, []⟩
    ∨ ∃ data : List UInt8, data.length = cells
        ∧ HostFrame.parse bytes = .ok ⟨0xFC, 1, data, []⟩

/-- What is sent as a frame reads back as this frame. -/
theorem Attempt.Sends.parsed {attempt : Attempt} {frame : HostFrame}
    (sends : attempt.Sends frame) : HostFrame.parse attempt.bytes = .ok frame := by
  have written : frame.encode = .ok attempt.bytes := sends
  exact HostFrame.parse_eq_ok_iff.mpr (HostFrame.encode_eq_ok_iff.mp written)

theorem Attempt.Sends.fitsReport {attempt : Attempt} {frame : HostFrame}
    (sends : attempt.Sends frame)
    (small : frame.data1.length + frame.data2.length + hostOverhead ≤ reportPayload) :
    FitsReport attempt.bytes := by
  obtain ⟨-, length⟩ := HostFrame.shape_of_encode sends
  refine ⟨fun empty => ?_, length.trans_le small⟩
  rw [empty, hostOverhead, List.length_nil] at length
  omega

namespace Profile.Utters

variable {profile : Profile} {cells : Nat} {attempt : Attempt}

theorem buffer (utters : profile.Utters cells attempt) : profile.Buffer cells attempt.bytes := by
  rcases utters with ⟨candidate, member, concrete, bytes⟩ | request | ⟨data, length, sends⟩
  · exact .inl ⟨candidate, member, concrete, bytes⟩
  · exact .inr (.inl request.parsed)
  · exact .inr (.inr ⟨data, length, sends.parsed⟩)

/-- **Whatever is said to a display of at most 40 cells fits a report.** -/
theorem fitsReport (utters : profile.Utters cells attempt) (narrow : cells ≤ maxCells.toNat) :
    FitsReport attempt.bytes := by
  rcases utters with ⟨candidate, -, -, bytes⟩ | request | ⟨data, length, sends⟩
  · rw [bytes]
    exact ⟨List.cons_ne_nil _ _, Nat.le_of_ble_eq_true rfl⟩
  · exact request.fitsReport (by decide)
  · have limit : maxCells.toNat = 40 := rfl
    refine sends.fitsReport ?_
    rw [length, reportPayload, hostOverhead, zeroRun, List.length_nil]
    omega

end Profile.Utters

/-! ## Reports -/

section

variable {χ η σ : Type}

/-- As long as all buffers fit, the device was handed one report for each attempt to write. -/
def AllHanded (plant : Plant (Journaled (Handed σ))) : Prop :=
  (∀ attempt ∈ attempted plant.state.journal, FitsReport attempt.bytes) →
    plant.state.inner.reports
      = (attempted plant.state.journal).map fun attempt => reportOf attempt.bytes

/-- Closing a channel hands over nothing. -/
theorem ReportChannel.custodian_allHanded (B : HidBus η σ) :
    (transport B.recorded).journaled.Custodian AsAttempted AllHanded where
  keeps := keeps_asAttempted B
  closed c plant kept := by
    have entered := (transport B.recorded).enters_journaled.close c plant
    have same : ((transport B.recorded).journaled.close c plant).plant.state.inner
        = plant.state.inner := by
      show (close c.inner plant.bare).plant.state = _
      unfold close
      cases c.inner.handle with
      | none => rfl
      | some handle => rfl
    unfold AllHanded
    rw [entered, attempted_append, same]
    intro fit
    have before := kept.handed fun attempt among => fit attempt (List.mem_append_left _ among)
    exact before.trans (congrArg _ (List.append_nil _).symm)

/-- A lifetime ends with its channel closed. -/
theorem Display.live_custody {T : Transport χ σ} {Held : χ → Plant σ → Prop}
    {Free : Plant σ → Prop} (custodian : T.Custodian Held Free) (fuel : Nat)
    (profiles : ProfileSet) (channel : χ) (calls : List DisplayCall) (ending : Ending)
    {w : World σ} (held : Held channel w.plant) :
    (live T fuel profiles channel calls ending w).Ends
      (fun (_, w') => Free w'.plant) (fun w' => HeldOrFree Held Free w'.plant) := by
  refine (operate_custody custodian fuel profiles channel calls held).bind ?_
  intro (result, w₁) kept
  cases result with
  | error e => exact kept
  | ok operated =>
    obtain ⟨answers, display⟩ := operated
    cases ending with
    | release => exact display.release_frees custodian.closed kept
    | drop => exact Link.drop_frees custodian.closed kept

end

/-! ## Lifetimes -/

section

variable {χ η σ : Type}

/-- All buffers in a journal are such as are sent to a display of the profile with so many cells, 1
to 40, and none is longer than 64 bytes. -/
def Profile.Says (profile : Profile) (cells : Nat) (journal : List Entry) : Prop :=
  1 ≤ cells ∧ cells ≤ 40
    ∧ ∀ attempt ∈ attempted journal,
      profile.Buffer cells attempt.bytes ∧ attempt.bytes.length ≤ 64

/-- Each buffer was handed over in a report of its own: the report number, the buffer, and zeros up
to 65 bytes in all. -/
def OneReportEach (s : Journaled (Handed σ)) : Prop :=
  s.inner.reports = (attempted s.journal).map (fun attempt =>
      0 :: attempt.bytes ++ List.replicate (64 - attempt.bytes.length) 0)
    ∧ ∀ report ∈ s.inner.reports, report.length = 65

theorem UsedFor.attempted_eq {number : Nat} {sent : List Attempt} {journal : List Entry}
    (used : UsedFor number sent [] journal) : attempted journal = sent := by
  obtain ⟨uses, rfl, same⟩ := used.fromStart
  rw [attempted_used, same]

theorem UsedThenClosed.attempted_eq {number : Nat} {sent : List Attempt}
    {outcome : Except ChannelFault Unit} {journal : List Entry}
    (disposed : UsedThenClosed number sent outcome [] journal) : attempted journal = sent := by
  obtain ⟨between, used, rfl⟩ := disposed
  rw [attempted_append, used.attempted_eq]
  exact List.append_nil _

namespace Display

/-- What may be said to a display that comes up with an accepted set of profiles. -/
theorem InRange.allFit {profiles : ProfileSet} (accepted : profiles.Accepted) {cells : UInt8}
    (inRange : InRange profiles cells) {profile : Profile} {journal : List Entry}
    (said : ∀ attempt ∈ attempted journal, profile.Utters cells.toNat attempt) :
    profile.Says cells.toNat journal ∧ ∀ attempt ∈ attempted journal, FitsReport attempt.bytes := by
  obtain ⟨some, narrow⟩ := inRange accepted
  have fits (attempt) (among : attempt ∈ attempted journal) : FitsReport attempt.bytes :=
    (said attempt among).fitsReport (UInt8.le_iff_toNat_le.mp narrow)
  exact ⟨⟨UInt8.le_iff_toNat_le.mp some, UInt8.le_iff_toNat_le.mp narrow, fun attempt among =>
    ⟨(said attempt among).buffer, (fits attempt among).2⟩⟩, fits⟩

/-- In a lifetime only such buffers are handed to the channel as are sent to a display with as many
cells as this one. -/
def LivesOnBuffers (T : Transport χ σ) (fuel : Nat) (profiles : ProfileSet)
    (channel : Numbered χ) (calls : List DisplayCall) (ending : Ending) (w : World σ) : Prop :=
  let profile := profiles.profileFor (T.info channel.inner)
  (live T.journaled fuel profiles channel calls ending w.journaled).Ends
    (fun (result, w') => ∃ cells, profile.Says cells w'.plant.state.journal
      ∧ ∀ legacy, result = .ok legacy → legacy.display.columns = cells)
    (fun w' => ∃ cells, profile.Says cells w'.plant.state.journal)

/-- In a lifetime over HID each buffer is handed to the device in a report of its own. -/
def LivesOnReports (B : HidBus η σ) (fuel : Nat) (profiles : ProfileSet)
    (channel : Numbered (ReportChannel η)) (calls : List DisplayCall) (ending : Ending)
    (w : World σ) : Prop :=
  let T := (ReportChannel.transport B.recorded).journaled
  (live T fuel profiles channel calls ending w.recorded.journaled).Ends
    (fun (_, w') => OneReportEach w'.plant.state) (fun w' => OneReportEach w'.plant.state)

/-- Whatever fits and has been handed over as it is went out in reports of its own. -/
theorem oneReportEach_of_allHanded {plant : Plant (Journaled (Handed σ))}
    (handed : AllHanded plant)
    (fits : ∀ attempt ∈ attempted plant.state.journal, FitsReport attempt.bytes) :
    OneReportEach plant.state := by
  have reports := handed fits
  refine ⟨reports, fun report among => ?_⟩
  rw [reports] at among
  obtain ⟨attempt, member, rfl⟩ := List.mem_map.mp among
  obtain ⟨-, short⟩ := fits attempt member
  rw [reportOf, List.length_append, List.length_cons, List.length_replicate]
  rw [reportPayload] at short ⊢
  omega

/-- In every lifetime, all buffers fit a report. -/
theorem live_fits {profiles : ProfileSet} (accepted : profiles.Accepted) (T : Transport χ σ)
    (fuel : Nat) (channel : Numbered χ) (calls : List DisplayCall) (ending : Ending)
    (w : World σ) :
    let profile := profiles.profileFor (T.info channel.inner)
    let Fits := fun (cells : UInt8) (w' : World (Journaled σ)) =>
      profile.Says cells.toNat w'.plant.state.journal
        ∧ ∀ attempt ∈ attempted w'.plant.state.journal, FitsReport attempt.bytes
    (live T.journaled fuel profiles channel calls ending w.journaled).Ends
      (fun (result, w') => ∃ cells, Fits cells w'
        ∧ ∀ legacy, result = .ok legacy → legacy.display.columns = cells.toNat)
      (fun w' => ∃ cells, Fits cells w') := by
  intro profile Fits
  refine (live_used T.enters_journaled fuel profiles channel calls ending w.journaled).imp ?_ ?_
  · intro (result, w') ⟨cells, sent, outcome, inRange, said, disposed, leaves⟩
    rw [← UsedThenClosed.attempted_eq disposed] at said
    exact ⟨cells, inRange.allFit accepted said, fun legacy left => (leaves legacy left).1⟩
  · intro w' ⟨cells, sent, inRange, said, used⟩
    rw [← UsedFor.attempted_eq used] at said
    exact ⟨cells, inRange.allFit accepted said⟩

/-- **All that a display hands to its channel is one of three kinds of buffers, each of at most 64
bytes.**  With the standard profiles or those of any configuration that is accepted, whatever the
device answers and whatever is asked of the display: it hands over short frames of its profile's
candidates, requests for the width, and frames of exactly as many cells as it has, 1 to 40.  So over
HID each goes out in one report, and none is cut. -/
theorem live_buffers {profiles : ProfileSet} (accepted : profiles.Accepted) (fuel : Nat)
    (calls : List DisplayCall) (ending : Ending) (w : World σ) :
    (∀ (T : Transport χ σ) (channel : Numbered χ),
      LivesOnBuffers T fuel profiles channel calls ending w)
    ∧ ∀ (B : HidBus η σ) (channel : Numbered (ReportChannel η)),
      channel.inner.handle.isSome = true →
        LivesOnReports B fuel profiles channel calls ending w := by
  refine ⟨fun T channel => ?_, fun B channel isOpen => ?_⟩
  · refine (live_fits accepted T fuel channel calls ending w).imp ?_ ?_
    · intro (result, w') ⟨cells, ⟨said, _⟩, wide⟩
      exact ⟨cells.toNat, said, wide⟩
    · intro w' ⟨cells, said, _⟩
      exact ⟨cells.toNat, said⟩
  · let T := ReportChannel.transport B.recorded
    have start : ReportChannel.AsAttempted channel w.recorded.journaled.plant :=
      ⟨isOpen, fun _ => rfl⟩
    have handed := live_custody (ReportChannel.custodian_allHanded B) fuel profiles channel calls
      ending start
    refine ((live_fits accepted T fuel channel calls ending w.recorded).and handed).imp ?_ ?_
    · intro (result, w') ⟨⟨cells, ⟨_, fits⟩, _⟩, all⟩
      exact oneReportEach_of_allHanded all fits
    · intro w' ⟨⟨cells, _, fits⟩, either⟩
      rcases either with ⟨c, kept⟩ | all
      · exact oneReportEach_of_allHanded kept.handed fits
      · exact oneReportEach_of_allHanded all fits

/-- A device that takes every report and never answers. -/
def silentBus : HidBus Unit Unit where
  enumerate plant := (.ok [], plant)
  openEntry _ plant := (.ok (), plant)
  writeReport report _ plant := (.ok report.length, plant)
  readReport _ _ _ plant := (.ok [], plant)

def silentChannel : Numbered (ReportChannel Unit) :=
  ⟨⟨some (), ScriptedChannel.defaultInfo⟩, 0⟩

/-- A row of cells is shown, twice. -/
def rowTwice : List DisplayCall :=
  [.present (List.replicate 32 1), .clear, .present (List.replicate 32 1)]

/-- How many reports the device has been handed when the display is released. -/
def silentReports : Option Nat :=
  let T := (ReportChannel.transport silentBus.recorded).journaled
  match live T 3 .standard silentChannel rowTwice .release atStart.recorded.journaled with
  | .ended (.ok _, w) => some w.plant.state.inner.reports.length
  | _ => none

set_option maxRecDepth 10000 in
theorem silentReports_eq : silentReports = some 8 := by
  rfl

/-- With the standard profiles, on a device that never answers, a lifetime comes to its end: two
probes, two requests, and four times a row of cells. -/
theorem live_buffers_silent :
    ProfileSet.standard.Accepted ∧ silentChannel.inner.handle.isSome = true
      ∧ LivesOnReports silentBus 3 .standard silentChannel rowTwice .release atStart
      ∧ ∃ legacy w',
          live (ReportChannel.transport silentBus.recorded).journaled 3 .standard silentChannel
              rowTwice .release atStart.recorded.journaled = .ended (.ok legacy, w')
            ∧ w'.plant.state.inner.reports.length = 8 ∧ OneReportEach w'.plant.state := by
  have lives : LivesOnReports silentBus 3 .standard silentChannel rowTwice .release atStart :=
    (live_buffers (χ := Unit) (.inl rfl) 3 _ _ _).2 silentBus silentChannel rfl
  refine ⟨.inl rfl, rfl, lives, ?_⟩
  have handed := silentReports_eq
  unfold silentReports at handed
  unfold LivesOnReports at lives
  dsimp only at handed lives
  generalize live _ 3 .standard silentChannel rowTwice .release atStart.recorded.journaled = run
    at handed lives
  match run, handed, lives with
  | .ended (.ok legacy, w'), handed, lives =>
    exact ⟨legacy, w', rfl, Option.some.inj handed, lives⟩

end Display

end

end BrailleDisplay
