import BrailleDisplay.Hid.Reports
import BrailleDisplay.Proofs.Channel.Attempts
import BrailleDisplay.Proofs.Frame.LinkInvariant

/-!
# Which reports a HID device is handed

Whatever the HID system says of a report that is written, the device may have it.  To speak of all
reports a device was handed, they are written down beside the state of the devices.

* `HidBus.recorded` — the same bus, with the reports written down;
* `reportChunks_of_fits` — a buffer that fits a report is one piece;
* `ReportChannel.AsAttempted`, `ReportChannel.keeps_asAttempted` — as long as all buffers fit, the
  device is handed one report for each attempt to write, whatever came of it.
-/

namespace BrailleDisplay

/-! ## Writing reports down -/

/-- The state of the devices, with the reports handed to them beside it. -/
structure Handed (σ : Type) where
  inner : σ
  /-- The reports, the oldest first. -/
  reports : List (List UInt8) := []

section

variable {η σ α : Type}

def Plant.withReports (plant : Plant σ) (reports : List (List UInt8)) : Plant (Handed σ) :=
  { plant with state := ⟨plant.state, reports⟩ }

def Plant.unrecorded (plant : Plant (Handed σ)) : Plant σ :=
  { plant with state := plant.state.inner }

/-- A world in which no report has been handed over yet. -/
def World.recorded (w : World σ) : World (Handed σ) :=
  { w with plant := w.plant.withReports [] }

/-- An operation of the devices, after which `more` reports have been handed over. -/
def Plant.recorded (plant : Plant (Handed σ)) (more : List (List UInt8))
    (operation : Plant σ → α × Plant σ) : α × Plant (Handed σ) :=
  let (answer, plant') := operation plant.unrecorded
  (answer, plant'.withReports (plant.state.reports ++ more))

/-- The same bus, with every report written down that is handed to a device. -/
def HidBus.recorded (B : HidBus η σ) : HidBus η (Handed σ) where
  enumerate plant := plant.recorded [] B.enumerate
  openEntry entry plant := plant.recorded [] (B.openEntry entry)
  writeReport report handle plant := plant.recorded [report] (B.writeReport report handle)
  readReport limit timeout handle plant := plant.recorded [] (B.readReport limit timeout handle)

end

/-! ## One report for a buffer -/

/-- A buffer that fits a report and is not empty. -/
def FitsReport (bytes : List UInt8) : Prop :=
  bytes ≠ [] ∧ bytes.length ≤ reportPayload

theorem reportChunks_of_fits {bytes : List UInt8} (fits : FitsReport bytes) :
    reportChunks bytes = [bytes] := by
  obtain ⟨nonempty, short⟩ := fits
  have positive : 0 < bytes.length := List.length_pos_iff.mpr nonempty
  have single : (bytes.length + reportPayload - 1) / reportPayload = 1 := by
    simp only [reportPayload] at short ⊢
    omega
  rw [reportChunks, single]
  show [(bytes.drop (reportPayload * 0)).take reportPayload] = [bytes]
  rw [Nat.mul_zero, List.drop_zero, List.take_of_length_le short]

namespace ReportChannel

variable {η σ : Type}

/-- A piece is handed over as one report, whatever the HID system answers. -/
theorem writeChunks_singleton (B : HidBus η σ) (handle : η) (chunk : List UInt8)
    (plant : Plant (Handed σ)) :
    (writeChunks B.recorded handle [chunk] plant).2.state.reports
      = plant.state.reports ++ [reportOf chunk] := by
  have handed : (B.recorded.writeReport (reportOf chunk) handle plant).2.state.reports
      = plant.state.reports ++ [reportOf chunk] := rfl
  unfold writeChunks
  generalize B.recorded.writeReport (reportOf chunk) handle plant = result at handed ⊢
  obtain ⟨sent, plant'⟩ := result
  cases sent with
  | error text => exact handed
  | ok count =>
    dsimp only
    -- the count is looked at after the report has gone out
    by_cases short : count < chunk.length + 1
    · rw [if_pos short]
      exact handed
    · rw [if_neg short]
      exact handed

/-- Writing hands over the pieces, and leaves the channel as it is. -/
theorem write_eq (B : HidBus η σ) (bytes : List UInt8) {c : ReportChannel η} {handle : η}
    (held : c.handle = some handle) (plant : Plant σ) :
    (write B bytes c plant).value.2 = c
      ∧ (write B bytes c plant).plant = (writeChunks B handle (reportChunks bytes) plant).2 := by
  unfold write
  rw [held]
  dsimp only
  generalize writeChunks B handle (reportChunks bytes) plant = result
  obtain ⟨outcome, plant'⟩ := result
  cases outcome with
  | error e => exact ⟨rfl, rfl⟩
  | ok _ => exact ⟨rfl, rfl⟩

/-- Reading is one read of the HID system, and leaves the channel as it is. -/
theorem read_eq (B : HidBus η σ) (limit timeout : Nat) {c : ReportChannel η} {handle : η}
    (held : c.handle = some handle) (plant : Plant σ) :
    (read B limit timeout c plant).value.2 = c
      ∧ (read B limit timeout c plant).plant
        = (B.readReport limit (reportTimeout timeout) handle plant).2 := by
  cases answered : B.readReport limit (reportTimeout timeout) handle plant with
  | mk outcome plant' =>
    simp only [read, held, answered]
    match outcome with
    | .error text => exact ⟨rfl, rfl⟩
    | .ok [] => exact ⟨rfl, rfl⟩
    | .ok (b :: rest) => exact ⟨rfl, rfl⟩

/-! ## Reports and attempts -/

/-- The channel has its handle, and as long as all buffers fit, the device was handed one report for
each attempt to write. -/
structure AsAttempted (c : Numbered (ReportChannel η)) (plant : Plant (Journaled (Handed σ))) :
    Prop where
  held : c.inner.handle.isSome = true
  handed : (∀ attempt ∈ attempted plant.state.journal, FitsReport attempt.bytes) →
    plant.state.inner.reports
      = (attempted plant.state.journal).map fun attempt => reportOf attempt.bytes

/-- **Whatever becomes of an attempt to write, the device is handed its report.** -/
theorem keeps_asAttempted (B : HidBus η σ) :
    (transport B.recorded).journaled.Keeps AsAttempted where
  write bytes c plant kept := by
    obtain ⟨handle, held⟩ := Option.isSome_iff_exists.mp kept.held
    obtain ⟨same, moved⟩ := write_eq B.recorded bytes held plant.bare
    refine ⟨(congrArg (·.handle.isSome) same).trans kept.held, fun fit => ?_⟩
    obtain ⟨entered, -⟩ := (transport B.recorded).enters_journaled.write bytes c plant
    rw [entered, attempted_append] at fit ⊢
    have fits : FitsReport bytes := fit _ (List.mem_append_right _ (List.mem_singleton_self _))
    have before := kept.handed fun attempt among => fit attempt (List.mem_append_left _ among)
    show (write B.recorded bytes c.inner plant.bare).plant.state.reports = _
    rw [moved, reportChunks_of_fits fits, writeChunks_singleton, List.map_append, ← before]
    rfl
  read limit timeout c plant kept := by
    obtain ⟨handle, held⟩ := Option.isSome_iff_exists.mp kept.held
    obtain ⟨same, moved⟩ := read_eq B.recorded limit timeout held plant.bare
    refine ⟨(congrArg (·.handle.isSome) same).trans kept.held, fun fit => ?_⟩
    obtain ⟨entered, -⟩ := (transport B.recorded).enters_journaled.read limit timeout c plant
    rw [entered, attempted_read] at fit ⊢
    show (read B.recorded limit timeout c.inner plant.bare).plant.state.reports = _
    rw [moved, ← kept.handed fit]
    exact List.append_nil _

end ReportChannel

end BrailleDisplay
