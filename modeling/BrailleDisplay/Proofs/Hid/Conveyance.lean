import BrailleDisplay.Proofs.Hid.Handed

/-!
# What a HID device is handed of a buffer

A buffer goes out in reports of 64 bytes behind the report number, the last of them filled up with
zeros, and no report follows one that failed or was acknowledged short.

* `reportChunks_eq_cons`, `flatMap_filled_reportChunks` — the pieces of a buffer, and that the
  pieces filled up are the buffer filled up;
* `HidBus.calls` — reports handed to a device one after the other, each with its answer;
* `Conveyed` — what one piece after the other leads to, with one constructor for each way a report
  can go;
* `Conveyance`, `ReportChannel.write_conveys` — what may be said of all the reports of a buffer, for
  every HID system.
-/

namespace BrailleDisplay

/-! ## The pieces of a buffer -/

/-- A piece, filled up with zeros to the size of a payload. -/
def filled (piece : List UInt8) : List UInt8 :=
  piece ++ List.replicate (reportPayload - piece.length) 0

/-- A buffer, filled up with zeros to a multiple of 64 bytes. -/
def filledUp (bytes : List UInt8) : List UInt8 :=
  bytes ++ List.replicate ((64 - bytes.length % 64) % 64) 0

theorem reportOf_eq (piece : List UInt8) : reportOf piece = reportNumber :: filled piece := rfl

/-- How many bytes of a buffer the piece at an index has. -/
def pieceSize (bytes : List UInt8) (i : Nat) : Nat :=
  min 64 (bytes.length - 64 * i)

theorem length_reportChunks (bytes : List UInt8) :
    (reportChunks bytes).length = (bytes.length + 63) / 64 := by
  simp [reportChunks, reportPayload]

/-- The pieces of a buffer are its first 64 bytes and the pieces of the rest. -/
theorem reportChunks_eq_cons {bytes : List UInt8} (nonempty : bytes ≠ []) :
    reportChunks bytes = bytes.take 64 :: reportChunks (bytes.drop 64) := by
  have positive := List.length_pos_iff.mpr nonempty
  have count : (bytes.length + 64 - 1) / 64 = (bytes.length - 64 + 64 - 1) / 64 + 1 := by omega
  simp only [reportChunks, reportPayload, List.length_drop]
  rw [count, List.range_succ_eq_map, List.map_cons, List.map_map, Nat.mul_zero, List.drop_zero]
  congr 1
  apply List.map_congr_left
  intro i _
  simp only [Function.comp_apply, List.drop_drop, Nat.mul_succ, Nat.add_comm]

/-- The piece at an index, by its size. -/
theorem length_of_getElem?_reportChunks {bytes piece : List UInt8} {i : Nat}
    (here : (reportChunks bytes)[i]? = some piece) :
    piece.length = pieceSize bytes i ∧ 0 < piece.length := by
  have inside : i < (reportChunks bytes).length := (List.getElem?_eq_some_iff.mp here).1
  rw [length_reportChunks] at inside
  have cut : (bytes.drop (64 * i)).take 64 = piece := by
    simpa [reportChunks, reportPayload, inside] using here
  have size : piece.length = pieceSize bytes i := by
    rw [← cut, List.length_take, List.length_drop]
    rfl
  refine ⟨size, ?_⟩
  rw [size, pieceSize]
  omega

theorem filledUp_of_short {bytes : List UInt8} (nonempty : bytes ≠ []) (short : bytes.length ≤ 64) :
    filledUp bytes = filled bytes := by
  have positive := List.length_pos_iff.mpr nonempty
  have lacking : (64 - bytes.length % 64) % 64 = 64 - bytes.length := by omega
  rw [filledUp, lacking]
  rfl

theorem filledUp_of_long {bytes : List UInt8} (long : 64 ≤ bytes.length) :
    filledUp bytes = bytes.take 64 ++ filledUp (bytes.drop 64) := by
  have same : (bytes.length - 64) % 64 = bytes.length % 64 := by omega
  rw [filledUp, filledUp, List.length_drop, same, ← List.append_assoc, List.take_append_drop]

theorem filled_of_whole {piece : List UInt8} (whole : piece.length = 64) :
    filled piece = piece := by
  simp [filled, reportPayload, whole]

theorem length_filled {piece : List UInt8} (short : piece.length ≤ 64) :
    (filled piece).length = 64 := by
  rw [filled, List.length_append, List.length_replicate, reportPayload]
  omega

/-- **The pieces, filled up, are the buffer, filled up.** -/
theorem flatMap_filled_reportChunks (bytes : List UInt8) :
    (reportChunks bytes).flatMap filled = filledUp bytes := by
  induction size : bytes.length using Nat.strongRecOn generalizing bytes with
  | ind n ih =>
    subst size
    by_cases empty : bytes = []
    · subst empty
      rfl
    have positive := List.length_pos_iff.mpr empty
    rw [reportChunks_eq_cons empty, List.flatMap_cons,
      ih (bytes.drop 64).length (by rw [List.length_drop]; omega) _ rfl]
    by_cases long : 64 ≤ bytes.length
    · rw [filledUp_of_long long, filled_of_whole (by rw [List.length_take]; omega)]
    · rw [List.take_of_length_le (by omega), List.drop_of_length_le (by omega),
        filledUp_of_short empty (by omega)]
      exact List.append_nil _

/-! ## One report after the other -/

/-- A failure of the HID system is not taken for a report sent short. -/
theorem ChannelFault.ofHid_ne_shortWrite (text : String) (sent expected : Nat) :
    ofHid text ≠ .shortWrite sent expected := by
  unfold ofHid
  split <;> exact ChannelFault.noConfusion

/-- A report handed to a device, and what the HID system answered. -/
structure ReportCall where
  report : List UInt8
  answer : Except String Nat

namespace ReportCall

/-- The bytes behind the report number. -/
def payload (call : ReportCall) : List UInt8 :=
  call.report.tail

/-- The report was written, and the count covers its number and a piece of this size. -/
def Acknowledges (call : ReportCall) (size : Nat) : Prop :=
  ∃ count, call.answer = .ok count ∧ size + 1 ≤ count

/-- The report failed, or the count does not cover its number and a piece of this size; and what is
made of that. -/
inductive Refused (size : Nat) : ReportCall → ChannelFault → Prop where
  | failed (report : List UInt8) (text : String) : Refused size ⟨report, .error text⟩ (.ofHid text)
  | short (report : List UInt8) {count : Nat} (lacks : count < size + 1) :
      Refused size ⟨report, .ok count⟩ (.shortWrite (count - 1) size)

theorem acknowledges_or_refused (call : ReportCall) (size : Nat) :
    call.Acknowledges size ∨ ∃ fault, Refused size call fault := by
  obtain ⟨report, answer⟩ := call
  cases answer with
  | error text => exact .inr ⟨_, .failed report text⟩
  | ok count =>
    by_cases lacks : count < size + 1
    · exact .inr ⟨_, .short report lacks⟩
    · exact .inl ⟨count, rfl, Nat.not_lt.mp lacks⟩

theorem Refused.not_acknowledges {size : Nat} {call : ReportCall} {fault : ChannelFault}
    (refused : Refused size call fault) : ¬call.Acknowledges size := by
  rintro ⟨count, answer, covers⟩
  cases refused with
  | failed => cases answer
  | short _ lacks =>
    cases answer
    omega

/-- Of a piece that has bytes, less is told to be sent than it has, even if nothing was sent. -/
theorem Refused.sent_lt {size : Nat} {call : ReportCall} {fault : ChannelFault}
    (refused : Refused size call fault) (positive : 0 < size) {sent expected : Nat}
    (short : fault = .shortWrite sent expected) : sent < expected := by
  cases refused with
  | failed _ text => exact absurd short (ChannelFault.ofHid_ne_shortWrite text sent expected)
  | short _ lacks =>
    cases short
    omega

end ReportCall

/-- Reports handed to a device one after the other, each with the answer. -/
def HidBus.calls {η σ : Type} (B : HidBus η σ) (handle : η) :
    List (List UInt8) → Plant σ → List ReportCall
  | [], _ => []
  | report :: rest, plant =>
    let (answer, plant) := B.writeReport report handle plant
    ⟨report, answer⟩ :: B.calls handle rest plant

theorem HidBus.map_report_calls {η σ : Type} (B : HidBus η σ) (handle : η)
    (reports : List (List UInt8)) (plant : Plant σ) :
    (B.calls handle reports plant).map ReportCall.report = reports := by
  induction reports generalizing plant with
  | nil => rfl
  | cons report rest ih =>
    rw [calls, List.map_cons, ih]

theorem HidBus.writeReport_recorded {η σ : Type} (B : HidBus η σ) (report : List UInt8) (handle : η)
    (plant : Plant (Handed σ)) :
    B.recorded.writeReport report handle plant
      = ((B.writeReport report handle plant.unrecorded).1,
        (B.writeReport report handle plant.unrecorded).2.withReports
          (plant.state.reports ++ [report])) := rfl

/-- What handing over pieces leads to: the reports handed over, and the outcome. -/
inductive Conveyed : List (List UInt8) → List ReportCall → Except ChannelFault Unit → Prop where
  /-- There is no piece left. -/
  | done : Conveyed [] [] (.ok ())
  /-- The report of the first piece is the last. -/
  | stopped {piece : List UInt8} (rest : List (List UInt8)) {call : ReportCall}
      {fault : ChannelFault} (carries : call.report = reportOf piece)
      (refused : call.Refused piece.length fault) : Conveyed (piece :: rest) [call] (.error fault)
  /-- The report of the first piece is acknowledged. -/
  | next {piece : List UInt8} {rest : List (List UInt8)} {call : ReportCall}
      {calls : List ReportCall} {outcome : Except ChannelFault Unit}
      (carries : call.report = reportOf piece) (full : call.Acknowledges piece.length)
      (later : Conveyed rest calls outcome) : Conveyed (piece :: rest) (call :: calls) outcome

namespace Conveyed

variable {pieces : List (List UInt8)} {calls : List ReportCall} {outcome : Except ChannelFault Unit}

/-- The reports are those of the first pieces. -/
theorem reports_isPrefix (conveyed : Conveyed pieces calls outcome) :
    calls.map ReportCall.report <+: pieces.map reportOf := by
  induction conveyed with
  | done => exact List.prefix_rfl
  | stopped rest carries _ =>
    rw [List.map_singleton, List.map_cons, carries]
    exact ⟨rest.map reportOf, rfl⟩
  | next carries _ _ ih =>
    rw [List.map_cons, List.map_cons, carries]
    exact List.cons_prefix_cons.mpr ⟨rfl, ih⟩

/-- A report that is not acknowledged is the last, and all before it are. -/
theorem acknowledges_or_last (conveyed : Conveyed pieces calls outcome) {i : Nat}
    {piece : List UInt8} {call : ReportCall} (here : pieces[i]? = some piece)
    (called : calls[i]? = some call) :
    call.Acknowledges piece.length
      ∨ i + 1 = calls.length
        ∧ ∃ fault, call.Refused piece.length fault ∧ outcome = .error fault := by
  induction conveyed generalizing i with
  | done => simp at called
  | @stopped first rest only fault carries refused =>
    cases i with
    | zero =>
      obtain rfl : first = piece := by simpa using here
      obtain rfl : only = call := by simpa using called
      exact .inr ⟨rfl, fault, refused, rfl⟩
    | succ i => simp at called
  | @next first rest front calls outcome _ full _ ih =>
    cases i with
    | zero =>
      obtain rfl : first = piece := by simpa using here
      obtain rfl : front = call := by simpa using called
      exact .inl full
    | succ i =>
      rcases ih (by simpa using here) (by simpa using called) with acknowledged | ⟨last, refused⟩
      · exact .inl acknowledged
      · exact .inr ⟨by rw [List.length_cons, last], refused⟩

/-- Without an error there is a report for each piece, and each is acknowledged. -/
theorem of_ok (conveyed : Conveyed pieces calls (.ok ())) : calls.length = pieces.length := by
  generalize same : Except.ok () = outcome at conveyed
  induction conveyed with
  | done => rfl
  | stopped => cases same
  | next _ _ _ ih => rw [List.length_cons, List.length_cons, ih same]

/-- With an error the last report is refused, for that error. -/
theorem of_error {fault : ChannelFault} (conveyed : Conveyed pieces calls (.error fault)) :
    ∃ i piece call, pieces[i]? = some piece ∧ calls[i]? = some call ∧ i + 1 = calls.length
      ∧ call.Refused piece.length fault := by
  generalize same : Except.error fault = outcome at conveyed
  induction conveyed with
  | done => cases same
  | @stopped first _ only _ _ refused =>
    cases same
    exact ⟨0, first, only, rfl, rfl, rfl, refused⟩
  | next _ _ _ ih =>
    obtain ⟨i, piece, call, here, called, last, refused⟩ := ih same
    exact ⟨i + 1, piece, call, by simpa using here, by simpa using called,
      by rw [List.length_cons, last], refused⟩

end Conveyed

/-! ## A whole buffer -/

/-- **What a device is handed of a buffer**: the reports with the answers they got, and the
outcome. -/
structure Conveyance (bytes : List UInt8) (calls : List ReportCall)
    (outcome : Except ChannelFault Unit) : Prop where
  /-- A report has 65 bytes, its number first. -/
  report : ∀ call ∈ calls, call.report.length = 65 ∧ call.report.head? = some 0x00
  /-- The payloads are the buffer filled up with zeros, as far as they go. -/
  payloads : calls.flatMap ReportCall.payload <+: filledUp bytes
  /-- There is no error exactly if there is a report for each piece and each is acknowledged. -/
  ok_iff : outcome = .ok () ↔ calls.length = (bytes.length + 63) / 64
    ∧ ∀ (i : Nat) (call : ReportCall), calls[i]? = some call →
      call.Acknowledges (pieceSize bytes i)
  /-- Then the payloads are the whole buffer. -/
  whole : outcome = .ok () → calls.flatMap ReportCall.payload = filledUp bytes
  /-- No report follows one that is not acknowledged. -/
  stops : ∀ (i : Nat) (call : ReportCall), calls[i]? = some call →
    ¬call.Acknowledges (pieceSize bytes i) → i + 1 = calls.length
  /-- An error is what the last report was refused for. -/
  error : ∀ fault, outcome = .error fault →
    ∃ (i : Nat) (call : ReportCall), calls[i]? = some call ∧ i + 1 = calls.length
      ∧ call.Refused (pieceSize bytes i) fault
  /-- Of a piece that was sent short, less is told to be sent than it has. -/
  short : ∀ sent expected, outcome = .error (.shortWrite sent expected) → sent < expected

namespace Conveyed

variable {bytes : List UInt8} {calls : List ReportCall} {outcome : Except ChannelFault Unit}

theorem length_report (conveyed : Conveyed (reportChunks bytes) calls outcome) {call : ReportCall}
    (among : call ∈ calls) : call.report.length = 65 ∧ call.report.head? = some 0x00 := by
  have inside := conveyed.reports_isPrefix.subset (List.mem_map_of_mem among)
  obtain ⟨piece, inside, same⟩ := List.mem_map.mp inside
  obtain ⟨i, here⟩ := List.getElem?_of_mem inside
  have size : piece.length ≤ 64 := by
    rw [(length_of_getElem?_reportChunks here).1]
    exact Nat.min_le_left _ _
  rw [← same, reportOf_eq, List.length_cons, length_filled size]
  exact ⟨rfl, rfl⟩

/-- The payloads are those of the reports that would go out if none were refused. -/
theorem payloads_eq (conveyed : Conveyed (reportChunks bytes) calls outcome) :
    calls.flatMap ReportCall.payload
      = (((reportChunks bytes).take calls.length).flatMap filled) := by
  have reports := List.prefix_iff_eq_take.mp conveyed.reports_isPrefix
  rw [List.length_map, ← List.map_take] at reports
  have payloads := congrArg (List.flatMap List.tail) reports
  rw [List.flatMap_map, List.flatMap_map] at payloads
  exact payloads

/-- There are no more reports than pieces, so each has a piece. -/
theorem piece_of_call (conveyed : Conveyed (reportChunks bytes) calls outcome) {i : Nat}
    {call : ReportCall} (called : calls[i]? = some call) :
    ∃ piece, (reportChunks bytes)[i]? = some piece ∧ piece.length = pieceSize bytes i := by
  have few := conveyed.reports_isPrefix.length_le
  rw [List.length_map, List.length_map] at few
  have inside := (List.getElem?_eq_some_iff.mp called).1
  have here := List.getElem?_eq_getElem (Nat.lt_of_lt_of_le inside few)
  exact ⟨_, here, (length_of_getElem?_reportChunks here).1⟩

theorem acknowledges_or_stops (conveyed : Conveyed (reportChunks bytes) calls outcome) {i : Nat}
    {call : ReportCall} (called : calls[i]? = some call) :
    call.Acknowledges (pieceSize bytes i)
      ∨ i + 1 = calls.length
        ∧ ∃ fault, call.Refused (pieceSize bytes i) fault ∧ outcome = .error fault := by
  obtain ⟨piece, here, size⟩ := conveyed.piece_of_call called
  rw [← size]
  exact conveyed.acknowledges_or_last here called

theorem refused_of_error {fault : ChannelFault}
    (conveyed : Conveyed (reportChunks bytes) calls (.error fault)) :
    ∃ (i : Nat) (call : ReportCall), calls[i]? = some call ∧ i + 1 = calls.length
      ∧ 0 < pieceSize bytes i ∧ call.Refused (pieceSize bytes i) fault := by
  obtain ⟨i, piece, call, here, called, last, refused⟩ := conveyed.of_error
  obtain ⟨size, positive⟩ := length_of_getElem?_reportChunks here
  rw [size] at positive refused
  exact ⟨i, call, called, last, positive, refused⟩

theorem conveyance (conveyed : Conveyed (reportChunks bytes) calls outcome) :
    Conveyance bytes calls outcome where
  report _ among := conveyed.length_report among
  payloads := by
    refine ⟨((reportChunks bytes).drop calls.length).flatMap filled, ?_⟩
    rw [conveyed.payloads_eq, ← List.flatMap_append, List.take_append_drop,
      flatMap_filled_reportChunks]
  ok_iff := by
    constructor
    · intro ok
      subst ok
      refine ⟨conveyed.of_ok.trans (length_reportChunks bytes), fun i call called => ?_⟩
      rcases conveyed.acknowledges_or_stops called with acknowledged | ⟨_, _, _, wrong⟩
      · exact acknowledged
      · cases wrong
    · rintro ⟨-, acknowledged⟩
      cases outcome with
      | ok _ => rfl
      | error fault =>
        obtain ⟨i, call, called, _, _, refused⟩ := conveyed.refused_of_error
        exact absurd (acknowledged i call called) refused.not_acknowledges
  whole := by
    intro ok
    subst ok
    rw [conveyed.payloads_eq, conveyed.of_ok, List.take_length, flatMap_filled_reportChunks]
  stops := by
    intro i call called lacking
    rcases conveyed.acknowledges_or_stops called with acknowledged | ⟨last, _⟩
    · exact absurd acknowledged lacking
    · exact last
  error := by
    intro fault wrong
    subst wrong
    obtain ⟨i, call, called, last, _, refused⟩ := conveyed.refused_of_error
    exact ⟨i, call, called, last, refused⟩
  short := by
    intro sent expected wrong
    subst wrong
    obtain ⟨i, call, _, _, positive, refused⟩ := conveyed.refused_of_error
    exact refused.sent_lt positive rfl

end Conveyed

namespace ReportChannel

variable {η σ : Type}

section

variable {B : HidBus η σ} {handle : η} {piece : List UInt8} {plant after : Plant σ}
  {answer : Except String Nat}

/-- A report that is refused ends the writing. -/
theorem writeChunks_refused (rest : List (List UInt8))
    (answered : B.writeReport (reportOf piece) handle plant = (answer, after))
    {fault : ChannelFault}
    (refused : ReportCall.Refused piece.length ⟨reportOf piece, answer⟩ fault) :
    writeChunks B handle (piece :: rest) plant = (.error fault, after) := by
  rw [writeChunks, answered]
  cases refused with
  | failed => rfl
  | short _ lacks => exact if_pos lacks

/-- A report that is acknowledged is followed by those of the other pieces. -/
theorem writeChunks_acknowledged (rest : List (List UInt8))
    (answered : B.writeReport (reportOf piece) handle plant = (answer, after))
    (acknowledged : ReportCall.Acknowledges ⟨reportOf piece, answer⟩ piece.length) :
    writeChunks B handle (piece :: rest) plant = writeChunks B handle rest after := by
  obtain ⟨count, same, full⟩ := acknowledged
  rw [writeChunks, answered, show answer = .ok count from same]
  exact if_neg (Nat.not_lt.mpr full)

end

/-- **The pieces of a buffer, one after the other**: which reports are handed over, and that writing
them down changes nothing. -/
theorem writeChunks_conveyed (B : HidBus η σ) (handle : η) (pieces : List (List UInt8))
    (plant : Plant (Handed σ)) :
    ∃ reports outcome after, writeChunks B.recorded handle pieces plant
        = (outcome, Plant.withReports after (plant.state.reports ++ reports))
      ∧ writeChunks B handle pieces plant.unrecorded = (outcome, after)
      ∧ Conveyed pieces (B.calls handle reports plant.unrecorded) outcome := by
  induction pieces generalizing plant with
  | nil => exact ⟨[], .ok (), plant.unrecorded, by rw [List.append_nil]; rfl, rfl, .done⟩
  | cons piece rest ih =>
    cases answered : B.writeReport (reportOf piece) handle plant.unrecorded with
    | mk answer after =>
      let handed := after.withReports (plant.state.reports ++ [reportOf piece])
      have recorded : B.recorded.writeReport (reportOf piece) handle plant = (answer, handed) := by
        rw [HidBus.writeReport_recorded, answered]
      have calls (reports : List (List UInt8)) :
          B.calls handle (reportOf piece :: reports) plant.unrecorded
            = ⟨reportOf piece, answer⟩ :: B.calls handle reports after := by
        rw [HidBus.calls, answered]
      rcases ReportCall.acknowledges_or_refused ⟨reportOf piece, answer⟩ piece.length with
        acknowledged | ⟨fault, refused⟩
      · obtain ⟨reports, outcome, last, later, same, conveyed⟩ := ih handed
        refine ⟨reportOf piece :: reports, outcome, last, ?_, ?_, ?_⟩
        · rw [writeChunks_acknowledged rest recorded acknowledged, later]
          simp [handed, Plant.withReports]
        · rw [writeChunks_acknowledged rest answered acknowledged]
          exact same
        · rw [calls]
          exact .next rfl acknowledged conveyed
      · refine ⟨[reportOf piece], .error fault, after, ?_, ?_, ?_⟩
        · exact writeChunks_refused rest recorded refused
        · exact writeChunks_refused rest answered refused
        · rw [calls]
          exact .stopped rest rfl refused

/-- **What a device is handed of a buffer.**  For every HID system, however it answers and whatever
its devices do meanwhile, writing a buffer to an open channel hands the device reports of 65 bytes
whose payloads are the buffer filled up with zeros, as far as they go.  They go all the way, and
there is no error, exactly if every report is acknowledged in full, and none follows one that is
not.  The channel stays as it is, and writing the reports down changes nothing else. -/
theorem write_conveys (B : HidBus η σ) (handle : η) (info : DeviceInfo) (bytes : List UInt8)
    (plant : Plant (Handed σ)) :
    let c : ReportChannel η := ⟨some handle, info⟩
    ∃ reports outcome after notes,
      Conveyance bytes (B.calls handle reports plant.unrecorded) outcome
        ∧ (B.calls handle reports plant.unrecorded).map ReportCall.report = reports
        ∧ write B.recorded bytes c plant
          = ⟨(outcome, c), Plant.withReports after (plant.state.reports ++ reports), notes⟩
        ∧ write B bytes c plant.unrecorded = ⟨(outcome, c), after, notes⟩ := by
  intro c
  obtain ⟨reports, outcome, after, recorded, plain, conveyed⟩ :=
    writeChunks_conveyed B handle (reportChunks bytes) plant
  refine ⟨reports, outcome, after, (write B bytes c plant.unrecorded).notes, conveyed.conveyance,
    B.map_report_calls handle reports plant.unrecorded, ?_, ?_⟩
  · cases outcome with
    | error fault => simp only [write, c, recorded, plain]
    | ok => simp only [write, c, recorded, plain]
  · cases outcome with
    | error fault => simp only [write, c, plain]
    | ok => simp only [write, c, plain]

end ReportChannel

end BrailleDisplay
