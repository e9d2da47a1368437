import BrailleDisplay.CommandLine.Program
import BrailleDisplay.Proofs.Display.Overhearing

/-!
# How many events are printed

Key events are printed until so many were, an error ends it, or an interrupt comes.  The number is
looked at behind each event only, so that one event is printed even if none is wanted.

* `Session.monitor_sated` — without an error monitoring ends when its handler has had enough, or
  when an interrupt has come;
* `Tally` — the state of the command: how many events were seen, what was answered to each, and the
  lines printed; `Tally.told` is one more event;
* `PrintsCounted` — the lines printed and how many there are, by what was delivered;
  `printKeys_counts` says it of the command, on every bus and over any number of connections;
* `printKeys_oneTooMany` — a run that prints an event where none is wanted.
-/

namespace BrailleDisplay

variable {χ σ η κ : Type}

/-! ## Why monitoring ends -/

/-- Closing a channel does not undo an interrupt. -/
def Transport.StaysInterrupted (T : Transport χ σ) : Prop :=
  T.Frees (fun _ plant => plant.running = false) (fun plant => plant.running = false)

theorem Display.release_interrupted {T : Transport χ σ} (stays : T.StaysInterrupted)
    (display : Display χ) {w : World σ} (interrupted : w.running = false) :
    (display.release T w).2.running = false := by
  by_cases closed : display.link.closed = true
  · have untouched : (display.release T w).2 = w := by
      unfold release Link.close
      rw [if_pos closed]
      exact Link.drop_closed closed w
    rw [untouched]
    exact interrupted
  · exact display.release_frees stays ⟨Bool.eq_false_iff.mpr closed, interrupted⟩

/-- The handler asks to stop only when it has had enough. -/
def EventHandler.StopsWhen (Sated : κ → Prop) (handle : EventHandler χ σ κ) : Prop :=
  ∀ display event k w,
    (handle display event k w).1 = .stop → Sated (handle display event k w).2.1

theorem EventHandler.StopsWhen.overheard {Sated : κ → Prop} {handle : EventHandler χ σ κ}
    (stops : handle.StopsWhen Sated) (number : χ → Nat) :
    (handle.overheard number).StopsWhen Sated :=
  fun display event k w => stops display event k { w with plant := w.plant.bare.unheard }

namespace Session

theorem finish_interrupted {s : Session χ σ} (stays : s.source.transport.StaysInterrupted)
    (display : Display χ) (delivered : Nat) {w : World σ} (interrupted : w.running = false) :
    (s.finish display delivered w).2.running = false := by
  have released := display.release_interrupted stays interrupted
  unfold finish
  generalize display.release s.source.transport w = result at released ⊢
  match result with
  | (.ok (), w') => exact released
  | (.error e, w') => exact released

/-- Connecting anew is given up only for an interrupt. -/
theorem retry_interrupted (s : Session χ σ) (fuel more : Nat) (w : World σ) :
    (s.retry fuel more w).Ends (fun (found, w') => found = none → w'.running = false)
      (fun _ => True) := by
  induction more generalizing w with
  | zero => exact trivial
  | succ more ih =>
    unfold retry
    cases running : w.running with
    | false => exact fun _ => running
    | true =>
      refine (s.connect fuel (w.sleep retryPause)).ends_anyhow.bind ?_
      rintro ⟨result, w₁⟩ -
      cases result with
      | error e => exact ih _
      | ok display =>
        intro none
        cases none

/-- Without an error, the handler had enough when it asked to stop, or an interrupt has come. -/
theorem watch_sated {s : Session χ σ} (stays : s.source.transport.StaysInterrupted)
    {handle : EventHandler χ σ κ} {Sated : κ → Prop} (stops : handle.StopsWhen Sated)
    (fuel more : Nat) (display : Display χ) (delivered : Nat) (k : κ) (w : World σ) :
    (s.watch fuel handle more display delivered k w).Ends
      (fun (result, k', w') => result.isOk = true → Sated k' ∨ w'.running = false)
      (fun _ => True) := by
  induction more generalizing display delivered k w with
  | zero => exact trivial
  | succ more ih =>
    unfold watch
    cases running : w.running with
    | false => exact fun _ => .inr (finish_interrupted stays display delivered running)
    | true =>
      refine (display.nextEvent s.source.transport fuel w).ends_anyhow.bind ?_
      rintro ⟨found, display₁, w₁⟩ -
      cases found with
      | event event =>
        have asked := stops display₁ event k w₁
        dsimp only
        generalize handle display₁ event k w₁ = result at asked ⊢
        obtain ⟨onward, k₁, w₂⟩ := result
        cases onward with
        | stop => exact fun _ => .inl (asked rfl)
        | goOn => exact ih display₁ (delivered + 1) k₁ w₂
      | nothing => exact ih display₁ delivered k _
      | lost =>
        refine (s.retry_interrupted fuel fuel (s.release display₁ w₁)).bind ?_
        rintro ⟨next, w₂⟩ interrupted
        cases next with
        | some next => exact ih next delivered k w₂
        | none => exact fun _ => .inr (interrupted rfl)

theorem monitor_sated {s : Session χ σ} (stays : s.source.transport.StaysInterrupted)
    {handle : EventHandler χ σ κ} {Sated : κ → Prop} (stops : handle.StopsWhen Sated) (fuel : Nat)
    (k : κ) (w : World σ) :
    (s.monitor fuel handle k w).Ends
      (fun (result, k', w') => result.isOk = true → Sated k' ∨ w'.running = false)
      (fun _ => True) := by
  refine (s.connect fuel w).ends_anyhow.bind ?_
  rintro ⟨result, w₁⟩ -
  cases result with
  | error e => exact fun answered => (nomatch answered)
  | ok display => exact watch_sated stays stops fuel fuel display 0 k w₁

end Session

namespace CommandLine

/-! ## Counting -/

/-- The line printed for an event. -/
def eventLine (json : Bool) (table : KeyTable) (event : KeyEvent) : String :=
  if json then (eventRecord table event).compact else eventText table event

/-- The line tells the event of the call, by the key table of a display of the session that had the
channel of the call. -/
def LineOf (number : χ → Nat) (s : Session χ σ) (fuel : Nat) (json : Bool) (call : Call)
    (line : String) : Prop :=
  ∃ display, s.CameUp fuel display ∧ number display.link.channel = call.number
    ∧ line = eventLine json display.keyTable call.event

/-- What is answered to so many events when `count` are wanted. -/
def answers (count events : Nat) : List Onward :=
  (List.range events).map fun i => if count ≤ i + 1 then .stop else .goOn

theorem answers_succ (count events : Nat) :
    answers count (events + 1)
      = answers count events ++ [if count ≤ events + 1 then .stop else .goOn] := by
  rw [answers, List.range_succ, List.map_append]
  rfl

/-- How many events were seen, the calls that told of them, and the lines on standard output: those
there were `before`, and behind them one that is `LineOf` each call. -/
structure Tally (LineOf : Call → String → Prop) (count : Nat) (before : List String) (seen : Nat)
    (calls : List Call) (lines : List String) : Prop where
  seen : seen = calls.length
  answered : calls.map Call.onward = answers count calls.length
  printed : ∃ shown, lines = before ++ shown ∧ List.Forall₂ LineOf calls shown

/-- One more event. -/
theorem Tally.told {LineOf : Call → String → Prop} {count seen : Nat} {before lines : List String}
    {calls : List Call} (tally : Tally LineOf count before seen calls lines) {call : Call}
    {line : String} (onward : call.onward = if count ≤ seen + 1 then .stop else .goOn)
    (shows : LineOf call line) :
    Tally LineOf count before (seen + 1) (calls ++ [call]) (lines ++ [line]) := by
  obtain ⟨rfl, answered, shown, rfl, printed⟩ := tally
  refine ⟨?_, ?_, shown ++ [line], ?_, ?_⟩
  · simp
  · simp [answered, answers_succ, onward]
  · simp
  · exact List.rel_append printed (.cons shows .nil)

theorem answered_concat {count : Nat} {calls : List Call} {last : Call}
    (answered : (calls ++ [last]).map Call.onward = answers count (calls ++ [last]).length) :
    calls.map Call.onward = answers count calls.length
      ∧ last.onward = if count ≤ calls.length + 1 then .stop else .goOn := by
  rw [List.map_append, List.length_append, List.length_singleton, answers_succ] at answered
  obtain ⟨front, back⟩ := List.append_inj' answered rfl
  exact ⟨front, List.singleton_inj.mp back⟩

/-- While no call has asked to stop, fewer events were told of than are wanted, or none. -/
theorem length_lt_of_willing {count : Nat} {calls : List Call}
    (answered : calls.map Call.onward = answers count calls.length)
    (willing : ∀ call ∈ calls, call.onward = .goOn) : calls.length < max count 1 := by
  rcases List.eq_nil_or_concat' calls with rfl | ⟨front, last, rfl⟩
  · show 0 < max count 1
    omega
  · obtain ⟨-, onward⟩ := answered_concat answered
    rw [willing last (by simp)] at onward
    have more : ¬count ≤ front.length + 1 := by
      intro enough
      rw [if_pos enough] at onward
      cases onward
    rw [List.length_append, List.length_singleton]
    omega

/-- If no call but the last asked to stop, no more events were told of than are wanted, or one. -/
theorem length_le_of_willing {count : Nat} {calls : List Call}
    (answered : calls.map Call.onward = answers count calls.length)
    (willing : ∀ call ∈ calls.dropLast, call.onward = .goOn) : calls.length ≤ max count 1 := by
  rcases List.eq_nil_or_concat' calls with rfl | ⟨front, last, rfl⟩
  · exact Nat.zero_le _
  · rw [List.dropLast_concat] at willing
    have fewer := length_lt_of_willing (answered_concat answered).1 willing
    rw [List.length_append, List.length_singleton]
    omega

/-! ## The command -/

/-- What the command prints when it is told of an event is counted. -/
theorem printEvent_minds (number : χ → Nat) (s : Session χ (Journaled (Overheard σ)))
    (fuel count : Nat) (json : Bool) (before : List String) :
    s.Minds fuel
      (fun seen w => Tally (LineOf number s fuel json) count before seen w.calls w.outputLines)
      ((printEvent (some count) json).overheard number) := by
  intro display event seen w came tally
  have said : ((printEvent (some count) json).overheard number display event seen w).2.2.outputLines
      = w.outputLines ++ [eventLine json display.keyTable event] := w.outputLines_say _
  rw [said]
  have onward : (if (some count).any (· ≤ seen + 1) then Onward.stop else .goOn)
      = if count ≤ seen + 1 then .stop else .goOn := by
    simp
  exact tally.told onward ⟨display, came, rfl, rfl⟩

/-- It decides and prints the same when its calls are written down. -/
theorem printEvent_alike (number : χ → Nat) (count : Option Nat) (json : Bool) :
    EventHandler.Alike id SameButCalls
      ((printEvent count json : EventHandler χ σ Nat).overheard number)
      (printEvent count json) := by
  rintro display event seen v w ⟨calls, rfl⟩
  exact ⟨rfl, rfl, _, rfl⟩

/-- The command asks to stop when it has seen as many events as are wanted, or one. -/
theorem printEvent_stopsWhen (count : Nat) (json : Bool) :
    EventHandler.StopsWhen (max count 1 ≤ ·)
      (printEvent (some count) json : EventHandler χ σ Nat) := by
  intro display event seen w stop
  have enough : count ≤ seen + 1 := by
    by_contra fewer
    simp [printEvent, fewer] at stop
  show max count 1 ≤ seen + 1
  omega

/-- The world `w` is that in which calls were made, `told`, without these; and the lines printed
since `began` are those of the calls, one for each and in their order. -/
structure Listed (number : χ → Nat) (s : Session χ (Journaled (Overheard σ))) (fuel : Nat)
    (json : Bool) (began told w : TracedWorld σ) (lines : List String) : Prop where
  same : SameButCalls told w
  printed : w.outputLines = began.outputLines ++ lines
  shown : List.Forall₂ (LineOf number s fuel json) told.calls lines

theorem Listed.ofTally {number : χ → Nat} {s : Session χ (Journaled (Overheard σ))}
    {fuel count seen : Nat} {json : Bool} {began told w : TracedWorld σ}
    (same : SameButCalls told w)
    (tally : Tally (LineOf number s fuel json) count began.outputLines seen told.calls
      told.outputLines) :
    ∃ lines, Listed number s fuel json began told w lines ∧ lines.length = seen := by
  obtain ⟨seen, -, lines, printed, shown⟩ := tally
  exact ⟨lines, ⟨same, same.outputLines ▸ printed, shown⟩, shown.length_eq.symm.trans seen.symm⟩

/-- What printing events comes to when `count` are wanted.  They were delivered as to any handler
and their lines printed.  There are no more lines than events are wanted, or one; without an error
or an interrupt there are as many. -/
def PrintsCounted (number : χ → Nat) (s : Session χ (Journaled (Overheard σ))) (fuel count : Nat)
    (json : Bool) (began : TracedWorld σ)
    (run : Bounded (Journaled (Overheard σ)) (Result (Journaled (Overheard σ)))) : Prop :=
  run.Ends
    (fun (result, w) => ∃ delivered told lines,
      s.Delivered number fuel began delivered told
        ∧ Listed number s fuel json began told w lines
        ∧ result = (delivered.map fun _ => ()).mapError .ofDisplay
        ∧ lines.length ≤ max count 1
        ∧ (result.isOk = true → w.running = true → lines.length = max count 1))
    (fun w => ∃ told lines,
      s.OnTheWay number fuel began told
        ∧ Listed number s fuel json began told w lines
        ∧ lines.length < max count 1)

theorem monitor_printsCounted {number : χ → Nat} {s : Session χ (Journaled (Overheard σ))}
    (enters : s.source.Enters Journaled.journal number) (silent : s.source.Silent)
    (mute : s.source.Mute) (deaf : s.source.Deaf) (stays : s.source.transport.StaysInterrupted)
    (fuel count : Nat) (json : Bool) {began : TracedWorld σ} (fresh : began.calls = []) :
    PrintsCounted number s fuel count json began
      (s.monitor fuel (printEvent (some count) json) 0 began >>= fun (delivered, _, w) =>
        return ((delivered.map fun _ => ()).mapError .ofDisplay, w)) := by
  -- the run with its calls written down: what was delivered, what was printed, and why it ended
  have delivers := Session.delivers_of_enters enters silent fuel (printEvent (some count) json) 0
    fresh
  have started : Tally (LineOf number s fuel json) count began.outputLines 0 began.calls
      began.outputLines := by
    rw [fresh]
    exact ⟨rfl, rfl, [], (List.append_nil _).symm, .nil⟩
  have tallied := Session.monitor_upholds (fun seen => Source.upholds_told silent mute _)
    (fun seen => World.steady_told _) (printEvent_minds number s fuel count json began.outputLines)
    started
  have stops := (printEvent_stopsWhen (χ := χ) (σ := σ) count json).overheard number
  have sated := Session.monitor_sated stays stops fuel 0 began
  have alike := Session.monitor_alike deaf SameButCalls.kinship s.profiles fuel
    (printEvent_alike number (some count) json) 0 (SameButCalls.refl began)
  refine ((alike.transfer ((delivers.and tallied).and sated)).imp (fun _ => id) ?_).bind ?_
  · rintro w ⟨told, same, ⟨onTheWay, seen, tally⟩, -⟩
    obtain ⟨lines, listed, length⟩ := Listed.ofTally same tally
    have fewer := length_lt_of_willing tally.answered onTheWay.willing
    rw [← tally.seen, ← length] at fewer
    exact ⟨told, lines, onTheWay, listed, fewer⟩
  · rintro ⟨_, _, w⟩ ⟨⟨delivered, seen, told⟩, ⟨rfl, rfl, same⟩, ⟨reached, tally⟩, ended⟩
    obtain ⟨lines, listed, length⟩ := Listed.ofTally same tally
    have most := length_le_of_willing tally.answered reached.willing
    rw [← tally.seen, ← length] at most
    refine ⟨delivered, told, lines, reached, listed, rfl, most, fun succeeded running => ?_⟩
    have answered : delivered.isOk = true := by
      cases delivered with
      | ok n => rfl
      | error fault => cases succeeded
    rcases ended answered with enough | interrupted
    · omega
    · rw [same.running, running] at interrupted
      cases interrupted

/-- The world in which the command begins to monitor; it has said how to stop it, unless it prints
records. -/
def invited (json : Bool) (w : World σ) : World σ :=
  if json then w else w.note (.printed "Press keys on the display, Ctrl-C to stop")

theorem invited_plant (json : Bool) (w : World σ) : (invited json w).plant = w.plant := by
  cases json with
  | false => rfl
  | true => rfl

theorem ReportChannel.transport_staysInterrupted (B : HidBus η σ) :
    (ReportChannel.transport B).StaysInterrupted := by
  intro c plant interrupted
  show (ReportChannel.close c plant).plant.running = false
  unfold ReportChannel.close
  split
  · exact interrupted
  · exact interrupted

/-- **As many events are printed as are wanted, or one.**  On every bus, with every locator and all
profiles, with and without printed traffic, however often the display is lost and whenever an
interrupt comes: events are delivered to the command as to any handler, and the lines it prints are
those of the events delivered, one for each and in their order.  There are never more than are
wanted, but that one is printed where none is; and if the command ends without an error and without
an interrupt, there are as many. -/
theorem printKeys_counts (B : HidBus η σ) (setup : Setup) (fuel count : Nat) (json : Bool)
    (w : World σ) :
    let session : Session (Numbered (ReportChannel η)) (Journaled (Overheard σ)) :=
      ⟨(displaySource B {} setup.locator).overheard.journaled, setup.profiles⟩
    let start := w.overheard.journaled
    PrintsCounted Numbered.number session fuel count json (invited json start)
      (printKeys session fuel (some count) json start)
    ∧ ∀ config, PrintsCounted (fun c => c.inner.number) (session.printed config) fuel count json
      (invited json start) (printKeys (session.printed config) fuel (some count) json start) := by
  intro session start
  have enters := (displaySource B {} setup.locator).overheard.enters_journaled
  have silent := (displaySource B {} setup.locator).silent_overheard
  have mute := (displaySource_mute B {} setup.locator).overheard.journaled
  have stays : session.source.transport.StaysInterrupted := fun c plant interrupted =>
    ReportChannel.transport_staysInterrupted B c.inner plant.bare.unheard interrupted
  have fresh : (invited json start).calls = [] :=
    congrArg (·.state.inner.calls) (invited_plant json start)
  refine ⟨?_, fun config => ?_⟩
  · exact monitor_printsCounted enters silent mute (Source.deaf_overheard _) stays fuel count json
      fresh
  · exact monitor_printsCounted (s := session.printed config) (enters.printed config)
      (silent.printed config) (mute.printed config) (Source.deaf_overheard_printed _ config)
      (fun c => stays c.inner) fuel count json fresh

/-- Never are more events printed than are wanted. -/
def PrintsNoMore : Prop :=
  ∀ {η σ : Type} (B : HidBus η σ) (setup : Setup) {fuel count : Nat} {json : Bool} {w w' : World σ}
    {result : Except Failure Unit},
    printKeys ⟨displaySource B {} setup.locator, setup.profiles⟩ fuel (some count) json w
        = .ended (result, w') →
      ∃ lines, w'.outputLines = w.outputLines ++ lines ∧ lines.length ≤ count

/-- A bus with one display, which takes all reports and sends the frames it has left. -/
def sendingBus : HidBus Unit (List Frame) where
  enumerate plant := (.ok [{ path := [0x2F] }], plant)
  openEntry _ plant := (.ok (), plant)
  writeReport report _ plant := (.ok report.length, plant)
  readReport _ _ _ plant :=
    match plant.state with
    | [] => (.ok [], plant)
    | frame :: later => (.ok frame.bytes, { plant with state := later })

/-- It tells its identity and its width, and then that its first routing key is pressed. -/
def keyPressed : World (List Frame) where
  plant :=
    { now := 0
      running := true
      state :=
        [.short ⟨0x4D, 0x4B⟩, .long ⟨0x02, 0, 40, .replicate 4 0⟩,
          .long ⟨0x00, 0, 0, .replicate 4 0⟩] }

/-- Whether the command succeeds when no event is wanted, whether an interrupt has come by then, and
how many lines it has printed. -/
def noneWanted : Option (Bool × Bool × Nat) :=
  match printKeys ⟨displaySource sendingBus {} .any, .standard⟩ 3 (some 0) false keyPressed with
  | .ended (result, w) => some (result.isOk, w.running, w.outputLines.length)
  | .cutShort _ => none

theorem noneWanted_eq : noneWanted = some (true, true, 1) := by
  decide +kernel

/-- **Where no event is wanted, one is printed**: the number is looked at only behind an event. -/
theorem printKeys_oneTooMany : ¬PrintsNoMore := by
  intro claimed
  have printed := noneWanted_eq
  unfold noneWanted at printed
  cases ran : printKeys ⟨displaySource sendingBus {} .any, .standard⟩ 3 (some 0) false
      keyPressed with
  | cutShort w =>
    rw [ran] at printed
    cases printed
  | ended answer =>
    obtain ⟨result, w⟩ := answer
    rw [ran] at printed
    have one : w.outputLines.length = 1 := (Prod.mk.inj (Prod.mk.inj (Option.some.inj printed)).2).2
    let setup : Setup := { config := {}, locator := .any, printer := none, profiles := .standard }
    obtain ⟨lines, output, atMost⟩ := claimed sendingBus setup ran
    rw [output, show keyPressed.outputLines = [] from rfl, List.nil_append] at one
    omega

end CommandLine

end BrailleDisplay
