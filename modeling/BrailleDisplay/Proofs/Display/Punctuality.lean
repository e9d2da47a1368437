import BrailleDisplay.Display.Connection
import BrailleDisplay.Proofs.Display.Asking
import BrailleDisplay.Proofs.Display.Custodian
import BrailleDisplay.Proofs.Display.Echoes
import BrailleDisplay.Simulator.Bench

/-!
# How long waiting takes

On a channel that writes at once and reads no longer than it is told to, waiting is bounded by the
clock and not by what comes in: the deadline of a wait is fixed when it begins, and each read is
given what is left until then.  Only while candidates are probed does every long frame begin another
wait.

* `Transport.Punctual` — channels of that kind; those of simulated devices are
  (`Simulator.Bench.transport_punctual`);
* `Bounded.Within` — a run that keeps to a limit, also where it is cut short;
* `Link.nextFrame_within`, `Link.askWidth_within` — reading a frame, and asking for the width;
* `Link.Trials.within` — trials of candidates, by the long frames they pass over;
* `Transport.Punctual.onTime` — these limits, and the one for bringing up a display.
-/

namespace BrailleDisplay

variable {χ σ α : Type}

/-- Writing does not move the clock, and reading moves it by the time it may wait, at most. -/
structure Transport.Punctual (T : Transport χ σ) : Prop where
  write : ∀ bytes c plant, (T.write bytes c plant).plant.now = plant.now
  read : ∀ limit timeout c plant, (T.read limit timeout c plant).plant.now ≤ plant.now + timeout

/-- The clock never passes `limit`, neither at the end of a run nor where it is cut short. -/
def Bounded.Within (limit : Nat) (run : Bounded σ (α × Link χ × World σ)) : Prop :=
  run.Ends (fun (_, _, w) => w.now ≤ limit) (fun w => w.now ≤ limit)

theorem Bounded.Within.mono {limit limit' : Nat} {run : Bounded σ (α × Link χ × World σ)}
    (within : run.Within limit) (later : limit ≤ limit') : run.Within limit' :=
  within.imp (fun _ early => early.trans later) fun _ early => early.trans later

theorem World.now_eq {w w' : World σ} (same : w'.plant = w.plant) : w'.now = w.now :=
  congrArg Plant.now same

namespace Link

variable {T : Transport χ σ}

/-! ## Single frames -/

theorem write_now (punctual : T.Punctual) {bytes : List UInt8} {link link' : Link χ}
    {w w' : World σ} {result : Except ChannelFault Unit}
    (write : link.write T bytes w = (result, link', w')) : w'.now = w.now := by
  unfold Link.write at write
  split at write
  · cases write
    rfl
  · cases write
    exact punctual.write bytes link.channel w.plant

theorem send_now (punctual : T.Punctual) {frame : HostFrame} {link link' : Link χ}
    {w w' : World σ} {result : Except DisplayFault Unit}
    (sent : link.send T frame w = (result, link', w')) : w'.now = w.now := by
  unfold send at sent
  split at sent
  · cases sent
    rfl
  · cases sent
    exact write_now punctual rfl

/-- A read that is given what is left until a deadline keeps it. -/
theorem read_within (punctual : T.Punctual) {limit deadline : Nat} {c c' : χ} {w w' : World σ}
    {result : Except ChannelFault (List UInt8)}
    (read : w.perform (T.read limit (deadline - w.now) c) = ((result, c'), w'))
    (early : w.now ≤ deadline) : w'.now ≤ deadline := by
  have bound := punctual.read limit (deadline - w.now) c w.plant
  obtain ⟨-, rfl⟩ := Prod.mk.inj read
  exact bound.trans_eq (Nat.add_sub_cancel' early)

/-- However often reading goes on, its deadline stays the same. -/
theorem awaitFrame_within (punctual : T.Punctual) (deadline fuel : Nat) (link : Link χ)
    (w : World σ) (early : w.now ≤ deadline) :
    (link.awaitFrame T deadline fuel w).Within deadline := by
  have drained_now {d decoder : Decoder} {w w₁ : World σ} {bytes rest : List UInt8}
      {found : Option Frame} (drained : drain d w bytes = (found, decoder, rest, w₁))
      (early : w.now ≤ deadline) : w₁.now ≤ deadline :=
    (World.now_eq (drain_plant drained)).trans_le early
  fun_induction awaitFrame T deadline fuel link w with
  | case1 _ link w frame decoder pending w₁ drained => exact drained_now drained early
  | case2 link w decoder pending w₁ drained => exact drained_now drained early
  | case3 link w decoder pending w₁ drained fuel channel w₂ _ fault read =>
    exact read_within punctual read (drained_now drained early)
  | case4 link w decoder pending w₁ drained fuel channel w₂ _ read =>
    exact read_within punctual read (drained_now drained early)
  | case5 link w decoder pending w₁ drained fuel channel w₂ _ bytes _ read ih =>
    exact ih (read_within punctual read (drained_now drained early))

/-- **A frame is waited for no longer than the timeout**, whatever comes in. -/
theorem nextFrame_within (punctual : T.Punctual) (fuel timeout : Nat) (link : Link χ)
    (w : World σ) : (link.nextFrame T fuel timeout w).Within (w.now + timeout) := by
  unfold nextFrame
  split
  · exact Nat.le_add_right w.now timeout
  · exact awaitFrame_within punctual _ fuel link w (Nat.le_add_right w.now timeout)

theorem nextFrame_now_le (punctual : T.Punctual) {fuel timeout : Nat} {link link' : Link χ}
    {w w' : World σ} {hearing : Hearing}
    (read : link.nextFrame T fuel timeout w = .ended (hearing, link', w')) :
    w'.now ≤ w.now + timeout := by
  have within := nextFrame_within punctual fuel timeout link w
  rw [read] at within
  exact within

/-! ## The width -/

/-- Frames that tell no usable count do not prolong the wait for one. -/
theorem Awaited.within (punctual : T.Punctual) {fuel deadline : Nat} {link : Link χ} {w : World σ}
    {heard : List Hearing}
    {run : Bounded σ (Except DisplayFault (Option UInt8) × Link χ × World σ)}
    (awaited : Awaited T fuel deadline link w heard run) (early : w.now ≤ deadline) :
    run.Within deadline := by
  -- each read is given what is left, so it ends by the deadline
  have due {link link' : Link χ} {w w' : World σ} {hearing : Hearing} (before : w.now < deadline)
      (read : link.nextFrame T fuel (deadline - w.now) w = .ended (hearing, link', w')) :
      w'.now ≤ deadline :=
    (nextFrame_now_le punctual read).trans_eq (Nat.add_sub_cancel' (Nat.le_of_lt before))
  induction awaited with
  | late _ => exact early
  | settled before read _ _ same => exact (World.now_eq same).trans_le (due before read)
  | ignored before read _ same _ ih => exact ih ((World.now_eq same).trans_le (due before read))
  | @reading link w _ _ read =>
    have within := nextFrame_within punctual fuel (deadline - w.now) link w
    rw [read, Nat.add_sub_cancel' early] at within
    exact within
  | between => exact early

theorem awaitWidth_within (punctual : T.Punctual) (fuel deadline more : Nat) (link : Link χ)
    (w : World σ) (early : w.now ≤ deadline) :
    (link.awaitWidth T fuel deadline more w).Within deadline := by
  obtain ⟨heard, awaited⟩ := awaitWidth_awaits T fuel deadline more link w
  exact awaited.within punctual early

/-- An attempt to learn the width takes no longer than its window. -/
theorem askOnce_within (punctual : T.Punctual) (fuel : Nat) (link : Link χ) (w : World σ) :
    (link.askOnce T fuel w).Within (w.now + widthTimeout) := by
  unfold askOnce
  rcases sent : link.send T widthRequest w with ⟨outcome, link₁, w₁⟩
  rw [← send_now punctual sent]
  cases outcome with
  | error fault => exact Nat.le_add_right w₁.now widthTimeout
  | ok _ => exact awaitWidth_within punctual fuel _ fuel link₁ w₁ (Nat.le_add_right _ _)

theorem askAgain_within (punctual : T.Punctual) (fuel : Nat) (fallback : UInt8) (remaining : Nat)
    (link : Link χ) (w : World σ) :
    (link.askAgain T fuel fallback remaining w).Within (w.now + remaining * widthTimeout) := by
  induction remaining generalizing link w with
  | zero => exact Nat.le_add_right _ _
  | succ remaining ih =>
    have window : w.now + widthTimeout ≤ w.now + (remaining + 1) * widthTimeout := by
      rw [Nat.succ_mul]
      omega
    unfold askAgain
    refine ((askOnce_within punctual fuel link w).imp (fun _ => id) ?_).bind ?_
    · exact fun _ early => early.trans window
    rintro ⟨outcome, link₁, w₁⟩ (early : w₁.now ≤ w.now + widthTimeout)
    -- an attempt that heard no usable count is followed by the next one, if any remains
    have onward (w₂ : World σ) (same : w₂.now = w₁.now) :
        (link₁.askAgain T fuel fallback remaining w₂).Within
          (w.now + (remaining + 1) * widthTimeout) := by
      apply (ih link₁ w₂).mono
      rw [same, Nat.succ_mul]
      omega
    rcases outcome with fault | _ | cells
    · exact onward _ rfl
    · exact onward _ rfl
    · exact early.trans window

/-- **Asking for the width takes no longer than its two windows**, whatever comes in. -/
theorem askWidth_within (punctual : T.Punctual) (fuel : Nat) (fallback : UInt8) (link : Link χ)
    (w : World σ) :
    (link.askWidth T fuel fallback w).Within (w.now + widthAttempts * widthTimeout) :=
  askAgain_within punctual fuel fallback widthAttempts link w

end Link

/-! ## Candidates -/

/-- Whether a frame is a long one. -/
def Frame.isLong : Frame → Bool
  | .long _ => true
  | .short _ => false

/-- How many long frames there are. -/
def longFrames (frames : List Frame) : Nat :=
  frames.countP Frame.isLong

theorem longFrames_append (frames frames' : List Frame) :
    longFrames (frames ++ frames') = longFrames frames + longFrames frames' :=
  List.countP_append

namespace Link

variable {T : Transport χ σ} {fuel : Nat}

/-- Every long frame begins another wait for the echo. -/
theorem Listened.within (punctual : T.Punctual) {link link' : Link χ} {w w' : World σ}
    {heard : List Hearing} (listened : Listened T fuel link w heard link' w') :
    w'.now ≤ w.now + echoTimeout * (1 + longFrames (heard.flatMap brought)) := by
  induction listened with
  | settled read _ =>
    have once := nextFrame_now_le punctual read
    rw [Nat.mul_add]
    omega
  | @ignored _ _ _ _ _ _ _ frame _ read same _ ih =>
    have once := nextFrame_now_le punctual read
    have still := World.now_eq same
    have skipped : longFrames (brought (.ok (some (.long frame)))) = 1 := rfl
    rw [List.flatMap_cons, longFrames_append, skipped, Nat.mul_add]
    omega

theorem Tested.within (punctual : T.Punctual) {link link' : Link χ} {w w' : World σ}
    {trial : Trial} (tested : Tested T fuel link w trial link' w') :
    w'.now ≤ w.now + echoTimeout * (1 + longFrames trial.found) := by
  cases tested with
  | unsent same write =>
    rw [write_now punctual write, World.now_eq same]
    exact Nat.le_add_right _ _
  | sent same write listened =>
    rw [← World.now_eq same, ← write_now punctual write]
    exact listened.within punctual

/-- **Trials take one wait for each candidate tested and each long frame passed over**, at most. -/
theorem Trials.within (punctual : T.Punctual) {link link' : Link χ} {w w' : World σ}
    {trials : List Trial} (run : Trials T fuel link w trials link' w') :
    w'.now ≤ w.now + echoTimeout * (trials.length + longFrames (trials.flatMap Trial.found)) := by
  induction run with
  | done same => exact (World.now_eq same).trans_le (Nat.le_add_right _ _)
  | next first _ ih =>
    have once := first.within punctual
    rw [List.length_cons, List.flatMap_cons, longFrames_append]
    simp only [Nat.mul_add] at once ih ⊢
    omega

end Link

/-! ## Bringing up -/

/-- The clock stands at `limit` at the latest, but for the time it takes to close a channel then. -/
def Transport.DoneBy (T : Transport χ σ) (limit : Nat) (w : World σ) : Prop :=
  ∃ plant : Plant σ, plant.now ≤ limit ∧ (w.plant = plant ∨ ∃ c, w.plant = (T.close c plant).plant)

theorem Transport.DoneBy.now_le {T : Transport χ σ} {limit : Nat} {w : World σ}
    (done : T.DoneBy limit w) (instant : ∀ c plant, (T.close c plant).plant.now ≤ plant.now) :
    w.now ≤ limit := by
  obtain ⟨plant, early, rest | ⟨c, closed⟩⟩ := done
  · exact (congrArg Plant.now rest).trans_le early
  · exact (congrArg Plant.now closed).trans_le ((instant c plant).trans early)

/-- Closing a link and letting go of it closes its channel, if anything happens. -/
theorem Link.drop_shut_doneBy {T : Transport χ σ} {limit : Nat} (link : Link χ) (w : World σ)
    (early : w.now ≤ limit) :
    T.DoneBy limit ((link.shut T w).1.drop T (link.shut T w).2) := by
  cases closed : link.closed with
  | true =>
    unfold shut
    rw [close_closed closed]
    dsimp only
    rw [drop_closed closed]
    exact ⟨w.plant, early, .inl rfl⟩
  | false =>
    have frees : T.Frees (fun _ plant => plant = w.plant)
        (fun plant => ∃ c, plant = (T.close c w.plant).plant) := by
      rintro c plant rfl
      exact ⟨c, rfl⟩
    exact ⟨w.plant, early, .inr (drop_shut_frees frees ⟨closed, rfl⟩)⟩

theorem Window.erase_now {T : Transport χ σ} (punctual : T.Punctual) {window window' : Window}
    {link link' : Link χ} {w w' : World σ} {result : Except DisplayFault Unit}
    (erased : window.erase T link w = (result, window', link', w')) : w'.now = w.now := by
  unfold erase submit at erased
  rcases sent : link.send T (window.frame (List.replicate window.width 0)) w
    with ⟨outcome, link₁, w₁⟩
  rw [sent] at erased
  have still := Link.send_now punctual sent
  cases outcome with
  | error fault =>
    cases erased
    exact still
  | ok _ =>
    cases erased
    exact still

/-- The candidates of a profile are tried one after the other. -/
theorem Display.identify_trials (T : Transport χ σ) (fuel : Nat) (profile : Profile)
    (link : Link χ) {w : World σ} (w₀ : World σ) (same : w₀.plant = w.plant) :
    (identify T fuel profile link w₀).Ends
      (fun (identity, link', w') => ∃ trials, Link.Trials T fuel link w trials link' w'
        ∧ Decided (profile.identities.getD []) trials identity)
      (fun _ => True) := by
  unfold identify
  cases profile.identities with
  | none => exact ⟨[], .done same, .nil⟩
  | some candidates => exact Link.probe_trials T fuel candidates link w₀ same

/-- Bringing up a display takes one wait for each candidate tested, another one for each long frame
that is read meanwhile, and the two windows for the width.  If the display has to be given up, only
closing its channel comes after that. -/
def Display.BringsUpInTime (T : Transport χ σ) (fuel : Nat) (profiles : ProfileSet) (channel : χ)
    (w : World σ) : Prop :=
  (bringUp T fuel profiles channel w).Ends
    (fun (result, w') => ∃ identity trials link₁ w₁,
      Link.Trials T fuel { channel } w trials link₁ w₁
      ∧ Decided ((profiles.profileFor (T.info channel)).identities.getD []) trials identity
      ∧ let limit := w.now
          + echoTimeout * (trials.length + longFrames (trials.flatMap Trial.found))
          + 2 * widthTimeout
        (∀ display, result = .ok display → display.identity = identity ∧ w'.now ≤ limit)
          ∧ T.DoneBy limit w'
          ∧ ((∀ c plant, (T.close c plant).plant.now ≤ plant.now) → w'.now ≤ limit))
    (fun _ => True)

theorem Display.bringUp_within {T : Transport χ σ} (punctual : T.Punctual) (fuel : Nat)
    (profiles : ProfileSet) (channel : χ) (w : World σ) :
    BringsUpInTime T fuel profiles channel w := by
  unfold BringsUpInTime bringUp
  dsimp only
  -- logging moves nothing, so the trials may be said to start before it
  generalize told : World.log _ _ _ = w₀
  have same : w₀.plant = w.plant := by
    rw [← told, World.log, World.note, World.plant_foldl_note]
  refine (identify_trials T fuel _ { channel } w₀ same).bind ?_
  rintro ⟨identity, link₁, w₁⟩ ⟨trials, run, decided⟩
  have probed := run.within punctual
  have asked := Link.askWidth_within punctual fuel
    (profiles.profileFor (T.info channel)).usualCells link₁ w₁
  refine (asked.imp (fun _ => id) fun _ _ => trivial).bind ?_
  rintro ⟨width, link₂, w₂⟩ (early : w₂.now ≤ w₁.now + 2 * widthTimeout)
  dsimp only
  generalize told' : List.foldl _ w₂ _ = w₂'
  have same' : w₂'.plant = w₂.plant := by
    rw [← told', World.plant_foldl_note]
  rcases erased : Window.erase T _ link₂ w₂' with ⟨outcome, window, link₃, w₃⟩
  have still : w₃.now = w₂.now := (Window.erase_now punctual erased).trans (World.now_eq same')
  have due : w₃.now ≤ w.now
      + echoTimeout * (trials.length + longFrames (trials.flatMap Trial.found))
      + 2 * widthTimeout := by omega
  cases outcome with
  | ok _ =>
    refine ⟨identity, trials, link₁, w₁, run, decided, ?_, ⟨w₃.plant, due, .inl rfl⟩, fun _ => due⟩
    intro display brought
    cases brought
    exact ⟨rfl, due⟩
  | error fault =>
    have done := Link.drop_shut_doneBy (T := T) link₃
      (w₃.log .warn ("initial clear failed: " ++ fault.message)) due
    refine ⟨identity, trials, link₁, w₁, run, decided, ?_, done, done.now_le⟩
    intro display brought
    cases brought

/-! ## Simulated devices -/

namespace Simulator

theorem Device.await_now {d : Device} {limit now deadline : Nat} (early : now ≤ deadline) :
    (d.await limit now deadline).now ≤ deadline := by
  unfold await
  cases d.queue with
  | nil => exact early
  | cons first rest =>
    dsimp only
    by_cases late : deadline < first.time
    · rw [if_pos late]
    · rw [if_neg late]
      exact Nat.max_le.mpr ⟨early, Nat.le_of_not_lt late⟩

theorem Device.read_now (d : Device) (limit timeout now : Nat) :
    (d.read limit timeout now).now ≤ now + timeout := by
  have early : now ≤ now + timeout := Nat.le_add_right now timeout
  unfold read
  dsimp only
  split
  · exact early
  · split
    · exact await_now early
    · split
      · exact early
      · cases d.script.stream with
        | none => exact le_rfl
        | some stream =>
          dsimp only
          by_cases short : timeout < stream.every
          · rw [if_pos short]
          · rw [if_neg short]
            exact await_now (Nat.add_le_add_left (Nat.le_of_not_lt short) now)

theorem Bench.onDevice_now {α : Type} (c : BenchChannel) (plant : Plant Bench)
    (work : Device → α × Device) : (onDevice c plant work).2.now = plant.now := by
  unfold onDevice
  split
  · rfl
  · rfl

/-- Simulated devices take writes at once, and are read in the time allowed. -/
theorem Bench.transport_punctual : Bench.transport.Punctual where
  write bytes c plant := by
    show (onDevice c plant _).2.now = plant.now
    exact onDevice_now c plant _
  read limit timeout c plant := by
    show (Bench.read limit timeout c plant).plant.now ≤ plant.now + timeout
    unfold Bench.read
    split
    · exact Nat.le_add_right _ _
    · exact Device.read_now _ limit timeout plant.now

/-- A bench with one device, which sends a key report every 300 ms and answers nothing. -/
def Bench.streaming : Bench :=
  let report : LongFrame := { typeByte := 0x01, count := 0, data := 0, reserved := #v[0, 0, 0, 0] }
  (Bench.connect {} Bench.defaultInfo { stream := some ⟨300000, report.bytes⟩ } 0).2

end Simulator

/-! ## All of it -/

/-- How late it can become from some moment on, whatever comes in. -/
structure Transport.OnTime (T : Transport χ σ) (fuel : Nat) (w : World σ) : Prop where
  /-- By its timeout a frame has come or been given up. -/
  frame : ∀ timeout (link : Link χ), (link.nextFrame T fuel timeout w).Within (w.now + timeout)
  /-- By the end of its window an attempt to learn the width is over. -/
  attempt : ∀ link : Link χ, (link.askOnce T fuel w).Within (w.now + widthTimeout)
  /-- Two such windows settle the width. -/
  width : ∀ fallback (link : Link χ),
    (link.askWidth T fuel fallback w).Within (w.now + 2 * widthTimeout)
  /-- A candidate is tested in one wait, and another one for each long frame that was read. -/
  candidate : ∀ identity (link : Link χ), (link.confirms T fuel identity w).Ends
    (fun (result, link', w') => ∃ trial, trial.candidate = identity
      ∧ Link.Tested T fuel link w trial link' w' ∧ (result = .ok true ↔ trial.Accepts)
      ∧ w'.now ≤ w.now + echoTimeout * (1 + longFrames trial.found))
    (fun _ => True)
  /-- A display is brought up in the time that its candidates and its width may take. -/
  display : ∀ profiles (channel : χ), Display.BringsUpInTime T fuel profiles channel w

/-- **Nothing that comes in can keep a punctual channel waiting** beyond the time allowed: not for a
frame, not for the width, and while candidates are probed only by long frames, each of which allows
for one wait more. -/
theorem Transport.Punctual.onTime {T : Transport χ σ} (punctual : T.Punctual) (fuel : Nat)
    (w : World σ) : T.OnTime fuel w where
  frame timeout link := link.nextFrame_within punctual fuel timeout w
  attempt link := link.askOnce_within punctual fuel w
  width fallback link := link.askWidth_within punctual fuel fallback w
  candidate identity link := by
    refine (Link.confirms_tests T fuel identity link w rfl).imp ?_ fun _ => id
    rintro ⟨result, link', w'⟩ ⟨trial, same, tested, accepts⟩
    exact ⟨trial, same, tested, accepts, tested.within punctual⟩
  display profiles channel := Display.bringUp_within punctual fuel profiles channel w

/-- A device that streams reports all the time. -/
theorem Transport.Punctual.onTime_streaming :
    Simulator.Bench.transport.Punctual
      ∧ Simulator.Bench.transport.OnTime 20
          { plant := { now := 0, running := true, state := Simulator.Bench.streaming } } :=
  ⟨Simulator.Bench.transport_punctual, Simulator.Bench.transport_punctual.onTime 20 _⟩

/-- Its reports are passed over until both windows have closed. -/
example :
    (match Link.askWidth Simulator.Bench.transport 20 32
        { channel := ⟨0, Simulator.Bench.defaultInfo⟩ }
        { plant := { now := 0, running := true, state := Simulator.Bench.streaming } } with
      | .ended (width, _, w) => some (width, w.now)
      | .cutShort _ => none) = some (.assumed 32, 2 * widthTimeout) := by
  decide +kernel

end BrailleDisplay
