import BrailleDisplay.Display.Connection
import BrailleDisplay.Proofs.Frame.LinkExchange

/-!
# What polling finds

Polling takes frames off a link until one of them carries an event.  What it answers is therefore
the first event among the frames it took, and it answers none only when nothing is left to look at.

* `keyEvents` — the events that frames carry;
* `Polled.events` — the event an answer brings;
* `Link.poll_exchange`, `Display.nextEvent_exchange` — the frames of one poll carry the event
  answered and no other; without one nothing is pending, and a display is lost by a failing read.
-/

namespace BrailleDisplay

/-- The key events that frames carry, in their order. -/
def keyEvents (frames : List Frame) : List KeyEvent :=
  frames.filterMap KeyEvent.ofFrame?

theorem keyEvents_append (front back : List Frame) :
    keyEvents (front ++ back) = keyEvents front ++ keyEvents back :=
  List.filterMap_append

/-- The event an answer brings, if it brings one. -/
def Polled.events : Polled → List KeyEvent
  | event e => [e]
  | _ => []

variable {χ σ : Type} {journal : σ → List Entry} {number : χ → Nat} {T : Transport χ σ}

namespace Link

variable (journal number) in
/-- What a poll has done to a link: the frames it took carry what it answers, it leaves bytes
pending only behind an event, and it gives the display up only for a read that failed. -/
structure PolledOff (link : Link χ) (w : World σ) (answer : Polled) (link' : Link χ)
    (w' : World σ) : Prop where
  exchange : ∃ found, Exchange journal number link w found [] link' w'
    ∧ keyEvents found = answer.events
  empty : answer.events = [] → link'.pending = []
  failed : answer = .lost →
    ∃ fault, FailedRead (number link.channel) fault (journal w'.plant.state)

/-- Frames that are no events are passed over. -/
theorem PolledOff.behind {link link₁ link' : Link χ} {w w₁ w' : World σ} {found : List Frame}
    {answer : Polled} (later : PolledOff journal number link₁ w₁ answer link' w')
    (first : Exchange journal number link w found [] link₁ w₁) (none : keyEvents found = []) :
    PolledOff journal number link w answer link' w' := by
  obtain ⟨more, talk, events⟩ := later.exchange
  refine ⟨⟨found ++ more, first.trans talk, ?_⟩, later.empty, first.same ▸ later.failed⟩
  rw [keyEvents_append, none, List.nil_append]
  exact events

theorem pollFrames_exchange (enters : T.Enters journal number) (fuel more : Nat) {link : Link χ}
    (w : World σ) (isOpen : link.closed = false) :
    (link.pollFrames T fuel more w).Ends
      (fun (answer, link', w') => PolledOff journal number link w answer link' w')
      (fun w' =>
        UsedFor (number link.channel) [] (journal w.plant.state) (journal w'.plant.state)) := by
  induction more generalizing link w with
  | zero => exact .refl _ _
  | succ more ih =>
    unfold pollFrames
    refine (nextFrame_exchange enters fuel 0 w isOpen).bind ?_
    intro (outcome, link₁, w₁) ⟨talk, empty, failed⟩
    match outcome with
    | .error e =>
      exact ⟨⟨[], talk.thenIdle rfl, rfl⟩, fun _ => empty rfl, fun _ => ⟨e, failed e rfl⟩⟩
    | .ok none => exact ⟨⟨[], talk, rfl⟩, fun _ => empty rfl, fun lost => (nomatch lost)⟩
    | .ok (some frame) =>
      dsimp only
      cases carried : KeyEvent.ofFrame? frame with
      | some event =>
        refine ⟨⟨[frame], talk, ?_⟩, fun none => (nomatch none), fun lost => (nomatch lost)⟩
        simp [keyEvents, carried, Polled.events]
      | none =>
        have passed : keyEvents [frame] = [] := by simp [keyEvents, carried]
        refine (ih (w₁.log .debug ("unexpected frame: " ++ frame.describe)) talk.staysOpen).imp
          ?_ fun _ later => talk.used.trans (talk.same ▸ later)
        intro (answer, link', w') later
        exact PolledOff.behind later (talk.thenIdle rfl) passed

/-- **A poll answers the first event among the frames it takes**, and none only when all that came
has been looked at. -/
theorem poll_exchange (enters : T.Enters journal number) (fuel : Nat) {link : Link χ}
    (w : World σ) (isOpen : link.closed = false) :
    (link.poll T fuel w).Ends
      (fun (answer, link', w') => PolledOff journal number link w answer link' w')
      (fun w' =>
        UsedFor (number link.channel) [] (journal w.plant.state) (journal w'.plant.state)) :=
  pollFrames_exchange enters fuel fuel w isOpen

end Link

/-- A poll of a display changes nothing of it but its link. -/
theorem Display.nextEvent_exchange (enters : T.Enters journal number) (fuel : Nat)
    {display : Display χ} (w : World σ) (isOpen : display.link.closed = false) :
    (display.nextEvent T fuel w).Ends
      (fun (answer, display', w') =>
        Link.PolledOff journal number display.link w answer display'.link w'
        ∧ display' = { display with link := display'.link })
      (fun w' =>
        UsedFor (number display.link.channel) [] (journal w.plant.state)
          (journal w'.plant.state)) := by
  refine (Link.poll_exchange enters fuel w isOpen).bind ?_
  intro (answer, link, w') polled
  exact ⟨polled, rfl⟩

end BrailleDisplay
