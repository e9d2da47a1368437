import BrailleDisplay.Display.Session
import BrailleDisplay.Proofs.Display.DisplaySimulation

/-!
# Sessions on channels that do as others do

A session opens its channels at a source and does the rest through displays.  So with sources whose
openings agree, and handlers that do the same when they are told of the same events, sessions
deliver the same events and come to the same end.

* `EventHandler.Alike` — handlers that do the same;
* `Session.connect_alike`, `Session.retry_alike` — connecting, by induction on the tries;
* `Session.monitor_alike` — delivering events, by induction on the turns.
-/

namespace BrailleDisplay

variable {χ χ' σ κ : Type} {S' : Source χ' σ} {S : Source χ σ} {π : χ' → χ}
  {W : World σ → World σ → Prop}

/-- Told of the same event of displays that agree, in worlds that are alike, the handlers decide the
same and leave worlds that are alike. -/
def EventHandler.Alike (π : χ' → χ) (W : World σ → World σ → Prop) (handle' : EventHandler χ' σ κ)
    (handle : EventHandler χ σ κ) : Prop :=
  ∀ display event k {w' w}, W w' w →
    Pairs Eq (Pairs Eq W) (handle' display event k w') (handle (display.map π) event k w)

namespace Session

section

variable (sim : S'.Simulates S π W) (kinship : Kinship W) (profiles : ProfileSet) (fuel : Nat)
include sim kinship

theorem connect_alike {w' w : World σ} (kin : W w' w) :
    Bounded.Alike (Pairs (Answers (Display.map π · = ·)) W) W
      (connect ⟨S', profiles⟩ fuel w') (connect ⟨S, profiles⟩ fuel w) := by
  have acquired := sim.acquire kin
  unfold connect
  dsimp only
  generalize w'.perform S'.acquire = result' at acquired ⊢
  generalize w.perform S.acquire = result at acquired ⊢
  obtain ⟨answer', w₁'⟩ := result'
  obtain ⟨answer, w₁⟩ := result
  obtain ⟨agree, kin₁⟩ := acquired
  cases agree with
  | error e => exact ⟨.error _, kin₁⟩
  | @ok channel' _ same =>
    obtain rfl := same
    exact Display.bringUp_alike sim.transport kinship fuel profiles channel' kin₁

/-- Trying again finds displays that agree, or none, by induction on the tries. -/
theorem retry_alike (more : Nat) {w' w : World σ} (kin : W w' w) :
    Bounded.Alike (Pairs (fun found' found => found'.map (Display.map π) = found) W) W
      (retry ⟨S', profiles⟩ fuel more w') (retry ⟨S, profiles⟩ fuel more w) := by
  induction more generalizing w' w with
  | zero => exact kin
  | succ more ih =>
    unfold retry
    rw [kinship.running kin]
    cases w.running with
    | false => exact ⟨rfl, kin⟩
    | true =>
      refine (connect_alike sim kinship profiles fuel (kinship.sleep retryPause kin)).bind ?_
      rintro ⟨result', w₁'⟩ ⟨result, w₁⟩ ⟨agree, kin₁⟩
      cases agree with
      | error e => exact ih (kinship.log _ _ kin₁)
      | @ok display' _ same =>
        obtain rfl := same
        exact ⟨rfl, kinship.log _ _ kin₁⟩

theorem finish_alike (display : Display χ') (delivered : Nat) {w' w : World σ} (kin : W w' w) :
    Pairs Eq W (finish ⟨S', profiles⟩ display delivered w')
      (finish ⟨S, profiles⟩ (display.map π) delivered w) := by
  have released := Display.release_alike sim.transport kinship display kin
  unfold finish
  dsimp only
  generalize display.release S'.transport w' = result' at released ⊢
  generalize (display.map π).release S.transport w = result at released ⊢
  obtain ⟨outcome', w₁'⟩ := result'
  obtain ⟨outcome, w₁⟩ := result
  obtain ⟨rfl, kin₁⟩ := released
  cases outcome' with
  | ok _ => exact ⟨rfl, kin₁⟩
  | error e => exact ⟨rfl, kin₁⟩

theorem release_alike (display : Display χ') {w' w : World σ} (kin : W w' w) :
    W (release ⟨S', profiles⟩ display w') (release ⟨S, profiles⟩ (display.map π) w) := by
  have released := Display.release_alike sim.transport kinship display
    (kinship.log .warn "display channel failed, reconnecting" kin)
  unfold release
  dsimp only
  generalize display.release S'.transport _ = result' at released ⊢
  generalize (display.map π).release S.transport _ = result at released ⊢
  obtain ⟨outcome', w₁'⟩ := result'
  obtain ⟨outcome, w₁⟩ := result
  obtain ⟨rfl, kin₁⟩ := released
  cases outcome' with
  | ok _ => exact kin₁
  | error e => exact kinship.log _ _ kin₁

/-- Delivering events, by induction on the turns. -/
theorem watch_alike {handle' : EventHandler χ' σ κ} {handle : EventHandler χ σ κ}
    (heeds : EventHandler.Alike π W handle' handle) (more : Nat) (display : Display χ')
    (delivered : Nat) (k : κ) {w' w : World σ} (kin : W w' w) :
    Bounded.Alike (Pairs Eq (Pairs Eq W)) W
      (watch ⟨S', profiles⟩ fuel handle' more display delivered k w')
      (watch ⟨S, profiles⟩ fuel handle more (display.map π) delivered k w) := by
  induction more generalizing display delivered k w' w with
  | zero => exact kin
  | succ more ih =>
    unfold watch
    rw [kinship.running kin]
    cases w.running with
    | false =>
      have finished := finish_alike sim kinship profiles display delivered kin
      exact ⟨finished.1, rfl, finished.2⟩
    | true =>
      refine (Display.nextEvent_alike sim.transport kinship fuel display kin).bind ?_
      rintro ⟨found, display₁, w₁'⟩ ⟨_, _, w₁⟩ ⟨rfl, rfl, kin₁⟩
      cases found with
      | event event =>
        have handled := heeds display₁ event k kin₁
        dsimp only
        generalize handle' display₁ event k w₁' = result' at handled ⊢
        generalize handle (display₁.map π) event k w₁ = result at handled ⊢
        obtain ⟨onward, k₁, w₂'⟩ := result'
        obtain ⟨_, _, w₂⟩ := result
        obtain ⟨rfl, rfl, kin₂⟩ := handled
        cases onward with
        | stop =>
          have finished := finish_alike sim kinship profiles display₁ (delivered + 1) kin₂
          exact ⟨finished.1, rfl, finished.2⟩
        | goOn => exact ih display₁ (delivered + 1) k₁ kin₂
      | nothing => exact ih display₁ delivered k (kinship.sleep pollPause kin₁)
      | lost =>
        have released := release_alike sim kinship profiles display₁ kin₁
        refine (retry_alike sim kinship profiles fuel fuel released).bind ?_
        rintro ⟨next, w₂'⟩ ⟨_, w₂⟩ ⟨rfl, kin₂⟩
        cases next with
        | some next => exact ih next delivered k kin₂
        | none => exact ⟨rfl, rfl, kin₂⟩

/-- **Sessions deliver the same events and come to the same end.** -/
theorem monitor_alike {handle' : EventHandler χ' σ κ} {handle : EventHandler χ σ κ}
    (heeds : EventHandler.Alike π W handle' handle) (k : κ) {w' w : World σ} (kin : W w' w) :
    Bounded.Alike (Pairs Eq (Pairs Eq W)) W (monitor ⟨S', profiles⟩ fuel handle' k w')
      (monitor ⟨S, profiles⟩ fuel handle k w) := by
  unfold monitor
  refine (connect_alike sim kinship profiles fuel kin).bind ?_
  rintro ⟨result', w₁'⟩ ⟨result, w₁⟩ ⟨agree, kin₁⟩
  cases agree with
  | error e => exact ⟨rfl, rfl, kin₁⟩
  | @ok display' _ same =>
    obtain rfl := same
    exact watch_alike sim kinship profiles fuel heeds fuel display' 0 k kin₁

end

end Session

end BrailleDisplay
