import BrailleDisplay.Proofs.Channel.Upkeep
import BrailleDisplay.Proofs.Display.SessionSimulation

/-!
# What displays and sessions keep true of the world

Displays and sessions do what they do through their channels, and by logging and waiting.  So they
keep true what these keep true.

* `Display.present_upholds`, `Display.release_upholds`, `Session.connect_upholds` — each operation;
* `Session.CameUp` — a display that came up in the session; the handler is told of events of these;
* `Session.monitor_upholds` — monitoring, if the handler keeps it true as well, of the world and of
  its own state together.
-/

namespace BrailleDisplay

open World (Steady)

variable {χ σ κ : Type}

namespace Display

variable {T : Transport χ σ} {I : World σ → Prop} (upholds : T.Upholds I) (steady : Steady I)
include upholds steady

theorem present_upholds (cells : List UInt8) (display : Display χ) {w : World σ} (holds : I w) :
    I (display.present T cells w).2.2 :=
  (present_alike upholds.simulates steady.kinship cells display ⟨rfl, holds⟩).2.2.2

theorem release_upholds (display : Display χ) {w : World σ} (holds : I w) :
    I (display.release T w).2 :=
  (release_alike upholds.simulates steady.kinship display ⟨rfl, holds⟩).2.2

theorem drop_upholds (display : Display χ) {w : World σ} (holds : I w) : I (display.drop T w) :=
  (Link.drop_alike upholds.simulates steady.kinship display.link ⟨rfl, holds⟩).2

theorem nextEvent_upholds (fuel : Nat) (display : Display χ) {w : World σ} (holds : I w) :
    (display.nextEvent T fuel w).Ends (fun (_, _, w') => I w') I :=
  (nextEvent_alike upholds.simulates steady.kinship fuel display ⟨rfl, holds⟩).ends.imp
    (fun _ alike => alike.2.2.2) fun _ alike => alike.2

end Display

namespace Session

section

variable {s : Session χ σ} {I : World σ → Prop} (upholds : s.source.Upholds I) (steady : Steady I)
include upholds steady

theorem connect_upholds (fuel : Nat) {w : World σ} (holds : I w) :
    (s.connect fuel w).Ends (fun (_, w') => I w') I :=
  (connect_alike upholds.simulates steady.kinship s.profiles fuel ⟨rfl, holds⟩).ends.imp
    (fun _ alike => alike.2.2) fun _ alike => alike.2

theorem retry_upholds (fuel more : Nat) {w : World σ} (holds : I w) :
    (s.retry fuel more w).Ends (fun (_, w') => I w') I :=
  (retry_alike upholds.simulates steady.kinship s.profiles fuel more ⟨rfl, holds⟩).ends.imp
    (fun _ alike => alike.2.2) fun _ alike => alike.2

theorem finish_upholds (display : Display χ) (delivered : Nat) {w : World σ} (holds : I w) :
    I (s.finish display delivered w).2 :=
  (finish_alike upholds.simulates steady.kinship s.profiles display delivered ⟨rfl, holds⟩).2.2

theorem release_upholds (display : Display χ) {w : World σ} (holds : I w) :
    I (s.release display w) :=
  (release_alike upholds.simulates steady.kinship s.profiles display ⟨rfl, holds⟩).2

end

/-- The display came up in some connection of the session, and only its link was used since. -/
def CameUp (s : Session χ σ) (fuel : Nat) (display : Display χ) : Prop :=
  ∃ w came w', s.connect fuel w = .ended (.ok came, w')
    ∧ display = { came with link := display.link }

theorem connect_cameUp (s : Session χ σ) (fuel : Nat) (w : World σ) :
    (s.connect fuel w).Ends (fun (result, _) => ∀ display, result = .ok display →
      s.CameUp fuel display) (fun _ => True) := by
  cases connected : s.connect fuel w with
  | cutShort w' => exact trivial
  | ended answer =>
    rintro display came
    obtain ⟨result, w'⟩ := answer
    obtain rfl : result = .ok display := came
    exact ⟨w, display, w', connected, rfl⟩

theorem retry_cameUp (s : Session χ σ) (fuel more : Nat) (w : World σ) :
    (s.retry fuel more w).Ends (fun (found, _) => ∀ display, found = some display →
      s.CameUp fuel display) (fun _ => True) := by
  induction more generalizing w with
  | zero => exact trivial
  | succ more ih =>
    unfold retry
    cases w.running with
    | false =>
      intro display none
      cases none
    | true =>
      refine (s.connect_cameUp fuel (w.sleep retryPause)).bind ?_
      rintro ⟨result, w₁⟩ came
      cases result with
      | error e => exact ih _
      | ok next =>
        rintro display found
        obtain rfl := Option.some.inj found
        exact came next rfl

theorem CameUp.polled {s : Session χ σ} {fuel : Nat} {display : Display χ}
    (came : s.CameUp fuel display) (w : World σ) :
    (display.nextEvent s.source.transport fuel w).Ends
      (fun (_, display', _) => s.CameUp fuel display') (fun _ => True) := by
  obtain ⟨w₀, first, w₁, connected, same⟩ := came
  refine (display.link.poll s.source.transport fuel w).ends_anyhow.bind ?_
  rintro ⟨found, link, w'⟩ -
  refine ⟨w₀, first, w₁, connected, ?_⟩
  rw [same]

variable {s : Session χ σ} {J : κ → World σ → Prop}

/-- A handler keeps it true of its state and the world, when told of events of displays that came up
in the session. -/
def Minds (s : Session χ σ) (fuel : Nat) (J : κ → World σ → Prop) (handle : EventHandler χ σ κ) :
    Prop :=
  ∀ display event k w, s.CameUp fuel display → J k w →
    J (handle display event k w).2.1 (handle display event k w).2.2

/-- Delivering events, by induction on the turns. -/
theorem watch_upholds (upholds : ∀ k, s.source.Upholds (J k)) (steady : ∀ k, Steady (J k))
    {fuel : Nat} {handle : EventHandler χ σ κ} (minds : s.Minds fuel J handle) (more : Nat)
    {display : Display χ} (came : s.CameUp fuel display) (delivered : Nat) {k : κ} {w : World σ}
    (holds : J k w) :
    (s.watch fuel handle more display delivered k w).Ends
      (fun (_, k', w') => J k' w') (fun w' => ∃ k', J k' w') := by
  induction more generalizing display delivered k w with
  | zero => exact ⟨k, holds⟩
  | succ more ih =>
    unfold watch
    cases w.running with
    | false => exact finish_upholds (upholds k) (steady k) display delivered holds
    | true =>
      have polled := Display.nextEvent_upholds (upholds k).transport (steady k) fuel display holds
      refine ((polled.and (came.polled w)).imp (fun _ => id) fun w' both => ⟨k, both.1⟩).bind ?_
      rintro ⟨found, display₁, w₁⟩ ⟨holds₁, came₁⟩
      cases found with
      | event event =>
        have minded := minds display₁ event k w₁ came₁ holds₁
        dsimp only
        generalize handle display₁ event k w₁ = result at minded ⊢
        obtain ⟨onward, k₁, w₂⟩ := result
        cases onward with
        | stop => exact finish_upholds (upholds k₁) (steady k₁) display₁ (delivered + 1) minded
        | goOn => exact ih came₁ (delivered + 1) minded
      | nothing => exact ih came₁ delivered ((steady k).sleep pollPause holds₁)
      | lost =>
        have released := release_upholds (upholds k) (steady k) display₁ holds₁
        have retried := retry_upholds (upholds k) (steady k) fuel fuel released
        refine ((retried.and (s.retry_cameUp fuel fuel _)).imp (fun _ => id)
          fun w' both => ⟨k, both.1⟩).bind ?_
        rintro ⟨next, w₂⟩ ⟨holds₂, came₂⟩
        cases next with
        | some next => exact ih (came₂ next rfl) delivered holds₂
        | none => exact holds₂

/-- **Monitoring keeps true what its channels, logging, waiting and its handler keep true.** -/
theorem monitor_upholds (upholds : ∀ k, s.source.Upholds (J k)) (steady : ∀ k, Steady (J k))
    {fuel : Nat} {handle : EventHandler χ σ κ} (minds : s.Minds fuel J handle) {k : κ} {w : World σ}
    (holds : J k w) :
    (s.monitor fuel handle k w).Ends
      (fun (_, k', w') => J k' w') (fun w' => ∃ k', J k' w') := by
  have connected := connect_upholds (upholds k) (steady k) fuel holds
  refine ((connected.and (s.connect_cameUp fuel w)).imp (fun _ => id)
    fun w' both => ⟨k, both.1⟩).bind ?_
  rintro ⟨result, w₁⟩ ⟨holds₁, came⟩
  cases result with
  | error e => exact holds₁
  | ok display => exact watch_upholds upholds steady minds fuel (came display rfl) 0 holds₁

end Session

end BrailleDisplay
