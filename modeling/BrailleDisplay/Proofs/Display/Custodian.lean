import BrailleDisplay.Display.Session
import BrailleDisplay.Proofs.Display.DisplayInvariant

/-!
# From opening a channel to closing it

A session opens a channel, hands it to a display, closes it when the display fails or is done with,
and only then opens another.  So whatever is true of a channel while it is held, and of the devices
while none is, follows from what opening, using and closing a single channel do to it.

* `Transport.Frees`, `Transport.Custodian`, `Source.Custodian` — using a held channel keeps what is
  true of it, opening and closing lead from one state to the other, and waiting changes neither,
  also behind a printer (`Source.Custodian.printed`);
* what each step makes of it, from closing a link to connecting (`Session.connect_custody`),
  connecting anew (`Session.retry_custody`), and delivering events (`Session.watch_custody`);
* `Session.monitor_custody` — monitoring ends while no channel is held, and is cut short only while
  one is held or none is.
-/

namespace BrailleDisplay

variable {χ σ κ : Type} {Held : χ → Plant σ → Prop} {Free : Plant σ → Prop}

/-- Closing a channel of which `Held` is true makes `Free` true. -/
def Transport.Frees (T : Transport χ σ) (Held : χ → Plant σ → Prop) (Free : Plant σ → Prop) :
    Prop :=
  ∀ c plant, Held c plant → Free (T.close c plant).plant

/-- Using a channel keeps `Held` true of it, and closing it makes `Free` true. -/
structure Transport.Custodian (T : Transport χ σ) (Held : χ → Plant σ → Prop)
    (Free : Plant σ → Prop) : Prop where
  keeps : T.Keeps Held
  closed : T.Frees Held Free

/-- Opening a channel makes `Held` true of it, refusing one keeps `Free` true, and waiting keeps
both. -/
structure Source.Custodian (S : Source χ σ) (Held : χ → Plant σ → Prop) (Free : Plant σ → Prop) :
    Prop where
  transport : S.transport.Custodian Held Free
  acquired : ∀ plant c, Free plant → (S.acquire plant).value = .ok c →
    Held c (S.acquire plant).plant
  refused : ∀ plant fault, Free plant → (S.acquire plant).value = .error fault →
    Free (S.acquire plant).plant
  waited : ∀ c plant now, Held c plant → Held c { plant with now }
  rested : ∀ plant now, Free plant → Free { plant with now }

/-- A printer in front of every channel neither opens nor closes any. -/
theorem Source.Custodian.printed {S : Source χ σ} (custodian : S.Custodian Held Free)
    (config : PrintOptions) : (S.printed config).Custodian (fun c => Held c.inner) Free where
  transport :=
    { keeps :=
        { write := fun bytes c => custodian.transport.keeps.write bytes c.inner
          read := fun limit timeout c => custodian.transport.keeps.read limit timeout c.inner }
      closed := fun c => custodian.transport.closed c.inner }
  acquired plant c free found := custodian.acquired plant c.inner free (S.acquired_printed found)
  refused plant fault free found := custodian.refused plant fault free (S.refused_printed found)
  waited c := custodian.waited c.inner
  rested := custodian.rested

variable (Held Free) in
/-- Some channel is held, or none is. -/
def HeldOrFree (plant : Plant σ) : Prop :=
  (∃ c, Held c plant) ∨ Free plant

/-! ## Closing -/

section

variable {T : Transport χ σ}

/-- Closing an open link closes its channel, whether or not the device reports a failure. -/
theorem Link.close_frees (frees : T.Frees Held Free) {link : Link χ} {w : World σ}
    (kept : link.Keeping Held w.plant) :
    let (_, link', w') := link.close T w
    link'.closed = true ∧ Free w'.plant := by
  unfold close
  rw [if_neg (by rw [kept.isOpen]; exact Bool.false_ne_true)]
  exact ⟨rfl, frees link.channel w.plant kept.holds⟩

theorem Link.shut_frees (frees : T.Frees Held Free) {link : Link χ} {w : World σ}
    (kept : link.Keeping Held w.plant) :
    (link.shut T w).1.closed = true ∧ Free (link.shut T w).2.plant := by
  have closing := close_frees frees kept
  unfold shut
  generalize link.close T w = result at closing ⊢
  obtain ⟨outcome, link, w⟩ := result
  cases outcome with
  | ok _ => exact closing
  | error fault => exact closing

/-- Letting go of an open link closes its channel. -/
theorem Link.drop_frees (frees : T.Frees Held Free) {link : Link χ} {w : World σ}
    (kept : link.Keeping Held w.plant) : Free (link.drop T w).plant :=
  (shut_frees frees kept).2

/-- Closing a link without asking what came of it, and letting go of it, closes its channel. -/
theorem Link.drop_shut_frees (frees : T.Frees Held Free) {link : Link χ} {w : World σ}
    (kept : link.Keeping Held w.plant) :
    Free ((link.shut T w).1.drop T (link.shut T w).2).plant := by
  obtain ⟨closed, rest⟩ := shut_frees frees kept
  rw [drop_closed closed]
  exact rest

/-- Releasing a display closes its channel. -/
theorem Display.release_frees (frees : T.Frees Held Free) {display : Display χ}
    {w : World σ} (kept : display.link.Keeping Held w.plant) :
    Free (display.release T w).2.plant := by
  have closing := Link.close_frees frees kept
  unfold release
  generalize display.link.close T w = result at closing ⊢
  obtain ⟨outcome, link, w⟩ := result
  obtain ⟨closed, rest⟩ := closing
  dsimp only
  rw [Link.drop_closed closed]
  exact rest

end

/-! ## Connecting -/

variable (Held Free) in
/-- Where connecting leaves the channels: a display holds the open one, or none is open. -/
def Custody (result : Except DisplayFault (Display χ)) (plant : Plant σ) : Prop :=
  match result with
  | .ok display => display.link.Keeping Held plant
  | .error _ => Free plant

/-- Bringing up a display takes the channel over, or closes it. -/
theorem Display.bringUp_custody {T : Transport χ σ} (custodian : T.Custodian Held Free) (fuel : Nat)
    (profiles : ProfileSet) (channel : χ) (w : World σ) (held : Held channel w.plant) :
    (bringUp T fuel profiles channel w).Ends
      (fun (result, w') => Custody Held Free result w'.plant)
      (fun w' => HeldOrFree Held Free w'.plant) := by
  have keeps := custodian.keeps
  unfold bringUp
  dsimp only
  refine ((identify_keeps keeps fuel _ ?_).imp (fun _ => id) fun _ => Or.inl).bind ?_
  · refine ⟨rfl, ?_⟩
    show Held channel (World.plant _)
    rw [World.log, World.note, World.plant_foldl_note]
    exact held
  intro identified kept
  obtain ⟨identity, link, w⟩ := identified
  refine ((Link.askWidth_keeps keeps fuel _ kept).imp (fun _ => id) fun _ => Or.inl).bind ?_
  intro asked kept
  obtain ⟨width, link, w⟩ := asked
  dsimp only
  generalize Profile.keyTableNotes _ _ _ = notes
  generalize Window.blank _ _ = window
  have told : link.Keeping Held (notes.foldl World.note w).plant := by
    rw [World.plant_foldl_note]
    exact kept
  have erased := Window.erase_keeps keeps window told
  generalize window.erase T link (notes.foldl World.note w) = result at erased ⊢
  obtain ⟨outcome, _, link, w⟩ := result
  cases outcome with
  | ok _ => exact erased
  | error e =>
    have told : link.Keeping _ (w.log .warn ("initial clear failed: " ++ e.message)).plant := erased
    exact Link.drop_shut_frees custodian.closed told

namespace Session

variable {s : Session χ σ}

/-- Connecting opens a channel, and closes it unless a display comes of it. -/
theorem connect_custody (custodian : s.source.Custodian Held Free) (fuel : Nat) {w : World σ}
    (free : Free w.plant) :
    (s.connect fuel w).Ends
      (fun (result, w') => Custody Held Free result w'.plant)
      (fun w' => HeldOrFree Held Free w'.plant) := by
  unfold connect World.perform
  dsimp only
  cases acquired : (s.source.acquire w.plant).value with
  | error fault => exact custodian.refused w.plant fault free acquired
  | ok channel =>
    exact Display.bringUp_custody custodian.transport fuel s.profiles channel _
      (custodian.acquired w.plant channel free acquired)

/-- Trying again leaves no channel open between two tries. -/
theorem retry_custody (custodian : s.source.Custodian Held Free) (fuel more : Nat) {w : World σ}
    (free : Free w.plant) :
    (s.retry fuel more w).Ends
      (fun (found, w') =>
        match found with
        | some display => display.link.Keeping Held w'.plant
        | none => Free w'.plant)
      (fun w' => HeldOrFree Held Free w'.plant) := by
  induction more generalizing w with
  | zero => exact .inr free
  | succ more ih =>
    unfold retry
    cases w.running with
    | false => exact free
    | true =>
      have later : Free (w.sleep retryPause).plant := custodian.rested _ _ free
      refine (connect_custody custodian fuel later).bind ?_
      intro (result, w) custody
      match result with
      | .ok display => exact custody
      | .error e => exact ih custody

theorem finish_frees (custodian : s.source.Custodian Held Free) {display : Display χ}
    (delivered : Nat) {w : World σ} (kept : display.link.Keeping Held w.plant) :
    Free (s.finish display delivered w).2.plant := by
  have released := display.release_frees custodian.transport.closed kept
  unfold finish
  generalize display.release s.source.transport w = result at released ⊢
  match result with
  | (.ok (), w) => exact released
  | (.error _, w) => exact released

theorem release_frees (custodian : s.source.Custodian Held Free) {display : Display χ}
    {w : World σ} (kept : display.link.Keeping Held w.plant) :
    Free (s.release display w).plant := by
  have told : display.link.Keeping Held
      (w.log .warn "display channel failed, reconnecting").plant := kept
  have released := display.release_frees custodian.transport.closed told
  unfold release
  dsimp only
  generalize display.release s.source.transport _ = result at released ⊢
  match result with
  | (.ok (), w) => exact released
  | (.error _, w) => exact released

variable (Held) in
/-- A handler under which a channel that is held stays so. -/
def Heeds (handle : EventHandler χ σ κ) : Prop :=
  ∀ display event k w c, Held c w.plant → Held c (handle display event k w).2.2.plant

theorem Heeds.keeping {handle : EventHandler χ σ κ} (heeds : Heeds Held handle)
    (display : Display χ) (event : KeyEvent) (k : κ) {w : World σ} {link : Link χ}
    (kept : link.Keeping Held w.plant) :
    link.Keeping Held (handle display event k w).2.2.plant :=
  ⟨kept.isOpen, heeds display event k w link.channel kept.holds⟩

/-- Delivering events ends with every channel closed, however often the display is lost. -/
theorem watch_custody (custodian : s.source.Custodian Held Free) (fuel : Nat)
    {handle : EventHandler χ σ κ} (heeds : Heeds Held handle) (more : Nat)
    (display : Display χ) (delivered : Nat) (k : κ) {w : World σ}
    (kept : display.link.Keeping Held w.plant) :
    (s.watch fuel handle more display delivered k w).Ends
      (fun (_, _, w') => Free w'.plant)
      (fun w' => HeldOrFree Held Free w'.plant) := by
  induction more generalizing display delivered k w with
  | zero => exact .inl ⟨_, kept.holds⟩
  | succ more ih =>
    unfold watch
    cases w.running with
    | false => exact finish_frees custodian delivered kept
    | true =>
      have polled := display.nextEvent_keeps custodian.transport.keeps fuel kept
      refine (polled.imp (fun _ => id) fun _ => Or.inl).bind ?_
      intro (found, display, w) kept
      match found with
      | .event event =>
        have handled := heeds.keeping display event k kept
        dsimp only
        generalize handle display event k w = result at handled ⊢
        match result with
        | (.stop, k, w) => exact finish_frees custodian (delivered + 1) handled
        | (.goOn, k, w) => exact ih display (delivered + 1) k handled
      | .nothing =>
        have waited : display.link.Keeping Held (w.sleep pollPause).plant :=
          ⟨kept.isOpen, custodian.waited _ _ _ kept.holds⟩
        exact ih display delivered k waited
      | .lost =>
        refine (retry_custody custodian fuel fuel (release_frees custodian kept)).bind ?_
        intro (next, w) custody
        match next with
        | some next => exact ih next delivered k custody
        | none => exact custody

/-- **Monitoring closes every channel it opens before it opens another and before it ends.** -/
theorem monitor_custody (custodian : s.source.Custodian Held Free) (fuel : Nat)
    {handle : EventHandler χ σ κ} (heeds : Heeds Held handle) (k : κ) {w : World σ}
    (free : Free w.plant) :
    (s.monitor fuel handle k w).Ends
      (fun (_, _, w') => Free w'.plant)
      (fun w' => HeldOrFree Held Free w'.plant) := by
  unfold monitor
  refine (connect_custody custodian fuel free).bind ?_
  intro (result, w) custody
  match result with
  | .error _ => exact custody
  | .ok display => exact watch_custody custodian fuel heeds fuel display 0 k custody

end Session

end BrailleDisplay
