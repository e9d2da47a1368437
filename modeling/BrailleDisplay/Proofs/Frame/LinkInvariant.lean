import BrailleDisplay.Frame.Link
import BrailleDisplay.Proofs.Bounded

/-!
# What using a link keeps true

All that goes over a link passes through the write and read operations of its channel.  So what
these two keep true of a channel and the devices, everything keeps true that is done with an open
link, up to closing it.

* `Transport.Keeps` — writing and reading keep `I` true;
* `Link.Keeping` — the link is open and `I` holds of its channel;
* `Bounded.Keeps` — the same at the end of a run, and `I` at any moment where it may be cut short;
* `Link.write_keeps`, `Link.nextFrame_keeps` — sending bytes and reading frames;
* `Link.write_closed`, `Link.close_closed`, `Link.drop_closed` — what sending and closing are to a
  link that is closed.
-/

namespace BrailleDisplay

variable {χ σ α β : Type}

/-- Writing and reading keep `I` true of a channel and the devices. -/
structure Transport.Keeps (T : Transport χ σ) (I : χ → Plant σ → Prop) : Prop where
  write : ∀ bytes c plant, I c plant →
    I (T.write bytes c plant).value.2 (T.write bytes c plant).plant
  read : ∀ limit timeout c plant, I c plant →
    I (T.read limit timeout c plant).value.2 (T.read limit timeout c plant).plant

/-- The link is open, and `I` holds of its channel and the devices. -/
structure Link.Keeping (I : χ → Plant σ → Prop) (link : Link χ) (plant : Plant σ) : Prop where
  isOpen : link.closed = false
  holds : I link.channel plant

/-- A run that gives back a link gives it back open and with `I` true of its channel; where it is
cut short, `I` is true of some channel. -/
def Bounded.Keeps (I : χ → Plant σ → Prop) (run : Bounded σ (α × Link χ × World σ)) : Prop :=
  run.Ends (fun (_, link, w) => link.Keeping I w.plant) (fun w => ∃ c, I c w.plant)

variable {T : Transport χ σ} {I : χ → Plant σ → Prop}

theorem Bounded.Keeps.bind {run : Bounded σ (α × Link χ × World σ)}
    {next : α × Link χ × World σ → Bounded σ (β × Link χ × World σ)} (first : run.Keeps I)
    (onward : ∀ a link w, link.Keeping I w.plant → (next (a, link, w)).Keeps I) :
    (run >>= next).Keeps I :=
  Ends.bind first fun (a, link, w) kept => onward a link w kept

namespace Link

/-- Recognising frames among bytes at hand moves nothing. -/
theorem drain_plant {d decoder : Decoder} {w w' : World σ} {bytes rest : List UInt8}
    {found : Option Frame} (drained : drain d w bytes = (found, decoder, rest, w')) :
    w'.plant = w.plant := by
  induction bytes generalizing d w with
  | nil =>
    cases drained
    rfl
  | cons b rest ih =>
    unfold drain at drained
    split at drained
    · exact ih drained
    · cases drained
      rfl
    · have noted := ih drained
      exact noted

theorem write_keeps (keeps : T.Keeps I) (bytes : List UInt8) {link : Link χ} {w : World σ}
    (kept : link.Keeping I w.plant) :
    let (_, link', w') := link.write T bytes w
    link'.Keeping I w'.plant := by
  unfold write
  rw [if_neg (by rw [kept.isOpen]; exact Bool.false_ne_true)]
  exact ⟨kept.isOpen, keeps.write bytes link.channel w.plant kept.holds⟩

theorem read_keeps (keeps : T.Keeps I) {limit timeout : Nat} {c c' : χ} {w w' : World σ}
    {result : Except ChannelFault (List UInt8)}
    (read : w.perform (T.read limit timeout c) = ((result, c'), w')) (holds : I c w.plant) :
    I c' w'.plant := by
  have after := keeps.read limit timeout c w.plant holds
  obtain ⟨value, rfl⟩ := Prod.mk.inj read
  rw [value] at after
  exact after

theorem awaitFrame_keeps (keeps : T.Keeps I) (deadline fuel : Nat) {link : Link χ} {w : World σ}
    (kept : link.Keeping I w.plant) : (link.awaitFrame T deadline fuel w).Keeps I := by
  fun_induction awaitFrame T deadline fuel link w with
  | case1 _ link w frame decoder pending w₁ drained =>
    exact ⟨kept.isOpen, drain_plant drained ▸ kept.holds⟩
  | case2 link w decoder pending w₁ drained =>
    exact ⟨link.channel, drain_plant drained ▸ kept.holds⟩
  | case3 link w decoder pending w₁ drained fuel channel w₂ _ fault read =>
    exact ⟨kept.isOpen, read_keeps keeps read (drain_plant drained ▸ kept.holds)⟩
  | case4 link w decoder pending w₁ drained fuel channel w₂ _ read =>
    exact ⟨kept.isOpen, read_keeps keeps read (drain_plant drained ▸ kept.holds)⟩
  | case5 link w decoder pending w₁ drained fuel channel w₂ _ bytes _ read ih =>
    exact ih ⟨kept.isOpen, read_keeps keeps read (drain_plant drained ▸ kept.holds)⟩

theorem nextFrame_keeps (keeps : T.Keeps I) (fuel timeout : Nat) {link : Link χ} {w : World σ}
    (kept : link.Keeping I w.plant) : (link.nextFrame T fuel timeout w).Keeps I := by
  unfold nextFrame
  rw [if_neg (by rw [kept.isOpen]; exact Bool.false_ne_true)]
  exact awaitFrame_keeps keeps _ fuel kept

/-! ## Closed links -/

/-- A link that is closed sends nothing. -/
theorem write_closed {link : Link χ} (closed : link.closed = true) (bytes : List UInt8)
    (w : World σ) : link.write T bytes w = (.error .closed, link, w) := by
  unfold write
  rw [if_pos closed]

/-- Closing a link that is closed does nothing. -/
theorem close_closed {link : Link χ} (closed : link.closed = true) (w : World σ) :
    link.close T w = (.ok (), link, w) := by
  unfold close
  rw [if_pos closed]

/-- Letting go of a link that is closed does nothing. -/
theorem drop_closed {link : Link χ} (closed : link.closed = true) (w : World σ) :
    link.drop T w = w := by
  unfold drop shut
  rw [close_closed closed]

end Link

end BrailleDisplay
