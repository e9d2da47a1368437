import BrailleDisplay.Display.Connection
import BrailleDisplay.Proofs.Frame.LinkStream

/-!
# How long a display can go on

Every loop in bringing up a display and in polling it goes round once for a frame or for a read that
brings something, and every frame takes bytes.  So the bytes that the recogniser was given bound how
often anything was repeated, and whoever gives up because that was too often has been sent at least
as many bytes.

* `Link.Spent` — so many bytes were given to the recogniser of a link between two moments;
* `Link.Outlasted` — so many have come, or were pending;
* `Link.Lasts` — a run on a link that is cut short only when it has been outlasted;
* one lemma for each loop, from reading a frame (`Link.awaitFrame_lasts`) to asking for the width
  (`Link.askWidth_lasts`) and polling (`Link.poll_lasts`);
* `Display.bringUp_lasts` — bringing up a display is cut short only after as many bytes have come as
  its loops may go round.
-/

namespace BrailleDisplay

variable {χ σ α β : Type}

/-- Every frame takes a byte at least. -/
theorem Decoder.length_frames_le (d : Decoder) (input : List UInt8) :
    (d.frames input).length ≤ input.length := by
  induction input generalizing d with
  | nil => exact Nat.zero_le _
  | cons b rest ih =>
    have one : (d.push b).1.frame?.toList.length ≤ 1 := by
      cases (d.push b).1.frame? with
      | none => exact Nat.zero_le 1
      | some _ => exact Nat.le_refl 1
    have more := ih (d.push b).2
    rw [frames_cons, List.length_append, List.length_cons]
    omega

namespace Link

variable {journal : σ → List Entry} {number : χ → Nat}

/-! ## Bytes looked at -/

variable (journal number) in
/-- From one moment of a link to a later one, at least `count` bytes were given to its recogniser:
they were pending or have come, and are not pending any more. -/
structure Spent (count : Nat) (link : Link χ) (w : World σ) (link' : Link χ) (w' : World σ) :
    Prop where
  same : number link'.channel = number link.channel
  bytes : (link.arrived journal number w).length + count + link'.pending.length
    ≤ (link'.arrived journal number w').length + link.pending.length

theorem Spent.mono {count less : Nat} {link link' : Link χ} {w w' : World σ}
    (spent : Spent journal number count link w link' w') (fewer : less ≤ count) :
    Spent journal number less link w link' w' where
  same := spent.same
  bytes := by
    have bytes := spent.bytes
    omega

/-- Where nothing comes and nothing is pending that was not before, nothing need be spent. -/
theorem Spent.idle {link link' : Link χ} {w w' : World σ}
    (same : number link'.channel = number link.channel)
    (none : link'.arrived journal number w' = link.arrived journal number w)
    (pending : link'.pending = link.pending) : Spent journal number 0 link w link' w' where
  same := same
  bytes := by
    rw [none, pending]
    exact Nat.le_refl _

/-- Notes spend nothing. -/
theorem Spent.noted {count : Nat} {link link' : Link χ} {w w' w'' : World σ}
    (spent : Spent journal number count link w link' w')
    (same : journal w''.plant.state = journal w'.plant.state) :
    Spent journal number count link w link' w'' where
  same := spent.same
  bytes := by
    rw [arrived, arrived, same]
    exact spent.bytes

/-- The frames that were recognised took as many bytes at least. -/
theorem Advance.spent {link link' : Link χ} {w w' : World σ} {found : List Frame}
    (advance : Advance journal number link w found link' w') :
    Spent journal number found.length link w link' w' where
  same := advance.same
  bytes := by
    obtain ⟨more, came, fed, split, -, frames⟩ := advance.fed
    have few := link.decoder.length_frames_le fed
    have sizes := congrArg List.length split
    rw [List.length_append, List.length_append] at sizes
    rw [came, List.length_append, frames]
    omega

variable (journal number) in
/-- From a moment of a link up to a world, at least `count` bytes have come on its channel, together
with those that were pending. -/
def Outlasted (count : Nat) (link : Link χ) (w w' : World σ) : Prop :=
  (link.arrived journal number w).length + count
    ≤ (received (number link.channel) (journal w'.plant.state)).length + link.pending.length

theorem Outlasted.start (link : Link χ) (w : World σ) : Outlasted journal number 0 link w w :=
  Nat.le_add_right _ _

/-- What was spent before counts as well. -/
theorem Outlasted.after {count spent : Nat} {link link₁ : Link χ} {w w₁ w' : World σ}
    (first : Spent journal number spent link w link₁ w₁)
    (later : Outlasted journal number count link₁ w₁ w') :
    Outlasted journal number (spent + count) link w w' := by
  obtain ⟨same, bytes⟩ := first
  unfold Outlasted at later ⊢
  rw [same] at later
  omega

theorem Outlasted.mono {count less : Nat} {link : Link χ} {w w' : World σ}
    (outlasted : Outlasted journal number count link w w') (fewer : less ≤ count) :
    Outlasted journal number less link w w' := by
  unfold Outlasted at outlasted ⊢
  omega

/-- What has come counts without the bytes that were pending. -/
theorem Outlasted.of_arrived {count more : Nat} {link : Link χ} {w w' : World σ}
    (came : (link.arrived journal number w).length + more
      ≤ (received (number link.channel) (journal w'.plant.state)).length) (fewer : count ≤ more) :
    Outlasted journal number count link w w' := by
  unfold Outlasted
  omega

variable (journal number) in
/-- A run on a link gives it back, or it is cut short when `count` bytes have come. -/
def Lasts (count : Nat) (link : Link χ) (w : World σ)
    (run : Bounded σ (α × Link χ × World σ)) : Prop :=
  run.Ends (fun (_, link', w') => Spent journal number 0 link w link' w')
    (fun w' => Outlasted journal number count link w w')

theorem Lasts.after {count spent : Nat} {link link₁ : Link χ} {w w₁ : World σ}
    {run : Bounded σ (α × Link χ × World σ)}
    (first : Spent journal number spent link w link₁ w₁)
    (later : Lasts journal number count link₁ w₁ run) :
    Lasts journal number (spent + count) link w run := by
  refine later.imp ?_ fun w' => Outlasted.after first
  obtain ⟨same, bytes⟩ := first
  intro (_, link', w') ⟨same', bytes'⟩
  exact ⟨same'.trans same, by omega⟩

theorem Lasts.mono {count less : Nat} {link : Link χ} {w : World σ}
    {run : Bounded σ (α × Link χ × World σ)} (lasts : Lasts journal number count link w run)
    (fewer : less ≤ count) : Lasts journal number less link w run :=
  lasts.imp (fun _ => id) fun _ outlasted => outlasted.mono fewer

/-- A loop that spends a byte each time it goes round lasts once more. -/
theorem Lasts.again {fuel more : Nat} {link link₁ : Link χ} {w w₁ : World σ}
    {run : Bounded σ (α × Link χ × World σ)}
    (once : Spent journal number 1 link w link₁ w₁)
    (later : Lasts journal number (min fuel more) link₁ w₁ run) :
    Lasts journal number (min fuel (more + 1)) link w run := by
  have one : min fuel (more + 1) ≤ 1 + min fuel more := by omega
  exact (later.after once).mono one

/-- Notes bring nothing. -/
theorem Lasts.noted {count : Nat} {link : Link χ} {w w₀ : World σ}
    {run : Bounded σ (α × Link χ × World σ)} (lasts : Lasts journal number count link w₀ run)
    (same : journal w₀.plant.state = journal w.plant.state) :
    Lasts journal number count link w run := by
  have start : Spent journal number 0 link w link w := .idle rfl rfl rfl
  exact (lasts.after (start.noted same)).mono (Nat.le_add_left _ _)

/-- A run goes on from where its first part gave the link back. -/
theorem Lasts.bind {count : Nat} {link : Link χ} {w : World σ}
    {run : Bounded σ (α × Link χ × World σ)}
    {next : α × Link χ × World σ → Bounded σ (β × Link χ × World σ)}
    (first : Lasts journal number count link w run)
    (onward : ∀ a link₁ w₁, Spent journal number 0 link w link₁ w₁ →
      Lasts journal number count link₁ w₁ (next (a, link₁, w₁))) :
    Lasts journal number count link w (run >>= next) := by
  refine Bounded.Ends.bind first ?_
  intro (a, link₁, w₁) spent
  exact ((onward a link₁ w₁ spent).after spent).mono (Nat.le_add_left _ _)

/-! ## Frames -/

variable {T : Transport χ σ}

/-- What a read brings after draining is all that comes. -/
theorem read_arrived (enters : T.Enters journal number) {link : Link χ} {w w₁ w₂ : World σ}
    {found : Option Frame} {decoder : Decoder} {pending : List UInt8} {limit timeout : Nat}
    {channel : χ} {result : Except ChannelFault (List UInt8)}
    (drained : drain link.decoder w link.pending = (found, decoder, pending, w₁))
    (read : w₁.perform (T.read limit timeout link.channel) = ((result, channel), w₂)) :
    number channel = number link.channel
      ∧ received (number link.channel) (journal w₂.plant.state)
        = link.arrived journal number w ++ readBytes result := by
  obtain ⟨same, came⟩ := enters.received_read limit timeout link.channel w₁.plant
  obtain ⟨value, rfl⟩ := Prod.mk.inj read
  rw [value] at same came
  rw [arrived, ← drain_plant drained]
  exact ⟨same, same ▸ came⟩

/-- Reading goes on only as long as bytes come. -/
theorem awaitFrame_lasts (enters : T.Enters journal number) (deadline fuel : Nat) (link : Link χ)
    (w : World σ) :
    (link.awaitFrame T deadline fuel w).Ends (fun _ => True)
      (fun w' => (link.arrived journal number w).length + fuel
        ≤ (received (number link.channel) (journal w'.plant.state)).length) := by
  fun_induction awaitFrame T deadline fuel link w with
  | case1 => trivial
  | case2 link w decoder pending w₁ drained =>
    show _ ≤ (received _ (journal w₁.plant.state)).length
    rw [drain_plant drained]
    exact Nat.le_refl _
  | case3 => trivial
  | case4 => trivial
  | case5 link w decoder pending w₁ drained fuel channel w₂ _ bytes some_bytes read ih =>
    -- the read was not empty, so there is one round less to go and at least one byte more
    obtain ⟨same, came⟩ := read_arrived enters drained read
    have size := List.length_pos_iff.mpr some_bytes
    refine ih.imp (fun _ => id) ?_
    intro w' later
    change (received (number channel) (journal w₂.plant.state)).length + fuel
      ≤ (received (number channel) (journal w'.plant.state)).length at later
    rw [same, came, List.length_append, readBytes] at later
    rw [Nat.succ_eq_add_one]
    omega

/-- Asking for a frame takes as many bytes as it brings frames, and is cut short only after as many
have come as it may read. -/
theorem nextFrame_lasts (enters : T.Enters journal number) (fuel timeout : Nat) (link : Link χ)
    (w : World σ) :
    (link.nextFrame T fuel timeout w).Ends
      (fun (result, link', w') =>
        Spent journal number (brought result).length link w link' w')
      (fun w' => (link.arrived journal number w).length + fuel
        ≤ (received (number link.channel) (journal w'.plant.state)).length) := by
  have cut : (link.nextFrame T fuel timeout w).Ends (fun _ => True)
      (fun w' => (link.arrived journal number w).length + fuel
        ≤ (received (number link.channel) (journal w'.plant.state)).length) := by
    unfold nextFrame
    by_cases closed : link.closed = true
    · rw [if_pos closed]
      trivial
    · rw [if_neg closed]
      exact awaitFrame_lasts enters _ fuel link w
  refine ((nextFrame_advance enters fuel timeout link w).and cut).imp ?_ fun _ => And.right
  intro (result, link', w') ⟨⟨advance, _⟩, _⟩
  exact advance.spent

/-! ## Identities -/

theorem write_spent (enters : T.Enters journal number) (bytes : List UInt8) (link : Link χ)
    (w : World σ) :
    let (_, link', w') := link.write T bytes w
    Spent journal number 0 link w link' w' :=
  (write_advance enters bytes link w).1.spent

/-- Waiting for an echo goes round once for each frame. -/
theorem awaitEcho_lasts (enters : T.Enters journal number) (fuel : Nat) (expected : ShortFrame)
    (more : Nat) (link : Link χ) (w : World σ) :
    Lasts journal number (min fuel more) link w (link.awaitEcho T fuel expected more w) := by
  induction more generalizing link w with
  | zero => exact (Outlasted.start link w).mono (Nat.min_le_right fuel 0)
  | succ more ih =>
    unfold awaitEcho
    refine ((nextFrame_lasts enters fuel echoTimeout link w).imp (fun _ => id) fun w' came =>
      .of_arrived came (Nat.min_le_left fuel _)).bind ?_
    intro (outcome, link₁, w₁) spent
    match outcome with
    | .error _ => exact spent.mono (Nat.zero_le _)
    | .ok none => exact spent.mono (Nat.zero_le _)
    | .ok (some (.short _)) => exact spent.mono (Nat.zero_le _)
    | .ok (some (.long frame)) =>
      refine Lasts.again (spent.noted ?_) (ih link₁ _)
      rfl

theorem confirms_lasts (enters : T.Enters journal number) (fuel : Nat) (candidate : Identity)
    (link : Link χ) (w : World σ) :
    Lasts journal number fuel link w (link.confirms T fuel candidate w) := by
  have sent := write_spent enters (ShortFrame.bytes ⟨candidate.id1, candidate.id2⟩) link w
  unfold confirms
  dsimp only
  generalize link.write T _ w = written at sent ⊢
  match written with
  | (.error _, link₁, w₁) => exact sent
  | (.ok (), link₁, w₁) =>
    exact ((awaitEcho_lasts enters fuel _ fuel link₁ w₁).after sent).mono (by omega)

theorem probe_lasts (enters : T.Enters journal number) (fuel : Nat) (candidates : List Identity)
    (link : Link χ) (w : World σ) :
    Lasts journal number fuel link w (link.probe T fuel candidates w) := by
  induction candidates generalizing link w with
  | nil => exact .idle rfl rfl rfl
  | cons candidate rest ih =>
    unfold probe
    dsimp only
    by_cases wildcard : candidate.isWildcard = true
    · rw [if_pos wildcard]
      exact .idle rfl rfl rfl
    · rw [if_neg wildcard]
      refine Lasts.bind ((confirms_lasts enters fuel candidate link _).noted rfl) ?_
      intro outcome link₁ w₁ spent
      match outcome with
      | .ok true => exact .idle rfl rfl rfl
      | .ok false => exact ih link₁ w₁
      | .error _ => exact (ih link₁ _).noted rfl

/-! ## Width -/

theorem send_spent (enters : T.Enters journal number) (frame : HostFrame) (link : Link χ)
    (w : World σ) :
    let (_, link', w') := link.send T frame w
    Spent journal number 0 link w link' w' := by
  unfold send
  cases frame.encode with
  | error _ => exact .idle rfl rfl rfl
  | ok bytes => exact write_spent enters bytes link w

/-- Waiting for a count goes round once for each frame. -/
theorem awaitWidth_lasts (enters : T.Enters journal number) (fuel deadline more : Nat)
    (link : Link χ) (w : World σ) :
    Lasts journal number (min fuel more) link w (link.awaitWidth T fuel deadline more w) := by
  induction more generalizing link w with
  | zero => exact (Outlasted.start link w).mono (Nat.min_le_right fuel 0)
  | succ more ih =>
    unfold awaitWidth
    by_cases late : deadline ≤ w.now
    · rw [if_pos late]
      exact .idle rfl rfl rfl
    · rw [if_neg late]
      refine ((nextFrame_lasts enters fuel (deadline - w.now) link w).imp (fun _ => id)
        fun w' came => .of_arrived came (Nat.min_le_left fuel _)).bind ?_
      intro (outcome, link₁, w₁) spent
      match outcome with
      | .error _ => exact spent.mono (Nat.zero_le _)
      | .ok none => exact spent.mono (Nat.zero_le _)
      | .ok (some frame) =>
        have again (w₂ : World σ) (same : journal w₂.plant.state = journal w₁.plant.state) :
            Lasts journal number (min fuel (more + 1)) link w
              (link₁.awaitWidth T fuel deadline more w₂) :=
          Lasts.again (spent.noted same) (ih link₁ w₂)
        have settled (w₂ : World σ) (same : journal w₂.plant.state = journal w₁.plant.state) :
            Spent journal number 0 link w link₁ w₂ :=
          (spent.mono (Nat.zero_le _)).noted same
        dsimp only
        cases frame.widthReport? with
        | none => exact again _ rfl
        | some count =>
          dsimp only
          by_cases zero : count = 0
          · rw [if_pos zero]
            exact again _ rfl
          · rw [if_neg zero]
            by_cases wide : maxCells < count
            · rw [if_pos wide]
              exact settled _ rfl
            · rw [if_neg wide]
              exact settled _ rfl

theorem askOnce_lasts (enters : T.Enters journal number) (fuel : Nat) (link : Link χ)
    (w : World σ) : Lasts journal number fuel link w (link.askOnce T fuel w) := by
  have sent := send_spent enters widthRequest link w
  unfold askOnce
  generalize link.send T widthRequest w = result at sent ⊢
  match result with
  | (.error _, link₁, w₁) => exact sent
  | (.ok (), link₁, w₁) =>
    exact ((awaitWidth_lasts enters fuel _ fuel link₁ w₁).after sent).mono (by omega)

theorem askAgain_lasts (enters : T.Enters journal number) (fuel : Nat) (fallback : UInt8)
    (remaining : Nat) (link : Link χ) (w : World σ) :
    Lasts journal number fuel link w (link.askAgain T fuel fallback remaining w) := by
  induction remaining generalizing link w with
  | zero => exact .idle rfl rfl rfl
  | succ remaining ih =>
    unfold askAgain
    refine Lasts.bind (askOnce_lasts enters fuel link w) ?_
    intro outcome link₁ w₁ spent
    match outcome with
    | .ok (some _) => exact .idle rfl rfl rfl
    | .ok none => exact (ih link₁ _).noted rfl
    | .error _ => exact (ih link₁ _).noted rfl

theorem askWidth_lasts (enters : T.Enters journal number) (fuel : Nat) (fallback : UInt8)
    (link : Link χ) (w : World σ) :
    Lasts journal number fuel link w (link.askWidth T fuel fallback w) :=
  askAgain_lasts enters fuel fallback widthAttempts link w

/-! ## Key events -/

/-- Polling goes round once for each frame that carries no event. -/
theorem pollFrames_lasts (enters : T.Enters journal number) (fuel more : Nat) (link : Link χ)
    (w : World σ) :
    Lasts journal number (min fuel more) link w (link.pollFrames T fuel more w) := by
  induction more generalizing link w with
  | zero => exact (Outlasted.start link w).mono (Nat.min_le_right fuel 0)
  | succ more ih =>
    unfold pollFrames
    refine ((nextFrame_lasts enters fuel 0 link w).imp (fun _ => id) fun w' came =>
      .of_arrived came (Nat.min_le_left fuel _)).bind ?_
    intro (outcome, link₁, w₁) spent
    match outcome with
    | .error _ => exact (spent.mono (Nat.zero_le _)).noted rfl
    | .ok none => exact spent.mono (Nat.zero_le _)
    | .ok (some frame) =>
      dsimp only
      cases KeyEvent.ofFrame? frame with
      | some event => exact spent.mono (Nat.zero_le _)
      | none =>
        refine Lasts.again (spent.noted ?_) (ih link₁ _)
        rfl

theorem poll_lasts (enters : T.Enters journal number) (fuel : Nat) (link : Link χ)
    (w : World σ) : Lasts journal number fuel link w (link.poll T fuel w) :=
  (pollFrames_lasts enters fuel fuel link w).mono (Nat.min_self fuel).ge

end Link

/-! ## Displays -/

namespace Display

variable {journal : σ → List Entry} {number : χ → Nat} {T : Transport χ σ}

theorem identify_lasts (enters : T.Enters journal number) (fuel : Nat) (profile : Profile)
    (link : Link χ) (w : World σ) :
    Link.Lasts journal number fuel link w (identify T fuel profile link w) := by
  unfold identify
  cases profile.identities with
  | none => exact .idle rfl rfl rfl
  | some candidates => exact Link.probe_lasts enters fuel candidates link w

/-- **Bringing up a display is given up only after as many bytes have come as its loops may go
round.** -/
theorem bringUp_lasts (enters : T.Enters journal number) (fuel : Nat) (profiles : ProfileSet)
    (channel : χ) (w : World σ) :
    (bringUp T fuel profiles channel w).Ends (fun _ => True)
      (fun w' => (received (number channel) (journal w.plant.state)).length + fuel
        ≤ (received (number channel) (journal w'.plant.state)).length) := by
  unfold bringUp
  dsimp only
  generalize told : World.log _ _ _ = w₀
  have same : journal w₀.plant.state = journal w.plant.state := by
    rw [← told, World.log, World.note, World.plant_foldl_note]
  have identified := (identify_lasts enters fuel (profiles.profileFor (T.info channel))
    { channel } w₀).noted same
  refine Bounded.Ends.bind identified ?_
  intro (identity, link₁, w₁) spent
  have asked := (Link.askWidth_lasts enters fuel
    (profiles.profileFor (T.info channel)).usualCells link₁ w₁).after spent
  rw [Nat.zero_add] at asked
  refine Bounded.Ends.bind asked ?_
  intro (width, link₂, w₂) _
  dsimp only
  generalize Window.erase T _ link₂ _ = result
  obtain ⟨outcome, window, link₃, w₃⟩ := result
  cases outcome with
  | error e => trivial
  | ok _ => trivial

/-- A poll of a display is given up only after as many bytes have come as it may go round. -/
theorem nextEvent_lasts (enters : T.Enters journal number) (fuel : Nat) (display : Display χ)
    (w : World σ) :
    (display.nextEvent T fuel w).Ends (fun _ => True)
      (fun w' => Link.Outlasted journal number fuel display.link w w') :=
  Bounded.Ends.bind (Link.poll_lasts enters fuel display.link w) fun _ _ => trivial

end Display

end BrailleDisplay
