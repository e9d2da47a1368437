import BrailleDisplay.Proofs.Display.BringUp
import BrailleDisplay.Proofs.Display.Polling

/-!
# What a display in use shows

A display that was brought up is asked to show cells, to be blanked, and for key events, in any
order.  What it is known to show follows from the attempts that were acknowledged, and from nothing
else.

* `DisplayCall`, `Display.answer`, `Display.carryOut`, `Display.operate` — runs of such calls;
* `Display.Does`, `Display.answer_does` — what a call attempts to show, what it answers, and the
  window it leaves;
* `Display.Operated`, `Display.carryOut_operated` — what a run attempts to show, and the window it
  leaves;
* `Display.operate_knows`, `Display.operate_shows` — what is true of a display after every run, and
  of every further call;
* `Display.operate_custody` — what using a channel keeps true, runs keep true.
-/

namespace BrailleDisplay

/-! ## Runs of calls -/

/-- What may be asked of a display. -/
inductive DisplayCall where
  /-- It is to show cells. -/
  | present (cells : List UInt8)
  /-- It is to be blanked. -/
  | clear
  /-- It is asked for a key event. -/
  | poll
  deriving DecidableEq, Repr

/-- What comes of it. -/
inductive DisplayAnswer where
  | presented (result : Except DisplayFault Update)
  | cleared (result : Except DisplayFault Unit)
  | polled (found : Polled)
  deriving Repr

namespace Display

section

variable {χ σ : Type}

def answer (T : Transport χ σ) (fuel : Nat) (call : DisplayCall) (display : Display χ)
    (w : World σ) : Bounded σ (DisplayAnswer × Display χ × World σ) :=
  match call with
  | .present cells =>
    let (result, display, w) := display.present T cells w
    .ended (.presented result, display, w)
  | .clear =>
    let (result, display, w) := display.clear T w
    .ended (.cleared result, display, w)
  | .poll => do
    let (found, display, w) ← display.nextEvent T fuel w
    .ended (.polled found, display, w)

/-- One call after the other. -/
def carryOut (T : Transport χ σ) (fuel : Nat) :
    List DisplayCall → Display χ → World σ → Bounded σ (List DisplayAnswer × Display χ × World σ)
  | [], display, w => .ended ([], display, w)
  | call :: rest, display, w => do
    let (answer, display, w) ← display.answer T fuel call w
    let (answers, display, w) ← carryOut T fuel rest display w
    .ended (answer :: answers, display, w)

/-- Bring up a display and make calls on it. -/
def operate (T : Transport χ σ) (fuel : Nat) (profiles : ProfileSet) (channel : χ)
    (calls : List DisplayCall) (w : World σ) :
    Bounded σ (Except DisplayFault (List DisplayAnswer × Display χ) × World σ) := do
  let (result, w) ← bringUp T fuel profiles channel w
  match result with
  | .error e => .ended (.error e, w)
  | .ok display =>
    let (answers, display, w) ← carryOut T fuel calls display w
    .ended (.ok (answers, display), w)

end

/-! ## Single calls -/

/-- What a call attempts to show, what it answers, and the window it leaves. -/
inductive Does (window : Window) : DisplayCall → List Showing → DisplayAnswer → Window → Prop
  | presented {cells : List UInt8} {showings : List Showing} {result : Except DisplayFault Update}
      {window' : Window} (updated : window.Updated cells showings result window') :
      Does window (.present cells) showings (.presented result) window'
  | cleared {attempt : Attempt} {result : Except DisplayFault Unit} {window' : Window}
      (submitted : window.Submitted ⟨List.replicate window.width 0, attempt⟩ result window') :
      Does window .clear [⟨List.replicate window.width 0, attempt⟩] (.cleared result) window'
  | polled (found : Polled) : Does window .poll [] (.polled found) window

/-- The window a call leaves is told by what it attempts to show. -/
theorem Does.follows {window window' : Window} {call : DisplayCall} {showings : List Showing}
    {answer : DisplayAnswer} (does : Does window call showings answer window') :
    window' = showings.foldl Window.after window ∧ window.Fitting showings := by
  have single {showing : Showing} {result : Except DisplayFault Unit} {window' : Window}
      (fits : showing.cells.length = window.width)
      (submitted : window.Submitted showing result window') :
      window' = [showing].foldl Window.after window ∧ window.Fitting [showing] := by
    refine ⟨submitted.leaves, fun other among => ?_⟩
    rw [List.mem_singleton.mp among]
    exact ⟨fits, submitted.shows⟩
  cases does with
  | presented updated =>
    cases updated with
    | misfit _ => exact ⟨rfl, fun _ none => (nomatch none)⟩
    | unchanged _ _ => exact ⟨rfl, fun _ none => (nomatch none)⟩
    | attempted fits _ submitted => exact single fits submitted
  | cleared submitted => exact single List.length_replicate submitted
  | polled _ => exact ⟨rfl, fun _ none => (nomatch none)⟩

variable {χ σ : Type} {journal : σ → List Entry} {number : χ → Nat} {T : Transport χ σ}

variable (journal number) in
/-- From one moment of a display to a later one: the channel was used for these attempts to show
cells and for reads, and nothing of the display has changed but its link and its window. -/
structure Stretch (display : Display χ) (w : World σ) (showings : List Showing)
    (display' : Display χ) (w' : World σ) : Prop where
  talk : ∃ found, Link.Exchange journal number display.link w found
    (showings.map Showing.attempt) display'.link w'
  rest : display' = { display with link := display'.link, window := display'.window }

theorem answer_does (enters : T.Enters journal number) (fuel : Nat) (call : DisplayCall)
    {display : Display χ} (narrow : display.window.width < 65536) (w : World σ)
    (isOpen : display.link.closed = false) :
    (display.answer T fuel call w).Ends
      (fun (answer, display', w') => ∃ showings,
        Stretch journal number display w showings display' w'
          ∧ Does display.window call showings answer display'.window)
      (fun w' => call = .poll
        ∧ Link.Outlasted journal number fuel display.link w w'
        ∧ UsedFor (number display.link.channel) [] (journal w.plant.state)
            (journal w'.plant.state)) := by
  cases call with
  | present cells =>
    have updated := Window.update_exchange enters cells narrow w isOpen
    unfold answer present
    dsimp only
    generalize display.window.update T cells display.link w = result at updated ⊢
    obtain ⟨result, window', link', w'⟩ := result
    obtain ⟨showings, talk, updated⟩ := updated
    exact ⟨showings, ⟨⟨[], talk⟩, rfl⟩, .presented updated⟩
  | clear =>
    have erased := Window.erase_exchange enters narrow w isOpen
    unfold answer clear
    dsimp only
    generalize display.window.erase T display.link w = result at erased ⊢
    obtain ⟨result, window', link', w'⟩ := result
    obtain ⟨attempt, talk, submitted⟩ := erased
    exact ⟨[⟨_, attempt⟩], ⟨⟨[], talk⟩, rfl⟩, .cleared submitted⟩
  | poll =>
    have polled := (nextEvent_exchange enters fuel w isOpen).and
      (nextEvent_lasts enters fuel display w)
    refine (polled.imp (fun _ => And.left) fun w' ⟨used, outlasted⟩ => ⟨rfl, outlasted, used⟩).bind
      ?_
    intro (found, display', w') ⟨polled, rest⟩
    obtain ⟨frames, talk, _⟩ := polled.exchange
    rw [rest]
    exact ⟨[], ⟨⟨frames, talk⟩, rfl⟩, .polled found⟩

/-! ## Runs -/

variable (journal number) in
/-- A stretch in which the window remembers what was acknowledged. -/
structure Operated (display : Display χ) (w : World σ) (showings : List Showing)
    (display' : Display χ) (w' : World σ) : Prop
    extends Stretch journal number display w showings display' w' where
  window : display'.window = showings.foldl Window.after display.window
  fitting : display.window.Fitting showings

theorem Operated.refl {display : Display χ} (w : World σ) (isOpen : display.link.closed = false) :
    Operated journal number display w [] display w where
  talk := ⟨[], .idle isOpen rfl⟩
  rest := rfl
  window := rfl
  fitting _ none := nomatch none

theorem Operated.trans {display display' display'' : Display χ} {w w' w'' : World σ}
    {showings more : List Showing} (first : Operated journal number display w showings display' w')
    (second : Operated journal number display' w' more display'' w'') :
    Operated journal number display w (showings ++ more) display'' w'' where
  talk := by
    obtain ⟨found, talk⟩ := first.talk
    obtain ⟨found', talk'⟩ := second.talk
    rw [List.map_append]
    exact ⟨found ++ found', talk.trans talk'⟩
  rest := by
    rw [second.rest, first.rest]
  window := by
    rw [second.window, first.window, List.foldl_append]
  fitting := by
    refine first.fitting.append ?_
    rw [← first.window]
    exact second.fitting

theorem Operated.isOpen {display display' : Display χ} {w w' : World σ} {showings : List Showing}
    (operated : Operated journal number display w showings display' w') :
    display'.link.closed = false := by
  obtain ⟨_, talk⟩ := operated.talk
  exact talk.staysOpen

theorem Operated.width {display display' : Display χ} {w w' : World σ} {showings : List Showing}
    (operated : Operated journal number display w showings display' w') :
    display'.window.width = display.window.width := by
  rw [operated.window]
  exact operated.fitting.foldl_after.1

theorem Operated.spent {display display' : Display χ} {w w' : World σ} {showings : List Showing}
    (operated : Operated journal number display w showings display' w') :
    Link.Spent journal number 0 display.link w display'.link w' := by
  obtain ⟨_, talk⟩ := operated.talk
  exact talk.spent.mono (Nat.zero_le _)

/-- **A run of calls remembers what was acknowledged**, one call after the other, and is cut short
only after as many bytes have come as a poll may go round. -/
theorem carryOut_operated (enters : T.Enters journal number) (fuel : Nat)
    (calls : List DisplayCall) {display : Display χ} (narrow : display.window.width < 65536)
    (w : World σ) (isOpen : display.link.closed = false) :
    (carryOut T fuel calls display w).Ends
      (fun (_, display', w') => ∃ showings,
        Operated journal number display w showings display' w')
      (fun w' => Link.Outlasted journal number fuel display.link w w'
        ∧ ∃ showings, display.window.Fitting showings
          ∧ UsedFor (number display.link.channel) (showings.map Showing.attempt)
              (journal w.plant.state) (journal w'.plant.state)) := by
  -- a later stretch starts from the window the earlier one left, so the window is generalized
  induction calls generalizing display w with
  | nil => exact ⟨[], .refl w isOpen⟩
  | cons call rest ih =>
    refine ((answer_does enters fuel call narrow w isOpen).imp (fun _ => id) ?_).bind ?_
    · exact fun w' ⟨_, outlasted, used⟩ => ⟨outlasted, [], fun _ none => (nomatch none), used⟩
    intro (answer, display₁, w₁) ⟨showings, stretch, does⟩
    obtain ⟨window, fitting⟩ := does.follows
    have first : Operated journal number display w showings display₁ w₁ :=
      ⟨stretch, window, fitting⟩
    refine ((ih (first.width.trans_lt narrow) w₁ first.isOpen).imp (fun _ => id) ?_).bind ?_
    · intro w' ⟨outlasted, more, later, used⟩
      obtain ⟨found, talk⟩ := first.talk
      refine ⟨(outlasted.after first.spent).mono (Nat.le_add_left _ _), showings ++ more,
        first.fitting.append (first.window ▸ later), ?_⟩
      rw [List.map_append]
      exact talk.used.trans (talk.same ▸ used)
    intro (answers, display₂, w₂) ⟨more, second⟩
    exact ⟨showings ++ more, first.trans second⟩

/-! ## On a fresh channel -/

/-- What is known of a display in use.  It has as many cells as were agreed on when it was brought
up, and its wiring is that of its profile.  The channel was used for the probes and requests of
bringing it up and then for attempts to show cells, beginning with the one that blanked it; and it
remembers the cells of the most recent of these that the channel acknowledged. -/
structure Knows (display : Display (Numbered χ)) (profile : Profile) (channel : Numbered χ)
    (w' : World (Journaled σ)) : Prop where
  wired : display.window.dots = profile.dots
  columns : display.shown.length = display.width.cells.toNat
  remembers : ∃ course showings uses, BringUp.Follows course profile
    ∧ course.Yields profile display
    ∧ w'.plant.state.journal = uses.map (.used channel.number)
    ∧ attempts uses = course.probes.map Round.attempt ++ course.requests.map Round.attempt
        ++ showings.map Showing.attempt
    ∧ showings.head? = some ⟨List.replicate display.shown.length 0, course.last⟩
    ∧ display.window.Fitting showings
    ∧ lastAcknowledged showings = some display.shown

/-- What a run of calls leaves of a display that was brought up. -/
theorem Operated.knows {profile : Profile} {course : BringUp} (follows : course.Follows profile)
    {display display' : Display (Numbered χ)} (yields : course.Yields profile display)
    (blank : display.window = course.window profile) (acknowledged : course.last.result = .ok ())
    {channel : Numbered χ} (same : display.link.channel.number = channel.number)
    {w w' : World (Journaled σ)}
    (used : UsedFor channel.number course.sent [] w.plant.state.journal) {later : List Showing}
    (operated : Operated Journaled.journal Numbered.number display w later display' w') :
    display'.Knows profile channel w' := by
  have dots : display'.window.dots = display.window.dots := by
    rw [operated.window]
    exact operated.fitting.foldl_after.2
  have wide : display'.window.width = course.width.cells.toNat := by
    rw [operated.width, blank]
    exact Window.width_blank _ _
  have agreed : course.Yields profile display' := by
    rw [operated.rest]
    exact ⟨yields.model, yields.identity, yields.width, yields.keyTable⟩
  refine ⟨dots.trans (congrArg Window.dots blank), ?_, ?_⟩
  · rw [agreed.width]
    exact wide
  · let first : Showing := ⟨List.replicate course.width.cells.toNat 0, course.last⟩
    have shows : first.acknowledged = true := by
      rw [Showing.acknowledged, acknowledged]
      rfl
    obtain ⟨found, talk⟩ := operated.talk
    obtain ⟨uses, journal, sent⟩ := (used.trans (same ▸ talk.used)).fromStart
    -- blanking the display is the first attempt to show cells; no display without it
    refine ⟨course, first :: later, uses, follows, agreed, journal, ?_, ?_, ?_, ?_⟩
    · rw [sent, BringUp.sent, List.append_assoc]
      rfl
    · show some first = _
      rw [show display'.shown.length = course.width.cells.toNat from wide]
    · intro showing among
      rcases List.mem_cons.mp among with rfl | among
      · exact ⟨List.length_replicate.trans wide.symm, Attempt.shows_blank_iff.mpr follows.blanks⟩
      · exact operated.fitting.transfer operated.width dots showing among
    · rw [lastAcknowledged_cons shows, shown, operated.window, Window.shown_foldl_after, blank]
      rfl

/-- After any calls on a display that was brought up, it is known what it shows.  The calls are cut
short only after at least `fuel` bytes have come. -/
theorem operate_knows (T : Transport χ σ) (fuel : Nat) (profiles : ProfileSet)
    (channel : Numbered χ) (calls : List DisplayCall) (w : World σ) :
    (operate T.journaled fuel profiles channel calls w.journaled).Ends
      (fun (result, w') =>
        match result with
        | .error _ => True
        | .ok (_, display) =>
          display.Knows (profiles.profileFor (T.info channel.inner)) channel w'
            ∧ display.link.closed = false ∧ display.window.width < 65536)
      (fun w' => fuel ≤ (received channel.number w'.plant.state.journal).length) := by
  have enters := T.enters_journaled
  refine (((bringUp_course enters fuel profiles channel w.journaled).and
    (bringUp_lasts enters fuel profiles channel w.journaled)).imp (fun _ => And.left)
    fun w' ⟨_, came⟩ => (Nat.le_add_left _ _).trans came).bind ?_
  intro (result, w₁) ⟨course, link₃, w₃, follows, talk, answer⟩
  obtain ⟨found, exchange⟩ := talk.exchange
  cases acknowledged : course.last.result with
  | error fault =>
    rw [acknowledged] at answer
    obtain ⟨rfl, -⟩ := answer
    exact trivial
  | ok _ =>
    rw [acknowledged] at answer
    obtain ⟨display, rfl, yields, blank, rfl, same⟩ := answer
    have narrow : display.window.width < 65536 := blank ▸ Window.width_blank_lt _ _
    refine ((carryOut_operated enters fuel calls narrow w₁ exchange.staysOpen).imp (fun _ => id)
      ?_).bind ?_
    · intro w' ⟨outlasted, _⟩
      -- nothing was pending or had come when the display was brought up
      have whole := outlasted.after (exchange.spent.noted same)
      exact (Nat.le_add_left _ _).trans ((Nat.le_add_left _ _).trans whole)
    intro (answers, display', w') ⟨later, operated⟩
    have used := exchange.used
    rw [← same] at used
    exact ⟨operated.knows follows yields blank acknowledged exchange.same used, operated.isOpen,
      operated.width.trans_lt narrow⟩

/-- **A display knows what it shows.**  After any calls on a display that was brought up, whichever
writes and reads fail, it remembers as many cells as it has, and they are those of the most recent
attempt to show cells that the channel acknowledged.  And of every further call: cells that are too
few or too many, and cells that are remembered, are answered without any attempt; all others, and
blank cells when the display is to be blanked, take one attempt, which sends the frame of these
cells; the answer is that of the channel, and the cells are remembered exactly if it acknowledged
them.  The calls are cut short only after at least as many bytes have come as bringing up the
display and a poll may go round. -/
theorem operate_shows (T : Transport χ σ) (fuel : Nat) (profiles : ProfileSet)
    (channel : Numbered χ) (calls : List DisplayCall) (w : World σ) :
    (operate T.journaled fuel profiles channel calls w.journaled).Ends
      (fun (result, w') =>
        match result with
        | .error _ => True
        | .ok (_, display) =>
          display.Knows (profiles.profileFor (T.info channel.inner)) channel w'
            ∧ ∀ call, (display.answer T.journaled fuel call w').Ends
                (fun (answer, display', w'') => ∃ showings,
                  Stretch Journaled.journal Numbered.number display w' showings display' w''
                    ∧ Does display.window call showings answer display'.window)
                (fun _ => call = .poll))
      (fun w' => fuel ≤ (received channel.number w'.plant.state.journal).length) := by
  refine (operate_knows T fuel profiles channel calls w).imp ?_ fun _ => id
  intro (result, w') known
  cases result with
  | error e => exact trivial
  | ok answered =>
    obtain ⟨answers, display⟩ := answered
    obtain ⟨knows, isOpen, narrow⟩ := known
    refine ⟨knows, fun call => ?_⟩
    exact (answer_does T.enters_journaled fuel call narrow w' isOpen).imp (fun _ => id)
      fun _ => And.left

/-! ## What runs keep true -/

variable {Held : χ → Plant σ → Prop} {Free : Plant σ → Prop}

theorem answer_keeps (keeps : T.Keeps Held) (fuel : Nat) (call : DisplayCall) {display : Display χ}
    {w : World σ} (kept : display.link.Keeping Held w.plant) :
    (display.answer T fuel call w).Ends
      (fun (_, display', w') => display'.link.Keeping Held w'.plant)
      (fun w' => ∃ c, Held c w'.plant) := by
  cases call with
  | present cells => exact Window.update_keeps keeps cells display.window kept
  | clear => exact Window.erase_keeps keeps display.window kept
  | poll => exact (nextEvent_keeps keeps fuel kept).bind fun _ kept => kept

theorem carryOut_keeps (keeps : T.Keeps Held) (fuel : Nat) (calls : List DisplayCall)
    {display : Display χ} {w : World σ} (kept : display.link.Keeping Held w.plant) :
    (carryOut T fuel calls display w).Ends
      (fun (_, display', w') => display'.link.Keeping Held w'.plant)
      (fun w' => ∃ c, Held c w'.plant) := by
  induction calls generalizing display w with
  | nil => exact kept
  | cons call rest ih =>
    refine (answer_keeps keeps fuel call kept).bind ?_
    intro (answer, display₁, w₁) kept₁
    exact (ih kept₁).bind fun _ kept₂ => kept₂

/-- A display that is brought up and used keeps its channel, or has closed it. -/
theorem operate_custody (custodian : T.Custodian Held Free) (fuel : Nat) (profiles : ProfileSet)
    (channel : χ) (calls : List DisplayCall) {w : World σ} (held : Held channel w.plant) :
    (operate T fuel profiles channel calls w).Ends
      (fun (result, w') =>
        match result with
        | .error _ => Free w'.plant
        | .ok (_, display) => display.link.Keeping Held w'.plant)
      (fun w' => HeldOrFree Held Free w'.plant) := by
  refine (bringUp_custody custodian fuel profiles channel w held).bind ?_
  intro (result, w₁) custody
  cases result with
  | error e => exact custody
  | ok display =>
    refine ((carryOut_keeps custodian.keeps fuel calls custody).imp (fun _ => id)
      fun _ => Or.inl).bind ?_
    intro (answers, display', w') kept
    exact kept

end Display

end BrailleDisplay
