import BrailleDisplay.Display.Width
import BrailleDisplay.Proofs.Frame.LinkExchange

/-!
# What asking for the width says, and what it hears

Asking for the number of cells goes in rounds: a request is sent, and then a count is awaited.

* `Frame.usableCount?`, `countIn` — the counts that can be used: those that are not zero;
* `Asked` — how the attempts go: one after the other, until one hears a usable count;
  `Asked.length_eq` says what two attempts come to, `Asked.width_eq` how wide the display is then
  taken to be, and `Asked.cells_bounds` within which bounds;
* `Link.awaitWidth_skips`, `Link.awaitWidth_takes` — which frames prolong the wait for a count, and
  which end it; `Link.Awaited` — how a wait for a count goes, read by read;
* `Link.askWidth_rounds` — this is how `Link.askWidth` goes through its attempts.
-/

namespace BrailleDisplay

/-! ## Counts and attempts -/

/-- The number of cells a frame tells, if there is one: the data byte of a report of type 2, unless
it is zero. -/
def Frame.usableCount? : Frame → Option UInt8
  | .short _ => none
  | .long f => if f.typeByte = 0x02 ∧ f.data ≠ 0 then some f.data else none

/-- The reports that tell a width are those of type 2. -/
theorem LongFrame.reportType_eq_cells_iff (f : LongFrame) :
    f.reportType = .cells ↔ f.typeByte = 0x02 := by
  by_cases routing : f.typeByte = 0x00
  · simp [reportType, ReportType.ofByte, routing]
  by_cases keys : f.typeByte = 0x01
  · simp [reportType, ReportType.ofByte, keys]
  by_cases cells : f.typeByte = 0x02
  · simp [reportType, ReportType.ofByte, cells]
  · simp [reportType, ReportType.ofByte, routing, keys, cells]

/-- The counts that can be used are those that are reported and not zero. -/
theorem Frame.usableCount?_eq (frame : Frame) :
    frame.usableCount? = frame.widthReport?.filter (· ≠ 0) := by
  cases frame with
  | short _ => rfl
  | long f =>
    simp only [usableCount?, widthReport?, f.reportType_eq_cells_iff]
    by_cases cells : f.typeByte = 0x02
    · rw [if_pos cells, Option.filter_some]
      by_cases zero : f.data = 0
      · simp [zero]
      · simp [zero, cells]
    · simp [cells]

/-- The first usable count among frames. -/
def countIn (found : List Frame) : Option UInt8 :=
  found.findSome? Frame.usableCount?

theorem countIn_cons_none {frame : Frame} {found : List Frame} (none : frame.usableCount? = .none) :
    countIn (frame :: found) = countIn found := by
  rw [countIn, List.findSome?_cons, none]
  rfl

theorem countIn_singleton (frame : Frame) : countIn [frame] = frame.usableCount? := by
  rw [countIn, List.findSome?_cons]
  cases frame.usableCount? with
  | none => rfl
  | some count => rfl

theorem countIn_ne_zero {found : List Frame} {count : UInt8} (told : countIn found = some count) :
    count ≠ 0 := by
  obtain ⟨frame, -, usable⟩ := List.exists_of_findSome?_eq_some told
  rw [Frame.usableCount?_eq] at usable
  obtain ⟨-, nonzero⟩ := Option.filter_eq_some_iff.mp usable
  exact of_decide_eq_true nonzero

/-- The count used is the one told, up to the widest display. -/
theorem min_maxCells (count : UInt8) :
    min count 40 = if maxCells < count then maxCells else count := by
  show (if count ≤ maxCells then count else maxCells) = _
  by_cases wide : maxCells < count
  · rw [if_pos wide, if_neg (UInt8.not_le.mpr wide)]
  · rw [if_neg wide, if_pos (UInt8.not_lt.mp wide)]

/-- The width taken from a usable count, or without any. -/
def Width.ofCount (fallback : UInt8) : Option UInt8 → Width
  | some count => .reported (min count 40)
  | none => .assumed fallback

theorem Width.ofCount_eq_reported_iff {fallback cells : UInt8} {heard : Option UInt8} :
    ofCount fallback heard = .reported cells
      ↔ ∃ count, heard = some count ∧ cells = min count 40 := by
  cases heard with
  | none => simp [ofCount]
  | some count => simp [ofCount, eq_comm]

theorem Width.ofCount_eq_assumed_iff {fallback cells : UInt8} {heard : Option UInt8} :
    ofCount fallback heard = .assumed cells ↔ heard = none ∧ cells = fallback := by
  cases heard with
  | none => simp [ofCount, eq_comm]
  | some count => simp [ofCount]

/-- What is sent asks for the width: command 0xFB in mode 1, with 32 zero bytes. -/
def Attempt.AsksWidth (attempt : Attempt) : Prop :=
  attempt.Sends { command := 0xFB, mode := 1, data1 := List.replicate 32 0, data2 := [] }

/-- How so many attempts go, with the rounds this takes and the width it comes to. -/
inductive Asked (fallback : UInt8) : Nat → List Round → Width → Prop
  | silent : Asked fallback 0 [] (.assumed fallback)
  | told {remaining : Nat} {round : Round} {count : UInt8}
      (requests : round.attempt.AsksWidth) (told : countIn round.found = some count) :
      Asked fallback (remaining + 1) [round] (.reported (min count 40))
  | again {remaining : Nat} {round : Round} {rounds : List Round} {width : Width}
      (requests : round.attempt.AsksWidth) (nothing : countIn round.found = none)
      (later : Asked fallback remaining rounds width) :
      Asked fallback (remaining + 1) (round :: rounds) width

/-- Each round sends the request. -/
theorem Asked.requests {fallback : UInt8} {remaining : Nat} {rounds : List Round} {width : Width}
    (asked : Asked fallback remaining rounds width) :
    ∀ round ∈ rounds, round.attempt.AsksWidth := by
  induction asked with
  | silent => exact fun _ none => (nomatch none)
  | told requests _ =>
    intro round among
    rw [List.mem_singleton.mp among]
    exact requests
  | again requests _ _ ih =>
    intro round among
    rcases List.mem_cons.mp among with rfl | later
    · exact requests
    · exact ih round later

/-- The width is the first usable count of the first round that heard one, and if none did, the one
to fall back to. -/
theorem Asked.width_eq {fallback : UInt8} {remaining : Nat} {rounds : List Round} {width : Width}
    (asked : Asked fallback remaining rounds width) :
    width = .ofCount fallback (rounds.findSome? fun round => countIn round.found) := by
  induction asked with
  | silent => rfl
  | told _ heard =>
    rw [List.findSome?_cons, heard]
    rfl
  | again _ nothing _ ih =>
    rw [List.findSome?_cons, nothing]
    exact ih

/-- With two attempts there is a first one, and a second exactly when it heard no usable count. -/
theorem Asked.length_eq {fallback : UInt8} {rounds : List Round} {width : Width}
    (asked : Asked fallback 2 rounds width) :
    ∃ first, rounds.head? = some first
      ∧ rounds.length = if countIn first.found = none then 2 else 1 := by
  cases asked with
  | @told _ first count _ heard => exact ⟨first, rfl, by simp [heard]⟩
  | @again _ first rounds _ _ nothing later =>
    refine ⟨first, rfl, ?_⟩
    rw [if_pos nothing]
    cases later with
    | told _ _ => rfl
    | again _ _ last =>
      cases last
      rfl

/-- The width is in range if the one to fall back to is. -/
theorem Asked.cells_bounds {fallback : UInt8} {remaining : Nat} {rounds : List Round}
    {width : Width} (asked : Asked fallback remaining rounds width)
    (fits : 1 ≤ fallback ∧ fallback ≤ 40) : 1 ≤ width.cells ∧ width.cells ≤ 40 := by
  induction asked with
  | silent => exact fits
  | @told _ round count _ heard =>
    have nonzero := countIn_ne_zero heard
    show 1 ≤ min count 40 ∧ min count 40 ≤ 40
    rw [min_maxCells]
    by_cases wide : maxCells < count
    · rw [if_pos wide]
      decide
    · rw [if_neg wide]
      exact ⟨UInt8.pos_iff_ne_zero.mpr nonzero, UInt8.not_lt.mp wide⟩
  | again _ _ _ ih => exact ih

/-! ## Asking -/

namespace Link

variable {χ σ : Type} {T : Transport χ σ}

/-! ### One read of an open window -/

section

variable {fuel deadline : Nat} {link link₁ : Link χ} {w w₁ : World σ} (more : Nat)

theorem awaitWidth_silent (early : w.now < deadline)
    (read : link.nextFrame T fuel (deadline - w.now) w = .ended (.ok none, link₁, w₁)) :
    link.awaitWidth T fuel deadline (more + 1) w = .ended (.ok none, link₁, w₁) := by
  unfold awaitWidth
  rw [if_neg (Nat.not_le.mpr early), read]
  rfl

theorem awaitWidth_fails (early : w.now < deadline) {fault : ChannelFault}
    (read : link.nextFrame T fuel (deadline - w.now) w = .ended (.error fault, link₁, w₁)) :
    link.awaitWidth T fuel deadline (more + 1) w
      = .ended (.error (.transport fault), link₁, w₁) := by
  unfold awaitWidth
  rw [if_neg (Nat.not_le.mpr early), read]
  rfl

/-- A frame that tells no width, and a count of zero, are passed over. -/
theorem awaitWidth_skips (early : w.now < deadline) {frame : Frame}
    (read : link.nextFrame T fuel (deadline - w.now) w = .ended (.ok (some frame), link₁, w₁))
    (useless : frame.usableCount? = none) :
    ∃ w₂, w₂.plant = w₁.plant ∧ link.awaitWidth T fuel deadline (more + 1) w
      = link₁.awaitWidth T fuel deadline more w₂ := by
  rw [awaitWidth, if_neg (Nat.not_le.mpr early), read, Bounded.ended_bind]
  dsimp only
  cases report : frame.widthReport? with
  | none => exact ⟨w₁.log .debug _, rfl, rfl⟩
  | some count =>
    have zero : count = 0 := by simpa [Frame.usableCount?_eq, report] using useless
    exact ⟨w₁.log .warn _, rfl, if_pos zero⟩

/-- Any other count is the answer, limited to the widest display. -/
theorem awaitWidth_takes (early : w.now < deadline) {frame : Frame} {count : UInt8}
    (read : link.nextFrame T fuel (deadline - w.now) w = .ended (.ok (some frame), link₁, w₁))
    (usable : frame.usableCount? = some count) :
    ∃ w₂, w₂.plant = w₁.plant ∧ link.awaitWidth T fuel deadline (more + 1) w
      = .ended (.ok (some (min count 40)), link₁, w₂) := by
  rw [Frame.usableCount?_eq] at usable
  obtain ⟨report, nonzero⟩ := Option.filter_eq_some_iff.mp usable
  rw [awaitWidth, if_neg (Nat.not_le.mpr early), read, Bounded.ended_bind]
  dsimp only
  rw [report, min_maxCells]
  dsimp only
  rw [if_neg (of_decide_eq_true nonzero)]
  by_cases wide : maxCells < count
  · rw [if_pos wide, if_pos wide]
    exact ⟨w₁.log .warn _, rfl, rfl⟩
  · rw [if_neg wide, if_neg wide]
    exact ⟨w₁, rfl, rfl⟩

end

variable (T) in
/-- How a wait for a count goes, and what its reads come to.  Each is given what is left until
`deadline`.  A frame that tells no usable count is ignored; a usable count, a read that brings
nothing, a failure and the deadline end the wait.  Where it is cut short, it is so during a read or
between two. -/
inductive Awaited (fuel deadline : Nat) : Link χ → World σ →
    List (Except ChannelFault (Option Frame)) →
    Bounded σ (Except DisplayFault (Option UInt8) × Link χ × World σ) → Prop
  | late {link : Link χ} {w : World σ} (passed : deadline ≤ w.now) :
      Awaited fuel deadline link w [] (.ended (.ok none, link, w))
  | settled {link link₁ : Link χ} {w w₁ w₂ : World σ} {hearing : Except ChannelFault (Option Frame)}
      {result : Except DisplayFault (Option UInt8)} (early : w.now < deadline)
      (read : link.nextFrame T fuel (deadline - w.now) w = .ended (hearing, link₁, w₁))
      (settles : ∀ frame, hearing = .ok (some frame) → frame.usableCount? ≠ none)
      (told : result.toOption.join = (countIn (brought hearing)).map (min · 40))
      (same : w₂.plant = w₁.plant) :
      Awaited fuel deadline link w [hearing] (.ended (result, link₁, w₂))
  | ignored {link link₁ : Link χ} {w w₁ w₂ : World σ} {frame : Frame}
      {heard : List (Except ChannelFault (Option Frame))}
      {run : Bounded σ (Except DisplayFault (Option UInt8) × Link χ × World σ)}
      (early : w.now < deadline)
      (read : link.nextFrame T fuel (deadline - w.now) w = .ended (.ok (some frame), link₁, w₁))
      (useless : frame.usableCount? = none) (same : w₂.plant = w₁.plant)
      (later : Awaited fuel deadline link₁ w₂ heard run) :
      Awaited fuel deadline link w (.ok (some frame) :: heard) run
  | reading {link : Link χ} {w w₁ : World σ} (early : w.now < deadline)
      (read : link.nextFrame T fuel (deadline - w.now) w = .cutShort w₁) :
      Awaited fuel deadline link w [] (.cutShort w₁)
  | between {link : Link χ} {w : World σ} : Awaited fuel deadline link w [] (.cutShort w)

variable (T) in
/-- **Waiting for a count** goes this way. -/
theorem awaitWidth_awaits (fuel deadline more : Nat) (link : Link χ) (w : World σ) :
    ∃ heard, Awaited T fuel deadline link w heard (link.awaitWidth T fuel deadline more w) := by
  induction more generalizing link w with
  | zero => exact ⟨[], .between⟩
  | succ more ih =>
    rcases Nat.lt_or_ge w.now deadline with early | passed
    · rcases read : link.nextFrame T fuel (deadline - w.now) w with ⟨outcome, link₁, w₁⟩ | w₁
      · rcases outcome with fault | _ | frame
        · rw [awaitWidth_fails more early read]
          exact ⟨[.error fault], .settled early read nofun rfl rfl⟩
        · rw [awaitWidth_silent more early read]
          exact ⟨[.ok none], .settled early read nofun rfl rfl⟩
        · cases usable : frame.usableCount? with
          | none =>
            obtain ⟨w₂, same, onward⟩ := awaitWidth_skips more early read usable
            obtain ⟨heard, later⟩ := ih link₁ w₂
            rw [onward]
            exact ⟨.ok (some frame) :: heard, .ignored early read usable same later⟩
          | some count =>
            obtain ⟨w₂, same, answers⟩ := awaitWidth_takes more early read usable
            rw [answers]
            refine ⟨[.ok (some frame)], .settled early read ?_ ?_ same⟩
            · intro frame' same
              cases same
              rw [usable]
              exact Option.some_ne_none count
            · show some _ = (countIn [frame]).map _
              rw [countIn_singleton, usable]
              rfl
      · rw [awaitWidth, if_neg (Nat.not_le.mpr early), read]
        exact ⟨[], .reading early read⟩
    · rw [awaitWidth, if_pos passed]
      exact ⟨[], .late passed⟩

/-- The first usable count that comes in time is the answer, limited to the widest display. -/
theorem Awaited.told {fuel deadline : Nat} {link : Link χ} {w : World σ}
    {heard : List (Except ChannelFault (Option Frame))}
    {run : Bounded σ (Except DisplayFault (Option UInt8) × Link χ × World σ)}
    (awaited : Awaited T fuel deadline link w heard run) :
    run.Ends
      (fun (result, _, _) =>
        result.toOption.join = (countIn (heard.flatMap brought)).map (min · 40))
      (fun _ => True) := by
  induction awaited with
  | late _ => rfl
  | settled _ _ _ told _ =>
    show _ = (countIn _).map _
    rw [List.flatMap_singleton]
    exact told
  | ignored _ _ useless _ _ ih =>
    refine ih.imp ?_ fun _ => id
    intro _ told
    exact told.trans (congrArg _ (countIn_cons_none useless).symm)
  | reading _ _ => trivial
  | between => trivial

/-! ### Rounds of requests -/

variable {journal : σ → List Entry} {number : χ → Nat}

/-- Waiting for a count attempts to write nothing, and recognises what its reads bring. -/
theorem Awaited.exchange (enters : T.Enters journal number) {fuel deadline : Nat} {link : Link χ}
    {w : World σ} {heard : List (Except ChannelFault (Option Frame))}
    {run : Bounded σ (Except DisplayFault (Option UInt8) × Link χ × World σ)}
    (awaited : Awaited T fuel deadline link w heard run) (isOpen : link.closed = false) :
    run.Ends
      (fun (_, link', w') => Exchange journal number link w (heard.flatMap brought) [] link' w')
      (fun w' =>
        UsedFor (number link.channel) [] (journal w.plant.state) (journal w'.plant.state)) := by
  induction awaited with
  | late _ => exact .idle isOpen rfl
  | settled _ read _ _ same =>
    show Exchange _ _ _ _ _ _ _ _
    rw [List.flatMap_singleton]
    exact (Exchange.ofRead enters isOpen read).thenIdle (by rw [same])
  | ignored _ read _ same _ ih =>
    have talk := Exchange.ofRead enters isOpen read
    refine (ih talk.staysOpen).imp ?_ ?_
    · intro _ heard
      exact talk.trans (heard.afterIdle (by rw [same]))
    · intro w' used
      rw [same, talk.same] at used
      exact talk.used.trans used
  | @reading _ w _ _ read =>
    have used := nextFrame_exchange enters fuel (deadline - w.now) w isOpen
    rw [read] at used
    exact used
  | between => exact .refl _ _

theorem awaitWidth_exchange (enters : T.Enters journal number) (fuel deadline more : Nat)
    {link : Link χ} (w : World σ) (isOpen : link.closed = false) :
    (link.awaitWidth T fuel deadline more w).Ends
      (fun (result, link', w') => ∃ found, Exchange journal number link w found [] link' w'
        ∧ result.toOption.join = (countIn found).map (min · 40))
      (fun w' =>
        UsedFor (number link.channel) [] (journal w.plant.state) (journal w'.plant.state)) := by
  obtain ⟨heard, awaited⟩ := awaitWidth_awaits T fuel deadline more link w
  refine ((awaited.exchange enters isOpen).and awaited.told).imp ?_ fun _ both => both.1
  intro (result, link', w') ⟨talk, told⟩
  exact ⟨heard.flatMap brought, talk, told⟩

/-- An attempt is a round, and its answer is the first usable count. -/
theorem askOnce_round (enters : T.Enters journal number) (fuel : Nat) {link : Link χ}
    (w : World σ) (isOpen : link.closed = false) :
    (link.askOnce T fuel w).Ends
      (fun (result, link', w') => ∃ round, InRound journal number link w round link' w'
        ∧ round.attempt.AsksWidth
        ∧ result.toOption.join = (countIn round.found).map (min · 40))
      (fun w' => ∃ attempt : Attempt, attempt.AsksWidth
        ∧ UsedFor (number link.channel) [attempt] (journal w.plant.state)
            (journal w'.plant.state)) := by
  obtain ⟨bytes, written⟩ := widthRequest.fits_encode (by decide) (by decide)
  have sent := send_exchange enters written w isOpen
  unfold askOnce
  generalize link.send T widthRequest w = result at sent ⊢
  obtain ⟨result, link₁, w₁⟩ := result
  obtain ⟨outcome, asked, rfl⟩ := sent
  cases outcome with
  | error e =>
    exact ⟨⟨_, []⟩, ⟨link₁, w₁, asked, .idle asked.staysOpen rfl⟩, written, rfl⟩
  | ok _ =>
    refine (awaitWidth_exchange enters fuel _ fuel w₁ asked.staysOpen).imp ?_ ?_
    · intro (result, link', w') ⟨found, heard, told⟩
      exact ⟨⟨_, found⟩, ⟨link₁, w₁, asked, heard⟩, written, told⟩
    · exact fun w' later => ⟨⟨bytes, _⟩, written, asked.used.trans (asked.same ▸ later)⟩

/-- **Attempts are made one after the other** until one hears a usable count. -/
theorem askAgain_rounds (enters : T.Enters journal number) (fuel : Nat) (fallback : UInt8)
    (remaining : Nat) {link : Link χ} (w : World σ) (isOpen : link.closed = false) :
    (link.askAgain T fuel fallback remaining w).Ends
      (fun (width, link', w') => ∃ rounds, Rounds journal number link w rounds link' w'
        ∧ Asked fallback remaining rounds width)
      (fun w' => ∃ sent, sent.length ≤ remaining
        ∧ (∀ attempt ∈ sent, attempt.AsksWidth)
        ∧ UsedFor (number link.channel) sent (journal w.plant.state)
            (journal w'.plant.state)) := by
  induction remaining generalizing link w with
  | zero => exact ⟨[], .done isOpen rfl, .silent⟩
  | succ remaining ih =>
    unfold askAgain
    dsimp only
    refine ((askOnce_round enters fuel w isOpen).imp (fun _ => id) ?_).bind ?_
    · intro w' ⟨attempt, requests, used⟩
      exact ⟨[attempt], Nat.succ_le_succ (Nat.zero_le _), by simpa using requests, used⟩
    intro (outcome, link₁, w₁) ⟨round, first, requests, told⟩
    have talk := first.exchange
    -- silence and a failed attempt are followed by the next one, if any remains
    have onward (w₂ : World σ) (same : journal w₂.plant.state = journal w₁.plant.state)
        (nothing : countIn round.found = none) :
        (link₁.askAgain T fuel fallback remaining w₂).Ends
          (fun (width, link', w') => ∃ rounds, Rounds journal number link w rounds link' w'
            ∧ Asked fallback (remaining + 1) rounds width)
          (fun w' => ∃ sent, sent.length ≤ remaining + 1
            ∧ (∀ attempt ∈ sent, attempt.AsksWidth)
            ∧ UsedFor (number link.channel) sent (journal w.plant.state)
                (journal w'.plant.state)) := by
      refine (ih w₂ talk.staysOpen).imp ?_ ?_
      · intro (width, link', w') ⟨rounds, later, asked⟩
        exact ⟨round :: rounds, .next first (later.afterIdle same), .again requests nothing asked⟩
      · intro w' ⟨sent, short, all, used⟩
        rw [same, talk.same] at used
        refine ⟨round.attempt :: sent, Nat.succ_le_succ short, ?_, talk.used.trans used⟩
        intro attempt among
        rcases List.mem_cons.mp among with rfl | later
        · exact requests
        · exact all attempt later
    match outcome with
    | .ok (some cells) =>
      obtain ⟨count, heard, rfl⟩ := Option.map_eq_some_iff.mp told.symm
      exact ⟨[round], .next first (.done talk.staysOpen rfl), .told requests heard⟩
    | .ok none => exact onward (w₁.log .debug _) rfl (Option.map_eq_none_iff.mp told.symm)
    | .error e => exact onward (w₁.log .warn _) rfl (Option.map_eq_none_iff.mp told.symm)

theorem askWidth_rounds (enters : T.Enters journal number) (fuel : Nat) (fallback : UInt8)
    {link : Link χ} (w : World σ) (isOpen : link.closed = false) :
    (link.askWidth T fuel fallback w).Ends
      (fun (width, link', w') => ∃ rounds, Rounds journal number link w rounds link' w'
        ∧ Asked fallback widthAttempts rounds width)
      (fun w' => ∃ sent, sent.length ≤ widthAttempts
        ∧ (∀ attempt ∈ sent, attempt.AsksWidth)
        ∧ UsedFor (number link.channel) sent (journal w.plant.state)
            (journal w'.plant.state)) :=
  askAgain_rounds enters fuel fallback widthAttempts w isOpen

end Link

end BrailleDisplay
