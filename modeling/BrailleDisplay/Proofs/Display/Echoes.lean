import BrailleDisplay.Proofs.Display.Patience
import BrailleDisplay.Proofs.Display.Probing

/-!
# Which echo decides

Probing is told here read by read, on a link in any state: the trial of a candidate is one write and,
if that was acknowledged, reads until one brings anything but a long frame.

* `Trial`, `firstEcho`, `Trial.Accepts` — what is seen of a trial, and when it accepts its candidate;
* `Decided` — what trials of candidates in their order come to: the first that is a wildcard or
  accepted;
* `Link.Listened`, `Link.Tested`, `Link.Trials` — reads, trials and their sequence on a link, where
  nothing else is done to it;
* `Link.probe_trials` — probing is such a sequence with its verdict;
* `Link.probe_decides` — what it says of the answer, of what is sent, and of stray echoes.
-/

namespace BrailleDisplay

/-! ## Trials -/

/-- What a read comes to: a frame, none in time, or a failure of the channel. -/
abbrev Hearing := Except ChannelFault (Option Frame)

/-- The first short frame, if it comes before a read that brings nothing or fails. -/
def firstEcho : List Hearing → Option ShortFrame
  | .ok (some (.long _)) :: later => firstEcho later
  | .ok (some (.short echo)) :: _ => some echo
  | _ => none

/-- What is seen of the trial of a candidate. -/
structure Trial where
  candidate : Identity
  /-- What came of sending the probe. -/
  written : Except ChannelFault Unit
  /-- What the reads after it came to, in their order. -/
  heard : List Hearing

namespace Trial

/-- The probe was sent, and the first short frame repeats it. -/
def Accepts (trial : Trial) : Prop :=
  trial.written = .ok () ∧ firstEcho trial.heard = some trial.candidate.signal

/-- A trial after which the next candidate has its turn. -/
structure Rejects (candidate : Identity) (trial : Trial) : Prop where
  same : trial.candidate = candidate
  concrete : ¬candidate.IsZero
  fails : ¬trial.Accepts

/-- The attempt to send the probe. -/
def attempt (trial : Trial) : Attempt :=
  ⟨trial.candidate.probeBytes, trial.written⟩

/-- The frames that were read. -/
def found (trial : Trial) : List Frame :=
  trial.heard.flatMap Link.brought

end Trial

/-- What trials come to: the first candidate that is a wildcard or accepted by its trial.  The
candidates before it were rejected by one trial each, in their order; a wildcard has no trial, and
nothing after the answer has one. -/
def Decided (candidates : List Identity) (trials : List Trial) : Option Identity → Prop
  | none => List.Forall₂ Trial.Rejects candidates trials
  | some identity => ∃ earlier rest rejected, candidates = earlier ++ identity :: rest
      ∧ List.Forall₂ Trial.Rejects earlier rejected
      ∧ (identity.IsZero ∧ trials = rejected
        ∨ ¬identity.IsZero ∧ ∃ last, trials = rejected ++ [last]
            ∧ last.candidate = identity ∧ last.Accepts)

/-- A candidate that was rejected changes nothing about the verdict on the others. -/
theorem Decided.cons {candidate : Identity} {rest : List Identity} {trial : Trial}
    {trials : List Trial} {identity : Option Identity} (rejects : trial.Rejects candidate)
    (later : Decided rest trials identity) :
    Decided (candidate :: rest) (trial :: trials) identity := by
  cases identity with
  | none => exact List.Forall₂.cons rejects later
  | some identity =>
    obtain ⟨earlier, behind, rejected, split, all, decides⟩ := later
    refine ⟨candidate :: earlier, behind, trial :: rejected, congrArg _ split,
      List.Forall₂.cons rejects all, ?_⟩
    rcases decides with ⟨wildcard, same⟩ | ⟨concrete, last, same, accepted⟩
    · exact .inl ⟨wildcard, congrArg _ same⟩
    · exact .inr ⟨concrete, last, congrArg _ same, accepted⟩

/-- An answer that is no wildcard was accepted by one of the trials. -/
theorem Decided.accepted {candidates : List Identity} {trials : List Trial} {identity : Identity}
    (decided : Decided candidates trials (some identity))
    (concrete : ¬identity.IsZero) :
    ∃ trial ∈ trials, trial.candidate = identity ∧ trial.Accepts := by
  obtain ⟨_, _, rejected, -, -, ⟨wildcard, -⟩ | ⟨-, last, rfl, accepted⟩⟩ := decided
  · exact absurd wildcard concrete
  · exact ⟨last, List.mem_append_right _ List.mem_cons_self, accepted⟩

/-- The first echo is one of the frames that were read. -/
theorem firstEcho_mem {heard : List Hearing} {echo : ShortFrame}
    (first : firstEcho heard = some echo) : Frame.short echo ∈ heard.flatMap Link.brought := by
  fun_induction firstEcho heard with
  | case1 frame later ih => exact List.mem_append_right _ (ih first)
  | case2 echo' later =>
    obtain rfl := Option.some.inj first
    exact List.mem_append_left _ List.mem_cons_self
  | case3 => cases first

/-! ## Trials on a link -/

namespace Link

variable {χ σ : Type} {T : Transport χ σ} {fuel : Nat}

variable (T fuel) in
/-- Reads that wait for an echo, each for `echoTimeout` at most.  One that brings a long frame is
followed by another; anything else it comes to ends them. -/
inductive Listened : Link χ → World σ → List Hearing → Link χ → World σ → Prop
  | settled {link link' : Link χ} {w w' : World σ} {hearing : Hearing}
      (read : link.nextFrame T fuel echoTimeout w = .ended (hearing, link', w'))
      (settles : ∀ frame, hearing ≠ .ok (some (.long frame))) :
      Listened link w [hearing] link' w'
  | ignored {link link₁ link' : Link χ} {w w₁ w₂ w' : World σ} {frame : LongFrame}
      {heard : List Hearing}
      (read : link.nextFrame T fuel echoTimeout w = .ended (.ok (some (.long frame)), link₁, w₁))
      (same : w₂.plant = w₁.plant) (later : Listened link₁ w₂ heard link' w') :
      Listened link w (.ok (some (.long frame)) :: heard) link' w'

variable (T fuel) in
/-- A trial on a link: its probe is sent once, and only if that succeeds an echo is waited for. -/
inductive Tested : Link χ → World σ → Trial → Link χ → World σ → Prop
  | unsent {link link' : Link χ} {w w₀ w' : World σ} {candidate : Identity} {fault : ChannelFault}
      (same : w₀.plant = w.plant)
      (write : link.write T candidate.probeBytes w₀ = (.error fault, link', w')) :
      Tested link w ⟨candidate, .error fault, []⟩ link' w'
  | sent {link link₁ link' : Link χ} {w w₀ w₁ w' : World σ} {candidate : Identity}
      {heard : List Hearing} (same : w₀.plant = w.plant)
      (write : link.write T candidate.probeBytes w₀ = (.ok (), link₁, w₁))
      (listened : Listened T fuel link₁ w₁ heard link' w') :
      Tested link w ⟨candidate, .ok (), heard⟩ link' w'

variable (T fuel) in
/-- Trials on a link, one after the other, and nothing besides. -/
inductive Trials : Link χ → World σ → List Trial → Link χ → World σ → Prop
  | done {link : Link χ} {w w' : World σ} (same : w'.plant = w.plant) : Trials link w [] link w'
  | next {link link₁ link' : Link χ} {w w₁ w' : World σ} {trial : Trial} {trials : List Trial}
      (first : Tested T fuel link w trial link₁ w₁)
      (later : Trials link₁ w₁ trials link' w') : Trials link w (trial :: trials) link' w'

variable (T fuel) in
/-- Waiting for an echo is a sequence of reads, and the first short frame among them decides. -/
theorem awaitEcho_listens (expected : ShortFrame) (more : Nat) (link : Link χ) (w : World σ) :
    (link.awaitEcho T fuel expected more w).Ends
      (fun (result, link', w') => ∃ heard, Listened T fuel link w heard link' w'
        ∧ (result = .ok true ↔ firstEcho heard = some expected))
      (fun _ => True) := by
  induction more generalizing link w with
  | zero => trivial
  | succ more ih =>
    unfold awaitEcho
    refine (Bounded.ends_ended _).bind ?_
    rintro ⟨hearing, link₁, w₁⟩ read
    cases hearing with
    | error fault =>
      exact ⟨[.error fault], .settled read (by simp), by simp [firstEcho]⟩
    | ok brings =>
      rcases brings with _ | echo | frame
      · exact ⟨[.ok none], .settled read (by simp), by simp [firstEcho]⟩
      · exact ⟨[.ok (some (.short echo))], .settled read (by simp), by simp [firstEcho]⟩
      · refine (ih link₁ (w₁.log .debug _)).imp ?_ fun _ => id
        rintro ⟨result, link', w'⟩ ⟨heard, listened, decides⟩
        exact ⟨.ok (some (.long frame)) :: heard, .ignored read (by rfl) listened, decides⟩

variable (T fuel) in
/-- Probing one identity is a trial, and says whether it accepts. -/
theorem confirms_tests (candidate : Identity) (link : Link χ) {w : World σ} (w₀ : World σ)
    (same : w₀.plant = w.plant) :
    (link.confirms T fuel candidate w₀).Ends
      (fun (result, link', w') => ∃ trial, trial.candidate = candidate
        ∧ Tested T fuel link w trial link' w' ∧ (result = .ok true ↔ trial.Accepts))
      (fun _ => True) := by
  unfold confirms
  dsimp only
  rcases write : link.write T (ShortFrame.bytes ⟨candidate.id1, candidate.id2⟩) w₀
    with ⟨outcome, link₁, w₁⟩
  cases outcome with
  | error fault =>
    exact ⟨⟨candidate, .error fault, []⟩, rfl, .unsent same write, by simp [Trial.Accepts]⟩
  | ok _ =>
    refine (awaitEcho_listens T fuel ⟨candidate.id1, candidate.id2⟩ fuel link₁ w₁).imp ?_
      fun _ => id
    intro (result, link', w') ⟨heard, listened, decides⟩
    refine ⟨⟨candidate, .ok (), heard⟩, rfl, .sent same write listened, ?_⟩
    rw [decides, Trial.Accepts, Identity.signal, and_iff_right rfl]

variable (T fuel) in
/-- **Probing is a sequence of trials**, and its answer is what they come to. -/
theorem probe_trials (candidates : List Identity) (link : Link χ) {w : World σ} (w₀ : World σ)
    (same : w₀.plant = w.plant) :
    (link.probe T fuel candidates w₀).Ends
      (fun (identity, link', w') => ∃ trials, Trials T fuel link w trials link' w'
        ∧ Decided candidates trials identity)
      (fun _ => True) := by
  induction candidates generalizing link w w₀ with
  | nil => exact ⟨[], .done same, .nil⟩
  | cons candidate rest ih =>
    unfold probe
    dsimp only
    by_cases wildcard : candidate.isWildcard = true
    · rw [if_pos wildcard]
      exact ⟨[], .done same, [], rest, [], rfl, .nil,
        .inl ⟨Identity.isWildcard_iff.mp wildcard, rfl⟩⟩
    · rw [if_neg wildcard]
      have concrete : ¬candidate.IsZero := mt Identity.isWildcard_iff.mpr wildcard
      refine (confirms_tests T fuel candidate link (w₀.log .debug _) same).bind ?_
      rintro ⟨outcome, link₁, w₁⟩ ⟨trial, of_candidate, tested, accepts⟩
      -- a wrong echo, silence and a failure all pass on to the next candidate
      have onward (w₂ : World σ) (same₂ : w₂.plant = w₁.plant) (fails : ¬trial.Accepts) :
          (link₁.probe T fuel rest w₂).Ends
            (fun (identity, link', w') => ∃ trials, Trials T fuel link w trials link' w'
              ∧ Decided (candidate :: rest) trials identity)
            (fun _ => True) := by
        refine (ih link₁ w₂ same₂).imp ?_ fun _ => id
        rintro ⟨identity, link', w'⟩ ⟨trials, later, decided⟩
        exact ⟨trial :: trials, .next tested later, decided.cons ⟨of_candidate, concrete, fails⟩⟩
      cases outcome with
      | error e => exact onward _ rfl fun accepted => by cases accepts.mpr accepted
      | ok confirmed =>
        cases confirmed with
        | false => exact onward w₁ rfl fun accepted => by cases accepts.mpr accepted
        | true =>
          have accepted : trial.Accepts := accepts.mp rfl
          refine ⟨[trial], .next tested (.done rfl), [], rest, [], rfl, .nil, .inr ?_⟩
          exact ⟨concrete, trial, rfl, of_candidate, accepted⟩

/-! ## What is read and sent -/

variable {journal : σ → List Entry} {number : χ → Nat}

/-- Waiting for an echo attempts to write nothing, and recognises what its reads bring. -/
theorem Listened.exchange (enters : T.Enters journal number) {link link' : Link χ}
    {w w' : World σ} {heard : List Hearing} (listened : Listened T fuel link w heard link' w')
    (isOpen : link.closed = false) :
    Exchange journal number link w (heard.flatMap brought) [] link' w' := by
  induction listened with
  | settled read _ =>
    rw [List.flatMap_singleton]
    exact .ofRead enters isOpen read
  | ignored read same _ ih =>
    have talk := Exchange.ofRead enters isOpen read
    exact talk.trans ((ih talk.staysOpen).afterIdle (by rw [same]))

/-- A trial on an open link is one attempt to write, that of its probe. -/
theorem Tested.exchange (enters : T.Enters journal number) {link link' : Link χ}
    {w w' : World σ} {trial : Trial} (tested : Tested T fuel link w trial link' w')
    (isOpen : link.closed = false) :
    Exchange journal number link w trial.found [trial.attempt] link' w' := by
  cases tested with
  | unsent same write =>
    exact (Exchange.ofWrite enters isOpen write).afterIdle (by rw [same])
  | sent same write listened =>
    have asked := Exchange.ofWrite enters isOpen write
    exact (asked.trans (listened.exchange enters asked.staysOpen)).afterIdle (by rw [same])

/-- Trials on an open link attempt to write each probe once, in their order, and nothing else. -/
theorem Trials.exchange (enters : T.Enters journal number) {link link' : Link χ}
    {w w' : World σ} {trials : List Trial} (run : Trials T fuel link w trials link' w')
    (isOpen : link.closed = false) :
    Exchange journal number link w (trials.flatMap Trial.found) (trials.map Trial.attempt)
      link' w' := by
  induction run with
  | done same => exact .idle isOpen (by rw [same])
  | next first _ ih =>
    have talk := first.exchange enters isOpen
    exact talk.trans (ih talk.staysOpen)

/-- A closed link sends no probe and touches no channel. -/
theorem Tested.of_closed {link link' : Link χ} {w w' : World σ} {trial : Trial}
    (tested : Tested T fuel link w trial link' w') (closed : link.closed = true) :
    trial.written = .error .closed ∧ link' = link ∧ w'.plant = w.plant := by
  cases tested with
  | unsent same write =>
    rw [write_closed closed] at write
    cases write
    exact ⟨rfl, rfl, same⟩
  | sent same write _ =>
    rw [write_closed closed] at write
    cases write

theorem Trials.of_closed {link link' : Link χ} {w w' : World σ} {trials : List Trial}
    (run : Trials T fuel link w trials link' w') (closed : link.closed = true) :
    (∀ trial ∈ trials, trial.written = .error .closed) ∧ link' = link ∧ w'.plant = w.plant := by
  induction run with
  | done same => exact ⟨fun _ none => (nomatch none), rfl, same⟩
  | next first _ ih =>
    obtain ⟨refused, rfl, idle⟩ := first.of_closed closed
    obtain ⟨all, rfl, later⟩ := ih closed
    refine ⟨?_, rfl, later.trans idle⟩
    intro trial among
    rcases List.mem_cons.mp among with rfl | among
    · exact refused
    · exact all trial among

/-- A trial that accepts does so by a short frame among those there are to recognise. -/
theorem Trials.accepts_among (enters : T.Enters journal number) {link link' : Link χ}
    {w w' : World σ} {trials : List Trial} (run : Trials T fuel link w trials link' w') :
    ∃ more, link'.arrived journal number w' = link.arrived journal number w ++ more
      ∧ ∀ trial ∈ trials, trial.Accepts →
          .short trial.candidate.signal ∈ link.decoder.frames (link.pending ++ more) := by
  cases closed : link.closed with
  | true =>
    obtain ⟨refused, rfl, idle⟩ := run.of_closed closed
    refine ⟨[], by simp [arrived, idle], ?_⟩
    intro trial among accepted
    obtain ⟨sent, -⟩ := accepted
    rw [refused trial among] at sent
    cases sent
  | false =>
    have advance := (run.exchange enters closed).toAdvance
    obtain ⟨more, came, -⟩ := advance.fed
    refine ⟨more, came, fun trial among accepted => advance.mem_frames came ?_⟩
    exact List.mem_flatMap.mpr ⟨trial, among, firstEcho_mem accepted.2⟩

/-- **The first candidate that is a wildcard or repeated by the device** is the answer of probing,
whatever comes in and whenever, and whatever fails.

The trials tell all that is done to the link.  On an open link they are one attempt for each probe;
on a closed one, no attempt reaches the channel.  An echo of another probe confirms nothing: if all
short frames among the bytes that come are alike, only they are ever confirmed.  Probing is cut short
only when at least as many bytes have come or were pending as a trial may go round. -/
theorem probe_decides (T : Transport χ σ) (fuel : Nat) (candidates : List Identity)
    (link : Link (Numbered χ)) (w : World (Journaled σ)) :
    (link.probe T.journaled fuel candidates w).Ends
      (fun (identity, link', w') => ∃ trials,
        Trials T.journaled fuel link w trials link' w' ∧ Decided candidates trials identity
        ∧ (link.closed = false →
            UsedFor link.channel.number (trials.map Trial.attempt) w.plant.state.journal
              w'.plant.state.journal)
        ∧ (link.closed = true →
            (∀ trial ∈ trials, trial.written = .error .closed) ∧ link' = link
              ∧ w'.plant = w.plant)
        ∧ ∃ more, link'.bytesRead w' = link.bytesRead w ++ more
          ∧ ∀ signal, (∀ echo, .short echo ∈ link.decoder.frames (link.pending ++ more) →
                echo = signal) →
              ∀ candidate, identity = some candidate →
                candidate.IsZero ∨ candidate.signal = signal)
      (fun w' => Outlasted Journaled.journal Numbered.number fuel link w w') := by
  have enters := T.enters_journaled
  refine ((probe_trials T.journaled fuel candidates link w rfl).and
    (probe_lasts enters fuel candidates link w)).imp ?_ fun _ => And.right
  intro (identity, link', w') ⟨⟨trials, run, decided⟩, _⟩
  obtain ⟨more, came, echoed⟩ := run.accepts_among enters
  refine ⟨trials, run, decided, fun isOpen => (run.exchange enters isOpen).used, run.of_closed,
    more, came, ?_⟩
  intro signal alike candidate answer
  rw [answer] at decided
  refine or_iff_not_imp_left.mpr fun wildcard => ?_
  obtain ⟨trial, among, rfl, accepted⟩ := decided.accepted wildcard
  exact alike _ (echoed trial among accepted)

end Link

end BrailleDisplay
