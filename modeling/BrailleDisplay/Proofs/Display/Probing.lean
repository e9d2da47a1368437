import BrailleDisplay.Display.Identification
import BrailleDisplay.Proofs.Frame.LinkExchange
import BrailleDisplay.Proofs.Profile.Accepted

/-!
# What probing says, and what it hears

Probing a device goes in rounds: a candidate is sent, and then its echo is awaited.

* `Probed` — how a list of candidates is gone through: each is probed in its turn and rejected, up
  to one that is confirmed, or a wildcard, or the end of the list;
* `Link.probe_rounds` — this is how `Link.probe` goes through it;
* `ProbesOf`, `Probed.probesOf` — what is sent, with nothing said about the answers.
-/

namespace BrailleDisplay

/-! ## Going through candidates -/

/-- The frame a device of this identity sends and repeats. -/
def Identity.signal (i : Identity) : ShortFrame :=
  ⟨i.id1, i.id2⟩

/-- The bytes of this frame. -/
def Identity.probeBytes (i : Identity) : List UInt8 :=
  [0x1C, i.id1, i.id2, 0x1F]

/-- The first short frame among frames. -/
def firstShort (found : List Frame) : Option ShortFrame :=
  found.findSome? fun
    | .short f => some f
    | .long _ => none

def Round.Probes (round : Round) (candidate : Identity) : Prop :=
  round.attempt.bytes = candidate.probeBytes

/-- In the round a device confirmed an identity: the first short frame repeats it. -/
def Round.Confirms (round : Round) (candidate : Identity) : Prop :=
  firstShort round.found = some candidate.signal

/-- How candidates are gone through, with the rounds this takes and the identity it comes to. -/
inductive Probed : List Identity → List Round → Option Identity → Prop
  | exhausted : Probed [] [] none
  | assumed {candidate : Identity} {rest : List Identity}
      (wildcard : candidate.IsZero) : Probed (candidate :: rest) [] (some candidate)
  | confirmed {candidate : Identity} {rest : List Identity} {round : Round}
      (concrete : ¬candidate.IsZero) (probes : round.Probes candidate)
      (confirms : round.Confirms candidate) : Probed (candidate :: rest) [round] (some candidate)
  | rejected {candidate : Identity} {rest : List Identity} {round : Round} {rounds : List Round}
      {identity : Option Identity} (concrete : ¬candidate.IsZero)
      (probes : round.Probes candidate) (rejects : ¬round.Confirms candidate)
      (later : Probed rest rounds identity) : Probed (candidate :: rest) (round :: rounds) identity

/-- The attempts are the probes of candidates from the start of the list, each once, and none of
them is a wildcard. -/
def ProbesOf (candidates : List Identity) (sent : List Attempt) : Prop :=
  ∃ tested, tested <+: candidates ∧ (∀ candidate ∈ tested, ¬candidate.IsZero)
    ∧ sent.map Attempt.bytes = tested.map Identity.probeBytes

theorem ProbesOf.nil (candidates : List Identity) : ProbesOf candidates [] :=
  ⟨[], List.nil_prefix, fun _ none => (nomatch none), rfl⟩

theorem ProbesOf.cons {candidate : Identity} {rest : List Identity} {attempt : Attempt}
    {sent : List Attempt} (concrete : ¬candidate.IsZero)
    (probes : attempt.bytes = candidate.probeBytes) (later : ProbesOf rest sent) :
    ProbesOf (candidate :: rest) (attempt :: sent) := by
  obtain ⟨tested, front, all, bytes⟩ := later
  refine ⟨candidate :: tested, List.cons_prefix_cons.mpr ⟨rfl, front⟩, ?_, ?_⟩
  · intro i among
    rcases List.mem_cons.mp among with rfl | later
    · exact concrete
    · exact all i later
  · rw [List.map_cons, List.map_cons, probes, bytes]

theorem Probed.probesOf {candidates : List Identity} {rounds : List Round}
    {identity : Option Identity} (probed : Probed candidates rounds identity) :
    ProbesOf candidates (rounds.map Round.attempt) := by
  induction probed with
  | exhausted => exact .nil _
  | assumed _ => exact .nil _
  | confirmed concrete probes _ => exact .cons concrete probes (.nil _)
  | rejected concrete probes _ _ ih => exact .cons concrete probes ih

/-! ## Probing -/

namespace Link

variable {χ σ : Type} {journal : σ → List Entry} {number : χ → Nat} {T : Transport χ σ}

/-- The first short frame that comes decides about a probe. -/
theorem awaitEcho_exchange (enters : T.Enters journal number) (fuel : Nat) (expected : ShortFrame)
    (more : Nat) {link : Link χ} (w : World σ) (isOpen : link.closed = false) :
    (link.awaitEcho T fuel expected more w).Ends
      (fun (result, link', w') => ∃ found, Exchange journal number link w found [] link' w'
        ∧ (result = .ok true ↔ firstShort found = some expected))
      (fun w' =>
        UsedFor (number link.channel) [] (journal w.plant.state) (journal w'.plant.state)) := by
  induction more generalizing link w with
  | zero => exact .refl _ _
  | succ more ih =>
    unfold awaitEcho
    refine (nextFrame_exchange enters fuel echoTimeout w isOpen).bind ?_
    intro (outcome, link₁, w₁) ⟨talk, _, _⟩
    match outcome with
    | .error e =>
      exact ⟨[], talk, iff_of_false (fun same => (nomatch same)) (fun same => (nomatch same))⟩
    | .ok none =>
      exact ⟨[], talk, iff_of_false (fun same => (nomatch same)) (fun same => (nomatch same))⟩
    | .ok (some (.short echo)) =>
      refine ⟨[.short echo], talk, ?_⟩
      simp [firstShort]
    | .ok (some (.long frame)) =>
      refine (ih (w₁.log .debug _) talk.staysOpen).imp ?_ fun _ later =>
        talk.used.trans (talk.same ▸ later)
      intro (result, link', w') ⟨found, later, decides⟩
      exact ⟨.long frame :: found, talk.trans (later.afterIdle rfl), decides⟩

/-- Probing one identity is a round, and it is confirmed when the device repeats it. -/
theorem confirms_round (enters : T.Enters journal number) (fuel : Nat) (candidate : Identity)
    {link : Link χ} (w : World σ) (isOpen : link.closed = false) :
    (link.confirms T fuel candidate w).Ends
      (fun (result, link', w') => ∃ round, InRound journal number link w round link' w'
        ∧ round.Probes candidate ∧ (result = .ok true ↔ round.Confirms candidate))
      (fun w' => ∃ attempt : Attempt, attempt.bytes = candidate.probeBytes
        ∧ UsedFor (number link.channel) [attempt] (journal w.plant.state)
            (journal w'.plant.state)) := by
  have asked := write_exchange enters (ShortFrame.bytes ⟨candidate.id1, candidate.id2⟩) w isOpen
  unfold confirms
  dsimp only
  generalize link.write T (ShortFrame.bytes ⟨candidate.id1, candidate.id2⟩) w = written at asked ⊢
  obtain ⟨outcome, link₁, w₁⟩ := written
  cases outcome with
  | error e =>
    refine ⟨⟨_, []⟩, ⟨link₁, w₁, asked, ?_⟩, rfl, ?_⟩
    · exact .idle asked.staysOpen rfl
    · exact iff_of_false (fun same => (nomatch same)) (fun same => (nomatch same))
  | ok _ =>
    refine (awaitEcho_exchange enters fuel _ fuel w₁ asked.staysOpen).imp ?_ ?_
    · intro (result, link', w') ⟨found, heard, decides⟩
      exact ⟨⟨_, found⟩, ⟨link₁, w₁, asked, heard⟩, rfl, decides⟩
    · exact fun w' later => ⟨_, rfl, asked.used.trans (asked.same ▸ later)⟩

/-- **Probing goes through the candidates in order**, one round for each, and ends with the first
that is confirmed or need not be. -/
theorem probe_rounds (enters : T.Enters journal number) (fuel : Nat) (candidates : List Identity)
    {link : Link χ} (w : World σ) (isOpen : link.closed = false) :
    (link.probe T fuel candidates w).Ends
      (fun (identity, link', w') => ∃ rounds, Rounds journal number link w rounds link' w'
        ∧ Probed candidates rounds identity)
      (fun w' => ∃ sent, ProbesOf candidates sent
        ∧ UsedFor (number link.channel) sent (journal w.plant.state) (journal w'.plant.state)) := by
  induction candidates generalizing link w with
  | nil => exact ⟨[], .done isOpen rfl, .exhausted⟩
  | cons candidate rest ih =>
    unfold probe
    dsimp only
    by_cases wildcard : candidate.isWildcard = true
    · rw [if_pos wildcard]
      exact ⟨[], .done isOpen rfl, .assumed (Identity.isWildcard_iff.mp wildcard)⟩
    · rw [if_neg wildcard]
      have concrete : ¬candidate.IsZero := mt Identity.isWildcard_iff.mpr wildcard
      refine ((confirms_round enters fuel candidate _ isOpen).imp (fun _ => id) ?_).bind ?_
      · intro w' ⟨attempt, probes, used⟩
        exact ⟨[attempt], .cons concrete probes (.nil rest), used⟩
      intro (outcome, link₁, w₁) ⟨round, first, probes, decides⟩
      -- the round starts behind the line that is logged for the candidate
      replace first : InRound journal number link w round link₁ w₁ := first.afterIdle rfl
      have talk := first.exchange
      -- a wrong echo, silence and a failed write all pass on to the next candidate
      have onward (w₂ : World σ) (same : journal w₂.plant.state = journal w₁.plant.state)
          (rejects : ¬round.Confirms candidate) :
          (link₁.probe T fuel rest w₂).Ends
            (fun (identity, link', w') => ∃ rounds, Rounds journal number link w rounds link' w'
              ∧ Probed (candidate :: rest) rounds identity)
            (fun w' => ∃ sent, ProbesOf (candidate :: rest) sent
              ∧ UsedFor (number link.channel) sent (journal w.plant.state)
                  (journal w'.plant.state)) := by
        refine (ih w₂ talk.staysOpen).imp ?_ ?_
        · intro (identity, link', w') ⟨rounds, later, probed⟩
          refine ⟨round :: rounds, .next first (later.afterIdle same), ?_⟩
          exact .rejected concrete probes rejects probed
        · intro w' ⟨sent, probesOf, used⟩
          rw [same, talk.same] at used
          exact ⟨round.attempt :: sent, .cons concrete probes probesOf, talk.used.trans used⟩
      match outcome with
      | .ok true =>
        have confirms : round.Confirms candidate := decides.mp rfl
        exact ⟨[round], .next first (.done talk.staysOpen rfl),
          .confirmed concrete probes confirms⟩
      | .ok false => exact onward w₁ rfl fun confirms => (nomatch decides.mpr confirms)
      | .error e => exact onward (w₁.log .warn _) rfl fun confirms => (nomatch decides.mpr confirms)

end Link

end BrailleDisplay
