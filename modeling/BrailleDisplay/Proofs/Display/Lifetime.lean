import BrailleDisplay.Proofs.Display.Operation
import BrailleDisplay.Proofs.Frame.LinkClosing

/-!
# The lifetime of a display

A display is brought up on a channel, used for a while, and then released or dropped; or it never
comes up.  Whichever it is, all it says is a few kinds of frames, the channel is closed once, and
nothing is done to it afterwards.

* `Profile.Utters` — what may be said to displays of a profile;
* `Display.operate_used` — bringing up a display and making calls on it;
* `Ending`, `Display.endWith`, `Display.live` — whole lifetimes;
* `Display.live_used` — what is said and done in a lifetime.
-/

namespace BrailleDisplay

/-! ## What is said -/

/-- An attempt to write what may be said to displays of a profile with so many cells: a probe of one
of the candidates, the request for the width, or the frame of as many cells. -/
def Profile.Utters (profile : Profile) (cells : Nat) (attempt : Attempt) : Prop :=
  (∃ candidate ∈ profile.identities.getD [], ¬candidate.IsZero
      ∧ attempt.bytes = candidate.probeBytes)
    ∨ attempt.AsksWidth
    ∨ ∃ data : List UInt8, data.length = cells
        ∧ attempt.Sends { command := 0xFC, mode := 1, data1 := data, data2 := [] }

section Utterances

variable {profile : Profile} {cells : Nat}

theorem ProbesOf.utters {sent : List Attempt}
    (probes : ProbesOf (profile.identities.getD []) sent) :
    ∀ attempt ∈ sent, profile.Utters cells attempt := by
  obtain ⟨tested, front, concrete, bytes⟩ := probes
  intro attempt among
  have probe : attempt.bytes ∈ tested.map Identity.probeBytes :=
    bytes ▸ List.mem_map_of_mem among
  obtain ⟨candidate, member, same⟩ := List.mem_map.mp probe
  exact .inl ⟨candidate, front.subset member, concrete candidate member, same.symm⟩

theorem Window.Fitting.utters {window : Window} {showings : List Showing}
    (fitting : window.Fitting showings) :
    ∀ attempt ∈ showings.map Showing.attempt, profile.Utters window.width attempt := by
  intro attempt among
  obtain ⟨showing, member, rfl⟩ := List.mem_map.mp among
  obtain ⟨fits, shows⟩ := fitting showing member
  exact .inr (.inr
    ⟨_, (DotWiring.length_driveAll _ _).trans fits, Window.attempt_shows_iff.mp shows⟩)

theorem BringUp.Follows.utters {course : BringUp} (follows : course.Follows profile) :
    ∀ attempt ∈ course.sent, profile.Utters course.width.cells.toNat attempt := by
  intro attempt among
  rcases List.mem_append.mp among with early | last
  · rcases List.mem_append.mp early with probe | request
    · exact follows.probed.probesOf.utters attempt probe
    · obtain ⟨round, member, rfl⟩ := List.mem_map.mp request
      exact .inr (.inl (follows.asked.requests round member))
  · rw [List.mem_singleton.mp last]
    exact .inr (.inr ⟨_, List.length_replicate, follows.blanks⟩)

theorem BringUp.OnTheWay.utters {sent : List Attempt} (onTheWay : OnTheWay profile sent) :
    ∀ attempt ∈ sent, profile.Utters cells attempt := by
  rcases onTheWay with probes | ⟨probes, identity, requests, probed, -, sends, rfl⟩
  · exact probes.utters
  · intro attempt among
    rcases List.mem_append.mp among with probe | request
    · exact probed.probesOf.utters attempt probe
    · exact .inr (.inl (sends attempt request))

end Utterances

variable {χ σ : Type} {journal : σ → List Entry} {number : χ → Nat} {T : Transport χ σ}

namespace Display

/-! ## Bringing up and using -/

/-- The cells of displays that come up with a set of profiles. -/
def InRange (profiles : ProfileSet) (cells : UInt8) : Prop :=
  profiles.Accepted → 1 ≤ cells ∧ cells ≤ 40

theorem inRange_usual (profiles : ProfileSet) (info : DeviceInfo) :
    InRange profiles (profiles.profileFor info).usualCells := fun accepted =>
  (Profile.fault?_eq_none_iff.mp (accepted.faultless _ (profiles.profileFor_mem info))).2.1

variable (journal number) in
/-- What bringing up a display and making calls on it has said and done.  A display has the cells
that its frames tell of, and its channel is still open; without one the channel has been closed. -/
def UsedTo (channel : χ) (cells : UInt8) (sent : List Attempt) (before : List Entry)
    (result : Except DisplayFault (List DisplayAnswer × Display χ)) (after : List Entry) : Prop :=
  match result with
  | .error _ => ∃ outcome, UsedThenClosed (number channel) sent outcome before after
  | .ok (_, display) => display.columns = cells.toNat ∧ display.link.closed = false
      ∧ number display.link.channel = number channel
      ∧ UsedFor (number channel) sent before after

/-- **Bringing up a display and using it says nothing but what may be said**, and closes the channel
only if no display came up. -/
theorem operate_used (enters : T.Enters journal number) (fuel : Nat) (profiles : ProfileSet)
    (channel : χ) (calls : List DisplayCall) (w : World σ) :
    let profile := profiles.profileFor (T.info channel)
    (operate T fuel profiles channel calls w).Ends
      (fun (result, w') => ∃ cells sent, InRange profiles cells
        ∧ (∀ attempt ∈ sent, profile.Utters cells.toNat attempt)
        ∧ UsedTo number channel cells sent (journal w.plant.state) result
            (journal w'.plant.state))
      (fun w' => ∃ cells sent, InRange profiles cells
        ∧ (∀ attempt ∈ sent, profile.Utters cells.toNat attempt)
        ∧ UsedFor (number channel) sent (journal w.plant.state) (journal w'.plant.state)) := by
  intro profile
  refine ((bringUp_course enters fuel profiles channel w).imp (fun _ => id) ?_).bind ?_
  · intro w' ⟨sent, onTheWay, used⟩
    exact ⟨_, sent, inRange_usual profiles (T.info channel), onTheWay.utters, used⟩
  intro (result, w₁) ⟨course, link₃, w₃, follows, talk, answer⟩
  obtain ⟨found, exchange⟩ := talk.exchange
  have inRange : InRange profiles course.width.cells := fun accepted =>
    follows.cells_bounds accepted
  cases acknowledged : course.last.result with
  | error fault =>
    rw [acknowledged] at answer
    obtain ⟨rfl, outcome, entered⟩ := answer
    exact ⟨_, course.sent, inRange, follows.utters, outcome, _, exchange.used, entered⟩
  | ok _ =>
    rw [acknowledged] at answer
    obtain ⟨display, rfl, yields, blank, rfl, same⟩ := answer
    have narrow : display.window.width < 65536 := blank ▸ Window.width_blank_lt _ _
    have wide : display.window.width = course.width.cells.toNat :=
      (congrArg Window.width blank).trans (Window.width_blank _ _)
    have used := exchange.used
    rw [← same] at used
    -- the calls go on where bringing the display up has left the journal
    have onward {showings : List Showing} {after : List Entry}
        (fitting : display.window.Fitting showings)
        (later : UsedFor (number display.link.channel) (showings.map Showing.attempt)
          (journal w₁.plant.state) after) :
        (∀ attempt ∈ course.sent ++ showings.map Showing.attempt,
          profile.Utters course.width.cells.toNat attempt)
        ∧ UsedFor (number channel) (course.sent ++ showings.map Showing.attempt)
            (journal w.plant.state) after := by
      refine ⟨fun attempt among => ?_, used.trans (exchange.same ▸ later)⟩
      rcases List.mem_append.mp among with early | late
      · exact follows.utters attempt early
      · exact wide ▸ fitting.utters attempt late
    refine ((carryOut_operated enters fuel calls narrow w₁ exchange.staysOpen).imp (fun _ => id)
      ?_).bind ?_
    · intro w' ⟨_, showings, fitting, later⟩
      obtain ⟨said, whole⟩ := onward fitting later
      exact ⟨_, _, inRange, said, whole⟩
    intro (answers, display', w') ⟨showings, operated⟩
    obtain ⟨_, talk'⟩ := operated.talk
    obtain ⟨said, whole⟩ := onward operated.fitting talk'.used
    exact ⟨_, _, inRange, said, operated.width.trans wide, operated.isOpen,
      talk'.same.trans exchange.same, whole⟩

end Display

/-! ## Lifetimes -/

/-- How the use of a display ends. -/
inductive Ending where
  /-- It is released, and what closing the channel did is answered. -/
  | release
  /-- It is let go of. -/
  | drop
  deriving DecidableEq, Repr

/-- What an ending answers, by what closing the channel did. -/
def Ending.answer (ending : Ending) (outcome : Except ChannelFault Unit) :
    Option (Except ChannelFault Unit) :=
  match ending with
  | release => some outcome
  | drop => none

/-- What a display leaves behind: its answers, itself as it was last, and what its ending
answered. -/
structure Legacy (χ : Type) where
  answers : List DisplayAnswer
  display : Display χ
  closing : Option (Except ChannelFault Unit)

namespace Display

def endWith (T : Transport χ σ) (ending : Ending) (display : Display χ) (w : World σ) :
    Option (Except ChannelFault Unit) × World σ :=
  match ending with
  | .release =>
    let (outcome, w) := display.release T w
    (some outcome, w)
  | .drop => (none, display.drop T w)

/-- Bring up a display, make calls on it, and be done with it. -/
def live (T : Transport χ σ) (fuel : Nat) (profiles : ProfileSet) (channel : χ)
    (calls : List DisplayCall) (ending : Ending) (w : World σ) :
    Bounded σ (Except DisplayFault (Legacy χ) × World σ) := do
  let (result, w) ← operate T fuel profiles channel calls w
  match result with
  | .error e => .ended (.error e, w)
  | .ok (answers, display) =>
    let (closing, w) := display.endWith T ending w
    .ended (.ok ⟨answers, display, closing⟩, w)

/-- Either ending closes the channel, and the answer is what that did. -/
theorem endWith_entered (enters : T.Enters journal number) (ending : Ending) {display : Display χ}
    {w : World σ} (isOpen : display.link.closed = false) :
    let (closing, w') := display.endWith T ending w
    ∃ outcome, closing = ending.answer outcome
      ∧ journal w'.plant.state
        = journal w.plant.state ++ [.closed (number display.link.channel) outcome] := by
  cases ending with
  | release =>
    have closing := Link.close_entered enters (w := w) isOpen
    unfold endWith release
    dsimp only
    generalize display.link.close T w = result at closing ⊢
    obtain ⟨outcome, link', w'⟩ := result
    obtain ⟨closed, entered⟩ := closing
    dsimp only
    rw [Link.drop_closed closed]
    exact ⟨outcome, rfl, entered⟩
  | drop =>
    obtain ⟨outcome, entered⟩ := Link.drop_entered enters (w := w) isOpen
    exact ⟨outcome, rfl, entered⟩

/-- What a lifetime with a certain ending has come to: a display has the cells that its frames tell
of, and its ending has answered what closing the channel did. -/
def Leaves (ending : Ending) (cells : UInt8) (outcome : Except ChannelFault Unit)
    (result : Except DisplayFault (Legacy χ)) : Prop :=
  ∀ legacy, result = .ok legacy →
    legacy.display.columns = cells.toNat ∧ legacy.closing = ending.answer outcome

/-- **A lifetime says what may be said and then closes its channel**; until then it only uses it. -/
theorem live_used (enters : T.Enters journal number) (fuel : Nat) (profiles : ProfileSet)
    (channel : χ) (calls : List DisplayCall) (ending : Ending) (w : World σ) :
    let profile := profiles.profileFor (T.info channel)
    (live T fuel profiles channel calls ending w).Ends
      (fun (result, w') => ∃ cells sent outcome, InRange profiles cells
        ∧ (∀ attempt ∈ sent, profile.Utters cells.toNat attempt)
        ∧ UsedThenClosed (number channel) sent outcome (journal w.plant.state)
            (journal w'.plant.state)
        ∧ Leaves ending cells outcome result)
      (fun w' => ∃ cells sent, InRange profiles cells
        ∧ (∀ attempt ∈ sent, profile.Utters cells.toNat attempt)
        ∧ UsedFor (number channel) sent (journal w.plant.state) (journal w'.plant.state)) := by
  intro profile
  refine (operate_used enters fuel profiles channel calls w).bind ?_
  intro (result, w₁) ⟨cells, sent, inRange, said, used⟩
  cases result with
  | error e =>
    obtain ⟨outcome, disposed⟩ := used
    exact ⟨cells, sent, outcome, inRange, said, disposed, fun _ none => (nomatch none)⟩
  | ok operated =>
    obtain ⟨answers, display⟩ := operated
    obtain ⟨wide, isOpen, same, used⟩ := used
    have ended := endWith_entered enters ending (w := w₁) isOpen
    dsimp only
    generalize display.endWith T ending w₁ = last at ended ⊢
    obtain ⟨closing, w'⟩ := last
    obtain ⟨outcome, answered, entered⟩ := ended
    rw [same] at entered
    refine ⟨cells, sent, outcome, inRange, said, ⟨_, used, entered⟩, fun legacy left => ?_⟩
    cases left
    exact ⟨wide, answered⟩

end Display

end BrailleDisplay
