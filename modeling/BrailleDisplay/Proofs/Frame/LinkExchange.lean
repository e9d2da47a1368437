import BrailleDisplay.Display.Width
import BrailleDisplay.Proofs.Channel.Attempts
import BrailleDisplay.Proofs.Frame.HostCodec
import BrailleDisplay.Proofs.Frame.LinkStream

/-!
# Exchanges over a link

An exchange is a stretch of calls on an open link seen from both sides: the frames that were
recognised, and the attempts to write that were made.  It can be put together from parts, so what a
longer conversation says follows from what each call says.

* `Link.Exchange` — the stretch, with its frames and attempts; `Exchange.trans`;
* `Link.write_exchange` — sending bytes is one attempt;
* `Link.nextFrame_exchange` — asking for a frame brings it, or leaves nothing pending, and it fails
  only because the channel failed to be read;
* `HostFrame.fits_encode`, `Link.send_exchange` — sending a frame whose sections can be counted;
* `Round`, `Link.InRound`, `Link.Rounds` — an attempt with the frames that came after it, on a link,
  and several such after each other.
-/

namespace BrailleDisplay

namespace Link

variable {χ σ : Type} {journal : σ → List Entry} {number : χ → Nat}

variable (journal number) in
/-- From one moment of an open link to a later one: the frames that were recognised, and the
attempts to write that were made. -/
structure Exchange (link : Link χ) (w : World σ) (found : List Frame) (sent : List Attempt)
    (link' : Link χ) (w' : World σ) : Prop
    extends Advance journal number link w found link' w' where
  isOpen : link.closed = false
  used : UsedFor (number link.channel) sent (journal w.plant.state) (journal w'.plant.state)

namespace Exchange

variable {link link' link'' : Link χ} {w w' w'' : World σ} {found found' : List Frame}
  {sent sent' : List Attempt}

/-- Nothing happens to a link while nothing is done to any channel. -/
theorem idle (isOpen : link.closed = false)
    (same : journal w'.plant.state = journal w.plant.state) :
    Exchange journal number link w [] [] link w' where
  toAdvance := .idle rfl rfl rfl rfl (congrArg (received _) same)
  isOpen := isOpen
  used := same ▸ .refl _ _

/-- The link is still open. -/
theorem staysOpen (talk : Exchange journal number link w found sent link' w') :
    link'.closed = false :=
  talk.closed.trans talk.isOpen

theorem trans (first : Exchange journal number link w found sent link' w')
    (second : Exchange journal number link' w' found' sent' link'' w'') :
    Exchange journal number link w (found ++ found') (sent ++ sent') link'' w'' where
  toAdvance := first.toAdvance.trans second.toAdvance
  isOpen := first.isOpen
  used := first.used.trans (first.same ▸ second.used)

/-- What is done to no channel may come before an exchange. -/
theorem afterIdle {w₀ : World σ} (talk : Exchange journal number link w found sent link' w')
    (same : journal w.plant.state = journal w₀.plant.state) :
    Exchange journal number link w₀ found sent link' w' :=
  (idle talk.isOpen same).trans talk

/-- What is done to no channel may come after an exchange. -/
theorem thenIdle (talk : Exchange journal number link w found sent link' w')
    (same : journal w''.plant.state = journal w'.plant.state) :
    Exchange journal number link w found sent link' w'' := by
  have talk := talk.trans (idle talk.staysOpen same)
  rwa [List.append_nil, List.append_nil] at talk

end Exchange

variable {T : Transport χ σ}

/-! ## Sending -/

/-- Sending bytes over an open link is one attempt to write them. -/
theorem write_exchange (enters : T.Enters journal number) (bytes : List UInt8) {link : Link χ}
    (w : World σ) (isOpen : link.closed = false) :
    let (result, link', w') := link.write T bytes w
    Exchange journal number link w [] [⟨bytes, result⟩] link' w' := by
  have advance := write_advance enters bytes link w
  unfold write at advance ⊢
  rw [if_neg (by rw [isOpen]; exact Bool.false_ne_true)] at advance ⊢
  exact ⟨advance.1, isOpen, enters.usedFor_write bytes link.channel w.plant⟩

theorem Exchange.ofWrite (enters : T.Enters journal number) {bytes : List UInt8}
    {link link' : Link χ} {w w' : World σ} {result : Except ChannelFault Unit}
    (isOpen : link.closed = false) (write : link.write T bytes w = (result, link', w')) :
    Exchange journal number link w [] [⟨bytes, result⟩] link' w' := by
  have talk := write_exchange enters bytes w isOpen
  rwa [write] at talk

/-! ## Receiving -/

/-- The last thing that was done is a read of this channel that failed. -/
def FailedRead (number : Nat) (fault : ChannelFault) (journal : List Entry) : Prop :=
  ∃ before, journal = before ++ [.used number (.read (.error fault))]

/-- Draining and a read after that enter the read, and leave the channel its number. -/
theorem read_entered (enters : T.Enters journal number) {link : Link χ} {w w₁ w₂ : World σ}
    {found : Option Frame} {decoder : Decoder} {pending : List UInt8} {limit timeout : Nat}
    {channel : χ} {result : Except ChannelFault (List UInt8)}
    (drained : drain link.decoder w link.pending = (found, decoder, pending, w₁))
    (read : w₁.perform (T.read limit timeout link.channel) = ((result, channel), w₂)) :
    number channel = number link.channel
      ∧ journal w₂.plant.state
        = journal w.plant.state ++ [.used (number link.channel) (.read result)] := by
  obtain ⟨entered, same⟩ := enters.read limit timeout link.channel w₁.plant
  obtain ⟨value, rfl⟩ := Prod.mk.inj read
  rw [value] at entered same
  rw [← drain_plant drained]
  exact ⟨same, entered⟩

/-- Reading until a frame is complete makes no attempt to write, and fails only with a read. -/
theorem awaitFrame_used (enters : T.Enters journal number) (deadline fuel : Nat) (link : Link χ)
    (w : World σ) :
    (link.awaitFrame T deadline fuel w).Ends
      (fun (result, _, w') =>
        UsedFor (number link.channel) [] (journal w.plant.state) (journal w'.plant.state)
        ∧ ∀ fault, result = .error fault →
            FailedRead (number link.channel) fault (journal w'.plant.state))
      (fun w' =>
        UsedFor (number link.channel) [] (journal w.plant.state) (journal w'.plant.state)) := by
  fun_induction awaitFrame T deadline fuel link w with
  | case1 _ link w frame decoder pending w₁ drained =>
    refine ⟨?_, fun fault failed => by cases failed⟩
    rw [drain_plant drained]
    exact .refl _ _
  | case2 link w decoder pending w₁ drained =>
    show UsedFor _ _ _ (journal w₁.plant.state)
    rw [drain_plant drained]
    exact .refl _ _
  | case3 link w decoder pending w₁ drained fuel channel w₂ _ fault read =>
    obtain ⟨-, entered⟩ := read_entered enters drained read
    refine ⟨⟨[.read (.error fault)], entered, rfl⟩, fun fault' same => ?_⟩
    cases same
    exact ⟨_, entered⟩
  | case4 link w decoder pending w₁ drained fuel channel w₂ _ read =>
    obtain ⟨-, entered⟩ := read_entered enters drained read
    exact ⟨⟨[.read (.ok [])], entered, rfl⟩, fun fault failed => by cases failed⟩
  | case5 link w decoder pending w₁ drained fuel channel w₂ _ bytes _ read ih =>
    -- reading goes on with the channel that the read gave back, which has the same number
    obtain ⟨same, entered⟩ := read_entered enters drained read
    have used : UsedFor (number link.channel) [] (journal w.plant.state) (journal w₂.plant.state) :=
      ⟨[.read (.ok bytes)], entered, rfl⟩
    have onward (w' : World σ)
        (later : UsedFor (number channel) [] (journal w₂.plant.state) (journal w'.plant.state)) :
        UsedFor (number link.channel) [] (journal w.plant.state) (journal w'.plant.state) :=
      used.trans (same ▸ later)
    refine ih.imp ?_ onward
    rintro ⟨result, _, w'⟩ ⟨later, failed⟩
    exact ⟨onward w' later, fun fault why => same ▸ failed fault why⟩

/-- **Asking an open link for a frame** brings it or leaves nothing pending, makes no attempt to
write, and fails only because a read failed. -/
theorem nextFrame_exchange (enters : T.Enters journal number) (fuel timeout : Nat)
    {link : Link χ} (w : World σ) (isOpen : link.closed = false) :
    (link.nextFrame T fuel timeout w).Ends
      (fun (result, link', w') =>
        Exchange journal number link w (brought result) [] link' w'
        ∧ (brought result = [] → link'.pending = [])
        ∧ ∀ fault, result = .error fault →
            FailedRead (number link.channel) fault (journal w'.plant.state))
      (fun w' =>
        UsedFor (number link.channel) [] (journal w.plant.state) (journal w'.plant.state)) := by
  have advance := nextFrame_advance enters fuel timeout link w
  unfold nextFrame at advance ⊢
  rw [if_neg (by rw [isOpen]; exact Bool.false_ne_true)] at advance ⊢
  refine (advance.and (awaitFrame_used enters (w.now + timeout) fuel link w)).imp ?_ ?_
  · intro (result, link', w') ⟨⟨advance, empty⟩, used, failed⟩
    exact ⟨⟨advance, isOpen, used⟩, empty isOpen, failed⟩
  · exact fun _ both => both.2

theorem Exchange.ofRead (enters : T.Enters journal number) {fuel timeout : Nat}
    {link link' : Link χ} {w w' : World σ} {result : Except ChannelFault (Option Frame)}
    (isOpen : link.closed = false)
    (read : link.nextFrame T fuel timeout w = .ended (result, link', w')) :
    Exchange journal number link w (brought result) [] link' w' := by
  have talk := nextFrame_exchange enters fuel timeout w isOpen
  rw [read] at talk
  exact talk.1

/-! ## Sending frames -/

end Link

/-- A frame whose sections can be counted can be written. -/
theorem HostFrame.fits_encode (f : HostFrame) (first : f.data1.length < 65536)
    (second : f.data2.length < 65536) : ∃ bytes, f.encode = .ok bytes := by
  cases written : f.encode with
  | ok bytes => exact ⟨bytes, rfl⟩
  | error fault =>
    rcases HostFrame.encode_eq_error_iff.mp written with ⟨long, -⟩ | ⟨-, long, -⟩ <;> omega

/-- What is sent is this frame. -/
def Attempt.Sends (attempt : Attempt) (frame : HostFrame) : Prop :=
  frame.encode = .ok attempt.bytes

/-- Sending a frame over an open link is one attempt to write its bytes; the answer is what came of
it. -/
theorem Link.send_exchange {χ σ : Type} {T : Transport χ σ} {journal : σ → List Entry}
    {number : χ → Nat} (enters : T.Enters journal number) {frame : HostFrame} {bytes : List UInt8}
    (written : frame.encode = .ok bytes) {link : Link χ} (w : World σ)
    (isOpen : link.closed = false) :
    let (result, link', w') := link.send T frame w
    ∃ outcome, Exchange journal number link w [] [⟨bytes, outcome⟩] link' w'
      ∧ result = outcome.mapError .transport := by
  have talk := write_exchange enters bytes w isOpen
  unfold send
  rw [written]
  exact ⟨_, talk, rfl⟩

/-! ## Rounds -/

/-- An attempt to write, and the frames that were recognised after it. -/
structure Round where
  attempt : Attempt
  found : List Frame
  deriving Repr

namespace Link

variable {χ σ : Type} {journal : σ → List Entry} {number : χ → Nat}

variable (journal number) in
/-- One round on an open link: first the attempt, then the frames. -/
def InRound (link : Link χ) (w : World σ) (round : Round) (link' : Link χ) (w' : World σ) : Prop :=
  ∃ link₁ w₁, Exchange journal number link w [] [round.attempt] link₁ w₁
    ∧ Exchange journal number link₁ w₁ round.found [] link' w'

/-- What is done to no channel may come before a round. -/
theorem InRound.afterIdle {link link' : Link χ} {w₀ w w' : World σ} {round : Round}
    (first : InRound journal number link w round link' w')
    (same : journal w.plant.state = journal w₀.plant.state) :
    InRound journal number link w₀ round link' w' := by
  obtain ⟨link₁, w₁, asked, heard⟩ := first
  exact ⟨link₁, w₁, asked.afterIdle same, heard⟩

theorem InRound.exchange {link link' : Link χ} {w w' : World σ} {round : Round}
    (first : InRound journal number link w round link' w') :
    Exchange journal number link w round.found [round.attempt] link' w' := by
  obtain ⟨link₁, w₁, asked, heard⟩ := first
  exact asked.trans heard

variable (journal number) in
/-- Rounds on an open link, one after the other. -/
inductive Rounds : Link χ → World σ → List Round → Link χ → World σ → Prop
  | done {link : Link χ} {w w' : World σ} (isOpen : link.closed = false)
      (same : journal w'.plant.state = journal w.plant.state) : Rounds link w [] link w'
  | next {link link₁ link' : Link χ} {w w₁ w' : World σ} {round : Round} {rounds : List Round}
      (first : InRound journal number link w round link₁ w₁)
      (later : Rounds link₁ w₁ rounds link' w') : Rounds link w (round :: rounds) link' w'

/-- Rounds make up one exchange: all their frames, and all their attempts. -/
theorem Rounds.exchange {link link' : Link χ} {w w' : World σ} {rounds : List Round}
    (talk : Rounds journal number link w rounds link' w') :
    Exchange journal number link w (rounds.flatMap Round.found) (rounds.map Round.attempt)
      link' w' := by
  induction talk with
  | done isOpen same => exact .idle isOpen same
  | next first _ ih => exact first.exchange.trans ih

/-- What is done to no channel may come before rounds. -/
theorem Rounds.afterIdle {link link' : Link χ} {w₀ w w' : World σ} {rounds : List Round}
    (talk : Rounds journal number link w rounds link' w')
    (same : journal w.plant.state = journal w₀.plant.state) :
    Rounds journal number link w₀ rounds link' w' := by
  cases talk with
  | done isOpen same' => exact .done isOpen (same'.trans same)
  | next first later => exact .next (first.afterIdle same) later

end Link

end BrailleDisplay
