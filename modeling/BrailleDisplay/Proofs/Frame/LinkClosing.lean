import BrailleDisplay.Proofs.Frame.LinkExchange

/-!
# Closing a link

A link closes its channel at most once, whatever is asked of it and in whatever order, and a closed
link leaves its channel alone.

* `UsedThenClosed` — what a journal says of a channel that was used and then closed;
* `Link.close_entered`, `Link.drop_entered` — closing an open link is one entry, even if it fails;
* `LinkRequest`, `LinkReply`, `Link.serve` — runs of requests; `LinkRequest.refusal` is what a
  closed link answers, and `Link.serve_closed` that it does nothing else;
* `Link.serve_closes` — what every run of requests on a fresh link has come to.
-/

namespace BrailleDisplay

/-- Between two moments of a journal the channel of this number was used, with these attempts to
write, and then it was closed. -/
def UsedThenClosed (number : Nat) (sent : List Attempt) (outcome : Except ChannelFault Unit)
    (before after : List Entry) : Prop :=
  ∃ between, UsedFor number sent before between ∧ after = between ++ [.closed number outcome]

theorem UsedFor.thenClosed {number : Nat} {sent more : List Attempt}
    {outcome : Except ChannelFault Unit} {before between after : List Entry}
    (used : UsedFor number sent before between)
    (disposed : UsedThenClosed number more outcome between after) :
    UsedThenClosed number (sent ++ more) outcome before after := by
  obtain ⟨last, later, entered⟩ := disposed
  exact ⟨last, used.trans later, entered⟩

variable {χ σ : Type} {journal : σ → List Entry} {number : χ → Nat} {T : Transport χ σ}

namespace Link

/-! ## Closing -/

/-- Closing an open link is one entry, and the answer is what it says. -/
theorem close_entered (enters : T.Enters journal number) {link : Link χ} {w : World σ}
    (isOpen : link.closed = false) :
    let (outcome, link', w') := link.close T w
    link'.closed = true
      ∧ journal w'.plant.state
        = journal w.plant.state ++ [.closed (number link.channel) outcome] := by
  unfold close
  rw [if_neg (by rw [isOpen]; exact Bool.false_ne_true)]
  exact ⟨rfl, enters.close link.channel w.plant⟩

/-- Letting go of an open link is one entry. -/
theorem drop_entered (enters : T.Enters journal number) {link : Link χ} {w : World σ}
    (isOpen : link.closed = false) :
    ∃ outcome, journal (link.drop T w).plant.state
      = journal w.plant.state ++ [.closed (number link.channel) outcome] := by
  have closing := close_entered enters (w := w) isOpen
  unfold drop shut
  generalize link.close T w = result at closing ⊢
  obtain ⟨outcome, link', w'⟩ := result
  cases outcome with
  | ok _ => exact ⟨_, closing.2⟩
  | error fault => exact ⟨_, closing.2⟩

end Link

/-! ## Requests -/

/-- What may be asked of a link. -/
inductive LinkRequest where
  /-- It is to send bytes. -/
  | send (bytes : List UInt8)
  /-- It is asked for a frame. -/
  | await (timeout : Nat)
  /-- It is to be closed. -/
  | close
  deriving DecidableEq, Repr

/-- What comes of it. -/
inductive LinkReply where
  | sent (result : Except ChannelFault Unit)
  | awaited (result : Except ChannelFault (Option Frame))
  | closed (result : Except ChannelFault Unit)
  deriving Repr

/-- What a closed link answers: it can be closed again, but not used. -/
def LinkRequest.refusal : LinkRequest → LinkReply
  | send _ => .sent (.error .closed)
  | await _ => .awaited (.error .closed)
  | close => .closed (.ok ())

namespace Link

def reply (T : Transport χ σ) (fuel : Nat) (request : LinkRequest) (link : Link χ) (w : World σ) :
    Bounded σ (LinkReply × Link χ × World σ) :=
  match request with
  | .send bytes =>
    let (result, link, w) := link.write T bytes w
    .ended (.sent result, link, w)
  | .await timeout => do
    let (result, link, w) ← link.nextFrame T fuel timeout w
    .ended (.awaited result, link, w)
  | .close =>
    let (result, link, w) := link.close T w
    .ended (.closed result, link, w)

/-- One request after the other. -/
def serve (T : Transport χ σ) (fuel : Nat) :
    List LinkRequest → Link χ → World σ → Bounded σ (List LinkReply × Link χ × World σ)
  | [], link, w => .ended ([], link, w)
  | request :: rest, link, w => do
    let (reply, link, w) ← link.reply T fuel request w
    let (replies, link, w) ← serve T fuel rest link w
    .ended (reply :: replies, link, w)

/-- A closed link answers without its channel, the devices or the log. -/
theorem reply_closed (fuel : Nat) (request : LinkRequest) {link : Link χ}
    (closed : link.closed = true) (w : World σ) :
    link.reply T fuel request w = .ended (request.refusal, link, w) := by
  cases request with
  | send bytes => simp [reply, write, closed, LinkRequest.refusal]
  | await timeout =>
    simp only [reply, nextFrame, closed, if_true, LinkRequest.refusal]
    rfl
  | close => simp [reply, close, closed, LinkRequest.refusal]

theorem serve_closed (fuel : Nat) (requests : List LinkRequest) {link : Link χ}
    (closed : link.closed = true) (w : World σ) :
    serve T fuel requests link w = .ended (requests.map LinkRequest.refusal, link, w) := by
  induction requests with
  | nil => rfl
  | cons request rest ih =>
    unfold serve
    rw [reply_closed fuel request closed w]
    show (serve T fuel rest link w >>= _) = _
    rw [ih]
    rfl

/-- As long as a link is not to be closed, requests use its channel. -/
theorem reply_exchange (enters : T.Enters journal number) (fuel : Nat) {request : LinkRequest}
    (stays : request ≠ .close) {link : Link χ} (w : World σ) (isOpen : link.closed = false) :
    (link.reply T fuel request w).Ends
      (fun (_, link', w') => ∃ found sent, Exchange journal number link w found sent link' w')
      (fun w' => ∃ sent,
        UsedFor (number link.channel) sent (journal w.plant.state) (journal w'.plant.state)) := by
  cases request with
  | send bytes => exact ⟨_, _, write_exchange enters bytes w isOpen⟩
  | await timeout =>
    refine ((nextFrame_exchange enters fuel timeout w isOpen).imp (fun _ => id)
      fun w' used => ⟨[], used⟩).bind ?_
    intro (result, link', w') ⟨talk, _, _⟩
    exact ⟨_, _, talk⟩
  | close => exact absurd rfl stays

variable (journal number) in
/-- What requests on an open link have come to.  If it is still open, its channel was only used; if
not, its channel was used by the requests before the first to close it, then it was closed, and all
later requests were refused. -/
def Served (link : Link χ) (w : World σ) (requests : List LinkRequest) (replies : List LinkReply)
    (link' : Link χ) (w' : World σ) : Prop :=
  (.close ∉ requests ∧ ∃ found sent, Exchange journal number link w found sent link' w')
  ∨ ∃ early later answered outcome sent, requests = early ++ .close :: later ∧ .close ∉ early
      ∧ replies = answered ++ .closed outcome :: later.map LinkRequest.refusal
      ∧ answered.length = early.length ∧ link'.closed = true
      ∧ UsedThenClosed (number link.channel) sent outcome (journal w.plant.state)
          (journal w'.plant.state)

/-- A request that uses the channel may come before others. -/
theorem Served.behind {link link₁ link' : Link χ} {w w₁ w' : World σ} {found : List Frame}
    {sent : List Attempt} {requests : List LinkRequest} {replies : List LinkReply}
    (rest : Served journal number link₁ w₁ requests replies link' w')
    (first : Exchange journal number link w found sent link₁ w₁) {request : LinkRequest}
    (stays : request ≠ .close) (reply : LinkReply) :
    Served journal number link w (request :: requests) (reply :: replies) link' w' := by
  have absent {others : List LinkRequest} (none : .close ∉ others) :
      .close ∉ request :: others := by
    intro among
    rcases List.mem_cons.mp among with same | among
    · exact stays same.symm
    · exact none among
  rcases rest with ⟨none, _, _, talk⟩ | ⟨early, later, answered, outcome, more, rfl, none, rfl,
    length, closed, between, used, entered⟩
  · exact .inl ⟨absent none, _, _, first.trans talk⟩
  · rw [first.same] at used entered
    exact .inr ⟨request :: early, later, reply :: answered, outcome, _, rfl, absent none, rfl,
      congrArg (· + 1) length, closed, between, first.used.trans used, entered⟩

theorem serve_served (enters : T.Enters journal number) (fuel : Nat) (requests : List LinkRequest)
    {link : Link χ} (w : World σ) (isOpen : link.closed = false) :
    (serve T fuel requests link w).Ends
      (fun (replies, link', w') => Served journal number link w requests replies link' w')
      (fun w' => ∃ sent,
        UsedFor (number link.channel) sent (journal w.plant.state) (journal w'.plant.state)) := by
  induction requests generalizing link w with
  | nil => exact .inl ⟨List.not_mem_nil, [], [], .idle isOpen rfl⟩
  | cons request rest ih =>
    by_cases closes : request = .close
    · -- the rest is refused, so the induction hypothesis is not needed
      subst closes
      have closing := close_entered enters (w := w) isOpen
      unfold serve reply
      dsimp only
      generalize link.close T w = result at closing ⊢
      obtain ⟨outcome, link₁, w₁⟩ := result
      obtain ⟨closed, entered⟩ := closing
      show (serve T fuel rest link₁ w₁ >>= _).Ends _ _
      rw [serve_closed fuel rest closed w₁]
      exact .inr ⟨[], rest, [], outcome, [], rfl, List.not_mem_nil, rfl, rfl, closed, _, .refl _ _,
        entered⟩
    · refine (reply_exchange enters fuel closes w isOpen).bind ?_
      intro (reply, link₁, w₁) ⟨found, sent, first⟩
      refine ((ih w₁ first.staysOpen).imp (fun _ => id) ?_).bind ?_
      · intro w' ⟨more, used⟩
        exact ⟨sent ++ more, first.used.trans (first.same ▸ used)⟩
      intro (replies, link₂, w₂) served
      exact served.behind first closes reply

/-- **A link closes its channel at most once, and leaves it alone after that.**  Whatever is asked
of a fresh link: up to the first request to close it, its channel is only used; that request closes
the channel and answers what came of it, also if that failed; and later requests are refused, or
closing again succeeds, without anything being done.  Once the link is let go of, its channel has
been closed exactly once. -/
theorem serve_closes (T : Transport χ σ) (fuel : Nat) (requests : List LinkRequest)
    (channel : Numbered χ) (w : World σ) :
    (serve T.journaled fuel requests { channel } w.journaled).Ends
      (fun (replies, link, w') =>
        Served Journaled.journal Numbered.number { channel } w.journaled requests replies link w'
        ∧ ∃ sent outcome, UsedThenClosed channel.number sent outcome []
            (link.drop T.journaled w').plant.state.journal)
      (fun w' => ∃ sent, UsedFor channel.number sent [] w'.plant.state.journal) := by
  have fresh : Link.closed { channel } = false := rfl
  refine (serve_served T.enters_journaled fuel requests w.journaled fresh).imp ?_ fun _ => id
  intro (replies, link, w') served
  refine ⟨served, ?_⟩
  rcases served with ⟨-, _, sent, talk⟩ | ⟨_, _, _, outcome, sent, -, -, -, -, closed, disposed⟩
  · obtain ⟨outcome, entered⟩ := drop_entered T.enters_journaled (w := w') talk.staysOpen
    exact ⟨sent, outcome, _, talk.used, talk.same ▸ entered⟩
  · rw [drop_closed closed]
    exact ⟨sent, outcome, disposed⟩

end Link

end BrailleDisplay
