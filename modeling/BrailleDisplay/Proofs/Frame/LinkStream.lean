import BrailleDisplay.Proofs.Channel.Journal
import BrailleDisplay.Proofs.Frame.FrameStream
import BrailleDisplay.Proofs.Frame.LinkInvariant

/-!
# What a link makes of the bytes of its channel

However the bytes of a channel are split into reads, and whatever comes between the reads, a link
passes on the frames that one recogniser finds among them.  The journal of the channel tells which
bytes have come.

* `Decoder.Fed` — some of the bytes at hand were given to the recogniser, the rest were kept;
* `Link.Advance` — what a stretch of calls does to a link: more bytes come, and all that are neither
  pending before nor after are given to the recogniser in order; it can be put together from parts;
* `Link.nextFrame_advance` — reading one frame is such a stretch, and ends without a frame only when
  nothing is pending;
* `LinkCall`, `Link.carryOut` — runs of calls, with devices moving of their own accord in between;
* `Link.carryOut_stream` — what every run of calls on a fresh link has answered.
-/

namespace BrailleDisplay

/-! ## Feeding a recogniser -/

/-- Of the bytes at hand some were given to the recogniser `d`, which completed `found` and became
`next`; the others are `rest`. -/
def Decoder.Fed (d : Decoder) (bytes : List UInt8) (found : List Frame) (next : Decoder)
    (rest : List UInt8) : Prop :=
  ∃ fed, bytes = fed ++ rest ∧ next = (d.run fed).2 ∧ found = d.frames fed

namespace Decoder

theorem Fed.refl (d : Decoder) (bytes : List UInt8) : d.Fed bytes [] d bytes :=
  ⟨[], rfl, rfl, rfl⟩

/-- Bytes that come later wait behind the others. -/
theorem Fed.append {d next : Decoder} {bytes rest : List UInt8} {found : List Frame}
    (fed : d.Fed bytes found next rest) (more : List UInt8) :
    d.Fed (bytes ++ more) found next (rest ++ more) := by
  obtain ⟨front, split, state, frames⟩ := fed
  refine ⟨front, ?_, state, frames⟩
  rw [split, List.append_assoc]

theorem Fed.trans {d next last : Decoder} {bytes rest left : List UInt8} {found more : List Frame}
    (first : d.Fed bytes found next rest) (second : next.Fed rest more last left) :
    d.Fed bytes (found ++ more) last left := by
  obtain ⟨front, split, rfl, rfl⟩ := first
  obtain ⟨back, split', rfl, rfl⟩ := second
  refine ⟨front ++ back, ?_, ?_, (d.frames_append front back).symm⟩
  · rw [split, split', List.append_assoc]
  · rw [run_append]

end Decoder

/-! ## Stretches of calls -/

namespace Link

variable {χ σ : Type} {journal : σ → List Entry} {number : χ → Nat}

variable (journal number) in
/-- The bytes that have come from the channel of a link. -/
def arrived (link : Link χ) (w : World σ) : List UInt8 :=
  received (number link.channel) (journal w.plant.state)

variable (journal number) in
/-- From one moment of a link to a later one: the bytes that came in between went behind the pending
ones, and of these some were given to the recogniser, which completed `found`. -/
structure Advance (link : Link χ) (w : World σ) (found : List Frame) (link' : Link χ)
    (w' : World σ) : Prop where
  same : number link'.channel = number link.channel
  closed : link'.closed = link.closed
  fed : ∃ more, link'.arrived journal number w' = link.arrived journal number w ++ more
    ∧ link.decoder.Fed (link.pending ++ more) found link'.decoder link'.pending

/-- Nothing happens to a link while its own channel brings nothing. -/
theorem Advance.idle {link link' : Link χ} {w w' : World σ}
    (same : number link'.channel = number link.channel) (closed : link'.closed = link.closed)
    (decoder : link'.decoder = link.decoder) (pending : link'.pending = link.pending)
    (none : link'.arrived journal number w' = link.arrived journal number w) :
    Advance journal number link w [] link' w' := by
  refine ⟨same, closed, [], ?_, ?_⟩
  · rw [none, List.append_nil]
  · rw [decoder, pending, List.append_nil]
    exact .refl _ _

theorem Advance.trans {link link' link'' : Link χ} {w w' w'' : World σ} {found more : List Frame}
    (first : Advance journal number link w found link' w')
    (second : Advance journal number link' w' more link'' w'') :
    Advance journal number link w (found ++ more) link'' w'' := by
  obtain ⟨front, came, fed⟩ := first.fed
  obtain ⟨back, came', fed'⟩ := second.fed
  refine ⟨second.same.trans first.same, second.closed.trans first.closed, front ++ back, ?_, ?_⟩
  · rw [came', came, List.append_assoc]
  · rw [← List.append_assoc]
    exact (fed.append back).trans fed'

/-- What was recognised on the way is among what there is to recognise. -/
theorem Advance.mem_frames {link link' : Link χ} {w w' : World σ} {found : List Frame}
    (advance : Advance journal number link w found link' w') {more : List UInt8}
    (came : link'.arrived journal number w' = link.arrived journal number w ++ more)
    {frame : Frame} (among : frame ∈ found) :
    frame ∈ link.decoder.frames (link.pending ++ more) := by
  obtain ⟨more', came', fed, split, -, frames⟩ := advance.fed
  obtain rfl : more = more' := List.append_cancel_left (came.symm.trans came')
  rw [split, Decoder.frames_append, ← frames]
  exact List.mem_append_left _ among

/-- The frame an answer brings, if it brings one. -/
def brought : Except ChannelFault (Option Frame) → List Frame
  | .ok (some frame) => [frame]
  | _ => []

/-- Draining gives the recogniser what it needs for one frame, or else everything. -/
theorem drain_fed (d : Decoder) (w : World σ) (bytes : List UInt8) :
    let (found, next, rest, _) := drain d w bytes
    d.Fed bytes found.toList next rest ∧ (found = none → rest = []) := by
  induction bytes generalizing d w with
  | nil => exact ⟨.refl d [], fun _ => rfl⟩
  | cons b rest ih =>
    have later (w : World σ) (outcome : (d.push b).1.frame? = none) :
        let (found, next, rest', _) := drain (d.push b).2 w rest
        d.Fed (b :: rest) found.toList next rest' ∧ (found = none → rest' = []) := by
      obtain ⟨⟨fed, split, state, frames⟩, empty⟩ := ih (d.push b).2 w
      refine ⟨⟨b :: fed, congrArg (b :: ·) split, state, ?_⟩, empty⟩
      rw [frames, Decoder.frames_cons, outcome]
      rfl
    simp only [drain]
    generalize taken : d.push b = pushed at later
    obtain ⟨outcome, next⟩ := pushed
    cases outcome with
    | incomplete => exact later w rfl
    | valid frame =>
      refine ⟨⟨[b], rfl, ?_, ?_⟩, fun none => absurd none (Option.some_ne_none frame)⟩
      · rw [Decoder.run_cons, taken]
        rfl
      · rw [Decoder.frames_cons, taken]
        rfl
    | invalid reason bytes => exact later (w.note (rejection reason bytes)) rfl

variable {T : Transport χ σ}

theorem write_advance (enters : T.Enters journal number) (bytes : List UInt8) (link : Link χ)
    (w : World σ) :
    let (_, link', w') := link.write T bytes w
    Advance journal number link w [] link' w' ∧ link'.pending = link.pending := by
  unfold write
  by_cases closed : link.closed = true
  · rw [if_pos closed]
    exact ⟨.idle rfl rfl rfl rfl rfl, rfl⟩
  · rw [if_neg closed]
    obtain ⟨same, none⟩ := enters.received_write bytes link.channel w.plant
    exact ⟨.idle same rfl rfl rfl none, rfl⟩

/-- Draining is a stretch in which nothing comes. -/
theorem drain_advance (link : Link χ) (w : World σ) {found : Option Frame} {decoder : Decoder}
    {pending : List UInt8} {w' : World σ}
    (drained : drain link.decoder w link.pending = (found, decoder, pending, w')) :
    Advance journal number link w found.toList { link with decoder, pending } w'
      ∧ (found = none → pending = []) := by
  have spec := drain_fed link.decoder w link.pending
  rw [drained] at spec
  obtain ⟨fed, empty⟩ := spec
  refine ⟨⟨rfl, rfl, [], ?_, ?_⟩, empty⟩
  · rw [List.append_nil]
    exact congrArg (fun plant => received _ (journal plant.state)) (drain_plant drained)
  · rw [List.append_nil]
    exact fed

/-- Draining without finding a frame, and a read after that, are a stretch: what the read brings is
all that is pending then. -/
theorem read_advance (enters : T.Enters journal number) (link : Link χ) {w w₁ w₂ : World σ}
    {decoder : Decoder} {pending : List UInt8} {limit timeout : Nat} {channel : χ}
    {result : Except ChannelFault (List UInt8)}
    (drained : drain link.decoder w link.pending = (none, decoder, pending, w₁))
    (read : w₁.perform (T.read limit timeout link.channel) = ((result, channel), w₂)) :
    pending = [] ∧ Advance journal number link w []
      { link with channel, decoder, pending := readBytes result } w₂ := by
  obtain ⟨first, empty⟩ := drain_advance link w drained
  obtain rfl := empty rfl
  refine ⟨rfl, first.trans ?_⟩
  obtain ⟨same, came⟩ := enters.received_read limit timeout link.channel w₁.plant
  obtain ⟨value, rfl⟩ := Prod.mk.inj read
  rw [value] at same came
  exact ⟨same, rfl, _, came, .refl _ _⟩

/-- Reading goes on until a frame is complete, or ends with nothing pending. -/
theorem awaitFrame_advance (enters : T.Enters journal number) (deadline fuel : Nat)
    (link : Link χ) (w : World σ) :
    (link.awaitFrame T deadline fuel w).Ends
      (fun (result, link', w') => Advance journal number link w (brought result) link' w'
        ∧ (brought result = [] → link'.pending = []))
      (fun _ => True) := by
  fun_induction awaitFrame T deadline fuel link w with
  | case1 _ link w frame decoder pending w₁ drained =>
    exact ⟨(drain_advance link w drained).1, fun none => absurd none (List.cons_ne_nil frame [])⟩
  | case2 => trivial
  | case3 link w decoder pending w₁ drained fuel channel w₂ _ fault read =>
    obtain ⟨rfl, advance⟩ := read_advance enters link drained read
    exact ⟨advance, fun _ => rfl⟩
  | case4 link w decoder pending w₁ drained fuel channel w₂ _ read =>
    obtain ⟨rfl, advance⟩ := read_advance enters link drained read
    exact ⟨advance, fun _ => rfl⟩
  | case5 link w decoder pending w₁ drained fuel channel w₂ _ bytes _ read ih =>
    obtain ⟨_, advance⟩ := read_advance enters link drained read
    exact ih.imp (fun _ rest => ⟨advance.trans rest.1, rest.2⟩) fun _ => id

/-- Asking an open link for a frame is a stretch that brings it, or ends with nothing pending. -/
theorem nextFrame_advance (enters : T.Enters journal number) (fuel timeout : Nat) (link : Link χ)
    (w : World σ) :
    (link.nextFrame T fuel timeout w).Ends
      (fun (result, link', w') => Advance journal number link w (brought result) link' w'
        ∧ (link.closed = false → brought result = [] → link'.pending = []))
      (fun _ => True) := by
  unfold nextFrame
  by_cases closed : link.closed = true
  · rw [if_pos closed]
    refine ⟨.idle rfl rfl rfl rfl rfl, fun isOpen => ?_⟩
    rw [closed] at isOpen
    cases isOpen
  · rw [if_neg closed]
    exact (awaitFrame_advance enters _ fuel link w).imp
      (fun _ spec => ⟨spec.1, fun _ => spec.2⟩) fun _ => id

/-- A stretch that starts with nothing pending, and keeps something only behind a frame, has
completed the candidate that the recogniser held as soon as the rest of it has come. -/
theorem Advance.completes {link link' : Link χ} {w w' : World σ} {found : List Frame}
    (advance : Advance journal number link w found link' w') (sound : link.decoder.Sound)
    (empty : link.pending = []) (kept : found = [] → link'.pending = []) {frame : Frame}
    {front back : List UInt8} (completes : link.decoder.collected ++ front = frame.bytes)
    (came : link'.arrived journal number w' = link.arrived journal number w ++ front ++ back) :
    ∃ more, found = frame :: more := by
  obtain ⟨more, arrived, fed, split, -, frames⟩ := advance.fed
  rw [arrived, List.append_assoc] at came
  rw [empty, List.nil_append, List.append_cancel_left came] at split
  have whole (rest : List UInt8) (all : fed = front ++ rest) : ∃ more, found = frame :: more := by
    refine ⟨(link.decoder.run front).2.frames rest, ?_⟩
    rw [frames, all, Decoder.frames_append, Decoder.frames_completing sound completes]
    rfl
  rcases List.append_eq_append_iff.mp split with ⟨rest, all, -⟩ | ⟨lacking, part, left⟩
  · exact whole rest all
  · by_cases lacks : lacking = []
    · rw [lacks, List.append_nil] at part
      exact whole [] (by rw [List.append_nil, part])
    · -- a part of the rest alone completes nothing, so no frame excuses what is still pending
      rw [part] at completes
      rw [Decoder.frames_unfinished sound lacks completes] at frames
      rw [kept frames] at left
      exact absurd (List.append_eq_nil_iff.mp left.symm).1 lacks

end Link

/-! ## Runs of calls -/

/-- What may happen around a link. -/
inductive LinkCall (σ : Type) where
  /-- It is asked for a frame. -/
  | await (timeout : Nat)
  /-- Bytes are sent over it. -/
  | send (bytes : List UInt8)
  /-- Time passes, and devices move of their own accord. -/
  | elapse (change : Plant σ → Plant σ)

/-- What comes of it. -/
inductive LinkAnswer where
  | awaited (result : Except ChannelFault (Option Frame))
  | sent (result : Except ChannelFault Unit)
  | elapsed

/-- The frames among answers. -/
def LinkAnswer.frames (answers : List LinkAnswer) : List Frame :=
  answers.flatMap fun
    | awaited result => Link.brought result
    | _ => []

/-- A change of the clock or the devices that does nothing to any channel. -/
def World.elapse {σ : Type} (change : Plant σ → Plant σ) (w : World (Journaled σ)) :
    World (Journaled σ) :=
  { w with plant := (change w.plant.bare).withJournal w.plant.state.journal }

namespace Link

variable {χ σ : Type}

/-- One call. -/
def answer (T : Transport χ σ) (fuel : Nat) (call : LinkCall σ) (link : Link (Numbered χ))
    (w : World (Journaled σ)) :
    Bounded (Journaled σ) (LinkAnswer × Link (Numbered χ) × World (Journaled σ)) :=
  match call with
  | .await timeout => do
    let (result, link, w) ← link.nextFrame T.journaled fuel timeout w
    .ended (.awaited result, link, w)
  | .send bytes =>
    let (result, link, w) := link.write T.journaled bytes w
    .ended (.sent result, link, w)
  | .elapse change => .ended (.elapsed, link, w.elapse change)

/-- One call after the other. -/
def carryOut (T : Transport χ σ) (fuel : Nat) :
    List (LinkCall σ) → Link (Numbered χ) → World (Journaled σ) →
      Bounded (Journaled σ) (List LinkAnswer × Link (Numbered χ) × World (Journaled σ))
  | [], link, w => .ended ([], link, w)
  | call :: rest, link, w => do
    let (answer, link, w) ← link.answer T fuel call w
    let (answers, link, w) ← carryOut T fuel rest link w
    .ended (answer :: answers, link, w)

/-- The bytes that have come from the channel of a link, by the journal kept of it. -/
abbrev bytesRead (link : Link (Numbered χ)) (w : World (Journaled σ)) : List UInt8 :=
  link.arrived Journaled.journal Numbered.number w

/-- A stretch of calls on a link of which a journal is kept.  If it is open, something may be
pending afterwards only if it was before or if a frame came. -/
structure Stretch (link : Link (Numbered χ)) (w : World (Journaled σ)) (found : List Frame)
    (link' : Link (Numbered χ)) (w' : World (Journaled σ)) : Prop
    extends Advance Journaled.journal Numbered.number link w found link' w' where
  kept : link.closed = false → link.pending = [] → found = [] → link'.pending = []

theorem Stretch.trans {link link' link'' : Link (Numbered χ)} {w w' w'' : World (Journaled σ)}
    {found more : List Frame} (first : Stretch link w found link' w')
    (second : Stretch link' w' more link'' w'') : Stretch link w (found ++ more) link'' w'' := by
  refine ⟨first.toAdvance.trans second.toAdvance, fun isOpen empty none => ?_⟩
  obtain ⟨none, none'⟩ := List.append_eq_nil_iff.mp none
  exact second.kept (first.closed.trans isOpen) (first.kept isOpen empty none) none'

theorem answer_stretch (T : Transport χ σ) (fuel : Nat) (call : LinkCall σ)
    (link : Link (Numbered χ)) (w : World (Journaled σ)) :
    (link.answer T fuel call w).Ends
      (fun (answer, link', w') => Stretch link w (LinkAnswer.frames [answer]) link' w')
      (fun _ => True) := by
  cases call with
  | await timeout =>
    refine (nextFrame_advance T.enters_journaled fuel timeout link w).bind ?_
    intro (result, link', w') ⟨advance, empty⟩
    have same : LinkAnswer.frames [.awaited result] = brought result := List.flatMap_singleton _ _
    show Stretch link w (LinkAnswer.frames [.awaited result]) link' w'
    rw [same]
    exact ⟨advance, fun isOpen _ => empty isOpen⟩
  | send bytes =>
    obtain ⟨advance, pending⟩ := write_advance T.enters_journaled bytes link w
    exact ⟨advance, fun _ empty _ => pending.trans empty⟩
  | elapse change => exact ⟨.idle rfl rfl rfl rfl rfl, fun _ empty _ => empty⟩

/-- Stretches of single calls make up one of the whole run. -/
theorem carryOut_stretch (T : Transport χ σ) (fuel : Nat) (calls : List (LinkCall σ))
    (link : Link (Numbered χ)) (w : World (Journaled σ)) :
    (carryOut T fuel calls link w).Ends
      (fun (answers, link', w') => Stretch link w (LinkAnswer.frames answers) link' w')
      (fun _ => True) := by
  induction calls generalizing link w with
  | nil => exact ⟨.idle rfl rfl rfl rfl rfl, fun _ empty _ => empty⟩
  | cons call rest ih =>
    refine (answer_stretch T fuel call link w).bind ?_
    intro (answer, link₁, w₁) first
    refine (ih link₁ w₁).bind ?_
    intro (answers, link₂, w₂) second
    have split : LinkAnswer.frames ([answer] ++ answers)
        = LinkAnswer.frames [answer] ++ LinkAnswer.frames answers := List.flatMap_append
    show Stretch link w (LinkAnswer.frames ([answer] ++ answers)) link₂ w₂
    rw [split]
    exact first.trans second

/-- An open link has given its recogniser the bytes of its channel but for the pending ones, and has
answered with the frames that a fresh recogniser finds in them. -/
structure Faithful (answers : List LinkAnswer) (link : Link (Numbered χ))
    (w : World (Journaled σ)) : Prop where
  isOpen : link.closed = false
  fed : ∃ fed, link.bytesRead w = fed ++ link.pending
    ∧ link.decoder = (Decoder.fresh.run fed).2
    ∧ LinkAnswer.frames answers = Decoder.fresh.frames fed

/-- What a stretch that starts with a fresh link and an empty journal says of its end alone. -/
theorem Advance.fromFresh {channel : Numbered χ} {w : World σ} {found : List Frame}
    {link : Link (Numbered χ)} {w' : World (Journaled σ)}
    (advance : Advance Journaled.journal Numbered.number { channel } w.journaled found link w') :
    ∃ fed, link.bytesRead w' = fed ++ link.pending
      ∧ link.decoder = (Decoder.fresh.run fed).2 ∧ found = Decoder.fresh.frames fed := by
  obtain ⟨more, arrived, fed, split, state, frames⟩ := advance.fed
  exact ⟨fed, arrived.trans split, state, frames⟩

/-- **A link neither loses nor makes up frames.**  Whatever calls are made on a fresh link, and
however its channel splits what it brings:

* the bytes read are those given to the recogniser and, behind them, the pending ones, and the
  frames answered are the ones a fresh recogniser finds in those it was given;
* a further call that answers no frame, be it that none came in time or that the channel failed,
  leaves nothing pending and all that was read in the recogniser;
* and as soon as later calls have read the rest of the candidate it holds, the first frame they have
  answered is the one that straddles that call. -/
theorem carryOut_stream (T : Transport χ σ) (fuel : Nat) (calls : List (LinkCall σ))
    (channel : Numbered χ) (w : World σ) :
    (carryOut T fuel calls { channel } w.journaled).Ends
      (fun (answers, link, w) => Faithful answers link w
        ∧ ∀ timeout, (link.nextFrame T.journaled fuel timeout w).Ends
            (fun (result, link, w) => (∀ frame, result ≠ .ok (some frame)) →
              link.pending = []
              ∧ link.decoder = (Decoder.fresh.run (link.bytesRead w)).2
              ∧ ∀ later, (carryOut T fuel later link w).Ends
                  (fun (answers, link', w') => ∀ frame front back,
                    link.decoder.collected ++ front = frame.bytes →
                    link'.bytesRead w' = link.bytesRead w ++ front ++ back →
                    ∃ more, LinkAnswer.frames answers = frame :: more)
                  (fun _ => True))
            (fun _ => True))
      (fun _ => True) := by
  refine (carryOut_stretch T fuel calls { channel } w.journaled).imp ?_ fun _ => id
  intro (answers, link, w) stretch
  refine ⟨⟨stretch.closed, stretch.fromFresh⟩, fun timeout => ?_⟩
  refine (nextFrame_advance T.enters_journaled fuel timeout link w).imp ?_ fun _ => id
  intro (result, link₁, w₁) ⟨advance, empty⟩ noFrame
  have none : brought result = [] := by
    match result, noFrame with
    | .ok (some frame), noFrame => exact absurd rfl (noFrame frame)
    | .ok none, _ => rfl
    | .error _, _ => rfl
  have nothing : link₁.pending = [] := empty stretch.closed none
  obtain ⟨fed, read, state, -⟩ := (stretch.toAdvance.trans advance).fromFresh
  rw [nothing, List.append_nil] at read
  refine ⟨nothing, by rw [read, state], fun later => ?_⟩
  refine (carryOut_stretch T fuel later link₁ w₁).imp ?_ fun _ => id
  intro (answers', link₂, w₂) stretch' frame front back completes came
  have sound : link₁.decoder.Sound := state ▸ Decoder.sound_fresh.run fed
  have isOpen : link₁.closed = false := advance.closed.trans stretch.closed
  exact stretch'.completes sound nothing (stretch'.kept isOpen nothing) completes came

end Link

end BrailleDisplay
