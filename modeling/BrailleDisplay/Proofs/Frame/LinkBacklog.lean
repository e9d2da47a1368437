import BrailleDisplay.Proofs.Channel.Bookkeeping
import BrailleDisplay.Proofs.Frame.LinkStream

/-!
# Frames that have already come

A channel that never fails to be read, and never keeps back what waits in it, is a queue: each read
takes some bytes off its front.  In front of a link with such a channel the bytes it has not looked
at are a backlog, the pending ones and behind them the queue.  Reading a frame takes it off the
backlog and ends, with a frame or with nothing left, and so the number of bytes in the backlog bounds
how often anything has to be repeated.

* `Transport.HandsOver` — the channel is a queue, cut into reads in any way;
* `ScriptedChannel.Ready`, `ScriptedChannel.handsOver` — a channel in memory is one, whatever the
  most is that a read returns;
* `Link.Drew` — what was taken off the backlog of a link, with the frames that were in it;
* `Link.nextFrame_draws` — reading one frame ends, and is such a draw.
-/

namespace BrailleDisplay

variable {χ σ : Type}

/-! ## Channels that are queues -/

/-- While a channel is ready, `queue` is what waits in it: a read takes some bytes off the front, and
none only if there are none.  It does not fail, and leaves the channel ready. -/
structure Transport.HandsOver (T : Transport χ σ) (Ready : χ → Plant σ → Prop)
    (queue : χ → Plant σ → List UInt8) : Prop where
  read : ∀ (limit timeout : Nat) {c : χ} {plant : Plant σ}, Ready c plant → 0 < limit →
    ∃ bytes, (T.read limit timeout c plant).value.1 = .ok bytes
      ∧ queue c plant
        = bytes ++ queue (T.read limit timeout c plant).value.2 (T.read limit timeout c plant).plant
      ∧ (bytes = [] → queue c plant = [])
      ∧ Ready (T.read limit timeout c plant).value.2 (T.read limit timeout c plant).plant

namespace ScriptedChannel

/-- The channel is open, reads do not fail, and they may return something. -/
structure Ready (c : ScriptedChannel) : Prop where
  isOpen : c.closed = false
  reads : c.readsFail = false
  some_size : c.chunkSize ≠ some 0

/-- A channel in memory is a queue. -/
theorem handsOver :
    Transport.HandsOver (σ := σ) transport (fun c _ => c.Ready) (fun c _ => c.inbound) where
  read limit timeout {c plant} ready positive := by
    obtain ⟨isOpen, reads, some_size⟩ := ready
    have taken : c.read limit = (.ok (c.inbound.take (c.share limit)),
        { c with inbound := c.inbound.drop (c.share limit) }) := by
      rw [read_eq, isOpen, reads]
      rfl
    refine ⟨c.inbound.take (c.share limit), congrArg Prod.fst taken, ?_, ?_, ?_⟩
    · show c.inbound = c.inbound.take (c.share limit) ++ (c.read limit).2.inbound
      rw [taken, List.take_append_drop]
    · exact nothing_waits some_size positive
    · show (c.read limit).2.Ready
      rw [taken]
      exact ⟨isOpen, reads, some_size⟩

end ScriptedChannel

/-! ## Drawing on a backlog -/

/-- Bytes that complete a frame are not none. -/
theorem Decoder.Fed.shorter {d next : Decoder} {bytes rest : List UInt8} {frame : Frame}
    {more : List Frame} (fed : d.Fed bytes (frame :: more) next rest) :
    rest.length < bytes.length := by
  obtain ⟨front, split, -, frames⟩ := fed
  have some_bytes : front ≠ [] := by
    intro none
    rw [none] at frames
    cases frames
  rw [split, List.length_append]
  have size := List.length_pos_iff.mpr some_bytes
  omega

namespace Link

variable {T : Transport χ σ} {Ready : χ → Plant σ → Prop} {queue : χ → Plant σ → List UInt8}

/-- The bytes that have come and that a link has not looked at. -/
def backlog (queue : χ → Plant σ → List UInt8) (link : Link χ) (w : World σ) : List UInt8 :=
  link.pending ++ queue link.channel w.plant

variable (Ready queue) in
/-- Some of the backlog of a link was given to the recogniser, which completed `found`; the link is
open, and its channel can be read on. -/
structure Drew (link : Link χ) (w : World σ) (found : List Frame) (link' : Link χ)
    (w' : World σ) : Prop where
  isOpen : link'.closed = false
  ready : Ready link'.channel w'.plant
  fed : link.decoder.Fed (link.backlog queue w) found link'.decoder (link'.backlog queue w')

theorem Drew.trans {link link' link'' : Link χ} {w w' w'' : World σ} {found more : List Frame}
    (first : Drew Ready queue link w found link' w')
    (second : Drew Ready queue link' w' more link'' w'') :
    Drew Ready queue link w (found ++ more) link'' w'' where
  isOpen := second.isOpen
  ready := second.ready
  fed := first.fed.trans second.fed

/-- Notes draw nothing. -/
theorem Drew.note {link link' : Link χ} {w w' : World σ} {found : List Frame}
    (drew : Drew Ready queue link w found link' w') (n : Note) :
    Drew Ready queue link w found link' (w'.note n) where
  isOpen := drew.isOpen
  ready := drew.ready
  fed := drew.fed

variable (queue) in
/-- Draining draws on the pending bytes alone. -/
theorem drain_draws {link : Link χ} {w w' : World σ} {found : Option Frame} {decoder : Decoder}
    {pending : List UInt8} (isOpen : link.closed = false) (ready : Ready link.channel w.plant)
    (drained : drain link.decoder w link.pending = (found, decoder, pending, w')) :
    Drew Ready queue link w found.toList { link with decoder, pending } w'
      ∧ (found = none → pending = []) := by
  have spec := drain_fed link.decoder w link.pending
  rw [drained] at spec
  obtain ⟨fed, empty⟩ := spec
  have same := drain_plant drained
  refine ⟨⟨isOpen, same ▸ ready, ?_⟩, empty⟩
  show link.decoder.Fed _ _ decoder (pending ++ queue link.channel w'.plant)
  rw [same]
  exact fed.append _

/-- A read brings bytes off the queue of the channel, or nothing is left of it. -/
theorem read_draws (handsOver : T.HandsOver Ready queue) {link : Link χ} {w w' : World σ}
    {timeout : Nat} {channel : χ} {result : Except ChannelFault (List UInt8)}
    (isOpen : link.closed = false) (ready : Ready link.channel w.plant) (empty : link.pending = [])
    (read : w.perform (T.read readSize timeout link.channel) = ((result, channel), w')) :
    ∃ bytes, result = .ok bytes
      ∧ Drew Ready queue link w [] { link with channel, pending := bytes } w'
      ∧ (queue link.channel w.plant).length
        = bytes.length + (queue channel w'.plant).length
      ∧ (bytes = [] → queue channel w'.plant = []) := by
  obtain ⟨bytes, value, front, none, ready'⟩ :=
    handsOver.read readSize timeout ready (by decide)
  obtain ⟨same, rfl⟩ := Prod.mk.inj read
  rw [same] at value front ready'
  refine ⟨bytes, value, ⟨isOpen, ready', ?_⟩, ?_, ?_⟩
  · show link.decoder.Fed (link.pending ++ queue link.channel w.plant) [] link.decoder
      (bytes ++ queue channel _)
    rw [empty, List.nil_append, front]
    exact .refl _ _
  · rw [front, List.length_append]
  · intro nothing
    rw [none nothing, nothing] at front
    exact front.symm

/-- **Reading goes on at most until the queue is used up**, so it ends, with a frame or with nothing
left of the backlog. -/
theorem awaitFrame_draws (handsOver : T.HandsOver Ready queue) (deadline : Nat) {fuel : Nat}
    {link : Link χ} {w : World σ} (isOpen : link.closed = false)
    (ready : Ready link.channel w.plant)
    (enough : (queue link.channel w.plant).length < fuel) :
    ∃ found link' w', link.awaitFrame T deadline fuel w = .ended (.ok found, link', w')
      ∧ Drew Ready queue link w found.toList link' w'
      ∧ (found = none → link'.backlog queue w' = []) := by
  fun_induction awaitFrame T deadline fuel link w with
  | case1 _ link w frame decoder pending w₁ drained =>
    obtain ⟨drew, -⟩ := drain_draws queue isOpen ready drained
    exact ⟨some frame, _, _, rfl, drew, fun none => absurd none (Option.some_ne_none frame)⟩
  | case2 => exact absurd enough (Nat.not_lt_zero _)
  | case3 link w decoder pending w₁ drained fuel channel w₂ _ fault read =>
    obtain ⟨searched, empty⟩ := drain_draws queue isOpen ready drained
    obtain ⟨bytes, fine, -⟩ := read_draws handsOver searched.isOpen searched.ready (empty rfl) read
    cases fine
  | case4 link w decoder pending w₁ drained fuel channel w₂ _ read =>
    obtain ⟨searched, empty⟩ := drain_draws queue isOpen ready drained
    obtain ⟨bytes, same, drew, -, nothing⟩ :=
      read_draws handsOver searched.isOpen searched.ready (empty rfl) read
    obtain rfl : [] = bytes := Except.ok.inj same
    obtain rfl := empty rfl
    exact ⟨none, _, _, rfl, searched.trans drew, fun _ => nothing rfl⟩
  | case5 link w decoder pending w₁ drained fuel channel w₂ _ bytes some_bytes read ih =>
    obtain ⟨searched, empty⟩ := drain_draws queue isOpen ready drained
    obtain ⟨bytes', same, drew, sizes, -⟩ :=
      read_draws handsOver searched.isOpen searched.ready (empty rfl) read
    obtain rfl : bytes = bytes' := Except.ok.inj same
    obtain rfl := empty rfl
    -- the read was not empty, so the queue is shorter now
    have size := List.length_pos_iff.mpr some_bytes
    rw [drain_plant drained] at sizes
    obtain ⟨found, link', w', ended, later, nothing⟩ := ih isOpen drew.ready (by
      show (queue channel w₂.plant).length < fuel
      have before : (queue link.channel w.plant).length < fuel + 1 := enough
      simp only at sizes
      omega)
    exact ⟨found, link', w', ended, (searched.trans drew).trans later, nothing⟩

/-- **Asking an open link for a frame ends**, with a frame or with nothing left of the backlog. -/
theorem nextFrame_draws (handsOver : T.HandsOver Ready queue) (timeout : Nat) {fuel : Nat}
    {link : Link χ} {w : World σ} (isOpen : link.closed = false)
    (ready : Ready link.channel w.plant) (enough : (link.backlog queue w).length < fuel) :
    ∃ found link' w', link.nextFrame T fuel timeout w = .ended (.ok found, link', w')
      ∧ Drew Ready queue link w found.toList link' w'
      ∧ (found = none → link'.backlog queue w' = []) := by
  unfold nextFrame
  rw [if_neg (by rw [isOpen]; exact Bool.false_ne_true)]
  refine awaitFrame_draws handsOver _ isOpen ready ?_
  rw [backlog, List.length_append] at enough
  omega

end Link

end BrailleDisplay
