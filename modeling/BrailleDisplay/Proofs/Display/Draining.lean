import BrailleDisplay.Proofs.Display.Polling
import BrailleDisplay.Proofs.Frame.LinkBacklog

/-!
# Polling until nothing is left

Whoever polls a display until there is no event has seen all events that had come.  How the bytes
were cut into reads is lost on the way: only the recogniser, the pending bytes and the queue matter.

* `Frame.reported` — the key events of a frame, told from its fields;
* `Link.poll_draws` — one poll ends, with the first event of the backlog or with nothing left of it;
* `Display.pollOut`, `Display.PollsOut` — polling until there is no event, and how it may end;
* `Display.pollsOut_of_handsOver` — on a channel that is a queue it ends with all events of the
  backlog, by induction on the polls;
* `Display.pollOut_exhausts` — which these are, and that the size of reads does not matter.
-/

namespace BrailleDisplay

/-! ## What frames report -/

/-- The number that bytes stand for, the lowest first. -/
def littleEndian : List UInt8 → Nat
  | [] => 0
  | b :: rest => b.toNat + 256 * littleEndian rest

/-- The key events of a frame: a report of type 0 is a routing key, by its index, and one of type 1
the set of keys held, a number of four bytes.  No other frame is one. -/
def Frame.reported : Frame → List KeyEvent
  | .short _ => []
  | .long f =>
    if f.typeByte = 0x00 then [.routingKeyPress f.data]
    else if f.typeByte = 0x01 then
      [.navigationKeySet (UInt32.ofNat (littleEndian f.reserved.toList))]
    else []

/-- A byte moved up within 32 bits loses nothing. -/
theorem toNat_shiftedByte (b : UInt8) {shift : UInt32} (fits : shift.toNat ≤ 24) :
    (b.toUInt32 <<< shift).toNat = b.toNat <<< shift.toNat := by
  have size := b.toNat_lt
  have bound : b.toNat <<< shift.toNat < 2 ^ 32 := by
    rw [Nat.shiftLeft_eq]
    calc b.toNat * 2 ^ shift.toNat
        ≤ 255 * 2 ^ 24 := Nat.mul_le_mul (by omega) (Nat.pow_le_pow_right (by decide) fits)
      _ < 2 ^ 32 := by decide
  have within : shift.toNat % 32 = shift.toNat := Nat.mod_eq_of_lt (by omega)
  rw [UInt32.toNat_shiftLeft, UInt8.toNat_toUInt32, within, Nat.mod_eq_of_lt bound]

/-- A byte put above the bits of a number is added to it. -/
theorem toNat_or_shiftedByte {low : UInt32} (b : UInt8) (shift : UInt32)
    (below : low.toNat < 2 ^ shift.toNat) (fits : shift.toNat ≤ 24) :
    (low ||| b.toUInt32 <<< shift).toNat = low.toNat + b.toNat * 2 ^ shift.toNat := by
  rw [UInt32.toNat_or, toNat_shiftedByte b fits, Nat.or_comm,
    ← Nat.shiftLeft_add_eq_or_of_lt below, Nat.shiftLeft_eq, Nat.add_comm]

/-- A set of keys is the number its four bytes stand for. -/
theorem LongFrame.keySet_eq (f : LongFrame) :
    f.keySet = UInt32.ofNat (littleEndian f.reserved.toList) := by
  obtain ⟨t, c, d, ⟨⟨reserved⟩, size⟩⟩ := f
  match reserved, size with
  | [r₀, r₁, r₂, r₃], _ =>
    have b₀ := r₀.toNat_lt
    have b₁ := r₁.toNat_lt
    have b₂ := r₂.toNat_lt
    have b₃ := r₃.toNat_lt
    have two : (r₀.toUInt32 ||| r₁.toUInt32 <<< 8).toNat = r₀.toNat + r₁.toNat * 2 ^ 8 :=
      toNat_or_shiftedByte r₁ 8 b₀ (by decide)
    have three : (r₀.toUInt32 ||| r₁.toUInt32 <<< 8 ||| r₂.toUInt32 <<< 16).toNat
        = r₀.toNat + r₁.toNat * 2 ^ 8 + r₂.toNat * 2 ^ 16 := by
      rw [← two]
      exact toNat_or_shiftedByte r₂ 16 (by rw [two]; show _ < 2 ^ 16; omega) (by decide)
    have four : (r₀.toUInt32 ||| r₁.toUInt32 <<< 8 ||| r₂.toUInt32 <<< 16
          ||| r₃.toUInt32 <<< 24).toNat
        = r₀.toNat + r₁.toNat * 2 ^ 8 + r₂.toNat * 2 ^ 16 + r₃.toNat * 2 ^ 24 := by
      rw [← three]
      exact toNat_or_shiftedByte r₃ 24 (by rw [three]; show _ < 2 ^ 24; omega) (by decide)
    refine UInt32.toNat_inj.mp (four.trans ?_)
    show _ = (UInt32.ofNat (littleEndian [r₀, r₁, r₂, r₃])).toNat
    simp only [littleEndian, UInt32.toNat_ofNat']
    omega

theorem KeyEvent.toList_ofFrame? (frame : Frame) :
    (KeyEvent.ofFrame? frame).toList = frame.reported := by
  cases frame with
  | short _ => rfl
  | long f =>
    by_cases cursor : f.typeByte = 0x00
    · simp [ofFrame?, Frame.reported, LongFrame.reportType, ReportType.ofByte, cursor]
    by_cases keys : f.typeByte = 0x01
    · simp [ofFrame?, Frame.reported, LongFrame.reportType, ReportType.ofByte, keys, f.keySet_eq]
    by_cases cells : f.typeByte = 0x02
    · simp [ofFrame?, Frame.reported, LongFrame.reportType, ReportType.ofByte, cells]
    · simp [ofFrame?, Frame.reported, LongFrame.reportType, ReportType.ofByte, cursor, keys, cells]

/-- The key events of frames are what each of them reports, in order. -/
theorem keyEvents_eq (frames : List Frame) : keyEvents frames = frames.flatMap Frame.reported := by
  induction frames with
  | nil => rfl
  | cons frame rest ih =>
    rw [List.flatMap_cons, ← ih, ← KeyEvent.toList_ofFrame?, keyEvents, keyEvents,
      List.filterMap_cons]
    cases KeyEvent.ofFrame? frame <;> rfl

/-! ## One poll -/

variable {χ σ : Type} {T : Transport χ σ} {Ready : χ → Plant σ → Prop}
  {queue : χ → Plant σ → List UInt8}

namespace Link

variable (Ready queue) in
/-- What a poll has drawn from the backlog of a link: frames that carry the event answered and no
other; and if it answers no event, nothing is left. -/
structure PolledFrom (link : Link χ) (w : World σ) (answer : Polled) (link' : Link χ)
    (w' : World σ) : Prop where
  drew : ∃ found, Drew Ready queue link w found link' w' ∧ keyEvents found = answer.events
  settled : (∃ e, answer = .event e) ∨ answer = .nothing ∧ link'.backlog queue w' = []

/-- Looking for an event ends: every frame that carries none makes the backlog shorter. -/
theorem pollFrames_draws (handsOver : T.HandsOver Ready queue) {fuel more : Nat} {link : Link χ}
    {w : World σ} (isOpen : link.closed = false) (ready : Ready link.channel w.plant)
    (enough : (link.backlog queue w).length < fuel)
    (often : (link.backlog queue w).length < more) :
    ∃ answer link' w', link.pollFrames T fuel more w = .ended (answer, link', w')
      ∧ PolledFrom Ready queue link w answer link' w' := by
  induction more generalizing link w with
  | zero => exact absurd often (Nat.not_lt_zero _)
  | succ more ih =>
    obtain ⟨found, link₁, w₁, ended, drew, empty⟩ := nextFrame_draws handsOver 0 isOpen ready enough
    unfold pollFrames
    rw [ended, Bounded.ended_bind]
    cases found with
    | none => exact ⟨.nothing, link₁, w₁, rfl, ⟨[], drew, rfl⟩, .inr ⟨rfl, empty rfl⟩⟩
    | some frame =>
      cases carried : KeyEvent.ofFrame? frame with
      | some event =>
        simp only [carried]
        refine ⟨.event event, link₁, w₁, rfl, ⟨[frame], drew, ?_⟩, .inl ⟨event, rfl⟩⟩
        simp [keyEvents, carried, Polled.events]
      | none =>
        simp only [carried]
        have shorter := drew.fed.shorter
        obtain ⟨answer, link', w', ended', later⟩ :=
          ih (w := w₁.log .debug ("unexpected frame: " ++ frame.describe)) drew.isOpen drew.ready
            (Nat.lt_trans shorter enough) (Nat.lt_of_lt_of_le shorter (Nat.le_of_lt_succ often))
        obtain ⟨others, drew', events⟩ := later.drew
        refine ⟨answer, link', w', ended', ⟨frame :: others, (drew.note _).trans drew', ?_⟩,
          later.settled⟩
        simpa [keyEvents, carried] using events

/-- **A poll ends**, with the first event of the backlog or with nothing left of it. -/
theorem poll_draws (handsOver : T.HandsOver Ready queue) {fuel : Nat} {link : Link χ}
    {w : World σ} (isOpen : link.closed = false) (ready : Ready link.channel w.plant)
    (enough : (link.backlog queue w).length < fuel) :
    ∃ answer link' w', link.poll T fuel w = .ended (answer, link', w')
      ∧ PolledFrom Ready queue link w answer link' w' :=
  pollFrames_draws handsOver isOpen ready enough enough

end Link

/-! ## Polling out -/

namespace Display

/-- Poll a display until there is no event: the events, and what the last poll has answered. -/
def pollOut (T : Transport χ σ) (fuel : Nat) : Nat → Display χ → World σ →
    Bounded σ (List KeyEvent × Polled × Display χ × World σ)
  | 0, _, w => .cutShort w
  | turns + 1, display, w => do
    let (answer, display, w) ← display.nextEvent T fuel w
    match answer with
    | .event e =>
      let (events, last, display, w) ← pollOut T fuel turns display w
      return (e :: events, last, display, w)
    | last => return ([], last, display, w)

/-- Polling out a display ends with these events, the last poll finding nothing, and leaves neither
pending bytes nor any in the queue; so it does whenever reads and polls may be repeated more often
than there are bytes. -/
def PollsOut (T : Transport χ σ) (queue : χ → Plant σ → List UInt8) (display : Display χ)
    (w : World σ) (events : List KeyEvent) : Prop :=
  ∀ fuel turns, (display.link.backlog queue w).length < fuel →
    (display.link.backlog queue w).length < turns →
      ∃ link' w', display.pollOut T fuel turns w
          = .ended (events, .nothing, { display with link := link' }, w')
        ∧ link'.closed = false ∧ link'.pending = [] ∧ queue link'.channel w'.plant = []
        ∧ link'.decoder = (display.link.decoder.run (display.link.backlog queue w)).2

/-- **Polling out ends with all events that had come**, and with nothing left. -/
theorem pollsOut_of_handsOver (handsOver : T.HandsOver Ready queue) (display : Display χ)
    (w : World σ) (isOpen : display.link.closed = false)
    (ready : Ready display.link.channel w.plant) :
    display.PollsOut T queue w
      (keyEvents (display.link.decoder.frames (display.link.backlog queue w))) := by
  intro fuel turns enough often
  induction turns generalizing display w with
  | zero => exact absurd often (Nat.not_lt_zero _)
  | succ turns ih =>
    obtain ⟨answer, link₁, w₁, ended, ⟨found, drew, events⟩, settled⟩ :=
      Link.poll_draws handsOver isOpen ready enough
    have polled : display.nextEvent T fuel w
        = .ended (answer, { display with link := link₁ }, w₁) := by
      rw [nextEvent, ended]
      rfl
    rw [pollOut, polled, Bounded.ended_bind]
    obtain ⟨fed, split, state, frames⟩ := drew.fed
    rcases settled with ⟨e, rfl⟩ | ⟨rfl, empty⟩
    · -- the event was in some frame, so less than before is left for the other polls
      have shorter : (link₁.backlog queue w₁).length < (display.link.backlog queue w).length := by
        cases found with
        | nil => cases events
        | cons frame more => exact drew.fed.shorter
      obtain ⟨link', w', rest, isOpen', pending, nothing, last⟩ :=
        ih { display with link := link₁ } w₁ drew.isOpen drew.ready
          (Nat.lt_trans shorter enough) (Nat.lt_of_lt_of_le shorter (Nat.le_of_lt_succ often))
      refine ⟨link', w', ?_, isOpen', pending, nothing, ?_⟩
      · simp only [rest, Bounded.ended_bind]
        rw [split, Decoder.frames_append, ← frames, ← state, keyEvents_append, events]
        rfl
      · rw [last, split, Decoder.run_append, ← state]
    · obtain ⟨pending, nothing⟩ := List.append_eq_nil_iff.mp empty
      rw [empty, List.append_nil] at split
      refine ⟨link₁, w₁, ?_, drew.isOpen, pending, nothing, split ▸ state⟩
      rw [split, ← frames, events]
      rfl

end Display

/-! ## Channels in memory -/

/-- The channel with so many bytes at most in each read, or without a limit. -/
def ScriptedChannel.inReadsOf (c : ScriptedChannel) : Option Nat → ScriptedChannel
  | none => { c with chunkSize := none }
  | some size => c.limitReads size

/-- A display whose channel hands over so many bytes at most in each read. -/
def Display.inReadsOf (display : Display ScriptedChannel) (size : Option Nat) :
    Display ScriptedChannel :=
  { display with link := { display.link with channel := display.link.channel.inReadsOf size } }

theorem ScriptedChannel.ready_inReadsOf {c : ScriptedChannel} (isOpen : c.closed = false)
    (reads : c.readsFail = false) (size : Option Nat) : (c.inReadsOf size).Ready := by
  cases size with
  | none => exact ⟨isOpen, reads, fun limited => nomatch limited⟩
  | some size =>
    refine ⟨isOpen, reads, fun limited => ?_⟩
    have most : max size 1 = 0 := Option.some.inj limited
    omega

/-- The size of reads changes nothing of what is to be read. -/
theorem Display.backlog_inReadsOf (display : Display ScriptedChannel) (size : Option Nat)
    (w : World σ) :
    (display.inReadsOf size).link.backlog (fun c _ => c.inbound) w
      = display.link.pending ++ display.link.channel.inbound := by
  cases size <;> rfl

/-- **Polling out a display** ends on every channel that is a queue, whatever the recogniser holds,
whatever is pending, and however the queue is cut into reads.  The events are those that the frames
among the pending and queued bytes report, one for each of these frames and in their order; at the
end no byte is left.  A channel in memory that is open and not made to fail is such a queue, so with
reads of every size the events are the same. -/
theorem Display.pollOut_exhausts :
    (∀ {χ σ : Type} {T : Transport χ σ} {Ready : χ → Plant σ → Prop}
        {queue : χ → Plant σ → List UInt8}, T.HandsOver Ready queue →
        ∀ (display : Display χ) (w : World σ), display.link.closed = false →
          Ready display.link.channel w.plant →
            display.PollsOut T queue w
              ((display.link.decoder.frames (display.link.backlog queue w)).flatMap
                Frame.reported))
      ∧ ∀ {σ : Type} (display : Display ScriptedChannel) (w : World σ) (size : Option Nat),
          display.link.closed = false → display.link.channel.closed = false →
            display.link.channel.readsFail = false →
              (display.inReadsOf size).PollsOut ScriptedChannel.transport (fun c _ => c.inbound) w
                ((display.link.decoder.frames
                  (display.link.pending ++ display.link.channel.inbound)).flatMap
                    Frame.reported) := by
  constructor
  · intro χ σ T Ready queue handsOver display w isOpen ready
    rw [← keyEvents_eq]
    exact pollsOut_of_handsOver handsOver display w isOpen ready
  · intro σ display w size isOpen opened reads
    have ready := ScriptedChannel.ready_inReadsOf opened reads size
    rw [← keyEvents_eq, ← display.backlog_inReadsOf size w]
    exact pollsOut_of_handsOver ScriptedChannel.handsOver (display.inReadsOf size) w isOpen ready

/-- A display of which three bytes of a routing key report have been recognised and three are
pending.  Its channel has the rest, padding, a stray byte, an identity, a report of the keys held,
and the beginning of another. -/
def Display.halfRead : Display ScriptedChannel where
  link :=
    { channel :=
        { info := ScriptedChannel.defaultInfo
          inbound :=
            [0x00, 0x00, 0xFA, 0xFB, 0x00, 0x55, 0x1C, 0x01, 0x02, 0x1F, 0xFA, 0x01, 0x00, 0x00,
              0x00, 0x60, 0x00, 0x80, 0xD6, 0xFB, 0xFA, 0x01] }
      decoder := (Decoder.fresh.run [0xFA, 0x00, 0x00]).2
      pending := [0x05, 0x00, 0x00] }
  profile := .mokey
  identity := some .mokey
  width := .reported 32
  keyTable := .mokey
  window := .blank 32 .iso

/-- With reads of one byte each, and with reads that bring all there is. -/
theorem Display.pollOut_exhausts_halfRead :
    let w : World Unit := { plant := { now := 0, running := true, state := () } }
    let queue : ScriptedChannel → Plant Unit → List UInt8 := fun c _ => c.inbound
    let events := [.routingKeyPress 5, .navigationKeySet 0x80006000]
    halfRead.link.closed = false ∧ halfRead.link.channel.Ready
      ∧ (halfRead.inReadsOf (some 0)).PollsOut ScriptedChannel.transport queue w events
      ∧ halfRead.PollsOut ScriptedChannel.transport queue w events := by
  intro w queue events
  have ready : halfRead.link.channel.Ready := ⟨rfl, rfl, by decide⟩
  have found : (halfRead.link.decoder.frames
      (halfRead.link.pending ++ halfRead.link.channel.inbound)).flatMap Frame.reported = events := by
    decide
  refine ⟨rfl, ready, ?_, ?_⟩
  · rw [← found]
    exact pollOut_exhausts.2 halfRead w (some 0) rfl rfl rfl
  · rw [← found]
    exact pollOut_exhausts.1 ScriptedChannel.handsOver halfRead w rfl ready

end BrailleDisplay
