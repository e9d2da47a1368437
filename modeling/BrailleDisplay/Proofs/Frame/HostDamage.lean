import BrailleDisplay.Proofs.Frame.HostCodec

/-!
# Frames to the display that do not arrive as they were sent

What reading makes of a written frame when its end is missing, when more bytes follow it, and when
one of its bytes is another.

* `Reader.Wants` — a reading that needs certain bytes first, and says so as long as it lacks the
  last of them; such readings can be put together (`Wants.bind`), and there is one lemma for each
  reading operation;
* `HostFrame.parse_wants` — reading a frame wants the bytes that were written;
* `HostFrame.parse_delimits` — so it notices what is missing and what is too much, and no written
  frame begins another;
* `DifferOnce` — byte strings of one length that differ in one place, which their checksums tell
  apart (`DifferOnce.checksum_ne`), so that bytes closed with their checksum never do
  (`DifferOnce.not_sealed`);
* `HostFrame.parse_detects` — no frame is read from a written one with one byte changed.
-/

namespace BrailleDisplay

/-! ## Bytes that are missing -/

namespace Reader

variable {α ρ : Type}

/-- At a place of a buffer a reading takes these bytes and then goes on as `onward`.  If the last of
them are missing, all it answers is how many bytes the buffer has and how many it would need: more,
but no more than up to the end of these. -/
structure Wants (c : Reader) (bytes : List UInt8) (reading : Except FrameFault ρ)
    (onward : Reader → Except FrameFault ρ) : Prop where
  whole : ∀ next, c.Past bytes next → reading = onward next
  short : ∀ missing, missing ≠ [] → bytes = c.rest ++ missing →
    ∃ needed, reading = .error (.truncated needed (c.offset + c.rest.length))
      ∧ c.offset + c.rest.length < needed ∧ needed ≤ c.offset + bytes.length

/-- Nothing is taken by what has yet to begin. -/
theorem Wants.nil (c : Reader) (onward : Reader → Except FrameFault ρ) :
    c.Wants [] (onward c) onward where
  whole next past := by
    obtain ⟨offset, rest⟩ := c
    obtain ⟨offset', rest'⟩ := next
    obtain ⟨same, after⟩ : rest = rest' ∧ offset' = offset := past
    rw [same, after]
  short missing some_missing cut :=
    absurd (List.append_eq_nil_iff.mp cut.symm).2 some_missing

/-- A reading that goes on with another takes the bytes of both. -/
theorem Wants.trans {c : Reader} {front back : List UInt8} {reading : Except FrameFault ρ}
    {between onward : Reader → Except FrameFault ρ} (first : c.Wants front reading between)
    (second : ∀ next, c.Past front next → next.Wants back (between next) onward) :
    c.Wants (front ++ back) reading onward where
  whole next past := by
    obtain ⟨mid, past₁, past₂⟩ := past_append_iff.mp past
    rw [first.whole mid past₁]
    exact (second mid past₁).whole next past₂
  short missing some_missing cut := by
    have behind (part : List UInt8) (rest : c.rest = front ++ part)
        (left : back = part ++ missing) :
        ∃ needed, reading = .error (.truncated needed (c.offset + c.rest.length))
          ∧ c.offset + c.rest.length < needed ∧ needed ≤ c.offset + (front ++ back).length := by
      have past : c.Past front ⟨c.offset + front.length, part⟩ := ⟨rest, rfl⟩
      obtain ⟨needed, refused, more, most⟩ := (second _ past).short missing some_missing left
      have size : c.offset + front.length + part.length = c.offset + c.rest.length := by
        rw [rest, List.length_append, Nat.add_assoc]
      simp only [size] at refused more
      refine ⟨needed, (first.whole _ past).trans refused, more, ?_⟩
      rw [List.length_append, ← Nat.add_assoc]
      exact most
    -- the buffer ends behind the first bytes or among them
    rcases List.append_eq_append_iff.mp cut with ⟨part, rest, left⟩ | ⟨part, split, left⟩
    · exact behind part rest left
    · by_cases none : part = []
      · rw [none, List.append_nil] at split
        rw [none, List.nil_append] at left
        exact behind [] (by rw [List.append_nil, split]) left.symm
      · obtain ⟨needed, refused, more, most⟩ := first.short part none split
        refine ⟨needed, refused, more, ?_⟩
        rw [List.length_append]
        omega

/-- What follows an answer goes on from it. -/
theorem Wants.andThen {c : Reader} {bytes : List UInt8} {reading : Except FrameFault α}
    {answer : Reader → α} (first : c.Wants bytes reading fun next => .ok (answer next))
    (onward : α → Except FrameFault ρ) :
    c.Wants bytes (reading >>= onward) fun next => onward (answer next) where
  whole next past := by
    rw [first.whole next past]
    rfl
  short missing some_missing cut := by
    obtain ⟨needed, refused, bounds⟩ := first.short missing some_missing cut
    rw [refused]
    exact ⟨needed, rfl, bounds⟩

/-- **Readings one after the other** take the bytes of each, in their order. -/
theorem Wants.bind {c : Reader} {front back : List UInt8} {reading : Except FrameFault α}
    {answer : Reader → α} {onward : α → Except FrameFault ρ} {last : Reader → Except FrameFault ρ}
    (first : c.Wants front reading fun next => .ok (answer next))
    (second : ∀ next, c.Past front next → next.Wants back (onward (answer next)) last) :
    c.Wants (front ++ back) (reading >>= onward) last :=
  (first.andThen onward).trans second

theorem byte_wants (c : Reader) (b : UInt8) :
    c.Wants [b] c.byte fun next => .ok (b, next) where
  whole next past := byte_eq_ok_iff.mpr past
  short missing some_missing cut := by
    obtain ⟨offset, rest⟩ := c
    cases rest with
    | nil => exact ⟨offset + 1, rfl, Nat.lt_succ_self offset, Nat.le_refl _⟩
    | cons first rest =>
      have sizes := congrArg List.length cut
      have size := List.length_pos_iff.mpr some_missing
      simp only [List.length_append, List.length_cons, List.length_nil] at sizes
      omega

theorem word_wants (c : Reader) (low high : UInt8) :
    c.Wants [low, high] c.word fun next => .ok (low.toNat + 256 * high.toNat, next) where
  whole next past := word_eq_ok_iff.mpr ⟨low, high, rfl, past⟩
  short missing some_missing cut := by
    have sizes := congrArg List.length cut
    have size := List.length_pos_iff.mpr some_missing
    simp only [List.length_append, List.length_cons, List.length_nil] at sizes
    have few : c.rest.length < 2 := by omega
    refine ⟨c.offset + 2, ?_, by omega, Nat.le_refl _⟩
    obtain ⟨offset, rest⟩ := c
    match rest, few with
    | [], _ => rfl
    | [_], _ => rfl

theorem take_wants (c : Reader) (bytes : List UInt8) :
    c.Wants bytes (c.take bytes.length) fun next => .ok (bytes, next) where
  whole next past := take_eq_ok_iff.mpr ⟨rfl, past⟩
  short missing some_missing cut := by
    have size := List.length_pos_iff.mpr some_missing
    have few : c.rest.length < bytes.length := by
      rw [cut, List.length_append]
      omega
    exact ⟨c.offset + bytes.length, if_pos few, by omega, Nat.le_refl _⟩

theorem marker_wants (c : Reader) (expected : UInt8) :
    c.Wants [expected] (c.marker expected) .ok := by
  refine (byte_wants c expected).bind fun next _ => ?_
  show next.Wants [] (if expected = expected then pure next else _) .ok
  rw [if_pos rfl]
  exact .nil next .ok

theorem markers_wants (c : Reader) (expected : UInt8) (n : Nat) :
    c.Wants (List.replicate n expected) (c.markers expected n) .ok := by
  induction n generalizing c with
  | zero => exact .nil c .ok
  | succ n ih => exact (marker_wants c expected).bind fun next _ => ih next

theorem dataSection_wants (c : Reader) (start stop : UInt8) {data size : List UInt8}
    (counted : sectionLength? data = .ok size) :
    c.Wants ([start] ++ (size ++ (data ++ [stop]))) (c.dataSection start stop)
      fun next => .ok (data, next) := by
  obtain ⟨low, high, value, rfl⟩ := sectionLength?_eq_ok_iff.mp counted
  refine (marker_wants c start).bind fun c₁ _ => ?_
  refine (word_wants c₁ low high).bind fun c₂ _ => ?_
  simp only [value]
  refine (take_wants c₂ data).bind fun c₃ _ => ?_
  exact (marker_wants c₃ stop).andThen _

end Reader

namespace HostFrame

/-- What is still to be done when a frame has been read to its closing pair: nothing may follow, and
the checksum it carries must be that of the buffer. -/
def concluding (f : HostFrame) (buffer : List UInt8) (carried : UInt8) (c : Reader) :
    Except FrameFault HostFrame := do
  if c.rest ≠ [] then throw (.trailingBytes c.rest.length)
  let computed := checksum buffer - carried
  if computed ≠ carried then throw (.checksumMismatch computed carried)
  return f

/-- **Reading a frame wants the bytes that were written**, whatever the buffer is. -/
theorem parse_wants {f : HostFrame} {bytes : List UInt8} (written : f.encode = .ok bytes)
    (buffer : List UInt8) :
    ∃ carried, Reader.Wants ⟨0, buffer⟩ bytes (parse buffer) (f.concluding buffer carried) := by
  obtain ⟨size₁, size₂, h₁, h₂, rfl⟩ := encode_eq_ok_iff.mp written
  generalize checksum (f.beforeCheck size₁ size₂ ++ [Marker.closing, Marker.closing]) = carried
  refine ⟨carried, ?_⟩
  rw [layout_eq]
  unfold parse
  refine (Reader.byte_wants _ f.command).bind fun c₁ _ => ?_
  refine (Reader.byte_wants c₁ f.command).bind fun c₂ _ => ?_
  dsimp only
  rw [if_neg (not_not_intro rfl)]
  refine (Reader.byte_wants c₂ f.mode).bind fun c₃ _ => ?_
  refine (Reader.dataSection_wants c₃ _ _ h₁).bind fun c₄ _ => ?_
  refine (Reader.dataSection_wants c₄ _ _ h₂).bind fun c₅ _ => ?_
  refine (Reader.markers_wants c₅ 0 zeroRun).bind fun c₆ _ => ?_
  refine (Reader.byte_wants c₆ _).bind fun c₇ _ => ?_
  exact (Reader.markers_wants c₇ Marker.closing 2).andThen _

/-- **Written frames delimit themselves.**  Of every part of one that stops short, reading says that
it is truncated, how long it is, and a longer length that it would need at least, up to that of the
frame; of bytes that go on behind one, it says how many are too many.  So no written frame begins
another. -/
theorem parse_delimits {f : HostFrame} {bytes : List UInt8} (written : f.encode = .ok bytes) :
    (∀ k < bytes.length, ∃ needed, parse (bytes.take k) = .error (.truncated needed k)
        ∧ k < needed ∧ needed ≤ bytes.length)
      ∧ (∀ more, more ≠ [] → parse (bytes ++ more) = .error (.trailingBytes more.length))
      ∧ ∀ other longer, HostFrame.encode other = .ok longer → bytes <+: longer →
          longer = bytes := by
  have trailing (more : List UInt8) (some_more : more ≠ []) :
      parse (bytes ++ more) = .error (.trailingBytes more.length) := by
    obtain ⟨carried, wants⟩ := parse_wants written (bytes ++ more)
    rw [wants.whole ⟨0 + bytes.length, more⟩ ⟨rfl, rfl⟩]
    exact if_pos some_more
  refine ⟨?_, trailing, ?_⟩
  · intro k less
    obtain ⟨carried, wants⟩ := parse_wants written (bytes.take k)
    have some_missing : bytes.drop k ≠ [] := by
      intro none
      have all := List.drop_eq_nil_iff.mp none
      omega
    have size : 0 + (bytes.take k).length = k := by
      rw [List.length_take]
      omega
    obtain ⟨needed, refused, more, most⟩ :=
      wants.short _ some_missing (List.take_append_drop k bytes).symm
    simp only [size] at refused more
    rw [Nat.zero_add] at most
    exact ⟨needed, refused, more, most⟩
  · intro other longer written' begins
    obtain ⟨more, rfl⟩ := begins
    by_cases none : more = []
    · rw [none, List.append_nil]
    · -- what the longer one reads as is a frame, and not an excess
      have read := parse_eq_ok_iff.mpr (encode_eq_ok_iff.mp written')
      rw [trailing more none] at read
      cases read

/-- A frame with the inside of another in its first section: with a shorter length it would end the
section early, and the second would begin with what is left of the first. -/
def nested : HostFrame where
  command := 0xFC
  mode := 0x01
  data1 := [0xAA, 0xF1, 0xF2, 0x04, 0x00]

/-- The bytes of the frame. -/
def nestedBytes : List UInt8 :=
  [0xFC, 0xFC, 0x01, 0xF0, 0x05, 0x00, 0xAA, 0xF1, 0xF2, 0x04, 0x00, 0xF1, 0xF2, 0x00, 0x00, 0xF3,
    0x00, 0x00, 0x00, 0x00, 0x4F, 0xFD, 0xFD]

theorem parse_delimits_nested :
    nested.encode = .ok nestedBytes
      ∧ (∀ k < nestedBytes.length,
          ∃ needed, parse (nestedBytes.take k) = .error (.truncated needed k)
            ∧ k < needed ∧ needed ≤ nestedBytes.length)
      ∧ parse (nestedBytes ++ nestedBytes) = .error (.trailingBytes 23)
      ∧ ∀ other longer, HostFrame.encode other = .ok longer → nestedBytes <+: longer →
          longer = nestedBytes := by
  have written : nested.encode = .ok nestedBytes := rfl
  obtain ⟨short, long, alone⟩ := parse_delimits written
  exact ⟨written, short, long nestedBytes (by decide), alone⟩

end HostFrame

/-! ## A byte that is another -/

/-- Byte strings of one length that differ in exactly one place. -/
inductive DifferOnce : List UInt8 → List UInt8 → Prop where
  /-- They differ in the first byte and agree in the others. -/
  | here {b b' : UInt8} {rest : List UInt8} (differ : b ≠ b') : DifferOnce (b :: rest) (b' :: rest)
  /-- They agree in the first byte. -/
  | later {b : UInt8} {rest rest' : List UInt8} (once : DifferOnce rest rest') :
    DifferOnce (b :: rest) (b :: rest')

namespace DifferOnce

variable {bytes bytes' : List UInt8}

theorem length_eq (once : DifferOnce bytes bytes') : bytes.length = bytes'.length := by
  induction once with
  | here _ => rfl
  | later _ ih => exact congrArg (· + 1) ih

theorem append_right (once : DifferOnce bytes bytes') (back : List UInt8) :
    DifferOnce (bytes ++ back) (bytes' ++ back) := by
  induction once with
  | here differ => exact .here differ
  | later _ ih => exact .later ih

/-- Nothing differs from itself. -/
theorem ne (once : DifferOnce bytes bytes') : bytes ≠ bytes' := by
  induction once with
  | here differ =>
    intro same
    exact differ (List.cons.inj same).1
  | later _ ih =>
    intro same
    exact ih (List.cons.inj same).2

/-- **Checksums tell them apart**: no sum of bytes survives a change in one of them. -/
theorem checksum_ne (once : DifferOnce bytes bytes') : checksum bytes ≠ checksum bytes' := by
  induction once with
  | @here b b' rest differ =>
    intro same
    exact differ ((UInt8.add_left_inj (checksum rest)).mp same)
  | @later b rest rest' _ ih =>
    intro same
    exact ih ((UInt8.add_right_inj b).mp same)

/-- On one side of every place they differ, and on the other they agree. -/
theorem split {back back' : List UInt8} (size : bytes.length = bytes'.length)
    (once : DifferOnce (bytes ++ back) (bytes' ++ back')) :
    (DifferOnce bytes bytes' ∧ back = back') ∨ (bytes = bytes' ∧ DifferOnce back back') := by
  induction bytes generalizing bytes' with
  | nil =>
    obtain rfl := List.eq_nil_of_length_eq_zero size.symm
    exact .inr ⟨rfl, once⟩
  | cons b rest ih =>
    cases bytes' with
    | nil => cases size
    | cons b' rest' =>
      have sizes : rest.length = rest'.length := Nat.succ.inj size
      rw [List.cons_append, List.cons_append] at once
      generalize front : rest ++ back = whole at once
      generalize front' : rest' ++ back' = whole' at once
      cases once with
      | here differ =>
        obtain ⟨rfl, rfl⟩ := List.append_inj (front.trans front'.symm) sizes
        exact .inl ⟨.here differ, rfl⟩
      | later once =>
        rw [← front, ← front'] at once
        rcases ih sizes once with ⟨once, same⟩ | ⟨same, once⟩
        · exact .inl ⟨.later once, same⟩
        · exact .inr ⟨congrArg (b :: ·) same, once⟩

/-- Replacing a byte by another makes a difference, and a single one. -/
theorem of_set {place : Nat} {b : UInt8} (inside : place < bytes.length)
    (differs : bytes[place]? ≠ some b) : DifferOnce bytes (bytes.set place b) := by
  induction bytes generalizing place with
  | nil => simp at inside
  | cons first rest ih =>
    cases place with
    | zero => exact .here (by simpa using differs)
    | succ before => exact .later (ih (by simpa using inside) (by simpa using differs))

/-- Bytes closed with their checksum and an ending differ from others that are closed so in more
than one byte: be the difference before the checksum, in it, or behind it. -/
theorem not_sealed {front front' ending : List UInt8} :
    ¬DifferOnce (front ++ ([checksum (front ++ ending)] ++ ending))
      (front' ++ ([checksum (front' ++ ending)] ++ ending)) := by
  intro once
  have size : front.length = front'.length := by
    have sizes := once.length_eq
    simp only [List.length_append, List.length_singleton] at sizes
    omega
  rcases once.split size with ⟨once, same⟩ | ⟨rfl, once⟩
  · -- the checksums agree, but they are those of bytes that do not
    have sums := (List.cons.inj same).1
    exact (once.append_right _).checksum_ne sums
  · -- the checksums are of the same bytes, so nothing differs
    exact once.ne rfl

end DifferOnce

namespace HostFrame

/-- A written frame closes with its checksum, of all the bytes before it and of the closing pair,
and with that pair. -/
theorem sealed_of_encode {f : HostFrame} {bytes : List UInt8} (written : f.encode = .ok bytes) :
    ∃ front, bytes = front
      ++ ([checksum (front ++ [Marker.closing, Marker.closing])]
        ++ [Marker.closing, Marker.closing]) := by
  obtain ⟨size₁, size₂, -, -, rfl⟩ := encode_eq_ok_iff.mp written
  exact ⟨_, List.append_assoc _ _ _⟩

/-- Two written frames of one length differ in more than one byte. -/
theorem not_differOnce {f g : HostFrame} {bytes bytes' : List UInt8}
    (written : f.encode = .ok bytes) (written' : g.encode = .ok bytes') :
    ¬DifferOnce bytes bytes' := by
  obtain ⟨front, rfl⟩ := sealed_of_encode written
  obtain ⟨front', rfl⟩ := sealed_of_encode written'
  exact DifferOnce.not_sealed

/-- **A changed byte is noticed.**  A written frame reads as itself, and no bytes that differ from
it in one place, be it in the commands, a length, a marker, a section, the checksum or the closing
pair, read as any frame. -/
theorem parse_detects {f : HostFrame} {bytes : List UInt8} (written : f.encode = .ok bytes) :
    parse bytes = .ok f
      ∧ ∀ damaged, DifferOnce bytes damaged → ∃ fault, parse damaged = .error fault := by
  refine ⟨parse_eq_ok_iff.mpr (encode_eq_ok_iff.mp written), ?_⟩
  intro damaged once
  cases read : parse damaged with
  | error fault => exact ⟨fault, rfl⟩
  | ok g =>
    have written' := encode_eq_ok_iff.mpr (parse_eq_ok_iff.mp read)
    exact absurd once (not_differOnce written written')

/-- With 01 for the length 05 all markers are found in their places again, and yet no frame is
read. -/
theorem parse_detects_nested :
    let damaged := nestedBytes.set 4 0x01
    nested.encode = .ok nestedBytes ∧ parse nestedBytes = .ok nested
      ∧ DifferOnce nestedBytes damaged ∧ ∃ fault, parse damaged = .error fault := by
  intro damaged
  have written : nested.encode = .ok nestedBytes := rfl
  have once : DifferOnce nestedBytes damaged :=
    .later (.later (.later (.later (.here (by decide)))))
  obtain ⟨same, noticed⟩ := parse_detects written
  exact ⟨written, same, once, noticed damaged once⟩

end HostFrame

end BrailleDisplay
