import BrailleDisplay.Proofs.Text.Utf8
import BrailleDisplay.Text.Letter

/-!
# How texts begin

Whether a text begins with another is decided on bytes: as many as the other text has are cut off
and compared, unless they end inside a character.  In UTF-8 this test of the place of the cut is
right and costs nothing: the bytes of whole characters can only be the first bytes of a text if they
end between two of its characters.

* `encodeChar_cases` — the bytes of one character, as far as this matters;
* `map_foldByte_utf8` — folding the letters of a text is folding them in its bytes;
* `isBoundary_iff` — the byte at an offset tells whether a character begins there;
* `BeginsAlike`, `beginsIgnoringCase_iff` — the answer, in terms of bytes;
* `Compared` — the answer and the place of the cut, for any two texts.
-/

namespace BrailleDisplay.Text

/-! ## Bytes of characters -/

/-- The bytes of a character: one for an ASCII character, and else a first byte from C0 on with
bytes from 80 to BF behind it. -/
theorem encodeChar_cases (c : Char) :
    (c.toNat < 0x80 ∧ String.utf8EncodeChar c = [UInt8.ofNat c.toNat])
      ∨ 0x80 ≤ c.toNat ∧ ∃ first more, String.utf8EncodeChar c = first :: more
        ∧ 0xC0 ≤ first.toNat ∧ ∀ b ∈ more, 0x80 ≤ b.toNat ∧ b.toNat < 0xC0 := by
  have valid : c.toNat < 0xD800 ∨ 0xDFFF < c.toNat ∧ c.toNat < 0x110000 := c.valid
  have byte {k : Nat} (small : k < 256) : (UInt8.ofNat k).toNat = k :=
    UInt8.toNat_ofNat_of_lt' small
  have leads {k : Nat} (leading : 0xC0 ≤ k) (small : k < 256) : 0xC0 ≤ (UInt8.ofNat k).toNat := by
    rwa [byte small]
  have follows (k : Nat) : 0x80 ≤ (UInt8.ofNat (k % 0x40 + 0x80)).toNat
      ∧ (UInt8.ofNat (k % 0x40 + 0x80)).toNat < 0xC0 := by
    rw [byte (by omega)]
    omega
  unfold String.utf8EncodeChar
  rw [show c.val.toNat = c.toNat from rfl]
  generalize c.toNat = n at valid
  dsimp only
  split
  · next one => exact .inl ⟨by omega, rfl⟩
  · split
    · next two =>
      refine .inr ⟨by omega, _, _, rfl, leads (by omega) (by omega), ?_⟩
      simp only [List.mem_singleton, forall_eq]
      exact follows _
    · split
      · next three =>
        refine .inr ⟨by omega, _, _, rfl, leads (by omega) (by omega), ?_⟩
        simp only [List.mem_cons, List.not_mem_nil, or_false, forall_eq_or_imp, forall_eq]
        exact ⟨follows _, follows _⟩
      · next four =>
        refine .inr ⟨by omega, _, _, rfl, leads (by omega) (by omega), ?_⟩
        simp only [List.mem_cons, List.not_mem_nil, or_false, forall_eq_or_imp, forall_eq]
        exact ⟨follows _, follows _, follows _⟩

/-! ## Folded letters -/

/-- A byte, with the letters `A` to `Z` in lower case and all else untouched. -/
def foldByte (b : UInt8) : UInt8 :=
  if 0x41 ≤ b ∧ b ≤ 0x5A then b + 0x20 else b

theorem foldByte_of_high {b : UInt8} (high : 0x80 ≤ b.toNat) : foldByte b = b := by
  have outside : ¬(0x41 ≤ b ∧ b ≤ 0x5A) := by
    rintro ⟨-, below⟩
    have := UInt8.le_iff_toNat_le.mp below
    have : (0x5A : UInt8).toNat = 0x5A := rfl
    omega
  rw [foldByte, if_neg outside]

theorem toLower_of_high {c : Char} (high : 0x80 ≤ c.toNat) : c.toLower = c := by
  have outside : ¬(c.val ≥ 'A'.val ∧ c.val ≤ 'Z'.val) := by
    rintro ⟨-, below⟩
    have : c.toNat ≤ 90 := UInt32.le_iff_toNat_le.mp below
    omega
  exact dif_neg outside

/-- What holds of each ASCII character and of each other holds of all; the first may be decided. -/
theorem forall_char {P : Char → Prop} (ascii : ∀ n < 128, P (Char.ofNat n))
    (high : ∀ c : Char, 0x80 ≤ c.toNat → P c) (c : Char) : P c := by
  rcases Nat.lt_or_ge c.toNat 0x80 with small | large
  · have here := ascii c.toNat small
    rwa [Char.ofNat_toNat] at here
  · exact high c large

/-- Each ASCII character by itself. -/
theorem foldByte_ascii : ∀ n < 128,
    [foldByte (UInt8.ofNat n)] = String.utf8EncodeChar (Char.ofNat n).toLower := by
  decide

/-- Folding a character is folding its bytes. -/
theorem map_foldByte_encodeChar (c : Char) :
    (String.utf8EncodeChar c).map foldByte = String.utf8EncodeChar c.toLower := by
  rcases encodeChar_cases c with ⟨ascii, bytes⟩ | ⟨high, first, more, bytes, begins, continues⟩
  · have folded := foldByte_ascii c.toNat ascii
    rw [Char.ofNat_toNat] at folded
    rw [bytes]
    exact folded
  · rw [toLower_of_high high, bytes, List.map_cons, foldByte_of_high (by omega)]
    have same : more.map foldByte = more.map id :=
      List.map_congr_left fun b among => foldByte_of_high (continues b among).1
    rw [same, List.map_id]

/-- **Folding a text is folding its bytes.** -/
theorem map_foldByte_utf8 (s : String) : (utf8 s).map foldByte = utf8 (asciiLower s) := by
  simp [utf8, asciiLower, List.map_flatMap, List.flatMap_map, map_foldByte_encodeChar]

theorem length_utf8_asciiLower (s : String) : (utf8 (asciiLower s)).length = (utf8 s).length := by
  rw [← map_foldByte_utf8, List.length_map]

theorem utf8_inj {a b : String} : utf8 a = utf8 b ↔ a = b := by
  refine ⟨fun same => ?_, congrArg utf8⟩
  have read := congrArg decodeLossy same
  rwa [utf8, utf8, decodeLossy_encode, decodeLossy_encode, String.ofList_toList,
    String.ofList_toList] at read

/-- **Texts are equal up to the case of ASCII letters when their bytes are.** -/
theorem sameIgnoringCase_iff_bytes {a b : String} :
    sameIgnoringCase a b = true ↔ (utf8 a).map foldByte = (utf8 b).map foldByte := by
  rw [sameIgnoringCase_iff, map_foldByte_utf8, map_foldByte_utf8, utf8_inj]

/-! ## Places between characters -/

/-- The first of a character's bytes begins it, and the others do not. -/
theorem encodeChar_begins (c : Char) :
    ∃ first more, String.utf8EncodeChar c = first :: more ∧ beginsCharacter first = true
      ∧ ∀ b ∈ more, beginsCharacter b = false := by
  have begins (b : UInt8) : beginsCharacter b = true ↔ b.toNat < 0x80 ∨ 0xC0 ≤ b.toNat := by
    simp only [beginsCharacter, Bool.or_eq_true, decide_eq_true_eq, UInt8.lt_iff_toNat_lt,
      UInt8.le_iff_toNat_le]
    rfl
  rcases encodeChar_cases c with ⟨ascii, bytes⟩ | ⟨-, first, more, bytes, leads, continues⟩
  · have value : (UInt8.ofNat c.toNat).toNat = c.toNat :=
      UInt8.toNat_ofNat_of_lt' (Nat.lt_trans ascii (by decide))
    refine ⟨_, [], bytes, (begins _).mpr (.inl (by omega)), ?_⟩
    simp
  · refine ⟨first, more, bytes, (begins first).mpr (.inr leads), fun b among => ?_⟩
    have := continues b among
    rw [Bool.eq_false_iff, Ne, begins b]
    omega

theorem isBoundary_eq_true {text : String} {offset : Nat} :
    isBoundary text offset = true ↔ offset = 0 ∨ offset = (utf8 text).length
      ∨ ∃ b, (utf8 text)[offset]? = some b ∧ beginsCharacter b = true := by
  unfold isBoundary
  by_cases start : offset = 0
  · simp [start]
  cases here : (utf8 text)[offset]? with
  | none => simp [start]
  | some b =>
    have inside := (List.getElem?_eq_some_iff.mp here).1
    simp [start, Nat.ne_of_lt inside]

/-- An offset where a character begins, or at an end, falls between characters. -/
theorem exists_split {chars : List Char} {offset : Nat}
    (place : offset = 0 ∨ offset = (chars.flatMap String.utf8EncodeChar).length
      ∨ ∃ b, (chars.flatMap String.utf8EncodeChar)[offset]? = some b
        ∧ beginsCharacter b = true) :
    ∃ front back, chars = front ++ back
      ∧ (front.flatMap String.utf8EncodeChar).length = offset := by
  induction chars generalizing offset with
  | nil =>
    refine ⟨[], [], rfl, ?_⟩
    rcases place with start | whole | ⟨b, here, -⟩
    · exact start.symm
    · exact whole.symm
    · cases here
  | cons c rest ih =>
    by_cases start : offset = 0
    · exact ⟨[], c :: rest, rfl, start.symm⟩
    obtain ⟨first, more, bytes, -, continues⟩ := encodeChar_begins c
    rw [List.flatMap_cons, bytes] at place
    have behind : (first :: more).length ≤ offset := by
      -- inside a character there are only bytes that begin none
      refine Nat.le_of_not_lt fun inside => ?_
      rcases place with atStart | whole | ⟨b, here, begins⟩
      · exact start atStart
      · rw [List.length_append] at whole
        omega
      · rw [List.getElem?_append_left (by omega)] at here
        obtain ⟨before, rfl⟩ := Nat.exists_eq_succ_of_ne_zero start
        have among : b ∈ more := List.mem_of_getElem? here
        rw [continues b among] at begins
        cases begins
    have further : offset - (first :: more).length = (rest.flatMap String.utf8EncodeChar).length
        ∨ ∃ b, (rest.flatMap String.utf8EncodeChar)[offset - (first :: more).length]? = some b
          ∧ beginsCharacter b = true := by
      rcases place with atStart | whole | ⟨b, here, begins⟩
      · exact absurd atStart start
      · rw [List.length_append] at whole
        exact .inl (by omega)
      · rw [List.getElem?_append_right behind] at here
        exact .inr ⟨b, here, begins⟩
    obtain ⟨front, back, split, size⟩ := ih (.inr further)
    refine ⟨c :: front, back, by rw [split]; rfl, ?_⟩
    rw [List.flatMap_cons, bytes, List.length_append, size]
    omega

/-- **The byte at an offset tells whether the offset falls between two characters.** -/
theorem isBoundary_iff {text : String} {offset : Nat} :
    isBoundary text offset = true ↔ ∃ front back, text.toList = front ++ back
      ∧ (front.flatMap String.utf8EncodeChar).length = offset := by
  rw [isBoundary_eq_true]
  constructor
  · exact exists_split
  · rintro ⟨front, back, split, rfl⟩
    rw [utf8, split, List.flatMap_append]
    cases back with
    | nil => exact .inr (.inl (by simp))
    | cons c rest =>
      obtain ⟨first, more, bytes, begins, -⟩ := encodeChar_begins c
      refine .inr (.inr ⟨first, ?_, begins⟩)
      rw [List.getElem?_append_right (Nat.le_refl _), Nat.sub_self, List.flatMap_cons, bytes]
      rfl

/-! ## Cutting and comparing -/

theorem wholeCharacters?_append (front back : List Char) :
    wholeCharacters? (front.flatMap String.utf8EncodeChar).length (front ++ back) = some front := by
  induction front with
  | nil => cases back <;> rfl
  | cons c rest ih =>
    have positive := c.utf8Size_pos
    rw [List.flatMap_cons, List.length_append, String.length_utf8EncodeChar, List.cons_append,
      wholeCharacters?, if_neg (by omega), if_neg (by omega), Nat.add_sub_cancel_left, ih]
    rfl

/-- **Between characters a text can be cut**, and what is cut off are the bytes before. -/
theorem exists_firstBytes? {text : String} {size : Nat} (boundary : isBoundary text size = true) :
    ∃ front, firstBytes? text size = some front ∧ utf8 front = (utf8 text).take size := by
  obtain ⟨front, back, split, rfl⟩ := isBoundary_iff.mp boundary
  refine ⟨String.ofList front, ?_, ?_⟩
  · rw [firstBytes?, split, wholeCharacters?_append]
    rfl
  · rw [utf8, utf8, String.toList_ofList, split, List.flatMap_append, List.take_left]

/-- The first bytes of a text are those of another, as many as that has, up to the case of ASCII
letters. -/
def BeginsAlike (text start : String) : Prop :=
  ((utf8 text).take (utf8 start).length).map foldByte = (utf8 start).map foldByte

/-- The text begins with as many characters as the start has, and these are alike. -/
theorem BeginsAlike.exists_split {text start : String} (alike : BeginsAlike text start) :
    ∃ front back, text.toList = front ++ back
      ∧ front.map Char.toLower = start.toList.map Char.toLower := by
  -- in bytes, the folded text is the folded start and others behind it; so it is in characters
  have bytes : utf8 (asciiLower text) = utf8 (asciiLower start)
      ++ (utf8 (asciiLower text)).drop (utf8 start).length := by
    rw [← map_foldByte_utf8 start, ← alike, List.map_take, map_foldByte_utf8,
      List.take_append_drop]
  have whole (s : String) :
      utf8 (asciiLower s) = (s.toList.map Char.toLower).flatMap String.utf8EncodeChar := by
    rw [utf8, asciiLower, String.toList_ofList]
  have read := congrArg (decodeFrom none) bytes
  rw [whole start, decodeFrom_encode_append, whole text,
    ← List.append_nil ((text.toList.map Char.toLower).flatMap String.utf8EncodeChar),
    decodeFrom_encode_append] at read
  obtain ⟨front, back, split, same, -⟩ := List.map_eq_append_iff.mp
    ((List.append_nil _).symm.trans read)
  exact ⟨front, back, split, same⟩

/-- **The bytes of whole characters can only be the first bytes of a text if they end between two of
its characters.** -/
theorem BeginsAlike.isBoundary {text start : String} (alike : BeginsAlike text start) :
    isBoundary text (utf8 start).length = true := by
  obtain ⟨front, back, split, same⟩ := alike.exists_split
  refine isBoundary_iff.mpr ⟨front, back, split, ?_⟩
  have folded : asciiLower (String.ofList front) = asciiLower start := by
    rw [asciiLower, String.toList_ofList, same, asciiLower]
  rw [← length_utf8_asciiLower start, ← folded, length_utf8_asciiLower, utf8, String.toList_ofList]

/-- **Whether a text begins with another is told by its first bytes.** -/
theorem beginsIgnoringCase_iff {text start : String} :
    beginsIgnoringCase text start = true ↔ BeginsAlike text start := by
  unfold beginsIgnoringCase
  simp only [Bool.and_eq_true, decide_eq_true_eq]
  constructor
  · rintro ⟨⟨-, boundary⟩, same⟩
    obtain ⟨front, cut, bytes⟩ := exists_firstBytes? boundary
    rw [cut, Option.any_some, sameIgnoringCase_iff_bytes, bytes] at same
    exact same
  · intro alike
    have boundary := alike.isBoundary
    obtain ⟨front, cut, bytes⟩ := exists_firstBytes? boundary
    have long : (utf8 start).length ≤ (utf8 text).length := by
      have sizes := congrArg List.length alike
      rw [List.length_map, List.length_map, List.length_take] at sizes
      omega
    refine ⟨⟨long, boundary⟩, ?_⟩
    rw [cut, Option.any_some, sameIgnoringCase_iff_bytes, bytes]
    exact alike

/-- How the beginning of a text is compared with another: the answer is that of their bytes, and the
test of the place of the cut does no harm and is enough. -/
structure Compared (text start : String) : Prop where
  begins : beginsIgnoringCase text start = true ↔ BeginsAlike text start
  /-- No text that begins so is turned away for the place of the cut. -/
  harmless : BeginsAlike text start → isBoundary text (utf8 start).length = true
  /-- Wherever the cut is let through, it leaves a text. -/
  enough : isBoundary text (utf8 start).length = true →
    ∃ front, firstBytes? text (utf8 start).length = some front
      ∧ utf8 front = (utf8 text).take (utf8 start).length

theorem compared (text start : String) : Compared text start where
  begins := beginsIgnoringCase_iff
  harmless := BeginsAlike.isBoundary
  enough := exists_firstBytes?

end BrailleDisplay.Text
