import BrailleDisplay.Text.Utf8

/-!
# Reading UTF-8 back

Bytes that are UTF-8 are read as the text they encode, so two such sequences that are read alike are
the same.

* `firstByte_two`, `firstByte_three`, `firstByte_four`, `nextByte_continues` — what the bytes of one
  character do to the reader;
* `decodeFrom_encodeChar`, `decodeFrom_encode_append` — the bytes of characters are read as these
  characters, whatever follows;
* `decodeLossy_encode` — the bytes of a text are read as this text.
-/

namespace BrailleDisplay.Text

/-! ## Single bytes -/

/-- What a first byte gives, by its value. -/
theorem firstByte_eq (b : UInt8) :
    firstByte b =
      if b.toNat < 0x80 then ([Char.ofNat b.toNat], none)
      else if b.toNat < 0xC2 then ([replacementCharacter], none)
      else if b.toNat < 0xE0 then ([], some ⟨b.toNat - 0xC0, 1, 0x80, 0xBF⟩)
      else if b.toNat = 0xE0 then ([], some ⟨0, 2, 0xA0, 0xBF⟩)
      else if b.toNat = 0xED then ([], some ⟨b.toNat - 0xE0, 2, 0x80, 0x9F⟩)
      else if b.toNat < 0xF0 then ([], some ⟨b.toNat - 0xE0, 2, 0x80, 0xBF⟩)
      else if b.toNat = 0xF0 then ([], some ⟨0, 3, 0x90, 0xBF⟩)
      else if b.toNat < 0xF4 then ([], some ⟨b.toNat - 0xF0, 3, 0x80, 0xBF⟩)
      else if b.toNat = 0xF4 then ([], some ⟨b.toNat - 0xF0, 3, 0x80, 0x8F⟩)
      else ([replacementCharacter], none) := by
  simp only [firstByte, UInt8.lt_iff_toNat_lt, ← UInt8.toNat_inj]
  rfl

theorem firstByte_one {b : UInt8} {n : Nat} (value : b.toNat = n) (small : n < 0x80) :
    firstByte b = ([Char.ofNat n], none) := by
  rw [firstByte_eq, value, if_pos small]

/-- The first of two bytes. -/
theorem firstByte_two {b : UInt8} {lead : Nat} (value : b.toNat = lead + 0xC0) (low : 2 ≤ lead)
    (high : lead < 32) : firstByte b = ([], some ⟨lead, 1, 0x80, 0xBF⟩) := by
  rw [firstByte_eq, value, if_neg (by omega), if_neg (by omega), if_pos (by omega),
    Nat.add_sub_cancel]

/-- The first of three bytes; what it asks of the second leaves out shorter forms and surrogates. -/
theorem firstByte_three {b : UInt8} {lead : Nat} (tail : Nat) (value : b.toNat = lead + 0xE0)
    (high : lead < 16) (tight : tail < 64) (long : lead = 0 → 32 ≤ tail)
    (scalar : lead = 13 → tail < 32) :
    ∃ least greatest : UInt8, firstByte b = ([], some ⟨lead, 2, least, greatest⟩)
      ∧ least.toNat ≤ tail + 0x80 ∧ tail + 0x80 ≤ greatest.toNat := by
  rw [firstByte_eq, value, if_neg (by omega), if_neg (by omega), if_neg (by omega),
    Nat.add_sub_cancel]
  by_cases first : lead = 0
  · have bound := long first
    subst first
    exact ⟨0xA0, 0xBF, if_pos rfl, Nat.add_le_add_right bound 0x80,
      Nat.add_le_add_right (Nat.le_of_lt_succ tight) 0x80⟩
  rw [if_neg (by omega)]
  by_cases surrogate : lead = 13
  · have bound := scalar surrogate
    subst surrogate
    exact ⟨0x80, 0x9F, if_pos rfl, Nat.le_add_left _ _,
      Nat.add_le_add_right (Nat.le_of_lt_succ bound) 0x80⟩
  rw [if_neg (by omega), if_pos (by omega)]
  exact ⟨0x80, 0xBF, rfl, Nat.le_add_left _ _,
    Nat.add_le_add_right (Nat.le_of_lt_succ tight) 0x80⟩

/-- The first of four bytes; what it asks of the second leaves out shorter forms and numbers beyond
the last character. -/
theorem firstByte_four {b : UInt8} {lead : Nat} (tail : Nat) (value : b.toNat = lead + 0xF0)
    (high : lead ≤ 4) (tight : tail < 64) (long : lead = 0 → 16 ≤ tail)
    (bounded : lead = 4 → tail < 16) :
    ∃ least greatest : UInt8, firstByte b = ([], some ⟨lead, 3, least, greatest⟩)
      ∧ least.toNat ≤ tail + 0x80 ∧ tail + 0x80 ≤ greatest.toNat := by
  rw [firstByte_eq, value, if_neg (by omega), if_neg (by omega), if_neg (by omega),
    if_neg (by omega), if_neg (by omega), if_neg (by omega), Nat.add_sub_cancel]
  by_cases first : lead = 0
  · have bound := long first
    subst first
    exact ⟨0x90, 0xBF, if_pos rfl, Nat.add_le_add_right bound 0x80,
      Nat.add_le_add_right (Nat.le_of_lt_succ tight) 0x80⟩
  rw [if_neg (by omega)]
  by_cases last : lead = 4
  · have bound := bounded last
    subst last
    rw [if_neg (by omega)]
    exact ⟨0x80, 0x8F, if_pos rfl, Nat.le_add_left _ _,
      Nat.add_le_add_right (Nat.le_of_lt_succ bound) 0x80⟩
  rw [if_pos (by omega)]
  exact ⟨0x80, 0xBF, rfl, Nat.le_add_left _ _,
    Nat.add_le_add_right (Nat.le_of_lt_succ tight) 0x80⟩

/-- A byte in range continues a sequence. -/
theorem nextByte_continues {p : Pending} {b : UInt8} {tail : Nat} (value : b.toNat = tail + 0x80)
    (low : p.low.toNat ≤ tail + 0x80) (high : tail + 0x80 ≤ p.high.toNat) :
    nextByte (some p) b =
      if p.owed ≤ 1 then ([Char.ofNat (64 * p.code + tail)], none)
      else ([], some ⟨64 * p.code + tail, p.owed - 1, 0x80, 0xBF⟩) := by
  have inRange : p.low ≤ b ∧ b ≤ p.high := by
    simp only [UInt8.le_iff_toNat_le, value]
    exact ⟨low, high⟩
  unfold nextByte
  dsimp only
  rw [if_pos inRange, value, Nat.add_sub_cancel]

/-! ## Characters and texts -/

theorem decodeFrom_cons {p begun : Option Pending} {b : UInt8} {chars : List Char}
    (next : nextByte p b = (chars, begun)) (rest : List UInt8) :
    decodeFrom p (b :: rest) = chars ++ decodeFrom begun rest := by
  rw [decodeFrom, next]

theorem decodeFrom_first {begun : Option Pending} {b : UInt8} {chars : List Char}
    (first : firstByte b = (chars, begun)) (rest : List UInt8) :
    decodeFrom none (b :: rest) = chars ++ decodeFrom begun rest :=
  decodeFrom_cons (p := none) first rest

/-- A byte in range that is not the last. -/
theorem decodeFrom_continue {code owed tail : Nat} {low high b : UInt8}
    (value : b.toNat = tail + 0x80) (above : low.toNat ≤ tail + 0x80)
    (below : tail + 0x80 ≤ high.toNat) (more : 1 < owed) (rest : List UInt8) :
    decodeFrom (some ⟨code, owed, low, high⟩) (b :: rest)
      = decodeFrom (some ⟨64 * code + tail, owed - 1, 0x80, 0xBF⟩) rest := by
  have next := nextByte_continues (p := ⟨code, owed, low, high⟩) value above below
  rw [if_neg (Nat.not_le.mpr more)] at next
  exact decodeFrom_cons next rest

/-- The last byte of a character. -/
theorem decodeFrom_complete {code tail : Nat} {b : UInt8} (value : b.toNat = tail + 0x80)
    (tight : tail < 64) (rest : List UInt8) :
    decodeFrom (some ⟨code, 1, 0x80, 0xBF⟩) (b :: rest)
      = Char.ofNat (64 * code + tail) :: decodeFrom none rest := by
  have next := nextByte_continues (p := ⟨code, 1, 0x80, 0xBF⟩) value (Nat.le_add_left _ _)
    (Nat.add_le_add_right (Nat.le_of_lt_succ tight) 0x80)
  exact decodeFrom_cons next rest

/-- **The bytes of a character are read as this character.** -/
theorem decodeFrom_encodeChar (c : Char) (rest : List UInt8) :
    decodeFrom none (String.utf8EncodeChar c ++ rest) = c :: decodeFrom none rest := by
  have valid : c.toNat < 0xD800 ∨ 0xDFFF < c.toNat ∧ c.toNat < 0x110000 := c.valid
  have whole : Char.ofNat c.toNat = c := c.ofNat_toNat
  have byte {k : Nat} (small : k < 256) : (UInt8.ofNat k).toNat = k :=
    UInt8.toNat_ofNat_of_lt' small
  unfold String.utf8EncodeChar
  rw [show c.val.toNat = c.toNat from rfl]
  generalize c.toNat = n at valid whole ⊢
  dsimp only
  split
  · next one =>
    have first := firstByte_one (n := n) (byte (by omega)) (by omega)
    rw [List.singleton_append, decodeFrom_first first, List.singleton_append, whole]
  · split
    · next two =>
      have value : (UInt8.ofNat (n / 64 % 32 + 192)).toNat = n / 64 % 32 + 0xC0 := byte (by omega)
      have first := firstByte_two value (by omega) (by omega)
      have code : 64 * (n / 64 % 32) + n % 64 = n := by omega
      rw [List.cons_append, decodeFrom_first first, List.nil_append, List.singleton_append,
        decodeFrom_complete (byte (by omega)) (by omega), code, whole]
    · split
      · next three =>
        have value : (UInt8.ofNat (n / 4096 % 16 + 224)).toNat = n / 4096 % 16 + 0xE0 :=
          byte (by omega)
        obtain ⟨low, high, first, above, below⟩ := firstByte_three (n / 64 % 64) value (by omega)
          (by omega) (by omega) (by omega)
        have code : 64 * (64 * (n / 4096 % 16) + n / 64 % 64) + n % 64 = n := by omega
        rw [List.cons_append, decodeFrom_first first, List.nil_append, List.cons_append,
          decodeFrom_continue (byte (by omega)) above below (by omega), List.singleton_append,
          decodeFrom_complete (byte (by omega)) (by omega), code, whole]
      · next four =>
        have value : (UInt8.ofNat (n / 262144 % 8 + 240)).toNat = n / 262144 % 8 + 0xF0 :=
          byte (by omega)
        obtain ⟨low, high, first, above, below⟩ := firstByte_four (n / 4096 % 64) value (by omega)
          (by omega) (by omega) (by omega)
        have code :
            64 * (64 * (64 * (n / 262144 % 8) + n / 4096 % 64) + n / 64 % 64) + n % 64 = n := by
          omega
        have top : n / 64 % 64 + 0x80 ≤ (0xBF : UInt8).toNat :=
          Nat.add_le_add_right (Nat.le_of_lt_succ (Nat.mod_lt _ (by omega))) 0x80
        rw [List.cons_append, decodeFrom_first first, List.nil_append, List.cons_append,
          decodeFrom_continue (byte (by omega)) above below (by omega), List.cons_append,
          decodeFrom_continue (byte (by omega)) (Nat.le_add_left _ _) top (by omega),
          List.singleton_append, decodeFrom_complete (byte (by omega)) (by omega), code, whole]

/-- The bytes of characters are read as these characters, whatever follows them. -/
theorem decodeFrom_encode_append (chars : List Char) (rest : List UInt8) :
    decodeFrom none (chars.flatMap String.utf8EncodeChar ++ rest)
      = chars ++ decodeFrom none rest := by
  induction chars with
  | nil => rfl
  | cons c more ih =>
    rw [List.flatMap_cons, List.append_assoc, decodeFrom_encodeChar, ih]
    rfl

/-- The bytes are UTF-8: they encode some text. -/
def Encoded (bytes : List UInt8) : Prop :=
  ∃ chars : List Char, bytes = chars.flatMap String.utf8EncodeChar

/-- **The bytes of a text are read as this text.** -/
theorem decodeLossy_encode (chars : List Char) :
    decodeLossy (chars.flatMap String.utf8EncodeChar) = String.ofList chars := by
  have read := decodeFrom_encode_append chars []
  rw [List.append_nil] at read
  rw [decodeLossy, read]
  exact congrArg String.ofList (List.append_nil chars)

/-- Two texts that are read alike are encoded alike. -/
theorem Encoded.eq_of_decodeLossy_eq {bytes bytes' : List UInt8} (encoded : Encoded bytes)
    (encoded' : Encoded bytes') (alike : decodeLossy bytes = decodeLossy bytes') :
    bytes = bytes' := by
  obtain ⟨chars, rfl⟩ := encoded
  obtain ⟨chars', rfl⟩ := encoded'
  rw [decodeLossy_encode, decodeLossy_encode, String.ofList_inj] at alike
  rw [alike]

end BrailleDisplay.Text
