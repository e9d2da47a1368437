/-!
# UTF-8 read with replacement

The system names devices by bytes that are mostly, but not surely, UTF-8.  `decodeLossy` reads them
as text: every well-formed sequence is its character, and every ill-formed one is one REPLACEMENT
CHARACTER — the longest beginning of a well-formed sequence, or else a single byte.

The reader keeps a `Pending` sequence between bytes; a byte that cannot continue it closes it as
ill-formed and is looked at again as a first byte.
-/

namespace BrailleDisplay.Text

/-- A sequence that has begun and lacks bytes. -/
structure Pending where
  /-- The bits of the code point so far. -/
  code : Nat
  /-- The bytes still owed, one at least. -/
  owed : Nat
  /-- The least value of the next byte. -/
  low : UInt8
  /-- The greatest value of the next byte. -/
  high : UInt8
  deriving DecidableEq, Repr

/-- The character for an ill-formed sequence. -/
def replacementCharacter : Char := '\ufffd'

/-- What a first byte gives: characters at once, or a sequence that has begun. -/
def firstByte (b : UInt8) : List Char × Option Pending :=
  let n := b.toNat
  if b < 0x80 then ([Char.ofNat n], none)
  else if b < 0xC2 then ([replacementCharacter], none)
  else if b < 0xE0 then ([], some ⟨n - 0xC0, 1, 0x80, 0xBF⟩)
  else if b = 0xE0 then ([], some ⟨0, 2, 0xA0, 0xBF⟩)
  else if b = 0xED then ([], some ⟨n - 0xE0, 2, 0x80, 0x9F⟩)
  else if b < 0xF0 then ([], some ⟨n - 0xE0, 2, 0x80, 0xBF⟩)
  else if b = 0xF0 then ([], some ⟨0, 3, 0x90, 0xBF⟩)
  else if b < 0xF4 then ([], some ⟨n - 0xF0, 3, 0x80, 0xBF⟩)
  else if b = 0xF4 then ([], some ⟨n - 0xF0, 3, 0x80, 0x8F⟩)
  else ([replacementCharacter], none)

/-- What the next byte gives after `pending`. -/
def nextByte (pending : Option Pending) (b : UInt8) : List Char × Option Pending :=
  match pending with
  | none => firstByte b
  | some p =>
    if p.low ≤ b ∧ b ≤ p.high then
      let code := 64 * p.code + (b.toNat - 0x80)
      if p.owed ≤ 1 then ([Char.ofNat code], none)
      else ([], some ⟨code, p.owed - 1, 0x80, 0xBF⟩)
    else
      let (chars, begun) := firstByte b
      (replacementCharacter :: chars, begun)

/-- The characters of the bytes after `pending`. -/
def decodeFrom (pending : Option Pending) : List UInt8 → List Char
  | [] => if pending.isSome then [replacementCharacter] else []
  | b :: rest =>
    let (chars, begun) := nextByte pending b
    chars ++ decodeFrom begun rest

/-- The text the bytes spell, ill-formed sequences replaced. -/
def decodeLossy (bytes : List UInt8) : String :=
  String.ofList (decodeFrom none bytes)

end BrailleDisplay.Text
