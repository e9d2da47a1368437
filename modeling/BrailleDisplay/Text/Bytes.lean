/-!
# Texts as bytes

A text is stored as UTF-8, and where a part of it is cut off, the place is an offset in bytes.

* `utf8` — the bytes of a text;
* `isBoundary` — whether an offset falls between two characters, told from the byte there;
* `firstBytes?` — the text of the first bytes, which must not end inside a character.
-/

namespace BrailleDisplay.Text

/-- The bytes of a text. -/
def utf8 (s : String) : List UInt8 :=
  s.toList.flatMap String.utf8EncodeChar

/-- Whether a byte may begin a character: those from 80 to BF only continue one. -/
def beginsCharacter (b : UInt8) : Bool :=
  b < 0x80 || 0xC0 ≤ b

/-- Whether an offset falls between two characters of a text, or at one of its ends. -/
def isBoundary (text : String) (offset : Nat) : Bool :=
  if offset = 0 then true
  else
    match (utf8 text)[offset]? with
    | some b => beginsCharacter b
    | none => offset == (utf8 text).length

/-- The first characters that have `size` bytes together, if there are such. -/
def wholeCharacters? (size : Nat) : List Char → Option (List Char)
  | [] => if size = 0 then some [] else none
  | c :: rest =>
    if size = 0 then some []
    else if size < c.utf8Size then none
    else (wholeCharacters? (size - c.utf8Size) rest).map (c :: ·)

/-- The text of the first `size` bytes, if they do not end inside a character. -/
def firstBytes? (text : String) (size : Nat) : Option String :=
  (wholeCharacters? size text.toList).map String.ofList

end BrailleDisplay.Text
