import BrailleDisplay.Text.Bytes

/-!
# Letter case and blanks

Names are compared without regard to case in two ways, and locators are trimmed.

* `sameIgnoringCase` — equality that folds the letters `A` to `Z` only;
* `beginsIgnoringCase` — the same for the first bytes of a text;
* `spells` — equality of the full lower case of a text with a plain ASCII word;
* `isBlank`, `trim` — the white space of Unicode, and a text without it at both ends.

`Char.toLower` of the core library folds exactly the letters `A` to `Z`.
-/

namespace BrailleDisplay.Text

/-- The text with the letters `A` to `Z` in lower case and all else untouched. -/
def asciiLower (text : String) : String :=
  String.ofList (text.toList.map Char.toLower)

/-- Equality up to the case of the letters `A` to `Z`. -/
def sameIgnoringCase (a b : String) : Bool :=
  a.toList.map Char.toLower == b.toList.map Char.toLower

theorem sameIgnoringCase_iff {a b : String} :
    sameIgnoringCase a b = true ↔ asciiLower a = asciiLower b := by
  rw [sameIgnoringCase, beq_iff_eq, asciiLower, asciiLower, String.ofList_inj]

/-- Whether as many bytes of `text` as `start` has are there, do not end inside a character, and are
those of `start`, up to the case of the letters `A` to `Z`. -/
def beginsIgnoringCase (text start : String) : Bool :=
  let size := (utf8 start).length
  decide (size ≤ (utf8 text).length) && isBoundary text size
    && (firstBytes? text size).any (sameIgnoringCase · start)

/-- The lower case of a character as far as an ASCII word can tell: beside `A` to `Z`, the KELVIN
SIGN is the only character whose lower case is an ASCII letter alone. -/
def lowerTowardsAscii (c : Char) : Char :=
  if c = '\u212a' then 'k' else c.toLower

/-- Whether the lower case of `text` is the lower-case ASCII word `word`. -/
def spells (text word : String) : Bool :=
  text.toList.map lowerTowardsAscii == word.toList

/-- The characters with the Unicode property `White_Space`. -/
def isBlank (c : Char) : Bool :=
  ('\u0009' ≤ c && c ≤ '\u000d') || c == ' ' || c == '\u0085' || c == '\u00a0' || c == '\u1680'
    || ('\u2000' ≤ c && c ≤ '\u200a') || c == '\u2028' || c == '\u2029' || c == '\u202f'
    || c == '\u205f' || c == '\u3000'

/-- The characters without the blanks at both ends. -/
def trimBlanks (chars : List Char) : List Char :=
  ((chars.dropWhile isBlank).reverse.dropWhile isBlank).reverse

/-- The text without the blanks at both ends. -/
def trim (text : String) : String :=
  String.ofList (trimBlanks text.toList)

/-- Whether `part` occurs in `text` as consecutive characters. -/
def occursIn (part : List Char) : List Char → Bool
  | [] => part.isEmpty
  | c :: rest => part.isPrefixOf (c :: rest) || occursIn part rest

end BrailleDisplay.Text
