import BrailleDisplay.Text.Layout

/-!
# Bytes as hexadecimal text

Traffic is logged and printed in upper-case hexadecimal, two digits to the byte.

* `hexWidth` — a number in hexadecimal, zero-filled to a width;
* `hexByte`, `hexDump`, `hexRun`, `hexList` — one byte; bytes set apart by blanks; bytes without
  separators; bytes as a bracketed list;
* `hexBytes?` — reading bytes back, in either case and with blanks anywhere.
-/

namespace BrailleDisplay.Text

/-- A number in upper-case hexadecimal, zero-filled to `width` digits. -/
def hexWidth (width n : Nat) : String :=
  padLeft width '0' (String.ofList ((Nat.toDigits 16 n).map Char.toUpper))

/-- The upper-case digit of a value below sixteen. -/
def hexDigit (n : Nat) : Char :=
  (Nat.digitChar n).toUpper

/-- The two digits of a byte, the high one first. -/
def hexDigits (b : UInt8) : List Char :=
  [hexDigit (b.toNat / 16), hexDigit (b.toNat % 16)]

/-- One byte as two digits. -/
def hexByte (b : UInt8) : String :=
  String.ofList (hexDigits b)

/-- Bytes set apart by single blanks, as in `1C 4D 4B 1F`. -/
def hexDump (bytes : List UInt8) : String :=
  " ".intercalate (bytes.map hexByte)

/-- Bytes without separators, as in `1C4D4B1F`. -/
def hexRun (bytes : List UInt8) : String :=
  String.ofList (bytes.flatMap hexDigits)

/-- Bytes as a bracketed list, as in `[1C, 4D]`. -/
def hexList (bytes : List UInt8) : String :=
  "[" ++ ", ".intercalate (bytes.map hexByte) ++ "]"

/-! ### Reading bytes back -/

/-- The value of a hexadecimal digit, in either case. -/
def hexValue? (c : Char) : Option Nat :=
  if '0' ≤ c ∧ c ≤ '9' then some (c.toNat - '0'.toNat)
  else if 'A' ≤ c ∧ c ≤ 'F' then some (c.toNat - 'A'.toNat + 10)
  else if 'a' ≤ c ∧ c ≤ 'f' then some (c.toNat - 'a'.toNat + 10)
  else none

/-- Pairs of digits as bytes; `none` if a character is no digit or one digit is left over. -/
def hexPairs? : List Char → Option (List UInt8)
  | [] => some []
  | [_] => none
  | high :: low :: rest => do
    let h ← hexValue? high
    let l ← hexValue? low
    let bytes ← hexPairs? rest
    return UInt8.ofNat (16 * h + l) :: bytes

/-- The bytes a hexadecimal text spells, blanks ignored. -/
def hexBytes? (text : String) : Option (List UInt8) :=
  hexPairs? (text.toList.filter (· != ' '))

end BrailleDisplay.Text
