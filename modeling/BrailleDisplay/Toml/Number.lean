import BrailleDisplay.Toml.Lexical

/-!
# TOML numbers, dates and times

What begins with a digit or a sign is tried as a date or a time, then as a floating-point number and
then as an integer.

* `moment?` — a date (which must exist), a time, or both with an offset;
* `real?` — digits with a fraction or an exponent, `inf` or `nan`; a number too large for a double
  is refused, unless it is negative;
* `integer` — decimal with a sign, or hexadecimal, octal or binary, within 64 bits;
* `number` — the three of them in turn.

Digits may be grouped by single underscores between them.
-/

namespace BrailleDisplay.Toml

/-- A decimal digit. -/
def isDigit (c : Char) : Bool :=
  '0' ≤ c && c ≤ '9'

/-- The number that decimal digits spell; other characters do not count. -/
def decimalValue (digits : List Char) : Nat :=
  (digits.filter isDigit).foldl (fun sum c => 10 * sum + (c.toNat - '0'.toNat)) 0

/-! ### Dates and times -/

/-- A number of exactly so many digits. -/
def fixedDigits? (count : Nat) (chars : List Char) : Option (Nat × List Char) :=
  let digits := chars.take count
  if digits.length = count ∧ digits.all isDigit then some (decimalValue digits, chars.drop count)
  else none

/-- Two digits for a number within bounds. -/
def twoDigits (low high : Nat) (chars : List Char) : Except Fault (Nat × List Char) :=
  match fixedDigits? 2 chars with
  | some (value, rest) =>
    if low ≤ value ∧ value ≤ high then .ok (value, rest)
    else .error (.outOfRange (toString value))
  | none => expect "two digits" chars

/-- A given character. -/
def mark (c : Char) (chars : List Char) : Except Fault (List Char) :=
  match chars with
  | d :: rest => if d = c then .ok rest else expect (String.singleton c) chars
  | [] => expect (String.singleton c) chars

/-- The number of days in a month. -/
def daysInMonth (year month : Nat) : Nat :=
  if month = 2 then
    if year % 4 = 0 ∧ (year % 100 ≠ 0 ∨ year % 400 = 0) then 29 else 28
  else if month = 4 ∨ month = 6 ∨ month = 9 ∨ month = 11 then 30
  else 31

/-- The rest of a date, behind the year and its dash. -/
def dateAfterYear (year : Nat) (chars : List Char) : Except Fault (List Char) := do
  let (month, rest) ← twoDigits 1 12 chars
  let rest ← mark '-' rest
  let (day, rest) ← twoDigits 1 31 rest
  if daysInMonth year month < day then throw (.outOfRange s!"{year}-{month}-{day}")
  return rest

/-- The characters behind an hour and its colon, if they stand here. -/
def hour? (chars : List Char) : Option (List Char) :=
  match fixedDigits? 2 chars with
  | some (hour, ':' :: rest) => if hour ≤ 23 then some rest else none
  | _ => none

/-- A fraction of a second, if one stands here. -/
def skipFraction (chars : List Char) : List Char :=
  match chars with
  | '.' :: rest => if (rest.takeWhile isDigit).isEmpty then chars else rest.dropWhile isDigit
  | _ => chars

/-- The rest of a time, behind the hour and its colon. -/
def timeAfterHour (chars : List Char) : Except Fault (List Char) := do
  let (_, rest) ← twoDigits 0 59 chars
  let rest ← mark ':' rest
  let (_, rest) ← twoDigits 0 60 rest
  return skipFraction rest

/-- An offset from universal time, if one stands here. -/
def skipOffset (chars : List Char) : Except Fault (List Char) :=
  match chars with
  | 'Z' :: rest => .ok rest
  | 'z' :: rest => .ok rest
  | c :: rest =>
    if c = '+' ∨ c = '-' then do
      let (_, rest) ← twoDigits 0 23 rest
      let rest ← mark ':' rest
      let (_, rest) ← twoDigits 0 59 rest
      return rest
    else .ok chars
  | [] => .ok []

/-- A time behind a date, if one follows. -/
def timeAfterDate (chars : List Char) : Except Fault (List Char) :=
  match chars with
  | c :: rest =>
    if c = 'T' ∨ c = 't' ∨ c = ' ' then
      match hour? rest with
      | some rest => do skipOffset (← timeAfterHour rest)
      | none => .ok chars
    else .ok chars
  | [] => .ok []

/-- The characters behind a date or a time, if one stands here. -/
def moment? (chars : List Char) : Except Fault (Option (List Char)) :=
  match fixedDigits? 4 chars with
  | some (year, '-' :: rest) => do
    return some (← timeAfterDate (← dateAfterYear year rest))
  | _ =>
    match hour? chars with
    | some rest => do return some (← timeAfterHour rest)
    | none => .ok none

/-! ### Numbers -/

/-- Digits of the kind `accepts`, in groups set apart by underscores: the digits and the rest. -/
def groupedDigits (accepts : Char → Bool) :
    Nat → List Char → Except Fault (List Char × List Char)
  | 0, chars => expect "a digit" chars
  | fuel + 1, chars =>
    let group := chars.takeWhile accepts
    if group.isEmpty then expect "a digit" chars
    else
      match chars.drop group.length with
      | '_' :: rest => do
        let (digits, rest) ← groupedDigits accepts fuel rest
        return (group ++ digits, rest)
      | rest => .ok (group, rest)

/-- Digits in groups. -/
def digitGroups (accepts : Char → Bool) (chars : List Char) :
    Except Fault (List Char × List Char) :=
  groupedDigits accepts (chars.length + 1) chars

/-- A sign, if one stands here: whether it is a minus, and the rest. -/
def sign : List Char → Bool × List Char
  | '-' :: rest => (true, rest)
  | '+' :: rest => (false, rest)
  | chars => (false, chars)

/-- The whole part of a decimal number: a single zero, or digits that begin with none. -/
def wholePart (chars : List Char) : Except Fault (List Char × List Char) :=
  match chars with
  | '0' :: rest => .ok (['0'], rest)
  | _ => digitGroups isDigit chars

/-- Whether `digits * 10 ^ exponent` is beyond the doubles: half a unit past the greatest. -/
def overflows (digits : Nat) (exponent : Int) : Bool :=
  let size : Int := (toString digits).length + exponent
  if digits = 0 ∨ size < 300 then false
  else if 400 < size then true
  else
    let bound := Nat.pow 2 1024 - Nat.pow 2 970
    bound * Nat.pow 10 (-exponent).toNat ≤ digits * Nat.pow 10 exponent.toNat

/-- An exponent, behind its letter. -/
def exponentPart (chars : List Char) : Except Fault (Int × List Char) := do
  let (negative, rest) := sign chars
  let (digits, rest) ← digitGroups isDigit rest
  let value : Int := decimalValue digits
  return (if negative then -value else value, rest)

/-- An exponent, if one stands here. -/
def optionalExponent (chars : List Char) : Except Fault (Int × List Char) :=
  match chars with
  | 'e' :: rest => exponentPart rest
  | 'E' :: rest => exponentPart rest
  | _ => .ok (0, chars)

/-- The words for the numbers that are none. -/
def specialReal? : List Char → Option (List Char)
  | 'i' :: 'n' :: 'f' :: rest => some rest
  | 'n' :: 'a' :: 'n' :: rest => some rest
  | _ => none

/-- The characters behind a floating-point number, if one stands here. -/
def real? (chars : List Char) : Except Fault (Option (List Char)) :=
  let (negative, unsigned) := sign chars
  match specialReal? unsigned, unsigned.head? with
  | some rest, _ => .ok (some rest)
  | none, some c =>
    if isDigit c then do
      let (whole, rest) ← wholePart unsigned
      match rest with
      | '.' :: rest =>
        let (fraction, rest) ← digitGroups isDigit rest
        let (exponent, rest) ← optionalExponent rest
        check negative (whole ++ fraction) (exponent - fraction.length) rest
      | c :: _ =>
        if c = 'e' ∨ c = 'E' then
          let (exponent, rest) ← optionalExponent rest
          check negative whole exponent rest
        else return none
      | [] => return none
    else .ok none
  | none, none => .ok none
where
  /-- The rest, unless the number is too large. -/
  check (negative : Bool) (digits : List Char) (exponent : Int) (rest : List Char) :
      Except Fault (Option (List Char)) :=
    if !negative && overflows (decimalValue digits) exponent then
      .error (.outOfRange (String.ofList digits))
    else .ok (some rest)

/-- An integer within 64 bits. -/
def bounded (value : Int) : Except Fault Value :=
  if -Int.pow 2 63 ≤ value ∧ value < Int.pow 2 63 then .ok (.integer value)
  else .error (.outOfRange (toString value))

/-- The rest of an integer to a base, behind its mark. -/
def basedInteger (base : Nat) (chars : List Char) : Except Fault (Value × List Char) := do
  let accepts (c : Char) : Bool := (Text.hexValue? c).any (· < base)
  let (digits, rest) ← digitGroups accepts chars
  let value := digits.foldl (fun sum c => base * sum + (Text.hexValue? c).getD 0) 0
  return (← bounded value, rest)

/-- An integer. -/
def integer (chars : List Char) : Except Fault (Value × List Char) :=
  match chars with
  | '0' :: 'x' :: rest => basedInteger 16 rest
  | '0' :: 'o' :: rest => basedInteger 8 rest
  | '0' :: 'b' :: rest => basedInteger 2 rest
  | _ => do
    let (negative, unsigned) := sign chars
    let (digits, rest) ← wholePart unsigned
    let value : Int := decimalValue digits
    return (← bounded (if negative then -value else value), rest)

/-- What stands between two places of the document. -/
def written (chars rest : List Char) : String :=
  String.ofList (chars.take (chars.length - rest.length))

/-- A date, a time or a number. -/
def number (chars : List Char) : Except Fault (Value × List Char) := do
  match ← moment? chars with
  | some rest => return (.moment (written chars rest), rest)
  | none =>
    match ← real? chars with
    | some rest => return (.real (written chars rest), rest)
    | none => integer chars

end BrailleDisplay.Toml
