import BrailleDisplay.Text.Hex

/-!
# JSON text

Events, traffic records and profiles are written as JSON.  Fields keep the order in which they are
given; numbers carry their digits as text, so that the writer of a value decides its format.

* `Json.compact` — without any blanks, for records of one line;
* `Json.pretty` — one item a line, indented by two blanks a level, for reading.

In a string the quote, the backslash and the control characters are escaped, and nothing else.
-/

namespace BrailleDisplay.Text

/-- A JSON value. -/
inductive Json where
  | null
  | bool (value : Bool)
  /-- A number, by its digits. -/
  | number (digits : String)
  | text (value : String)
  | array (items : List Json)
  | object (fields : List (String × Json))

namespace Json

/-- A natural number. -/
def nat (n : Nat) : Json :=
  number (toString n)

/-- A byte, as a number. -/
def byte (b : UInt8) : Json :=
  nat b.toNat

/-- An optional text, `null` when there is none. -/
def optional (value : Option String) : Json :=
  (value.map text).getD null

/-! ### Strings -/

/-- A character as it stands in a JSON string. -/
def escape (c : Char) : List Char :=
  if c = '"' then ['\\', '"']
  else if c = '\\' then ['\\', '\\']
  else if c = '\x08' then ['\\', 'b']
  else if c = '\t' then ['\\', 't']
  else if c = '\n' then ['\\', 'n']
  else if c = '\x0c' then ['\\', 'f']
  else if c = '\r' then ['\\', 'r']
  else if c.toNat < 32 then
    ['\\', 'u', '0', '0', Nat.digitChar (c.toNat / 16), Nat.digitChar (c.toNat % 16)]
  else [c]

/-- A text as a JSON string. -/
def quote (value : String) : String :=
  String.ofList (['"'] ++ value.toList.flatMap escape ++ ['"'])

/-! ### Compact text -/

mutual

/-- A value without blanks. -/
def compact : Json → String
  | null => "null"
  | bool value => if value then "true" else "false"
  | number digits => digits
  | text value => quote value
  | array items => "[" ++ ",".intercalate (compactItems items) ++ "]"
  | object fields => "\x7b" ++ ",".intercalate (compactFields fields) ++ "\x7d"

/-- The items of an array, each without blanks. -/
def compactItems : List Json → List String
  | [] => []
  | item :: rest => compact item :: compactItems rest

/-- The fields of an object, each without blanks. -/
def compactFields : List (String × Json) → List String
  | [] => []
  | (key, value) :: rest => (quote key ++ ":" ++ compact value) :: compactFields rest

end

/-! ### Indented text -/

/-- Lines between two brackets, the lines one level deeper than the closing bracket. -/
def block (start stop : String) (level : Nat) (lines : List String) : String :=
  if lines.isEmpty then start ++ stop
  else
    let margin := "\n" ++ "".pushn ' ' (2 * level)
    let inner := margin ++ "  "
    start ++ inner ++ ("," ++ inner).intercalate lines ++ margin ++ stop

mutual

/-- A value at a nesting level, one item a line. -/
def prettyAt (level : Nat) : Json → String
  | null => "null"
  | bool value => if value then "true" else "false"
  | number digits => digits
  | text value => quote value
  | array items => block "[" "]" level (prettyItems (level + 1) items)
  | object fields => block "\x7b" "\x7d" level (prettyFields (level + 1) fields)

/-- The items of an array at a nesting level. -/
def prettyItems (level : Nat) : List Json → List String
  | [] => []
  | item :: rest => prettyAt level item :: prettyItems level rest

/-- The fields of an object at a nesting level. -/
def prettyFields (level : Nat) : List (String × Json) → List String
  | [] => []
  | (key, value) :: rest =>
    (quote key ++ ": " ++ prettyAt level value) :: prettyFields level rest

end

/-- A value with one item a line. -/
def pretty (value : Json) : String :=
  prettyAt 0 value

end Json

end BrailleDisplay.Text
