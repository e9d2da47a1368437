import BrailleDisplay.Text.Hex
import BrailleDisplay.Toml.Value

/-!
# TOML characters, strings and keys

Each reader takes the characters still to be read and answers what it read together with the
characters after it.

* `skipBlanks`, `newline?`, `skipComment`, `endLine`, `skipFiller` — what stands between values;
* `basicText`, `literalText`, `basicBlock`, `literalBlock` — the four forms of a string, of which
  `text` picks by the opening quotes;
* `simpleKey`, `keyPath` — a key, and keys set apart by points.

A block of quotes at the end of a multi-line string may hold up to two quotes of its own.  Line
breaks inside such a string are line feeds, however they are written.
-/

namespace BrailleDisplay.Toml

/-- Fail for want of something at this place. -/
def expect {α : Type} (what : String) (chars : List Char) : Except Fault α :=
  .error (.expected what chars.length)

/-! ### Characters -/

/-- A blank or a tab. -/
def isSpace (c : Char) : Bool :=
  c == ' ' || c == '\t'

/-- A character of a comment: no control character but the tab. -/
def isCommentChar (c : Char) : Bool :=
  c == '\t' || (' ' ≤ c && c ≤ '~') || 128 ≤ c.toNat

/-- A character that stands for itself between double quotes. -/
def isBasicChar (c : Char) : Bool :=
  isCommentChar c && c != '"' && c != '\\'

/-- A character that stands for itself between single quotes. -/
def isLiteralChar (c : Char) : Bool :=
  isCommentChar c && c != '\''

/-- A character of a key without quotes. -/
def isBareChar (c : Char) : Bool :=
  c.isAlphanum || c == '_' || c == '-'

/-! ### Between values -/

/-- Leave out blanks and tabs. -/
def skipBlanks (chars : List Char) : List Char :=
  chars.dropWhile isSpace

/-- The characters after a line break, if one stands here. -/
def newline? : List Char → Option (List Char)
  | '\n' :: rest => some rest
  | '\r' :: '\n' :: rest => some rest
  | _ => none

/-- Leave out a comment, if one stands here; the line break stays. -/
def skipComment : List Char → List Char
  | '#' :: rest => rest.dropWhile isCommentChar
  | chars => chars

/-- Finish a line: blanks, a comment, and a line break or the end of the document. -/
def endLine (chars : List Char) : Except Fault (List Char) :=
  let after := skipComment (skipBlanks chars)
  match after, newline? after with
  | [], _ => .ok []
  | _, some rest => .ok rest
  | _, none => expect "the end of the line" after

/-- Leave out blanks, comments and line breaks, as between the items of an array; `fuel` bounds the
number of lines. -/
def skipFiller : Nat → List Char → List Char
  | 0, chars => chars
  | fuel + 1, chars =>
    let blank := skipBlanks chars
    match newline? (skipComment blank) with
    | some rest => skipFiller fuel rest
    | none => blank

/-- Leave out blanks, tabs and line breaks. -/
def skipLines : Nat → List Char → List Char
  | 0, chars => chars
  | fuel + 1, chars =>
    let blank := skipBlanks chars
    match newline? blank with
    | some rest => skipLines fuel rest
    | none => blank

/-! ### Strings -/

/-- The code point that so many hexadecimal digits spell. -/
def hexCode (digits : Nat) (chars : List Char) : Except Fault (Char × List Char) :=
  let written := chars.take digits
  match written.mapM Text.hexValue? with
  | none => expect "hexadecimal digits" chars
  | some values =>
    let code := values.foldl (fun sum v => 16 * sum + v) 0
    if written.length = digits ∧ code.isValidChar then .ok (Char.ofNat code, chars.drop digits)
    else expect "a Unicode character" chars

/-- The character that an escape stands for, behind its backslash. -/
def escaped : List Char → Except Fault (Char × List Char)
  | 'b' :: rest => .ok ('\x08', rest)
  | 't' :: rest => .ok ('\t', rest)
  | 'n' :: rest => .ok ('\n', rest)
  | 'f' :: rest => .ok ('\x0c', rest)
  | 'r' :: rest => .ok ('\r', rest)
  | '"' :: rest => .ok ('"', rest)
  | '\\' :: rest => .ok ('\\', rest)
  | 'u' :: rest => hexCode 4 rest
  | 'U' :: rest => hexCode 8 rest
  | chars => expect "an escape sequence" chars

/-- The rest of a string between double quotes; `read` is what has been read, backwards. -/
def basicText (read : List Char) : Nat → List Char → Except Fault (String × List Char)
  | 0, chars => expect "a closing quote" chars
  | fuel + 1, chars =>
    match chars with
    | '"' :: rest => .ok (String.ofList read.reverse, rest)
    | '\\' :: rest => do
      let (c, rest) ← escaped rest
      basicText (c :: read) fuel rest
    | c :: rest =>
      if isBasicChar c then basicText (c :: read) fuel rest
      else expect "a closing quote" chars
    | [] => expect "a closing quote" chars

/-- The rest of a string between single quotes. -/
def literalText (chars : List Char) : Except Fault (String × List Char) :=
  match chars.dropWhile isLiteralChar with
  | '\'' :: rest => .ok (String.ofList (chars.takeWhile isLiteralChar), rest)
  | after => expect "a closing quote" after

/-- A run of quotes in a multi-line string: either so many quotes of the text, or, from three on,
the end of the string behind at most two of them. -/
def quoteRun (quote : Char) (chars : List Char) : Except Fault (List Char × List Char × Bool) :=
  let run := chars.takeWhile (· == quote)
  let rest := chars.drop run.length
  if run.length < 3 then .ok (run, rest, false)
  else if run.length ≤ 5 then .ok (run.drop 3, rest, true)
  else expect "the end of a string" chars

/-- The characters after a backslash at the end of a line: blanks and line breaks are left out. -/
def joinedLines? (chars : List Char) : Option (List Char) :=
  (newline? (skipBlanks chars)).map fun rest => skipLines rest.length rest

/-- The rest of a multi-line string between double quotes. -/
def basicBlock (read : List Char) : Nat → List Char → Except Fault (String × List Char)
  | 0, chars => expect "closing quotes" chars
  | fuel + 1, chars =>
    match chars with
    | '"' :: _ => do
      let (quotes, rest, closed) ← quoteRun '"' chars
      if closed then return (String.ofList (quotes ++ read).reverse, rest)
      else basicBlock (quotes ++ read) fuel rest
    | '\\' :: rest =>
      match joinedLines? rest with
      | some rest => basicBlock read fuel rest
      | none => do
        let (c, rest) ← escaped rest
        basicBlock (c :: read) fuel rest
    | c :: rest =>
      match newline? chars with
      | some rest => basicBlock ('\n' :: read) fuel rest
      | none =>
        if isBasicChar c then basicBlock (c :: read) fuel rest
        else expect "closing quotes" chars
    | [] => expect "closing quotes" chars

/-- The rest of a multi-line string between single quotes. -/
def literalBlock (read : List Char) : Nat → List Char → Except Fault (String × List Char)
  | 0, chars => expect "closing quotes" chars
  | fuel + 1, chars =>
    match chars with
    | '\'' :: _ => do
      let (quotes, rest, closed) ← quoteRun '\'' chars
      if closed then return (String.ofList (quotes ++ read).reverse, rest)
      else literalBlock (quotes ++ read) fuel rest
    | c :: rest =>
      match newline? chars with
      | some rest => literalBlock ('\n' :: read) fuel rest
      | none =>
        if isLiteralChar c then literalBlock (c :: read) fuel rest
        else expect "closing quotes" chars
    | [] => expect "closing quotes" chars

/-- The characters without the line break they may begin with. -/
def afterNewline (chars : List Char) : List Char :=
  (newline? chars).getD chars

/-- A string of any form. -/
def text (chars : List Char) : Except Fault (String × List Char) :=
  match chars with
  | '"' :: '"' :: '"' :: rest => basicBlock [] (rest.length + 1) (afterNewline rest)
  | '"' :: rest => basicText [] (rest.length + 1) rest
  | '\'' :: '\'' :: '\'' :: rest => literalBlock [] (rest.length + 1) (afterNewline rest)
  | '\'' :: rest => literalText rest
  | _ => expect "a string" chars

/-! ### Keys -/

/-- A single key, with or without quotes. -/
def simpleKey (chars : List Char) : Except Fault (String × List Char) :=
  match chars with
  | '"' :: rest => basicText [] (rest.length + 1) rest
  | '\'' :: rest => literalText rest
  | _ =>
    let name := chars.takeWhile isBareChar
    if name.isEmpty then expect "a key" chars
    else .ok (String.ofList name, chars.drop name.length)

/-- Keys set apart by points, with blanks around each. -/
def keyParts : Nat → List Char → Except Fault (List String × List Char)
  | 0, chars => expect "a key" chars
  | fuel + 1, chars => do
    let (key, rest) ← simpleKey (skipBlanks chars)
    match skipBlanks rest with
    | '.' :: rest =>
      let (keys, rest) ← keyParts fuel rest
      return (key :: keys, rest)
    | rest => return ([key], rest)

/-- How deep values and keys may be nested. -/
def nestingLimit : Nat := 80

/-- A path of keys. -/
def keyPath (chars : List Char) : Except Fault (List String × List Char) := do
  let (keys, rest) ← keyParts (chars.length + 1) chars
  if keys.length < nestingLimit then return (keys, rest)
  else throw .tooDeep

end BrailleDisplay.Toml
