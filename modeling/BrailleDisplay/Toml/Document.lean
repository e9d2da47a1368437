import BrailleDisplay.Toml.Number
import BrailleDisplay.Toml.Table

/-!
# TOML documents

A document is a list of lines: assignments, headers, comments and blank lines.

* `value` — a value; arrays and inline tables may be nested up to a limit, which is what the
  recursion runs on;
* `Builder.line` — one line and what it does to the table under construction: an assignment goes to
  the table of the last header;
* `parse` — a whole document, as a table.
-/

namespace BrailleDisplay.Toml

/-! ### Values -/

/-- The items of an array, up to its closing bracket. -/
def arrayItems (item : List Char → Except Fault (Value × List Char)) :
    Nat → List Char → Except Fault (List Value × List Char)
  | 0, chars => expect "an array" chars
  | fuel + 1, chars =>
    match skipFiller (chars.length + 1) chars with
    | ']' :: rest => .ok ([], rest)
    | chars => do
      let (v, rest) ← item chars
      match skipFiller (rest.length + 1) rest with
      | ',' :: rest =>
        let (items, rest) ← arrayItems item fuel rest
        return (v :: items, rest)
      | ']' :: rest => return ([v], rest)
      | rest => expect "a comma or the end of an array" rest

/-- A key, an equals sign and a value. -/
def assignment (item : List Char → Except Fault (Value × List Char)) (chars : List Char) :
    Except Fault ((List String × Value) × List Char) := do
  let (path, rest) ← keyPath chars
  match rest with
  | '=' :: rest =>
    let (v, rest) ← item (skipBlanks rest)
    return ((path, v), rest)
  | _ => expect "an equals sign" rest

/-- The entries of a table after an assignment. -/
def assign (path : List String) (v : Value) (entries : Entries) : Except Fault Entries :=
  entries.insert path.dropLast (path.getLastD "") v

/-- The assignments of an inline table, up to its closing brace. -/
def inlineEntries (item : List Char → Except Fault (Value × List Char)) (entries : Entries) :
    Nat → List Char → Except Fault (Entries × List Char)
  | 0, chars => expect "an inline table" chars
  | fuel + 1, chars => do
    let ((path, v), rest) ← assignment item chars
    let entries ← assign path v entries
    match skipBlanks rest with
    | ',' :: rest => inlineEntries item entries fuel rest
    | '\x7d' :: rest => return (entries, rest)
    | rest => expect "a comma or the end of an inline table" rest

/-- An inline table, behind its opening brace. -/
def inlineTable (item : List Char → Except Fault (Value × List Char)) (chars : List Char) :
    Except Fault (Value × List Char) :=
  match skipBlanks chars with
  | '\x7d' :: rest => .ok (.table [], rest)
  | chars => do
    let (entries, rest) ← inlineEntries item [] (chars.length + 1) chars
    return (.table (finishEntries entries), rest)

/-- One of the two truth values. -/
def truth : List Char → Except Fault (Value × List Char)
  | 't' :: 'r' :: 'u' :: 'e' :: rest => .ok (.boolean true, rest)
  | 'f' :: 'a' :: 'l' :: 's' :: 'e' :: rest => .ok (.boolean false, rest)
  | chars => expect "a truth value" chars

/-- A value that holds no others. -/
def scalar (chars : List Char) : Except Fault (Value × List Char) :=
  match chars with
  | '"' :: _ => do
    let (s, rest) ← text chars
    return (.text s, rest)
  | '\'' :: _ => do
    let (s, rest) ← text chars
    return (.text s, rest)
  | c :: _ =>
    if c = 't' ∨ c = 'f' then truth chars
    else if isDigit c ∨ c = '+' ∨ c = '-' ∨ c = 'i' ∨ c = 'n' then number chars
    else expect "a value" chars
  | [] => expect "a value" chars

/-- A value in which others may be nested so many levels deep. -/
def valueAt (depth : Nat) (chars : List Char) : Except Fault (Value × List Char) :=
  match depth, chars with
  | 0, '[' :: _ => .error .tooDeep
  | 0, '\x7b' :: _ => .error .tooDeep
  | depth + 1, '[' :: rest => do
    let (items, rest) ← arrayItems (valueAt depth) (rest.length + 1) rest
    return (.array items, rest)
  | depth + 1, '\x7b' :: rest => inlineTable (valueAt depth) rest
  | _, chars => scalar chars

/-- A value. -/
def value (chars : List Char) : Except Fault (Value × List Char) :=
  valueAt (nestingLimit - 1) chars

/-! ### Lines -/

/-- A document under construction. -/
structure Builder where
  /-- The root table. -/
  root : Entries := []
  /-- The keys of the last header. -/
  current : List String := []

namespace Builder

/-- Carry out an assignment in the table of the last header. -/
def assignIn (b : Builder) (path : List String) (v : Value) : Except Fault Builder := do
  let root ←
    Entries.within false (fun _ entries => assign path v entries) b.current .explicit b.root
  return { b with root }

/-- A header: `[path]` for a table, `[[path]]` for the next table of an array. -/
def header (b : Builder) (chars : List Char) : Except Fault (Builder × List Char) :=
  match chars with
  | '[' :: '[' :: rest => do
    let (path, rest) ← keyPath rest
    match rest with
    | ']' :: ']' :: rest =>
      let rest ← endLine rest
      let root ← b.root.openElement path.dropLast (path.getLastD "")
      return ({ root, current := path }, rest)
    | _ => expect "the end of a header" rest
  | '[' :: rest => do
    let (path, rest) ← keyPath rest
    match rest with
    | ']' :: rest =>
      let rest ← endLine rest
      let root ← b.root.openTable path.dropLast (path.getLastD "")
      return ({ root, current := path }, rest)
    | _ => expect "the end of a header" rest
  | _ => expect "a header" chars

/-- One line of the document. -/
def line (b : Builder) (chars : List Char) : Except Fault (Builder × List Char) :=
  match skipBlanks chars with
  | [] => .ok (b, [])
  | '#' :: rest => do return (b, ← endLine ('#' :: rest))
  | '[' :: rest => b.header ('[' :: rest)
  | chars =>
    match newline? chars with
    | some rest => .ok (b, rest)
    | none => do
      let ((path, v), rest) ← assignment value chars
      let rest ← endLine rest
      return (← b.assignIn path v, rest)

/-- All lines of the document. -/
def lines (b : Builder) : Nat → List Char → Except Fault Builder
  | _, [] => .ok b
  | 0, chars => expect "the end of the document" chars
  | fuel + 1, chars => do
    let (b, rest) ← b.line chars
    b.lines fuel rest

end Builder

/-- The entries of a document's root table; a byte order mark in front does not count. -/
def parse (document : String) : Except Fault (List (String × Value)) := do
  let chars := match document.toList with
    | '\ufeff' :: rest => rest
    | chars => chars
  let built ← Builder.lines {} (chars.length + 1) chars
  return finishEntries built.root

end BrailleDisplay.Toml
