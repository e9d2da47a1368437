import BrailleDisplay.Toml.Value

/-!
# Records in TOML values

A reader of documents wants values of certain kinds, and tables with certain fields.

* `Value.asText`, `Value.asByte`, `Value.asItems`, `Value.asEntries` — a value of one kind;
* `Value.asList` — a list whose items are all of one kind;
* `Value.asRecord` — the fields of a record: a table gives them by name, an array by position;
* `Value.asClosedRecord` — the same where a field of another name is a fault;
* `Record.required`, `Record.optional` — one field of a record.
-/

namespace BrailleDisplay.Toml

namespace Value

/-- A text. -/
def asText : Value → Except Fault String
  | text s => .ok s
  | _ => .error (.wrongKind "a text")

/-- An integer from 0 to 255. -/
def asByte : Value → Except Fault UInt8
  | integer n =>
    if 0 ≤ n ∧ n ≤ 255 then .ok (UInt8.ofNat n.toNat) else .error (.outOfRange (toString n))
  | _ => .error (.wrongKind "an integer")

/-- The items of an array. -/
def asItems : Value → Except Fault (List Value)
  | array items => .ok items
  | _ => .error (.wrongKind "an array")

/-- The entries of a table. -/
def asEntries : Value → Except Fault (List (String × Value))
  | table entries => .ok entries
  | _ => .error (.wrongKind "a table")

/-- Whether a value holds nothing. -/
def isEmpty : Value → Bool
  | array items => items.isEmpty
  | table entries => entries.isEmpty
  | _ => false

/-- The items of an array, each read by `item`. -/
def asList {α : Type} (item : Value → Except Fault α) (v : Value) : Except Fault (List α) := do
  (← v.asItems).mapM item

end Value

/-! ### Records -/

/-- The fields of a record. -/
abbrev Record := List (String × Value)

/-- A record with fields of these names; an array gives them all, in this order, and what it holds
beyond them does not count. -/
def Value.asRecord (names : List String) : Value → Except Fault Record
  | table entries => .ok entries
  | array items =>
    match names[items.length]? with
    | some name => .error (.missingField name)
    | none => .ok (names.zip items)
  | _ => .error (.wrongKind "a table")

/-- A record with fields of these names and no others. -/
def Value.asClosedRecord (names : List String) (v : Value) : Except Fault Record := do
  let record ← v.asRecord names
  match record.find? fun (name, _) => name ∉ names with
  | some (name, _) => throw (.unknownField name)
  | none => return record

namespace Record

variable {α : Type}

/-- A field that must be there. -/
def required (name : String) (kind : Value → Except Fault α) (record : Record) : Except Fault α :=
  match record.lookup name with
  | some v => kind v
  | none => .error (.missingField name)

/-- A field that may be left out. -/
def optional (name : String) (kind : Value → Except Fault α) (record : Record) :
    Except Fault (Option α) :=
  match record.lookup name with
  | some v => do return some (← kind v)
  | none => .ok none

end Record

end BrailleDisplay.Toml
