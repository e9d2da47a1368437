import BrailleDisplay.Text.Letter

/-!
# Keys and their names

A display reports its navigation keys as a set of 32 numbered keys.  Which numbers have names
depends on the key table of the model.

* `KeyTable` — the two tables, by name;
* `KeyTable.namedKeys` — the named keys of a table, in its order;
* `KeyTable.labels` — the names of the keys in a set, lowest number first; a number without a
  name is written `Key<number>`.
-/

namespace BrailleDisplay

/-- What kind of key an event is about. -/
inductive KeyKind where
  | navigation
  | routing
  deriving DecidableEq, Repr

namespace KeyKind

/-- The name of a kind of key. -/
def name : KeyKind → String
  | navigation => "NavigationKeys"
  | routing => "RoutingKeys"

/-- The code of a kind of key. -/
def code : KeyKind → Nat
  | navigation => 0
  | routing => 1

end KeyKind

/-- The name of a routing key, to be followed by its number. -/
def routingLabel : String := "RoutingKey"

/-- A named navigation key. -/
structure NavigationKey where
  /-- The key's number in the reported set. -/
  number : Nat
  /-- The key's name. -/
  name : String
  deriving DecidableEq, Repr

/-- A model's assignment of names to keys. -/
inductive KeyTable where
  /-- Routing keys and panning keys. -/
  | note
  /-- A braille keyboard and function keys. -/
  | mokey
  deriving DecidableEq, Repr

namespace KeyTable

/-- Every key table. -/
def all : List KeyTable := [note, mokey]

/-- The table's name. -/
def name : KeyTable → String
  | note => "note"
  | mokey => "mokey"

/-- The dot keys and the space bar. -/
def keyboardKeys : List NavigationKey :=
  [⟨0, "Dot1"⟩, ⟨1, "Dot2"⟩, ⟨2, "Dot3"⟩, ⟨3, "Dot4"⟩, ⟨4, "Dot5"⟩, ⟨5, "Dot6"⟩, ⟨6, "Dot7"⟩,
    ⟨7, "Dot8"⟩, ⟨8, "Space"⟩]

/-- The function keys. -/
def extraKeys : List NavigationKey :=
  [⟨9, "F1"⟩, ⟨10, "F2"⟩, ⟨11, "F3"⟩, ⟨12, "F4"⟩]

/-- The panning keys. -/
def panningKeys : List NavigationKey :=
  [⟨13, "Backward"⟩, ⟨14, "Forward"⟩]

/-- The keys a table names, in its order. -/
def namedKeys : KeyTable → List NavigationKey
  | note => panningKeys
  | mokey => keyboardKeys ++ extraKeys

/-- Whether displays with this table have routing keys. -/
def hasRouting : KeyTable → Bool
  | note => true
  | mokey => false

/-- The name of a key number, if the table has one. -/
def nameOf? (table : KeyTable) (number : Nat) : Option String :=
  (table.namedKeys.find? (·.number == number)).map NavigationKey.name

/-- What a key is called in reports: its name, or `Key` and its number. -/
def label (table : KeyTable) (number : Nat) : String :=
  (table.nameOf? number).getD ("Key" ++ toString number)

/-- The numbers in a set of keys, ascending. -/
def keyNumbers (bits : UInt32) : List Nat :=
  (List.range 32).filter bits.toNat.testBit

/-- What the keys in a set are called, the lowest number first. -/
def labels (table : KeyTable) (bits : UInt32) : List String :=
  (keyNumbers bits).map table.label

/-! ### Reading a table's name -/

/-- A text that names no key table. -/
structure Unknown where
  /-- The text as given. -/
  text : String
  deriving DecidableEq, Repr

/-- The sentence shown for a text that names no key table. -/
def Unknown.message (unknown : Unknown) : String :=
  "Unknown key table: " ++ unknown.text

/-- The table a text names, in upper or lower case. -/
def parse (text : String) : Except Unknown KeyTable :=
  match all.find? (Text.spells text ·.name) with
  | some table => .ok table
  | none => .error ⟨text⟩

end KeyTable

end BrailleDisplay
