import BrailleDisplay.Channel.Device
import BrailleDisplay.World
import BrailleDisplay.Cell
import BrailleDisplay.Key.Table
import BrailleDisplay.Text.Json

/-!
# Profiles of display models

A profile is everything a host must know of one model: how the model is recognised, how its keys
are named, how wide it is if it does not tell, and how its dots are wired.

* `Identity` — the bytes by which a model is recognised;
* `Profile.note`, `Profile.mokey` — the standard models;
* `Profile.keyTableFor` — the key table of a connected display;
* `Profile.fault?` — the first thing wrong with a profile.
-/

namespace BrailleDisplay

/-- The widest display of the family. -/
def maxCells : UInt8 := 40

/-- Displays have a single row of cells. -/
def rowCount : Nat := 1

/-! ### Identities -/

/-- The bytes a device repeats when probed, and the key table they stand for. -/
structure Identity where
  /-- First identity byte. -/
  id1 : UInt8
  /-- Second identity byte. -/
  id2 : UInt8
  /-- The key table of devices that confirm. -/
  keyTable : KeyTable
  deriving DecidableEq, Repr

namespace Identity

/-- An identity that is accepted without asking. -/
def wildcard (keyTable : KeyTable) : Identity :=
  ⟨0, 0, keyTable⟩

/-- Whether the identity is accepted without asking. -/
def isWildcard (i : Identity) : Bool :=
  i.id1 == 0 && i.id2 == 0

/-- The letters `MK`. -/
def mokey : Identity := ⟨0x4D, 0x4B, .mokey⟩

/-- The letters `NT`. -/
def note : Identity := ⟨0x4E, 0x54, .note⟩

/-- The identity's two bytes, as in `4D/4B`. -/
def code (i : Identity) : String :=
  Text.hexByte i.id1 ++ "/" ++ Text.hexByte i.id2

/-- The identity as a record. -/
def json (i : Identity) : Text.Json :=
  .object [("id1", .byte i.id1), ("id2", .byte i.id2), ("key_table", .text i.keyTable.name)]

end Identity

/-- Displays of one width use another key table. -/
structure WidthRule where
  /-- The width. -/
  columns : UInt8
  /-- The table they would use. -/
  replaced : KeyTable
  /-- The table they use. -/
  replacement : KeyTable
  deriving DecidableEq, Repr

/-- The rule as a record. -/
def WidthRule.json (o : WidthRule) : Text.Json :=
  .object
    [("columns", .byte o.columns), ("from", .text o.replaced.name),
      ("to", .text o.replacement.name)]

/-- A wiring as a record: its eight bytes. -/
def DotWiring.json (wiring : DotWiring) : Text.Json :=
  .array (wiring.bits.toList.map .byte)

/-! ### Profiles -/

/-- Everything a host must know of one model. -/
structure Profile where
  /-- The short name, by which hints and the configuration refer to it. -/
  name : String
  /-- The name shown to the user. -/
  modelName : String
  /-- What resource names of the model begin with, in any case. -/
  resourcePrefix : Option String
  /-- The model's own key table. -/
  keyTable : KeyTable
  /-- The identities to probe, in order; without a list nothing is probed. -/
  identities : Option (List Identity)
  /-- The number of cells when the device does not tell. -/
  usualCells : UInt8
  /-- Key tables by width. -/
  widthRules : List WidthRule := []
  /-- How the dots are wired. -/
  dots : DotWiring := .iso
  deriving DecidableEq, Repr

/-- What makes a list of profiles unusable. -/
inductive ProfileFault where
  | noProfiles
  | emptyName
  | cellCountOutOfRange (profile : String) (count : UInt8)
  | wildcardNotLast (profile : String)
  | dotsNotAPermutation (profile : String)
  | emptyResourcePrefix (profile : String)
  | duplicate (profile : String)
  | unknownDefault (name : String)
  deriving DecidableEq, Repr

/-- The sentence shown for unusable profiles. -/
def ProfileFault.message : ProfileFault → String
  | noProfiles => "no profiles"
  | emptyName => "profile with empty name"
  | cellCountOutOfRange profile count =>
    profile ++ s!": default cell count {count} outside 1..={maxCells}"
  | wildcardNotLast profile => profile ++ ": wildcard identity must be last"
  | dotsNotAPermutation profile => profile ++ ": dot table is not a permutation"
  | emptyResourcePrefix profile => profile ++ ": empty resource name prefix"
  | duplicate profile => "duplicate profile: " ++ profile
  | unknownDefault name => "default profile '" ++ name ++ "' does not exist"

namespace Profile

/-- The model with routing keys and panning keys. -/
def note : Profile where
  name := "note"
  modelName := "Nattiq Note"
  resourcePrefix := some "Note"
  keyTable := .note
  identities := some [.mokey, .note, .wildcard .note]
  usualCells := 32

/-- The model with a braille keyboard. -/
def mokey : Profile where
  name := "mokey"
  modelName := "Nattiq Mokey"
  resourcePrefix := some "Mokey"
  keyTable := .mokey
  identities := none
  usualCells := 32

/-- Whether the profile goes by a name, in any case. -/
def isNamed (p : Profile) (name : String) : Bool :=
  Text.sameIgnoringCase p.name name

/-- Whether a resource name begins as the model's do. -/
def claims (p : Profile) (resource : String) : Bool :=
  p.resourcePrefix.any (Text.beginsIgnoringCase resource)

/-- The first rule for a width and a key table, if there is one. -/
def widthRule? (p : Profile) (table : KeyTable) (columns : UInt8) : Option WidthRule :=
  p.widthRules.find? fun o => o.columns == columns && o.replaced == table

/-- The key table of a connected display: that of the identity confirmed, else the model's own, and
what the first rule for the display's width makes of it. -/
def keyTableFor (p : Profile) (probed : Option KeyTable) (columns : UInt8) : KeyTable :=
  let table := probed.getD p.keyTable
  ((p.widthRule? table columns).map WidthRule.replacement).getD table

/-- What is logged when the key table is bound. -/
def keyTableNotes (p : Profile) (probed : Option KeyTable) (columns : UInt8) : List Note :=
  match p.widthRule? (probed.getD p.keyTable) columns with
  | none => []
  | some o =>
    let change := o.replaced.name ++ " replaced by " ++ o.replacement.name
    [.log .info (s!"{columns} columns: key table " ++ change)]

/-- Whether no identity but the last is a wildcard. -/
def wildcardsLast (identities : List Identity) : Bool :=
  identities.dropLast.all (!·.isWildcard)

/-- The first thing wrong with a profile, whatever others there are. -/
def fault? (p : Profile) : Option ProfileFault :=
  if p.name = "" then some .emptyName
  else if ¬(1 ≤ p.usualCells ∧ p.usualCells ≤ maxCells) then
    some (.cellCountOutOfRange p.name p.usualCells)
  else if p.identities.any (!wildcardsLast ·) then some (.wildcardNotLast p.name)
  else if !p.dots.isOneToOne then some (.dotsNotAPermutation p.name)
  else if p.resourcePrefix = some "" then some (.emptyResourcePrefix p.name)
  else none

/-- The profile as a record. -/
def json (p : Profile) : Text.Json :=
  .object
    [("name", .text p.name), ("model_name", .text p.modelName),
      ("resource_name_prefix", .optional p.resourcePrefix), ("key_table", .text p.keyTable.name),
      ("identities", (p.identities.map fun ids => .array (ids.map Identity.json)).getD .null),
      ("default_cell_count", .byte p.usualCells),
      ("key_table_overrides", .array (p.widthRules.map WidthRule.json)),
      ("dot_table", p.dots.json)]

end Profile

end BrailleDisplay
