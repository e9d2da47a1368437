import BrailleDisplay.Profile.Set
import BrailleDisplay.Toml.Document
import BrailleDisplay.Toml.Record

/-!
# What a configuration says

A configuration is a TOML document.  It may name the display to open and the profile to fall back
to, and change single properties of the standard models; all of it may be left out.

* `ProfileChanges` — the changes to one model;
* `Configuration` — a whole configuration, `Configuration.parse` reading it from a document;
* `Configuration.json` — the configuration as a record.

Fields of other names are refused, except in an identity or a width rule, where they are ignored.
-/

namespace BrailleDisplay

/-- Changes to one of the standard models. -/
structure ProfileChanges where
  /-- Another name to show to the user. -/
  modelName : Option String := none
  /-- Another beginning of resource names. -/
  resourcePrefix : Option String := none
  /-- Another number of cells when the device does not tell. -/
  cellCount : Option UInt8 := none
  /-- Other identities to probe; none at all means that nothing is probed. -/
  identities : Option (List Identity) := none
  /-- Further rules for key tables, considered after those of the model. -/
  widthRules : List WidthRule := []
  /-- Another wiring of the dots. -/
  dots : Option DotWiring := none
  deriving DecidableEq, Repr

/-- A configuration. -/
structure Configuration where
  /-- Which display to open, as a locator. -/
  device : Option String := none
  /-- The profile to fall back to. -/
  fallback : Option String := none
  /-- Changes by the name of the model. -/
  profiles : List (String × ProfileChanges) := []
  deriving DecidableEq, Repr

open Toml (Fault Value Record)

/-! ### Reading a document -/

/-- A key table by its exact name: as a text, or as the one key of a table with nothing in it. -/
def KeyTable.ofToml (v : Value) : Except Fault KeyTable := do
  let name ← match v with
    | .table [(name, content)] =>
      if content.isEmpty then pure name else throw (.wrongKind "the name of a key table")
    | v => v.asText
  match KeyTable.all.find? (·.name == name) with
  | some table => return table
  | none => throw (.wrongKind "the name of a key table")

/-- An identity. -/
def Identity.ofToml (v : Value) : Except Fault Identity := do
  let record ← v.asRecord ["id1", "id2", "key_table"]
  return {
    id1 := ← record.required "id1" Value.asByte
    id2 := ← record.required "id2" Value.asByte
    keyTable := ← record.required "key_table" KeyTable.ofToml }

/-- A rule for the key table of one width. -/
def WidthRule.ofToml (v : Value) : Except Fault WidthRule := do
  let record ← v.asRecord ["columns", "from", "to"]
  return {
    columns := ← record.required "columns" Value.asByte
    replaced := ← record.required "from" KeyTable.ofToml
    replacement := ← record.required "to" KeyTable.ofToml }

/-- A dot table: the first eight items of an array. -/
def DotWiring.ofToml (v : Value) : Except Fault DotWiring := do
  match DotWiring.ofList? (← ((← v.asItems).take dotCount).mapM Value.asByte) with
  | some table => return table
  | none => throw (.wrongKind "an array of eight integers")

/-- The changes to one model. -/
def ProfileChanges.ofToml (v : Value) : Except Fault ProfileChanges := do
  let record ← v.asClosedRecord
    ["model_name", "resource_name_prefix", "default_cell_count", "identities",
      "key_table_overrides", "dot_table"]
  let widthRules ← record.optional "key_table_overrides" (Value.asList WidthRule.ofToml)
  return {
    modelName := ← record.optional "model_name" Value.asText
    resourcePrefix := ← record.optional "resource_name_prefix" Value.asText
    cellCount := ← record.optional "default_cell_count" Value.asByte
    identities := ← record.optional "identities" (Value.asList Identity.ofToml)
    widthRules := widthRules.getD []
    dots := ← record.optional "dot_table" DotWiring.ofToml }

/-- The changes to all models. -/
def ProfileChanges.allOfToml (v : Value) : Except Fault (List (String × ProfileChanges)) := do
  (← v.asEntries).mapM fun (name, changes) => do return (name, ← ofToml changes)

/-- Read a configuration. -/
def Configuration.parse (document : String) : Except Fault Configuration := do
  let root := Value.table (← Toml.parse document)
  let record ← root.asClosedRecord ["device", "default_profile", "profiles"]
  let profiles ← record.optional "profiles" ProfileChanges.allOfToml
  return {
    device := ← record.optional "device" Value.asText
    fallback := ← record.optional "default_profile" Value.asText
    profiles := profiles.getD [] }

/-! ### As a record -/

open Text (Json)

/-- The changes to one model as a record. -/
def ProfileChanges.json (c : ProfileChanges) : Json :=
  .object
    [("model_name", .optional c.modelName), ("resource_name_prefix", .optional c.resourcePrefix),
      ("default_cell_count", (c.cellCount.map Json.byte).getD .null),
      ("identities", (c.identities.map fun ids => .array (ids.map Identity.json)).getD .null),
      ("key_table_overrides", .array (c.widthRules.map WidthRule.json)),
      ("dot_table", (c.dots.map DotWiring.json).getD .null)]

/-- The configuration as a record. -/
def Configuration.json (c : Configuration) : Json :=
  .object
    [("device", .optional c.device), ("default_profile", .optional c.fallback),
      ("profiles", .object (c.profiles.map fun (name, changes) => (name, changes.json)))]

end BrailleDisplay
