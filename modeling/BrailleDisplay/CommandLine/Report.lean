import BrailleDisplay.Display.Connection
import BrailleDisplay.Hid.Search

/-!
# What the commands print

* `displayLines` — a connected display, one property a line;
* `profileSetLines` — the profiles there are;
* `deviceLines` — the displays on the bus, those that would be opened marked by a star;
* `eventText`, `eventRecord` — a key event, for reading and as a record.
-/

namespace BrailleDisplay.CommandLine

open Text (hexByte hexWidth decimalWidth padRight Json)

/-- How an identity was found. -/
def identityText : Option Identity → String
  | none => "none"
  | some i =>
    if i.isWildcard then "assumed (" ++ i.keyTable.name ++ ")"
    else i.code ++ " (" ++ i.keyTable.name ++ ")"

/-- The width of a display, and how it is known. -/
def widthText : Width → String
  | .reported n => toString n
  | .assumed n => toString n ++ " (device did not report, profile default)"

/-- A connected display, one property a line. -/
def displayLines {χ : Type} (info : DeviceInfo) (display : Display χ) : List String :=
  let resource := match info.resourceName with
    | some name => ["Resource:   " ++ name]
    | none => []
  ["Model:      " ++ display.modelName,
      "Channel:    " ++ info.transport.title ++ " " ++ info.ids ++ " " ++ info.path]
    ++ resource
    ++ ["Identity:   " ++ identityText display.identity,
      "Cells:      " ++ widthText display.width,
      "Rows:       " ++ toString rowCount,
      "Key table:  " ++ display.keyTable.name]

/-! ### Profiles -/

/-- A width rule as a line. -/
def widthRuleLine (o : WidthRule) : String :=
  s!"  override:      {o.columns} columns: " ++ o.replaced.name ++ " -> " ++ o.replacement.name

/-- The identities of a profile, in the order in which they are probed. -/
def identitiesText : Option (List Identity) → String
  | none => "(not probed)"
  | some identities => ", ".intercalate (identities.map (identityText ∘ some))

/-- A profile, one property a line; `isDefault` tells whether it is the one to fall back to. -/
def profileLines (isDefault : Bool) (p : Profile) : List String :=
  [p.name ++ (if isDefault then " (default)" else ""),
      "  model:         " ++ p.modelName,
      "  prefix:        " ++ p.resourcePrefix.getD "-",
      "  key table:     " ++ p.keyTable.name,
      "  default cells: " ++ toString p.usualCells,
      "  identities:    " ++ identitiesText p.identities]
    ++ p.widthRules.map widthRuleLine

/-- The profiles of a set. -/
def profileSetLines (set : ProfileSet) : List String :=
  let fallbackName := set.fallback.name
  set.profiles.flatMap fun p => profileLines (p.name == fallbackName) p

/-! ### Devices -/

/-- A display on the bus; `selected` tells whether the locator accepts it. -/
def deviceLine (selected : Bool) (d : FoundDevice) : String :=
  let mark := if selected then "* " else "  "
  mark ++ padRight 9 ' ' d.info.transport.title ++ " " ++ d.info.ids
    ++ s!" if={d.interfaceNumber}" ++ " serial=" ++ d.info.serial.getD "-"
    ++ " name=" ++ d.info.resourceName.getD "-" ++ " path=" ++ d.info.path

/-- The displays on the bus, and the one that is configured. -/
def deviceLines (locator : Locator) (configured : Option String)
    (devices : List FoundDevice) : List String :=
  if devices.isEmpty then ["No Nattiq displays found"]
  else
    let note := match configured with
      | some device => ["(configured device: " ++ device ++ ")"]
      | none => []
    "Nattiq displays:" :: devices.map (fun d => deviceLine (locator.accepts d) d) ++ note

/-! ### Key events -/

/-- A key event, for reading. -/
def eventText (table : KeyTable) (event : KeyEvent) : String :=
  let names := event.labels table
  match event with
  | .routingKeyPress index =>
    "routing   cell " ++ decimalWidth 2 index.toNat ++ "  " ++ " ".intercalate names
  | .navigationKeySet bits =>
    if bits = 0 then "keys      released"
    else "keys      " ++ hexWidth 8 bits.toNat ++ "  " ++ "+".intercalate names

/-- A key event as a record. -/
def eventRecord (table : KeyTable) (event : KeyEvent) : Json :=
  .object (event.fields ++ [("keys", .array ((event.labels table).map .text))])

end BrailleDisplay.CommandLine
