import BrailleDisplay.Channel.Locator
import BrailleDisplay.Config.Basic
import BrailleDisplay.Display.Fault

/-!
# A configuration put to use

* `ConfigFault` — why a configuration cannot be read or used;
* `Configuration.locator` — which display to open;
* `ProfileChanges.applyTo`, `Configuration.profileSet` — the standard profiles, changed as
  configured.
-/

namespace BrailleDisplay

/-- Why a configuration cannot be read or used. -/
inductive ConfigFault where
  /-- The file cannot be read. -/
  | read (path reason : String)
  /-- The file is no configuration. -/
  | parse (fault : Toml.Fault)
  /-- Changes are given for a model that is not a standard one. -/
  | unknownProfile (name : String)
  /-- The changed profiles cannot be used. -/
  | protocol (cause : DisplayFault)
  /-- The display is not well named. -/
  | device (cause : ChannelFault)
  deriving DecidableEq, Repr

namespace ConfigFault

/-- The sentence shown for a failure. -/
def message : ConfigFault → String
  | read path reason => "read " ++ path ++ ": " ++ reason
  | parse fault => "parse TOML: " ++ fault.message
  | unknownProfile name => "unknown profile in configuration: " ++ name
  | protocol cause => cause.message
  | device cause => "device: " ++ cause.message

/-- The sentences of what lies behind a failure, the nearest cause first. -/
def causes : ConfigFault → List String
  | read _ reason => [reason]
  | parse fault => [fault.message]
  | unknownProfile _ => []
  | protocol cause => cause.causes
  | device cause => [cause.message]

end ConfigFault

/-- A profile with the changes made; width rules are added behind those there are. -/
def ProfileChanges.applyTo (c : ProfileChanges) (p : Profile) : Profile :=
  { p with
    modelName := c.modelName.getD p.modelName
    resourcePrefix := c.resourcePrefix.or p.resourcePrefix
    usualCells := c.cellCount.getD p.usualCells
    identities :=
      match c.identities with
      | none => p.identities
      | some [] => none
      | some (first :: more) => some (first :: more)
    widthRules := p.widthRules ++ c.widthRules
    dots := c.dots.getD p.dots }

/-- The list with the first profile of a name, in any case, changed. -/
def changeNamed? (name : String) (change : Profile → Profile) :
    List Profile → Option (List Profile)
  | [] => none
  | p :: rest =>
    if p.isNamed name then some (change p :: rest)
    else (changeNamed? name change rest).map (p :: ·)

namespace Configuration

/-- Which display to open: any, unless one is configured. -/
def locator (c : Configuration) : Except ConfigFault Locator :=
  match c.device with
  | some device => (Locator.parse device).mapError .device
  | none => .ok .any

/-- The changes in the order of the models' names. -/
def inOrder (c : Configuration) : List (String × ProfileChanges) :=
  c.profiles.mergeSort fun a b => decide (a.1 ≤ b.1)

/-- The standard profiles, changed as configured. -/
def changedProfiles (c : Configuration) : Except ConfigFault (List Profile) :=
  c.inOrder.foldlM (fun profiles (name, changes) =>
    match changeNamed? name changes.applyTo profiles with
    | some changed => .ok changed
    | none => .error (.unknownProfile name)) ProfileSet.standard.profiles

/-- The profiles to choose from under a configuration. -/
def profileSet (c : Configuration) : Except ConfigFault ProfileSet := do
  let defaultName := c.fallback.getD ProfileSet.standard.fallback.name
  match ProfileSet.ofProfiles (← c.changedProfiles) defaultName with
  | .ok set => return set
  | .error fault => throw (.protocol (.invalidConfig fault))

end Configuration

end BrailleDisplay
