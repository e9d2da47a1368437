import BrailleDisplay.Profile.Basic

/-!
# Sets of profiles

A set holds the profiles a host may choose from, and the name of the one to fall back to.

* `ProfileSet.standard` — the standard models;
* `ProfileSet.ofProfiles` — profiles with a name to fall back to, accepted only when nothing is
  wrong with them;
* `ProfileSet.find?`, `ProfileSet.profileFor` — the profile of a name, and of a connected channel.
-/

namespace BrailleDisplay

/-- The profiles a host may choose from. -/
structure ProfileSet where
  /-- The profiles, in order of preference. -/
  profiles : List Profile
  /-- The name of the profile to fall back to. -/
  defaultName : String
  /-- There is a profile. -/
  profiles_ne_nil : profiles ≠ []

namespace ProfileSet

/-- The standard models, with `note` to fall back to. -/
def standard : ProfileSet where
  profiles := [.note, .mokey]
  defaultName := "note"
  profiles_ne_nil := by simp

/-- The profile of a name, in any case. -/
def find? (set : ProfileSet) (name : String) : Option Profile :=
  set.profiles.find? (·.isNamed name)

/-- The profile to fall back to. -/
def fallback (set : ProfileSet) : Profile :=
  (set.find? set.defaultName).getD (set.profiles.head set.profiles_ne_nil)

/-- The first thing wrong with profiles that follow those in `earlier`: one profile after the other,
and its own faults before that of a name already used. -/
def firstFault? (earlier : List Profile) : List Profile → Option ProfileFault
  | [] => none
  | p :: rest =>
    match p.fault? with
    | some fault => some fault
    | none =>
      if earlier.any (·.isNamed p.name) then some (.duplicate p.name)
      else firstFault? (earlier ++ [p]) rest

/-- A set of profiles with a default, unless something is wrong with it. -/
def ofProfiles (profiles : List Profile) (defaultName : String) :
    Except ProfileFault ProfileSet :=
  if nonempty : profiles = [] then .error .noProfiles
  else
    match firstFault? [] profiles with
    | some fault => .error fault
    | none =>
      let set : ProfileSet := ⟨profiles, defaultName, nonempty⟩
      if (set.find? defaultName).isSome then .ok set
      else .error (.unknownDefault defaultName)

/-! ### Selection -/

/-- The profile a hint names. -/
def hinted? (set : ProfileSet) (info : DeviceInfo) : Option Profile :=
  info.profileHint.bind set.find?

/-- The first profile whose model claims the resource name. -/
def claimed? (set : ProfileSet) (info : DeviceInfo) : Option Profile :=
  info.resourceName.bind fun resource => set.profiles.find? (·.claims resource)

/-- The profile for a connected channel: the one its hint names, else the first that claims its
resource name, else the default. -/
def profileFor (set : ProfileSet) (info : DeviceInfo) : Profile :=
  match set.hinted? info with
  | some p => p
  | none => (set.claimed? info).getD set.fallback

/-- What is logged when a hint is looked up. -/
def hintNotes (set : ProfileSet) (info : DeviceInfo) : List Note :=
  match info.profileHint with
  | none => []
  | some hint =>
    match set.find? hint with
    | some p => [.log .debug ("profile from channel hint: " ++ p.name)]
    | none => [.log .debug ("channel hint names unknown profile: " ++ hint)]

/-- What is logged when a resource name is looked up. -/
def resourceNotes (set : ProfileSet) (info : DeviceInfo) : List Note :=
  match info.resourceName, set.claimed? info with
  | some resource, some p =>
    [.log .debug ("profile from resource name '" ++ resource ++ "': " ++ p.name)]
  | _, _ => []

/-- What is logged when a profile is selected. -/
def profileNotes (set : ProfileSet) (info : DeviceInfo) : List Note :=
  set.hintNotes info ++ (if (set.hinted? info).isSome then [] else set.resourceNotes info)

/-- The set as a record. -/
def json (set : ProfileSet) : Text.Json :=
  .object
    [("profiles", .array (set.profiles.map Profile.json)),
      ("default_profile", .text set.defaultName)]

end ProfileSet

end BrailleDisplay
