import BrailleDisplay.Channel.Traffic
import BrailleDisplay.CommandLine.Arguments
import BrailleDisplay.CommandLine.Failure

/-!
# What a command works with

* `Surroundings`, `Invocation.configFile` — where the configuration is looked for;
* `FileContents`, `ConfigFile.load` — what was found there, and the configuration it makes: a file
  that is named must exist, the one looked for by default need not;
* `Setup.prepare` — configuration, locator, printer and profiles, in this order of failing.
-/

namespace BrailleDisplay.CommandLine

/-! ### The configuration file -/

/-- The variables that tell where configurations are kept. -/
structure Surroundings where
  /-- The directory of configurations. -/
  configHome : Option String := none
  /-- The user's directory. -/
  home : Option String := none
  deriving DecidableEq, Repr

/-- A path under a directory. -/
def joinPath (directory path : String) : String :=
  if directory = "" ∨ directory.toList.getLast? = some '/' then directory ++ path
  else directory ++ "/" ++ path

/-- Where a configuration is looked for unless it is named. -/
def Surroundings.configPath (s : Surroundings) : String :=
  let directory :=
    match s.configHome, s.home with
    | some configHome, _ => joinPath configHome "nattiq"
    | none, some home => joinPath home ".config/nattiq"
    | none, none => "/etc/nattiq"
  joinPath directory "driver.toml"

/-- A file to read a configuration from. -/
structure ConfigFile where
  /-- Its path. -/
  path : String
  /-- Whether it must exist. -/
  required : Bool
  deriving DecidableEq, Repr

/-- The file to read the configuration from. -/
def Invocation.configFile (invocation : Invocation) (s : Surroundings) : ConfigFile :=
  match invocation.config with
  | some path => ⟨path, true⟩
  | none => ⟨s.configPath, false⟩

/-- What was found at a path. -/
inductive FileContents where
  /-- There is nothing. -/
  | absent (reason : String)
  /-- There is something that cannot be read. -/
  | unreadable (reason : String)
  /-- There is a text. -/
  | content (text : String)
  deriving DecidableEq, Repr

/-- The configuration that a file makes. -/
def ConfigFile.load (file : ConfigFile) : FileContents → Except ConfigFault Configuration
  | .content text => (Configuration.parse text).mapError .parse
  | .unreadable reason => .error (.read file.path reason)
  | .absent reason => if file.required then .error (.read file.path reason) else .ok {}

/-! ### Preparing a command -/

/-- What a command works with. -/
structure Setup where
  /-- The configuration. -/
  config : Configuration
  /-- Which display to open. -/
  locator : Locator
  /-- How traffic is printed, if it is. -/
  printer : Option PrintOptions
  /-- The profiles to choose from. -/
  profiles : ProfileSet

namespace Setup

/-- Which display to open: the one named by an option, or else the one configured. -/
def chooseLocator (device : Option String) (config : Configuration) : Except Failure Locator :=
  match device with
  | some device =>
    (Locator.parse device).mapError fun e =>
      (Failure.ofTransport e).within ("invalid --device '" ++ device ++ "'")
  | none => config.locator.mapError .ofConfig

/-- How traffic is printed, if it is; otherwise the format does not matter. -/
def choosePrinter (monitor : Bool) (format : String) : Except Failure (Option PrintOptions) :=
  if monitor then
    match TrafficFormat.parse format with
    | .ok format => .ok (some (PrintOptions.inFormat {} format))
    | .error unknown => .error { message := unknown.message }
  else .ok none

/-- What an invocation works with, given its configuration file. -/
def ofFile (invocation : Invocation) (file : ConfigFile) (contents : FileContents) :
    Except Failure Setup := do
  let config ← (file.load contents).mapError .ofConfig
  let locator ← chooseLocator invocation.device config
  let printer ← choosePrinter invocation.monitor invocation.monitorFormat
  let profiles ← config.profileSet.mapError .ofConfig
  return { config, locator, printer, profiles }

/-- What an invocation works with; any failure is one of loading the configuration. -/
def prepare (invocation : Invocation) (file : ConfigFile) (contents : FileContents) :
    Except Failure Setup :=
  (ofFile invocation file contents).mapError (.within "loading configuration")

end Setup

end BrailleDisplay.CommandLine
