/-!
# Arguments of the command line

Arguments are read from left to right, and the first thing that is wrong with them, or that asks for
no more than a text, ends the reading (`Stop`).

* `Word` — the shape of an argument: `--`, `--name` with or without `=value`, letters behind a dash,
  or anything else;
* `Choice` — the options, `Choice.long?` and `Choice.letter?` finding them by name: most are known
  everywhere, two belong to commands;
* `Scanner` — what has been read of one level, the level being the program's own or a command's;
* `Invocation.parse` — what a list of arguments asks for.

A value of an option is the rest of its word, behind an equals sign if there is one, or else the
next argument, which must not look like an option.  An option may be given once at each level, and
at the level of the command it counts more.
-/

namespace BrailleDisplay.CommandLine

/-! ### Words -/

/-- The shape of an argument. -/
inductive Word where
  /-- Two dashes: no option follows. -/
  | endOfOptions
  /-- A name behind two dashes, and what stands behind an equals sign. -/
  | long (name : String) (value : Option String)
  /-- Letters behind one dash. -/
  | letters (chars : List Char)
  /-- Anything else; a single dash is nothing special. -/
  | plain (text : String)
  deriving DecidableEq, Repr

/-- The shape of an argument. -/
def Word.ofArgument (argument : String) : Word :=
  match argument.toList with
  | ['-', '-'] => endOfOptions
  | '-' :: '-' :: rest =>
    let name := String.ofList (rest.takeWhile (· != '='))
    match rest.dropWhile (· != '=') with
    | [] => long name none
    | _ :: value => long name (some (String.ofList value))
  | '-' :: c :: rest => letters (c :: rest)
  | _ => plain argument

/-! ### Options and commands -/

/-- What can be done. -/
inductive CommandName where
  | list
  | info
  | profiles
  | write
  | clear
  | keys
  deriving DecidableEq, Repr

namespace CommandName

/-- The full name. -/
def name : CommandName → String
  | list => "list"
  | info => "info"
  | profiles => "profiles"
  | write => "write"
  | clear => "clear"
  | keys => "keys"

/-- The names a command goes by. -/
def names : CommandName → List String
  | list => ["list", "ls"]
  | info => ["info", "i", "detect"]
  | profiles => ["profiles"]
  | write => ["write", "w"]
  | clear => ["clear"]
  | keys => ["keys", "k", "input"]

/-- Every command. -/
def all : List CommandName := [list, info, profiles, write, clear, keys]

/-- The command of a name. -/
def find? (text : String) : Option CommandName :=
  all.find? (·.names.contains text)

end CommandName

/-- An option. -/
inductive Choice where
  /-- The display to open. -/
  | device
  /-- The configuration file. -/
  | config
  /-- Print all traffic. -/
  | monitor
  /-- How traffic is printed. -/
  | monitorFormat
  /-- Log more. -/
  | verbose
  /-- Show how the program is used. -/
  | help
  /-- Show the version. -/
  | version
  /-- How many events to wait for. -/
  | count
  /-- Print JSON. -/
  | json
  deriving DecidableEq, Repr

namespace Choice

/-- Whether an option has a value. -/
def takesValue : Choice → Bool
  | device => true
  | config => true
  | monitorFormat => true
  | count => true
  | _ => false

/-- The name behind two dashes. -/
def longName : Choice → String
  | device => "device"
  | config => "config"
  | monitor => "monitor"
  | monitorFormat => "monitor-format"
  | verbose => "verbose"
  | help => "help"
  | version => "version"
  | count => "count"
  | json => "json"

/-- The letter behind one dash. -/
def letter : Choice → Option Char
  | device => some 'd'
  | verbose => some 'v'
  | help => some 'h'
  | version => some 'V'
  | count => some 'n'
  | _ => none

/-- The options known everywhere. -/
def common : List Choice :=
  [device, config, monitor, monitorFormat, verbose, help, version]

/-- The options known at a level. -/
def known : Option CommandName → List Choice
  | some .profiles => common ++ [json]
  | some .keys => common ++ [count, json]
  | _ => common

/-- The option of a name. -/
def long? (level : Option CommandName) (name : String) : Option Choice :=
  (known level).find? (·.longName == name)

/-- The option of a letter. -/
def letter? (level : Option CommandName) (c : Char) : Option Choice :=
  (known level).find? (·.letter == some c)

end Choice

/-- Why the reading ends early. -/
inductive Stop where
  /-- The arguments are wrong. -/
  | usage
  /-- Only the help text is asked for. -/
  | help
  /-- Only the version is asked for, of the program or under the name of a command. -/
  | version (command : Option CommandName)
  deriving DecidableEq, Repr

/-! ### One level -/

/-- What was given at one level. -/
structure Given where
  /-- The display to open. -/
  device : Option String := none
  /-- The configuration file. -/
  config : Option String := none
  /-- Whether to print all traffic. -/
  monitor : Bool := false
  /-- How traffic is printed. -/
  monitorFormat : Option String := none
  /-- How many events to wait for. -/
  count : Option Nat := none
  /-- Whether to print JSON. -/
  json : Bool := false
  /-- The arguments that are no options. -/
  operands : List String := []
  deriving DecidableEq, Repr

/-- A number of events: digits, perhaps behind a plus sign, below `2 ^ 64`. -/
def parseCount (text : String) : Option Nat :=
  let digits := match text.toList with
    | '+' :: rest => rest
    | chars => chars
  if digits.isEmpty || !digits.all (fun c => '0' ≤ c && c ≤ '9') then none
  else
    let n := digits.foldl (fun sum c => 10 * sum + (c.toNat - '0'.toNat)) 0
    if n < Nat.pow 2 64 then some n else none

namespace Given

/-- What was given, with one more option without a value. -/
def flag (g : Given) (level : Option CommandName) : Choice → Except Stop Given
  | .monitor => if g.monitor then .error .usage else .ok { g with monitor := true }
  | .json => if g.json then .error .usage else .ok { g with json := true }
  | .help => .error .help
  | .version => .error (.version level)
  | _ => .ok g

/-- What was given, with the value of one more option. -/
def value (g : Given) (text : String) : Choice → Except Stop Given
  | .device =>
    if g.device.isSome then .error .usage else .ok { g with device := some text }
  | .config =>
    if g.config.isSome ∨ text = "" then .error .usage else .ok { g with config := some text }
  | .monitorFormat =>
    if g.monitorFormat.isSome then .error .usage else .ok { g with monitorFormat := some text }
  | .count =>
    if g.count.isSome then .error .usage
    else
      match parseCount text with
      | some n => .ok { g with count := some n }
      | none => .error .usage
  | _ => .error .usage

end Given

/-- An option whose value is not settled yet. -/
inductive Pending where
  | nothing
  /-- The next argument is its value. -/
  | wanting (choice : Choice)
  /-- Its value has come and will be looked at next. -/
  | having (choice : Choice) (value : String)
  deriving DecidableEq, Repr

/-- What has been read of one level. -/
structure Scanner where
  /-- The level: a command's, or the program's own. -/
  level : Option CommandName
  /-- What was given so far. -/
  given : Given := {}
  /-- The option to be settled first. -/
  pending : Pending := .nothing
  /-- Whether two dashes have been read. -/
  optionsEnded : Bool := false
  deriving DecidableEq, Repr

namespace Scanner

/-- Settle the option that is pending. -/
def settle (s : Scanner) : Except Stop Scanner :=
  match s.pending with
  | .nothing => .ok s
  | .wanting _ => .error .usage
  | .having choice text => do
    return { s with given := ← s.given.value text choice, pending := .nothing }

/-- Whether the next argument is a value. -/
def wantsValue (s : Scanner) : Bool :=
  match s.pending with
  | .wanting _ => true
  | _ => false

/-- Read an option without a value. -/
def readFlag (s : Scanner) (choice : Choice) : Except Stop Scanner := do
  let s ← s.settle
  return { s with given := ← s.given.flag s.level choice }

/-- Read an option with a value, which may be attached. -/
def readValued (s : Scanner) (choice : Choice) (attached : Option String) :
    Except Stop Scanner := do
  let s ← s.settle
  match attached with
  | some text => return { s with given := ← s.given.value text choice }
  | none => return { s with pending := .wanting choice }

/-- Read an option by its name. -/
def readLong (s : Scanner) (name : String) (attached : Option String) : Except Stop Scanner :=
  match Choice.long? s.level name with
  | none => .error .usage
  | some choice =>
    if choice.takesValue then s.readValued choice attached
    else if attached.isSome then .error .usage
    else s.readFlag choice

/-- Read options by their letters; the letters behind one that has a value are its value. -/
def readLetters (s : Scanner) : List Char → Except Stop Scanner
  | [] => .ok s
  | c :: rest =>
    match Choice.letter? s.level c with
    | none => .error .usage
    | some choice =>
      if choice.takesValue then
        s.readValued choice <|
          match rest with
          | [] => none
          | '=' :: text => some (String.ofList text)
          | text => some (String.ofList text)
      else do
        (← s.readFlag choice).readLetters rest

/-- Read an argument that is no option. -/
def readOperand (s : Scanner) (text : String) : Except Stop Scanner :=
  match s.level with
  | some .write => do
    let s ← s.settle
    return { s with given := { s.given with operands := s.given.operands ++ [text] } }
  | _ => .error .usage

/-- Read an argument that is no command. -/
def read (s : Scanner) (argument : String) : Except Stop Scanner :=
  if s.optionsEnded then s.readOperand argument
  else
    match Word.ofArgument argument, s.pending with
    | .endOfOptions, _ => .ok { s with optionsEnded := true }
    | .long name attached, _ => s.readLong name attached
    | .letters chars, _ => s.readLetters chars
    | .plain text, .wanting choice => .ok { s with pending := .having choice text }
    | .plain text, _ => s.readOperand text

/-- Read the arguments of a command to the end. -/
def readAll (s : Scanner) : List String → Except Stop Given
  | [] => do
    let s ← s.settle
    if s.level = some .write ∧ s.given.operands = [] then throw .usage
    return s.given
  | argument :: rest => do (← s.read argument).readAll rest

/-- Whether an argument may name a command. -/
def expectsCommand (s : Scanner) : Bool :=
  !s.optionsEnded && !s.wantsValue

end Scanner

/-! ### All arguments -/

/-- What can be done, with what it needs. -/
inductive Command where
  | list
  | info
  | profiles (json : Bool)
  | write (cells : List String)
  | clear
  | keys (count : Option Nat) (json : Bool)
  deriving DecidableEq, Repr

/-- What a list of arguments asks for. -/
structure Invocation where
  /-- The display to open. -/
  device : Option String
  /-- The configuration file. -/
  config : Option String
  /-- Whether to print all traffic. -/
  monitor : Bool
  /-- How traffic is printed. -/
  monitorFormat : String
  /-- What to do. -/
  command : Command
  deriving DecidableEq, Repr

/-- The command of a name, with what was given to it. -/
def Command.ofGiven (given : Given) : CommandName → Command
  | .list => .list
  | .info => .info
  | .profiles => .profiles given.json
  | .write => .write given.operands
  | .clear => .clear
  | .keys => .keys given.count given.json

/-- What is asked for at the program's own level and at that of a command; without a command, the
display is described. -/
def Invocation.ofGiven (own : Given) (command : Option (CommandName × Given)) : Invocation :=
  let inner := (command.map Prod.snd).getD {}
  { device := inner.device.or own.device
    config := inner.config.or own.config
    monitor := inner.monitor || own.monitor
    monitorFormat := (inner.monitorFormat.or own.monitorFormat).getD "text"
    command := command.elim .info fun (name, given) => .ofGiven given name }

/-- The word that asks for help about the commands named after it. -/
def helpWord : String := "help"

/-- Whether help can be had about these words: nothing, or one command. -/
def isHelpTopic : List String → Bool
  | [] => true
  | [topic] => (CommandName.find? topic).isSome || topic == helpWord
  | _ => false

/-- Read the arguments from the program's own level on. -/
def readProgram (s : Scanner) : List String → Except Stop Invocation
  | [] => do return .ofGiven (← s.settle).given none
  | argument :: rest =>
    if s.expectsCommand && argument == helpWord then
      .error (if isHelpTopic rest then .help else .usage)
    else
      match if s.expectsCommand then CommandName.find? argument else none with
      | some name => do
        let inner ← Scanner.readAll { level := some name } rest
        return .ofGiven (← s.settle).given (some (name, inner))
      | none => do readProgram (← s.read argument) rest

/-- What a list of arguments asks for. -/
def Invocation.parse (arguments : List String) : Except Stop Invocation :=
  readProgram { level := none } arguments

end BrailleDisplay.CommandLine
