import InfraSynth.Text.Affix

/-!
# Arguments of the command line

The arguments name a command, what it works on, and options.  Some options belong
to every command and may stand before its name as well.  Before the name and after
it each option may be given once; where an option with a value is given in both
places, the one after the name counts.

## Main definitions

* `Switch` are the options.
* `Invocation.ofArguments` understands a list of arguments.
-/

namespace InfraSynth.Command

/-- What may be asked for. -/
inductive Request
  | synth (path : String) (output : Option String) (toStdout : Bool)
  | validate (path : String)
  | resources (asJson : Bool)
  | cost (path : String)
  deriving DecidableEq, Repr

/-- A request with the options that belong to all of them. -/
structure Invocation where
  verbose : Bool
  quiet : Bool
  logJson : Bool
  config : Option String
  request : Request
  deriving DecidableEq, Repr

/-- Why there is nothing to do after the arguments have been read. -/
inductive Stop
  | usage
  | help
  /-- The version is asked for, of the program or of one of its commands. -/
  | version (command : Option String)
  deriving DecidableEq, Repr

/-! ## Options -/

/-- The options. -/
inductive Switch
  | verbose
  | quiet
  | logJson
  | config
  | output
  | stdout
  | json
  | help
  | version
  deriving DecidableEq, Repr

namespace Switch

/-- The name after two hyphens. -/
def name : Switch → String
  | verbose => "verbose"
  | quiet => "quiet"
  | logJson => "log-json"
  | config => "config"
  | output => "output"
  | stdout => "stdout"
  | json => "json"
  | help => "help"
  | version => "version"

/-- The letter after one hyphen. -/
def letter? : Switch → Option Char
  | verbose => some 'v'
  | quiet => some 'q'
  | config => some 'c'
  | output => some 'o'
  | help => some 'h'
  | version => some 'V'
  | logJson | stdout | json => none

/-- Whether a value follows. -/
def takesValue : Switch → Bool
  | config | output => true
  | _ => false

/-- The options that may stand before and after the name of a command. -/
def common : List Switch :=
  [verbose, quiet, logJson, config, help, version]

end Switch

/-- What has been given so far. -/
structure Given where
  flags : List Switch
  values : List (Switch × String)
  path : Option String

namespace Given

/-- Nothing has been given. -/
def nothing : Given :=
  ⟨[], [], none⟩

/-- Whether an option without value has been given. -/
def has (given : Given) (flag : Switch) : Bool :=
  given.flags.contains flag

/-- The value of an option. -/
def value? (given : Given) (switch : Switch) : Option String :=
  given.values.lookup switch

/-- Give an option a value, which may not be empty. -/
def addValue (given : Given) (switch : Switch) (value : String) : Except Stop Given :=
  if value.isEmpty ∨ (given.value? switch).isSome = true then .error .usage
  else .ok { given with values := (switch, value) :: given.values }

/-- Give the path to work on, which may not be empty. -/
def addPath (given : Given) (path : String) : Except Stop Given :=
  if path.isEmpty ∨ given.path.isSome = true then .error .usage
  else .ok { given with path }

end Given

/-! ## Reading options -/

/-- A part of the command line: what follows the name of a command, or what precedes
it. -/
structure Part where
  command : Option String
  switches : List Switch

namespace Part

/-- Give an option without value.  Help and version are told at once. -/
def addFlag (part : Part) (given : Given) (flag : Switch) : Except Stop Given :=
  match flag with
  | .help => .error .help
  | .version => .error (.version part.command)
  | flag =>
    if given.has flag then .error .usage
    else .ok { given with flags := flag :: given.flags }

/-- Options given by letters in one argument.  The last of them may have its value
there, or wait for it. -/
def readLetters (part : Part) (given : Given) :
    List Char → Except Stop (Given × Option Switch)
  | [] => .ok (given, none)
  | letter :: rest =>
    match part.switches.find? (·.letter? = some letter) with
    | none => .error .usage
    | some switch =>
      if switch.takesValue then
        match rest with
        | [] => .ok (given, some switch)
        | '=' :: value | value => do return (← given.addValue switch (String.ofList value), none)
      else do readLetters part (← part.addFlag given switch) rest

/-- An option given by name, with a value after an equals sign or none. -/
def readName (part : Part) (given : Given) (argument : String) :
    Except Stop (Given × Option Switch) :=
  let (name, value) := match Text.splitAt? '=' argument with
    | some (name, value) => (name, some value)
    | none => (argument, none)
  match part.switches.find? (·.name = name) with
  | none => .error .usage
  | some switch =>
    match switch.takesValue, value with
    | true, some value => do return (← given.addValue switch value, none)
    | true, none => .ok (given, some switch)
    | false, none => do return (← part.addFlag given switch, none)
    | false, some _ => .error .usage

/-- Whether an argument gives options; a hyphen alone does not. -/
def isSwitch (argument : String) : Bool :=
  Text.startsWith argument "-" && argument ≠ "-"

/-- One argument that gives options. -/
def readArgument (part : Part) (given : Given) (argument : String) :
    Except Stop (Given × Option Switch) :=
  match argument.toList with
  | '-' :: '-' :: name => part.readName given (String.ofList name)
  | letters => part.readLetters given (letters.drop 1)

/-- The options at the front of the arguments, and the rest. -/
def readSwitches (part : Part) (given : Given) :
    List String → Except Stop (Given × List String)
  | [] => .ok (given, [])
  | [argument] => do
    if argument = "--" || !isSwitch argument then return (given, [argument])
    let (given, pending) ← part.readArgument given argument
    if pending.isSome then .error .usage else return (given, [])
  | argument :: next :: rest => do
    if argument = "--" || !isSwitch argument then return (given, argument :: next :: rest)
    let (given, pending) ← part.readArgument given argument
    match pending with
    | none => readSwitches part given (next :: rest)
    | some switch =>
      if isSwitch next then .error .usage
      else readSwitches part (← given.addValue switch next) rest

/-- The options of a command and the path that it works on.  After two hyphens no
options follow. -/
def read (part : Part) (takesPath : Bool) (arguments : List String) : Except Stop Given := do
  let (given, rest) ← part.readSwitches .nothing arguments
  match rest with
  | [] | ["--"] => return given
  | first :: more =>
    if !takesPath then .error .usage
    else if first = "--" then
      match more with
      | [path] => given.addPath path
      | _ => .error .usage
    else
      let (given, rest) ← part.readSwitches (← given.addPath first) more
      if rest = [] ∨ rest = ["--"] then return given else .error .usage

end Part

/-! ## Commands -/

/-- How the arguments of a command are understood. -/
structure Form where
  name : String
  /-- The options that other commands do not have. -/
  own : List Switch
  takesPath : Bool
  request : Given → Request

/-- The path that a command works on, which is the working directory by default. -/
def Given.pathOrHere (given : Given) : String :=
  given.path.getD "."

/-- The forms of all commands. -/
def forms : List Form := [
  ⟨"synth", [.output, .stdout], true, fun given =>
    .synth given.pathOrHere (given.value? .output) (given.has .stdout)⟩,
  ⟨"validate", [], true, fun given => .validate given.pathOrHere⟩,
  ⟨"resources", [.json], false, fun given => .resources (given.has .json)⟩,
  ⟨"cost", [], true, fun given => .cost given.pathOrHere⟩]

/-- The form of the command with a name. -/
def form? (name : String) : Option Form :=
  forms.find? (·.name = name)

/-- What is wanted from the arguments after the word `help`. -/
def stopOfHelp : List String → Stop
  | [] => .help
  | [name] => if name = "help" ∨ (form? name).isSome = true then .help else .usage
  | _ => .usage

/-- What the arguments ask for.  A variable of the environment stands for the option
of the same meaning where that is not given; it may not be empty there. -/
def Invocation.ofArguments (configVariable : Option String) (arguments : List String) :
    Except Stop Invocation := do
  let (before, rest) ← Part.readSwitches ⟨none, Switch.common⟩ .nothing arguments
  match rest with
  | [] => .error .usage
  | name :: rest =>
    match form? name with
    | none => .error (if name = "help" then stopOfHelp rest else .usage)
    | some form => do
      let part : Part := ⟨some name, Switch.common ++ form.own⟩
      let after ← part.read form.takesPath rest
      let has (flag : Switch) := before.has flag || after.has flag
      let given := [after, before].map (·.value? .config)
      if configVariable = some "" ∧ given.any Option.isNone = true then .error .usage
      else return {
        verbose := has .verbose
        quiet := has .quiet
        logJson := has .logJson
        config := (given ++ [configVariable]).findSome? id
        request := form.request after }

end InfraSynth.Command
