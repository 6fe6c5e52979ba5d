import EpaperLayout.Command.Generate
import EpaperLayout.Command.Import
import EpaperLayout.Command.Validate

/-!
# Command lines

A command line names a command and gives it options.  An option is a *flag* or
takes a value.

**Long form.** Two dashes and the name; a value follows an equals sign or is the
next argument.

**Short form.** One dash and a letter.  Flags may be joined; the value of an option
follows its letter directly or after an equals sign, or is the next argument.

An argument that begins with a dash is no value, except a lone dash.  No option
is given twice, a path is not empty, and there are no other arguments.
-/

namespace EpaperLayout
namespace Command

/-- What an option takes. -/
inductive OptionKind where
  | flag
  | text
  | path
  /-- Not an option of a command: a question to the program. -/
  | help
  | version
deriving DecidableEq, Repr

/-- An option. -/
structure OptionSpec where
  name : String
  letter : Option Char := none
  kind : OptionKind := .flag
  required : Bool := false
deriving DecidableEq, Repr

/-- Why a command line is no request. -/
inductive UsageError where
  | unknownOption (argument : String)
  | unexpectedArgument (argument : String)
  | unexpectedValue (name : String)
  | missingValue (name : String)
  | emptyValue (name : String)
  | repeatedOption (name : String)
  | missingOption (name : String)
  | unknownCommand (name : String)
  | missingCommand
deriving DecidableEq, Repr

/-- The message for a command line that is no request. -/
def UsageError.message : UsageError → String
  | .unknownOption argument | .unexpectedArgument argument =>
    s!"error: unexpected argument '{argument}' found"
  | .unexpectedValue name => s!"error: unexpected value for '--{name}' found; no more were expected"
  | .missingValue name | .emptyValue name =>
    s!"error: a value is required for '--{name}' but none was supplied"
  | .repeatedOption name => s!"error: the argument '--{name}' cannot be used multiple times"
  | .missingOption name => s!"error: the required argument '--{name}' was not provided"
  | .unknownCommand name => s!"error: unrecognized subcommand '{name}'"
  | .missingCommand => "error: a subcommand is required"

/-- What ends the reading of a command line early. -/
inductive Stop where
  | help
  | version
  | wrong (error : UsageError)
deriving DecidableEq, Repr

/-- Options that were given, with their values; a flag has an empty one. -/
abbrev Given :=
  List (String × String)

/-- Whether an argument has the form of an option. -/
def looksLikeOption (argument : String) : Bool :=
  match argument.toList with
  | '-' :: _ :: _ => true
  | _ => false

/-- Adds an option that is given. -/
def give (given : Given) (spec : OptionSpec) (value : String) : Except Stop Given :=
  if given.any fun other => other.1 == spec.name then .error (.wrong (.repeatedOption spec.name))
  else if spec.kind = .path && value.isEmpty then .error (.wrong (.emptyValue spec.name))
  else .ok (given ++ [(spec.name, value)])

/-- Adds an option without a value. -/
def giveFlag (given : Given) (spec : OptionSpec) : Except Stop Given :=
  match spec.kind with
  | .help => .error .help
  | .version => .error .version
  | _ => give given spec ""

/-- Whether an option takes a value. -/
def OptionSpec.takesValue (spec : OptionSpec) : Bool :=
  spec.kind = .text || spec.kind = .path

/-- Adds an option whose value is the next argument. -/
def giveNext (given : Given) (spec : OptionSpec) : List String → Except Stop (Given × List String)
  | next :: rest =>
    if looksLikeOption next then .error (.wrong (.missingValue spec.name))
    else (give given spec next).map fun given => (given, rest)
  | [] => .error (.wrong (.missingValue spec.name))

/-- Reads the options of an argument in long form; `body` follows the dashes. -/
def readLong (specs : List OptionSpec) (given : Given) (body : List Char) (rest : List String) :
    Except Stop (Given × List String) :=
  let name := String.ofList (body.takeWhile (· ≠ '='))
  match specs.find? fun spec => spec.name == name with
  | none => .error (.wrong (.unknownOption s!"--{name}"))
  | some spec =>
    match body.dropWhile (· ≠ '=') with
    | _ :: value =>
      if spec.takesValue then (give given spec (String.ofList value)).map fun given => (given, rest)
      else .error (.wrong (.unexpectedValue name))
    | [] =>
      if spec.takesValue then giveNext given spec rest
      else (giveFlag given spec).map fun given => (given, rest)

/-- Reads the options of an argument in short form; the letters follow the dash. -/
def readShort (specs : List OptionSpec) (given : Given) (rest : List String) :
    (letters : List Char) → Except Stop (Given × List String)
  | [] => .ok (given, rest)
  | letter :: others =>
    match specs.find? fun spec => spec.letter == some letter with
    | none => .error (.wrong (.unknownOption s!"-{letter}"))
    | some spec =>
      if spec.takesValue then
        match others with
        | [] => giveNext given spec rest
        | '=' :: value => (give given spec (String.ofList value)).map fun given => (given, rest)
        | value => (give given spec (String.ofList value)).map fun given => (given, rest)
      else
        match giveFlag given spec with
        | .ok given => readShort specs given rest others
        | .error stop => .error stop

/-- Reads an argument that has the form of an option. -/
def readOption (specs : List OptionSpec) (given : Given) (argument : String)
    (rest : List String) : Except Stop (Given × List String) :=
  match argument.toList with
  | '-' :: '-' :: body => readLong specs given body rest
  | _ :: letters => readShort specs given rest letters
  | [] => .ok (given, rest)

/-- Reads the options of a command. -/
def readOptions (specs : List OptionSpec) : (count : Nat) → Given → List String →
    Except Stop Given
  | _, given, [] => .ok given
  | 0, given, _ => .ok given
  | count + 1, given, argument :: rest =>
    if argument = "--" then
      match rest with
      | [] => .ok given
      | extra :: _ => .error (.wrong (.unexpectedArgument extra))
    else if looksLikeOption argument then
      match readOption specs given argument rest with
      | .ok (given, rest) => readOptions specs count given rest
      | .error stop => .error stop
    else .error (.wrong (.unexpectedArgument argument))

/-- Options of the program, which may also follow the command. -/
def globalOptions : List OptionSpec :=
  [{ name := "verbose", letter := some 'v' }, { name := "help", letter := some 'h', kind := .help }]

/-- Options that only stand before the command. -/
def programOptions : List OptionSpec :=
  globalOptions ++ [{ name := "version", letter := some 'V', kind := .version }]

/-- The option for the file with the layout. -/
def layoutOption : OptionSpec :=
  { name := "layout", letter := some 'l', kind := .path, required := true }

/-- The option for the file to be written. -/
def outOption : OptionSpec :=
  { name := "out", letter := some 'o', kind := .path }

/-- The options of the command that writes snippets. -/
def generateOptions : List OptionSpec :=
  [layoutOption, outOption]

/-- The options of the command that reads snippets. -/
def importOptions : List OptionSpec :=
  [{ name := "snippet", letter := some 's', kind := .path, required := true },
    { name := "device-id", kind := .text }, outOption, { name := "json" }, { name := "strict" }]

/-- The options of the command that checks layouts. -/
def validateOptions : List OptionSpec :=
  [layoutOption, { name := "json" }, { name := "strict" }]

/-- Reads the options of a command, all required ones among them. -/
def readCommand (specs : List OptionSpec) (arguments : List String) : Except Stop Given := do
  let given ← readOptions (specs ++ globalOptions) arguments.length [] arguments
  match specs.find? fun spec => spec.required && (given.lookup spec.name).isNone with
  | some spec => throw (.wrong (.missingOption spec.name))
  | none => return given

/-- What the program is asked to do. -/
inductive Request where
  | generate (args : GenerateArgs)
  | importLayout (args : ImportArgs)
  | validate (args : ValidateArgs)
deriving DecidableEq, Repr

/-- The names of the commands. -/
def commandNames : List String :=
  ["generate", "import", "validate"]

/-- Whether a flag is given. -/
def has (given : Given) (name : String) : Bool :=
  (given.lookup name).isSome

/-- Reads the arguments after the name of a command. -/
def readArguments (name : String) (arguments : List String) : Except Stop Request :=
  if name = "generate" then do
    let given ← readCommand generateOptions arguments
    return .generate { layout := (given.lookup "layout").getD "", out := given.lookup "out" }
  else if name = "import" then do
    let given ← readCommand importOptions arguments
    return .importLayout {
      snippet := (given.lookup "snippet").getD ""
      deviceId := given.lookup "device-id"
      out := given.lookup "out"
      json := has given "json"
      strict := has given "strict" }
  else if name = "validate" then do
    let given ← readCommand validateOptions arguments
    return .validate {
      layout := (given.lookup "layout").getD ""
      json := has given "json"
      strict := has given "strict" }
  else if name = "help" then
    match arguments with
    | [] => .error .help
    | topic :: _ =>
      if ("help" :: commandNames).contains topic then .error .help
      else .error (.wrong (.unknownCommand topic))
  else .error (.wrong (.unknownCommand name))

/-- Reads a command line after the options in `given`. -/
def readRequestAfter : (count : Nat) → Given → List String → Except Stop Request
  | _, _, [] => .error (.wrong .missingCommand)
  | 0, _, _ => .error (.wrong .missingCommand)
  | count + 1, given, argument :: rest =>
    if argument = "--" then
      match rest with
      | [] => .error (.wrong .missingCommand)
      | extra :: _ => .error (.wrong (.unexpectedArgument extra))
    else if looksLikeOption argument then
      match readOption programOptions given argument rest with
      | .ok (given, rest) => readRequestAfter count given rest
      | .error stop => .error stop
    else readArguments argument rest

/-- Reads a command line. -/
def readRequest (arguments : List String) : Except Stop Request :=
  readRequestAfter arguments.length [] arguments

end Command
end EpaperLayout
