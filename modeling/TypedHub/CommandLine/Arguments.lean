import TypedHub.Generation.Pass
import TypedHub.Text.Ends

/-!
# Arguments of the command line

The program has two commands, `generate` and `model`, each with options of its own; the switch for
verbosity may stand before or behind the name of the command. `Invocation.ofArguments` reads a list
of arguments or says what is wrong with it.

## How it works

Arguments are read from left to right. An option whose value may follow as an argument of its own
stays pending until the next option begins or the arguments end; only then its values are judged. An
argument that is no option is a value as long as the pending option takes more of them.
-/

namespace TypedHub.CommandLine

/-! ## Options -/

/-- How many values an option takes. -/
inductive Arity where
  /-- No value. -/
  | switch
  /-- One value, once. -/
  | single
  /-- One or more values, any number of times. -/
  | several
  deriving DecidableEq

/-- The options of all commands. -/
inductive Opt where
  | verbose
  | help
  | version
  | pointer
  | marker
  | input
  | out
  | allowDuplicateNames
  | generatorName
  | generatorVersion
  | connectionType
  | noOp
  deriving DecidableEq

namespace Opt

def arity : Opt → Arity
  | verbose | help | version | allowDuplicateNames | noOp => .switch
  | input => .several
  | pointer | marker | out | generatorName | generatorVersion | connectionType => .single

/-- The name behind two hyphens. -/
def long : Opt → String
  | verbose => "verbose"
  | help => "help"
  | version => "version"
  | pointer => "json-pointer"
  | marker => "marker"
  | input => "input"
  | out => "out"
  | allowDuplicateNames => "allow-duplicate-names"
  | generatorName => "generator-name"
  | generatorVersion => "generator-version"
  | connectionType => "connection-type"
  | noOp => "no-op"

/-- The letter behind one hyphen. -/
def short? : Opt → Option Char
  | verbose => some 'v'
  | help => some 'h'
  | version => some 'V'
  | input => some 'i'
  | out => some 'o'
  | _ => none

/-- Whether a value may be empty: a path may not. -/
def allowsEmpty (opt : Opt) : Bool := opt ≠ out

end Opt

/-! ## Commands -/

inductive CommandName where
  | generate
  | model
  deriving DecidableEq

/-- The command with the given name. -/
def CommandName.ofWord? (word : String) : Option CommandName :=
  if word = "generate" then some generate else if word = "model" then some model else none

/-- The options before the name of the command. -/
def programOptions : List Opt := [.verbose, .help, .version]

/-- The options behind the name of the command. -/
def CommandName.options : CommandName → List Opt
  | generate =>
    [.pointer, .marker, .input, .out, .allowDuplicateNames, .generatorName, .generatorVersion,
      .connectionType, .noOp, .verbose, .help]
  | model => [.pointer, .marker, .input, .out, .noOp, .verbose, .help]

/-- What keeps the program from running a command: mistakes in the arguments, and requests for help
or for the version. -/
inductive UsageError where
  | helpRequested
  | versionRequested
  /-- There are no arguments at all. -/
  | nothingGiven
  | missingCommand
  | unknownCommand
  | unknownArgument
  | missingInput
  /-- An option has no value, or one that it does not allow. -/
  | badValue
  /-- An option is given twice that may be given once. -/
  | repeated
  /-- A switch is given a value. -/
  | unwantedValue
  deriving DecidableEq

def UsageError.message : UsageError → String
  | helpRequested =>
    "usage: hub-stubgen [-v] generate|model -i INPUT... [-o OUT] [--json-pointer POINTER]"
  | versionRequested => "hub-stubgen " ++ Settings.generatorVersion {}
  | nothingGiven | missingCommand => "a command is needed: generate or model"
  | unknownCommand => "there is no such command"
  | unknownArgument => "unexpected argument"
  | missingInput => "an input is needed: -i INPUT..."
  | badValue => "an option lacks its value"
  | repeated => "an option is given more than once"
  | unwantedValue => "a switch takes no value"

/-- Whether the program has done what it was asked for when it has shown the message. -/
def UsageError.isAnswer (error : UsageError) : Bool :=
  error = helpRequested || error = versionRequested

/-! ## Reading options -/

/-- The options that have been read. -/
structure Reading where
  /-- The options with their values, in order. -/
  given : List (Opt × List String)
  /-- The option whose values are being read. -/
  pending : Option (Opt × List String)
  /-- Whether the pending option takes another value. -/
  takesMore : Bool

namespace Reading

def start : Reading := ⟨[], none, false⟩

def has (reading : Reading) (opt : Opt) : Bool := reading.given.any (·.1 = opt)

/-- Judges the values of an option and puts it among those that are given. -/
def give (reading : Reading) (opt : Opt) (values : List String) : Except UsageError Reading :=
  -- A value that is missing is told before a repetition, and that before an empty value.
  if opt.arity ≠ .switch && values.isEmpty then .error .badValue
  else if opt.arity ≠ .several && reading.has opt then .error .repeated
  else if !opt.allowsEmpty && values.contains "" then .error .badValue
  else .ok { reading with given := reading.given ++ [(opt, values)] }

/-- Closes the pending option. -/
def settle (reading : Reading) : Except UsageError Reading :=
  match reading.pending with
  | none => .ok { reading with takesMore := false }
  | some (opt, values) => { reading with pending := none, takesMore := false }.give opt values

/-- A switch. -/
def switch (reading : Reading) (opt : Opt) : Except UsageError Reading := do
  let reading ← reading.settle
  match opt with
  | .help => .error .helpRequested
  | .version => .error .versionRequested
  | opt => reading.give opt []

/-- An option that takes values, perhaps with one attached, which is then its only one. -/
def begin (reading : Reading) (opt : Opt) (attached : Option String) :
    Except UsageError Reading := do
  let reading ← reading.settle
  match attached with
  | some value => reading.give opt [value]
  | none => .ok { reading with pending := some (opt, []), takesMore := true }

/-- A value for the pending option. -/
def value (reading : Reading) (text : String) : Reading :=
  match reading.pending with
  | some (opt, values) =>
    { reading with pending := some (opt, values ++ [text]), takesMore := opt.arity = .several }
  | none => reading

/-- An option by its long name, perhaps with a value behind an equals sign. -/
def longOption (options : List Opt) (reading : Reading) (name : String) (attached : Option String) :
    Except UsageError Reading :=
  match options.find? (·.long = name) with
  | none => .error .unknownArgument
  | some opt =>
    if opt.arity = .switch then
      if attached.isSome then .error .unwantedValue else reading.switch opt
    else reading.begin opt attached

/-- Letters behind one hyphen: switches, and at last perhaps an option, with the rest of the letters
as its value. -/
def shortOptions (options : List Opt) : Reading → List Char → Except UsageError Reading
  | reading, [] => .ok reading
  | reading, letter :: rest =>
    match options.find? (·.short? = some letter) with
    | none => .error .unknownArgument
    | some opt =>
      if opt.arity = .switch then do
        let reading ← reading.switch opt
        shortOptions options reading rest
      else
        match rest with
        | [] => reading.begin opt none
        | '=' :: text => reading.begin opt (some (String.ofList text))
        | text => reading.begin opt (some (String.ofList text))

end Reading

/-- The kinds of arguments. -/
inductive Argument where
  /-- Two hyphens alone: no options follow. -/
  | terminator
  | long (name : String) (attached : Option String)
  | short (letters : List Char)
  | plain

/-- The kind of an argument. A single hyphen is no option. -/
def Argument.of (text : String) : Argument :=
  match text.toList with
  | ['-', '-'] => terminator
  | '-' :: '-' :: rest =>
    let name := String.ofList (rest.takeWhile (· ≠ '='))
    match rest.dropWhile (· ≠ '=') with
    | _ :: value => long name (some (String.ofList value))
    | [] => long name none
  | '-' :: c :: rest => short (c :: rest)
  | _ => plain

/-- What follows the options at the front of the arguments. -/
inductive Remainder where
  /-- Nothing. -/
  | nothing
  /-- An argument that is neither an option nor a value, with the ones behind it; `terminated` says
  whether the terminator stands somewhere before it. -/
  | stray (terminated : Bool) (text : String) (rest : List String)

/-- Reads the options and their values at the front of the arguments. -/
def readOptions (options : List Opt) (reading : Reading) :
    List String → Except UsageError (Reading × Remainder)
  | [] => .ok (reading, .nothing)
  | text :: rest =>
    match Argument.of text with
    | .terminator =>
      match rest with
      | [] => .ok (reading, .nothing)
      | next :: others => .ok (reading, .stray true next others)
    | .long name attached => do
      let reading ← reading.longOption options name attached
      readOptions options reading rest
    | .short letters => do
      let reading ← reading.shortOptions options letters
      readOptions options reading rest
    | .plain =>
      if reading.takesMore then readOptions options (reading.value text) rest
      else .ok (reading, .stray false text rest)

/-! ## Invocations -/

/-- Where metadata comes from. -/
structure Inputs where
  /-- The part of each document that holds the compilation. -/
  pointer : Option String
  /-- Paths and patterns for paths. -/
  patterns : List String

/-- Writes sources. -/
structure GenerateOptions where
  inputs : Inputs
  config : GeneratorConfig
  /-- The directory for the sources; without one they are printed. -/
  out : Option String
  noOp : Bool

/-- Writes the dump of the stubs. -/
structure ModelOptions where
  inputs : Inputs
  marker : String
  /-- The file for the dump; without one it is printed. -/
  out : Option String
  noOp : Bool

inductive Command where
  | generate (options : GenerateOptions)
  | model (options : ModelOptions)

structure Invocation where
  verbose : Bool
  command : Command

namespace Reading

/-- The value of an option that is given at most once. -/
def value? (reading : Reading) (opt : Opt) : Option String :=
  (reading.given.find? (·.1 = opt)).bind (·.2.head?)

/-- The values of all occurrences of an option. -/
def values (reading : Reading) (opt : Opt) : List String :=
  (reading.given.filter (·.1 = opt)).flatMap (·.2)

def inputs (reading : Reading) : Inputs := ⟨reading.value? .pointer, reading.values .input⟩

/-- The configuration of the generator, with the defaults of the library for what is not given. -/
def config (reading : Reading) : GeneratorConfig :=
  let default : GeneratorConfig := {}
  let settings := default.settings
  { marker := (reading.value? .marker).getD default.marker
    settings :=
      { generatorName := (reading.value? .generatorName).getD settings.generatorName
        generatorVersion := (reading.value? .generatorVersion).getD settings.generatorVersion
        transport :=
          { settings.transport with
            connectionType :=
              (reading.value? .connectionType).getD settings.transport.connectionType } }
    refusesClashes := !reading.has .allowDuplicateNames }

/-- The command that is told by its options. -/
def command (reading : Reading) : CommandName → Command
  | .generate =>
    .generate ⟨reading.inputs, reading.config, reading.value? .out, reading.has .noOp⟩
  | .model =>
    .model ⟨reading.inputs, reading.config.marker, reading.value? .out, reading.has .noOp⟩

end Reading

/-- Reads the arguments behind the name of a command. -/
def CommandName.read (name : CommandName) (arguments : List String) :
    Except UsageError Reading := do
  let (reading, remainder) ← readOptions name.options .start arguments
  match remainder with
  | .stray .. => .error .unknownArgument
  | .nothing =>
    let reading ← reading.settle
    if reading.has .input then .ok reading else .error .missingInput

/-- What a request for help by the word itself leads to: it may name one command, or help. -/
def helpAbout : List String → UsageError
  | [] => .helpRequested
  | [word] =>
    if word = "help" || (CommandName.ofWord? word).isSome then .helpRequested else .unknownCommand
  | _ => .unknownCommand

/-- Reads the arguments of the program. -/
def Invocation.ofArguments (arguments : List String) : Except UsageError Invocation := do
  let (reading, remainder) ← readOptions programOptions .start arguments
  match remainder with
  | .nothing => .error (if reading.given.isEmpty then .nothingGiven else .missingCommand)
  | .stray true word _ =>
    .error (if word = "help" || (CommandName.ofWord? word).isSome then .unknownArgument
      else .unknownCommand)
  | .stray false word rest =>
    match CommandName.ofWord? word with
    | some name => do
      let inner ← name.read rest
      .ok ⟨reading.has .verbose || inner.has .verbose, inner.command name⟩
    | none => .error (if word = "help" then helpAbout rest else .unknownCommand)

end TypedHub.CommandLine
