import TypedHub.CommandLine.Arguments
import TypedHub.CommandLine.Expansion
import TypedHub.Json.Printer
import TypedHub.Metadata.Document
import TypedHub.Stub.Dump

/-!
# Commands

What the program does in a workspace. Both commands read all inputs first and take them together as
one compilation. `generate` makes one pass over it, reports on the pass, and writes or prints the
sources; `model` writes or prints the dump of the stubs.
-/

namespace TypedHub.CommandLine

open CSharp (NameError)
open Metadata (Compilation DocumentError)

/-! ## Errors -/

/-- Why a command fails. -/
inductive CommandError where
  | badPattern (error : PatternError)
  | unmatchedPattern (pattern : String)
  | unreadable (path : String) (fault : FileFault)
  | badDocument (error : DocumentError)
  | unwritableName (error : NameError)
  /-- The directory for the sources cannot be made. -/
  | missingDirectory (path : String) (fault : FileFault)
  /-- The directory for the dump cannot be made. -/
  | missingParent (fault : FileFault)
  | unwritable (path : String) (fault : FileFault)
  /-- All else has been done, but declarations were refused. -/
  | refusals (diagnostics : List Diagnostic)

/-- The message for the user. Where an error stems from another one, the other is told behind a
colon, also if its text is part of the message already. -/
def CommandError.message : CommandError → String
  | badPattern error => "failed to resolve input file paths: " ++ error.message
  | unmatchedPattern pattern =>
    "failed to resolve input file paths: glob pattern matched no files: " ++ pattern
  | unreadable path fault =>
    "failed to read " ++ path ++ ": " ++ fault.message ++ ": " ++ fault.message
  | badDocument error => error.message
  | unwritableName error =>
    "generation failed: code emission failed: " ++ error.message ++ ": " ++ error.message
  | missingDirectory path fault => "failed to create " ++ path ++ ": " ++ fault.message
  | missingParent fault => fault.message
  | unwritable path fault => "failed to write " ++ path ++ ": " ++ fault.message
  | refusals diagnostics => toString diagnostics.length ++ " declaration(s) skipped"

/-! ## Texts -/

/-- A line of the report, with its first word right-aligned. -/
def reportLine (word text : String) : String :=
  "".pushn ' ' (10 - word.length) ++ word ++ " " ++ text ++ "\n"

/-- The report on a pass: a line for each source file and for each refusal. -/
def reportText (output : Output) : String :=
  let artifactLine (artifact : Artifact) : String :=
    match artifact.status with
    | .generated => reportLine "generated" artifact.fileName
    | .cached => reportLine "cached" artifact.fileName
  let diagnosticLine (diagnostic : Diagnostic) : String :=
    reportLine "skipped" (diagnostic.declaration ++ ": " ++ diagnostic.clash.message)
  String.join (output.artifacts.map artifactLine ++ output.diagnostics.map diagnosticLine)

/-- The sources of a pass, one after the other, each behind a line with its name. -/
def listing (output : Output) : String :=
  String.join (output.artifacts.map fun artifact =>
    "// ==== " ++ artifact.fileName ++ " ====\n" ++ artifact.source)

/-! ## Reading -/

variable {m : Type → Type} [Monad m] [Workspace m]

/-- Does something to files, and fails with the given error if that has a fault. -/
def attempt {α : Type} (error : FileFault → CommandError) (action : m (Except FileFault α)) :
    ExceptT CommandError m α :=
  ExceptT.mk do return (← action).mapError error

/-- The paths that an input stands for. -/
def resolve (input : String) : ExceptT CommandError m (List String) :=
  if isPattern input then
    match Pattern.ofText input with
    | .error error => throw (.badPattern error)
    | .ok pattern => do
      let paths ← ExceptT.lift pattern.expand
      if paths.isEmpty then throw (.unmatchedPattern input) else return paths
  else return [input]

/-- The compilation in the file under a path. -/
def load (pointer : Option String) (path : String) : ExceptT CommandError m Compilation := do
  let text ← attempt (.unreadable path) (Workspace.readText path)
  match Compilation.ofDocument path pointer text with
  | .ok compilation => return compilation
  | .error error => throw (.badDocument error)

/-- The compilations of all inputs, taken together. All patterns are resolved before a file is
read. -/
def Inputs.load (inputs : Inputs) : ExceptT CommandError m Compilation := do
  let paths ← inputs.patterns.mapM resolve
  let compilations ← paths.flatten.mapM (CommandLine.load inputs.pointer)
  return Compilation.merge compilations

/-! ## Running -/

/-- Writes the sources of a pass into a directory. -/
def writeArtifacts (directory : String) (output : Output) : ExceptT CommandError m Unit := do
  attempt (.missingDirectory directory) (Workspace.makeDirectories directory)
  output.artifacts.forM fun artifact =>
    let path := joinPath directory artifact.fileName
    attempt (.unwritable path) (Workspace.writeText path artifact.source)

def GenerateOptions.run (options : GenerateOptions) : ExceptT CommandError m Unit := do
  let compilation ← options.inputs.load
  match ((Generator.new options.config).run compilation).1 with
  | .error error => throw (.unwritableName error)
  | .ok output =>
    ExceptT.lift (Workspace.report (reportText output))
    match options.out with
    | some directory => writeArtifacts directory output
    | none => ExceptT.lift (Workspace.print (listing output))
    if output.diagnostics.isEmpty then return () else throw (.refusals output.diagnostics)

def ModelOptions.run (options : ModelOptions) : ExceptT CommandError m Unit := do
  let compilation ← options.inputs.load
  let dump := (Stub.dump (stubs options.marker compilation)).pretty 0
  match options.out with
  | none => ExceptT.lift (Workspace.print (dump ++ "\n"))
  | some path =>
    match parentPath? path with
    | some parent => attempt .missingParent (Workspace.makeDirectories parent)
    | none => pure ()
    attempt (.unwritable path) (Workspace.writeText path dump)

/-- Runs a command. One that is told to do nothing does not even look at its inputs. -/
def Command.run : Command → ExceptT CommandError m Unit
  | .generate options => if options.noOp then return () else options.run
  | .model options => if options.noOp then return () else options.run

end TypedHub.CommandLine
