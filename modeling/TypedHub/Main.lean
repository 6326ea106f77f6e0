import TypedHub.CommandLine.Command

/-!
# The program

Runs a command on the machine itself. All that is decided here is how the files of the machine serve
as a workspace.
-/

namespace TypedHub.CommandLine

/-- The fault that an error of the machine stands for. Some calls give the number of the error with
the opposite sign. -/
def FileFault.ofError : IO.Error → FileFault
  | .noFileOrDirectory .. => .notFound
  | .alreadyExists .. => .exists
  | .inappropriateType _ code text =>
    if code = 20 ∨ code = -20 then .notDirectory
    else if code = 21 ∨ code = -21 then .isDirectory
    else .other text
  | .invalidArgument _ code text =>
    if code = 36 ∨ code = -36 then .nameTooLong else .other text
  | error => .other (toString error)

/-- The result of an action on what stands under a path, or its fault. -/
def faultOf {α : Type} (path : String) (action : IO α) : IO (Except FileFault α) := do
  match checkPath path with
  | .error fault => return .error fault
  | .ok () => return (← action.toBaseIO).mapError FileFault.ofError

/-- What stands under a path of the machine. -/
def machineKind? (path : String) : IO (Option EntryKind) := do
  if path = "" ∨ (checkPath path).toOption.isNone then return none
  let file := (← IO.currentDir) / path
  if ← file.isDir then return some .directory
  if ← file.pathExists then return some .file
  return none

/-- The names in a directory of the machine, in ascending order. -/
def machineNames (directory : String) : IO (List String) := do
  let entries ← ((← IO.currentDir) / directory).readDir
  return (entries.toList.map (·.fileName)).mergeSort

/-- The relative paths of all below a directory of the machine. -/
partial def machineBelow (directory : String) : IO (List String) := do
  let paths ← (← machineNames directory).mapM fun name => do
    let path := joinPath directory name
    if (← machineKind? path) = some .directory then
      return name :: (← machineBelow path).map (joinPath name)
    else return [name]
  return paths.flatten

/-- Makes a directory of the machine and those it stands in. -/
partial def machineMake (path : String) : IO Unit := do
  if path = "" ∨ (← machineKind? path) = some .directory then return
  match ← (IO.FS.createDir path).toBaseIO, parentPath? path with
  | .ok _, _ => return
  | .error (.noFileOrDirectory ..), some parent =>
    machineMake parent
    unless (← machineKind? path) = some .directory do IO.FS.createDir path
  | .error error, _ => throw error

instance : Workspace IO where
  kind? := machineKind?
  names := machineNames
  below := machineBelow
  readText path := do
    match ← faultOf path (IO.FS.readBinFile path) with
    | .error fault => return .error fault
    | .ok bytes =>
      match String.fromUTF8? bytes with
      | some text => return .ok text
      | none => return .error .notText
  makeDirectories path := faultOf path (machineMake path)
  writeText path text := faultOf path (IO.FS.writeFile path text)
  print text := IO.print text
  report text := IO.eprint text

end TypedHub.CommandLine

open TypedHub.CommandLine in
/-- Runs the command that the arguments ask for. -/
def main (arguments : List String) : IO UInt32 := do
  match Invocation.ofArguments arguments with
  | .error error =>
    if error.isAnswer then
      IO.println error.message
      return 0
    else
      IO.eprintln ("error: " ++ error.message)
      return 2
  | .ok invocation =>
    match ← (invocation.command.run : ExceptT CommandError IO Unit) with
    | .ok () => return 0
    | .error error =>
      IO.eprintln ("error: " ++ error.message)
      return 1
