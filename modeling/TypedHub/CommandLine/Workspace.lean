import TypedHub.CommandLine.Path

/-!
# Workspaces

What a command needs from the machine it runs on: files and directories by their paths, and two
streams to print on. A command is a program over any monad that is a `Workspace`, so the same
program runs on a real machine and on a model of one (`TypedHub.CommandLine.Disk`).
-/

namespace TypedHub.CommandLine

/-- Why a file or directory cannot be used. -/
inductive FileFault where
  /-- A path holds the character with code zero. -/
  | zeroInPath
  /-- A path, or a name in it, is too long. -/
  | nameTooLong
  | notFound
  | exists
  | notDirectory
  | isDirectory
  | notText
  | other (message : String)
  deriving DecidableEq

def FileFault.message : FileFault → String
  | zeroInPath => "file name contained an unexpected NUL byte"
  | nameTooLong => "File name too long (os error 36)"
  | notFound => "No such file or directory (os error 2)"
  | «exists» => "File exists (os error 17)"
  | notDirectory => "Not a directory (os error 20)"
  | isDirectory => "Is a directory (os error 21)"
  | notText => "stream did not contain valid UTF-8"
  | other message => message

/-- What is wrong with the text of a path, wherever it may lead. -/
def checkPath (path : String) : Except FileFault Unit :=
  if path.toList.contains '\x00' then .error .zeroInPath
  else if maxPathSize < path.utf8ByteSize then .error .nameTooLong
  else .ok ()

/-- What stands under a path. -/
inductive EntryKind where
  | file
  | directory
  deriving DecidableEq

class Workspace (m : Type → Type) where
  /-- What stands under a path, if anything does. -/
  kind? : (path : String) → m (Option EntryKind)
  /-- The names in a directory, in ascending order. -/
  names : (directory : String) → m (List String)
  /-- The paths, relative to a directory, of all that is below it: a directory before what it holds,
  names in ascending order. -/
  below : (directory : String) → m (List String)
  readText : (path : String) → m (Except FileFault String)
  /-- Makes a directory and those it stands in, as far as they are missing. -/
  makeDirectories : (path : String) → m (Except FileFault Unit)
  writeText : (path text : String) → m (Except FileFault Unit)
  /-- Prints a result. -/
  print : String → m Unit
  /-- Prints a report on the progress. -/
  report : String → m Unit

end TypedHub.CommandLine
