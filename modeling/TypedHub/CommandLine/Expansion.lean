import TypedHub.CommandLine.Path
import TypedHub.CommandLine.Pattern
import TypedHub.CommandLine.Workspace

/-!
# Paths that a pattern stands for

The paths below a directory that fit the components of a pattern, in ascending order, a directory
before what it holds. A component without wildcards is looked up and not compared, so that it may
also be the directory itself or the one above it; wildcards stand for these two only if they begin
with a point.
-/

namespace TypedHub.CommandLine

/-- Whether a component begins with a point, so that it may stand for the current directory and the
one above it. -/
def Component.beginsWithPoint : Component → Bool
  | wild (.char '.' :: _) => true
  | _ => false

variable {m : Type → Type} [Monad m] [Workspace m]

/-- Whether a directory stands under a path. -/
def isDirectory (path : String) : m Bool := do
  return (← Workspace.kind? path) = some .directory

/-- Whether something stands under a name without wildcards. The directory itself and the one above
it stand in every directory. -/
def stands (directory name : String) : m Bool :=
  if isRelative name then isDirectory directory
  else do return (← Workspace.kind? (pathIn directory name)).isSome

/-- The results for each of the paths, one after the other. -/
def collect (results : String → m (List String)) : List String → m (List String)
  | [] => return []
  | path :: rest => do
    let first ← results path
    let others ← collect results rest
    return first ++ others

/-- The path itself as the only result, unless a directory is wanted and it is none. -/
def found (wantsDirectory : Bool) (path : String) : m (List String) := do
  if wantsDirectory && !(← isDirectory path) then return [] else return [path]

mutual

/-- The paths inside `directory` that fit the components. -/
def expandIn (wantsDirectory : Bool) (components : List Component) (directory : String) :
    m (List String) :=
  match components with
  | [] => found wantsDirectory directory
  | .literal name :: rest => do
    if ← stands directory name then expandIn wantsDirectory rest (pathIn directory name)
    else return []
  | .directories :: rest => do
    if ← isDirectory directory then
      let paths := (← Workspace.below directory).map (pathIn directory)
      collect (fun path => expandBelow wantsDirectory rest path) paths
    else return []
  | .wild tokens :: rest => do
    if ← isDirectory directory then
      -- The directory above comes before the directory itself, and both before all names.
      let relatives := if (Component.wild tokens).beginsWithPoint then ["..", "."] else []
      let special ← collect (fun path => expandIn wantsDirectory rest path)
        ((relatives.filter fun name => (Component.wild tokens).fits name).map (joinPath directory))
      let names ← Workspace.names directory
      let paths :=
        (names.filter fun name => (Component.wild tokens).fits name).map (pathIn directory)
      let others ← collect (fun path => expandIn wantsDirectory rest path) paths
      return special ++ others
    else return []
termination_by (components.length, 0)

/-- The paths at or inside an entry that has been reached by going down any number of
directories. -/
def expandBelow (wantsDirectory : Bool) (components : List Component) (path : String) :
    m (List String) :=
  match components with
  | [] => found true path
  | .directories :: rest => expandBelow wantsDirectory rest path
  | component :: rest =>
    if component.fits (lastName path) then expandIn wantsDirectory rest path else return []
termination_by (components.length, 1)

end

/-- The paths that a pattern stands for. -/
def Pattern.expand (pattern : Pattern) : m (List String) :=
  expandIn pattern.wantsDirectory pattern.components (if pattern.isAbsolute then "/" else ".")

end TypedHub.CommandLine
