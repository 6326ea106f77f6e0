import TypedHub.Text.Split

/-!
# Paths

Paths are texts with slashes between their components. Nothing here looks at files: two paths to one
place stay different paths.
-/

namespace TypedHub.CommandLine

/-- A component that stays in its directory. -/
def staysInPlace (component : String) : Bool := component = "" || component = "."

/-- The current directory, in any spelling without its name. -/
def isCurrent (path : String) : Bool :=
  match Text.parts '/' path with
  | "." :: rest => rest.all staysInPlace
  | _ => false

/-- Whether a path starts at the root. -/
def isAbsolute (path : String) : Bool := path.toList.head? = some '/'

/-- Whether a path has the form of a directory. -/
def endsWithSlash (path : String) : Bool := path.toList.getLast? = some '/'

/-- A path behind a directory. -/
def joinPath (directory name : String) : String :=
  if directory = "" || endsWithSlash directory then directory ++ name
  else directory ++ "/" ++ name

/-- A path behind a directory; behind the current one it stands alone. -/
def pathIn (directory name : String) : String :=
  if isCurrent directory then name else joinPath directory name

/-- The last component of a path. -/
def lastName (path : String) : String := (Text.parts '/' path).getLastD path

/-- Whether a name means a directory by its relation to where it stands. -/
def isRelative (name : String) : Bool := name = "." || name = ".."

/-- The directory that a path leads through last, without components at its end that stay in place.
The root has none, and a single name has the empty path. -/
def parentPath? (path : String) : Option String :=
  match (Text.parts '/' path).reverse.dropWhile staysInPlace with
  | [] => if isAbsolute path then none else some ""
  | _ :: parents =>
    match parents.dropWhile staysInPlace with
    | [] => some (if isAbsolute path then "/" else "")
    | names => some ("/".intercalate names.reverse)

/-! ## Limits -/

/-- The greatest size of a name in bytes. -/
def maxNameSize : Nat := 255

/-- The greatest size of a path in bytes. -/
def maxPathSize : Nat := 4095

end TypedHub.CommandLine
