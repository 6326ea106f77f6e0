import TypedHub.CommandLine.Path
import TypedHub.CommandLine.Workspace

/-!
# Disks

A model of a machine's files: what stands under each place, where a path leads from a working
directory, and what reading and writing do. With it the commands of the program are plain functions
from one `Sandbox` to the next.

Each component of a path asks for a directory to start from, also an empty component and a point, so
a path with a slash at its end never leads to a file.
-/

namespace TypedHub.CommandLine

/-- What stands under a place. -/
inductive Entry where
  | directory
  | text (content : String)
  /-- A file that is no text. -/
  | binary (bytes : List UInt8)
  deriving DecidableEq

def Entry.kind : Entry → EntryKind
  | directory => .directory
  | text _ | binary _ => .file

/-- The names that lead to an entry from the root of its disk. -/
abbrev Place := List String

/-- All entries of a disk but its root. -/
structure Disk where
  entries : List (Place × Entry)

namespace Disk

def empty : Disk := ⟨[]⟩

/-- What stands under a place. The root is always there. -/
def at? (disk : Disk) (place : Place) : Option Entry :=
  if place = [] then some .directory else (disk.entries.find? (·.1 = place)).map (·.2)

/-- Puts an entry under a place, instead of what stood there. -/
def put (disk : Disk) (place : Place) (entry : Entry) : Disk :=
  ⟨(place, entry) :: disk.entries.filter (·.1 ≠ place)⟩

/-- A place has what was put there last. -/
theorem at?_put (disk : Disk) (place other : Place) (entry : Entry) (h : other ≠ []) :
    (disk.put place entry).at? other = if other = place then some entry else disk.at? other := by
  simp only [at?, put, h, if_false, List.find?_cons, List.find?_filter]
  by_cases same : place = other
  · simp [same]
  · simp only [same, decide_false, Ne.symm same, if_false]
    congr 2
    funext entry
    by_cases found : entry.1 = other
    · simp [found, Ne.symm same]
    · simp [found]

/-! ## Paths -/

/-- Where a component of a path leads. The root stands above itself. -/
def step (place : Place) (name : String) : Place :=
  if staysInPlace name then place
  else if name = ".." then place.dropLast
  else place ++ [name]

/-- Where components lead from a place on; nothing needs to stand there. -/
def walk (disk : Disk) : Place → List String → Except FileFault Place
  | place, [] => .ok place
  | place, name :: rest =>
    match disk.at? place with
    | some .directory =>
      if maxNameSize < name.utf8ByteSize then .error .nameTooLong
      else walk disk (step place name) rest
    | some _ => .error .notDirectory
    | none => .error .notFound

/-- Where a path starts. -/
def start (workingDirectory : Place) (path : String) : Place :=
  if isAbsolute path then [] else workingDirectory

/-- What a path leads to, and where that stands. -/
def find (disk : Disk) (workingDirectory : Place) (path : String) :
    Except FileFault (Place × Entry) := do
  checkPath path
  if path = "" then throw .notFound
  let place ← disk.walk (start workingDirectory path) (Text.parts '/' path)
  match disk.at? place with
  | some entry => return (place, entry)
  | none => throw .notFound

/-! ## Reading -/

def readText (disk : Disk) (workingDirectory : Place) (path : String) :
    Except FileFault String := do
  match ← disk.find workingDirectory path with
  | (_, .text content) => return content
  | (_, .binary _) => throw .notText
  | (_, .directory) => throw .isDirectory

/-- Whether a place does not stand behind another one: places are in the order of their first
different names, a directory before what it holds. -/
def notBehind (place other : Place) : Bool := !other.lex place fun a b => a < b

/-- The places inside of a place, relative to it and in ascending order. -/
def inside (disk : Disk) (place : Place) : List Place :=
  let places := disk.entries.filterMap fun entry => place.isPrefixOf? entry.1
  (places.filter (· ≠ [])).mergeSort notBehind

/-! ## Writing -/

/-- Writes a file, unless the path leads to a directory or has the form of one. In the latter case
the last name is not even looked up, but the directory that it should stand in is. -/
def writeText (disk : Disk) (workingDirectory : Place) (path text : String) :
    Except FileFault Disk := do
  checkPath path
  if path = "" then throw .notFound
  let place := start workingDirectory path
  if endsWithSlash path then
    let names := (Text.parts '/' path).filter (· ≠ "")
    let _ ← disk.walk place (names.dropLast ++ ["."])
    throw .isDirectory
  let target ← disk.walk place (Text.parts '/' path)
  if disk.at? target = some .directory then throw .isDirectory
  return disk.put target (.text text)

/-- Makes the directory to which components lead, unless it is there. The one it stands in must be
there, and so must be one that a point at the end asks for. -/
def makeDirectory (disk : Disk) (place : Place) (names : List String) : Except FileFault Disk := do
  let target ← disk.walk place names
  match disk.at? target with
  | none => return disk.put target .directory
  | some .directory => return disk
  | some _ => throw .exists

/-- Makes the directory to which names lead, given with the last one first, and before it those it
stands in as far as they are missing. -/
def makeMissing (disk : Disk) (place : Place) : List String → Except FileFault Disk
  | [] => .ok disk
  | name :: outer =>
    match disk.makeDirectory place (name :: outer).reverse with
    | .error .notFound => do
      let disk ← disk.makeMissing place outer
      disk.makeDirectory place (name :: outer).reverse
    | result => result

/-- Makes a directory and those it stands in. The path itself is tried first, so what is wrong with
its beginning is found before anything is made. -/
def makeDirectories (disk : Disk) (workingDirectory : Place) (path : String) :
    Except FileFault Disk := do
  checkPath path
  let place := start workingDirectory path
  let names := (Text.parts '/' path).filter (· ≠ "")
  match disk.makeDirectory place names with
  | .error .notFound =>
    let disk ← disk.makeMissing place ((names.filter (· ≠ ".")).reverse.drop 1)
    disk.makeDirectory place names
  | result => result

/-- Adds a file and the directories it stands in. -/
def addFile (disk : Disk) (place : Place) (file : Entry) : Disk :=
  let parents := (List.range place.length).map place.take |>.filter (· ≠ [])
  (parents.foldl (fun disk parent => disk.put parent .directory) disk).put place file

end Disk

/-! ## Sandboxes -/

/-- A disk with a place on it where a command runs, and what the command has printed. -/
structure Sandbox where
  disk : Disk
  workingDirectory : Place
  printed : String
  reported : String

namespace Sandbox

/-- A sandbox before a command runs in it. -/
def new (disk : Disk) (workingDirectory : Place) : Sandbox := ⟨disk, workingDirectory, "", ""⟩

/-- The place of a directory, for a path that leads to one. -/
def directory? (sandbox : Sandbox) (path : String) : Option Place :=
  match sandbox.disk.find sandbox.workingDirectory path with
  | .ok (place, .directory) => some place
  | _ => none

/-- The relative paths of all that is in a directory, down to any depth. -/
def inside (sandbox : Sandbox) (path : String) : List Place :=
  match sandbox.directory? path with
  | some place => sandbox.disk.inside place
  | none => []

/-- The result of a change of the disk, and the sandbox after it. -/
def change (sandbox : Sandbox) (result : Except FileFault Disk) : Except FileFault Unit × Sandbox :=
  match result with
  | .ok disk => (.ok (), { sandbox with disk := disk })
  | .error fault => (.error fault, sandbox)

instance : Workspace (StateM Sandbox) where
  kind? path := fun sandbox =>
    match sandbox.disk.find sandbox.workingDirectory path with
    | .ok (_, entry) => (some entry.kind, sandbox)
    | .error _ => (none, sandbox)
  names directory := fun sandbox =>
    ((sandbox.inside directory).filterMap fun place =>
      match place with
      | [name] => some name
      | _ => none, sandbox)
  below directory := fun sandbox =>
    ((sandbox.inside directory).map fun place => "/".intercalate place, sandbox)
  readText path := fun sandbox =>
    (sandbox.disk.readText sandbox.workingDirectory path, sandbox)
  makeDirectories path := fun sandbox =>
    sandbox.change (sandbox.disk.makeDirectories sandbox.workingDirectory path)
  writeText path text := fun sandbox =>
    sandbox.change (sandbox.disk.writeText sandbox.workingDirectory path text)
  print text := fun sandbox => ((), { sandbox with printed := sandbox.printed ++ text })
  report text := fun sandbox => ((), { sandbox with reported := sandbox.reported ++ text })

end Sandbox

end TypedHub.CommandLine
