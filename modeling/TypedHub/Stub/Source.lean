import TypedHub.CSharp.Printer
import TypedHub.Stub.Members
import TypedHub.Stub.Names

/-!
# The source of a stub

A source file with two types: the class, and the interface that it implements. Both are put together
from the members of the same methods (`TypedHub.Stub.Members`), so they cannot drift apart.
-/

namespace TypedHub

open CSharp

/-- The parameter of the constructor. -/
def connectionParam : String := "hubConnection"

/-- The header line that keeps other tools off written files. -/
def autoGenerated : String := "<auto-generated/>"

namespace Stub

/-! ## The class -/

/-- The property that holds the connection. -/
def connectionProperty (settings : Settings) : Property where
  attributes := [memberAttributes settings]
  modifiers := ["public"]
  type := settings.transport.connectionType
  name := settings.transport.connectionProperty
  accessors := [.get]
  initializer := none

/-- The statements of the constructor: keep the connection, subscribe to all incoming methods. -/
def constructorBody (settings : Settings) (stub : Stub) : List Statement :=
  .assign (.name settings.transport.connectionProperty) (.name connectionParam) ::
    (stub.methods .incoming).map fun method => .expr (method.subscription settings)

def constructor (settings : Settings) (stub : Stub) : Constructor where
  attributes := [memberAttributes settings]
  modifiers := ["public"]
  name := stub.className
  parameters := [⟨false, settings.transport.connectionType, connectionParam, none⟩]
  body := stub.constructorBody settings

def classMembers (settings : Settings) (stub : Stub) : List Member :=
  [.property (connectionProperty settings)] ++
    ((stub.methods .outgoing).flatMap fun method =>
      [.method (method.forwarding settings), .method (method.cancellable settings)]) ++
    ((stub.methods .incoming).map fun method =>
      .event (method.classEvent settings stub.interfaceName)) ++
    [.constructor (stub.constructor settings)]

def classDecl (settings : Settings) (stub : Stub) : TypeDecl where
  docs := []
  attributes := []
  modifiers :=
    (if stub.visibility.modifier = "" then [] else [stub.visibility.modifier]) ++ ["partial"]
  keyword := .classType
  name := stub.className
  primaryConstructor := false
  bases := [stub.interfaceName]
  members := stub.classMembers settings

/-! ## The interface -/

def interfaceMembers (settings : Settings) (stub : Stub) : List Member :=
  ((stub.methods .outgoing).map fun method => .method (method.declaration settings)) ++
    (stub.methods .incoming).flatMap fun method =>
      [.delegate (method.delegate stub.interfaceName), .event method.interfaceEvent]

def interfaceDecl (settings : Settings) (stub : Stub) : TypeDecl where
  docs := []
  attributes := [[generatedCode settings]]
  modifiers := ["public"]
  keyword := .interfaceType
  name := stub.interfaceName
  primaryConstructor := false
  bases := stub.outgoing.map (·.name)
  members := stub.interfaceMembers settings

/-! ## The file -/

/-- The compilation unit of a stub whose names can be written. -/
def compilationUnit (settings : Settings) (stub : Stub) : CompilationUnit where
  header := [autoGenerated]
  nullableEnable := true
  fileNamespace := if stub.containingNamespace = "" then none else some stub.containingNamespace
  types := [stub.classDecl settings, stub.interfaceDecl settings]

/-- The compilation unit of a stub, or the first name that cannot be written. -/
def lower (settings : Settings) (stub : Stub) : Except NameError CompilationUnit := do
  stub.checkNames
  .ok (stub.compilationUnit settings)

theorem lower_eq_ok_iff {settings : Settings} {stub : Stub} {unit : CompilationUnit} :
    stub.lower settings = .ok unit ↔
      stub.checkNames = .ok () ∧ unit = stub.compilationUnit settings := by
  rw [lower]
  cases stub.checkNames with
  | error e => simp [Bind.bind, Except.bind]
  | ok _ => simp [Bind.bind, Except.bind, eq_comm]

/-- The source of a stub, or the first name that cannot be written. -/
def emit (settings : Settings) (stub : Stub) : Except NameError String :=
  (stub.lower settings).map (·.text)

theorem emit_eq_ok_iff {settings : Settings} {stub : Stub} {text : String} :
    stub.emit settings = .ok text ↔
      stub.checkNames = .ok () ∧ text = (stub.compilationUnit settings).text := by
  rw [emit]
  cases lowered : stub.lower settings with
  | error e =>
    refine ⟨(nomatch ·), fun ⟨checked, _⟩ => ?_⟩
    rw [lower_eq_ok_iff.2 ⟨checked, rfl⟩] at lowered
    exact nomatch lowered
  | ok unit =>
    obtain ⟨checked, rfl⟩ := lower_eq_ok_iff.1 lowered
    exact ⟨fun h => ⟨checked, (Except.ok.inj h).symm⟩, fun ⟨_, same⟩ => congrArg _ same.symm⟩

end Stub

end TypedHub
