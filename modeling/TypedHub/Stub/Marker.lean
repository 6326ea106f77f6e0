import TypedHub.Stub.Source

/-!
# The marker attribute

The source that declares the attribute by which classes ask for a stub. It is given by its qualified
name: the last segment is the name of the class, the segments before it are the namespace.
-/

namespace TypedHub

open CSharp

/-- A qualified name cut at its last point. -/
def splitLast (name : String) : Option String × String :=
  match (Text.parts '.' name).reverse with
  | [] => (none, name)
  | [only] => (none, only)
  | last :: others => (some (".".intercalate others.reverse), last)

/-- The name of an attribute class as it is used between brackets. -/
def usageName (name : String) : String :=
  match Text.before? "Attribute".toList name.toList with
  | some rest => String.ofList rest
  | none => name

/-- The name of the source file of the marker attribute. -/
def markerFileName (marker : String) : String := (splitLast marker).2 ++ ".g.cs"

/-- The property of the attribute that lists the interfaces of a role. -/
def roleProperty (role : Role) (modifiers : List String) (initializer : Option Expr) :
    Property where
  attributes := []
  modifiers := "public" :: modifiers
  type := "System.Type[]"
  name := role.argumentName
  accessors := [.get, .init]
  initializer := initializer

/-- The documentation of the attribute. -/
def markerDocs (name : String) : List String :=
  ["<summary>",
   "<para>Add this attribute to a partial class to generate a strongly-typed hub client for it. " ++
     "Pass the interfaces describing the calls the client receives and sends.</para>",
   "<para>Example:</para>",
   "<para><code>[" ++ usageName name ++
     "(Incoming = [typeof(EventsToClient)], Outgoing = [typeof(EventsToServer)])]",
   "public partial class SampleClient;</code></para>",
   "</summary>"]

/-- The attribute may stand once on a class, and derived classes do not inherit it. -/
def attributeUsage : Attribute where
  name := "System.AttributeUsage"
  arguments :=
    [⟨none, .name "System.AttributeTargets.Class"⟩,
     ⟨some "Inherited", .literal "false"⟩,
     ⟨some "AllowMultiple", .literal "false"⟩]

def markerDecl (settings : Settings) (name : String) : TypeDecl where
  docs := markerDocs name
  attributes := [[attributeUsage], memberAttributes settings]
  modifiers := ["internal", "sealed"]
  keyword := .classType
  name := name
  primaryConstructor := true
  bases := ["System.Attribute"]
  members :=
    [.property (roleProperty .incoming ["required"] none),
     .property (roleProperty .outgoing [] (some (.literal "[]")))]

/-- The source of the marker attribute, or the first name that cannot be written. -/
def markerSource (settings : Settings) (marker : String) : Except NameError String := do
  let (fileNamespace, name) := splitLast marker
  checkIdentifier .attributeName name
  if let some segments := fileNamespace then checkNamespace segments
  let unit : CompilationUnit :=
    ⟨[autoGenerated], true, fileNamespace, [markerDecl settings name]⟩
  .ok unit.text

end TypedHub
