import TypedHub.Json.Value

/-!
# Host metadata

What a host build knows about a program: its types with their declared bases, methods and
attributes. A `Compilation` is the list of them in the order in which they were exported. A type is
addressed by its qualified name; where two types have the same one, the first stands for both.
-/

namespace TypedHub.Metadata

/-- The kind of a type. -/
inductive TypeKind where
  | classType
  | interfaceType
  | structType
  | enumType
  | delegateType
  | other
  deriving DecidableEq

/-- The declared accessibility of a type. -/
inductive Accessibility where
  | isPublic
  | isInternal
  | isProtected
  | protectedOrInternal
  | protectedAndInternal
  | isPrivate
  | notApplicable
  deriving DecidableEq

/-- A parameter of a method. -/
structure ParameterSymbol where
  type : String
  name : String
  nullable : Bool
  /-- Whether the parameter may be omitted in a call. -/
  hasDefault : Bool
  /-- The constant that an omitted argument stands for; nothing where it is the default value of the
  type, or where there is none. -/
  constant : Option Json
  /-- Whether the parameter takes the rest of the arguments. -/
  isParams : Bool

/-- A method that a type declares itself. -/
structure MethodSymbol where
  name : String
  returnsVoid : Bool
  returnType : Option String
  parameters : List ParameterSymbol

/-- An attribute on a type, with its named arguments in the order of their first mention. -/
structure AttributeData where
  name : String
  namedArguments : List (String × Json)

/-- A type with what it declares itself. -/
structure TypeSymbol where
  kind : TypeKind
  name : String
  containingNamespace : String
  accessibility : Accessibility
  bases : List String
  methods : List MethodSymbol
  attributes : List AttributeData

/-- The types that a host exports. -/
structure Compilation where
  types : List TypeSymbol

/-- A name behind its namespace; the global namespace is empty. -/
def qualify (containingNamespace name : String) : String :=
  if containingNamespace = "" then name else containingNamespace ++ "." ++ name

def TypeSymbol.qualifiedName (type : TypeSymbol) : String :=
  qualify type.containingNamespace type.name

/-- The first attribute with the given name. -/
def TypeSymbol.attribute? (type : TypeSymbol) (name : String) : Option AttributeData :=
  type.attributes.find? (·.name = name)

namespace Compilation

/-- Several exports as one, in their order. -/
def merge (parts : List Compilation) : Compilation := ⟨parts.flatMap (·.types)⟩

/-- The position of the first type with the qualified name. -/
def position? (compilation : Compilation) (name : String) : Option Nat :=
  compilation.types.findIdx? (·.qualifiedName = name)

/-- The type that a qualified name stands for: the first one that has it. -/
def find? (compilation : Compilation) (name : String) : Option TypeSymbol :=
  (compilation.position? name).bind (compilation.types[·]?)

theorem find?_eq (compilation : Compilation) (name : String) :
    compilation.find? name = compilation.types.find? (·.qualifiedName = name) := by
  obtain ⟨types⟩ := compilation
  simp only [find?, position?]
  induction types with
  | nil => rfl
  | cons type rest ih =>
    by_cases h : type.qualifiedName = name
    · simp [List.findIdx?_cons, h]
    · simp [List.findIdx?_cons, h, ← ih]
      cases List.findIdx? (fun x => decide (x.qualifiedName = name)) rest <;> simp

/-- The interface that a qualified name stands for. A type of another kind hides all interfaces of
the same name behind it. -/
def interface? (compilation : Compilation) (name : String) : Option TypeSymbol :=
  (compilation.find? name).filter (·.kind = .interfaceType)

theorem mem_of_interface? {compilation : Compilation} {name : String} {type : TypeSymbol}
    (h : compilation.interface? name = some type) :
    type ∈ compilation.types ∧ type.qualifiedName = name ∧ type.kind = .interfaceType := by
  simp only [interface?, find?_eq, Option.filter_eq_some_iff, decide_eq_true_eq] at h
  exact ⟨List.mem_of_find?_eq_some h.1, by simpa using List.find?_some h.1, h.2⟩

end Compilation

end TypedHub.Metadata
