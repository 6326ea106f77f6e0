import TypedHub.CSharp.Expr

/-!
# Compilation units

The declarations of a source file: types with their members, below a header of comment lines and an
optional namespace that holds for the whole file.
-/

namespace TypedHub.CSharp

/-- An argument of an attribute: positional, or for a named property. -/
structure AttributeArgument where
  name : Option String
  value : Expr

structure Attribute where
  name : String
  arguments : List AttributeArgument

/-- The attributes between one pair of brackets. -/
abbrev AttributeList := List Attribute

inductive Accessor where
  | get
  | init
  deriving DecidableEq

structure Property where
  attributes : List AttributeList
  modifiers : List String
  type : String
  name : String
  accessors : List Accessor
  initializer : Option Expr

/-- A method; one without a body is only declared. -/
structure Method where
  attributes : List AttributeList
  modifiers : List String
  returnType : String
  name : String
  parameters : List Param
  body : Option Expr

inductive Statement where
  | assign (target value : Expr)
  | expr (value : Expr)

structure Constructor where
  attributes : List AttributeList
  modifiers : List String
  name : String
  parameters : List Param
  body : List Statement

structure Event where
  attributes : List AttributeList
  modifiers : List String
  type : String
  name : String

/-- A delegate type, which belongs to the member that follows it. -/
structure Delegate where
  modifiers : List String
  returnType : String
  name : String
  parameters : List Param

inductive Member where
  | property (property : Property)
  | method (method : Method)
  | constructor (constructor : Constructor)
  | event (event : Event)
  | delegate (delegate : Delegate)

inductive TypeKeyword where
  | classType
  | interfaceType
  deriving DecidableEq

structure TypeDecl where
  /-- Lines of the documentation comment. -/
  docs : List String
  attributes : List AttributeList
  modifiers : List String
  keyword : TypeKeyword
  name : String
  /-- Whether an empty parameter list follows the name. -/
  primaryConstructor : Bool
  bases : List String
  members : List Member

structure CompilationUnit where
  /-- Comment lines at the top of the file. -/
  header : List String
  nullableEnable : Bool
  /-- The namespace of the file; nothing for the global one. -/
  fileNamespace : Option String
  types : List TypeDecl

/-! ## The members of a type by kind -/

namespace TypeDecl

def methods (type : TypeDecl) : List Method :=
  type.members.filterMap fun | .method m => some m | _ => none

def events (type : TypeDecl) : List Event :=
  type.members.filterMap fun | .event e => some e | _ => none

def delegates (type : TypeDecl) : List Delegate :=
  type.members.filterMap fun | .delegate d => some d | _ => none

/-- The first constructor. -/
def constructor? (type : TypeDecl) : Option Constructor :=
  type.members.findSome? fun | .constructor c => some c | _ => none

end TypeDecl

end TypedHub.CSharp
