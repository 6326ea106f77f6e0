import TypedHub.CSharp.Layout
import TypedHub.CSharp.Unit

/-!
# Compilation units as text

Every member is followed by a blank line, except a delegate, which stands right above the event that
uses it. The expression body of a method stands on the line of the signature as long as that line is
short enough, else on a line of its own, one level deeper.
-/

namespace TypedHub.CSharp

/-- The greatest width, in bytes, of a line that holds a signature and its body. -/
def maxLineWidth : Nat := 120

/-- Words separated by single blanks; empty ones are left out. -/
def words (list : List String) : String := " ".intercalate (list.filter (· ≠ ""))

/-! ## Attributes -/

def AttributeArgument.text (argument : AttributeArgument) : String :=
  match argument.name with
  | some name => name ++ " = " ++ argument.value.text
  | none => argument.value.text

def Attribute.text (a : Attribute) : String :=
  if a.arguments.isEmpty then a.name
  else a.name ++ "(" ++ ", ".intercalate (a.arguments.map (·.text)) ++ ")"

/-- A line for each list that is not empty. -/
def attributeLines (lists : List AttributeList) : List Layout :=
  (lists.filter (!·.isEmpty)).map fun list =>
    .line ("[" ++ ", ".intercalate (list.map Attribute.text) ++ "]")

/-! ## Members -/

def Accessor.text : Accessor → String
  | get => "get;"
  | init => "init;"

def Statement.text : Statement → String
  | assign target value => target.text ++ " = " ++ value.text
  | expr value => value.text

def Property.line (p : Property) : String :=
  let declared := words (p.modifiers ++ [p.type, p.name]) ++
    " \x7b " ++ " ".intercalate (p.accessors.map (·.text)) ++ " \x7d"
  match p.initializer with
  | some value => declared ++ " = " ++ value.text ++ ";"
  | none => declared

def Method.signature (m : Method) : String :=
  words (m.modifiers ++ [m.returnType, m.name]) ++ "(" ++ paramList m.parameters ++ ")"

/-- Whether signature and body fit on one line, with the arrow, the semicolon and the blanks between
them, behind an indentation of the given width. -/
def fitsLine (indentation : Nat) (signature body : String) : Bool :=
  indentation + signature.utf8ByteSize + body.utf8ByteSize + 5 ≤ maxLineWidth

/-- The lines of a method at the given level. -/
def Method.lines (level : Nat) (m : Method) : List Layout :=
  match m.body.map Expr.text with
  | none => [.line (m.signature ++ ";")]
  | some body =>
    if fitsLine (indentWidth level) m.signature body then
      [.line (m.signature ++ " => " ++ body ++ ";")]
    else [.line (m.signature ++ " =>"), .indented [.line (body ++ ";")]]

def Constructor.header (c : Constructor) : String :=
  words (c.modifiers ++ [c.name]) ++ "(" ++ paramList c.parameters ++ ")"

def Event.line (e : Event) : String := words (e.modifiers ++ ["event", e.type, e.name]) ++ ";"

def Delegate.line (d : Delegate) : String :=
  words (d.modifiers ++ ["delegate", d.returnType, d.name]) ++ "(" ++ paramList d.parameters ++ ");"

/-- The lines of a member at the given level, without the blank line behind it. -/
def Member.lines (level : Nat) : Member → List Layout
  | property p => attributeLines p.attributes ++ [.line p.line]
  | method m => attributeLines m.attributes ++ m.lines level
  | constructor c =>
    attributeLines c.attributes ++
      [.block c.header (c.body.map fun statement => .line (statement.text ++ ";"))]
  | event e => attributeLines e.attributes ++ [.line e.line]
  | delegate d => [.line d.line]

/-- The blank line behind a member, which keeps it apart from the next one. -/
def Member.gap : Member → List Layout
  | delegate _ => []
  | _ => [.blank]

/-! ## Types and units -/

def TypeKeyword.text : TypeKeyword → String
  | classType => "class"
  | interfaceType => "interface"

def TypeDecl.header (t : TypeDecl) : String :=
  words (t.modifiers ++ [t.keyword.text, t.name]) ++
    (if t.primaryConstructor then "()" else "") ++
    (if t.bases.isEmpty then "" else ": " ++ ", ".intercalate t.bases)

/-- The members of a type one level below `level`. -/
def TypeDecl.body (level : Nat) (t : TypeDecl) : List Layout :=
  if t.members.isEmpty then []
  else
    [.blank, .indented (t.members.flatMap fun member => member.lines (level + 1) ++ member.gap)]

/-- The lines of a type at the given level. -/
def TypeDecl.lines (level : Nat) (t : TypeDecl) : List Layout :=
  t.docs.map (fun doc => .line ("/// " ++ doc)) ++ attributeLines t.attributes ++
    [.line (t.header ++ " \x7b")] ++ t.body level ++ [.line "\x7d"]

/-- The lines of types with a blank line between any two. -/
def typeLines : List TypeDecl → List Layout
  | [] => []
  | [t] => t.lines 0
  | t :: rest => t.lines 0 ++ [.blank] ++ typeLines rest

/-- The lines of a source file. -/
def CompilationUnit.lines (unit : CompilationUnit) : List Layout :=
  unit.header.map (fun comment => .line ("// " ++ comment)) ++
    (if unit.nullableEnable then [.line "#nullable enable"] else []) ++
    (if unit.header.isEmpty && !unit.nullableEnable then [] else [.blank]) ++
    (match unit.fileNamespace with
      | some name => [.line ("namespace " ++ name ++ ";"), .blank]
      | none => []) ++
    typeLines unit.types

/-- The text of a source file. -/
def CompilationUnit.text (unit : CompilationUnit) : String := (writeAll 0 unit.lines).text

end TypedHub.CSharp
