import TypedHub.Text.Split
import TypedHub.Unicode.Letter
import TypedHub.Unicode.Numeral

/-!
# Names

Which texts are identifiers and which may stand for types, and how a name that is a keyword is
written.

The rule for type names is generous: it admits whatever is made of the characters of type names, and
its only purpose is that no text passes it that could end a declaration or open a block.
-/

namespace TypedHub.CSharp

/-! ## Identifiers -/

/-- Identifiers begin with a letter or an underscore. -/
def isNameStart (c : Char) : Bool := c = '_' || Unicode.isLetter c

/-- Identifiers go on with letters, numerals and underscores. -/
def isNamePart (c : Char) : Bool := c = '_' || Unicode.isLetter c || Unicode.isNumeral c

/-- An identifier without an at sign in front. -/
def isPlainIdentifier : List Char → Bool
  | [] => false
  | c :: rest => isNameStart c && rest.all isNamePart

/-- An identifier, which may be escaped by an at sign. -/
def isIdentifier : List Char → Bool
  | '@' :: rest => isPlainIdentifier rest
  | text => isPlainIdentifier text

/-! ## Type names -/

/-- The first character of a type name. -/
def isTypeNameStart (c : Char) : Bool := isNameStart c || "@([".toList.contains c

/-- A later character of a type name. -/
def isTypeNamePart (c : Char) : Bool := isNamePart c || "@.:<>[],?() ".toList.contains c

/-- A text that may be written where a type is asked for. -/
def isTypeName : List Char → Bool
  | [] => false
  | c :: rest => isTypeNameStart c && rest.all isTypeNamePart && rest.getLast? != some ' '

/-! ## Keywords -/

/-- The words that are reserved everywhere. -/
def keywords : List String :=
  ["abstract", "as", "base", "bool", "break", "byte", "case", "catch", "char", "checked", "class",
   "const", "continue", "decimal", "default", "delegate", "do", "double", "else", "enum", "event",
   "explicit", "extern", "false", "finally", "fixed", "float", "for", "foreach", "goto", "if",
   "implicit", "in", "int", "interface", "internal", "is", "lock", "long", "namespace", "new",
   "null", "object", "operator", "out", "override", "params", "private", "protected", "public",
   "readonly", "ref", "return", "sbyte", "sealed", "short", "sizeof", "stackalloc", "static",
   "string", "struct", "switch", "this", "throw", "true", "try", "typeof", "uint", "ulong",
   "unchecked", "unsafe", "ushort", "using", "virtual", "void", "volatile", "while"]

/-- The words that are reserved in asynchronous bodies only. -/
def asyncKeywords : List String := ["await"]

/-- A name as it is declared and used: an at sign stands before a keyword. -/
def escapeKeyword (name : String) : String :=
  if name ∈ keywords ∨ name ∈ asyncKeywords then "@" ++ name else name

/-! ## Errors -/

/-- What a name is for. -/
inductive NameUse where
  | className
  | namespaceSegment
  | methodName
  | parameterName
  | attributeName
  deriving DecidableEq

def NameUse.text : NameUse → String
  | className => "class"
  | namespaceSegment => "namespace segment"
  | methodName => "method"
  | parameterName => "parameter"
  | attributeName => "attribute"

/-- A name that cannot be written into a source file. -/
inductive NameError where
  | invalidIdentifier (nameUse : NameUse) (name : String)
  | unsupportedTypeName (name : String)
  deriving DecidableEq

def NameError.message : NameError → String
  | invalidIdentifier nameUse name =>
    nameUse.text ++ " `" ++ name ++ "` is not a valid identifier"
  | unsupportedTypeName name => "unsupported type name `" ++ name ++ "`"

def checkIdentifier (nameUse : NameUse) (name : String) : Except NameError Unit :=
  if isIdentifier name.toList then .ok () else .error (.invalidIdentifier nameUse name)

def checkTypeName (name : String) : Except NameError Unit :=
  if isTypeName name.toList then .ok () else .error (.unsupportedTypeName name)

/-- A namespace is a sequence of identifiers with points between them. -/
def checkNamespace (name : String) : Except NameError Unit :=
  (Text.parts '.' name).forM (checkIdentifier .namespaceSegment)

end TypedHub.CSharp
