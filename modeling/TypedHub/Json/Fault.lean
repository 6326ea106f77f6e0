import TypedHub.Json.Value
import TypedHub.Json.FloatText
import TypedHub.Text.Quoted

/-!
# What can be wrong with a JSON text or value

A `Fault` is a cause at a place. A cause is either a mistake of the text (`SyntaxError`) or a value
of another shape than the one that is asked for (`ShapeError`). The place is a path from the root:
keys and list positions, and `unread` for a member whose key has not been read. Readers report a
fault at the root of what they read, and whoever calls them for a part puts the way to that part in
front (`Fault.under`).
-/

namespace TypedHub.Json

/-! ## Places -/

/-- One step of a path. -/
inductive Step where
  | index (position : Nat)
  | key (name : String)
  | unread

/-- The text of a path: positions in brackets, keys after points, a single point for the root. -/
def pathText : List Step → String
  | [] => "."
  | steps => String.join (go true steps)
where
  go (first : Bool) : List Step → List String
    | [] => []
    | .index position :: rest => ("[" ++ toString position ++ "]") :: go false rest
    | .key name :: rest => ((if first then "" else ".") ++ name) :: go false rest
    | .unread :: rest => ((if first then "" else ".") ++ "?") :: go false rest

/-! ## Causes -/

/-- The mistakes of a text. -/
inductive SyntaxError where
  | endInValue
  | endInList
  | endInObject
  | endInString
  | expectedValue
  | misspeltLiteral
  | expectedColon
  | expectedCommaOrBracket
  | expectedCommaOrBrace
  | trailingComma
  | trailingCharacters
  | keyNotString
  | invalidNumber
  | numberOutOfRange
  | invalidEscape
  | loneSurrogate
  | unfinishedPair
  | controlCharacter
  | tooDeep
  deriving DecidableEq

def SyntaxError.message : SyntaxError → String
  | endInValue => "EOF while parsing a value"
  | endInList => "EOF while parsing a list"
  | endInObject => "EOF while parsing an object"
  | endInString => "EOF while parsing a string"
  | expectedValue => "expected value"
  | misspeltLiteral => "expected ident"
  | expectedColon => "expected `:`"
  | expectedCommaOrBracket => "expected `,` or `]`"
  | expectedCommaOrBrace => "expected `,` or `\x7d`"
  | trailingComma => "trailing comma"
  | trailingCharacters => "trailing characters"
  | keyNotString => "key must be a string"
  | invalidNumber => "invalid number"
  | numberOutOfRange => "number out of range"
  | invalidEscape => "invalid escape"
  | loneSurrogate => "lone leading surrogate in hex escape"
  | unfinishedPair => "unexpected end of hex escape"
  | controlCharacter => "control character (\\u0000-\\u001F) found while parsing a string"
  | tooDeep => "recursion limit exceeded"

/-- What stands where a value of another kind is asked for. -/
inductive Found where
  | null
  | bool (value : Bool)
  | number (value : Number)
  | string (value : String)
  | sequence
  | map

/-- The kind of a value, with the value itself where it is a scalar. -/
def Found.of : Json → Found
  | .null => null
  | .bool value => bool value
  | .number value => number value
  | .string value => string value
  | .array _ => sequence
  | .object _ => map

def Found.describe : Found → String
  | null => "null"
  | bool value => "boolean `" ++ toString value ++ "`"
  | number (.integer value) => "integer `" ++ toString value ++ "`"
  | number (.float value) => "floating point `" ++ floatText value ++ "`"
  | string value => "string " ++ Text.quoted value
  | sequence => "sequence"
  | map => "map"

/-- The ways in which a value differs from the shape that is asked for. -/
inductive ShapeError where
  /-- A value of another kind. -/
  | wrongKind (found : Found) (expected : String)
  /-- A list of the wrong length in the place of a record. -/
  | wrongLength (length : Nat) (expected : String)
  /-- An object that should have one member and has none or several. -/
  | notSingleMember
  | missingField (name : String)
  | repeatedField (name : String)

def ShapeError.message : ShapeError → String
  | wrongKind found expected => "invalid type: " ++ found.describe ++ ", expected " ++ expected
  | wrongLength length expected =>
    "invalid length " ++ toString length ++ ", expected " ++ expected
  | notSingleMember => "invalid value: map, expected map with a single key"
  | missingField name => "missing field `" ++ name ++ "`"
  | repeatedField name => "duplicate field `" ++ name ++ "`"

inductive Cause where
  | malformed (error : SyntaxError)
  | mismatched (error : ShapeError)

def Cause.message : Cause → String
  | malformed error => error.message
  | mismatched error => error.message

/-! ## Faults -/

/-- A cause and the path to the place where it was met. -/
structure Fault where
  path : List Step
  cause : Cause

/-- The fault as it is met by whoever reached the faulty part by one step. -/
def Fault.under (step : Step) (fault : Fault) : Fault := { fault with path := step :: fault.path }

/-- The message with the path in front. -/
def Fault.message (fault : Fault) : String :=
  "at JSON path " ++ pathText fault.path ++ " → " ++ fault.cause.message

/-- A mistake of the text at the root of what is read. -/
def malformed (error : SyntaxError) : Except Fault α := .error ⟨[], .malformed error⟩

/-- A shape error at the root of what is read. -/
def mismatched (error : ShapeError) : Except Fault α := .error ⟨[], .mismatched error⟩

/-- A result for a part as a result for the whole: a fault gains the step to the part. -/
def under (step : Step) : Except Fault α → Except Fault α
  | .error fault => .error (fault.under step)
  | .ok value => .ok value

end TypedHub.Json
