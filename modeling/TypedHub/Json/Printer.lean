import TypedHub.Json.FloatText
import TypedHub.Text.Hex

/-!
# Values as text

The layout of dumps: one item or member a line, two blanks deeper than its bracket; empty lists and
objects on one line. Strings are written with the shortest escapes and only where JSON demands one.
-/

namespace TypedHub.Json

/-- A character between the quotes of a string. -/
def escapedChar (c : Char) : List Char :=
  if c = '"' || c = '\\' then ['\\', c]
  else if c = '\x08' then ['\\', 'b']
  else if c = '\x0c' then ['\\', 'f']
  else if c = '\n' then ['\\', 'n']
  else if c = '\r' then ['\\', 'r']
  else if c = '\t' then ['\\', 't']
  else if c.toNat < 0x20 then '\\' :: 'u' :: Text.hexDigits 4 c.toNat
  else [c]

/-- A string between quotes. -/
def stringText (text : String) : String :=
  String.ofList ('"' :: text.toList.flatMap escapedChar ++ ['"'])

/-- A new line, indented for the given nesting. -/
def newLine (nesting : Nat) : String := String.ofList ('\n' :: List.replicate (2 * nesting) ' ')

/-- Items between brackets, each on a line of its own. -/
def bracketed (opening closing : String) (nesting : Nat) (items : List String) : String :=
  match items with
  | [] => opening ++ closing
  | items =>
    let separator := newLine (nesting + 1)
    opening ++ separator ++ ("," ++ separator).intercalate items ++ newLine nesting ++ closing

mutual

/-- The text of a value inside `nesting` brackets. -/
def pretty (nesting : Nat) : Json → String
  | null => "null"
  | bool value => toString value
  | number value => value.text
  | string value => stringText value
  | array items => bracketed "[" "]" nesting (prettyItems (nesting + 1) items)
  | object members => bracketed "\x7b" "\x7d" nesting (prettyMembers (nesting + 1) members)

def prettyItems (nesting : Nat) : List Json → List String
  | [] => []
  | item :: rest => item.pretty nesting :: prettyItems nesting rest

def prettyMembers (nesting : Nat) : List (String × Json) → List String
  | [] => []
  | (key, value) :: rest =>
    (stringText key ++ ": " ++ value.pretty nesting) :: prettyMembers nesting rest

end

end TypedHub.Json
