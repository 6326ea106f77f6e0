import TypedHub.Text.Hex

/-!
# String literals

The regular string literal for a text: quotes and backslashes stand behind a backslash, five control
characters have an escape of one letter or digit, and all other control characters are written by
their code in four hexadecimal digits. Everything else stands for itself.
-/

namespace TypedHub.CSharp

/-- The control characters: codes 0 to 1F and 7F to 9F. -/
def isControl (c : Char) : Bool := c.toNat < 0x20 || (0x7F ≤ c.toNat && c.toNat < 0xA0)

/-- A character between the quotes of a literal. -/
def literalChar (c : Char) : List Char :=
  if c = '"' || c = '\\' then ['\\', c]
  else if c = '\n' then ['\\', 'n']
  else if c = '\r' then ['\\', 'r']
  else if c = '\t' then ['\\', 't']
  else if c = '\x00' then ['\\', '0']
  else if isControl c then '\\' :: 'u' :: Text.hexDigits 4 c.toNat
  else [c]

/-- The characters of the literal for a text. -/
def literalChars (text : List Char) : List Char := '"' :: text.flatMap literalChar ++ ['"']

/-- The string literal for a text. -/
def stringLiteral (text : String) : String := String.ofList (literalChars text.toList)

end TypedHub.CSharp
