import TypedHub.Unicode.Hidden

/-!
# Quoted texts in messages

A message that cites a text puts it between double quotes and shows every character in a visible
way: quotes and backslashes behind a backslash, the common controls by their letters, and any other
character without a picture by its code point in small hexadecimal digits between braces.
-/

namespace TypedHub.Text

/-- How a character is shown between the quotes. -/
def shown (c : Char) : List Char :=
  if c = '"' || c = '\\' then ['\\', c]
  else if c = '\n' then ['\\', 'n']
  else if c = '\r' then ['\\', 'r']
  else if c = '\t' then ['\\', 't']
  else if c = '\x00' then ['\\', '0']
  else if Unicode.isHidden c then ['\\', 'u', '\x7b'] ++ Nat.toDigits 16 c.toNat ++ ['\x7d']
  else [c]

/-- The text between double quotes with every character visible. -/
def quoted (text : String) : String :=
  String.ofList ('"' :: text.toList.flatMap shown ++ ['"'])

example : quoted "a\"\n" = "\"a\\\"\\n\"" := by decide +kernel

end TypedHub.Text
