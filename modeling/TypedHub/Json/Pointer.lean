import TypedHub.Json.Value
import TypedHub.Text.Split

/-!
# Pointers into a value

A pointer names a part of a value by the way to it from the root: keys of objects and positions in
lists, each behind a slash. The empty pointer names the root itself. In a key, `~1` stands for a
slash and `~0` for a tilde.
-/

namespace TypedHub.Json

/-- The text with each pair of the characters `first` and `second` replaced by one character. -/
def replacePair (first second replacement : Char) : List Char → List Char
  | a :: b :: rest =>
    if a = first && b = second then replacement :: replacePair first second replacement rest
    else a :: replacePair first second replacement (b :: rest)
  | short => short

/-- The key that a token of a pointer stands for. -/
def unescapeToken (token : List Char) : List Char :=
  replacePair '~' '0' '~' (replacePair '~' '1' '/' token)

/-- The position that a token stands for: decimal digits without a needless zero in front. -/
def position? (token : List Char) : Option Nat :=
  match token with
  | [] => none
  | '0' :: _ :: _ => none
  | digits =>
    if digits.all Char.isDigit then
      some (digits.foldl (fun n c => n * 10 + (c.toNat - '0'.toNat)) 0)
    else none

/-- The part of the value that the tokens lead to. -/
def follow? : List (List Char) → Json → Option Json
  | [], value => some value
  | token :: rest, array items =>
    ((position? token).bind (items[·]?)).bind (follow? rest)
  | token :: rest, value => (value.member? (String.ofList token)).bind (follow? rest)

/-- The part of the value that the pointer names. -/
def at? (value : Json) (pointer : String) : Option Json :=
  match pointer.toList with
  | [] => some value
  | '/' :: tokens => follow? ((Text.splitAt '/' tokens).map unescapeToken) value
  | _ => none

end TypedHub.Json
