import TypedHub.Json.Collection
import TypedHub.Json.NumberText

/-!
# Values of free form as text

`readValue` reads any value; its argument is the number of lists and objects that may still be
opened, which is also what the recursion runs on. `parse` reads a whole text.
-/

namespace TypedHub.Json

/-! ## The front of a value -/

/-- What a value begins with: a scalar, which is then complete, or an opening bracket. -/
inductive Head where
  | scalar (value : Json)
  | list
  | object

/-- The kind of the value. -/
def Head.found : Head → Found
  | scalar value => .of value
  | list => .sequence
  | object => .map

/-- The head of the value at the front of the text. -/
def readHead : TextReader Head := fun text =>
  match h : skipBlanks text with
  | [] => malformed .endInValue
  | c :: rest =>
    have shorter := length_lt_of_skipBlanks h
    let word (rest' : List Char) (value : Json) : Except Fault (Parsed Head text) := do
      let ⟨after, h'⟩ ← atRoot (literal rest' rest)
      .ok ⟨.scalar value, after, Nat.lt_of_le_of_lt h' shorter⟩
    if c = 'n' then word ['u', 'l', 'l'] null
    else if c = 't' then word ['r', 'u', 'e'] (bool true)
    else if c = 'f' then word ['a', 'l', 's', 'e'] (bool false)
    else if c = '"' then do
      let parsed ← atRoot (readString [] rest)
      .ok ((parsed.map fun s => .scalar (string s)).behind shorter)
    else if c = '-' || c.isDigit then do
      let parsed ← atRoot (readNumber (c :: rest))
      .ok ((parsed.map fun n => .scalar (number n)).from (by
        simp only [List.length_cons]; omega))
    else if c = '[' then .ok ⟨.list, rest, shorter⟩
    else if c = '\x7b' then .ok ⟨.object, rest, shorter⟩
    else malformed .expectedValue

/-! ## Values -/

/-- Gathers members of free form, the last one first. -/
def gather (value : TextReader Json) (members : List (String × Json)) (key : String) :
    Except Fault (TextReader (List (String × Json))) :=
  .ok (value.map fun v => (key, v) :: members)

/-- All members of an object of free form, as they stand in the text. -/
def readFreeObject (value : TextReader Json) : TextReader (List (String × Json)) :=
  (readObject (gather value) []).map List.reverse

/-- The value at the front of the text, of which at most `depth` lists and objects are nested. -/
def readValue : (depth : Nat) → TextReader Json
  | 0 => fun text => do
    let head ← readHead text
    match head.value with
    | .scalar value => .ok (head.map fun _ => value)
    | _ => malformed .tooDeep
  | depth + 1 => fun text => do
    let head ← readHead text
    match head.value with
    | .scalar value => .ok (head.map fun _ => value)
    | .list => do
      let items ← readList (readValue depth) head.rest
      .ok (head.next (items.map array))
    | .object => do
      let members ← readFreeObject (readValue depth) head.rest
      .ok (head.next (members.map object))

/-- The number of lists and objects that may be nested in a metadata text. -/
def maxDepth : Nat := 127

/-- The value that is the whole text, but for blanks around it, with the keys as they stand. -/
def parseRaw (depth : Nat) (text : String) : Except Fault Json := do
  let parsed ← readValue depth text.toList
  match skipBlanks parsed.rest with
  | [] => .ok parsed.value
  | _ => malformed .trailingCharacters

/-- The value that is the whole text, with unique keys. -/
def parse (depth : Nat) (text : String) : Except Fault Json :=
  (parseRaw depth text).map settled

end TypedHub.Json
