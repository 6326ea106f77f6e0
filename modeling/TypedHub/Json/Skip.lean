import TypedHub.Json.NumberText
import TypedHub.Json.StringText

/-!
# Values that nobody wants

A member with an unknown key is read past. Only its form is looked at: strings may hold lone
surrogates, numbers may be of any size, and lists and objects may be nested to any depth, since the
brackets that are open are held in a list.

## Termination

Each step consumes characters, except that an item of a list that has just been opened is read at
the same place. So the measure is twice the length of the text, and one more where no value comes
next.
-/

namespace TypedHub.Json

/-- The kind of a bracket that is open. -/
inductive Bracket where
  | square
  | curly

/-- The character that closes the bracket. -/
def Bracket.closing : Bracket → Char
  | square => ']'
  | curly => '\x7d'

/-- The text ends inside the bracket. -/
def Bracket.unclosed : Bracket → SyntaxError
  | square => .endInList
  | curly => .endInObject

/-- Something else than a comma follows an item. -/
def Bracket.unseparated : Bracket → SyntaxError
  | square => .expectedCommaOrBracket
  | curly => .expectedCommaOrBrace

/-- Past the key of a member and its colon. -/
def skipKey (text : List Char) : Except SyntaxError (Parsed Unit text) :=
  match h : skipBlanks text with
  | [] => .error .endInObject
  | '"' :: quoted => do
    have := length_lt_of_quote h
    let key ← skipString quoted
    match h' : skipBlanks key.rest with
    | [] => .error .endInObject
    | ':' :: rest =>
      have := length_lt_of_skipBlanks h'
      have := key.shorter
      .ok ⟨(), rest, by omega⟩
    | _ => .error .expectedColon
  | _ => .error .keyNotString

/-- Past what stands before an item in a bracket: the key of a member, nothing in a list. -/
def Bracket.skipLabel (bracket : Bracket) (text : List Char) :
    Except SyntaxError { rest : List Char // rest.length ≤ text.length } :=
  match bracket with
  | square => .ok ⟨text, length_le_self text⟩
  | curly => do
    let key ← skipKey text
    .ok ⟨key.rest, key.notLonger⟩

/-- Past a scalar of which `first` is the first character and `rest` what follows it. -/
def skipScalar (first : Char) (rest : List Char) :
    Except SyntaxError { after : List Char // after.length ≤ rest.length } :=
  if first = 'n' then literal ['u', 'l', 'l'] rest
  else if first = 't' then literal ['r', 'u', 'e'] rest
  else if first = 'f' then literal ['a', 'l', 's', 'e'] rest
  else if first = '"' then do
    let parsed ← skipString rest
    .ok ⟨parsed.rest, parsed.notLonger⟩
  else if first = '-' || first.isDigit then do
    let parsed ← skipNumber (first :: rest)
    .ok ⟨parsed.rest, by have := parsed.shorter; simp only [List.length_cons] at this; omega⟩
  else .error .expectedValue

/-- The bracket that a character opens. -/
def Bracket.opened? (c : Char) : Option Bracket :=
  if c = '[' then some square else if c = '\x7b' then some curly else none

mutual

/-- Past a value inside the open brackets, innermost first, and on to the end of the outermost. -/
def skipValue (openBrackets : List Bracket) (text : List Char) :
    Except SyntaxError (Parsed Unit text) :=
  match h : skipBlanks text with
  | [] => .error .endInValue
  | c :: rest =>
    have shorter := length_lt_of_skipBlanks h
    match Bracket.opened? c with
    | some bracket => do
      let parsed ← skipOpened bracket openBrackets rest
      .ok (parsed.behind shorter)
    | none => do
      let ⟨after, h'⟩ ← skipScalar c rest
      match openBrackets with
      | [] => .ok ⟨(), after, Nat.lt_of_le_of_lt h' shorter⟩
      | bracket :: others => do
        let parsed ← skipFollowing bracket others after
        .ok (parsed.from (Nat.le_trans h' (Nat.le_of_lt shorter)))
termination_by 2 * text.length
decreasing_by all_goals omega

/-- On from behind an opening bracket. -/
def skipOpened (bracket : Bracket) (openBrackets : List Bracket) (text : List Char) :
    Except SyntaxError (Parsed Unit text) :=
  match h : skipBlanks text with
  | [] => .error bracket.unclosed
  | c :: rest =>
    have shorter := length_lt_of_skipBlanks h
    if c = bracket.closing then
      match openBrackets with
      | [] => .ok ⟨(), rest, shorter⟩
      | outer :: others => do
        let parsed ← skipFollowing outer others rest
        .ok (parsed.behind shorter)
    else do
      -- An item of a list begins right here, so nothing has been consumed yet.
      let ⟨item, h'⟩ ← bracket.skipLabel text
      let parsed ← skipValue (bracket :: openBrackets) item
      .ok (parsed.from h')
termination_by 2 * text.length + 1
decreasing_by all_goals omega

/-- On from behind an item of the innermost bracket. -/
def skipFollowing (bracket : Bracket) (openBrackets : List Bracket) (text : List Char) :
    Except SyntaxError (Parsed Unit text) :=
  match h : skipBlanks text with
  | [] => .error bracket.unclosed
  | c :: rest =>
    have shorter := length_lt_of_skipBlanks h
    if c = ',' then do
      let ⟨item, h'⟩ ← bracket.skipLabel rest
      let parsed ← skipValue (bracket :: openBrackets) item
      .ok (parsed.from (Nat.le_trans h' (Nat.le_of_lt shorter)))
    else if c = bracket.closing then
      match openBrackets with
      | [] => .ok ⟨(), rest, shorter⟩
      | outer :: others => do
        let parsed ← skipFollowing outer others rest
        .ok (parsed.behind shorter)
    else .error bracket.unseparated
termination_by 2 * text.length + 1
decreasing_by all_goals omega

end

/-- Past the value at the front of the text. -/
def skip : TextReader Unit := fun text => atRoot (skipValue [] text)

end TypedHub.Json
