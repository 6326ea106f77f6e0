import TypedHub.Json.StringText

/-!
# Lists and objects as text

The brackets, commas, keys and colons of lists and objects, for any reader of the parts. Reading
starts behind the opening bracket and ends behind the closing one. The same two readers serve values
of free form (`TypedHub.Json.Document`) and records with known fields (`TypedHub.Json.Reader`).

A fault inside an item or a member is reported below its position or key. Mistakes between members,
where the next key is not known, are reported at the step `unread`.
-/

namespace TypedHub.Json

/-! ## Lists -/

/-- The items of a list from one at the given position on. -/
def readItems (item : TextReader α) (position : Nat) (text : List Char) :
    Except Fault (Parsed (List α) text) := do
  let first ← under (.index position) (item text)
  match h : skipBlanks first.rest with
  | [] => malformed .endInList
  | c :: rest =>
    have shorter : rest.length < text.length :=
      Nat.lt_trans (length_lt_of_skipBlanks h) first.shorter
    if c = ']' then .ok ⟨[first.value], rest, shorter⟩
    else if c = ',' then
      match skipBlanks rest with
      | [] => malformed .endInValue
      | ']' :: _ => malformed .trailingComma
      | _ => do
        let others ← readItems item (position + 1) rest
        .ok ((others.map (first.value :: ·)).behind shorter)
    else malformed .expectedCommaOrBracket
termination_by text.length

/-- The items of a list. -/
def readList (item : TextReader α) : TextReader (List α) := fun text =>
  match h : skipBlanks text with
  | [] => malformed .endInList
  | ']' :: rest => .ok ⟨[], rest, length_lt_of_bracket h⟩
  | _ => readItems item 0 text

/-! ## Objects -/

/-- A mistake of the text where the next key should be read. -/
def malformedKey (error : SyntaxError) : Except Fault α := under .unread (malformed error)

/-- The text behind the colon that follows a key. -/
def readColon (text : List Char) :
    Except Fault { rest : List Char // rest.length < text.length } :=
  match h : skipBlanks text with
  | [] => malformed .endInObject
  | ':' :: rest => .ok ⟨rest, length_lt_of_skipBlanks h⟩
  | _ => malformed .expectedColon

/-- The members of an object from one on. `entry` says, for what the members before gave and the key
of a member, how its value is read; it is asked before the colon. -/
def readMembers (entry : σ → String → Except Fault (TextReader σ)) (state : σ) (text : List Char) :
    Except Fault (Parsed σ text) :=
  match h : skipBlanks text with
  | '"' :: quoted => do
    have h₁ := length_lt_of_quote h
    let key ← under .unread (atRoot (readString [] quoted))
    let reader ← entry state key.value
    let ⟨afterColon, h₂⟩ ← readColon key.rest
    let member ← under (.key key.value) (reader afterColon)
    have h₃ := key.shorter
    have h₄ := member.shorter
    match h' : skipBlanks member.rest with
    | [] => malformedKey .endInObject
    | c :: rest =>
      have h₅ := length_lt_of_skipBlanks h'
      have shorter : rest.length < text.length := by omega
      if c = '\x7d' then .ok ⟨member.value, rest, shorter⟩
      else if c = ',' then
        match skipBlanks rest with
        | [] => malformedKey .endInValue
        | '\x7d' :: _ => malformedKey .trailingComma
        | _ => do
          let others ← readMembers entry member.value rest
          .ok (others.behind shorter)
      else malformedKey .expectedCommaOrBrace
  | _ => malformedKey .keyNotString
termination_by text.length

/-- All members of an object. -/
def readObject (entry : σ → String → Except Fault (TextReader σ)) (state : σ) : TextReader σ :=
  fun text =>
    match h : skipBlanks text with
    | [] => malformedKey .endInObject
    | '\x7d' :: rest => .ok ⟨state, rest, length_lt_of_skipBlanks h⟩
    | _ => readMembers entry state text

end TypedHub.Json
