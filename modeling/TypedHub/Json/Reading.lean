import TypedHub.Json.Fault

/-!
# Reading from the front of a text

A reader takes a text and gives a value with the rest of the text behind it, or a fault. The rest is
shorter than the text (`Parsed.shorter`), so whoever reads values in a loop has the length of the
text as a measure and needs no fuel.
-/

namespace TypedHub.Json

/-- A value read from the front of `text`, and what is left of the text. -/
structure Parsed (α : Type) (text : List Char) where
  value : α
  rest : List Char
  shorter : rest.length < text.length

/-- A reader of values of type `α` at the front of a text. -/
abbrev TextReader (α : Type) := (text : List Char) → Except Fault (Parsed α text)

/-- The value changed by a function, with the same rest. -/
def Parsed.map (f : α → β) (parsed : Parsed α text) : Parsed β text :=
  { value := f parsed.value, rest := parsed.rest, shorter := parsed.shorter }

theorem Parsed.notLonger (parsed : Parsed α text) : parsed.rest.length ≤ text.length :=
  Nat.le_of_lt parsed.shorter

/-- What was read from a later part of a text, as read from the text. -/
def Parsed.from {part text : List Char} (parsed : Parsed α part) (h : part.length ≤ text.length) :
    Parsed α text :=
  { value := parsed.value, rest := parsed.rest, shorter := Nat.lt_of_lt_of_le parsed.shorter h }

/-- What was read from a part that is shorter than the text, as read from the text. -/
def Parsed.behind {part text : List Char} (parsed : Parsed α part) (h : part.length < text.length) :
    Parsed α text :=
  parsed.from (Nat.le_of_lt h)

/-- What was read behind one character. -/
def Parsed.after (c : Char) (parsed : Parsed α text) : Parsed α (c :: text) :=
  parsed.behind (Nat.lt_succ_self _)

/-- What was read next, as read from where the first part was read. -/
def Parsed.next (first : Parsed α text) (parsed : Parsed β first.rest) : Parsed β text :=
  parsed.behind first.shorter

/-- Reads with `reader` and changes the value. -/
def TextReader.map (f : α → β) (reader : TextReader α) : TextReader β := fun text =>
  (reader text).map (Parsed.map f)

/-! ## Blanks -/

/-- Space, tab, line feed and carriage return are blank, nothing else is. -/
def isBlank (c : Char) : Bool := c = ' ' || c = '\t' || c = '\n' || c = '\r'

/-- The text from its first character that is not blank. -/
def skipBlanks (text : List Char) : List Char := text.dropWhile isBlank

theorem length_dropWhile_le (p : Char → Bool) (text : List Char) :
    (text.dropWhile p).length ≤ text.length := by
  induction text with
  | nil => simp
  | cons c rest ih =>
    simp only [List.dropWhile_cons]
    split
    · simp only [List.length_cons]; omega
    · simp

theorem length_skipBlanks_le (text : List Char) : (skipBlanks text).length ≤ text.length :=
  length_dropWhile_le _ _

/-- What follows the first character that is not blank is shorter than the text. -/
theorem length_lt_of_skipBlanks {text rest : List Char} {c : Char}
    (h : skipBlanks text = c :: rest) : rest.length < text.length := by
  have := length_skipBlanks_le text
  rw [h, List.length_cons] at this
  omega

theorem length_lt_of_quote {text quoted : List Char} (h : skipBlanks text = '"' :: quoted) :
    quoted.length < text.length :=
  length_lt_of_skipBlanks h

theorem length_lt_of_bracket {text rest : List Char} (h : skipBlanks text = ']' :: rest) :
    rest.length < text.length :=
  length_lt_of_skipBlanks h

/-! ## Literal words -/

theorem length_le_self (text : List Char) : text.length ≤ text.length := Nat.le_refl _

theorem length_lt_cons (c : Char) (text : List Char) : text.length < (c :: text).length :=
  Nat.lt_succ_self _

theorem length_le_cons {rest text : List Char} (c : Char) (h : rest.length ≤ text.length) :
    rest.length ≤ (c :: text).length :=
  Nat.le_succ_of_le h

/-- The rest of the text behind the characters of `word`. -/
def literal : (word text : List Char) →
    Except SyntaxError { rest : List Char // rest.length ≤ text.length }
  | [], text => .ok ⟨text, length_le_self text⟩
  | _ :: _, [] => .error .endInValue
  | c :: word, d :: text =>
    if d = c then
      match literal word text with
      | .ok ⟨rest, h⟩ => .ok ⟨rest, length_le_cons d h⟩
      | .error e => .error e
    else .error .misspeltLiteral

/-- The result of reading a part of the text with its mistakes as faults at the root. -/
def atRoot : Except SyntaxError α → Except Fault α
  | .ok value => .ok value
  | .error e => malformed e

end TypedHub.Json
