import TypedHub.Json.Document
import TypedHub.Json.Skip

/-!
# Readers of typed values

A `Reader` decodes a type of the library from JSON in two ways side by side: in one pass from a text
(`ofText`), where the first problem in reading order is reported, be it of the text or of the data,
and from a value that has been parsed before (`ofJson`). Readers of records are put together from
the readers of their fields.

Both ways accept a record as an object or as a list of its fields in the order of their declaration.
They differ where a text says more than its value: a text with a field given twice is refused, and a
list that is too long is a mistake of the text.

`ofText` takes the number of lists and objects that may still be opened.
-/

namespace TypedHub.Json

/-- Decodes values of type `α` from a text in one pass, and from a parsed value. -/
structure Reader (α : Type) where
  ofText : (depth : Nat) → TextReader α
  ofJson : Json → Except Fault α

namespace Reader

/-- Changes what is read by a function. -/
def map (f : α → β) (reader : Reader α) : Reader β where
  ofText depth := (reader.ofText depth).map f
  ofJson value := (reader.ofJson value).map f

/-- Decodes the text at whose front the value stands; what follows it is not looked at. -/
def readText (reader : Reader α) (text : String) : Except Fault α :=
  (reader.ofText maxDepth text.toList).map (·.value)

/-! ## Scalars -/

/-- A value of which the head decides whether it is accepted. -/
def ofHead (accept : Head → Option α) (expected : String) : TextReader α := fun text => do
  let head ← readHead text
  match accept head.value with
  | some value => .ok (head.map fun _ => value)
  | none => mismatched (.wrongKind head.value.found expected)

/-- A scalar, given by what it accepts. -/
def scalar (accept : Json → Option α) (expected : String) : Reader α where
  ofText _ := ofHead (fun | .scalar value => accept value | _ => none) expected
  ofJson value :=
    match accept value with
    | some accepted => .ok accepted
    | none => mismatched (.wrongKind (.of value) expected)

def string : Reader String := scalar (fun | .string s => some s | _ => none) "a string"

def bool : Reader Bool := scalar (fun | .bool b => some b | _ => none) "a boolean"

/-- A string, or nothing where the value is null. -/
def stringOrNull : Reader (Option String) :=
  scalar (fun | .null => some none | .string s => some (some s) | _ => none) "a string"

/-- Null. -/
def unit : Reader Unit := scalar (fun | .null => some () | _ => none) "unit"

/-- The key of the only member of an object. There has to be one: a closing brace stands where a
value is asked for. -/
def keyText : TextReader String := fun text =>
  match h : skipBlanks text with
  | [] => malformed .endInObject
  | '"' :: quoted => do
    let parsed ← atRoot (readString [] quoted)
    .ok (parsed.behind (length_lt_of_quote h))
  | '\x7d' :: _ => malformed .expectedValue
  | _ => malformed .keyNotString

/-- The only member of an object: a key and null, read from behind the opening brace. -/
def loneKeyText : TextReader String := fun text => do
  let key ← keyText text
  let ⟨afterColon, h₁⟩ ← readColon key.rest
  let value ← under (.key key.value) (unit.ofText 0 afterColon)
  have shorter := Nat.lt_trans value.shorter (Nat.lt_trans h₁ key.shorter)
  match h : skipBlanks value.rest with
  | [] => malformed .endInObject
  | '\x7d' :: rest => .ok ⟨key.value, rest, Nat.lt_trans (length_lt_of_skipBlanks h) shorter⟩
  | _ => malformed .expectedValue

/-- A word out of a vocabulary, written as a string or as an object with the word as its only key
and null as the value. Every word is in the vocabulary: `meaning` has a catch-all. -/
def word (meaning : String → α) : Reader α where
  ofText depth text :=
    match h : skipBlanks text with
    | [] => malformed .endInValue
    | '"' :: rest => do
      let parsed ← atRoot (readString [] rest)
      .ok ((parsed.map meaning).behind (length_lt_of_quote h))
    | '\x7b' :: rest =>
      match depth with
      | 0 => malformed .tooDeep
      | _ + 1 => do
        let key ← loneKeyText rest
        .ok ((key.map meaning).behind (length_lt_of_skipBlanks h))
    | _ => malformed .expectedValue
  ofJson value :=
    match value with
    | .string s => .ok (meaning s)
    | .object [(key, value)] => do
      under (.key key) (unit.ofJson value)
      .ok (meaning key)
    | .object _ => mismatched .notSingleMember
    | other => mismatched (.wrongKind (.of other) "string or map")

/-! ## Values of free form -/

/-- Any value, or nothing where it is null. -/
def valueOrNull : Reader (Option Json) where
  ofText depth := (readValue depth).map fun
    | .null => none
    | value => some value.settled
  ofJson value := .ok <|
    match value with
    | .null => none
    | value => some value.settled

/-- What an opening bracket holds, if there may be one more open bracket. -/
def opened (depth : Nat) (inside : (depth : Nat) → TextReader α) (head : Parsed Head text) :
    Except Fault (Parsed α text) :=
  match depth with
  | 0 => malformed .tooDeep
  | depth + 1 => do
    let parsed ← inside depth head.rest
    .ok (head.next parsed)

/-- An object with values of free form. -/
def freeObject : Reader (List (String × Json)) where
  ofText depth text := do
    let head ← readHead text
    match head.value with
    | .object =>
      opened depth (fun depth =>
        (readFreeObject (readValue depth)).map fun members =>
          settleMembers (settledValues members)) head
    | other => mismatched (.wrongKind other.found "a map")
  ofJson value :=
    match value with
    | .object members => .ok (settleMembers (settledValues members))
    | other => mismatched (.wrongKind (.of other) "a map")

/-! ## Lists -/

/-- The items of a list value from the given position on. -/
def itemsOfJson (reader : Reader α) : (position : Nat) → List Json → Except Fault (List α)
  | _, [] => .ok []
  | position, item :: rest => do
    let first ← under (.index position) (reader.ofJson item)
    let others ← reader.itemsOfJson (position + 1) rest
    .ok (first :: others)

/-- A list of values that are read alike. -/
def list (reader : Reader α) : Reader (List α) where
  ofText depth text := do
    let head ← readHead text
    match head.value with
    | .list => opened depth (fun depth => readList (reader.ofText depth)) head
    | other => mismatched (.wrongKind other.found "a sequence")
  ofJson value :=
    match value with
    | .array items => reader.itemsOfJson 0 items
    | other => mismatched (.wrongKind (.of other) "a sequence")

end Reader

/-! ## Records -/

/-- A field of a record of type `ρ`: what its value does to a record in which the field still has
its default. -/
structure Field (ρ : Type) where
  name : String
  required : Bool
  update : Reader (ρ → ρ)

/-- A field that must be given. -/
def Field.mandatory (name : String) (reader : Reader α) (set : α → ρ → ρ) : Field ρ :=
  ⟨name, true, reader.map set⟩

/-- A field that keeps its default where it is not given. -/
def Field.optional (name : String) (reader : Reader α) (set : α → ρ → ρ) : Field ρ :=
  ⟨name, false, reader.map set⟩

/-- The shape of a record: its name in messages, its fields in the order of declaration, and the
record in which every field has its default. -/
structure Shape (ρ : Type) where
  name : String
  fields : List (Field ρ)
  blank : ρ

namespace Shape

/-- How messages speak of a value of this shape. -/
def expected (shape : Shape ρ) : String := "struct " ++ shape.name

/-- How messages speak of a list in the place of a record. -/
def expectedList (shape : Shape ρ) : String :=
  let count := shape.fields.length
  shape.expected ++ " with " ++ toString count ++ (if count = 1 then " element" else " elements")

/-- The field with the given key. -/
def field? (shape : Shape ρ) (key : String) : Option (Field ρ) :=
  shape.fields.find? (·.name = key)

/-- The record, unless a required field is not among the keys. -/
def complete (shape : Shape ρ) (keys : List String) (record : ρ) : Except Fault ρ :=
  match shape.fields.find? fun field => field.required && field.name ∉ keys with
  | some field => mismatched (.missingField field.name)
  | none => .ok record

/-- The record whose list has ended before the given fields; `position` is the place of the first of
them. -/
def endedBefore (shape : Shape ρ) (position : Nat) (fields : List (Field ρ)) (record : ρ) :
    Except Fault ρ :=
  match fields.findIdx? (·.required) with
  | some i => mismatched (.wrongLength (position + i) shape.expectedList)
  | none => .ok record

/-! ### From a text -/

/-- How the member with a key is read: unknown keys are read past, and none of the others may be
given twice. The state holds the known keys that have been read. -/
def entry (shape : Shape ρ) (depth : Nat) (state : List String × ρ) (key : String) :
    Except Fault (TextReader (List String × ρ)) :=
  match shape.field? key with
  | none => .ok (skip.map fun _ => state)
  | some field =>
    if key ∈ state.1 then mismatched (.repeatedField key)
    else .ok ((field.update.ofText depth).map fun update => (key :: state.1, update state.2))

/-- The members of a record. -/
def ofObjectText (shape : Shape ρ) (depth : Nat) : TextReader ρ := fun text => do
  let parsed ← readObject (shape.entry depth) ([], shape.blank) text
  let record ← shape.complete parsed.value.1 parsed.value.2
  .ok (parsed.map fun _ => record)

/-- The end of a list whose fields have all been read. -/
def closeText (record : ρ) : TextReader ρ := fun text =>
  match h : skipBlanks text with
  | [] => malformed .endInList
  | ']' :: rest => .ok ⟨record, rest, length_lt_of_bracket h⟩
  | ',' :: rest =>
    match skipBlanks rest with
    | ']' :: _ => malformed .trailingComma
    | _ => malformed .trailingCharacters
  | _ => malformed .trailingCharacters

/-- The given fields of a record from a list; `position` is the place of the first of them, and what
stands before it is the opening bracket or another field. -/
def fieldsText (shape : Shape ρ) (depth : Nat) :
    (position : Nat) → (fields : List (Field ρ)) → ρ → TextReader ρ
  | _, [], record => closeText record
  | position, field :: others, record => fun text =>
    let item (itemText : List Char) (h : itemText.length ≤ text.length) :
        Except Fault (Parsed ρ text) := do
      let update ← under (.index position) (field.update.ofText depth itemText)
      let parsed ← shape.fieldsText depth (position + 1) others (update.value record) update.rest
      .ok ((update.next parsed).from h)
    match h : skipBlanks text with
    | [] => malformed .endInList
    | c :: rest =>
      have shorter := length_lt_of_skipBlanks h
      if c = ']' then do
        let record ← shape.endedBefore position (field :: others) record
        .ok ⟨record, rest, shorter⟩
      -- No comma stands before the first field.
      else if position = 0 then item text (Nat.le_refl _)
      else if c = ',' then
        match skipBlanks rest with
        | [] => malformed .endInValue
        | ']' :: _ => malformed .trailingComma
        | _ => item rest (Nat.le_of_lt shorter)
      else malformed .expectedCommaOrBracket

/-! ### From a value -/

/-- The record with the members of an object put in; unknown keys are passed over. -/
def membersOfJson (shape : Shape ρ) : List (String × Json) → ρ → Except Fault ρ
  | [], record => .ok record
  | (key, value) :: rest, record =>
    match shape.field? key with
    | none => shape.membersOfJson rest record
    | some field => do
      let update ← under (.key key) (field.update.ofJson value)
      shape.membersOfJson rest (update record)

/-- The record with the items of a list put into the given fields; `position` is the place of the
first of them and `length` the length of the whole list. -/
def itemsOfJson (shape : Shape ρ) (length : Nat) :
    (position : Nat) → (fields : List (Field ρ)) → List Json → ρ → Except Fault ρ
  | position, fields, [], record => shape.endedBefore position fields record
  | _, [], _ :: _, _ => mismatched (.wrongLength length "fewer elements in array")
  | position, field :: others, item :: rest, record => do
    let update ← under (.index position) (field.update.ofJson item)
    shape.itemsOfJson length (position + 1) others rest (update record)

/-! ### Both -/

/-- The reader of records of this shape. -/
def reader (shape : Shape ρ) : Reader ρ where
  ofText depth text := do
    let head ← readHead text
    match head.value with
    | .object => Reader.opened depth shape.ofObjectText head
    | .list =>
      Reader.opened depth (fun depth => shape.fieldsText depth 0 shape.fields shape.blank) head
    | other => mismatched (.wrongKind other.found shape.expected)
  ofJson value :=
    match value with
    | .object members => do
      let record ← shape.membersOfJson members shape.blank
      shape.complete (members.map Prod.fst) record
    | .array items => shape.itemsOfJson items.length 0 shape.fields items shape.blank
    | other => mismatched (.wrongKind (.of other) shape.expected)

end Shape

end TypedHub.Json
