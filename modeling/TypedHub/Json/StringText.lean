import TypedHub.Json.Reading

/-!
# Strings as text

Reading starts behind the opening quote and ends behind the closing one. Characters beyond the basic
plane may be written as two escapes, a leading and a trailing surrogate; neither may stand alone.

`skipString` reads past a string whose value nobody wants. It looks at the form of the escapes only,
so it lets lone surrogates pass.
-/

namespace TypedHub.Json

/-! ## Escapes -/

/-- The value of a hexadecimal digit. -/
def hexValue? (c : Char) : Option Nat :=
  if '0' ≤ c && c ≤ '9' then some (c.toNat - '0'.toNat)
  else if 'a' ≤ c && c ≤ 'f' then some (c.toNat - 'a'.toNat + 10)
  else if 'A' ≤ c && c ≤ 'F' then some (c.toNat - 'A'.toNat + 10)
  else none

/-- The number of bytes of the text. -/
def byteCount : List Char → Nat
  | [] => 0
  | c :: rest => c.utf8Size + byteCount rest

/-- The number written by four hexadecimal digits. A text of fewer than four bytes ends inside the
escape; any other text without four digits in front is a bad escape. -/
def hexQuad (text : List Char) : Except SyntaxError (Parsed Nat text) :=
  match text with
  | a :: b :: c :: d :: rest =>
    match hexValue? a, hexValue? b, hexValue? c, hexValue? d with
    | some a, some b, some c, some d =>
      .ok ⟨((a * 16 + b) * 16 + c) * 16 + d, rest, by simp only [List.length_cons]; omega⟩
    | _, _, _, _ => .error .invalidEscape
  | short => .error (if byteCount short < 4 then .endInString else .invalidEscape)

/-- A leading surrogate: the first half of a pair. -/
def isLeading (n : Nat) : Bool := 0xD800 ≤ n && n ≤ 0xDBFF

/-- A trailing surrogate: the second half of a pair. -/
def isTrailing (n : Nat) : Bool := 0xDC00 ≤ n && n ≤ 0xDFFF

/-- The character of a pair of surrogates. -/
def fromPair (leading trailing : Nat) : Char :=
  Char.ofNat (0x10000 + (leading - 0xD800) * 0x400 + (trailing - 0xDC00))

/-- The character of one or two escapes, read from behind the first `\u`. -/
def unicodeEscape (text : List Char) : Except SyntaxError (Parsed Char text) := do
  let first ← hexQuad text
  if isTrailing first.value then .error .loneSurrogate
  else if isLeading first.value then
    match h : first.rest with
    | [] => .error .endInString
    -- A backslash at the end may have been the beginning of the second escape.
    | ['\\'] => .error .endInString
    | '\\' :: 'u' :: rest =>
      let second ← hexQuad rest
      if isTrailing second.value then
        .ok ⟨fromPair first.value second.value, second.rest, by
          have h1 := first.shorter
          have h2 := second.shorter
          simp only [h, List.length_cons] at h1
          omega⟩
      else .error .loneSurrogate
    | _ => .error .unfinishedPair
  else .ok ⟨Char.ofNat first.value, first.rest, first.shorter⟩

/-- The character that a letter behind a backslash stands for. -/
def simpleEscape? (c : Char) : Option Char :=
  match c with
  | '"' => some '"'
  | '\\' => some '\\'
  | '/' => some '/'
  | 'b' => some '\x08'
  | 'f' => some '\x0c'
  | 'n' => some '\n'
  | 'r' => some '\r'
  | 't' => some '\t'
  | _ => none

/-- The character of an escape, read from behind the backslash. -/
def escape (text : List Char) : Except SyntaxError (Parsed Char text) :=
  match text with
  | [] => .error .endInString
  | 'u' :: rest => do
    let parsed ← unicodeEscape rest
    .ok (parsed.after 'u')
  | c :: rest =>
    match simpleEscape? c with
    | some d => .ok ⟨d, rest, length_lt_cons c rest⟩
    | none => .error .invalidEscape

/-- Control characters must be escaped. -/
def isControl (c : Char) : Bool := c.toNat < 0x20

/-! ## Strings -/

/-- The rest of a string, behind its opening quote; `done` holds the characters read so far, the
last one first. -/
def readString (done : List Char) (text : List Char) : Except SyntaxError (Parsed String text) :=
  match text with
  | [] => .error .endInString
  | c :: rest =>
    if c = '"' then .ok ⟨String.ofList done.reverse, rest, length_lt_cons c rest⟩
    else if c = '\\' then do
      let escaped ← escape rest
      have := escaped.shorter
      let parsed ← readString (escaped.value :: done) escaped.rest
      .ok ((escaped.next parsed).after c)
    else if isControl c then .error .controlCharacter
    else do
      let parsed ← readString (c :: done) rest
      .ok (parsed.after c)
termination_by text.length
decreasing_by all_goals (simp only [List.length_cons]; omega)

/-- Past an escape whose character nobody wants, from behind the backslash. -/
def skipEscape (text : List Char) : Except SyntaxError (Parsed Unit text) :=
  match text with
  | [] => .error .endInString
  | 'u' :: rest => do
    let parsed ← hexQuad rest
    .ok ((parsed.map fun _ => ()).after 'u')
  | c :: rest =>
    match simpleEscape? c with
    | some _ => .ok ⟨(), rest, length_lt_cons c rest⟩
    | none => .error .invalidEscape

/-- Past the rest of a string whose value nobody wants, behind its opening quote. -/
def skipString (text : List Char) : Except SyntaxError (Parsed Unit text) :=
  match text with
  | [] => .error .endInString
  | c :: rest =>
    if c = '"' then .ok ⟨(), rest, length_lt_cons c rest⟩
    else if c = '\\' then do
      let escaped ← skipEscape rest
      have := escaped.shorter
      let parsed ← skipString escaped.rest
      .ok ((escaped.next parsed).after c)
    else if isControl c then .error .controlCharacter
    else do
      let parsed ← skipString rest
      .ok (parsed.after c)
termination_by text.length
decreasing_by all_goals (simp only [List.length_cons]; omega)

end TypedHub.Json
