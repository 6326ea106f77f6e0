import TypedHub.Json.Reading
import TypedHub.Json.FloatText

/-!
# Numbers as text

A number is first cut into its digits (`NumberText`) by the grammar alone and then evaluated. A
number without fraction and exponent is an integer if it fits 64 bits, signed or unsigned; all
others are floats, and so is minus zero.

A float is evaluated from its first digits, as many as give a 64-bit significand. Digits of the
whole part that do not fit count as a power of ten, digits of the fraction that do not fit are
dropped.
-/

namespace TypedHub.Json

/-! ## Grammar -/

/-- The parts of the text of a number. There is a fraction or an exponent where its digits are not
empty. -/
structure NumberText where
  negative : Bool
  whole : List Char
  fraction : List Char
  exponentNegative : Bool
  exponent : List Char

/-- A part that may be missing, and what is left of the text. -/
structure Taken (α : Type) (text : List Char) where
  value : α
  rest : List Char
  notLonger : rest.length ≤ text.length

/-- Nothing of the text. -/
def Taken.nothing (value : α) (text : List Char) : Taken α text :=
  ⟨value, text, length_le_self text⟩

/-- What was taken behind one character. -/
def Taken.after (c : Char) (taken : Taken α text) : Taken α (c :: text) :=
  ⟨taken.value, taken.rest, length_le_cons c taken.notLonger⟩

/-- What was taken and then read, put together. -/
def Taken.next (first : Taken α text) (parsed : Parsed β first.rest) : Taken (α × β) text :=
  ⟨(first.value, parsed.value), parsed.rest, Nat.le_trans parsed.notLonger first.notLonger⟩

theorem length_dropWhile_lt {p : Char → Bool} {text : List Char}
    (h : (text.takeWhile p).isEmpty = false) : (text.dropWhile p).length < text.length := by
  have split := congrArg List.length (List.takeWhile_append_dropWhile (p := p) (l := text))
  cases taken : text.takeWhile p with
  | nil => simp [taken] at h
  | cons c rest =>
    simp only [taken, List.length_append, List.length_cons] at split
    omega

/-- At least one digit, and as many as there are. -/
def digits (text : List Char) : Except SyntaxError (Parsed (List Char) text) :=
  match h : (text.takeWhile Char.isDigit).isEmpty with
  | true => .error (if text.isEmpty then .endInValue else .invalidNumber)
  | false => .ok ⟨text.takeWhile Char.isDigit, text.dropWhile Char.isDigit, length_dropWhile_lt h⟩

/-- The digits before the point: no zero stands before another digit. -/
def wholeDigits (text : List Char) : Except SyntaxError (Parsed (List Char) text) := do
  let taken ← digits text
  match taken.value with
  | '0' :: _ :: _ => .error .invalidNumber
  | _ => .ok taken

/-- The digits behind a point, if there is one. -/
def fractionDigits (text : List Char) : Except SyntaxError (Taken (List Char) text) :=
  match text with
  | '.' :: rest => do
    let taken ← digits rest
    .ok (Taken.after '.' ⟨taken.value, taken.rest, taken.notLonger⟩)
  | other => .ok (.nothing [] other)

/-- Whether a sign makes an exponent negative. -/
def exponentSign (text : List Char) : Taken Bool text :=
  match text with
  | '+' :: rest => .after '+' (.nothing false rest)
  | '-' :: rest => .after '-' (.nothing true rest)
  | other => .nothing false other

/-- The sign and the digits of the exponent, if there is one. -/
def exponentDigits (text : List Char) : Except SyntaxError (Taken (Bool × List Char) text) :=
  match text with
  | [] => .ok (.nothing (false, []) [])
  | c :: rest =>
    if c = 'e' || c = 'E' then do
      let sign := exponentSign rest
      let taken ← digits sign.rest
      .ok ((sign.next taken).after c)
    else .ok (.nothing (false, []) (c :: rest))

/-- The parts of a number behind its sign. -/
def unsignedText (negative : Bool) (text : List Char) :
    Except SyntaxError (Parsed NumberText text) := do
  let whole ← wholeDigits text
  let fraction ← fractionDigits whole.rest
  let exponent ← exponentDigits fraction.rest
  have := whole.shorter
  have := fraction.notLonger
  have := exponent.notLonger
  .ok ⟨⟨negative, whole.value, fraction.value, exponent.value.1, exponent.value.2⟩,
    exponent.rest, by omega⟩

/-- The parts of the number at the front of the text. -/
def numberText (text : List Char) : Except SyntaxError (Parsed NumberText text) :=
  match text with
  | '-' :: rest => do
    let parsed ← unsignedText true rest
    .ok (parsed.after '-')
  | other => unsignedText false other

/-! ## Value -/

/-- The value of a decimal digit. -/
def digitValue (c : Char) : Nat := c.toNat - '0'.toNat

/-- The number written by decimal digits. -/
def naturalOf (digits : List Char) : Nat := digits.foldl (fun n c => n * 10 + digitValue c) 0

/-- The greatest 64-bit significand. -/
def maxSignificand : Nat := Nat.pow 2 64 - 1

/-- The significand extended by further digits as long as it fits, and the digits left over. -/
def extendSignificand (significand : Nat) : List Char → Nat × List Char
  | [] => (significand, [])
  | c :: rest =>
    let next := significand * 10 + digitValue c
    if next ≤ maxSignificand then extendSignificand next rest else (significand, c :: rest)

/-- The float of the parts of a number. -/
def NumberText.float? (text : NumberText) : Option Float :=
  let (whole, unfit) := extendSignificand 0 text.whole
  let (significand, dropped) := extendSignificand whole text.fraction
  -- Digits of the whole part that do not fit raise the power of ten, digits of the fraction that
  -- do fit lower it.
  let shift : Int := unfit.length - (text.fraction.length - dropped.length : Nat)
  let exponent : Int := naturalOf text.exponent
  let power := shift + if text.exponentNegative then -exponent else exponent
  let magnitude := scaled? significand power
  if text.negative then magnitude.map (-·) else magnitude

/-- Whether an integer is one of those that fit 64 bits, with the sign of its text: there is no
integer minus zero. -/
def fitsInteger (negative : Bool) (magnitude : Nat) : Bool :=
  if negative then 0 < magnitude && magnitude ≤ Nat.pow 2 63 else magnitude ≤ maxSignificand

/-- The number of its parts. -/
def NumberText.value (text : NumberText) : Except SyntaxError Number :=
  let magnitude := naturalOf text.whole
  if text.fraction.isEmpty && text.exponent.isEmpty && fitsInteger text.negative magnitude then
    .ok (.integer (if text.negative then -(magnitude : Int) else magnitude))
  else
    match text.float? with
    | some x => .ok (.float x)
    | none => .error .numberOutOfRange

/-- The number at the front of the text, which begins with a digit or a minus sign. -/
def readNumber (text : List Char) : Except SyntaxError (Parsed Number text) := do
  let parsed ← numberText text
  let value ← parsed.value.value
  .ok (parsed.map fun _ => value)

/-- Past a number whose value nobody wants: there is no limit on its range, and a text that ends too
early is a bad number too. -/
def skipNumber (text : List Char) : Except SyntaxError (Parsed Unit text) :=
  match numberText text with
  | .ok parsed => .ok (parsed.map fun _ => ())
  | .error _ => .error .invalidNumber

end TypedHub.Json
