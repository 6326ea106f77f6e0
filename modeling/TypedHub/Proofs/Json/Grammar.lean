import Mathlib.Data.List.TakeWhile
import TypedHub.Json.Skip

/-!
# The texts of JSON values

Which texts are JSON, said apart from every reader: blanks, strings, numbers and, by derivations,
values with their lists and objects. A text is whole (`IsWhole`) if it is one value with nothing but
blanks around it.

A list or an object is derived along its text, from each bracket, comma and entry to the closing
bracket: `Nonterminal` names what may stand behind each of them.
-/

namespace TypedHub.Json

/-! ## Blanks -/

/-- Nothing but spaces, tabs, line feeds and carriage returns. -/
def Blank (text : List Char) : Prop := ∀ c ∈ text, c ∈ [' ', '\t', '\n', '\r']

theorem isBlank_eq_true_iff {c : Char} : isBlank c = true ↔ c ∈ [' ', '\t', '\n', '\r'] := by
  simp [isBlank, or_assoc]

theorem blank_nil : Blank [] := List.forall_mem_nil _

theorem skipBlanks_append {lead : List Char} (h : Blank lead) (text : List Char) :
    skipBlanks (lead ++ text) = skipBlanks text :=
  List.dropWhile_append_of_pos fun c mem => isBlank_eq_true_iff.2 (h c mem)

theorem skipBlanks_cons {c : Char} (h : isBlank c = false) (text : List Char) :
    skipBlanks (c :: text) = c :: text :=
  List.dropWhile_cons_of_neg (by simp [h])

theorem skipBlanks_eq_nil_iff {text : List Char} : skipBlanks text = [] ↔ Blank text := by
  simp only [skipBlanks, List.dropWhile_eq_nil_iff, isBlank_eq_true_iff, Blank]

/-- What stands at the front of a text, behind the blanks. -/
theorem exists_blank_of_skipBlanks {text rest : List Char} {c : Char}
    (h : skipBlanks text = c :: rest) : ∃ lead, Blank lead ∧ text = lead ++ c :: rest := by
  refine ⟨text.takeWhile isBlank, fun d mem => isBlank_eq_true_iff.1 (List.mem_takeWhile_imp mem), ?_⟩
  rw [← h, skipBlanks, List.takeWhile_append_dropWhile]

/-- What can stand behind a value: nothing, a blank, a comma or a closing bracket. -/
def Delimited (text : List Char) : Prop :=
  ∀ c ∈ text.head?, c ∈ [' ', '\t', '\n', '\r', ',', ']', '\x7d']

theorem delimited_of_blank {text : List Char} (h : Blank text) : Delimited text := fun c front =>
  List.mem_append_left [',', ']', '\x7d'] (h c (List.mem_of_mem_head? front))

/-! ## Strings -/

/-- A hexadecimal digit. -/
def IsHexDigit (c : Char) : Prop :=
  '0' ≤ c ∧ c ≤ '9' ∨ 'a' ≤ c ∧ c ≤ 'f' ∨ 'A' ≤ c ∧ c ≤ 'F'

/-- The text of a string from behind its opening quote, up to and with the closing one. -/
inductive IsQuoted : List Char → Prop
  | closed : IsQuoted ['"']
  | plain {c : Char} {rest : List Char} (unquoted : c ≠ '"') (unescaped : c ≠ '\\')
      (printable : 0x20 ≤ c.toNat) (later : IsQuoted rest) : IsQuoted (c :: rest)
  | letter {c : Char} {rest : List Char} (letter : c ∈ ['"', '\\', '/', 'b', 'f', 'n', 'r', 't'])
      (later : IsQuoted rest) : IsQuoted ('\\' :: c :: rest)
  | unicode {a b c d : Char} {rest : List Char} (digits : ∀ x ∈ [a, b, c, d], IsHexDigit x)
      (later : IsQuoted rest) : IsQuoted ('\\' :: 'u' :: a :: b :: c :: d :: rest)

/-! ## Numbers -/

/-- One digit or more. -/
def IsDigits (text : List Char) : Prop := text ≠ [] ∧ ∀ c ∈ text, c.isDigit = true

/-- The text of a fraction with the given digits. -/
inductive IsFraction : List Char → List Char → Prop
  | missing : IsFraction [] []
  | digits {digits : List Char} (h : IsDigits digits) : IsFraction digits ('.' :: digits)

/-- The text of the sign of an exponent, by whether it makes the exponent negative. -/
inductive IsSign : Bool → List Char → Prop
  | missing : IsSign false []
  | plus : IsSign false ['+']
  | minus : IsSign true ['-']

/-- The text of an exponent with the given sign and digits. -/
inductive IsExponent : Bool × List Char → List Char → Prop
  | missing : IsExponent (false, []) []
  | digits {e : Char} {negative : Bool} {sign digits : List Char} (letter : e = 'e' ∨ e = 'E')
      (isSign : IsSign negative sign) (isDigits : IsDigits digits) :
      IsExponent (negative, digits) (e :: (sign ++ digits))

/-- The text of the number with the given parts. Before the point, no zero stands before another
digit. -/
inductive NumberText.IsText : NumberText → List Char → Prop
  | intro {negative exponentNegative : Bool}
      {whole fraction exponent fractionText exponentText : List Char}
      (isDigits : IsDigits whole) (noLeadingZero : whole.head? = some '0' → whole = ['0'])
      (isFraction : IsFraction fraction fractionText)
      (isExponent : IsExponent (exponentNegative, exponent) exponentText) :
      IsText ⟨negative, whole, fraction, exponentNegative, exponent⟩
        ((if negative then ['-'] else []) ++ (whole ++ (fractionText ++ exponentText)))

/-- The text of a number. -/
def IsNumber (text : List Char) : Prop := ∃ number : NumberText, number.IsText text

/-! ## Values -/

/-- The character that opens the bracket. -/
def Bracket.opening : Bracket → Char
  | square => '['
  | curly => '\x7b'

theorem Bracket.opened_eq_some_iff {c : Char} {bracket : Bracket} :
    opened? c = some bracket ↔ c = bracket.opening := by
  constructor
  · intro h
    unfold opened? at h
    split at h
    · next square => cases h; exact square
    · split at h
      · next curly => cases h; exact curly
      · cases h
  · rintro rfl
    cases bracket <;> rfl

/-- What stands before the value of an entry: in an object a key and a colon, in a list nothing. -/
def Bracket.IsLabel : Bracket → List Char → Prop
  | square, text => text = []
  | curly, text => ∃ lead quoted between, Blank lead ∧ IsQuoted quoted ∧ Blank between ∧
      text = lead ++ '"' :: (quoted ++ (between ++ [':']))

/-- The kinds of texts that derivations are about: a value; and, each up to the closing bracket and
with it, what stands behind an opening bracket, from one entry on, and behind an entry. -/
inductive Nonterminal where
  | value
  | inside (bracket : Bracket)
  | entries (bracket : Bracket)
  | following (bracket : Bracket)

/-- The texts of each kind. -/
inductive Derives : Nonterminal → List Char → Prop
  | word {text : List Char} (h : text ∈ ["null".toList, "true".toList, "false".toList]) :
      Derives .value text
  | string {quoted : List Char} (h : IsQuoted quoted) : Derives .value ('"' :: quoted)
  | number {text : List Char} (h : IsNumber text) : Derives .value text
  | bracketed {bracket : Bracket} {inside : List Char} (h : Derives (.inside bracket) inside) :
      Derives .value (bracket.opening :: inside)
  | empty {bracket : Bracket} {lead : List Char} (blank : Blank lead) :
      Derives (.inside bracket) (lead ++ [bracket.closing])
  | filled {bracket : Bracket} {entries : List Char} (h : Derives (.entries bracket) entries) :
      Derives (.inside bracket) entries
  | entry {bracket : Bracket} {label lead value following : List Char}
      (isLabel : bracket.IsLabel label) (blank : Blank lead) (derived : Derives .value value)
      (later : Derives (.following bracket) following) :
      Derives (.entries bracket) (label ++ (lead ++ (value ++ following)))
  | closed {bracket : Bracket} {lead : List Char} (blank : Blank lead) :
      Derives (.following bracket) (lead ++ [bracket.closing])
  | more {bracket : Bracket} {lead entries : List Char} (blank : Blank lead)
      (later : Derives (.entries bracket) entries) :
      Derives (.following bracket) (lead ++ ',' :: entries)

/-- A value behind blanks. -/
def IsItem (text : List Char) : Prop :=
  ∃ lead value, Blank lead ∧ Derives .value value ∧ text = lead ++ value

/-- A list or an object behind blanks. -/
def IsBracketed (text : List Char) : Prop :=
  ∃ lead bracket inside, Blank lead ∧ Derives (.inside bracket) inside ∧
    text = lead ++ bracket.opening :: inside

/-- One value with nothing but blanks around it. -/
def IsWhole (text : List Char) : Prop := ∃ item trail, IsItem item ∧ Blank trail ∧ text = item ++ trail

theorem IsBracketed.isItem {text : List Char} (h : IsBracketed text) : IsItem text := by
  obtain ⟨lead, bracket, inside, blank, derived, rfl⟩ := h
  exact ⟨lead, _, blank, .bracketed derived, rfl⟩

/-! ## Fronts -/

theorem Bracket.isBlank_opening (bracket : Bracket) : isBlank bracket.opening = false := by
  cases bracket <;> rfl

theorem Bracket.isBlank_closing (bracket : Bracket) : isBlank bracket.closing = false := by
  cases bracket <;> rfl

/-- The first character of a number. -/
theorem IsNumber.exists_cons {text : List Char} (h : IsNumber text) :
    ∃ c rest, text = c :: rest ∧ (c = '-' ∨ c.isDigit = true) := by
  obtain ⟨_, @⟨negative, _, whole, _, _, _, _, digits, -, -, -⟩⟩ := h
  cases negative with
  | true => exact ⟨'-', _, rfl, .inl rfl⟩
  | false =>
    cases whole with
    | nil => exact absurd rfl digits.1
    | cons c rest => exact ⟨c, _, rfl, .inr (digits.2 c List.mem_cons_self)⟩

/-- A value begins with a character that is neither blank nor a closing bracket. -/
theorem Derives.exists_cons {text : List Char} (h : Derives .value text) :
    ∃ c rest, text = c :: rest ∧ isBlank c = false ∧ ∀ bracket : Bracket, c ≠ bracket.closing := by
  have apart : ∀ c, c = '-' ∨ c.isDigit = true →
      isBlank c = false ∧ ∀ bracket : Bracket, c ≠ bracket.closing := by
    rintro c (rfl | digit)
    · exact ⟨rfl, by rintro (_ | _) <;> decide⟩
    · refine ⟨?_, ?_⟩
      · rw [Bool.eq_false_iff, ne_eq, isBlank_eq_true_iff]
        intro mem
        simp only [List.mem_cons, List.not_mem_nil, or_false] at mem
        rcases mem with rfl | rfl | rfl | rfl <;> cases digit
      · rintro (_ | _) rfl <;> cases digit
  cases h with
  | word h =>
    simp only [List.mem_cons, List.not_mem_nil, or_false] at h
    rcases h with rfl | rfl | rfl <;>
      exact ⟨_, _, rfl, rfl, by rintro (_ | _) <;> decide⟩
  | string h => exact ⟨_, _, rfl, rfl, by rintro (_ | _) <;> decide⟩
  | number h =>
    obtain ⟨c, rest, rfl, begins⟩ := h.exists_cons
    exact ⟨c, rest, rfl, apart c begins⟩
  | @bracketed bracket inside h =>
    exact ⟨_, _, rfl, bracket.isBlank_opening, by cases bracket <;> rintro (_ | _) <;> decide⟩

/-- Where the entries of a bracket stand, it is not closed at once. -/
theorem Derives.skipBlanks_entries {bracket : Bracket} {entries : List Char}
    (h : Derives (.entries bracket) entries) (rest : List Char) :
    ∃ c behind, skipBlanks (entries ++ rest) = c :: behind ∧ c ≠ bracket.closing := by
  cases h with
  | @entry _ label lead value following isLabel blank derived _ =>
    cases bracket with
    | square =>
      obtain rfl : label = [] := isLabel
      obtain ⟨c, behind, rfl, unblank, notClosing⟩ := derived.exists_cons
      refine ⟨c, behind ++ following ++ rest, ?_, notClosing _⟩
      rw [List.nil_append, List.append_assoc, skipBlanks_append blank, List.cons_append,
        List.cons_append, skipBlanks_cons unblank]
    | curly =>
      obtain ⟨before, quoted, between, blank', -, -, rfl⟩ := isLabel
      refine ⟨'"', quoted ++ (between ++ ':' :: (lead ++ (value ++ following))) ++ rest, ?_,
        by decide⟩
      simp only [List.append_assoc, List.cons_append, List.nil_append, skipBlanks_append blank',
        skipBlanks_cons (show isBlank '"' = false from rfl)]

/-- Behind an entry stands a blank, a comma or the closing bracket. -/
theorem Derives.delimited_following {bracket : Bracket} {following : List Char}
    (h : Derives (.following bracket) following) (rest : List Char) :
    Delimited (following ++ rest) := by
  have front : ∃ lead c behind, Blank lead ∧ following ++ rest = lead ++ c :: behind ∧
      (c = ',' ∨ c = bracket.closing) := by
    cases h with
    | closed blank => exact ⟨_, _, rest, blank, by rw [List.append_assoc]; rfl, .inr rfl⟩
    | more blank => exact ⟨_, _, _, blank, by rw [List.append_assoc]; rfl, .inl rfl⟩
  obtain ⟨lead, c, behind, blank, same, front⟩ := front
  rw [same]
  cases lead with
  | nil =>
    intro d found
    obtain rfl : c = d := Option.some.inj found
    rcases front with rfl | rfl
    · decide
    · cases bracket <;> decide
  | cons d lead =>
    intro e found
    obtain rfl : d = e := Option.some.inj found
    exact List.mem_append_left [',', ']', '\x7d'] (blank d List.mem_cons_self)

end TypedHub.Json
