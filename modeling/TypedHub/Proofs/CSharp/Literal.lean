import TypedHub.CSharp.StringLiteral
import TypedHub.Json.StringText
import TypedHub.Proofs.CSharp.Scan

/-!
# Reading string literals

What a reader makes of a string literal, as far as literals are written here: the escapes are those
of one letter or digit and those of four hexadecimal digits. What stands between the quotes is also
described without a reader (`Quoted`); whatever has that form is read as the value that it means,
and what is written for a value has it. So the value is read back, and what stands behind the
literal is left as it is (`literalRest_append`).
-/

namespace TypedHub.CSharp

/-- The character that one letter or digit behind a backslash stands for. -/
def simpleEscape? : Char → Option Char
  | '"' => some '"'
  | '\\' => some '\\'
  | 'n' => some '\n'
  | 'r' => some '\r'
  | 't' => some '\t'
  | '0' => some '\x00'
  | _ => none

/-- The character with the code of four hexadecimal digits. -/
def codeEscape? (a b c d : Char) : Option Char := do
  let a ← Json.hexValue? a
  let b ← Json.hexValue? b
  let c ← Json.hexValue? c
  let d ← Json.hexValue? d
  return Char.ofNat (((a * 16 + b) * 16 + c) * 16 + d)

/-- The character of an escape, read from behind the backslash, and what follows it. -/
def escape? : List Char → Option (Char × List Char)
  | 'u' :: a :: b :: c :: d :: rest => (codeEscape? a b c d).map (·, rest)
  | c :: rest => (simpleEscape? c).map (·, rest)
  | [] => none

theorem length_lt_of_escape? {text rest : List Char} {c : Char}
    (h : escape? text = some (c, rest)) : rest.length < text.length := by
  unfold escape? at h
  split at h
  · obtain ⟨_, -, same⟩ := Option.map_eq_some_iff.1 h
    obtain rfl := (Prod.mk.inj same).2
    simp only [List.length_cons]
    omega
  · obtain ⟨_, -, same⟩ := Option.map_eq_some_iff.1 h
    obtain rfl := (Prod.mk.inj same).2
    exact Nat.lt_succ_self _
  · cases h

/-- The rest of a literal behind its opening quote: the value, and what follows the closing
quote. -/
def literalRest (text : List Char) : Option (List Char × List Char) :=
  match text with
  | [] => none
  | c :: rest =>
    if c = '"' then some ([], rest)
    else if c = '\\' then
      match h : escape? rest with
      | some (d, behind) =>
        have := length_lt_of_escape? h
        (literalRest behind).map fun read => (d :: read.1, read.2)
      | none => none
    else (literalRest rest).map fun read => (c :: read.1, read.2)
termination_by text.length

theorem length_lt_of_literalRest {text value rest : List Char}
    (h : literalRest text = some (value, rest)) : rest.length < text.length := by
  fun_induction literalRest text generalizing value with
  | case1 => cases h
  | case2 =>
    obtain ⟨-, rfl⟩ := Prod.mk.inj (Option.some.inj h)
    exact Nat.lt_succ_self _
  | case3 _ _ _ _ shorter _ ih =>
    obtain ⟨read, inner, same⟩ := Option.map_eq_some_iff.1 h
    obtain ⟨-, rfl⟩ := Prod.mk.inj same
    exact Nat.lt_succ_of_lt (Nat.lt_trans (ih inner) shorter)
  | case4 => cases h
  | case5 _ _ _ _ ih =>
    obtain ⟨read, inner, same⟩ := Option.map_eq_some_iff.1 h
    obtain ⟨-, rfl⟩ := Prod.mk.inj same
    exact Nat.lt_succ_of_lt (ih inner)

theorem literalRest_escape {text behind : List Char} {d : Char}
    (h : escape? text = some (d, behind)) :
    literalRest ('\\' :: text) = (literalRest behind).map fun read => (d :: read.1, read.2) := by
  rw [literalRest, if_neg (by decide), if_pos rfl]
  split
  · next found =>
    rw [h, Option.some.injEq, Prod.mk.injEq] at found
    obtain ⟨rfl, rfl⟩ := found
    rfl
  · next none =>
    rw [h] at none
    cases none

/-! ## The form of literals -/

/-- What stands behind a backslash, and the character that it means: one letter, digit or mark, or
the letter for codes with exactly four hexadecimal digits. -/
inductive Escapes : List Char → Char → Prop
  | simple {letter meant : Char} (means : simpleEscape? letter = some meant) :
    Escapes [letter] meant
  | code {a b c d meant : Char} {w x y z : Nat} (first : Json.hexValue? a = some w)
    (second : Json.hexValue? b = some x) (third : Json.hexValue? c = some y)
    (fourth : Json.hexValue? d = some z)
    (means : meant.toNat = ((w * 16 + x) * 16 + y) * 16 + z) : Escapes ['u', a, b, c, d] meant

/-- What stands between the quotes of a literal, and the value that it means. -/
inductive Quoted : List Char → List Char → Prop
  | nil : Quoted [] []
  | ordinary {c : Char} {inside value : List Char} (noQuote : c ≠ '"') (noEscape : c ≠ '\\')
    (more : Quoted inside value) : Quoted (c :: inside) (c :: value)
  | escaped {escape inside value : List Char} {meant : Char} (escapes : Escapes escape meant)
    (more : Quoted inside value) : Quoted ('\\' :: (escape ++ inside)) (meant :: value)

theorem Escapes.escape?_append {escape : List Char} {meant : Char} (h : Escapes escape meant)
    (rest : List Char) : escape? (escape ++ rest) = some (meant, rest) := by
  cases h with
  | @simple letter meant means =>
    have other : letter ≠ 'u' := by
      rintro rfl
      cases means
    show escape? (letter :: rest) = some (meant, rest)
    unfold escape?
    split
    · next same => exact absurd (List.cons.inj same).1 other
    · next same =>
      obtain ⟨rfl, rfl⟩ := List.cons.inj same
      simp [means]
    · next same => cases same
  | code first second third fourth means =>
    simp [escape?, codeEscape?, first, second, third, fourth, ← means]

/-- A reader gets from the first quote on to the value, and stops behind the last one. -/
theorem Quoted.literalRest_append {inside value : List Char} (h : Quoted inside value)
    (rest : List Char) : literalRest (inside ++ '"' :: rest) = some (value, rest) := by
  induction h with
  | nil => rw [List.nil_append, literalRest, if_pos rfl]
  | ordinary noQuote noEscape _ ih =>
    rw [List.cons_append, literalRest, if_neg noQuote, if_neg noEscape, ih]
    rfl
  | escaped escapes _ ih =>
    rw [List.cons_append, List.append_assoc, literalRest_escape (escapes.escape?_append _), ih]
    rfl

/-! ## What is written -/

theorem hexValue?_hexDigit {n : Nat} (h : n < 16) : Json.hexValue? (Text.hexDigit n) = some n := by
  have all : ∀ m ∈ List.range 16, Json.hexValue? (Text.hexDigit m) = some m := by decide
  exact all n (List.mem_range.2 h)

theorem toNat_lt_of_isControl {c : Char} (h : isControl c = true) : c.toNat < 0x10000 := by
  simp only [isControl, Bool.or_eq_true, Bool.and_eq_true, decide_eq_true_eq] at h
  omega

theorem escapes_hexDigits {c : Char} (h : c.toNat < 0x10000) :
    Escapes ('u' :: Text.hexDigits 4 c.toNat) c := by
  have digit (n : Nat) : Json.hexValue? (Text.hexDigit (n % 16)) = some (n % 16) :=
    hexValue?_hexDigit (Nat.mod_lt n (by decide))
  exact .code (digit _) (digit _) (digit _) (digit _) (by omega)

/-- A character is written as an escape that means it, or as it is. -/
theorem Quoted.literalChar {inside value : List Char} (more : Quoted inside value) (c : Char) :
    Quoted (literalChar c ++ inside) (c :: value) := by
  unfold CSharp.literalChar
  split
  · next special =>
    simp only [Bool.or_eq_true, decide_eq_true_eq] at special
    rcases special with rfl | rfl
    · exact .escaped (.simple rfl) more
    · exact .escaped (.simple rfl) more
  split
  · next is => exact is ▸ .escaped (.simple rfl) more
  split
  · next is => exact is ▸ .escaped (.simple rfl) more
  split
  · next is => exact is ▸ .escaped (.simple rfl) more
  split
  · next is => exact is ▸ .escaped (.simple rfl) more
  split
  · next control => exact .escaped (escapes_hexDigits (toNat_lt_of_isControl control)) more
  · next plain _ _ _ _ _ =>
    simp only [Bool.or_eq_true, decide_eq_true_eq, not_or] at plain
    exact .ordinary plain.1 plain.2 more

theorem quoted_flatMap_literalChar (value : List Char) :
    Quoted (value.flatMap literalChar) value := by
  induction value with
  | nil => exact .nil
  | cons c rest ih =>
    rw [List.flatMap_cons]
    exact ih.literalChar c

/-- **A literal is read as its value, up to its closing quote and no further.** -/
theorem literalRest_append (value rest : List Char) :
    literalRest (value.flatMap literalChar ++ '"' :: rest) = some (value, rest) :=
  (quoted_flatMap_literalChar value).literalRest_append rest

end TypedHub.CSharp
