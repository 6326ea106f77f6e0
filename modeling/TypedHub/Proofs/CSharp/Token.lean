import TypedHub.Proofs.CSharp.LegalName
import TypedHub.Proofs.CSharp.Literal

/-!
# Tokens

The words, string literals and punctuators that the text of an expression is read as. A word goes as
far as there are characters of words, and of two punctuators at one place the longer one is read.

A text that is put together from pieces is read piece by piece (`Spells.before`), if no word of one
piece can run on into the next. Punctuators and literals end where they end (`Delimits`), and a word
ends where no character of a word follows (`Spells`).
-/

namespace TypedHub.CSharp

/-- The operators and punctuators of expressions. -/
inductive Punctuator where
  | openParen
  | closeParen
  | less
  | greater
  | comma
  | point
  | bang
  | equals
  | arrow
  /-- The question mark and point of a null-conditional access. -/
  | ifSet
  /-- The two question marks between an expression and the one for null. -/
  | ifNull
  deriving DecidableEq

inductive Token where
  /-- A keyword, a name or a number. -/
  | word (text : String)
  /-- A string literal, by its value. -/
  | string (value : String)
  | mark (mark : Punctuator)
  deriving DecidableEq

/-- The characters of keywords, names and numbers. -/
def isWordChar (c : Char) : Bool := isNamePart c || isLegalPart c || c = '@'

/-- The punctuator at the front of a text, and what follows it. -/
def punctuator? : List Char → Option (Punctuator × List Char)
  | '(' :: rest => some (.openParen, rest)
  | ')' :: rest => some (.closeParen, rest)
  | '<' :: rest => some (.less, rest)
  | '>' :: rest => some (.greater, rest)
  | ',' :: rest => some (.comma, rest)
  | '.' :: rest => some (.point, rest)
  | '!' :: rest => some (.bang, rest)
  | '=' :: '>' :: rest => some (.arrow, rest)
  | '=' :: rest => some (.equals, rest)
  | '?' :: '.' :: rest => some (.ifSet, rest)
  | '?' :: '?' :: rest => some (.ifNull, rest)
  | _ => none

/-- The characters that punctuators begin with. -/
def punctuation : List Char := ['(', ')', '<', '>', ',', '.', '!', '=', '?']

/-- No word goes on with a blank, a quote or the beginning of a punctuator. -/
theorem isWordChar_eq_false {c : Char} (h : c ∈ ' ' :: '"' :: punctuation) :
    isWordChar c = false := by
  have all : ∀ d ∈ ' ' :: '"' :: punctuation, isWordChar d = false :=
    forall_mem_of_all (by decide +kernel)
  exact all c h

theorem mem_punctuation_of_punctuator? {c : Char} {rest behind : List Char} {mark : Punctuator}
    (h : punctuator? (c :: rest) = some (mark, behind)) :
    c ∈ punctuation ∧ behind.length < (c :: rest).length := by
  unfold punctuator? at h
  split at h
  all_goals cases h
  all_goals
    next same =>
      obtain ⟨rfl, rfl⟩ := List.cons.inj same
      exact ⟨by decide, by simp only [List.length_cons]; omega⟩

/-- The tokens of a text, if all of it is tokens and blanks. -/
def lex (text : List Char) : Option (List Token) :=
  match text with
  | [] => some []
  | c :: rest =>
    if c = ' ' then lex rest
    else if c = '"' then
      match h : literalRest rest with
      | some (value, behind) =>
        have := length_lt_of_literalRest h
        (lex behind).map (.string (String.ofList value) :: ·)
      | none => none
    else if isWordChar c then
      have := (rest.dropWhile_sublist isWordChar).length_le
      (lex (rest.dropWhile isWordChar)).map
        (.word (String.ofList (c :: rest.takeWhile isWordChar)) :: ·)
    else
      match h : punctuator? (c :: rest) with
      | some (mark, behind) =>
        have : behind.length < rest.length + 1 := (mem_punctuation_of_punctuator? h).2
        (lex behind).map (.mark mark :: ·)
      | none => none
termination_by text.length

/-! ## What is read at the front of a text -/

variable {rest behind : List Char} {c : Char}

theorem lex_blank (rest : List Char) : lex (' ' :: rest) = lex rest := by rw [lex, if_pos rfl]

theorem lex_punctuator {mark : Punctuator} (h : punctuator? (c :: rest) = some (mark, behind)) :
    lex (c :: rest) = (lex behind).map (.mark mark :: ·) := by
  have mem := (mem_punctuation_of_punctuator? h).1
  have apart : ∀ d ∈ punctuation, d ≠ ' ' ∧ d ≠ '"' := forall_mem_of_all (by decide)
  obtain ⟨noBlank, noQuote⟩ := apart c mem
  have noWord : isWordChar c = false :=
    isWordChar_eq_false (List.mem_cons_of_mem _ (List.mem_cons_of_mem _ mem))
  rw [lex, if_neg noBlank, if_neg noQuote, noWord, if_neg Bool.false_ne_true]
  split
  · next found =>
    rw [h] at found
    obtain ⟨rfl, rfl⟩ := Prod.mk.inj (Option.some.inj found)
    rfl
  · next none =>
    rw [h] at none
    cases none

theorem lex_literal (value rest : List Char) :
    lex (literalChars value ++ rest) = (lex rest).map (.string (String.ofList value) :: ·) := by
  have read := literalRest_append value rest
  have chars : literalChars value ++ rest = '"' :: (value.flatMap literalChar ++ '"' :: rest) := by
    simp [literalChars]
  rw [chars, lex, if_neg (by decide), if_pos rfl]
  split
  · next found =>
    rw [read] at found
    obtain ⟨rfl, rfl⟩ := Prod.mk.inj (Option.some.inj found)
    rfl
  · next none =>
    rw [read] at none
    cases none

/-- A text at whose front no word goes on. -/
def Apart (text : List Char) : Prop := ∀ c ∈ text.head?, isWordChar c = false

theorem takeWhile_of_apart (apart : Apart rest) : rest.takeWhile isWordChar = [] := by
  cases rest with
  | nil => rfl
  | cons c more => rw [List.takeWhile_cons, apart c rfl, if_neg Bool.false_ne_true]

theorem dropWhile_of_apart (apart : Apart rest) : rest.dropWhile isWordChar = rest := by
  cases rest with
  | nil => rfl
  | cons c more => rw [List.dropWhile_cons, apart c rfl, if_neg Bool.false_ne_true]

theorem lex_word {word : List Char} (nonempty : word ≠ []) (chars : ∀ c ∈ word, isWordChar c = true)
    (apart : Apart rest) :
    lex (word ++ rest) = (lex rest).map (.word (String.ofList word) :: ·) := by
  cases word with
  | nil => exact absurd rfl nonempty
  | cons c more =>
    obtain ⟨first, others⟩ := List.forall_mem_cons.1 chars
    have noBlank : c ≠ ' ' := by
      rintro rfl
      rw [isWordChar_eq_false (by decide)] at first
      cases first
    have noQuote : c ≠ '"' := by
      rintro rfl
      rw [isWordChar_eq_false (by decide)] at first
      cases first
    rw [List.cons_append, lex, if_neg noBlank, if_neg noQuote, if_pos first,
      List.takeWhile_append_of_pos others, List.dropWhile_append_of_pos others,
      takeWhile_of_apart apart, dropWhile_of_apart apart, List.append_nil]

/-! ## Reading in pieces -/

/-- The text is read as the tokens, whatever follows it. -/
def Delimits (text : String) (tokens : List Token) : Prop :=
  ∀ rest, lex (text.toList ++ rest) = (lex rest).map (tokens ++ ·)

/-- The text is read as the tokens if no character of a word follows it. -/
def Spells (text : String) (tokens : List Token) : Prop :=
  ∀ rest, Apart rest → lex (text.toList ++ rest) = (lex rest).map (tokens ++ ·)

/-- The text is read as the tokens, whatever stands before and behind it: it does not begin like a
word either. -/
structure Stands (text : String) (tokens : List Token) : Prop where
  delimits : Delimits text tokens
  apart : ∃ c more, text.toList = c :: more ∧ isWordChar c = false

section Pieces

variable {front back : String} {tokens tokensBack : List Token}

theorem Delimits.spells (delimits : Delimits front tokens) : Spells front tokens :=
  fun rest _ => delimits rest

theorem map_append_map (read : Option (List Token)) (tokens tokensBack : List Token) :
    (read.map (tokensBack ++ ·)).map (tokens ++ ·) = read.map (tokens ++ tokensBack ++ ·) := by
  rw [Option.map_map]
  congr 1
  funext more
  exact (List.append_assoc ..).symm

theorem Delimits.append (first : Delimits front tokens) (second : Delimits back tokensBack) :
    Delimits (front ++ back) (tokens ++ tokensBack) := fun rest => by
  rw [String.toList_append, List.append_assoc, first, second, map_append_map]

theorem Delimits.spells_append (first : Delimits front tokens) (second : Spells back tokensBack) :
    Spells (front ++ back) (tokens ++ tokensBack) := fun rest apart => by
  rw [String.toList_append, List.append_assoc, first, second rest apart, map_append_map]

/-- A word at the end of a text does not run on into a text that stands alone. -/
theorem Spells.before (first : Spells front tokens) (second : Stands back tokensBack) :
    Delimits (front ++ back) (tokens ++ tokensBack) := fun rest => by
  obtain ⟨c, more, chars, other⟩ := second.apart
  have ends : Apart (back.toList ++ rest) := by
    rw [chars]
    exact fun d head => Option.some.inj head ▸ other
  rw [String.toList_append, List.append_assoc, first _ ends, second.delimits, map_append_map]

theorem Spells.lex_eq (spells : Spells front tokens) : lex front.toList = some tokens := by
  have read := spells [] nofun
  rw [List.append_nil] at read
  rw [read, lex]
  exact congrArg some (List.append_nil tokens)

end Pieces

theorem Stands.append {front back : String} {tokens tokensBack : List Token}
    (first : Stands front tokens) (second : Delimits back tokensBack) :
    Stands (front ++ back) (tokens ++ tokensBack) where
  delimits := first.delimits.append second
  apart := by
    obtain ⟨c, more, chars, other⟩ := first.apart
    exact ⟨c, more ++ back.toList, by rw [String.toList_append, chars]; rfl, other⟩

theorem delimits_empty : Delimits "" [] := fun rest => by
  change lex rest = _
  rw [show (([] : List Token) ++ ·) = id from funext fun _ => rfl, Option.map_id_fun, id]

theorem delimits_stringLiteral (value : String) :
    Delimits (stringLiteral value) [.string value] := fun rest => by
  rw [stringLiteral, String.toList_ofList, lex_literal, String.ofList_toList]
  rfl

theorem spells_word {word : String} (nonempty : word ≠ "")
    (chars : ∀ c ∈ word.toList, isWordChar c = true) : Spells word [.word word] :=
  fun rest apart => by
    rw [lex_word (mt String.toList_eq_nil_iff.1 nonempty) chars apart, String.ofList_toList]
    rfl

/-! ## Punctuation -/

theorem stands_blank : Stands " " [] :=
  ⟨fun rest => (lex_blank rest).trans (delimits_empty rest), _, _, rfl,
    isWordChar_eq_false (by decide)⟩

theorem stands_openParen : Stands "(" [.mark .openParen] :=
  ⟨fun _ => lex_punctuator rfl, _, _, rfl, isWordChar_eq_false (by decide)⟩

theorem stands_closeParen : Stands ")" [.mark .closeParen] :=
  ⟨fun _ => lex_punctuator rfl, _, _, rfl, isWordChar_eq_false (by decide)⟩

theorem stands_less : Stands "<" [.mark .less] :=
  ⟨fun _ => lex_punctuator rfl, _, _, rfl, isWordChar_eq_false (by decide)⟩

theorem stands_greater : Stands ">" [.mark .greater] :=
  ⟨fun _ => lex_punctuator rfl, _, _, rfl, isWordChar_eq_false (by decide)⟩

theorem stands_point : Stands "." [.mark .point] :=
  ⟨fun _ => lex_punctuator rfl, _, _, rfl, isWordChar_eq_false (by decide)⟩

theorem stands_bang : Stands "!" [.mark .bang] :=
  ⟨fun _ => lex_punctuator rfl, _, _, rfl, isWordChar_eq_false (by decide)⟩

theorem stands_ifSet : Stands "?." [.mark .ifSet] :=
  ⟨fun _ => lex_punctuator rfl, _, _, rfl, isWordChar_eq_false (by decide)⟩

theorem stands_comma : Stands ", " [.mark .comma] :=
  ⟨fun rest => (lex_punctuator rfl).trans (congrArg _ (lex_blank rest)), _, _, rfl,
    isWordChar_eq_false (by decide)⟩

theorem lex_spaced {c d : Char} {mark : Punctuator} {rest : List Char}
    (h : punctuator? (c :: d :: ' ' :: rest) = some (mark, ' ' :: rest)) :
    lex (' ' :: c :: d :: ' ' :: rest) = (lex rest).map (.mark mark :: ·) := by
  rw [lex_blank, lex_punctuator h, lex_blank]

theorem stands_ifNull : Stands " ?? " [.mark .ifNull] :=
  ⟨fun _ => lex_spaced rfl, _, _, rfl, isWordChar_eq_false (by decide)⟩

theorem stands_arrow : Stands " => " [.mark .arrow] :=
  ⟨fun _ => lex_spaced rfl, _, _, rfl, isWordChar_eq_false (by decide)⟩

theorem stands_equals : Stands " = " [.mark .equals] :=
  ⟨fun rest => (lex_blank _).trans ((lex_punctuator rfl).trans (congrArg _ (lex_blank rest))), _, _,
    rfl, isWordChar_eq_false (by decide)⟩

end TypedHub.CSharp
