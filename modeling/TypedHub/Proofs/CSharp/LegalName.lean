import TypedHub.CSharp.Name
import TypedHub.Proofs.Unicode.NameChars

/-!
# Legal names

Which names may be declared in C#: identifiers, and of these no reserved word unless an at sign
stands in front of it (`IsLegalName`). The rule for identifiers is narrower than the one by which
names are checked: that one admits all numerals, and C# only decimal digits and letter-like ones,
not superscripts or fractions. Apart from that, a checked name is an identifier
(`isLegalIdentifier_iff`).
-/

namespace TypedHub.CSharp

/-! ## Identifiers of C# -/

/-- Identifiers of C# begin with a letter or an underscore. -/
def isLegalStart (c : Char) : Bool := c = '_' || Unicode.beginsNames c

/-- They go on with letters, decimal digits, combining marks and underscores. -/
def isLegalPart (c : Char) : Bool := c = '_' || Unicode.continuesNames c

/-- An identifier of C# without an at sign in front. -/
def isLegalPlain : List Char → Bool
  | [] => false
  | c :: rest => isLegalStart c && rest.all isLegalPart

/-- An identifier of C#, which may be escaped by an at sign. -/
def isLegalIdentifier : List Char → Bool
  | '@' :: rest => isLegalPlain rest
  | text => isLegalPlain text

/-- A name that may be declared: an identifier, and no reserved word without an at sign. -/
def IsLegalName (name : String) : Prop := isLegalIdentifier name.toList = true ∧ name ∉ keywords

instance : DecidablePred IsLegalName := fun _ => inferInstanceAs (Decidable (_ ∧ _))

/-- All numerals in the text may stand in an identifier of C#. -/
def NumeralsFit (text : List Char) : Prop :=
  ∀ c ∈ text, Unicode.isNumeral c = true → isLegalPart c = true

instance : DecidablePred NumeralsFit := fun text =>
  List.decidableBAll (fun c => Unicode.isNumeral c = true → isLegalPart c = true) text

/-! ## Characters -/

theorem isLegalPart_of_isLegalStart {c : Char} (h : isLegalStart c = true) :
    isLegalPart c = true := by
  obtain underscore | begins := Bool.or_eq_true_iff.1 h
  · rw [isLegalPart, underscore, Bool.true_or]
  · rw [isLegalPart, Unicode.continuesNames_of_beginsNames begins, Bool.or_true]

theorem isLegalStart_of_isNameStart {c : Char} (h : isNameStart c = true) :
    isLegalStart c = true := by
  obtain underscore | letter := Bool.or_eq_true_iff.1 h
  · rw [isLegalStart, underscore, Bool.true_or]
  · rw [isLegalStart, Unicode.beginsNames_of_isLetter letter, Bool.or_true]

/-- All that names are checked for are letters, underscores and numerals. -/
theorem isLegalPart_of_isNamePart {c : Char} (h : isNamePart c = true)
    (fits : Unicode.isNumeral c = true → isLegalPart c = true) : isLegalPart c = true := by
  obtain start | numeral := Bool.or_eq_true_iff.1 h
  · exact isLegalPart_of_isLegalStart (isLegalStart_of_isNameStart start)
  · exact fits numeral

theorem isLegalPart_at : isLegalPart '@' = false := by decide +kernel

theorem isLegalStart_at : isLegalStart '@' = false :=
  Bool.eq_false_iff.2 (mt isLegalPart_of_isLegalStart (Bool.eq_false_iff.1 isLegalPart_at))

theorem isNumeral_at : Unicode.isNumeral '@' = false := by decide

/-! ## Texts -/

variable {text rest : List Char} {c : Char}

theorem isLegalIdentifier_of_head (h : text.head? ≠ some '@') :
    isLegalIdentifier text = isLegalPlain text := by
  unfold isLegalIdentifier
  split
  · exact absurd rfl h
  · rfl

theorem isLegalIdentifier_of_start (h : isLegalStart c = true) :
    isLegalIdentifier (c :: rest) = isLegalPlain (c :: rest) := by
  refine isLegalIdentifier_of_head fun escaped => ?_
  rw [Option.some.inj escaped, isLegalStart_at] at h
  cases h

theorem isLegalIdentifier_of_isLegalPlain (h : isLegalPlain text = true) :
    isLegalIdentifier text = true := by
  cases text with
  | nil => cases h
  | cons c rest => rwa [isLegalIdentifier_of_start (Bool.and_eq_true_iff.1 h).1]

/-- What identifiers may go on with does no harm behind one. -/
theorem isLegalPlain_append (nonempty : text ≠ []) (h : rest.all isLegalPart = true) :
    isLegalPlain (text ++ rest) = isLegalPlain text := by
  cases text with
  | nil => exact absurd rfl nonempty
  | cons c more =>
    rw [List.cons_append, isLegalPlain, isLegalPlain, List.all_append, h, Bool.and_true]

theorem all_isLegalPart_of_isLegalPlain (h : isLegalPlain text = true) :
    text.all isLegalPart = true := by
  cases text with
  | nil => cases h
  | cons c rest =>
    obtain ⟨start, parts⟩ := Bool.and_eq_true_iff.1 h
    rw [List.all_cons, isLegalPart_of_isLegalStart start, parts, Bool.and_self]

theorem isLegalPlain_iff (h : isPlainIdentifier text = true) :
    isLegalPlain text = true ↔ NumeralsFit text := by
  constructor
  · intro legal c mem _
    exact List.all_eq_true.1 (all_isLegalPart_of_isLegalPlain legal) c mem
  · intro fits
    cases text with
    | nil => cases h
    | cons c rest =>
      obtain ⟨start, parts⟩ := Bool.and_eq_true_iff.1 h
      rw [NumeralsFit, List.forall_mem_cons] at fits
      rw [isLegalPlain, isLegalStart_of_isNameStart start, Bool.true_and, List.all_eq_true]
      exact fun d mem => isLegalPart_of_isNamePart (List.all_eq_true.1 parts d mem) (fits.2 d mem)

theorem head?_ne_at_of_isPlainIdentifier (h : isPlainIdentifier text = true) :
    text.head? ≠ some '@' := by
  cases text with
  | nil => cases h
  | cons c rest =>
    intro escaped
    have start := isLegalStart_of_isNameStart (Bool.and_eq_true_iff.1 h).1
    rw [Option.some.inj escaped, isLegalStart_at] at start
    cases start

theorem numeralsFit_at_cons : NumeralsFit ('@' :: text) ↔ NumeralsFit text := by
  rw [NumeralsFit, List.forall_mem_cons, isNumeral_at]
  exact and_iff_right nofun

/-- What is checked for a name makes it an identifier of C#, up to the numerals. -/
theorem isLegalIdentifier_iff (h : isIdentifier text = true) :
    isLegalIdentifier text = true ↔ NumeralsFit text := by
  unfold isIdentifier at h
  split at h
  · rw [numeralsFit_at_cons, ← isLegalPlain_iff h, isLegalIdentifier]
  · rw [isLegalIdentifier_of_head (head?_ne_at_of_isPlainIdentifier h), isLegalPlain_iff h]

/-! ## Names -/

/-- Keywords are made of small letters. -/
theorem all_isLower_of_mem_keywords :
    ∀ keyword ∈ keywords ++ asyncKeywords, keyword.toList.all Char.isLower = true := by
  decide +kernel

theorem not_mem_of_mem_keywords {name : String} (h : name ∈ keywords ∨ name ∈ asyncKeywords)
    (other : c.isLower = false) : c ∉ name.toList := by
  intro mem
  have small := all_isLower_of_mem_keywords name (List.mem_append.2 h)
  rw [List.all_eq_true.1 small c mem] at other
  cases other

theorem not_mem_keywords {name : String} (mem : c ∈ name.toList) (other : c.isLower = false) :
    name ∉ keywords :=
  fun keyword => not_mem_of_mem_keywords (.inl keyword) other mem

theorem isLegalName_iff {name : String} (h : isIdentifier name.toList = true) :
    IsLegalName name ↔ name ∉ keywords ∧ NumeralsFit name.toList := by
  rw [IsLegalName, isLegalIdentifier_iff h, and_comm]

/-- An escaped keyword is legal. -/
theorem isLegalName_escapeKeyword_iff {name : String} (h : isIdentifier name.toList = true) :
    IsLegalName (escapeKeyword name) ↔ NumeralsFit name.toList := by
  unfold escapeKeyword
  split
  · next word =>
    have escaped : ("@" ++ name).toList = '@' :: name.toList := by
      rw [String.toList_append]
      rfl
    have other : "@" ++ name ∉ keywords :=
      not_mem_keywords (escaped ▸ List.mem_cons_self) (by decide)
    have plain : name.toList.head? ≠ some '@' := fun head =>
      not_mem_of_mem_keywords word (by decide) (List.mem_of_head? head)
    rw [IsLegalName, and_iff_left other, escaped, isLegalIdentifier,
      ← isLegalIdentifier_of_head plain, isLegalIdentifier_iff h]
  · next other => rw [isLegalName_iff h, and_iff_right (mt Or.inl other)]

/-- A capital letter in front of a name is no place for an at sign behind it. -/
theorem isLegalName_interface_iff {name : String} (h : isIdentifier name.toList = true) :
    IsLegalName ("I" ++ name) ↔ name.toList.head? ≠ some '@' ∧ NumeralsFit name.toList := by
  have chars : ("I" ++ name).toList = 'I' :: name.toList := by
    rw [String.toList_append]
    rfl
  have other : "I" ++ name ∉ keywords := not_mem_keywords (chars ▸ List.mem_cons_self) (by decide)
  have start : isLegalStart 'I' = true := by decide
  rw [IsLegalName, and_iff_left other, chars, isLegalIdentifier_of_start start, isLegalPlain, start,
    Bool.true_and]
  constructor
  · intro parts
    refine ⟨fun escaped => ?_, fun c mem _ => List.all_eq_true.1 parts c mem⟩
    have part := List.all_eq_true.1 parts '@' (List.mem_of_head? escaped)
    rw [isLegalPart_at] at part
    cases part
  · rintro ⟨plain, fits⟩
    apply all_isLegalPart_of_isLegalPlain
    rwa [← isLegalIdentifier_of_head plain, isLegalIdentifier_iff h]

end TypedHub.CSharp
