import TypedHub.Proofs.Json.Fronts

/-!
# Numbers at the front of a text

A number does not end by itself, as a string does: what follows it has to be `Delimited`, a
character that cannot go on with it. Then the parts that are cut from a text are those of which the
text is written (`NumberText.IsText`), and what follows is not looked at.
-/

namespace TypedHub.Json

variable {α ε : Type} {text rest : List Char}

/-! ## What may follow -/

theorem Delimited.not_digit {text : List Char} (h : Delimited text) :
    ∀ c ∈ text.head?, c.isDigit = false := by
  intro c front
  have mem := h c front
  simp only [List.mem_cons, List.not_mem_nil, or_false] at mem
  rcases mem with rfl | rfl | rfl | rfl | rfl | rfl | rfl <;> rfl

theorem Delimited.ne {text : List Char} (h : Delimited text) {d : Char}
    (other : d ∉ [' ', '\t', '\n', '\r', ',', ']', '\x7d']) : ∀ c ∈ text.head?, c ≠ d := by
  rintro c front rfl
  exact other (h c front)

/-! ## Parts -/

theorem isDigits_of_outcome {found : List Char} (h : outcome (digits text) = some (found, rest)) :
    IsDigits found ∧ text = found ++ rest := by
  unfold digits at h
  split at h
  · cases h
  · next nonempty =>
    obtain ⟨rfl, rfl⟩ := Prod.mk.inj (Option.some.inj h)
    refine ⟨⟨fun none => ?_, fun c mem => List.mem_takeWhile_imp mem⟩,
      List.takeWhile_append_dropWhile.symm⟩
    cases (List.isEmpty_iff.2 none).symm.trans nonempty

theorem outcome_digits {found : List Char} (h : IsDigits found)
    (ends : ∀ c ∈ rest.head?, c.isDigit = false) :
    outcome (digits (found ++ rest)) = some (found, rest) := by
  have none : rest.takeWhile Char.isDigit = [] ∧ rest.dropWhile Char.isDigit = rest := by
    cases rest with
    | nil => exact ⟨rfl, rfl⟩
    | cons c behind => simp [ends c rfl]
  have taken : (found ++ rest).takeWhile Char.isDigit = found := by
    rw [List.takeWhile_append_of_pos h.2, none.1, List.append_nil]
  have left : (found ++ rest).dropWhile Char.isDigit = rest := by
    rw [List.dropWhile_append_of_pos h.2, none.2]
  unfold digits
  split
  · next empty =>
    rw [taken, List.isEmpty_iff] at empty
    exact absurd empty h.1
  · exact congrArg some (Prod.ext taken left)

/-- What was taken and what is left of the text. -/
def taken (result : Except ε (Taken α text)) : Option (α × List Char) :=
  result.toOption.map fun part => (part.value, part.rest)

theorem taken_bind_eq_some_iff {first : Except ε β} {next : β → Except ε (Taken α text)}
    {found : α × List Char} :
    taken (first >>= next) = some found ↔ ∃ b, first = .ok b ∧ taken (next b) = some found := by
  cases first <;> simp [taken, Except.toOption, bind, Except.bind]

theorem isFraction_of_taken {found : List Char}
    (h : taken (fractionDigits text) = some (found, rest)) :
    ∃ front, IsFraction found front ∧ text = front ++ rest := by
  unfold fractionDigits at h
  split at h
  · next behind =>
    obtain ⟨parsed, read, ⟨⟩⟩ := taken_bind_eq_some_iff.1 h
    obtain ⟨isDigits, same⟩ := isDigits_of_outcome (by rw [read]; rfl)
    exact ⟨_, .digits isDigits, congrArg ('.' :: ·) same⟩
  · cases h
    exact ⟨[], .missing, rfl⟩

theorem taken_fractionDigits {found front : List Char} (h : IsFraction found front)
    (noPoint : ∀ c ∈ rest.head?, c ≠ '.') (ends : ∀ c ∈ rest.head?, c.isDigit = false) :
    taken (fractionDigits (front ++ rest)) = some (found, rest) := by
  cases h with
  | missing =>
    rw [List.nil_append, fractionDigits]
    · rfl
    · rintro behind rfl
      exact noPoint '.' rfl rfl
  | digits isDigits =>
    obtain ⟨_, read⟩ := outcome_eq_some_iff.1 (outcome_digits isDigits ends)
    rw [List.cons_append, fractionDigits, read]
    rfl

theorem isSign_exponentSign (text : List Char) :
    ∃ front, IsSign (exponentSign text).value front ∧ text = front ++ (exponentSign text).rest := by
  unfold exponentSign
  split
  · exact ⟨['+'], .plus, rfl⟩
  · exact ⟨['-'], .minus, rfl⟩
  · exact ⟨[], .missing, rfl⟩

theorem exponentSign_append {negative : Bool} {front : List Char} (h : IsSign negative front)
    (unsigned : rest.head? ≠ some '+' ∧ rest.head? ≠ some '-') :
    (exponentSign (front ++ rest)).value = negative ∧ (exponentSign (front ++ rest)).rest = rest := by
  cases h with
  | missing =>
    rw [List.nil_append, exponentSign]
    · exact ⟨rfl, rfl⟩
    · rintro behind rfl
      exact unsigned.1 rfl
    · rintro behind rfl
      exact unsigned.2 rfl
  | plus => exact ⟨rfl, rfl⟩
  | minus => exact ⟨rfl, rfl⟩

theorem isExponent_of_taken {found : Bool × List Char}
    (h : taken (exponentDigits text) = some (found, rest)) :
    ∃ front, IsExponent found front ∧ text = front ++ rest := by
  cases text with
  | nil =>
    cases h
    exact ⟨[], .missing, rfl⟩
  | cons e behind =>
    rw [exponentDigits] at h
    split at h
    · next letter =>
      rw [Bool.or_eq_true, decide_eq_true_eq, decide_eq_true_eq] at letter
      obtain ⟨sign, isSign, same⟩ := isSign_exponentSign behind
      obtain ⟨parsed, read, ⟨⟩⟩ := taken_bind_eq_some_iff.1 h
      obtain ⟨isDigits, same'⟩ := isDigits_of_outcome (by rw [read]; rfl)
      refine ⟨_, .digits letter isSign isDigits, ?_⟩
      rw [List.cons_append, List.append_assoc]
      exact congrArg (e :: ·) (same.trans (congrArg (sign ++ ·) same'))
    · cases h
      exact ⟨[], .missing, rfl⟩

theorem taken_exponentDigits {found : Bool × List Char} {front : List Char}
    (h : IsExponent found front) (noLetter : ∀ c ∈ rest.head?, c ≠ 'e' ∧ c ≠ 'E')
    (ends : ∀ c ∈ rest.head?, c.isDigit = false) :
    taken (exponentDigits (front ++ rest)) = some (found, rest) := by
  cases h with
  | missing =>
    cases rest with
    | nil => rfl
    | cons c behind =>
      rw [List.nil_append, exponentDigits, if_neg]
      · rfl
      · simp [noLetter c rfl]
  | @digits e negative sign found letter isSign isDigits =>
    have unsigned : ∀ d : Char, d.isDigit = false → (found ++ rest).head? ≠ some d := by
      intro d notDigit front
      obtain ⟨c, behind, rfl⟩ := List.exists_cons_of_ne_nil isDigits.1
      obtain rfl : c = d := Option.some.inj front
      rw [isDigits.2 c List.mem_cons_self] at notDigit
      cases notDigit
    obtain ⟨value, left⟩ := exponentSign_append isSign ⟨unsigned '+' rfl, unsigned '-' rfl⟩
    obtain ⟨_, read⟩ := outcome_eq_some_iff.1 (outcome_digits isDigits ends)
    have begins : (decide (e = 'e') || decide (e = 'E')) = true := by
      rw [Bool.or_eq_true, decide_eq_true_eq, decide_eq_true_eq]
      exact letter
    rw [List.cons_append, List.append_assoc, exponentDigits, if_pos begins]
    have read' : outcome (digits (exponentSign (sign ++ (found ++ rest))).rest) =
        some (found, rest) := by rw [left, read]; rfl
    obtain ⟨_, read'⟩ := outcome_eq_some_iff.1 read'
    simp only [read', bind, Except.bind]
    exact congrArg (fun negative => some ((negative, found), rest)) value

theorem outcome_wholeDigits (text : List Char) :
    outcome (wholeDigits text) =
      (outcome (digits text)).filter fun found =>
        decide (found.1.head? = some '0' → found.1 = ['0']) := by
  unfold wholeDigits
  cases digits text with
  | error e => rfl
  | ok found =>
    simp only [bind, Except.bind, outcome_ok]
    split
    · next zero =>
      rw [Option.filter_some, if_neg (by simp [zero])]
      rfl
    · next other =>
      have single : found.value.head? = some '0' → found.value = ['0'] := by
        intro front
        cases value : found.value with
        | nil => rw [value] at front; cases front
        | cons c behind =>
          rw [value] at front
          obtain rfl : c = '0' := Option.some.inj front
          cases behind with
          | nil => rfl
          | cons d behind => exact (other d behind value).elim
      rw [Option.filter_some, if_pos (decide_eq_true single)]
      rfl

theorem outcome_unsignedText (negative : Bool) (text : List Char) :
    outcome (unsignedText negative text) =
      (outcome (wholeDigits text)).bind fun whole =>
        (taken (fractionDigits whole.2)).bind fun fraction =>
          (taken (exponentDigits fraction.2)).map fun exponent =>
            (⟨negative, whole.1, fraction.1, exponent.1.1, exponent.1.2⟩, exponent.2) := by
  unfold unsignedText
  cases wholeDigits text with
  | error e => rfl
  | ok whole =>
    simp only [bind, Except.bind, outcome_ok, Option.bind_some]
    cases fractionDigits whole.rest with
    | error e => rfl
    | ok fraction =>
      simp only [taken, Except.toOption, Option.map_some, Option.bind_some]
      cases exponentDigits fraction.rest <;> rfl

/-! ## Numbers -/

theorem outcome_numberText_minus (text : List Char) :
    outcome (numberText ('-' :: text)) = outcome (unsignedText true text) := by
  rw [numberText]
  cases unsignedText true text <;> rfl

theorem numberText_unsigned (h : text.head? ≠ some '-') :
    numberText text = unsignedText false text := by
  rw [numberText]
  rintro behind rfl
  exact h rfl

/-- The parts of a number that has been cut are those of its text. -/
theorem isText_of_unsignedText {negative : Bool} {number : NumberText}
    (h : outcome (unsignedText negative text) = some (number, rest)) :
    ∃ front, number.IsText ((if negative then ['-'] else []) ++ front) ∧ text = front ++ rest := by
  rw [outcome_unsignedText] at h
  obtain ⟨⟨whole, behind⟩, found, h⟩ := Option.bind_eq_some_iff.1 h
  obtain ⟨⟨fraction, behind'⟩, found', h⟩ := Option.bind_eq_some_iff.1 h
  obtain ⟨⟨⟨sign, exponent⟩, behind''⟩, found'', same⟩ := Option.map_eq_some_iff.1 h
  cases same
  rw [outcome_wholeDigits, Option.filter_eq_some_iff, decide_eq_true_eq] at found
  obtain ⟨isDigits, rfl⟩ := isDigits_of_outcome found.1
  obtain ⟨fractionText, isFraction, rfl⟩ := isFraction_of_taken found'
  obtain ⟨exponentText, isExponent, rfl⟩ := isExponent_of_taken found''
  exact ⟨whole ++ (fractionText ++ exponentText), .intro isDigits found.2 isFraction isExponent,
    by simp⟩

theorem isText_of_numberText {number : NumberText}
    (h : outcome (numberText text) = some (number, rest)) :
    ∃ front, number.IsText front ∧ text = front ++ rest := by
  by_cases minus : text.head? = some '-'
  · obtain ⟨behind, rfl⟩ := List.head?_eq_some_iff.1 minus
    rw [outcome_numberText_minus] at h
    obtain ⟨front, isText, rfl⟩ := isText_of_unsignedText h
    exact ⟨'-' :: front, isText, rfl⟩
  · rw [numberText_unsigned minus] at h
    exact isText_of_unsignedText h

theorem outcome_unsignedText_append (negative : Bool)
    {whole fraction fractionText exponentText : List Char} {exponent : Bool × List Char}
    (isDigits : IsDigits whole) (noLeadingZero : whole.head? = some '0' → whole = ['0'])
    (isFraction : IsFraction fraction fractionText) (isExponent : IsExponent exponent exponentText)
    (ends : Delimited rest) :
    outcome (unsignedText negative (whole ++ (fractionText ++ (exponentText ++ rest)))) =
      some (⟨negative, whole, fraction, exponent.1, exponent.2⟩, rest) := by
  -- What follows each part cannot go on with it.
  have behindFraction : ∀ c ∈ (exponentText ++ rest).head?, c ≠ '.' ∧ c.isDigit = false := by
    cases isExponent with
    | missing => exact fun c front => ⟨ends.ne (by decide) c front, ends.not_digit c front⟩
    | digits letter =>
      intro c front
      obtain rfl := Option.some.inj front
      rcases letter with rfl | rfl <;> exact ⟨by decide, rfl⟩
  have behindWhole : ∀ c ∈ (fractionText ++ (exponentText ++ rest)).head?, c.isDigit = false := by
    cases isFraction with
    | missing => exact fun c front => (behindFraction c front).2
    | digits =>
      intro c front
      obtain rfl := Option.some.inj front
      rfl
  have read : outcome (wholeDigits (whole ++ (fractionText ++ (exponentText ++ rest)))) =
      some (whole, fractionText ++ (exponentText ++ rest)) := by
    rw [outcome_wholeDigits, outcome_digits isDigits behindWhole, Option.filter_some,
      decide_eq_true noLeadingZero, if_pos rfl]
  rw [outcome_unsignedText, read, Option.bind_some,
    taken_fractionDigits isFraction (fun c front => (behindFraction c front).1)
      (fun c front => (behindFraction c front).2), Option.bind_some,
    taken_exponentDigits isExponent
      (fun c front => ⟨ends.ne (by decide) c front, ends.ne (by decide) c front⟩) ends.not_digit,
    Option.map_some]

theorem outcome_numberText_append {number : NumberText} {front : List Char}
    (h : number.IsText front) (ends : Delimited rest) :
    outcome (numberText (front ++ rest)) = some (number, rest) := by
  obtain @⟨negative, _, whole, fraction, exponent, fractionText, exponentText, isDigits,
    noLeadingZero, isFraction, isExponent⟩ := h
  have read := outcome_unsignedText_append negative isDigits noLeadingZero isFraction isExponent ends
  rw [List.append_assoc, List.append_assoc, List.append_assoc]
  cases negative with
  | true => rw [if_pos rfl, List.cons_append, List.nil_append, outcome_numberText_minus, read]
  | false =>
    have unsigned : (whole ++ (fractionText ++ (exponentText ++ rest))).head? ≠ some '-' := by
      intro front
      obtain ⟨c, behind, rfl⟩ := List.exists_cons_of_ne_nil isDigits.1
      obtain rfl : c = '-' := Option.some.inj front
      cases isDigits.2 '-' List.mem_cons_self
    rw [if_neg (by decide), List.nil_append, numberText_unsigned unsigned, read]

theorem reads_numberText : Reads IsNumber Delimited fun text => outcome (numberText text) := by
  intro text number rest h
  obtain ⟨front, isText, rfl⟩ := isText_of_numberText h
  exact ⟨front, ⟨number, isText⟩, rfl, fun other ends => outcome_numberText_append isText ends⟩

theorem reads_readNumber : Reads IsNumber Delimited fun text => outcome (readNumber text) := by
  intro text
  rw [funext outcome_readNumber]
  exact (reads_numberText text).filterMap fun number => number.value.toOption

end TypedHub.Json
