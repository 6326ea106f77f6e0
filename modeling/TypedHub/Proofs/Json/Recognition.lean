import TypedHub.Proofs.Json.Numerals

/-!
# What is skipped is a value

Skipping knows the form of a value only, so it goes past the texts of the grammar and no others: it
gets past whatever is derived, and what it has got past is derived. Both go along the open brackets.
-/

namespace TypedHub.Json

variable {text rest : List Char} {bracket : Bracket}

/-! ## Scalars -/

/-- A word, a string or a number. -/
inductive IsScalar : List Char → Prop
  | word {text : List Char} (h : text ∈ ["null".toList, "true".toList, "false".toList]) :
      IsScalar text
  | string {quoted : List Char} (h : IsQuoted quoted) : IsScalar ('"' :: quoted)
  | number {text : List Char} (h : IsNumber text) : IsScalar text

theorem IsScalar.derives (h : IsScalar text) : Derives .value text := by
  cases h with
  | word h => exact .word h
  | string h => exact .string h
  | number h => exact .number h

theorem IsScalar.exists_skipScalar (h : IsScalar text) :
    ∃ c behind, text = c :: behind ∧ Bracket.opened? c = none ∧ ∀ rest, Delimited rest →
      (skipScalar c (behind ++ rest)).toOption.map Subtype.val = some rest := by
  cases h with
  | word h =>
    simp only [List.mem_cons, List.not_mem_nil, or_false] at h
    rcases h with rfl | rfl | rfl
    · exact ⟨'n', ['u', 'l', 'l'], rfl, rfl, fun rest _ => (literal_eq_some_iff _ _ _).2 rfl⟩
    · exact ⟨'t', ['r', 'u', 'e'], rfl, rfl, fun rest _ => (literal_eq_some_iff _ _ _).2 rfl⟩
    · exact ⟨'f', ['a', 'l', 's', 'e'], rfl, rfl, fun rest _ => (literal_eq_some_iff _ _ _).2 rfl⟩
  | @string quoted h =>
    refine ⟨'"', quoted, rfl, rfl, fun rest _ => ?_⟩
    rw [skipScalar_string, outcome_skipString_append h]
    rfl
  | number h =>
    obtain ⟨c, behind, rfl, begins⟩ := h.exists_cons
    have begins : (c = '-' || c.isDigit) = true := by simpa using begins
    obtain ⟨number, isText⟩ := h
    refine ⟨c, behind, rfl, opened_numberFront begins, fun rest ends => ?_⟩
    rw [skipScalar_number begins, ← List.cons_append, outcome_skipNumber,
      outcome_numberText_append isText ends]
    rfl

theorem isScalar_of_skipScalar {c : Char} {behind : List Char}
    (h : (skipScalar c behind).toOption.map Subtype.val = some rest) :
    ∃ scalar, IsScalar scalar ∧ c :: behind = scalar ++ rest := by
  by_cases isNull : c = 'n'
  · subst isNull
    rw [(literal_eq_some_iff ['u', 'l', 'l'] behind rest).1 h]
    exact ⟨"null".toList, .word (by decide), rfl⟩
  by_cases isTrue : c = 't'
  · subst isTrue
    rw [(literal_eq_some_iff ['r', 'u', 'e'] behind rest).1 h]
    exact ⟨"true".toList, .word (by decide), rfl⟩
  by_cases isFalse : c = 'f'
  · subst isFalse
    rw [(literal_eq_some_iff ['a', 'l', 's', 'e'] behind rest).1 h]
    exact ⟨"false".toList, .word (by decide), rfl⟩
  by_cases isString : c = '"'
  · subst isString
    rw [skipScalar_string] at h
    obtain ⟨⟨⟨⟩, _⟩, skipped, rfl⟩ := Option.map_eq_some_iff.1 h
    obtain ⟨quoted, isQuoted, rfl⟩ := exists_isQuoted skipped
    exact ⟨_, .string isQuoted, rfl⟩
  by_cases begins : (c = '-' || c.isDigit) = true
  · rw [skipScalar_number begins, outcome_skipNumber, Option.map_map] at h
    obtain ⟨⟨number, behind'⟩, found, rfl⟩ := Option.map_eq_some_iff.1 h
    obtain ⟨front, isText, same⟩ := isText_of_numberText found
    exact ⟨front, .number ⟨number, isText⟩, same⟩
  · simp only [skipScalar, isNull, isTrue, isFalse, isString, begins, if_false] at h
    cases h

/-! ## Labels -/

theorem skipBlanks_lead {lead : List Char} (blank : Blank lead) {c : Char} (h : isBlank c = false)
    (behind : List Char) : skipBlanks (lead ++ c :: behind) = c :: behind := by
  rw [skipBlanks_append blank, skipBlanks_cons h]

theorem behindColon_eq_some_iff :
    behindColon? text = some rest ↔ skipBlanks text = ':' :: rest := by
  unfold behindColon?
  split
  · next behind colon => rw [colon, Option.some.injEq, List.cons.injEq, eq_self, true_and]
  · next other => exact iff_of_false nofun (other rest)

theorem skipLabel_append {label : List Char} (h : bracket.IsLabel label) (rest : List Char) :
    (bracket.skipLabel (label ++ rest)).toOption.map Subtype.val = some rest := by
  cases bracket with
  | square =>
    obtain rfl : label = [] := h
    rfl
  | curly =>
    obtain ⟨lead, quoted, between, blank, isQuoted, blank', rfl⟩ := h
    have quote : skipBlanks (lead ++ '"' :: (quoted ++ (between ++ [':'])) ++ rest) =
        '"' :: (quoted ++ (between ++ ':' :: rest)) := by
      simp only [List.append_assoc, List.cons_append, List.nil_append]
      exact skipBlanks_lead blank rfl _
    simp only [skipLabel_curly, outcome_skipKey, quote, outcome_skipString_append isQuoted,
      Option.bind_some, behindColon_eq_some_iff.2 (skipBlanks_lead blank' rfl rest)]
    rfl

theorem isLabel_of_skipLabel {item : List Char}
    (h : (bracket.skipLabel text).toOption.map Subtype.val = some item) :
    ∃ label, bracket.IsLabel label ∧ text = label ++ item := by
  cases bracket with
  | square =>
    obtain rfl := Option.some.inj h
    exact ⟨[], rfl, rfl⟩
  | curly =>
    rw [skipLabel_curly, outcome_skipKey] at h
    obtain ⟨⟨⟨⟩, _⟩, found, rfl⟩ := Option.map_eq_some_iff.1 h
    split at found
    · next quoted quote =>
      obtain ⟨⟨⟨⟩, behind⟩, key, found⟩ := Option.bind_eq_some_iff.1 found
      obtain ⟨rest, colon, same⟩ := Option.map_eq_some_iff.1 found
      cases same
      obtain ⟨lead, blank, rfl⟩ := exists_blank_of_skipBlanks quote
      obtain ⟨string, isQuoted, rfl⟩ := exists_isQuoted key
      obtain ⟨between, blank', rfl⟩ :=
        exists_blank_of_skipBlanks (behindColon_eq_some_iff.1 colon)
      exact ⟨_, ⟨lead, string, between, blank, isQuoted, blank', rfl⟩, by simp⟩
    · cases found

/-! ## Derived texts are skipped -/

theorem onward_closed {lead : List Char} (blank : Blank lead) (bracket : Bracket)
    (rest : List Char) :
    onward? bracket.closing (lead ++ bracket.closing :: rest) = some (.closed rest) := by
  simp only [onward?, skipBlanks_lead blank bracket.isBlank_closing, if_true]

theorem onward_more {lead entries : List Char} (blank : Blank lead)
    (h : Derives (.entries bracket) entries) (rest : List Char) :
    onward? bracket.closing (lead ++ ',' :: (entries ++ rest)) = some (.more (entries ++ rest)) := by
  obtain ⟨c, behind, front, notClosed⟩ := h.skipBlanks_entries rest
  simp only [onward?, skipBlanks_lead blank (show isBlank ',' = false from rfl), front, notClosed,
    bracket.closing_ne_comma.symm, if_true, if_false]

/-- Skipping gets past the text, whichever brackets are open around it. -/
def Skipped : Nonterminal → List Char → Prop
  | .value, text => ∀ lead rest, Blank lead → Delimited rest → ∀ openBrackets,
      outcome (skipValue openBrackets (lead ++ (text ++ rest))) = behindItem openBrackets rest
  | .inside bracket, text => ∀ rest openBrackets,
      outcome (skipOpened bracket openBrackets (text ++ rest)) = behindItem openBrackets rest
  | .entries bracket, text => ∀ rest openBrackets, ∃ item,
      (bracket.skipLabel (text ++ rest)).toOption.map Subtype.val = some item ∧
        outcome (skipValue (bracket :: openBrackets) item) = behindItem openBrackets rest
  | .following bracket, text => ∀ rest openBrackets,
      outcome (skipFollowing bracket openBrackets (text ++ rest)) = behindItem openBrackets rest

theorem IsScalar.skipped (h : IsScalar text) : Skipped .value text := by
  intro lead rest blank ends openBrackets
  obtain ⟨c, behind, rfl, unopened, skips⟩ := h.exists_skipScalar
  obtain ⟨_, _, same, unblank, -⟩ := h.derives.exists_cons
  cases same
  exact outcome_skipValue_scalar (skipBlanks_lead blank unblank _) unopened (skips rest ends)
    openBrackets

/-- The bracket is not followed by anything that could go on with it. -/
theorem outcome_skipValue_bracketed {inside lead : List Char} (skipped : Skipped (.inside bracket) inside)
    (blank : Blank lead) (rest : List Char) (openBrackets : List Bracket) :
    outcome (skipValue openBrackets (lead ++ bracket.opening :: (inside ++ rest))) =
      behindItem openBrackets rest := by
  rw [outcome_skipValue_opened (skipBlanks_lead blank bracket.isBlank_opening _)
    (Bracket.opened_eq_some_iff.2 rfl)]
  exact skipped rest openBrackets

/-- **What is derived is skipped.** -/
theorem Derives.skipped {kind : Nonterminal} (h : Derives kind text) : Skipped kind text := by
  induction h with
  | word h => exact (IsScalar.word h).skipped
  | string h => exact (IsScalar.string h).skipped
  | number h => exact (IsScalar.number h).skipped
  | bracketed _ ih => exact fun lead rest blank _ => outcome_skipValue_bracketed ih blank rest
  | @empty bracket lead blank =>
    intro rest openBrackets
    rw [List.append_assoc]
    exact outcome_skipOpened_closed bracket (skipBlanks_lead blank bracket.isBlank_closing rest)
      openBrackets
  | @filled bracket entries derived ih =>
    intro rest openBrackets
    obtain ⟨item, label, skipped⟩ := ih rest openBrackets
    obtain ⟨c, behind, front, notClosed⟩ := derived.skipBlanks_entries rest
    rw [outcome_skipOpened_item bracket front notClosed label, skipped]
  | @entry bracket label lead value following isLabel blank _ later ihValue ihFollowing =>
    intro rest openBrackets
    refine ⟨lead ++ (value ++ (following ++ rest)), ?_, ?_⟩
    · rw [List.append_assoc, List.append_assoc, List.append_assoc]
      exact skipLabel_append isLabel _
    · rw [ihValue lead _ blank (later.delimited_following rest), behindItem, ihFollowing]
  | @closed bracket lead blank =>
    intro rest openBrackets
    rw [List.append_assoc]
    exact outcome_skipFollowing_closed bracket (onward_closed blank bracket rest) openBrackets
  | @more bracket lead entries blank derived ih =>
    intro rest openBrackets
    obtain ⟨item, label, skipped⟩ := ih rest openBrackets
    rw [List.append_assoc, List.cons_append,
      outcome_skipFollowing_more bracket (onward_more blank derived rest) label, skipped]

/-! ## What is skipped is derived -/

mutual

theorem derives_of_skipValue {openBrackets : List Bracket} {text : List Char}
    {result : Unit × List Char} (h : outcome (skipValue openBrackets text) = some result) :
    ∃ item behind, IsItem item ∧ text = item ++ behind ∧
      behindItem openBrackets behind = some result := by
  cases front : skipBlanks text with
  | nil => rw [skipValue] at h; split at h <;> simp_all
  | cons c inside =>
    have shorter := length_lt_of_skipBlanks front
    obtain ⟨lead, blank, rfl⟩ := exists_blank_of_skipBlanks front
    cases opened : Bracket.opened? c with
    | none =>
      rw [outcome_skipValue_unopened front opened] at h
      obtain ⟨behind, skipped, found⟩ := Option.bind_eq_some_iff.1 h
      obtain ⟨scalar, isScalar, same⟩ := isScalar_of_skipScalar skipped
      exact ⟨lead ++ scalar, behind, ⟨lead, scalar, blank, isScalar.derives, rfl⟩,
        by rw [same, List.append_assoc], found⟩
    | some bracket =>
      rw [outcome_skipValue_opened front opened] at h
      obtain ⟨part, behind, derived, rfl, found⟩ := derives_of_skipOpened h
      obtain rfl := Bracket.opened_eq_some_iff.1 opened
      exact ⟨_, behind, ⟨lead, _, blank, .bracketed derived, rfl⟩, by simp, found⟩
termination_by 3 * text.length

theorem derives_of_skipOpened {bracket : Bracket} {openBrackets : List Bracket} {text : List Char}
    {result : Unit × List Char} (h : outcome (skipOpened bracket openBrackets text) = some result) :
    ∃ part behind, Derives (.inside bracket) part ∧ text = part ++ behind ∧
      behindItem openBrackets behind = some result := by
  cases front : skipBlanks text with
  | nil => rw [skipOpened] at h; split at h <;> simp_all
  | cons c behind =>
    by_cases closed : c = bracket.closing
    · subst closed
      rw [outcome_skipOpened_closed bracket front] at h
      obtain ⟨lead, blank, rfl⟩ := exists_blank_of_skipBlanks front
      exact ⟨_, behind, .empty blank, by simp, h⟩
    · rw [outcome_skipOpened_label bracket front closed] at h
      obtain ⟨entries, behind, derived, same, found⟩ := derives_of_skipLabel h
      exact ⟨entries, behind, .filled derived, same, found⟩
termination_by 3 * text.length + 2

theorem derives_of_skipLabel {bracket : Bracket} {openBrackets : List Bracket} {text : List Char}
    {result : Unit × List Char}
    (h : ((bracket.skipLabel text).toOption.map Subtype.val).bind (fun item =>
      outcome (skipValue (bracket :: openBrackets) item)) = some result) :
    ∃ entries behind, Derives (.entries bracket) entries ∧ text = entries ++ behind ∧
      behindItem openBrackets behind = some result := by
  obtain ⟨start, label, skipped⟩ := Option.bind_eq_some_iff.1 h
  obtain ⟨label, isLabel, rfl⟩ := isLabel_of_skipLabel label
  obtain ⟨_, behind, ⟨lead, value, blank, derived, rfl⟩, rfl, later⟩ := derives_of_skipValue skipped
  obtain ⟨c, _, rfl, -⟩ := derived.exists_cons
  obtain ⟨following, behind, derived', rfl, found⟩ := derives_of_skipFollowing later
  exact ⟨_, behind, .entry isLabel blank derived derived', by simp, found⟩
termination_by 3 * text.length + 1

theorem derives_of_skipFollowing {bracket : Bracket} {openBrackets : List Bracket}
    {text : List Char} {result : Unit × List Char}
    (h : outcome (skipFollowing bracket openBrackets text) = some result) :
    ∃ following behind, Derives (.following bracket) following ∧ text = following ++ behind ∧
      behindItem openBrackets behind = some result := by
  cases front : skipBlanks text with
  | nil => rw [skipFollowing] at h; split at h <;> simp_all
  | cons c behind =>
    have shorter := length_lt_of_skipBlanks front
    obtain ⟨lead, blank, rfl⟩ := exists_blank_of_skipBlanks front
    rw [outcome_skipFollowing bracket front] at h
    split at h
    · next comma =>
      subst comma
      obtain ⟨entries, behind, derived, rfl, found⟩ := derives_of_skipLabel h
      exact ⟨_, behind, .more blank derived, by simp, found⟩
    · split at h
      · next closed =>
        subst closed
        exact ⟨_, behind, .closed blank, by simp, h⟩
      · cases h
termination_by 3 * text.length

end

/-- **What is skipped is a value**, and it is skipped whatever stands behind it. -/
theorem reads_skip : Reads IsItem Delimited fun text => outcome (skip text) := by
  intro text value rest h
  simp only [skip, outcome_atRoot] at h ⊢
  obtain ⟨item, behind, isItem, rfl, found⟩ := derives_of_skipValue h
  cases found
  refine ⟨item, isItem, rfl, fun other ends => ?_⟩
  obtain ⟨lead, value, blank, derived, rfl⟩ := isItem
  rw [List.append_assoc]
  exact derived.skipped lead other blank ends []

/-- A list or an object has one end only, so whether a text that begins with it is whole depends on
what stands behind that end. -/
theorem isWhole_append_iff (h : IsBracketed text) : IsWhole (text ++ rest) ↔ Blank rest := by
  constructor
  · rintro ⟨item, trail, ⟨lead, value, blank, derived, rfl⟩, trailing, same⟩
    obtain ⟨lead', bracket, inside, blank', derived', rfl⟩ := h
    have ended : outcome (skipValue [] (lead ++ value ++ trail)) = some ((), trail) := by
      rw [List.append_assoc]
      exact derived.skipped lead trail blank (delimited_of_blank trailing) []
    rw [← same, List.append_assoc, List.cons_append,
      outcome_skipValue_bracketed derived'.skipped blank' rest []] at ended
    obtain ⟨-, rfl⟩ := Prod.mk.inj (Option.some.inj ended)
    exact trailing
  · exact fun trailing => ⟨text, rest, h.isItem, trailing, rfl⟩

end TypedHub.Json
