import TypedHub.Proofs.Json.Grammar
import TypedHub.Proofs.Json.Skipping

/-!
# Front parts of texts

A reader takes a front part of its text, and this part decides what is read: with other characters
behind it, the same is read and the others are left (`ReadsAt`). This holds of readers one behind the
other if it holds of each, and so it is shown from the smallest parts on, here for words and strings.
-/

namespace TypedHub.Json

variable {α β ε : Type} {text rest : List Char}

/-! ## Front parts -/

/-- What is read from the text is a front part of the kind `language`; the same is read where others
than the rest stand behind it, as far as `stop` lets them. -/
def ReadsAt (language stop : List Char → Prop) (read : List Char → Option (α × List Char))
    (text : List Char) : Prop :=
  ∀ ⦃value rest⦄, read text = some (value, rest) →
    ∃ front, language front ∧ text = front ++ rest ∧
      ∀ other, stop other → read (front ++ other) = some (value, other)

/-- All texts are read so. -/
def Reads (language stop : List Char → Prop) (read : List Char → Option (α × List Char)) : Prop :=
  ∀ text, ReadsAt language stop read text

/-- Any text at all. -/
def Anything (_ : List Char) : Prop := True

section

variable {language language₁ language₂ stop stop₁ stop₂ : List Char → Prop}
  {read : List Char → Option (α × List Char)}

theorem ReadsAt.weaken {language' stop' : List Char → Prop} (h : ReadsAt language stop read text)
    (wider : ∀ front, language front → language' front) (fewer : ∀ other, stop' other → stop other) :
    ReadsAt language' stop' read text := by
  intro value rest found
  obtain ⟨front, part, same, again⟩ := h found
  exact ⟨front, wider front part, same, fun other allowed => again other (fewer other allowed)⟩

theorem ReadsAt.filterMap (h : ReadsAt language stop read text) (f : α → Option β) :
    ReadsAt language stop (fun text => (read text).bind fun a => (f a.1).map (·, a.2)) text := by
  intro value rest found
  obtain ⟨⟨a, behind⟩, first, found⟩ := Option.bind_eq_some_iff.1 found
  obtain ⟨b, accepted, same⟩ := Option.map_eq_some_iff.1 found
  cases same
  obtain ⟨front, part, rfl, again⟩ := h first
  refine ⟨front, part, rfl, fun other allowed => ?_⟩
  simp only [again other allowed, Option.bind_some, accepted, Option.map_some]

theorem ReadsAt.map (h : ReadsAt language stop read text) (f : α → β) :
    ReadsAt language stop (fun text => (read text).map (Prod.map f id)) text := by
  intro value rest found
  obtain ⟨⟨a, behind⟩, first, same⟩ := Option.map_eq_some_iff.1 found
  cases same
  obtain ⟨front, part, rfl, again⟩ := h first
  exact ⟨front, part, rfl, fun other allowed =>
    congrArg (Option.map (Prod.map f id)) (again other allowed)⟩

/-- Two readers, one behind the other: the second one begins with what the first one asks for. -/
theorem ReadsAt.bind {next : α × List Char → Option (β × List Char)}
    (first : ReadsAt language₁ stop₁ read text)
    (second : ∀ a rest, read text = some (a, rest) →
      ReadsAt language₂ stop₂ (fun text => next (a, text)) rest)
    (joined : ∀ front back, language₁ front → language₂ back → language (front ++ back))
    (stops : ∀ back other, language₂ back → stop₁ (back ++ other)) :
    ReadsAt language stop₂ (fun text => (read text).bind next) text := by
  intro value rest found
  obtain ⟨⟨a, behind⟩, found, later⟩ := Option.bind_eq_some_iff.1 found
  obtain ⟨back, backPart, rfl, againBack⟩ := second a behind found later
  obtain ⟨front, frontPart, rfl, again⟩ := first found
  refine ⟨front ++ back, joined front back frontPart backPart, by rw [List.append_assoc], ?_⟩
  intro other allowed
  simp only [List.append_assoc]
  rw [again (back ++ other) (stops back other backPart)]
  exact againBack other allowed

end

/-! ## Words -/

theorem literal_eq_some_iff (word text rest : List Char) :
    (literal word text).toOption.map Subtype.val = some rest ↔ text = word ++ rest := by
  induction word generalizing text with
  | nil => simp [literal, Except.toOption]
  | cons c word ih =>
    cases text with
    | nil => simp [literal, Except.toOption]
    | cons d text =>
      rw [literal, List.cons_append, List.cons.injEq, ← ih text]
      by_cases same : d = c
      · simp only [same, if_true, true_and]
        cases literal word text <;> rfl
      · simp [same, Except.toOption]

/-! ## Strings -/

theorem isSome_hexValue_iff {c : Char} : (hexValue? c).isSome = true ↔ IsHexDigit c := by
  simp only [hexValue?, IsHexDigit, Bool.and_eq_true, decide_eq_true_eq]
  by_cases digit : '0' ≤ c ∧ c ≤ '9'
  · simp only [digit, and_self, if_true, Option.isSome_some, true_or]
  by_cases lower : 'a' ≤ c ∧ c ≤ 'f'
  · simp only [digit, lower, and_self, if_true, if_false, Option.isSome_some, true_or, or_true]
  by_cases upper : 'A' ≤ c ∧ c ≤ 'F'
  · simp only [digit, lower, upper, and_self, if_true, if_false, Option.isSome_some, or_true]
  · simp only [digit, lower, upper, if_false, Option.isSome_none, Bool.false_eq_true, or_self]

theorem isSome_simpleEscape_iff {c : Char} :
    (simpleEscape? c).isSome = true ↔ c ∈ ['"', '\\', '/', 'b', 'f', 'n', 'r', 't'] := by
  constructor
  · intro h
    unfold simpleEscape? at h
    split at h <;> first | decide | cases h
  · intro h
    simp only [List.mem_cons, List.not_mem_nil, or_false] at h
    rcases h with rfl | rfl | rfl | rfl | rfl | rfl | rfl | rfl <;> rfl

theorem isControl_eq_false_iff {c : Char} : isControl c = false ↔ 0x20 ≤ c.toNat := by
  simp [isControl]

/-- Four hexadecimal digits are read, and nothing behind them is looked at. -/
theorem outcome_hexQuad {n : Nat} (h : outcome (hexQuad text) = some (n, rest)) :
    ∃ a b c d, (∀ x ∈ [a, b, c, d], IsHexDigit x) ∧ text = a :: b :: c :: d :: rest ∧
      ∀ other, outcome (hexQuad (a :: b :: c :: d :: other)) = some (n, other) := by
  unfold hexQuad at h
  split at h
  · next a b c d behind =>
    cases ha : hexValue? a <;> cases hb : hexValue? b <;> cases hc : hexValue? c <;>
      cases hd : hexValue? d <;> simp only [ha, hb, hc, hd, outcome_error, reduceCtorEq] at h
    cases h
    refine ⟨a, b, c, d, ?_, rfl, fun other => by simp only [hexQuad, ha, hb, hc, hd, outcome_ok]⟩
    simp only [List.forall_mem_cons, ← isSome_hexValue_iff, ha, hb, hc, hd, Option.isSome_some,
      List.not_mem_nil, false_implies, implies_true, and_self]
  · cases h

theorem outcome_hexQuad_of_digits {a b c d : Char} (h : ∀ x ∈ [a, b, c, d], IsHexDigit x)
    (rest : List Char) :
    ∃ n, outcome (hexQuad (a :: b :: c :: d :: rest)) = some (n, rest) := by
  simp only [List.forall_mem_cons, ← isSome_hexValue_iff, Option.isSome_iff_exists] at h
  obtain ⟨⟨_, ha⟩, ⟨_, hb⟩, ⟨_, hc⟩, ⟨_, hd⟩, -⟩ := h
  simp only [hexQuad, ha, hb, hc, hd, outcome_ok]
  exact ⟨_, rfl⟩

/-- A string is skipped whatever stands behind it. -/
theorem outcome_skipString_append {quoted : List Char} (h : IsQuoted quoted) (rest : List Char) :
    outcome (skipString (quoted ++ rest)) = some ((), rest) := by
  induction h with
  | closed => rw [List.cons_append, outcome_skipString, if_pos rfl, List.nil_append]
  | plain unquoted unescaped printable _ ih =>
    rw [List.cons_append, outcome_skipString, if_neg unquoted, if_neg unescaped,
      if_neg (by rw [isControl_eq_false_iff.2 printable]; decide), ih]
  | @letter c later letter _ ih =>
    obtain ⟨d, simple⟩ := Option.isSome_iff_exists.1 (isSome_simpleEscape_iff.2 letter)
    have escape : outcome (skipEscape (c :: (later ++ rest))) = some ((), later ++ rest) := by
      rw [skipEscape]
      · simp only [simple, outcome_ok]
      · rintro rfl
        cases simple
    rw [List.cons_append, List.cons_append, outcome_skipString, if_neg (by decide), if_pos rfl,
      escape, Option.bind_some, ih]
  | @unicode a b c d later digits _ ih =>
    obtain ⟨n, quad⟩ := outcome_hexQuad_of_digits digits (later ++ rest)
    rw [List.cons_append, outcome_skipString, if_neg (by decide), if_pos rfl]
    simp only [List.cons_append, outcome_skipEscape_unicode, quad, Option.map_some,
      Option.bind_some, ih]

/-- An escape that is skipped is one that may stand in a string. -/
theorem exists_of_skipEscape (h : outcome (skipEscape text) = some ((), rest)) :
    ∃ front, text = front ++ rest ∧
      ∀ later, IsQuoted later → IsQuoted ('\\' :: (front ++ later)) := by
  unfold skipEscape at h
  split at h
  · cases h
  · next behind =>
    obtain ⟨parsed, quad, ⟨⟩⟩ := outcome_bind_eq_some_iff.1 h
    have found : outcome (hexQuad behind) = some (parsed.value, parsed.rest) := by rw [quad]; rfl
    obtain ⟨a, b, c, d, digits, same, -⟩ := outcome_hexQuad found
    exact ⟨['u', a, b, c, d], congrArg ('u' :: ·) same, fun later quoted => .unicode digits quoted⟩
  · next c behind _ =>
    split at h
    · next simple =>
      cases h
      have letter := isSome_simpleEscape_iff.1 (Option.isSome_iff_exists.2 ⟨_, simple⟩)
      exact ⟨[c], rfl, fun later quoted => .letter letter quoted⟩
    · cases h

/-- What is skipped as a string is one. -/
theorem exists_isQuoted {text rest : List Char}
    (h : outcome (skipString text) = some ((), rest)) :
    ∃ quoted, IsQuoted quoted ∧ text = quoted ++ rest := by
  match text, h with
  | [], h => rw [skipString] at h; cases h
  | c :: text, h =>
    rw [outcome_skipString] at h
    split at h
    · next closing =>
      cases h
      exact ⟨['"'], .closed, by rw [closing]; rfl⟩
    · next unquoted =>
      split at h
      · next escaping =>
        subst escaping
        obtain ⟨⟨⟨⟩, behind⟩, found, later⟩ := Option.bind_eq_some_iff.1 h
        have shorter := length_lt_of_outcome found
        obtain ⟨front, rfl, escaped⟩ := exists_of_skipEscape found
        obtain ⟨quoted, isQuoted, rfl⟩ := exists_isQuoted later
        exact ⟨_, escaped quoted isQuoted, by simp⟩
      · next unescaped =>
        split at h
        · cases h
        · next printable =>
          obtain ⟨quoted, isQuoted, rfl⟩ := exists_isQuoted h
          rw [Bool.not_eq_true, isControl_eq_false_iff] at printable
          exact ⟨c :: quoted, .plain unquoted unescaped printable isQuoted, rfl⟩
termination_by text.length
decreasing_by all_goals (simp only [List.length_cons]; omega)

/-! ### The value of a string -/

/-- The second half of a pair of surrogates. -/
def secondHalf? (leading : Nat) : List Char → Option (Char × List Char)
  | '\\' :: 'u' :: text =>
    (outcome (hexQuad text)).bind fun second =>
      if isTrailing second.1 then some (fromPair leading second.1, second.2) else none
  | _ => none

/-- The character of an escape from behind the number of its first half. -/
def escapeFrom? (first : Nat) (text : List Char) : Option (Char × List Char) :=
  if isTrailing first then none
  else if isLeading first then secondHalf? first text
  else some (Char.ofNat first, text)

theorem outcome_unicodeEscape (text : List Char) :
    outcome (unicodeEscape text) =
      (outcome (hexQuad text)).bind fun first => escapeFrom? first.1 first.2 := by
  unfold unicodeEscape
  cases hexQuad text with
  | error e => rfl
  | ok first =>
    simp only [bind, Except.bind, outcome_ok, Option.bind_some, escapeFrom?]
    split
    · rfl
    · split
      · split
        · next blank => rw [blank]; rfl
        · next single => rw [single]; rfl
        · next behind pair =>
          refine Eq.trans ?_ (congrArg (secondHalf? first.value) pair).symm
          rw [secondHalf?]
          cases hexQuad behind with
          | error e => rfl
          | ok second =>
            simp only [outcome_ok, Option.bind_some]
            split <;> simp only [outcome_ok, outcome_error]
        · next other =>
          unfold secondHalf?
          split
          · next pair => exact (other _ pair).elim
          · rfl
      · rfl

theorem reads_hexQuad : Reads Anything Anything fun text => outcome (hexQuad text) := by
  intro text n rest h
  obtain ⟨a, b, c, d, -, rfl, again⟩ := outcome_hexQuad h
  exact ⟨[a, b, c, d], trivial, rfl, fun other _ => again other⟩

theorem reads_secondHalf (leading : Nat) : Reads Anything Anything (secondHalf? leading) := by
  intro text c rest h
  unfold secondHalf? at h
  split at h
  · next text =>
    obtain ⟨⟨n, behind⟩, quad, found⟩ := Option.bind_eq_some_iff.1 h
    obtain ⟨front, -, rfl, again⟩ := reads_hexQuad text quad
    split at found
    · next trailing =>
      obtain ⟨rfl, rfl⟩ := Prod.mk.inj (Option.some.inj found)
      refine ⟨'\\' :: 'u' :: front, trivial, rfl, fun other allowed => ?_⟩
      have second := again other allowed
      simp only [List.cons_append, secondHalf?, second, Option.bind_some, trailing, if_true]
    · cases found
  · cases h

/-- Nothing is read, and so it is whatever stands there. -/
theorem readsAt_pure (a : α) (text : List Char) :
    ReadsAt Anything Anything (fun text => some (a, text)) text := by
  intro value rest found
  cases found
  exact ⟨[], trivial, rfl, fun _ _ => rfl⟩

theorem reads_escapeFrom (first : Nat) : Reads Anything Anything (escapeFrom? first) := by
  intro text
  unfold escapeFrom?
  by_cases trailing : isTrailing first = true
  · simp only [trailing, if_true]
    exact nofun
  · by_cases leading : isLeading first = true
    · simp only [trailing, leading, if_true]
      exact reads_secondHalf first text
    · simp only [trailing, leading]
      exact readsAt_pure (Char.ofNat first) text

theorem reads_unicodeEscape : Reads Anything Anything fun text => outcome (unicodeEscape text) := by
  intro text
  rw [funext outcome_unicodeEscape]
  exact (reads_hexQuad text).bind (fun n behind _ => reads_escapeFrom n behind)
    (fun _ _ _ _ => trivial) fun _ _ _ => trivial

theorem outcome_escape_unicode (text : List Char) :
    outcome (escape ('u' :: text)) = outcome (unicodeEscape text) := by
  rw [escape]
  cases unicodeEscape text <;> rfl

theorem outcome_escape_letter {c : Char} (h : c ≠ 'u') (text : List Char) :
    outcome (escape (c :: text)) = (simpleEscape? c).map (·, text) := by
  rw [escape]
  · cases simpleEscape? c <;> rfl
  · exact h

theorem reads_escape : Reads Anything Anything fun text => outcome (escape text) := by
  intro text c rest (h : outcome (escape text) = some (c, rest))
  cases text with
  | nil => cases h
  | cons d text =>
    by_cases unicode : d = 'u'
    · subst unicode
      rw [outcome_escape_unicode] at h
      obtain ⟨front, -, rfl, again⟩ := reads_unicodeEscape text h
      refine ⟨'u' :: front, trivial, rfl, fun other allowed => ?_⟩
      exact (outcome_escape_unicode _).trans (again other allowed)
    · rw [outcome_escape_letter unicode] at h
      obtain ⟨_, simple, same⟩ := Option.map_eq_some_iff.1 h
      cases same
      refine ⟨[d], trivial, rfl, fun other _ => (outcome_escape_letter unicode other).trans ?_⟩
      rw [simple]
      rfl

/-- The induction is on the text; the characters before this one only gather in `done`. -/
theorem readsAt_readString (done text : List Char) :
    ReadsAt Anything Anything (fun text => outcome (readString done text)) text := by
  intro s rest (h : outcome (readString done text) = some (s, rest))
  match text, h with
  | [], h => rw [readString] at h; cases h
  | c :: text, h =>
    rw [outcome_readString] at h
    split at h
    · next closing =>
      cases h
      refine ⟨[c], trivial, rfl, fun other _ => (outcome_readString done c other).trans ?_⟩
      rw [if_pos closing]
    · next unquoted =>
      split at h
      · next escaping =>
        obtain ⟨⟨d, behind⟩, found, later⟩ := Option.bind_eq_some_iff.1 h
        have shorter := length_lt_of_outcome found
        obtain ⟨front, -, rfl, again⟩ := reads_escape text found
        obtain ⟨back, -, rfl, againBack⟩ := readsAt_readString (d :: done) behind later
        refine ⟨c :: (front ++ back), trivial, by simp, fun other _ =>
          (outcome_readString done c _).trans ?_⟩
        have first : outcome (escape (front ++ (back ++ other))) = some (d, back ++ other) :=
          again (back ++ other) trivial
        rw [if_neg unquoted, if_pos escaping, List.append_eq, List.append_assoc, first,
          Option.bind_some]
        exact againBack other trivial
      · next unescaped =>
        split at h
        · cases h
        · next printable =>
          obtain ⟨back, -, rfl, againBack⟩ := readsAt_readString (c :: done) text h
          refine ⟨c :: back, trivial, rfl, fun other _ => (outcome_readString done c _).trans ?_⟩
          rw [if_neg unquoted, if_neg unescaped, if_neg printable]
          exact againBack other trivial
termination_by text.length
decreasing_by all_goals (simp only [List.length_cons]; omega)

theorem reads_readString (done : List Char) :
    Reads IsQuoted Anything fun text => outcome (readString done text) := by
  intro text s rest h
  obtain ⟨front, -, same, again⟩ := readsAt_readString done text h
  obtain ⟨quoted, isQuoted, same'⟩ := exists_isQuoted (outcome_skipString_of_readString h)
  obtain rfl := List.append_cancel_right (same.symm.trans same')
  exact ⟨front, isQuoted, same, again⟩

end TypedHub.Json
