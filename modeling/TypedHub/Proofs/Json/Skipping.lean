import TypedHub.Proofs.Json.Grammar
import TypedHub.Proofs.Json.Outcome

/-!
# What can be read can be skipped

`skip` knows less than `readValue` of the value that it goes past, and so it lets more texts pass.
But where a value has been read, both leave the same rest. What is still to come of a skipped value
is held in the brackets that are open: `behindItem` says how it goes on behind an item of the
innermost one.
-/

namespace TypedHub.Json

/-! ## Strings -/

theorem outcome_readString (done : List Char) (c : Char) (text : List Char) :
    outcome (readString done (c :: text)) =
      if c = '"' then some (String.ofList done.reverse, text)
      else if c = '\\' then
        (outcome (escape text)).bind fun escaped =>
          outcome (readString (escaped.1 :: done) escaped.2)
      else if isControl c then none
      else outcome (readString (c :: done) text) := by
  rw [readString]
  split
  · rfl
  · split
    · cases escape text with
      | error e => rfl
      | ok escaped =>
        simp only [bind, Except.bind, outcome_ok, Option.bind_some]
        cases readString (escaped.value :: done) escaped.rest <;> rfl
    · split
      · rfl
      · cases readString (c :: done) text <;> rfl

theorem outcome_skipString (c : Char) (text : List Char) :
    outcome (skipString (c :: text)) =
      if c = '"' then some ((), text)
      else if c = '\\' then
        (outcome (skipEscape text)).bind fun escaped => outcome (skipString escaped.2)
      else if isControl c then none
      else outcome (skipString text) := by
  rw [skipString]
  split
  · rfl
  · split
    · cases skipEscape text with
      | error e => rfl
      | ok escaped =>
        simp only [bind, Except.bind, outcome_ok, Option.bind_some]
        cases skipString escaped.rest <;> rfl
    · split
      · rfl
      · cases skipString text <;> rfl

theorem outcome_skipEscape_unicode (text : List Char) :
    outcome (skipEscape ('u' :: text)) = (outcome (hexQuad text)).map fun quad => ((), quad.2) := by
  rw [skipEscape]
  cases hexQuad text <;> rfl

/-- The second escape of a pair is an escape of its own for whoever skips the string. -/
theorem outcome_skipString_unicode {text rest : List Char} {c : Char}
    (h : outcome (unicodeEscape text) = some (c, rest)) :
    outcome (skipString ('\\' :: 'u' :: text)) = outcome (skipString rest) := by
  rw [outcome_skipString, if_neg (by decide), if_pos rfl, outcome_skipEscape_unicode]
  unfold unicodeEscape at h
  obtain ⟨quad, first, h⟩ := outcome_bind_eq_some_iff.1 h
  simp only [first, outcome_ok, Option.map_some, Option.bind_some]
  split at h
  · cases h
  · split at h
    · split at h
      · cases h
      · cases h
      · next behind found =>
        -- The second half of the pair stands right behind the first.
        obtain ⟨quad', second, h⟩ := outcome_bind_eq_some_iff.1 h
        rw [found, outcome_skipString, if_neg (by decide), if_pos rfl, outcome_skipEscape_unicode,
          second]
        split at h
        · simp only [outcome_ok, Option.some.injEq, Prod.mk.injEq] at h
          obtain ⟨-, rfl⟩ := h
          rfl
        · cases h
      · cases h
    · cases h
      rfl

/-- A pair of surrogates is one escape for whoever reads the string and two for whoever skips it, so
the two are compared behind it. -/
theorem outcome_skipString_escape {text rest : List Char} {c : Char}
    (h : outcome (escape text) = some (c, rest)) :
    outcome (skipString ('\\' :: text)) = outcome (skipString rest) := by
  unfold escape at h
  split at h
  · cases h
  · next text =>
    apply outcome_skipString_unicode (c := c)
    obtain ⟨parsed, read, h⟩ := outcome_bind_eq_some_iff.1 h
    rw [read]
    exact h
  · next d text other =>
    split at h
    · next simple =>
      cases h
      rw [outcome_skipString, if_neg (by decide), if_pos rfl, skipEscape]
      · simp [simple]
      · exact other
    · cases h

theorem outcome_skipString_of_readString {done text rest : List Char} {s : String}
    (h : outcome (readString done text) = some (s, rest)) :
    outcome (skipString text) = some ((), rest) := by
  match text, h with
  | [], h => rw [readString] at h; cases h
  | c :: text, h =>
    rw [outcome_readString] at h
    split at h
    · next closing =>
      cases h
      rw [outcome_skipString, if_pos closing]
    · split at h
      · next escaping =>
        subst escaping
        obtain ⟨⟨escaped, behind⟩, found, h⟩ := Option.bind_eq_some_iff.1 h
        have shorter := length_lt_of_outcome found
        rw [outcome_skipString_escape found]
        exact outcome_skipString_of_readString h
      · next closing escaping =>
        split at h
        · cases h
        · next printable =>
          rw [outcome_skipString, if_neg closing, if_neg escaping, if_neg printable]
          exact outcome_skipString_of_readString h
termination_by text.length
decreasing_by all_goals (simp only [List.length_cons]; omega)

/-! ## Scalars -/

theorem outcome_readNumber (text : List Char) :
    outcome (readNumber text) =
      (outcome (numberText text)).bind fun number =>
        (number.1.value.toOption).map (·, number.2) := by
  unfold readNumber
  cases numberText text with
  | error e => rfl
  | ok parsed =>
    simp only [bind, Except.bind, outcome_ok, Option.bind_some]
    cases parsed.value.value <;> rfl

theorem outcome_skipNumber (text : List Char) :
    outcome (skipNumber text) = (outcome (numberText text)).map fun number => ((), number.2) := by
  unfold skipNumber
  cases numberText text <;> rfl

theorem outcome_skipNumber_of_readNumber {text rest : List Char} {n : Number}
    (h : outcome (readNumber text) = some (n, rest)) :
    outcome (skipNumber text) = some ((), rest) := by
  rw [outcome_readNumber] at h
  obtain ⟨⟨number, _⟩, cut, valued⟩ := Option.bind_eq_some_iff.1 h
  obtain ⟨_, _, same⟩ := Option.map_eq_some_iff.1 valued
  cases same
  rw [outcome_skipNumber, cut]
  rfl

/-- What an opening bracket is the head of. -/
def Bracket.head : Bracket → Head
  | square => .list
  | curly => .object

/-- The scalar that begins with the character. -/
def scalarFrom? (c : Char) (behind : List Char) : Option (Json × List Char) :=
  if c = 'n' then ((literal ['u', 'l', 'l'] behind).toOption.map Subtype.val).map (.null, ·)
  else if c = 't' then
    ((literal ['r', 'u', 'e'] behind).toOption.map Subtype.val).map (.bool true, ·)
  else if c = 'f' then
    ((literal ['a', 'l', 's', 'e'] behind).toOption.map Subtype.val).map (.bool false, ·)
  else if c = '"' then (outcome (readString [] behind)).map (Prod.map .string id)
  else if c = '-' || c.isDigit then (outcome (readNumber (c :: behind))).map (Prod.map .number id)
  else none

theorem outcome_readHead {text behind : List Char} {c : Char}
    (front : skipBlanks text = c :: behind) :
    outcome (readHead text) =
      match Bracket.opened? c with
      | some bracket => some (bracket.head, behind)
      | none => (scalarFrom? c behind).map (Prod.map .scalar id) := by
  unfold readHead
  split
  · next blank => simp [blank] at front
  · next front' =>
    cases front.symm.trans front'
    cases opened : Bracket.opened? c with
    | some bracket =>
      obtain rfl := Bracket.opened_eq_some_iff.1 opened
      cases bracket <;> rfl
    | none =>
      have noList : c ≠ '[' := by rintro rfl; cases opened
      have noObject : c ≠ '\x7b' := by rintro rfl; cases opened
      simp only [scalarFrom?, noList, noObject, if_false]
      -- The cases are those of `readHead`, in its order.
      by_cases isNull : c = 'n'
      · simp only [isNull, if_true]
        cases literal ['u', 'l', 'l'] behind <;> rfl
      by_cases isTrue : c = 't'
      · simp only [isTrue, if_true, if_false, Char.reduceEq]
        cases literal ['r', 'u', 'e'] behind <;> rfl
      by_cases isFalse : c = 'f'
      · simp only [isFalse, if_true, if_false, Char.reduceEq]
        cases literal ['a', 'l', 's', 'e'] behind <;> rfl
      by_cases isString : c = '"'
      · simp only [isString, if_true, if_false, Char.reduceEq]
        cases readString [] behind <;> rfl
      simp only [isNull, isTrue, isFalse, isString, if_false]
      by_cases begins : (c = '-' || c.isDigit) = true
      · simp only [begins, if_true]
        cases readNumber (c :: behind) <;> rfl
      · simp only [begins]
        rfl

/-- Null, a boolean or a number. -/
def IsPlain : Json → Prop
  | null | bool _ | number _ => True
  | _ => False

/-- What stands at the front of a text whose head has been read. Of a scalar that is no string only
its end is of interest. -/
inductive HeadAt (text : List Char) : Head → List Char → Prop
  | string {quoted rest : List Char} {s : String} (front : skipBlanks text = '"' :: quoted)
      (read : outcome (readString [] quoted) = some (s, rest)) : HeadAt text (.scalar (.string s)) rest
  | plain {c : Char} {behind rest : List Char} {value : Json}
      (front : skipBlanks text = c :: behind) (unquoted : c ≠ '"')
      (unopened : Bracket.opened? c = none)
      (skipped : (skipScalar c behind).toOption.map Subtype.val = some rest)
      (isPlain : IsPlain value) : HeadAt text (.scalar value) rest
  | list {rest : List Char} (front : skipBlanks text = '[' :: rest) : HeadAt text .list rest
  | object {rest : List Char} (front : skipBlanks text = '\x7b' :: rest) : HeadAt text .object rest

section

variable {text behind rest : List Char} {c : Char}

theorem ne_of_numberFront (begins : (c = '-' || c.isDigit) = true) {d : Char}
    (h : (d = '-' || d.isDigit) = false) : c ≠ d := by
  rintro rfl
  rw [h] at begins
  cases begins

theorem opened_numberFront (begins : (c = '-' || c.isDigit) = true) : Bracket.opened? c = none := by
  simp only [Bracket.opened?, ne_of_numberFront begins (d := '[') rfl,
    ne_of_numberFront begins (d := '\x7b') rfl, if_false]

theorem skipScalar_string (behind : List Char) :
    (skipScalar '"' behind).toOption.map Subtype.val =
      (outcome (skipString behind)).map Prod.snd := by
  simp only [skipScalar, if_true, if_false, Char.reduceEq]
  cases skipString behind <;> rfl

theorem skipScalar_number (begins : (c = '-' || c.isDigit) = true) :
    (skipScalar c behind).toOption.map Subtype.val =
      (outcome (skipNumber (c :: behind))).map Prod.snd := by
  have other := fun d => ne_of_numberFront begins (d := d)
  simp only [skipScalar, other 'n' rfl, other 't' rfl, other 'f' rfl, other '"' rfl, begins,
    if_true, if_false]
  cases skipNumber (c :: behind) <;> rfl

/-- A scalar is skipped as it is read. -/
theorem headAt_of_scalarFrom {value : Json} (front : skipBlanks text = c :: behind)
    (unopened : Bracket.opened? c = none) (h : scalarFrom? c behind = some (value, rest)) :
    HeadAt text (.scalar value) rest := by
  unfold scalarFrom? at h
  by_cases isNull : c = 'n'
  · subst isNull
    obtain ⟨_, found, same⟩ := Option.map_eq_some_iff.1 h
    cases same
    exact .plain front (by decide) unopened found trivial
  by_cases isTrue : c = 't'
  · subst isTrue
    obtain ⟨_, found, same⟩ := Option.map_eq_some_iff.1 h
    cases same
    exact .plain front (by decide) unopened found trivial
  by_cases isFalse : c = 'f'
  · subst isFalse
    obtain ⟨_, found, same⟩ := Option.map_eq_some_iff.1 h
    cases same
    exact .plain front (by decide) unopened found trivial
  by_cases isString : c = '"'
  · subst isString
    obtain ⟨⟨s, _⟩, read, same⟩ := Option.map_eq_some_iff.1 h
    cases same
    exact .string front read
  simp only [isNull, isTrue, isFalse, isString, if_false] at h
  by_cases begins : (c = '-' || c.isDigit) = true
  · rw [if_pos begins] at h
    obtain ⟨⟨n, _⟩, read, same⟩ := Option.map_eq_some_iff.1 h
    cases same
    refine .plain front isString unopened ?_ trivial
    rw [skipScalar_number begins, outcome_skipNumber_of_readNumber read]
    rfl
  · rw [if_neg begins] at h
    cases h

theorem headAt_of_outcome {head : Head} (h : outcome (readHead text) = some (head, rest)) :
    HeadAt text head rest := by
  cases front : skipBlanks text with
  | nil =>
    unfold readHead at h
    split at h <;> simp_all
  | cons c behind =>
    rw [outcome_readHead front] at h
    cases opened : Bracket.opened? c with
    | some bracket =>
      obtain rfl := Bracket.opened_eq_some_iff.1 opened
      rw [opened] at h
      cases bracket with
      | square => cases h; exact .list front
      | curly => cases h; exact .object front
    | none =>
      rw [opened] at h
      obtain ⟨⟨value, _⟩, found, same⟩ := Option.map_eq_some_iff.1 h
      cases same
      exact headAt_of_scalarFrom front opened found

end

/-- A scalar is no list and no object. -/
theorem ne_of_readHead_scalar {text rest : List Char} {value : Json}
    (h : outcome (readHead text) = some (.scalar value, rest)) :
    (∀ items, value ≠ .array items) ∧ ∀ members, value ≠ .object members := by
  cases headAt_of_outcome h with
  | string => exact ⟨nofun, nofun⟩
  | plain _ _ _ _ isPlain => constructor <;> (rintro _ rfl; exact isPlain)

/-! ## Brackets -/

/-- How skipping goes on behind an item of the innermost of the open brackets. -/
def behindItem : List Bracket → List Char → Option (Unit × List Char)
  | [], text => some ((), text)
  | bracket :: others, text => outcome (skipFollowing bracket others text)

section

variable {text behind rest item : List Char} {c : Char} {bracket : Bracket}

/-- A bracket is closed, and skipping goes on behind it as behind an item. -/
theorem outcome_closed (shorter : rest.length < text.length) (openBrackets : List Bracket) :
    outcome (match openBrackets with
      | [] => .ok ⟨(), rest, shorter⟩
      | outer :: others => do
        let parsed ← skipFollowing outer others rest
        .ok (parsed.behind shorter) : Except SyntaxError (Parsed Unit text)) =
      behindItem openBrackets rest := by
  cases openBrackets with
  | nil => rfl
  | cons outer others =>
    simp only [behindItem]
    cases skipFollowing outer others rest <;> rfl

theorem outcome_skipValue_unopened (front : skipBlanks text = c :: behind)
    (unopened : Bracket.opened? c = none) (openBrackets : List Bracket) :
    outcome (skipValue openBrackets text) =
      ((skipScalar c behind).toOption.map Subtype.val).bind (behindItem openBrackets) := by
  rw [skipValue]
  split
  · next blank => simp [blank] at front
  · next front' =>
    cases front.symm.trans front'
    split
    · next opened => simp [opened] at unopened
    · cases skipScalar c behind with
      | error e => rfl
      | ok after =>
        simp only [bind, Except.bind, Except.toOption, Option.map_some, Option.bind_some]
        cases openBrackets with
        | nil => rfl
        | cons bracket others =>
          simp only [behindItem]
          cases skipFollowing bracket others after.1 <;> rfl

theorem outcome_skipValue_scalar (front : skipBlanks text = c :: behind)
    (unopened : Bracket.opened? c = none)
    (skipped : (skipScalar c behind).toOption.map Subtype.val = some rest)
    (openBrackets : List Bracket) :
    outcome (skipValue openBrackets text) = behindItem openBrackets rest := by
  rw [outcome_skipValue_unopened front unopened, skipped, Option.bind_some]

theorem outcome_skipValue_opened (front : skipBlanks text = c :: behind)
    (opened : Bracket.opened? c = some bracket) (openBrackets : List Bracket) :
    outcome (skipValue openBrackets text) = outcome (skipOpened bracket openBrackets behind) := by
  rw [skipValue]
  split
  · next blank => simp [blank] at front
  · next front' =>
    cases front.symm.trans front'
    simp only [opened]
    cases skipOpened bracket openBrackets behind <;> rfl

theorem outcome_skipOpened_closed (bracket : Bracket)
    (front : skipBlanks text = bracket.closing :: rest)
    (openBrackets : List Bracket) :
    outcome (skipOpened bracket openBrackets text) = behindItem openBrackets rest := by
  rw [skipOpened]
  split
  · next blank => simp [blank] at front
  · next front' =>
    cases front.symm.trans front'
    simp only [if_true]
    exact outcome_closed _ openBrackets

theorem outcome_skipOpened_label (bracket : Bracket) (front : skipBlanks text = c :: behind)
    (notClosed : c ≠ bracket.closing) (openBrackets : List Bracket) :
    outcome (skipOpened bracket openBrackets text) =
      ((bracket.skipLabel text).toOption.map Subtype.val).bind fun item =>
        outcome (skipValue (bracket :: openBrackets) item) := by
  rw [skipOpened]
  split
  · next blank => simp [blank] at front
  · next front' =>
    cases front.symm.trans front'
    simp only [notClosed, if_false]
    cases bracket.skipLabel text with
    | error e => rfl
    | ok start =>
      simp only [bind, Except.bind, Except.toOption, Option.map_some, Option.bind_some]
      cases skipValue (bracket :: openBrackets) start.1 <;> rfl

theorem outcome_skipOpened_item (bracket : Bracket) (front : skipBlanks text = c :: behind)
    (notClosed : c ≠ bracket.closing)
    (label : (bracket.skipLabel text).toOption.map Subtype.val = some item)
    (openBrackets : List Bracket) :
    outcome (skipOpened bracket openBrackets text) =
      outcome (skipValue (bracket :: openBrackets) item) := by
  rw [outcome_skipOpened_label bracket front notClosed, label, Option.bind_some]

theorem Bracket.closing_ne_comma (bracket : Bracket) : bracket.closing ≠ ',' := by
  cases bracket <;> decide

/-- Behind an item stands the closing bracket, a comma, or nothing that may stand there. -/
theorem outcome_skipFollowing (bracket : Bracket) (front : skipBlanks text = c :: behind)
    (openBrackets : List Bracket) :
    outcome (skipFollowing bracket openBrackets text) =
      if c = ',' then
        ((bracket.skipLabel behind).toOption.map Subtype.val).bind fun item =>
          outcome (skipValue (bracket :: openBrackets) item)
      else if c = bracket.closing then behindItem openBrackets behind
      else none := by
  rw [skipFollowing]
  split
  · next blank => simp [blank] at front
  · next front' =>
    cases front.symm.trans front'
    by_cases comma : c = ','
    · simp only [comma, if_true]
      cases bracket.skipLabel behind with
      | error e => rfl
      | ok start =>
        simp only [bind, Except.bind, Except.toOption, Option.map_some, Option.bind_some]
        cases skipValue (bracket :: openBrackets) start.1 <;> rfl
    · by_cases closed : c = bracket.closing
      · simp only [closed, bracket.closing_ne_comma, if_true, if_false]
        exact outcome_closed _ openBrackets
      · simp only [comma, closed, if_false, outcome_error]

theorem outcome_skipFollowing_closed (bracket : Bracket)
    (h : onward? bracket.closing text = some (.closed rest))
    (openBrackets : List Bracket) :
    outcome (skipFollowing bracket openBrackets text) = behindItem openBrackets rest := by
  rw [outcome_skipFollowing bracket (skipBlanks_of_closed h), if_neg bracket.closing_ne_comma,
    if_pos rfl]

theorem outcome_skipFollowing_more (bracket : Bracket) {next : List Char}
    (h : onward? bracket.closing text = some (.more next))
    (label : (bracket.skipLabel next).toOption.map Subtype.val = some item)
    (openBrackets : List Bracket) :
    outcome (skipFollowing bracket openBrackets text) =
      outcome (skipValue (bracket :: openBrackets) item) := by
  rw [outcome_skipFollowing bracket (skipBlanks_of_more h).1, if_pos rfl, label, Option.bind_some]

theorem outcome_skipKey (text : List Char) :
    outcome (skipKey text) =
      match skipBlanks text with
      | '"' :: quoted =>
        (outcome (skipString quoted)).bind fun key => (behindColon? key.2).map ((), ·)
      | _ => none := by
  unfold skipKey
  split
  · next blank => rw [blank]; rfl
  · next quoted quote =>
    simp only [quote]
    cases skipString quoted with
    | error e => rfl
    | ok key =>
      simp only [bind, Except.bind, outcome_ok, Option.bind_some, behindColon?]
      split <;> simp_all
  · next other =>
    split
    · next quote => exact (other _ quote).elim
    · rfl

theorem skipLabel_curly (text : List Char) :
    (Bracket.curly.skipLabel text).toOption.map Subtype.val =
      (outcome (skipKey text)).map Prod.snd := by
  simp only [Bracket.skipLabel]
  cases skipKey text <;> rfl

/-- The key of a member is skipped with its colon. -/
theorem skipLabel_of_label {key : String} (h : label? text = some (key, item)) :
    (Bracket.curly.skipLabel text).toOption.map Subtype.val = some item := by
  obtain ⟨quoted, behind, quote, read, colon⟩ := label_eq_some h
  simp only [skipLabel_curly, outcome_skipKey, quote, outcome_skipString_of_readString read,
    Option.bind_some, behindColon?, colon]
  rfl

end

/-! ## Values -/

/-- Where the reader reads an item, skipping gets past it to the same rest. -/
def Skippable (reader : TextReader α) : Prop :=
  ∀ text value rest, outcome (reader text) = some (value, rest) →
    ∀ openBrackets, outcome (skipValue openBrackets text) = behindItem openBrackets rest

variable {reader : TextReader Json} {text rest : List Char}

theorem ItemsAt.outcome_skipValue {items : List Json} (h : ItemsAt reader text items rest)
    (skippable : Skippable reader) (openBrackets : List Bracket) :
    outcome (skipValue (.square :: openBrackets) text) = behindItem openBrackets rest := by
  induction h with
  | last read closed =>
    rw [skippable _ _ _ read, behindItem, outcome_skipFollowing_closed .square closed]
  | more read more _ ih =>
    rw [skippable _ _ _ read, behindItem, outcome_skipFollowing_more .square more rfl, ih]

theorem MembersAt.outcome_skipValue {members : List (String × Json)}
    (h : MembersAt reader text members rest) (skippable : Skippable reader)
    (openBrackets : List Bracket) :
    ∃ item, (Bracket.curly.skipLabel text).toOption.map Subtype.val = some item ∧
      outcome (skipValue (.curly :: openBrackets) item) = behindItem openBrackets rest := by
  induction h with
  | last label read closed =>
    refine ⟨_, skipLabel_of_label label, ?_⟩
    rw [skippable _ _ _ read, behindItem, outcome_skipFollowing_closed .curly closed]
  | more label read more _ ih =>
    refine ⟨_, skipLabel_of_label label, ?_⟩
    obtain ⟨item, start, later⟩ := ih
    rw [skippable _ _ _ read, behindItem, outcome_skipFollowing_more .curly more start, later]

theorem outcome_skipValue_of_scalar {value : Json}
    (h : outcome (readHead text) = some (.scalar value, rest)) (openBrackets : List Bracket) :
    outcome (skipValue openBrackets text) = behindItem openBrackets rest := by
  cases headAt_of_outcome h with
  | string front read =>
    refine outcome_skipValue_scalar front rfl ?_ openBrackets
    rw [skipScalar_string, outcome_skipString_of_readString read]
    rfl
  | plain front _ unopened skipped _ =>
    exact outcome_skipValue_scalar front unopened skipped openBrackets

theorem ListAt.outcome_skipOpened {items : List Json} (h : ListAt reader text items rest)
    (skippable : Skippable reader) (openBrackets : List Bracket) :
    outcome (skipOpened .square openBrackets text) = behindItem openBrackets rest := by
  cases h with
  | empty front => exact outcome_skipOpened_closed .square front openBrackets
  | items front notClosed read =>
    rw [outcome_skipOpened_item .square front notClosed rfl]
    exact read.outcome_skipValue skippable openBrackets

theorem ObjectAt.outcome_skipOpened {members : List (String × Json)}
    (h : ObjectAt reader text members rest) (skippable : Skippable reader)
    (openBrackets : List Bracket) :
    outcome (skipOpened .curly openBrackets text) = behindItem openBrackets rest := by
  cases h with
  | empty front => exact outcome_skipOpened_closed .curly front openBrackets
  | members front notClosed read =>
    obtain ⟨item, start, skipped⟩ := read.outcome_skipValue skippable openBrackets
    rw [outcome_skipOpened_item .curly front notClosed start, skipped]

/-- Where a value can be read, it can be skipped, whichever brackets are open around it. -/
theorem skippable_readValue (depth : Nat) : Skippable (readValue depth) := by
  induction depth with
  | zero =>
    intro text value rest h openBrackets
    cases valueAt_of_outcome h with
    | scalar head => exact outcome_skipValue_of_scalar head openBrackets
  | succ depth ih =>
    intro text value rest h openBrackets
    cases valueAt_of_outcome h with
    | scalar head => exact outcome_skipValue_of_scalar head openBrackets
    | array head read =>
      cases headAt_of_outcome head with
      | list front =>
        rw [outcome_skipValue_opened front rfl]
        exact (listAt_of_outcome read).outcome_skipOpened ih openBrackets
    | object head read =>
      cases headAt_of_outcome head with
      | object front =>
        rw [outcome_skipValue_opened front rfl]
        exact (objectAt_of_outcome read).outcome_skipOpened ih openBrackets

theorem outcome_skip {depth : Nat} {value : Json}
    (h : outcome (readValue depth text) = some (value, rest)) :
    outcome (skip text) = some ((), rest) := by
  rw [skip, outcome_atRoot, skippable_readValue depth text value rest h []]
  rfl

end TypedHub.Json
