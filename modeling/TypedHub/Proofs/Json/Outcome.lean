import TypedHub.Json.Document
import TypedHub.Proofs.Steps

/-!
# Outcomes of readers

Whether a text is accepted does not depend on the places and causes of faults. So each reader of a
list, an object or a value is described here by an equation for its `outcome`: what is read and what
is left of the text, or nothing. Lists and objects go on alike behind a part (`onward?`), and each
member of an object begins alike (`label?`), whatever the parts are and whoever reads them.

The equations say what a reader does with a given text. What a text is like that has been read is
said by relations: `ListAt` and `ObjectAt` for what stands behind an opening bracket, `ValueAt` for
a value.
-/

namespace TypedHub.Json

variable {ε α β σ : Type} {text : List Char}

/-! ## Outcomes -/

/-- What was read and what is left of the text; nothing where there was a fault. -/
def outcome : Except ε (Parsed α text) → Option (α × List Char)
  | .ok parsed => some (parsed.value, parsed.rest)
  | .error _ => none

@[simp]
theorem outcome_ok (parsed : Parsed α text) :
    outcome (.ok parsed : Except ε _) = some (parsed.value, parsed.rest) := rfl

@[simp]
theorem outcome_error (e : ε) : outcome (.error e : Except ε (Parsed α text)) = none := rfl

@[simp]
theorem outcome_malformed (error : SyntaxError) :
    outcome (malformed error : Except Fault (Parsed α text)) = none := rfl

@[simp]
theorem outcome_under (step : Step) (result : Except Fault (Parsed α text)) :
    outcome (under step result) = outcome result := by
  cases result <;> rfl

@[simp]
theorem outcome_atRoot (result : Except SyntaxError (Parsed α text)) :
    outcome (atRoot result) = outcome result := by
  cases result <;> rfl

@[simp]
theorem outcome_map (f : α → β) (reader : TextReader α) (text : List Char) :
    outcome (reader.map f text) = (outcome (reader text)).map (Prod.map f id) := by
  rw [TextReader.map]
  cases reader text <;> rfl

theorem outcome_bind_eq_some_iff {first : Except ε α} {next : α → Except ε (Parsed β text)}
    {found : β × List Char} :
    outcome (first >>= next) = some found ↔ ∃ a, first = .ok a ∧ outcome (next a) = some found := by
  cases first <;> simp [bind, Except.bind]

theorem toOption_eq_some_iff {result : Except ε α} {a : α} :
    result.toOption = some a ↔ result = .ok a := by
  cases result <;> simp [Except.toOption]

theorem toOption_bind (result : Except ε α) (next : α → Except ε β) :
    (result >>= next).toOption = result.toOption.bind fun a => (next a).toOption := by
  cases result <;> rfl

theorem outcome_eq_some_iff {result : Except ε (Parsed α text)} {value : α} {rest : List Char} :
    outcome result = some (value, rest) ↔ ∃ shorter, result = .ok ⟨value, rest, shorter⟩ := by
  cases result with
  | error e => simp
  | ok parsed =>
    obtain ⟨_, _, shorter⟩ := parsed
    simp only [outcome_ok, Option.some.injEq, Prod.mk.injEq, Except.ok.injEq, Parsed.mk.injEq,
      exists_prop, iff_and_self]
    rintro ⟨-, rfl⟩
    exact shorter

theorem length_lt_of_outcome {result : Except ε (Parsed α text)} {value : α} {rest : List Char}
    (h : outcome result = some (value, rest)) : rest.length < text.length :=
  (outcome_eq_some_iff.1 h).1

/-! ## Behind a part -/

/-- How a list or an object goes on behind one of its parts. -/
inductive Onward where
  | closed (rest : List Char)
  | more (rest : List Char)

/-- Behind a part stands the closing bracket, or a comma and another part. -/
def onward? (closing : Char) (text : List Char) : Option Onward :=
  match skipBlanks text with
  | [] => none
  | c :: rest =>
    if c = closing then some (.closed rest)
    else if c = ',' then
      match skipBlanks rest with
      | [] => none
      | d :: _ => if d = closing then none else some (.more rest)
    else none

theorem skipBlanks_of_closed {closing : Char} {rest : List Char}
    (h : onward? closing text = some (.closed rest)) : skipBlanks text = closing :: rest := by
  unfold onward? at h
  split at h
  · cases h
  · next c behind front =>
    split at h
    · next closed => cases h; rw [front, closed]
    · repeat' split at h
      all_goals cases h

theorem skipBlanks_of_more {closing : Char} {next : List Char}
    (h : onward? closing text = some (.more next)) :
    skipBlanks text = ',' :: next ∧ ∃ c behind, skipBlanks next = c :: behind ∧ c ≠ closing := by
  unfold onward? at h
  split at h
  · cases h
  · next front =>
    split at h
    · cases h
    · split at h
      · next comma =>
        split at h
        · cases h
        · next begin =>
          split at h
          · cases h
          · next notClosed =>
            cases h
            exact ⟨by rw [front, comma], _, _, begin, notClosed⟩
      · cases h

/-! ## Lists -/

theorem outcome_readItems (item : TextReader α) (position : Nat) (text : List Char) :
    outcome (readItems item position text) =
      (outcome (item text)).bind fun first =>
        (onward? ']' first.2).bind fun
          | .closed rest => some ([first.1], rest)
          | .more rest =>
            (outcome (readItems item (position + 1) rest)).map (Prod.map (first.1 :: ·) id) := by
  rw [readItems]
  cases item text with
  | error fault => rfl
  | ok first =>
    simp only [under, bind, Except.bind, outcome_ok, Option.bind_some, onward?]
    split
    · next blank => simp [blank]
    · next c rest found =>
      simp only [found]
      by_cases closed : c = ']'
      · simp [closed]
      · by_cases more : c = ','
        · subst more
          cases skipBlanks rest with
          | nil => simp
          | cons d tail =>
            by_cases trailing : d = ']'
            · simp [trailing]
            · cases others : readItems item (position + 1) rest <;>
                simp [trailing, others, Parsed.map, Parsed.behind, Parsed.from]
        · simp [closed, more]

theorem outcome_readList_closed (item : TextReader α) {rest : List Char}
    (front : skipBlanks text = ']' :: rest) : outcome (readList item text) = some ([], rest) := by
  unfold readList
  split <;> simp_all

theorem outcome_readList_items (item : TextReader α) {c : Char} {behind : List Char}
    (front : skipBlanks text = c :: behind) (notClosed : c ≠ ']') :
    outcome (readList item text) = outcome (readItems item 0 text) := by
  unfold readList
  split
  · next blank => simp [blank] at front
  · next closed =>
    cases front.symm.trans closed
    exact absurd rfl notClosed
  · rfl

/-! ## Objects -/

/-- What stands behind a colon. -/
def behindColon? (text : List Char) : Option (List Char) :=
  match skipBlanks text with
  | ':' :: rest => some rest
  | _ => none

theorem rest_readColon (text : List Char) :
    (readColon text).toOption.map Subtype.val = behindColon? text := by
  unfold readColon behindColon?
  split <;> simp_all [Except.toOption, malformed]

/-- The key of a member and what stands behind its colon. -/
def label? (text : List Char) : Option (String × List Char) :=
  match skipBlanks text with
  | '"' :: quoted =>
    (outcome (readString [] quoted)).bind fun key =>
      (behindColon? key.2).map fun rest => (key.1, rest)
  | _ => none

theorem label_eq_some {key : String} {rest : List Char} (h : label? text = some (key, rest)) :
    ∃ quoted behind, skipBlanks text = '"' :: quoted ∧
      outcome (readString [] quoted) = some (key, behind) ∧ skipBlanks behind = ':' :: rest := by
  unfold label? at h
  split at h
  · next quoted quote =>
    obtain ⟨⟨name, behind⟩, read, h⟩ := Option.bind_eq_some_iff.1 h
    obtain ⟨_, colon, same⟩ := Option.map_eq_some_iff.1 h
    cases same
    refine ⟨quoted, behind, quote, read, ?_⟩
    unfold behindColon? at colon
    split at colon
    · next front => cases colon; exact front
    · cases colon
  · cases h

theorem length_lt_of_label {key : String} {rest : List Char} (h : label? text = some (key, rest)) :
    rest.length < text.length := by
  obtain ⟨quoted, behind, quote, read, colon⟩ := label_eq_some h
  have := length_lt_of_quote quote
  have := length_lt_of_outcome read
  have := length_lt_of_skipBlanks colon
  omega

theorem outcome_readMembers (entry : σ → String → Except Fault (TextReader σ)) (state : σ)
    (text : List Char) :
    outcome (readMembers entry state text) =
      (label? text).bind fun label =>
        ((entry state label.1).toOption.bind fun reader => outcome (reader label.2)).bind
          fun member =>
            (onward? '\x7d' member.2).bind fun
              | .closed rest => some (member.1, rest)
              | .more rest => outcome (readMembers entry member.1 rest) := by
  rw [readMembers, label?]
  split
  · next quoted quote =>
    simp only [quote]
    cases readString [] quoted with
    | error e => rfl
    | ok key =>
      simp only [outcome_ok, Option.bind_some, ← rest_readColon, atRoot, under, bind, Except.bind]
      cases readColon key.rest with
      | error fault => cases entry state key.value <;> rfl
      | ok afterColon =>
        simp only [Except.toOption, Option.map_some, Option.bind_some]
        cases entry state key.value with
        | error fault => rfl
        | ok reader =>
          simp only [Option.bind_some]
          cases reader afterColon.1 with
          | error fault => rfl
          | ok member =>
            simp only [outcome_ok, Option.bind_some, onward?]
            split
            · next blank =>
              simp only [blank]
              rfl
            · next c rest found =>
              simp only [found]
              by_cases closed : c = '\x7d'
              · simp [closed]
              · by_cases more : c = ','
                · subst more
                  cases skipBlanks rest with
                  | nil => simp [malformedKey]
                  | cons d tail =>
                    by_cases trailing : d = '\x7d'
                    · simp [trailing, malformedKey]
                    · cases others : readMembers entry member.value rest <;>
                        simp [trailing, others, Parsed.behind, Parsed.from]
                · simp [closed, more, malformedKey]
  · next other =>
    split
    · next quote => exact (other _ quote).elim
    · rfl

theorem outcome_readObject_closed (entry : σ → String → Except Fault (TextReader σ)) (state : σ)
    {rest : List Char} (front : skipBlanks text = '\x7d' :: rest) :
    outcome (readObject entry state text) = some (state, rest) := by
  unfold readObject
  split <;> simp_all

theorem outcome_readObject_members (entry : σ → String → Except Fault (TextReader σ)) (state : σ)
    {c : Char} {behind : List Char} (front : skipBlanks text = c :: behind)
    (notClosed : c ≠ '\x7d') :
    outcome (readObject entry state text) = outcome (readMembers entry state text) := by
  unfold readObject
  split
  · next blank => simp [blank] at front
  · next closed =>
    cases front.symm.trans closed
    exact absurd rfl notClosed
  · rfl

/-! ## Texts of lists and objects -/

/-- The items from one of a list on: the text has been read up to behind the closing bracket. -/
inductive ItemsAt (item : TextReader α) : List Char → List α → List Char → Prop
  | last {text behind rest : List Char} {first : α}
      (read : outcome (item text) = some (first, behind))
      (closed : onward? ']' behind = some (.closed rest)) : ItemsAt item text [first] rest
  | more {text behind next rest : List Char} {first : α} {others : List α}
      (read : outcome (item text) = some (first, behind))
      (more : onward? ']' behind = some (.more next))
      (later : ItemsAt item next others rest) : ItemsAt item text (first :: others) rest

/-- The members from one of an object on. -/
inductive MembersAt (value : TextReader α) : List Char → List (String × α) → List Char → Prop
  | last {text begin behind rest : List Char} {key : String} {first : α}
      (label : label? text = some (key, begin))
      (read : outcome (value begin) = some (first, behind))
      (closed : onward? '\x7d' behind = some (.closed rest)) :
      MembersAt value text [(key, first)] rest
  | more {text begin behind next rest : List Char} {key : String} {first : α}
      {others : List (String × α)}
      (label : label? text = some (key, begin))
      (read : outcome (value begin) = some (first, behind))
      (more : onward? '\x7d' behind = some (.more next))
      (later : MembersAt value next others rest) :
      MembersAt value text ((key, first) :: others) rest

/-- All items of a list, from behind the opening bracket. -/
inductive ListAt (item : TextReader α) (text : List Char) : List α → List Char → Prop
  | empty {rest : List Char} (front : skipBlanks text = ']' :: rest) : ListAt item text [] rest
  | items {c : Char} {behind rest : List Char} {values : List α}
      (front : skipBlanks text = c :: behind) (notClosed : c ≠ ']')
      (read : ItemsAt item text values rest) : ListAt item text values rest

/-- All members of an object, from behind the opening brace. -/
inductive ObjectAt (value : TextReader α) (text : List Char) :
    List (String × α) → List Char → Prop
  | empty {rest : List Char} (front : skipBlanks text = '\x7d' :: rest) :
      ObjectAt value text [] rest
  | members {c : Char} {behind rest : List Char} {members : List (String × α)}
      (front : skipBlanks text = c :: behind) (notClosed : c ≠ '\x7d')
      (read : MembersAt value text members rest) : ObjectAt value text members rest

theorem itemsAt_of_outcome {item : TextReader α} {position : Nat} {text rest : List Char}
    {values : List α} (h : outcome (readItems item position text) = some (values, rest)) :
    ItemsAt item text values rest := by
  rw [outcome_readItems, Option.bind_eq_some_iff] at h
  obtain ⟨⟨first, behind⟩, read, h⟩ := h
  obtain ⟨onward, found, h⟩ := Option.bind_eq_some_iff.1 h
  cases onward with
  | closed => cases h; exact .last read found
  | more next =>
    -- The induction is on the text, which gets shorter by the item and the comma behind it.
    have shorter : next.length < text.length :=
      Nat.lt_trans (length_lt_of_skipBlanks (skipBlanks_of_more found).1) (length_lt_of_outcome read)
    obtain ⟨⟨others, _⟩, later, same⟩ := Option.map_eq_some_iff.1 h
    cases same
    exact .more read found (itemsAt_of_outcome later)
termination_by text.length

/-- The members are gathered in front of those that have been read before, the last one first. -/
theorem membersAt_of_outcome {value : TextReader Json} {done members : List (String × Json)}
    {text rest : List Char}
    (h : outcome (readMembers (gather value) done text) = some (members, rest)) :
    ∃ read, MembersAt value text read rest ∧ members = read.reverse ++ done := by
  rw [outcome_readMembers, Option.bind_eq_some_iff] at h
  obtain ⟨⟨key, begin⟩, label, h⟩ := h
  simp only [gather, Except.toOption, Option.bind_some, outcome_map] at h
  obtain ⟨_, gathered, h⟩ := Option.bind_eq_some_iff.1 h
  obtain ⟨⟨first, behind⟩, read, rfl⟩ := Option.map_eq_some_iff.1 gathered
  obtain ⟨onward, found, h⟩ := Option.bind_eq_some_iff.1 h
  cases onward with
  | closed => cases h; exact ⟨_, .last label read found, rfl⟩
  | more next =>
    have shorter : next.length < text.length :=
      Nat.lt_trans (length_lt_of_skipBlanks (skipBlanks_of_more found).1)
        (Nat.lt_trans (length_lt_of_outcome read) (length_lt_of_label label))
    obtain ⟨others, later, rfl⟩ := membersAt_of_outcome h
    exact ⟨_, .more label read found later, by simp⟩
termination_by text.length

theorem listAt_of_outcome {item : TextReader α} {text rest : List Char} {values : List α}
    (h : outcome (readList item text) = some (values, rest)) : ListAt item text values rest := by
  cases front : skipBlanks text with
  | nil =>
    unfold readList at h
    split at h <;> simp_all
  | cons c behind =>
    by_cases closed : c = ']'
    · subst closed
      rw [outcome_readList_closed item front] at h
      cases h
      exact .empty front
    · rw [outcome_readList_items item front closed] at h
      exact .items front closed (itemsAt_of_outcome h)

theorem objectAt_of_outcome {value : TextReader Json} {text rest : List Char}
    {members : List (String × Json)}
    (h : outcome (readFreeObject value text) = some (members, rest)) :
    ObjectAt value text members rest := by
  rw [readFreeObject, outcome_map] at h
  obtain ⟨⟨gathered, behind⟩, found, same⟩ := Option.map_eq_some_iff.1 h
  simp only [Prod.map_apply, id_eq, Prod.mk.injEq] at same
  obtain ⟨rfl, rfl⟩ := same
  cases front : skipBlanks text with
  | nil =>
    unfold readObject at found
    split at found <;> simp_all [malformedKey]
  | cons c inside =>
    by_cases closed : c = '\x7d'
    · subst closed
      rw [outcome_readObject_closed _ _ front] at found
      cases found
      exact .empty front
    · rw [outcome_readObject_members _ _ front closed] at found
      obtain ⟨read, membersAt, rfl⟩ := membersAt_of_outcome found
      simpa using ObjectAt.members front closed membersAt

/-! ## Values -/

/-- A value that has been read is a scalar, or there are a list or an object and one more bracket
may be open. -/
inductive ValueAt : Nat → List Char → Json → List Char → Prop
  | scalar {depth : Nat} {text rest : List Char} {value : Json}
      (head : outcome (readHead text) = some (.scalar value, rest)) :
      ValueAt depth text value rest
  | array {depth : Nat} {text inside rest : List Char} {items : List Json}
      (head : outcome (readHead text) = some (.list, inside))
      (read : outcome (readList (readValue depth) inside) = some (items, rest)) :
      ValueAt (depth + 1) text (.array items) rest
  | object {depth : Nat} {text inside rest : List Char} {members : List (String × Json)}
      (head : outcome (readHead text) = some (.object, inside))
      (read : outcome (readFreeObject (readValue depth) inside) = some (members, rest)) :
      ValueAt (depth + 1) text (.object members) rest

theorem outcome_readValue (depth : Nat) (text : List Char) :
    outcome (readValue depth text) =
      (outcome (readHead text)).bind fun head =>
        match head.1, depth with
        | .scalar value, _ => some (value, head.2)
        | .list, depth + 1 => (outcome (readList (readValue depth) head.2)).map (Prod.map array id)
        | .object, depth + 1 =>
          (outcome (readFreeObject (readValue depth) head.2)).map (Prod.map object id)
        | _, 0 => none := by
  cases depth with
  | zero =>
    simp only [readValue]
    cases readHead text with
    | error fault => rfl
    | ok head => obtain ⟨_ | _ | _, rest, shorter⟩ := head <;> rfl
  | succ depth =>
    simp only [readValue]
    cases readHead text with
    | error fault => rfl
    | ok head =>
      obtain ⟨_ | _ | _, rest, shorter⟩ := head
      · rfl
      · simp only [bind, Except.bind, outcome_ok, Option.bind_some]
        cases readList (readValue depth) rest <;> rfl
      · simp only [bind, Except.bind, outcome_ok, Option.bind_some]
        cases readFreeObject (readValue depth) rest <;> rfl

theorem valueAt_of_outcome {depth : Nat} {text rest : List Char} {value : Json}
    (h : outcome (readValue depth text) = some (value, rest)) : ValueAt depth text value rest := by
  rw [outcome_readValue] at h
  obtain ⟨⟨head, behind⟩, found, h⟩ := Option.bind_eq_some_iff.1 h
  cases head with
  | scalar value => cases h; exact .scalar found
  | list =>
    cases depth with
    | zero => cases h
    | succ depth =>
      obtain ⟨⟨items, _⟩, read, same⟩ := Option.map_eq_some_iff.1 h
      cases same
      exact .array found read
  | object =>
    cases depth with
    | zero => cases h
    | succ depth =>
      obtain ⟨⟨members, _⟩, read, same⟩ := Option.map_eq_some_iff.1 h
      cases same
      exact .object found read

/-- A text that is one value: the value stands at its front, and nothing but blanks behind it. -/
theorem exists_outcome_of_parseRaw {depth : Nat} {text : String} {value : Json}
    (h : parseRaw depth text = .ok value) :
    ∃ rest, outcome (readValue depth text.toList) = some (value, rest) ∧ skipBlanks rest = [] := by
  obtain ⟨parsed, read, last⟩ := bind_eq_ok_iff.1 h
  split at last
  · next blank =>
    cases last
    exact ⟨parsed.rest, by rw [read]; rfl, blank⟩
  · cases last

end TypedHub.Json
