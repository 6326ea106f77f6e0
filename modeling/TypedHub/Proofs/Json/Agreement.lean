import TypedHub.Json.Reader
import TypedHub.Proofs.Json.DistinctKeys
import TypedHub.Proofs.Json.Skipping

/-!
# The two ways of a reader agree

A `Reader` decodes from a text in one pass and from a parsed value. The two ways agree on a text if
the value that stands there can be parsed and repeats no keys.
-/

namespace TypedHub.Json

variable {α β ρ : Type} {text rest : List Char} {depth : Nat}

namespace Reader

/-- Where a value without repeated keys can be parsed, decoding the text gives what decoding the
value gives, and leaves the same rest. -/
def Agrees (reader : Reader α) : Prop :=
  ∀ ⦃depth text value rest⦄, outcome (readValue depth text) = some (value, rest) →
    value.DistinctKeys →
      outcome (reader.ofText depth text) = (reader.ofJson value).toOption.map (·, rest)

theorem Agrees.map {reader : Reader α} (h : reader.Agrees) (f : α → β) : (reader.map f).Agrees := by
  intro depth text value rest parsed distinct
  simp only [Reader.map, outcome_map, h parsed distinct]
  cases reader.ofJson value <;> rfl

/-! ## Scalars -/

/-- A scalar is accepted if its value is, and lists and objects are no scalars. -/
theorem agrees_scalar {accept : Json → Option α} (expected : String)
    (noList : ∀ items, accept (.array items) = none)
    (noObject : ∀ members, accept (.object members) = none) :
    (scalar accept expected).Agrees := by
  intro depth text value rest parsed _
  cases valueAt_of_outcome parsed with
  | scalar head =>
    obtain ⟨_, read⟩ := outcome_eq_some_iff.1 head
    simp only [scalar, ofHead, read, bind, Except.bind]
    cases accept value <;> rfl
  | array head =>
    obtain ⟨_, read⟩ := outcome_eq_some_iff.1 head
    simp only [scalar, ofHead, read, bind, Except.bind, noList]
    rfl
  | object head =>
    obtain ⟨_, read⟩ := outcome_eq_some_iff.1 head
    simp only [scalar, ofHead, read, bind, Except.bind, noObject]
    rfl

theorem agrees_string : string.Agrees := agrees_scalar _ (fun _ => rfl) fun _ => rfl

theorem agrees_bool : bool.Agrees := agrees_scalar _ (fun _ => rfl) fun _ => rfl

theorem agrees_stringOrNull : stringOrNull.Agrees := agrees_scalar _ (fun _ => rfl) fun _ => rfl

theorem agrees_unit : unit.Agrees := agrees_scalar _ (fun _ => rfl) fun _ => rfl

theorem agrees_valueOrNull : valueOrNull.Agrees := by
  intro depth text value rest parsed _
  simp only [valueOrNull, outcome_map, parsed]
  rfl

/-! ## Lists -/

theorem outcome_opened (inside : (depth : Nat) → TextReader α) (head : Parsed Head text) :
    outcome (opened (depth + 1) inside head) = outcome (inside depth head.rest) := by
  simp only [opened, bind, Except.bind]
  cases inside depth head.rest <;> rfl

theorem outcome_readItems_of_itemsAt {reader : Reader α} (agrees : reader.Agrees)
    {items : List Json} (h : ItemsAt (readValue depth) text items rest)
    (distinct : ∀ item ∈ items, item.DistinctKeys) (position : Nat) :
    outcome (readItems (reader.ofText depth) position text) =
      (reader.itemsOfJson position items).toOption.map (·, rest) := by
  induction h generalizing position with
  | last read closed =>
    rw [outcome_readItems, agrees read (distinct _ List.mem_cons_self), itemsOfJson]
    cases reader.ofJson _ with
    | error fault => rfl
    | ok first =>
      simp only [Except.toOption, Option.map_some, Option.bind_some, closed]
      rfl
  | more read more later ih =>
    rw [outcome_readItems, agrees read (distinct _ List.mem_cons_self), itemsOfJson]
    cases reader.ofJson _ with
    | error fault => rfl
    | ok first =>
      simp only [Except.toOption, Option.map_some, Option.bind_some, more]
      rw [ih (fun item mem => distinct item (List.mem_cons_of_mem _ mem))]
      simp only [under, bind, Except.bind]
      cases reader.itemsOfJson (position + 1) _ <;> rfl

theorem Agrees.list {reader : Reader α} (h : reader.Agrees) : reader.list.Agrees := by
  intro depth text value rest parsed distinct
  cases valueAt_of_outcome parsed with
  | scalar head =>
    obtain ⟨_, read⟩ := outcome_eq_some_iff.1 head
    simp only [Reader.list, read, bind, Except.bind]
    cases value with
    | array items => exact absurd rfl ((ne_of_readHead_scalar head).1 items)
    | _ => rfl
  | array head read =>
    obtain ⟨_, found⟩ := outcome_eq_some_iff.1 head
    obtain _ | _ | _ | _ | parts := distinct
    simp only [Reader.list, found, bind, Except.bind, outcome_opened]
    cases listAt_of_outcome read with
    | empty front =>
      rw [outcome_readList_closed _ front]
      rfl
    | items front notClosed read =>
      rw [outcome_readList_items _ front notClosed, outcome_readItems_of_itemsAt h read parts]
  | object head =>
    obtain ⟨_, read⟩ := outcome_eq_some_iff.1 head
    simp only [Reader.list, read, bind, Except.bind]
    rfl

/-! ## Objects of free form -/

theorem agrees_freeObject : freeObject.Agrees := by
  intro depth text value rest parsed _
  cases valueAt_of_outcome parsed with
  | scalar head =>
    obtain ⟨_, found⟩ := outcome_eq_some_iff.1 head
    simp only [freeObject, found, bind, Except.bind]
    cases value with
    | object members => exact absurd rfl ((ne_of_readHead_scalar head).2 members)
    | _ => rfl
  | array head =>
    obtain ⟨_, found⟩ := outcome_eq_some_iff.1 head
    simp only [freeObject, found, bind, Except.bind]
    rfl
  | object head read =>
    obtain ⟨_, found⟩ := outcome_eq_some_iff.1 head
    simp only [freeObject, found, bind, Except.bind, outcome_opened, outcome_map, read]
    rfl

/-! ## Words -/

theorem outcome_loneKeyText (text : List Char) :
    outcome (loneKeyText text) =
      (label? text).bind fun label =>
        (outcome (unit.ofText 0 label.2)).bind fun value =>
          match skipBlanks value.2 with
          | '\x7d' :: rest => some (label.1, rest)
          | _ => none := by
  unfold loneKeyText keyText label?
  split
  · next blank => simp only [blank]; rfl
  · next quoted quote =>
    simp only [quote]
    cases readString [] quoted with
    | error e => rfl
    | ok key =>
      simp only [atRoot, under, bind, Except.bind, outcome_ok, Option.bind_some, ← rest_readColon,
        Parsed.behind, Parsed.from]
      cases readColon key.rest with
      | error fault => rfl
      | ok afterColon =>
        simp only [Except.toOption, Option.map_some, Option.bind_some]
        cases unit.ofText 0 afterColon.1 with
        | error fault => rfl
        | ok value =>
          simp only [outcome_ok, Option.bind_some]
          split <;> simp_all
  · next closed => simp only [closed]; rfl
  · next other _ =>
    split
    · next quote => exact (other _ quote).elim
    · rfl

/-- What decoding makes of an object in the place of a word. -/
theorem toOption_word_object (meaning : String → α) (key : String) (value : Json) :
    ((word meaning).ofJson (.object [(key, value)])).toOption =
      (unit.ofJson value).toOption.map fun _ => meaning key := by
  simp only [word]
  cases unit.ofJson value <;> rfl

theorem toOption_word_members (meaning : String → α) (first : String × Json)
    {others : List (String × Json)} (later : MembersAt (readValue depth) text others rest) :
    ((word meaning).ofJson (.object (first :: others))).toOption = none := by
  cases later <;> rfl

/-- An object in the place of a word is refused unless it has one member. -/
theorem outcome_loneKeyText_of_objectAt (meaning : String → α) {members : List (String × Json)}
    (h : ObjectAt (readValue depth) text members rest)
    (distinct : ∀ member ∈ members, member.2.DistinctKeys) :
    (outcome (loneKeyText text)).map (Prod.map meaning id) =
      ((word meaning).ofJson (.object members)).toOption.map (·, rest) := by
  rw [outcome_loneKeyText]
  cases h with
  | empty front =>
    simp only [label?, front]
    rfl
  | members _ _ membersAt =>
    cases membersAt with
    | last label read closed =>
      have member := agrees_unit read (distinct _ List.mem_cons_self)
      have front := skipBlanks_of_closed closed
      -- Null opens no bracket, so its reader does not depend on how many may be opened.
      change outcome (unit.ofText 0 _) = _ at member
      rw [label, toOption_word_object, Option.bind_some, member]
      cases unit.ofJson _ with
      | error fault => rfl
      | ok value =>
        simp only [Except.toOption, Option.map_some, Option.bind_some, front]
        rfl
    | more label read more later =>
      have member := agrees_unit read (distinct _ List.mem_cons_self)
      have front := (skipBlanks_of_more more).1
      change outcome (unit.ofText 0 _) = _ at member
      rw [label, toOption_word_members meaning _ later, Option.bind_some, member]
      cases unit.ofJson _ with
      | error fault => rfl
      | ok value =>
        simp only [Except.toOption, Option.map_some, Option.bind_some, front]
        rfl

theorem outcome_word_object (meaning : String → α) {inside : List Char}
    (front : skipBlanks text = '\x7b' :: inside) :
    outcome ((word meaning).ofText (depth + 1) text) =
      (outcome (loneKeyText inside)).map (Prod.map meaning id) := by
  simp only [word]
  split
  · next blank => simp [blank] at front
  · next quote => simp [quote] at front
  · next front' =>
    cases front.symm.trans front'
    simp only [bind, Except.bind]
    cases loneKeyText inside <;> rfl
  · next other => exact (other _ front).elim

theorem outcome_word_string (meaning : String → α) {quoted : List Char}
    (front : skipBlanks text = '"' :: quoted) :
    outcome ((word meaning).ofText depth text) =
      (outcome (readString [] quoted)).map (Prod.map meaning id) := by
  simp only [word]
  split
  · next blank => simp [blank] at front
  · next quote =>
    cases front.symm.trans quote
    cases readString [] quoted <;> rfl
  · next brace => simp [brace] at front
  · next other _ => exact (other _ front).elim

theorem outcome_word_other (meaning : String → α) {c : Char} {behind : List Char}
    (front : skipBlanks text = c :: behind) (unquoted : c ≠ '"') (unopened : c ≠ '\x7b') :
    outcome ((word meaning).ofText depth text) = none := by
  simp only [word]
  split
  · rfl
  · next quote => cases front.symm.trans quote; exact absurd rfl unquoted
  · next brace => cases front.symm.trans brace; exact absurd rfl unopened
  · rfl

theorem agrees_word (meaning : String → α) : (word meaning).Agrees := by
  intro depth text value rest parsed distinct
  cases valueAt_of_outcome parsed with
  | scalar head =>
    cases headAt_of_outcome head with
    | string front read =>
      rw [outcome_word_string meaning front, read]
      rfl
    | plain front unquoted unopened _ isPlain =>
      rw [outcome_word_other meaning front unquoted (by rintro rfl; cases unopened)]
      cases value with
      | null | bool | number => rfl
      | string | array | object => exact isPlain.elim
  | array head =>
    cases headAt_of_outcome head with
    | list front =>
      rw [outcome_word_other meaning front (by decide) (by decide)]
      rfl
  | object head read =>
    cases headAt_of_outcome head with
    | object front =>
      obtain _ | _ | _ | _ | _ | ⟨-, parts⟩ := distinct
      rw [outcome_word_object meaning front,
        outcome_loneKeyText_of_objectAt meaning (objectAt_of_outcome read) parts]

end Reader

end TypedHub.Json
