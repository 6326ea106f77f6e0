import Mathlib.Data.List.Find
import TypedHub.Proofs.Json.Agreement

/-!
# The two ways of reading a record agree

If the fields of a record agree, so does the record, whether it is written as an object or as a list.
-/

namespace TypedHub.Json

variable {α ρ : Type} {text rest : List Char} {depth : Nat}

theorem Field.agrees_mandatory (name : String) {reader : Reader α} (set : α → ρ → ρ)
    (h : reader.Agrees) : (Field.mandatory name reader set).update.Agrees :=
  h.map set

theorem Field.agrees_optional (name : String) {reader : Reader α} (set : α → ρ → ρ)
    (h : reader.Agrees) : (Field.optional name reader set).update.Agrees :=
  h.map set

namespace Shape

variable {shape : Shape ρ}

/-- Both ways of each field agree. -/
def FieldsAgree (shape : Shape ρ) : Prop := ∀ field ∈ shape.fields, field.update.Agrees

/-! ## Objects -/

theorem isSome_field? {field : Field ρ} (h : field ∈ shape.fields) :
    (shape.field? field.name).isSome = true := by
  simp only [field?, List.find?_isSome, decide_eq_true_eq]
  exact ⟨field, h, rfl⟩

/-- The known keys that have been read behind the members, the last one first. -/
def keysAfter (shape : Shape ρ) (seen : List String) : List (String × Json) → List String
  | [] => seen
  | (key, _) :: rest =>
    shape.keysAfter (if (shape.field? key).isSome then key :: seen else seen) rest

theorem mem_keysAfter {seen : List String} {members : List (String × Json)} {key : String} :
    key ∈ shape.keysAfter seen members ↔
      key ∈ seen ∨ key ∈ members.map Prod.fst ∧ (shape.field? key).isSome = true := by
  induction members generalizing seen with
  | nil => simp [keysAfter]
  | cons member rest ih =>
    obtain ⟨k, value⟩ := member
    rw [keysAfter, ih, List.map_cons, List.mem_cons]
    split
    · next known =>
      by_cases same : key = k
      · simp [same, known]
      · simp [same]
    · next unknown =>
      by_cases same : key = k
      · simp [same, unknown]
      · simp [same]

/-- Whether a record is complete depends on the keys of its fields only. -/
theorem complete_congr {keys keys' : List String} (record : ρ)
    (h : ∀ field ∈ shape.fields, field.name ∈ keys ↔ field.name ∈ keys') :
    shape.complete keys record = shape.complete keys' record := by
  have same : ∀ field ∈ shape.fields,
      (field.required && decide (field.name ∉ keys)) =
        (field.required && decide (field.name ∉ keys')) := fun field mem => by
    simp only [h field mem]
  rw [complete, complete, List.find?_congr same]

theorem toOption_membersOfJson_cons (member : String × Json) (rest : List (String × Json))
    (record : ρ) :
    (shape.membersOfJson (member :: rest) record).toOption =
      (shape.membersOfJson [member] record).toOption.bind fun record =>
        (shape.membersOfJson rest record).toOption := by
  obtain ⟨key, value⟩ := member
  simp only [membersOfJson]
  cases shape.field? key with
  | none => rfl
  | some field =>
    simp only [under, bind, Except.bind]
    cases field.update.ofJson value <;> rfl

/-- One member. -/
theorem outcome_entry (agree : shape.FieldsAgree) {seen : List String} {key : String}
    {value : Json} (read : outcome (readValue depth text) = some (value, rest))
    (distinct : value.DistinctKeys) (new : key ∉ seen) (record : ρ) :
    ((shape.entry depth (seen, record) key).toOption.bind fun reader => outcome (reader text)) =
      (shape.membersOfJson [(key, value)] record).toOption.map fun record =>
        ((shape.keysAfter seen [(key, value)], record), rest) := by
  unfold entry
  simp only [membersOfJson, keysAfter]
  cases known : shape.field? key with
  | none =>
    simp only [Except.toOption, Option.bind_some, outcome_map, outcome_skip read]
    rfl
  | some field =>
    have agrees := agree field (List.mem_of_find?_eq_some known)
    simp only [new, if_false, Except.toOption, Option.bind_some, outcome_map, agrees read distinct]
    cases field.update.ofJson value <;> rfl

/-- All members. The known keys that have been read go along with the record; they are others than
the keys that are still to come, so no field is refused as a repetition. -/
theorem outcome_readMembers_entry (agree : shape.FieldsAgree) {members : List (String × Json)}
    (h : MembersAt (readValue depth) text members rest)
    (distinct : ∀ member ∈ members, member.2.DistinctKeys)
    (nodup : (members.map Prod.fst).Nodup) {seen : List String}
    (new : ∀ key ∈ members.map Prod.fst, key ∉ seen) (record : ρ) :
    outcome (readMembers (shape.entry depth) (seen, record) text) =
      (shape.membersOfJson members record).toOption.map fun record =>
        ((shape.keysAfter seen members, record), rest) := by
  induction h generalizing seen record with
  | last label read closed =>
    rw [outcome_readMembers, label, Option.bind_some,
      outcome_entry agree read (distinct _ List.mem_cons_self) (new _ List.mem_cons_self)]
    cases shape.membersOfJson [_] record with
    | error fault => rfl
    | ok record =>
      simp only [Except.toOption, Option.map_some, Option.bind_some, closed]
  | more label read more later ih =>
    rw [toOption_membersOfJson_cons, outcome_readMembers, label, Option.bind_some,
      outcome_entry agree read (distinct _ List.mem_cons_self) (new _ List.mem_cons_self)]
    cases shape.membersOfJson [_] record with
    | error fault => rfl
    | ok record =>
      simp only [Except.toOption, Option.map_some, Option.bind_some, more]
      rw [List.map_cons, List.nodup_cons] at nodup
      rw [ih (fun member mem => distinct member (List.mem_cons_of_mem _ mem)) nodup.2]
      · rfl
      · intro key mem seen
        rw [mem_keysAfter, List.map_singleton, List.mem_singleton] at seen
        obtain old | ⟨rfl, -⟩ := seen
        · exact new key (List.mem_cons_of_mem _ mem) old
        · exact nodup.1 mem

theorem outcome_ofObjectText_eq (shape : Shape ρ) (depth : Nat) (text : List Char) :
    outcome (shape.ofObjectText depth text) =
      (outcome (readObject (shape.entry depth) ([], shape.blank) text)).bind fun found =>
        (shape.complete found.1.1 found.1.2).toOption.map (·, found.2) := by
  unfold ofObjectText
  cases readObject (shape.entry depth) ([], shape.blank) text with
  | error fault => rfl
  | ok parsed =>
    simp only [bind, Except.bind, outcome_ok, Option.bind_some]
    cases shape.complete parsed.value.1 parsed.value.2 <;> rfl

theorem outcome_ofObjectText (agree : shape.FieldsAgree) {members : List (String × Json)}
    (h : ObjectAt (readValue depth) text members rest)
    (distinct : ∀ member ∈ members, member.2.DistinctKeys)
    (nodup : (members.map Prod.fst).Nodup) :
    outcome (shape.ofObjectText depth text) =
      (shape.membersOfJson members shape.blank >>=
        shape.complete (members.map Prod.fst)).toOption.map (·, rest) := by
  have read : outcome (readObject (shape.entry depth) ([], shape.blank) text) =
      (shape.membersOfJson members shape.blank).toOption.map fun record =>
        ((shape.keysAfter [] members, record), rest) := by
    cases h with
    | empty front => rw [outcome_readObject_closed _ _ front]; rfl
    | members front notClosed membersAt =>
      rw [outcome_readObject_members _ _ front notClosed,
        outcome_readMembers_entry agree membersAt distinct nodup (by simp)]
  have keys : ∀ record, shape.complete (shape.keysAfter [] members) record =
      shape.complete (members.map Prod.fst) record := fun record =>
    complete_congr record fun field mem => by simp [mem_keysAfter, isSome_field? mem]
  rw [outcome_ofObjectText_eq, read, toOption_bind]
  cases shape.membersOfJson members shape.blank with
  | error fault => rfl
  | ok record =>
    simp only [Except.toOption, Option.map_some, Option.bind_some, keys]

/-! ## Lists -/

/-- A list that is closed before some fields. -/
theorem outcome_fieldsText_closed (position : Nat) (fields : List (Field ρ)) (record : ρ)
    (front : skipBlanks text = ']' :: rest) :
    outcome (shape.fieldsText depth position fields record text) =
      (shape.endedBefore position fields record).toOption.map (·, rest) := by
  cases fields with
  | nil =>
    simp only [fieldsText, closeText]
    split <;> simp_all [endedBefore, Except.toOption]
  | cons field others =>
    simp only [fieldsText]
    split
    · next blank => simp [blank] at front
    · next front' =>
      cases front.symm.trans front'
      simp only [if_true, bind, Except.bind]
      cases shape.endedBefore position (field :: others) record <;> rfl

/-- A list that goes on behind the last field is refused. -/
theorem outcome_closeText_other (record : ρ) {c : Char} {behind : List Char}
    (front : skipBlanks text = c :: behind) (notClosed : c ≠ ']') :
    outcome (closeText record text) = none := by
  simp only [closeText]
  split
  · rfl
  · next closed =>
    cases front.symm.trans closed
    exact absurd rfl notClosed
  · split <;> rfl
  · rfl

/-- A field that comes next in a list, and the fields behind it. -/
def itemText (shape : Shape ρ) (depth position : Nat) (field : Field ρ) (others : List (Field ρ))
    (record : ρ) (text : List Char) : Option (ρ × List Char) :=
  (outcome (field.update.ofText depth text)).bind fun update =>
    outcome (shape.fieldsText depth (position + 1) others (update.1 record) update.2)

theorem outcome_fieldsText_first (field : Field ρ) (others : List (Field ρ)) (record : ρ) {c : Char}
    {behind : List Char} (front : skipBlanks text = c :: behind) (notClosed : c ≠ ']') :
    outcome (shape.fieldsText depth 0 (field :: others) record text) =
      shape.itemText depth 0 field others record text := by
  simp only [fieldsText, itemText]
  split
  · next blank => simp [blank] at front
  · next front' =>
    cases front.symm.trans front'
    simp only [notClosed, if_false, if_true]
    cases field.update.ofText depth text with
    | error fault => rfl
    | ok update =>
      simp only [under, bind, Except.bind, outcome_ok, Option.bind_some]
      cases shape.fieldsText depth (0 + 1) others (update.value record) update.rest <;> rfl

theorem outcome_fieldsText_more (position : Nat) (field : Field ρ) (others : List (Field ρ))
    (record : ρ) {next : List Char} (more : onward? ']' text = some (.more next)) :
    outcome (shape.fieldsText depth (position + 1) (field :: others) record text) =
      shape.itemText depth (position + 1) field others record next := by
  obtain ⟨front, c, behind, begin, notClosed⟩ := skipBlanks_of_more more
  simp only [fieldsText, itemText]
  split
  · next blank => simp [blank] at front
  · next front' =>
    cases front.symm.trans front'
    simp only [Char.reduceEq, Nat.succ_ne_zero, if_false, if_true]
    split
    · next blank => simp [blank] at begin
    · next closed =>
      cases begin.symm.trans closed
      exact absurd rfl notClosed
    · cases field.update.ofText depth next with
      | error fault => rfl
      | ok update =>
        simp only [under, bind, Except.bind, outcome_ok, Option.bind_some]
        cases shape.fieldsText depth (position + 1 + 1) others (update.value record) update.rest <;>
          rfl

/-- All items of a list, put into the fields from one on. Behind the last item the list is closed,
and then the fields that are left over decide; or there is no field for a further item. -/
theorem itemText_of_itemsAt (agree : shape.FieldsAgree) {items : List Json}
    (h : ItemsAt (readValue depth) text items rest)
    (distinct : ∀ item ∈ items, item.DistinctKeys) {field : Field ρ} {others : List (Field ρ)}
    (known : ∀ f ∈ field :: others, f ∈ shape.fields) (length position : Nat) (record : ρ) :
    shape.itemText depth position field others record text =
      (shape.itemsOfJson length position (field :: others) items record).toOption.map (·, rest) := by
  induction h generalizing field others position record with
  | last read closed =>
    have agrees := agree field (known field List.mem_cons_self)
    rw [itemText, agrees read (distinct _ List.mem_cons_self), itemsOfJson]
    cases field.update.ofJson _ with
    | error fault => rfl
    | ok update =>
      simp only [Except.toOption, Option.map_some, Option.bind_some]
      rw [outcome_fieldsText_closed _ _ _ (skipBlanks_of_closed closed)]
      cases others <;> rfl
  | more read more later ih =>
    have agrees := agree field (known field List.mem_cons_self)
    rw [itemText, agrees read (distinct _ List.mem_cons_self), itemsOfJson]
    cases field.update.ofJson _ with
    | error fault => rfl
    | ok update =>
      simp only [Except.toOption, Option.map_some, Option.bind_some]
      cases others with
      | nil =>
        rw [fieldsText, outcome_closeText_other _ (skipBlanks_of_more more).1 (by decide)]
        cases later <;> rfl
      | cons next others =>
        rw [outcome_fieldsText_more _ _ _ _ more,
          ih (fun item mem => distinct item (List.mem_cons_of_mem _ mem))
            fun f mem => known f (List.mem_cons_of_mem _ mem)]
        rfl

theorem outcome_fieldsText_of_listAt (agree : shape.FieldsAgree) {items : List Json}
    (h : ListAt (readValue depth) text items rest) (distinct : ∀ item ∈ items, item.DistinctKeys) :
    outcome (shape.fieldsText depth 0 shape.fields shape.blank text) =
      (shape.itemsOfJson items.length 0 shape.fields items shape.blank).toOption.map (·, rest) := by
  cases h with
  | empty front =>
    rw [outcome_fieldsText_closed _ _ _ front]
    cases shape.fields <;> rfl
  | items front notClosed read =>
    cases fields : shape.fields with
    | nil =>
      rw [fieldsText, outcome_closeText_other _ front notClosed]
      cases read <;> rfl
    | cons field others =>
      rw [outcome_fieldsText_first _ _ _ front notClosed]
      exact itemText_of_itemsAt agree read distinct (fields ▸ fun _ mem => mem) _ _ _

/-- **If the fields of a record agree, so does the record.** -/
theorem agrees_reader (agree : shape.FieldsAgree) : shape.reader.Agrees := by
  intro depth text value rest parsed distinct
  cases valueAt_of_outcome parsed with
  | scalar head =>
    obtain ⟨_, found⟩ := outcome_eq_some_iff.1 head
    simp only [reader, found, bind, Except.bind]
    have notNested := ne_of_readHead_scalar head
    cases value with
    | array items => exact absurd rfl (notNested.1 items)
    | object members => exact absurd rfl (notNested.2 members)
    | _ => rfl
  | array head read =>
    obtain ⟨_, found⟩ := outcome_eq_some_iff.1 head
    obtain _ | _ | _ | _ | parts := distinct
    simp only [reader, found, bind, Except.bind, Reader.outcome_opened]
    exact outcome_fieldsText_of_listAt agree (listAt_of_outcome read) parts
  | object head read =>
    obtain ⟨_, found⟩ := outcome_eq_some_iff.1 head
    obtain _ | _ | _ | _ | _ | ⟨nodup, parts⟩ := distinct
    simp only [reader, found, bind, Except.bind, Reader.outcome_opened]
    exact outcome_ofObjectText agree (objectAt_of_outcome read) parts nodup

end Shape

end TypedHub.Json
