import TypedHub.Json.Reader
import TypedHub.Proofs.Json.DistinctKeys
import TypedHub.Proofs.Keyed
import TypedHub.Proofs.Steps

/-!
# Reading what was written

Values can be read from JSON of several forms: a record from an object or from a list, with members
that it has no field for, with fields left out. Written, they have one form only, and that form is
read as the same value again.

* `Shape.of_ofJson`: what holds of the defaults of a record, and is kept by each of its fields,
  holds of every record that is read
* `Shape.ofJson_fields`: an object with one member for each field is read member by member
-/

namespace TypedHub.Json

variable {α β ρ : Type}

theorem under_eq_ok_iff {step : Step} {result : Except Fault α} {a : α} :
    under step result = .ok a ↔ result = .ok a := by
  cases result <;> simp [under]

namespace Reader

variable {reader : Reader α}

theorem ofJson_map {value : Json} {a : α} (h : reader.ofJson value = .ok a) (f : α → β) :
    (reader.map f).ofJson value = .ok (f a) :=
  congrArg (Except.map f) h

theorem ofJson_string (text : String) : string.ofJson (.string text) = .ok text := rfl

theorem ofJson_bool (b : Bool) : bool.ofJson (.bool b) = .ok b := rfl

/-! ## Values of free form -/

theorem ofJson_valueOrNull {value : Json} (notNull : value ≠ .null)
    (distinct : value.DistinctKeys) : valueOrNull.ofJson value = .ok (some value) := by
  cases value with
  | null => exact absurd rfl notNull
  | bool | number | string | array | object =>
    exact congrArg (fun settled => Except.ok (some settled)) distinct.settled_eq

/-- Null is read as nothing, so no value that is read is null. -/
theorem settled_of_ofJson_valueOrNull {value read : Json}
    (h : valueOrNull.ofJson value = .ok (some read)) : read ≠ .null ∧ read.DistinctKeys := by
  cases value with
  | null => cases h
  | bool | number | string | array | object =>
    obtain rfl := Option.some.inj (Except.ok.inj h)
    refine ⟨fun null => ?_, distinctKeys_settled _⟩
    rw [settled] at null
    cases null

theorem ofJson_freeObject {members : List (String × Json)}
    (distinct : (object members).DistinctKeys) :
    freeObject.ofJson (.object members) = .ok members :=
  congrArg Except.ok (Json.object.inj distinct.settled_eq)

theorem distinctKeys_of_ofJson_freeObject {value : Json} {members : List (String × Json)}
    (h : freeObject.ofJson value = .ok members) : (object members).DistinctKeys := by
  cases value with
  | object members =>
    obtain rfl := Except.ok.inj h
    exact distinctKeys_settled (.object members)
  | null | bool | number | string | array => cases h

/-! ## Lists -/

theorem itemsOfJson_map {write : α → Json} {values : List α}
    (h : ∀ a ∈ values, reader.ofJson (write a) = .ok a) (position : Nat) :
    reader.itemsOfJson position (values.map write) = .ok values := by
  induction values generalizing position with
  | nil => rfl
  | cons a rest ih =>
    rw [List.forall_mem_cons] at h
    rw [List.map_cons, itemsOfJson, h.1, ih h.2]
    rfl

theorem ofJson_list {write : α → Json} {values : List α}
    (h : ∀ a ∈ values, reader.ofJson (write a) = .ok a) :
    reader.list.ofJson (.array (values.map write)) = .ok values :=
  itemsOfJson_map h 0

theorem forall_mem_of_itemsOfJson {P : α → Prop}
    (h : ∀ value a, reader.ofJson value = .ok a → P a) {position : Nat} {items : List Json}
    {values : List α} (read : reader.itemsOfJson position items = .ok values) :
    ∀ a ∈ values, P a := by
  induction items generalizing position values with
  | nil =>
    obtain rfl := Except.ok.inj read
    exact List.forall_mem_nil _
  | cons item rest ih =>
    rw [itemsOfJson] at read
    obtain ⟨a, first, behind⟩ := bind_eq_ok_iff.1 read
    obtain ⟨later, others, ⟨⟩⟩ := bind_eq_ok_iff.1 behind
    exact List.forall_mem_cons.2 ⟨h item a (under_eq_ok_iff.1 first), ih others⟩

theorem forall_mem_of_ofJson_list {P : α → Prop}
    (h : ∀ value a, reader.ofJson value = .ok a → P a) {value : Json} {values : List α}
    (read : reader.list.ofJson value = .ok values) : ∀ a ∈ values, P a := by
  cases value with
  | array items => exact forall_mem_of_itemsOfJson h read
  | null | bool | number | string | object => cases read

end Reader

/-! ## Records -/

/-- What holds of a record still holds when the field is put into it, whatever was read for it. -/
def Field.Keeps (field : Field ρ) (P : ρ → Prop) : Prop :=
  ∀ value update, field.update.ofJson value = .ok update → ∀ record, P record → P (update record)

theorem Field.keeps {field : Field ρ} {reader : Reader α} {set : α → ρ → ρ} {P : ρ → Prop}
    (sets : field.update = reader.map set)
    (h : ∀ value a, reader.ofJson value = .ok a → ∀ record, P record → P (set a record)) :
    field.Keeps P := by
  intro value update put
  rw [sets] at put
  obtain ⟨a, read, rfl⟩ := map_eq_ok_iff.1 put
  exact h value a read

/-- What is written for the field, and what it does to a record when it is read. -/
def Field.Writes (field : Field ρ) (written : Json × (ρ → ρ)) : Prop :=
  field.update.ofJson written.1 = .ok written.2

theorem Field.writes {field : Field ρ} {reader : Reader α} {set : α → ρ → ρ} {value : Json} {a : α}
    (sets : field.update = reader.map set) (h : reader.ofJson value = .ok a) :
    field.Writes (value, set a) := by
  rw [Writes, sets]
  exact Reader.ofJson_map h set

namespace Shape

variable {shape : Shape ρ}

theorem of_complete {P : ρ → Prop} {keys : List String} {record read : ρ} (h : P record)
    (complete : shape.complete keys record = .ok read) : P read := by
  rw [Shape.complete] at complete
  split at complete
  · cases complete
  · exact Except.ok.inj complete ▸ h

theorem of_endedBefore {P : ρ → Prop} {position : Nat} {fields : List (Field ρ)} {record read : ρ}
    (h : P record) (ended : shape.endedBefore position fields record = .ok read) : P read := by
  rw [endedBefore] at ended
  split at ended
  · cases ended
  · exact Except.ok.inj ended ▸ h

theorem of_membersOfJson {P : ρ → Prop} (keeps : ∀ field ∈ shape.fields, field.Keeps P)
    {members : List (String × Json)} {record read : ρ} (h : P record)
    (done : shape.membersOfJson members record = .ok read) : P read := by
  induction members generalizing record with
  | nil => exact Except.ok.inj done ▸ h
  | cons member rest ih =>
    obtain ⟨key, value⟩ := member
    rw [membersOfJson] at done
    cases known : shape.field? key with
    | none => rw [known] at done; exact ih h done
    | some field =>
      rw [known] at done
      obtain ⟨change, update, others⟩ := bind_eq_ok_iff.1 done
      have mem := List.mem_of_find?_eq_some known
      exact ih (keeps field mem value change (under_eq_ok_iff.1 update) record h) others

theorem of_itemsOfJson {P : ρ → Prop} {length position : Nat} {fields : List (Field ρ)}
    (keeps : ∀ field ∈ fields, field.Keeps P) {items : List Json} {record read : ρ} (h : P record)
    (done : shape.itemsOfJson length position fields items record = .ok read) : P read := by
  induction items generalizing position fields record with
  | nil =>
    rw [itemsOfJson] at done
    exact of_endedBefore h done
  | cons item rest ih =>
    cases fields with
    | nil => rw [itemsOfJson] at done; cases done
    | cons field others =>
      rw [List.forall_mem_cons] at keeps
      rw [itemsOfJson] at done
      obtain ⟨change, update, later⟩ := bind_eq_ok_iff.1 done
      exact ih keeps.2 (keeps.1 item change (under_eq_ok_iff.1 update) record h) later

/-- What holds of the defaults, and is kept by each field, holds of every record that is read. -/
theorem of_ofJson {P : ρ → Prop} (blank : P shape.blank)
    (keeps : ∀ field ∈ shape.fields, field.Keeps P) {value : Json} {record : ρ}
    (read : shape.reader.ofJson value = .ok record) : P record := by
  cases value with
  | object members =>
    obtain ⟨found, done, complete⟩ := bind_eq_ok_iff.1 read
    exact of_complete (of_membersOfJson keeps blank done) complete
  | array items => exact of_itemsOfJson keeps blank read
  | null | bool | number | string => cases read

theorem field?_eq_some (distinct : (shape.fields.map (·.name)).Nodup) {field : Field ρ}
    (mem : field ∈ shape.fields) : shape.field? field.name = some field :=
  (find?_key_eq_some_iff distinct).2 ⟨mem, rfl⟩

/-- The members that are written for fields. -/
def membersOf (fields : List (Field ρ)) (written : List (Json × (ρ → ρ))) : List (String × Json) :=
  List.zipWith (fun field part => (field.name, part.1)) fields written

theorem membersOfJson_membersOf (distinct : (shape.fields.map (·.name)).Nodup)
    {fields : List (Field ρ)} {written : List (Json × (ρ → ρ))}
    (known : ∀ field ∈ fields, field ∈ shape.fields) (h : List.Forall₂ Field.Writes fields written)
    (record : ρ) :
    shape.membersOfJson (membersOf fields written) record =
      .ok (written.foldl (fun record part => part.2 record) record) := by
  induction h generalizing record with
  | nil => rfl
  | @cons field part fields written writes _ ih =>
    rw [List.forall_mem_cons] at known
    change field.update.ofJson part.1 = _ at writes
    simp only [membersOf, List.zipWith_cons_cons, membersOfJson, field?_eq_some distinct known.1,
      writes]
    exact ih known.2 (part.2 record)

theorem keys_membersOf {fields : List (Field ρ)} {written : List (Json × (ρ → ρ))}
    (h : List.Forall₂ Field.Writes fields written) :
    (membersOf fields written).map Prod.fst = fields.map (·.name) := by
  induction h with
  | nil => rfl
  | cons _ _ ih => exact congrArg _ ih

/-- An object with one member for each field, in their order, is read member by member. -/
theorem ofJson_fields (shape : Shape ρ) (distinct : (shape.fields.map (·.name)).Nodup)
    {written : List (Json × (ρ → ρ))} (h : List.Forall₂ Field.Writes shape.fields written) :
    shape.reader.ofJson (.object (membersOf shape.fields written)) =
      .ok (written.foldl (fun record part => part.2 record) shape.blank) := by
  have all : shape.fields.find? (fun field =>
      field.required && decide (field.name ∉ (membersOf shape.fields written).map Prod.fst)) =
        none := by
    rw [List.find?_eq_none, keys_membersOf h]
    intro field mem
    simp [List.mem_map_of_mem mem]
  simp only [reader, membersOfJson_membersOf distinct (fun _ mem => mem) h, bind, Except.bind,
    complete, all]

end Shape

end TypedHub.Json
