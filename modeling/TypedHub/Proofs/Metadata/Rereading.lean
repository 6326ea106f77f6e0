import TypedHub.Metadata.Encode
import TypedHub.Proofs.Json.Printing
import TypedHub.Proofs.Json.Rereading
import TypedHub.Proofs.Metadata.Documents

/-!
# Metadata that is written and read again

Metadata can be given in many forms that mean the same. `Compilation.toJson` writes it in one of
them, and reading that gives the same compilation. So what is read and then written is a normal form
(`Compilation.toJson_isNormalForm`).

This does not hold of every compilation, but of those that can be read (`Compilation.IsSettled`): a
value of free form repeats no keys, and a constant is not null, because null means that there is
none.
-/

namespace TypedHub.Metadata

open Json (Reader Shape Field)

/-! ## What can be read -/

/-- The constant is one that can be read. -/
structure ParameterSymbol.IsSettled (parameter : ParameterSymbol) : Prop where
  constant : ∀ value ∈ parameter.constant, value ≠ .null ∧ value.DistinctKeys

structure MethodSymbol.IsSettled (method : MethodSymbol) : Prop where
  parameters : ∀ parameter ∈ method.parameters, parameter.IsSettled

/-- No argument is given twice, and none repeats keys. -/
structure AttributeData.IsSettled (data : AttributeData) : Prop where
  namedArguments : (Json.object data.namedArguments).DistinctKeys

structure TypeSymbol.IsSettled (type : TypeSymbol) : Prop where
  methods : ∀ method ∈ type.methods, method.IsSettled
  attributes : ∀ data ∈ type.attributes, data.IsSettled

structure Compilation.IsSettled (compilation : Compilation) : Prop where
  types : ∀ type ∈ compilation.types, type.IsSettled

theorem ParameterSymbol.isSettled_of_ofJson {value : Json} {parameter : ParameterSymbol}
    (read : reader.ofJson value = .ok parameter) : parameter.IsSettled := by
  refine Shape.of_ofJson ⟨by simp [shape]⟩ ?_ read
  simp only [shape, List.forall_mem_cons]
  refine ⟨?type, ?name, ?nullable, ?hasDefault, ?constant, ?isParams, List.forall_mem_nil _⟩
  case constant =>
    refine Field.keeps rfl fun value constant read _ _ => ⟨?_⟩
    rintro json ⟨⟩
    exact Reader.settled_of_ofJson_valueOrNull read
  all_goals exact Field.keeps rfl fun _ _ _ _ settled => ⟨settled.constant⟩

theorem MethodSymbol.isSettled_of_ofJson {value : Json} {method : MethodSymbol}
    (read : reader.ofJson value = .ok method) : method.IsSettled := by
  refine Shape.of_ofJson ⟨by simp [shape]⟩ ?_ read
  simp only [shape, List.forall_mem_cons]
  refine ⟨?name, ?returnsVoid, ?returnType, ?parameters, List.forall_mem_nil _⟩
  case parameters =>
    refine Field.keeps rfl fun value parameters read _ _ => ⟨?_⟩
    exact Reader.forall_mem_of_ofJson_list (fun _ _ => ParameterSymbol.isSettled_of_ofJson) read
  all_goals exact Field.keeps rfl fun _ _ _ _ settled => ⟨settled.parameters⟩

theorem AttributeData.isSettled_of_ofJson {value : Json} {data : AttributeData}
    (read : reader.ofJson value = .ok data) : data.IsSettled := by
  refine Shape.of_ofJson ⟨.object List.nodup_nil (List.forall_mem_nil _)⟩ ?_ read
  simp only [shape, List.forall_mem_cons]
  refine ⟨?name, ?namedArguments, List.forall_mem_nil _⟩
  case name => exact Field.keeps rfl fun _ _ _ _ settled => ⟨settled.namedArguments⟩
  case namedArguments =>
    refine Field.keeps rfl fun value members read _ _ => ⟨?_⟩
    exact Reader.distinctKeys_of_ofJson_freeObject read

theorem TypeSymbol.isSettled_of_ofJson {value : Json} {type : TypeSymbol}
    (read : reader.ofJson value = .ok type) : type.IsSettled := by
  refine Shape.of_ofJson ⟨by simp [shape], by simp [shape]⟩ ?_ read
  simp only [shape, List.forall_mem_cons]
  refine ⟨?kind, ?name, ?namespace', ?accessibility, ?bases, ?methods, ?attributes,
    List.forall_mem_nil _⟩
  case methods =>
    refine Field.keeps rfl fun value methods read _ settled => ⟨?_, settled.attributes⟩
    exact Reader.forall_mem_of_ofJson_list (fun _ _ => MethodSymbol.isSettled_of_ofJson) read
  case attributes =>
    refine Field.keeps rfl fun value attributes read _ settled => ⟨settled.methods, ?_⟩
    exact Reader.forall_mem_of_ofJson_list (fun _ _ => AttributeData.isSettled_of_ofJson) read
  all_goals
    exact Field.keeps rfl fun _ _ _ _ settled => ⟨settled.methods, settled.attributes⟩

theorem Compilation.isSettled_of_ofJson {value : Json} {compilation : Compilation}
    (read : reader.ofJson value = .ok compilation) : compilation.IsSettled := by
  refine Shape.of_ofJson ⟨by simp [shape]⟩ ?_ read
  simp only [shape, List.forall_mem_cons]
  refine ⟨Field.keeps rfl fun value types read _ _ => ⟨?_⟩, List.forall_mem_nil _⟩
  exact Reader.forall_mem_of_ofJson_list (fun _ _ => TypeSymbol.isSettled_of_ofJson) read

/-! ## What is written -/

/-- Each word is read as what it stands for. -/
theorem TypeKind.ofJson_word (kind : TypeKind) : reader.ofJson (.string kind.word) = .ok kind :=
  congrArg Except.ok kind.ofWord_word

theorem Accessibility.ofJson_word (accessibility : Accessibility) :
    reader.ofJson (.string accessibility.word) = .ok accessibility :=
  congrArg Except.ok accessibility.ofWord_word

theorem ofJson_orNull_string (text : Option String) :
    Reader.stringOrNull.ofJson (orNull .string text) = .ok text := by
  cases text <;> rfl

theorem ofJson_orNull_constant {constant : Option Json}
    (settled : ∀ value ∈ constant, value ≠ .null ∧ value.DistinctKeys) :
    Reader.valueOrNull.ofJson (orNull id constant) = .ok constant := by
  cases constant with
  | none => rfl
  | some value =>
    obtain ⟨notNull, distinct⟩ := settled value rfl
    exact Reader.ofJson_valueOrNull notNull distinct

theorem ParameterSymbol.IsSettled.ofJson_toJson {parameter : ParameterSymbol}
    (settled : parameter.IsSettled) : reader.ofJson parameter.toJson = .ok parameter :=
  shape.ofJson_fields (by decide)
    (.cons (Field.writes rfl (Reader.ofJson_string parameter.type)) <|
      .cons (Field.writes rfl (Reader.ofJson_string parameter.name)) <|
      .cons (Field.writes rfl (Reader.ofJson_bool parameter.nullable)) <|
      .cons (Field.writes rfl (Reader.ofJson_bool parameter.hasDefault)) <|
      .cons (Field.writes rfl (ofJson_orNull_constant settled.constant)) <|
      .cons (Field.writes rfl (Reader.ofJson_bool parameter.isParams)) .nil)

theorem MethodSymbol.IsSettled.ofJson_toJson {method : MethodSymbol} (settled : method.IsSettled) :
    reader.ofJson method.toJson = .ok method := by
  have parameters := Reader.ofJson_list fun parameter mem =>
    (settled.parameters parameter mem).ofJson_toJson
  exact shape.ofJson_fields (by decide)
    (.cons (Field.writes rfl (Reader.ofJson_string method.name)) <|
      .cons (Field.writes rfl (Reader.ofJson_bool method.returnsVoid)) <|
      .cons (Field.writes rfl (ofJson_orNull_string method.returnType)) <|
      .cons (Field.writes rfl parameters) .nil)

theorem AttributeData.IsSettled.ofJson_toJson {data : AttributeData} (settled : data.IsSettled) :
    reader.ofJson data.toJson = .ok data :=
  shape.ofJson_fields (by decide)
    (.cons (Field.writes rfl (Reader.ofJson_string data.name)) <|
      .cons (Field.writes rfl (Reader.ofJson_freeObject settled.namedArguments)) .nil)

theorem TypeSymbol.IsSettled.ofJson_toJson {type : TypeSymbol} (settled : type.IsSettled) :
    reader.ofJson type.toJson = .ok type := by
  have bases := Reader.ofJson_list fun base (_ : base ∈ type.bases) => Reader.ofJson_string base
  have methods := Reader.ofJson_list fun method mem => (settled.methods method mem).ofJson_toJson
  have attributes := Reader.ofJson_list fun data mem =>
    (settled.attributes data mem).ofJson_toJson
  exact shape.ofJson_fields (by decide)
    (.cons (Field.writes rfl type.kind.ofJson_word) <|
      .cons (Field.writes rfl (Reader.ofJson_string type.name)) <|
      .cons (Field.writes rfl (Reader.ofJson_string type.containingNamespace)) <|
      .cons (Field.writes rfl type.accessibility.ofJson_word) <|
      .cons (Field.writes rfl bases) <|
      .cons (Field.writes rfl methods) <|
      .cons (Field.writes rfl attributes) .nil)

theorem Compilation.IsSettled.ofJson_toJson {compilation : Compilation}
    (settled : compilation.IsSettled) : reader.ofJson compilation.toJson = .ok compilation := by
  have types := Reader.ofJson_list fun type mem => (settled.types type mem).ofJson_toJson
  exact shape.ofJson_fields (by decide) (.cons (Field.writes rfl types) .nil)

/-! ### Keys -/

theorem distinctKeys_array {α : Type} {write : α → Json} {values : List α}
    (h : ∀ a ∈ values, (write a).DistinctKeys) : (Json.array (values.map write)).DistinctKeys :=
  .array (List.forall_mem_map.2 h)

theorem ParameterSymbol.IsSettled.distinctKeys {parameter : ParameterSymbol}
    (settled : parameter.IsSettled) : parameter.toJson.DistinctKeys := by
  refine .object (by simp) ?_
  simp only [List.forall_mem_cons]
  refine ⟨.string, .string, .bool, .bool, ?constant, .bool, List.forall_mem_nil _⟩
  cases constant : parameter.constant with
  | none => exact .null
  | some value => exact (settled.constant value constant).2

theorem MethodSymbol.IsSettled.distinctKeys {method : MethodSymbol} (settled : method.IsSettled) :
    method.toJson.DistinctKeys := by
  refine .object (by simp) ?_
  simp only [List.forall_mem_cons]
  refine ⟨.string, .bool, ?returnType, distinctKeys_array ?parameters, List.forall_mem_nil _⟩
  case returnType => cases method.returnType <;> constructor
  case parameters => exact fun parameter mem => (settled.parameters parameter mem).distinctKeys

theorem AttributeData.IsSettled.distinctKeys {data : AttributeData} (settled : data.IsSettled) :
    data.toJson.DistinctKeys := by
  refine .object (by simp) ?_
  simp only [List.forall_mem_cons]
  exact ⟨.string, settled.namedArguments, List.forall_mem_nil _⟩

theorem TypeSymbol.IsSettled.distinctKeys {type : TypeSymbol} (settled : type.IsSettled) :
    type.toJson.DistinctKeys := by
  refine .object (by simp) ?_
  simp only [List.forall_mem_cons]
  refine ⟨.string, .string, .string, .string, distinctKeys_array ?bases,
    distinctKeys_array ?methods, distinctKeys_array ?attributes, List.forall_mem_nil _⟩
  case bases => exact fun _ _ => .string
  case methods => exact fun method mem => (settled.methods method mem).distinctKeys
  case attributes => exact fun data mem => (settled.attributes data mem).distinctKeys

theorem Compilation.IsSettled.distinctKeys {compilation : Compilation}
    (settled : compilation.IsSettled) : compilation.toJson.DistinctKeys := by
  refine .object (by simp) ?_
  simp only [List.forall_mem_cons]
  exact ⟨distinctKeys_array fun type mem => (settled.types type mem).distinctKeys,
    List.forall_mem_nil _⟩

/-! ## Compilations -/

namespace Compilation

/-- What is written may be read from a text as well. -/
theorem IsSettled.ofDocument_toJson {compilation : Compilation} (settled : compilation.IsSettled)
    (origin : String) {text : String}
    (parsed : Json.parseRaw Json.maxDepth text = .ok compilation.toJson) :
    ofDocument origin none text = .ok compilation := by
  obtain ⟨rest, read, -⟩ := Json.exists_outcome_of_parseRaw parsed
  rw [ofDocument_none_eq_ok_iff, agrees_reader read settled.distinctKeys, settled.ofJson_toJson]
  exact ⟨rest, rfl⟩

/-- So a compilation in which no number stands is read from what is printed for it. -/
theorem IsSettled.ofDocument_pretty {compilation : Compilation} (settled : compilation.IsSettled)
    (numberFree : compilation.toJson.NumberFree Json.maxDepth) (origin : String) :
    ofDocument origin none (compilation.toJson.pretty 0) = .ok compilation :=
  settled.ofDocument_toJson origin (Json.parseRaw_pretty numberFree)

/-- **A compilation that was read is read again from what is written for it.** So two values give
one compilation if and only if the same is written for what they give. -/
theorem toJson_isNormalForm {value : Json} {compilation : Compilation}
    (decoded : reader.ofJson value = .ok compilation) :
    reader.ofJson compilation.toJson = .ok compilation ∧
      ∀ other, (reader.ofJson other).map toJson = .ok compilation.toJson ↔
        reader.ofJson other = .ok compilation := by
  have again := (isSettled_of_ofJson decoded).ofJson_toJson
  refine ⟨again, fun other => ?_⟩
  cases read : reader.ofJson other with
  | error fault => exact iff_of_false nofun nofun
  | ok found =>
    have againFound := (isSettled_of_ofJson read).ofJson_toJson
    constructor
    · intro same
      -- both compilations are read from what is written for them, and that is the same
      rw [← againFound, Except.ok.inj same, again]
    · intro same
      rw [Except.ok.inj same]
      rfl

/-- A type as a list, of a kind and an accessibility that are not in the vocabulary, with a default
of null and members that are not known. -/
def unusual : Json :=
  .object
    [ ("notes", .bool true),
      ("types", .array
        [ .array
            [ .string "record", .string "Chat", .string "App", .object [("file", .null)], .array [],
              .array
                [ .object
                    [ ("name", .string "Send"),
                      ("parameters", .array
                        [ .object
                            [ ("default", .null), ("type", .string "string"),
                              ("name", .string "text") ] ]) ] ] ] ]) ]

/-- What is read from it. -/
def usual : Compilation :=
  ⟨[{ kind := .other
      name := "Chat"
      containingNamespace := "App"
      accessibility := .notApplicable
      bases := []
      methods := [⟨"Send", false, none, [⟨"string", "text", false, false, none, false⟩]⟩]
      attributes := [] }]⟩

theorem toJson_isNormalForm_unusual :
    reader.ofJson unusual = .ok usual ∧ reader.ofJson usual.toJson = .ok usual ∧
      (reader.ofJson unusual).map toJson = .ok usual.toJson := by
  have decoded : reader.ofJson unusual = .ok usual := rfl
  obtain ⟨again, same⟩ := toJson_isNormalForm decoded
  exact ⟨decoded, again, (same unusual).2 decoded⟩

end Compilation

end TypedHub.Metadata
