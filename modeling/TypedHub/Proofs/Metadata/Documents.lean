import TypedHub.Metadata.Document
import TypedHub.Proofs.Json.RecordAgreement

/-!
# A document with and without a pointer

Without a pointer a document is decoded in one pass, with the pointer to the root it is parsed first.
Both give the same compilation wherever the text can be parsed and repeats no keys: every shape of
the metadata is put together from readers of which the two ways agree.
-/

namespace TypedHub.Metadata

open Json (Reader Shape Field outcome)

/-! ## Shapes -/

theorem TypeKind.agrees_reader : TypeKind.reader.Agrees := Reader.agrees_word _

theorem Accessibility.agrees_reader : Accessibility.reader.Agrees := Reader.agrees_word _

theorem ParameterSymbol.agrees_reader : ParameterSymbol.reader.Agrees := by
  refine Shape.agrees_reader ?_
  simp only [Shape.FieldsAgree, shape, List.forall_mem_cons]
  exact ⟨Field.agrees_mandatory _ _ Reader.agrees_string,
    Field.agrees_mandatory _ _ Reader.agrees_string,
    Field.agrees_optional _ _ Reader.agrees_bool,
    Field.agrees_optional _ _ Reader.agrees_bool,
    Field.agrees_optional _ _ Reader.agrees_valueOrNull,
    Field.agrees_optional _ _ Reader.agrees_bool, List.forall_mem_nil _⟩

theorem MethodSymbol.agrees_reader : MethodSymbol.reader.Agrees := by
  refine Shape.agrees_reader ?_
  simp only [Shape.FieldsAgree, shape, List.forall_mem_cons]
  exact ⟨Field.agrees_mandatory _ _ Reader.agrees_string,
    Field.agrees_optional _ _ Reader.agrees_bool,
    Field.agrees_optional _ _ Reader.agrees_stringOrNull,
    Field.agrees_optional _ _ ParameterSymbol.agrees_reader.list, List.forall_mem_nil _⟩

theorem AttributeData.agrees_reader : AttributeData.reader.Agrees := by
  refine Shape.agrees_reader ?_
  simp only [Shape.FieldsAgree, shape, List.forall_mem_cons]
  exact ⟨Field.agrees_mandatory _ _ Reader.agrees_string,
    Field.agrees_optional _ _ Reader.agrees_freeObject, List.forall_mem_nil _⟩

theorem TypeSymbol.agrees_reader : TypeSymbol.reader.Agrees := by
  refine Shape.agrees_reader ?_
  simp only [Shape.FieldsAgree, shape, List.forall_mem_cons]
  exact ⟨Field.agrees_mandatory _ _ TypeKind.agrees_reader,
    Field.agrees_mandatory _ _ Reader.agrees_string,
    Field.agrees_optional _ _ Reader.agrees_string,
    Field.agrees_optional _ _ Accessibility.agrees_reader,
    Field.agrees_optional _ _ Reader.agrees_string.list,
    Field.agrees_optional _ _ MethodSymbol.agrees_reader.list,
    Field.agrees_optional _ _ AttributeData.agrees_reader.list, List.forall_mem_nil _⟩

namespace Compilation

theorem agrees_reader : Compilation.reader.Agrees := by
  refine Shape.agrees_reader ?_
  simp only [Shape.FieldsAgree, shape, List.forall_mem_cons]
  exact ⟨Field.agrees_optional _ _ TypeSymbol.agrees_reader.list, List.forall_mem_nil _⟩

/-! ## Documents -/

theorem ofDocument_none_eq_ok_iff {origin text : String} {compilation : Compilation} :
    ofDocument origin none text = .ok compilation ↔
      ∃ rest, outcome (reader.ofText Json.maxDepth text.toList) = some (compilation, rest) := by
  simp only [ofDocument, Reader.readText]
  cases reader.ofText Json.maxDepth text.toList <;> simp [Except.map]

theorem ofDocument_root {origin text : String} {value : Json}
    (parsed : Json.parse Json.maxDepth text = .ok value) {compilation : Compilation} :
    ofDocument origin (some "") text = .ok compilation ↔
      (reader.ofJson value).toOption = some compilation := by
  simp only [ofDocument, ofPart, parsed]
  have root : value.at? "" = some value := rfl
  simp only [root]
  cases reader.ofJson value <;> simp [Except.toOption]

/-- **A document without a pointer gives the compilation that its root gives.** -/
theorem ofDocument_none_iff_root (origin : String) {text : String} {value : Json}
    (parsed : Json.parseRaw Json.maxDepth text = .ok value) (distinct : value.DistinctKeys)
    (compilation : Compilation) :
    ofDocument origin none text = .ok compilation ↔
      ofDocument origin (some "") text = .ok compilation := by
  have settled : Json.parse Json.maxDepth text = .ok value := by
    rw [Json.parse, parsed]
    exact congrArg Except.ok distinct.settled_eq
  obtain ⟨rest, read, -⟩ := Json.exists_outcome_of_parseRaw parsed
  rw [ofDocument_none_eq_ok_iff, ofDocument_root settled, agrees_reader read distinct]
  simp

/-- A class with a member that no class has. -/
def annotated : String :=
  "\x7b\"types\": [\x7b\"kind\": \"class\", \"name\": \"Client\", \"notes\": [null]\x7d]\x7d"

theorem ofDocument_none_iff_root_annotated :
    ∃ value, Json.parseRaw Json.maxDepth annotated = .ok value ∧ value.DistinctKeys ∧
      ∃ compilation, ofDocument "annotated" none annotated = .ok compilation ∧
        compilation.types.map (·.qualifiedName) = ["Client"] := by
  have accepted : (Json.parseRaw Json.maxDepth annotated).toOption.any
      (fun value => decide value.DistinctKeys) = true := by decide +kernel
  obtain ⟨value, parsed, distinct⟩ := (Option.any_eq_true _ _).1 accepted
  rw [Json.toOption_eq_some_iff] at parsed
  have decoded : (ofDocument "annotated" (some "") annotated).toOption.map
      (fun compilation => compilation.types.map (·.qualifiedName)) = some ["Client"] := by
    decide +kernel
  obtain ⟨compilation, root, names⟩ := Option.map_eq_some_iff.1 decoded
  rw [Json.toOption_eq_some_iff] at root
  have distinct := of_decide_eq_true distinct
  exact ⟨value, parsed, distinct, compilation,
    (ofDocument_none_iff_root "annotated" parsed distinct compilation).2 root, names⟩

end Compilation

end TypedHub.Metadata
