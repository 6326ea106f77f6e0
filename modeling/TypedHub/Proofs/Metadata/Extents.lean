import TypedHub.Proofs.Json.ReaderExtents
import TypedHub.Proofs.Metadata.Documents

/-!
# How far documents are read

A document with a pointer is parsed as a whole before the pointer is followed. Without a pointer it
is decoded in one pass, and the pass ends with the compilation: what stands behind it is not looked
at, be it blanks, another value or no JSON at all.
-/

namespace TypedHub.Metadata

open Json (Reader Shape Field outcome IsItem IsBracketed IsWhole Blank)

/-! ## Shapes -/

theorem TypeKind.takesItem_reader : TypeKind.reader.TakesItem := Reader.takesItem_word _

theorem Accessibility.takesItem_reader : Accessibility.reader.TakesItem := Reader.takesItem_word _

theorem ParameterSymbol.takesBracketed_reader : ParameterSymbol.reader.TakesBracketed := by
  refine Shape.takesBracketed_reader ?_
  simp only [Shape.FieldsTakeItems, shape, List.forall_mem_cons]
  exact ⟨(Reader.takesItem_scalar _ _).map _, (Reader.takesItem_scalar _ _).map _,
    (Reader.takesItem_scalar _ _).map _, (Reader.takesItem_scalar _ _).map _,
    Reader.takesItem_valueOrNull.map _, (Reader.takesItem_scalar _ _).map _, List.forall_mem_nil _⟩

theorem MethodSymbol.takesBracketed_reader : MethodSymbol.reader.TakesBracketed := by
  refine Shape.takesBracketed_reader ?_
  simp only [Shape.FieldsTakeItems, shape, List.forall_mem_cons]
  exact ⟨(Reader.takesItem_scalar _ _).map _, (Reader.takesItem_scalar _ _).map _,
    (Reader.takesItem_scalar _ _).map _,
    ParameterSymbol.takesBracketed_reader.takesItem.list.takesItem.map _, List.forall_mem_nil _⟩

theorem AttributeData.takesBracketed_reader : AttributeData.reader.TakesBracketed := by
  refine Shape.takesBracketed_reader ?_
  simp only [Shape.FieldsTakeItems, shape, List.forall_mem_cons]
  exact ⟨(Reader.takesItem_scalar _ _).map _,
    Reader.takesBracketed_freeObject.takesItem.map _, List.forall_mem_nil _⟩

theorem TypeSymbol.takesBracketed_reader : TypeSymbol.reader.TakesBracketed := by
  refine Shape.takesBracketed_reader ?_
  simp only [Shape.FieldsTakeItems, shape, List.forall_mem_cons]
  exact ⟨TypeKind.takesItem_reader.map _, (Reader.takesItem_scalar _ _).map _,
    (Reader.takesItem_scalar _ _).map _, Accessibility.takesItem_reader.map _,
    (Reader.takesItem_scalar _ _).list.takesItem.map _,
    MethodSymbol.takesBracketed_reader.takesItem.list.takesItem.map _,
    AttributeData.takesBracketed_reader.takesItem.list.takesItem.map _, List.forall_mem_nil _⟩

namespace Compilation

theorem takesBracketed_reader : Compilation.reader.TakesBracketed := by
  refine Shape.takesBracketed_reader ?_
  simp only [Shape.FieldsTakeItems, shape, List.forall_mem_cons]
  exact ⟨TypeSymbol.takesBracketed_reader.takesItem.list.takesItem.map _, List.forall_mem_nil _⟩

/-! ## Documents -/

/-- Without a pointer a front part of the text decides, and anything may stand behind it. -/
theorem exists_front_of_ofDocument_none {origin text : String} {compilation : Compilation}
    (h : ofDocument origin none text = .ok compilation) :
    ∃ front rest, IsBracketed front ∧ text.toList = front ++ rest ∧
      ∀ other, ofDocument origin none (String.ofList (front ++ other)) = .ok compilation := by
  obtain ⟨rest, read⟩ := ofDocument_none_eq_ok_iff.1 h
  obtain ⟨front, isBracketed, same, again⟩ := takesBracketed_reader Json.maxDepth text.toList read
  refine ⟨front, rest, isBracketed, same, fun other => ?_⟩
  rw [ofDocument_none_eq_ok_iff, String.toList_ofList]
  exact ⟨other, again other trivial⟩

theorem exists_parseRaw_of_ofDocument {origin pointer text : String} {compilation : Compilation}
    (h : ofDocument origin (some pointer) text = .ok compilation) :
    ∃ root, Json.parseRaw Json.maxDepth text = .ok root := by
  simp only [ofDocument, ofPart, Json.parse] at h
  cases parsed : Json.parseRaw Json.maxDepth text with
  | error fault => rw [parsed] at h; cases h
  | ok root => exact ⟨root, rfl⟩

/-- With a pointer the text matters through the value that it is parsed to. -/
theorem ofDocument_congr {origin pointer text text' : String} {root : Json}
    (h : Json.parseRaw Json.maxDepth text = .ok root)
    (h' : Json.parseRaw Json.maxDepth text' = .ok root) :
    ofDocument origin (some pointer) text = ofDocument origin (some pointer) text' := by
  simp only [ofDocument, ofPart, Json.parse, h, h']

/-- Behind a text that is accepted without a pointer, anything may stand. -/
theorem ofDocument_none_append {origin : String} {compilation : Compilation} {front : List Char}
    (h : ofDocument origin none (String.ofList front) = .ok compilation) (rest : List Char) :
    ofDocument origin none (String.ofList (front ++ rest)) = .ok compilation := by
  obtain ⟨part, behind, -, same, again⟩ := exists_front_of_ofDocument_none h
  rw [String.toList_ofList] at same
  rw [same, List.append_assoc]
  exact again (behind ++ rest)

/-- Behind a text that is accepted with a pointer, blanks may stand. -/
theorem ofDocument_some_append {origin pointer : String} {compilation : Compilation}
    {front rest : List Char}
    (h : ofDocument origin (some pointer) (String.ofList front) = .ok compilation)
    (blank : Blank rest) :
    ofDocument origin (some pointer) (String.ofList (front ++ rest)) = .ok compilation := by
  obtain ⟨root, parsed⟩ := exists_parseRaw_of_ofDocument h
  obtain ⟨part, behind, -, blank', same, again⟩ := Json.exists_front_of_parseRaw parsed
  rw [String.toList_ofList] at same
  have whole := again (behind ++ rest) (List.forall_mem_append.2 ⟨blank', blank⟩)
  rw [← List.append_assoc, ← same] at whole
  rw [ofDocument_congr whole parsed, h]

/-- With a pointer the text is one value, which is accepted without the blanks behind it. -/
theorem exists_front_of_ofDocument_some {origin pointer text : String} {compilation : Compilation}
    (h : ofDocument origin (some pointer) text = .ok compilation) :
    ∃ front rest, IsItem front ∧ Blank rest ∧ text.toList = front ++ rest ∧
      ofDocument origin (some pointer) (String.ofList front) = .ok compilation := by
  obtain ⟨root, parsed⟩ := exists_parseRaw_of_ofDocument h
  obtain ⟨front, rest, isItem, blank, same, again⟩ := Json.exists_front_of_parseRaw parsed
  have alone := again [] Json.blank_nil
  rw [List.append_nil] at alone
  exact ⟨front, rest, isItem, blank, same, by rw [← ofDocument_congr parsed alone, h]⟩

/-- **What is accepted is one JSON value at the front of the text**, with blanks before it. With a
pointer nothing but blanks may follow it, so the text is whole. Without one anything may, and the
text is whole only where it happens to be blank. -/
theorem ofDocument_eq_ok_iff (origin text : String) (pointer : Option String)
    (compilation : Compilation) :
    ofDocument origin pointer text = .ok compilation ↔
      ∃ front rest, text.toList = front ++ rest ∧ IsItem front ∧
        (IsWhole text.toList ↔ Blank rest) ∧ (pointer = none ∨ Blank rest) ∧
        ofDocument origin pointer (String.ofList front) = .ok compilation := by
  constructor
  · intro h
    cases pointer with
    | none =>
      obtain ⟨front, rest, isBracketed, same, again⟩ := exists_front_of_ofDocument_none h
      have alone := again []
      rw [List.append_nil] at alone
      exact ⟨front, rest, same, isBracketed.isItem,
        by rw [same, Json.isWhole_append_iff isBracketed], .inl rfl, alone⟩
    | some pointer =>
      obtain ⟨front, rest, isItem, blank, same, alone⟩ := exists_front_of_ofDocument_some h
      exact ⟨front, rest, same, isItem, iff_of_true ⟨front, rest, isItem, blank, same⟩ blank,
        .inr blank, alone⟩
  · rintro ⟨front, rest, same, -, -, allowed, alone⟩
    have text_eq : text = String.ofList (front ++ rest) := by rw [← same, String.ofList_toList]
    rw [text_eq]
    cases pointer with
    | none => exact ofDocument_none_append alone rest
    | some pointer =>
      obtain none | blank := allowed
      · cases none
      · exact ofDocument_some_append alone blank

/-- An object with a word behind it is accepted without a pointer. -/
theorem not_forall_isWhole : ¬ ∀ origin text compilation,
    ofDocument origin none text = .ok compilation → IsWhole text.toList := by
  intro whole
  have accepted : (ofDocument "input.json" none "\x7b\x7d x").toOption.isSome = true := by
    decide +kernel
  obtain ⟨compilation, accepted⟩ := Option.isSome_iff_exists.1 accepted
  have object : IsBracketed ['\x7b', '\x7d'] :=
    ⟨[], .curly, ['\x7d'], Json.blank_nil, .empty Json.blank_nil, rfl⟩
  have blank : Blank [' ', 'x'] :=
    (Json.isWhole_append_iff object).1 (whole _ _ _ (Json.toOption_eq_some_iff.1 accepted))
  exact absurd (blank 'x' (by decide)) (by decide)

end Compilation

end TypedHub.Metadata
