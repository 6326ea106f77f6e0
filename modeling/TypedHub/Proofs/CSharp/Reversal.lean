import TypedHub.Proofs.CSharp.Literal

/-!
# Literals can be read in one way only

A text begins with at most one string literal, and a literal stands for one value
(`ReadsLiteral.unique`). What is written for a value is a literal for it, whatever follows, so two
values never share a literal, and no literal is the beginning of another (`literals_reversible`).
-/

namespace TypedHub.CSharp

/-- The text begins with a literal for the value: an opening quote, ordinary characters and escapes,
and the first quote that is not escaped. The rest follows that quote. -/
def ReadsLiteral (text value rest : String) : Prop :=
  ∃ inside, text.toList = '"' :: (inside ++ '"' :: rest.toList) ∧ Quoted inside value.toList

theorem ReadsLiteral.unique {text value rest value' rest' : String}
    (h : ReadsLiteral text value rest) (h' : ReadsLiteral text value' rest') :
    value = value' ∧ rest = rest' := by
  obtain ⟨inside, eq, quoted⟩ := h
  obtain ⟨inside', eq', quoted'⟩ := h'
  have same : inside ++ '"' :: rest.toList = inside' ++ '"' :: rest'.toList :=
    (List.cons.inj (eq.symm.trans eq')).2
  have read := quoted.literalRest_append rest.toList
  rw [same, quoted'.literalRest_append, Option.some.injEq, Prod.mk.injEq] at read
  exact ⟨String.toList_injective read.1.symm, String.toList_injective read.2.symm⟩

theorem readsLiteral_append (value rest : String) :
    ReadsLiteral (stringLiteral value ++ rest) value rest := by
  refine ⟨value.toList.flatMap literalChar, ?_, quoted_flatMap_literalChar value.toList⟩
  simp [toList_stringLiteral]

theorem readsLiteral_stringLiteral (value : String) :
    ReadsLiteral (stringLiteral value) value "" := by
  have read := readsLiteral_append value ""
  rwa [String.append_empty] at read

/-- **A literal with any text behind it is read as its value and that text, and in no other way; so
values with one literal are equal, and so are values of which one has a literal that begins the
literal of the other.** -/
theorem literals_reversible :
    (∀ value text read rest : String,
      ReadsLiteral (stringLiteral value ++ text) read rest ↔ read = value ∧ rest = text) ∧
    (∀ value other : String, stringLiteral value = stringLiteral other ↔ value = other) ∧
    ∀ value other : String,
      (stringLiteral value).toList <+: (stringLiteral other).toList ↔ value = other := by
  refine ⟨fun value text read rest => ⟨fun h => h.unique (readsLiteral_append value text), ?_⟩,
    fun value other => ⟨fun same => ?_, congrArg stringLiteral⟩,
    fun value other => ⟨fun ⟨behind, eq⟩ => ?_, fun same => same ▸ List.prefix_rfl⟩⟩
  · rintro ⟨rfl, rfl⟩
    exact readsLiteral_append read rest
  · have first := readsLiteral_stringLiteral value
    rw [same] at first
    exact (first.unique (readsLiteral_stringLiteral other)).1
  · -- The longer literal is the shorter one with a text behind it.
    have long : stringLiteral other = stringLiteral value ++ String.ofList behind :=
      String.toList_injective (by rw [← eq, String.toList_append, String.toList_ofList])
    have first := readsLiteral_stringLiteral other
    rw [long] at first
    exact ((readsLiteral_append value _).unique first).1

/-- Digits behind the escape of a null character do not belong to it. -/
example : stringLiteral "\x00\u00851" = "\"\\0\\u00851\"" := by decide

end TypedHub.CSharp
