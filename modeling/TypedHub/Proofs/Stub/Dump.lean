import Mathlib.Data.List.Basic
import TypedHub.Proofs.Json.Printing
import TypedHub.Stub.Dump

/-!
# The dump loses nothing

Each part of a stub is dumped with all of its fields, and different parts of a kind are dumped as
different values (the lemmas `toJson_injective`, from the results up to the stubs). No numbers are
dumped, so the dump can also be told from its text (`Stub.dump_injective`).
-/

namespace TypedHub

open Function (Injective)

/-! ## Values -/

/-- Records with the same keys are told apart by their values. -/
theorem Json.object_cons_eq_iff {key : String} {value value' : Json}
    {members members' : List (String × Json)} :
    object ((key, value) :: members) = object ((key, value') :: members') ↔
      value = value' ∧ object members = object members' := by
  simp

theorem Result.toJson_injective : Injective Result.toJson := by
  intro result other same
  cases result with
  | nothing =>
    cases other with
    | nothing => rfl
    | type name => cases same
  | type name =>
    cases other with
    | nothing => cases same
    | type name' =>
      simp only [toJson, Json.object_cons_eq_iff, Json.string.injEq, and_true] at same
      rw [same]

/-- A default is dumped as a text, and null stands where there is none. -/
theorem defaultJson_injective : Injective fun default : Option String =>
    match default with
    | some text => Json.string text
    | none => .null := by
  intro default other same
  cases default with
  | none =>
    cases other with
    | none => rfl
    | some text => cases same
  | some text =>
    cases other with
    | none => cases same
    | some text' => rw [Json.string.inj same]

theorem Parameter.toJson_injective : Injective Parameter.toJson := by
  intro parameter other same
  obtain ⟨type, name, nullable, default, isVariadic⟩ := parameter
  obtain ⟨type', name', nullable', default', isVariadic'⟩ := other
  simp only [toJson, Json.object_cons_eq_iff, Json.string.injEq, Json.bool.injEq, and_true] at same
  obtain ⟨rfl, rfl, rfl, defaults, rfl⟩ := same
  rw [defaultJson_injective defaults]

theorem Signature.toJson_injective : Injective Signature.toJson := by
  intro method other same
  obtain ⟨name, result, parameters⟩ := method
  obtain ⟨name', result', parameters'⟩ := other
  simp only [toJson, Json.object_cons_eq_iff, Json.string.injEq, Json.array.injEq, and_true] at same
  obtain ⟨rfl, results, lists⟩ := same
  rw [Result.toJson_injective results, Parameter.toJson_injective.list_map lists]

theorem Contract.toJson_injective : Injective Contract.toJson := by
  intro contract other same
  obtain ⟨name, methods⟩ := contract
  obtain ⟨name', methods'⟩ := other
  simp only [toJson, Json.object_cons_eq_iff, Json.string.injEq, Json.array.injEq, and_true] at same
  obtain ⟨rfl, lists⟩ := same
  rw [Signature.toJson_injective.list_map lists]

theorem Visibility.word_injective : Injective Visibility.word := by
  intro visibility other same
  cases visibility <;> cases other <;> first | rfl | exact absurd same (by decide)

theorem Stub.toJson_injective : Injective Stub.toJson := by
  intro stub other same
  obtain ⟨className, containingNamespace, visibility, outgoing, incoming⟩ := stub
  obtain ⟨className', containingNamespace', visibility', outgoing', incoming'⟩ := other
  simp only [toJson, Json.object_cons_eq_iff, Json.string.injEq, Json.array.injEq, and_true] at same
  obtain ⟨rfl, rfl, words, outgoing, incoming⟩ := same
  rw [Visibility.word_injective words, Contract.toJson_injective.list_map outgoing,
    Contract.toJson_injective.list_map incoming]

/-! ## Texts -/

section

variable (depth : Nat)

theorem Result.numberFree_toJson (result : Result) : result.toJson.NumberFree (depth + 1) := by
  cases result <;> simp [toJson]

theorem Parameter.numberFree_toJson (parameter : Parameter) :
    parameter.toJson.NumberFree (depth + 1) := by
  cases text : parameter.defaultText <;> simp [toJson, text]

theorem Signature.numberFree_toJson (method : Signature) :
    method.toJson.NumberFree (depth + 3) := by
  simp [toJson, Result.numberFree_toJson, Parameter.numberFree_toJson]

theorem Contract.numberFree_toJson (contract : Contract) :
    contract.toJson.NumberFree (depth + 5) := by
  simp [toJson, Signature.numberFree_toJson]

theorem Stub.numberFree_toJson (stub : Stub) : stub.toJson.NumberFree (depth + 7) := by
  simp [toJson, Contract.numberFree_toJson]

theorem Stub.numberFree_dump (stubs : List Stub) : (dump stubs).NumberFree (depth + 8) := by
  simp [dump, Stub.numberFree_toJson]

end

/-- **Different lists of stubs have different dumps, and different texts are printed for them.** In
particular no result can be mistaken for a type, whatever its name is, and no missing default for
one that is given, whatever its text is. -/
theorem Stub.dump_injective :
    Injective Stub.dump ∧ Injective (fun stubs => (Stub.dump stubs).pretty 0) ∧
    (∀ (method : Signature) (name : String),
      { method with result := .nothing }.toJson ≠ { method with result := .type name }.toJson) ∧
    ∀ (parameter : Parameter) (text : String),
      { parameter with defaultText := none }.toJson ≠
        { parameter with defaultText := some text }.toJson := by
  have values : Injective Stub.dump := fun stubs others same =>
    Stub.toJson_injective.list_map (Json.array.inj same)
  refine ⟨values, fun stubs others same => ?texts, fun method name same => ?results,
    fun parameter text same => ?defaults⟩
  case texts =>
    exact values (Json.pretty_injective (numberFree_dump 0 stubs) (numberFree_dump 0 others) same)
  case results => cases congrArg Signature.result (Signature.toJson_injective same)
  case defaults => cases congrArg Parameter.defaultText (Parameter.toJson_injective same)

end TypedHub
