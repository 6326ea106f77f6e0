import Mathlib.Data.List.Basic
import TypedHub.Stub.Completion

/-!
# How return types are read

The return type of a method says how its calls complete: nothing at all, an awaitable with or
without a result, or a plain value. What is known of it is a name, and an awaitable is known by the
form of that name. Here the forms are written down one by one (`Completes`), without any reading,
and the reader finds for each name what its form says (`completes_iff`).
-/

namespace TypedHub

/-! ## The forms of type names -/

/-- What may stand in front of a full type name: nothing, or the alias of the global namespace. -/
def globalAliases : List String := ["", "global::"]

/-- The name of an awaitable, with or without a result. -/
def IsAwaitableName (name : String) : Prop :=
  ∃ front ∈ globalAliases, ∃ kind : Awaitable, name = front ++ kind.text ∨
    ∃ result, name = front ++ kind.text ++ "<" ++ result ++ ">"

/-- How the calls of a method with the result complete, by the form of the type name. -/
inductive Result.Completes : Result → Completion → Prop
  | nothing : Completes .nothing .nothing
  | awaitable {front : String} (qualified : front ∈ globalAliases) (kind : Awaitable) :
    Completes (.type (front ++ kind.text)) (.awaitable kind)
  | awaitableOf {front : String} (qualified : front ∈ globalAliases) (kind : Awaitable)
    (result : String) :
    Completes (.type (front ++ kind.text ++ "<" ++ result ++ ">")) (.awaitableOf kind result)
  | value {name : String} (other : ¬ IsAwaitableName name) : Completes (.type name) (.value name)

/-- A result that carries a value of the given type, at once or by an awaitable. -/
def Result.Carries (result : Result) (type : String) : Prop :=
  ∃ completion, result.Completes completion ∧ completion.result? = some type

/-! ## Reading them -/

namespace Completion

variable {kind : Awaitable} {name rest : List Char} {completion : Completion}

theorem ofAwaitable?_eq_some (h : ofAwaitable? kind name = some completion) :
    name = kind.text.toList ∧ completion = awaitable kind ∨
      ∃ result, name = kind.text.toList ++ '<' :: (result ++ ['>']) ∧
        completion = awaitableOf kind (String.ofList result) := by
  unfold ofAwaitable? at h
  split at h
  · next bare =>
    rw [Text.behind?_eq_some_iff, List.append_nil] at bare
    exact .inl ⟨bare, (Option.some.inj h).symm⟩
  · next behind =>
    rw [Text.behind?_eq_some_iff] at behind
    obtain ⟨result, before, rfl⟩ := Option.map_eq_some_iff.1 h
    rw [Text.before?_eq_some_iff] at before
    exact .inr ⟨result, by rw [behind, before], rfl⟩
  · cases h

theorem ofAwaitable?_text (kind : Awaitable) :
    ofAwaitable? kind kind.text.toList = some (awaitable kind) := by
  have behind : Text.behind? kind.text.toList kind.text.toList = some [] := by
    rw [Text.behind?_eq_some_iff, List.append_nil]
  rw [ofAwaitable?, behind]

theorem ofAwaitable?_result (kind : Awaitable) (result : List Char) :
    ofAwaitable? kind (kind.text.toList ++ '<' :: (result ++ ['>'])) =
      some (awaitableOf kind (String.ofList result)) := by
  have behind := Text.behind?_eq_some_iff.2
    (rfl : kind.text.toList ++ '<' :: (result ++ ['>']) = _ ++ _)
  have before : Text.before? ['>'] (result ++ ['>']) = some result :=
    Text.before?_eq_some_iff.2 rfl
  rw [ofAwaitable?, behind]
  exact congrArg (Option.map fun result => awaitableOf kind (String.ofList result)) before

/-- A name of the one kind of awaitables is not a name of the other one. -/
theorem ofAwaitable?_other (rest : List Char) :
    ofAwaitable? .task (Awaitable.valueTask.text.toList ++ rest) = none := rfl

/-- The alias of the global namespace is left out. -/
theorem behind?_alias {front : String} (qualified : front ∈ globalAliases) (kind : Awaitable)
    (rest : List Char) :
    let name := front.toList ++ kind.text.toList ++ rest
    (Text.behind? "global::".toList name).getD name = kind.text.toList ++ rest := by
  obtain rfl | rfl := List.mem_pair.1 qualified
  · cases kind <;> rfl
  · cases kind <;> rfl

/-- A name is what is left of it behind an alias. -/
theorem exists_alias (name : List Char) :
    ∃ front ∈ globalAliases,
      name = front.toList ++ (Text.behind? "global::".toList name).getD name := by
  cases h : Text.behind? "global::".toList name with
  | none => exact ⟨"", by decide, rfl⟩
  | some rest => exact ⟨"global::", by decide, Text.behind?_eq_some_iff.1 h⟩

/-- The names that are read as awaitables are theirs. -/
theorem isAwaitableName_of_ofAwaitable? {name : String}
    (h : ofAwaitable? kind ((Text.behind? "global::".toList name.toList).getD name.toList) =
      some completion) : IsAwaitableName name := by
  obtain ⟨front, qualified, eq⟩ := exists_alias name.toList
  refine ⟨front, qualified, kind, ?_⟩
  rcases ofAwaitable?_eq_some h with ⟨bare, -⟩ | ⟨result, bare, -⟩
  · rw [bare] at eq
    exact .inl (String.toList_injective (by rw [eq, String.toList_append]))
  · rw [bare] at eq
    refine .inr ⟨String.ofList result, String.toList_injective ?_⟩
    simp [eq]

theorem of_awaitable {front : String} (qualified : front ∈ globalAliases) (kind : Awaitable) :
    of (.type (front ++ kind.text)) = awaitable kind := by
  have bare := behind?_alias qualified kind []
  rw [List.append_nil, List.append_nil] at bare
  rw [of, String.toList_append]
  dsimp only at bare ⊢
  rw [bare]
  cases kind with
  | task => rw [ofAwaitable?_text]; rfl
  | valueTask =>
    have other := ofAwaitable?_other []
    rw [List.append_nil] at other
    rw [other, ofAwaitable?_text]
    rfl

theorem of_awaitableOf {front : String} (qualified : front ∈ globalAliases) (kind : Awaitable)
    (result : String) :
    of (.type (front ++ kind.text ++ "<" ++ result ++ ">")) = awaitableOf kind result := by
  have bare := behind?_alias qualified kind ('<' :: (result.toList ++ ['>']))
  have chars : (front ++ kind.text ++ "<" ++ result ++ ">").toList =
      front.toList ++ kind.text.toList ++ '<' :: (result.toList ++ ['>']) := by
    simp
  rw [of, chars]
  dsimp only at bare ⊢
  rw [bare]
  cases kind with
  | task => rw [ofAwaitable?_result, String.ofList_toList]; rfl
  | valueTask => rw [ofAwaitable?_other, ofAwaitable?_result, String.ofList_toList]; rfl

theorem of_value {name : String} (other : ¬ IsAwaitableName name) :
    of (.type name) = value name := by
  have none (kind : Awaitable) :
      ofAwaitable? kind ((Text.behind? "global::".toList name.toList).getD name.toList) = none := by
    rw [Option.eq_none_iff_forall_not_mem]
    intro completion h
    exact other (isAwaitableName_of_ofAwaitable? h)
  rw [of, none, none]
  rfl

end Completion

/-- **A return type is read as what its form says.** -/
theorem Result.completes_iff {result : Result} {completion : Completion} :
    result.Completes completion ↔ Completion.of result = completion := by
  have of_completes {completion : Completion} (h : result.Completes completion) :
      Completion.of result = completion := by
    cases h with
    | nothing => rfl
    | awaitable qualified kind => exact Completion.of_awaitable qualified kind
    | awaitableOf qualified kind type => exact Completion.of_awaitableOf qualified kind type
    | value other => exact Completion.of_value other
  have total : ∃ completion, result.Completes completion := by
    cases result with
    | nothing => exact ⟨_, .nothing⟩
    | type name =>
      by_cases h : IsAwaitableName name
      · obtain ⟨front, qualified, kind, rfl | ⟨type, rfl⟩⟩ := h
        · exact ⟨_, .awaitable qualified kind⟩
        · exact ⟨_, .awaitableOf qualified kind type⟩
      · exact ⟨_, .value h⟩
  constructor
  · exact of_completes
  · rintro rfl
    obtain ⟨completion, h⟩ := total
    rwa [of_completes h]

/-- A plain value has the type that is declared. -/
theorem Result.Completes.eq_type {result : Result} {type : String}
    (h : result.Completes (.value type)) : result = .type type := by
  cases h with
  | value _ => rfl

theorem Result.Completes.exists_eq_type {result : Result} {completion : Completion}
    (h : result.Completes completion) (some : completion ≠ .nothing) :
    ∃ type, result = .type type := by
  cases h with
  | nothing => exact absurd rfl some
  | awaitable | awaitableOf | value => exact ⟨_, rfl⟩

theorem Result.carries_iff {result : Result} {type : String} :
    result.Carries type ↔ (Completion.of result).result? = some type := by
  simp only [Carries, completes_iff, exists_eq_left']

end TypedHub
