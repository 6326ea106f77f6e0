import Mathlib.Data.List.Induction
import Mathlib.Data.List.Nodup
import TypedHub.Stub.Clash
import TypedHub.Stub.Members

/-!
# When a stub has no clashes

The groups that the checks work on have a closed form (`groupPairs_eq`): a group for each key at its
first occurrence, with the values of that key in order. From it follows what a stub without clashes
is like (`clashes_eq_nil_iff`).
-/

namespace TypedHub

section Groups

variable {κ α : Type} [DecidableEq κ]

/-! ## First occurrences -/

theorem firstOccurrences_concat (values : List κ) (value : κ) :
    firstOccurrences (values ++ [value]) =
      if value ∈ firstOccurrences values then firstOccurrences values
      else firstOccurrences values ++ [value] := by
  rw [firstOccurrences, List.foldl_append]
  rfl

@[simp]
theorem mem_firstOccurrences {values : List κ} {a : κ} :
    a ∈ firstOccurrences values ↔ a ∈ values := by
  induction values using List.reverseRecOn with
  | nil => simp [firstOccurrences]
  | append_singleton values value ih =>
    rw [firstOccurrences_concat]
    split
    · next h =>
      rw [ih, List.mem_append, List.mem_singleton, iff_self_or]
      rintro rfl
      exact ih.1 h
    · rw [List.mem_append, List.mem_append, ih]

theorem nodup_firstOccurrences (values : List κ) : (firstOccurrences values).Nodup := by
  induction values using List.reverseRecOn with
  | nil => exact List.nodup_nil
  | append_singleton values value ih =>
    rw [firstOccurrences_concat]
    split
    · exact ih
    · next h =>
      rw [← List.concat_eq_append]
      exact ih.concat h

/-- One value is left if and only if all are equal. -/
theorem length_firstOccurrences_le_one_iff {values : List κ} :
    (firstOccurrences values).length ≤ 1 ↔ ∀ a ∈ values, ∀ b ∈ values, a = b := by
  have distinct := nodup_firstOccurrences values
  simp only [← @mem_firstOccurrences _ _ values]
  match firstOccurrences values, distinct with
  | [], _ => simp
  | [_], _ => simp
  | a :: b :: rest, distinct =>
    have ne : a ≠ b := by
      rintro rfl
      simp at distinct
    simp only [List.length_cons]
    refine ⟨fun h => by omega, fun h => absurd (h a (by simp) b (by simp)) ne⟩

/-! ## Groups -/

/-- Adding a value to groups given by a list of keys and a function. -/
theorem addToGroup_map {keys : List κ} (distinct : keys.Nodup) (group : κ → List α) (key : κ)
    (value : α) :
    addToGroup key value (keys.map fun k => (k, group k)) =
      if key ∈ keys then keys.map fun k => (k, if k = key then group k ++ [value] else group k)
      else (keys.map fun k => (k, group k)) ++ [(key, [value])] := by
  induction keys with
  | nil => simp [addToGroup]
  | cons first rest ih =>
    rw [List.nodup_cons] at distinct
    by_cases h : first = key
    · subst h
      have others : rest.map (fun k => (k, group k)) =
          rest.map fun k => (k, if k = first then group k ++ [value] else group k) :=
        List.map_congr_left fun k mem => by
          have other : k ≠ first := fun h => distinct.1 (h ▸ mem)
          rw [if_neg other]
      simp [addToGroup, others]
    · simp only [List.map_cons, addToGroup, if_neg h, ih distinct.2, List.mem_cons, Ne.symm h,
        false_or]
      split <;> simp

/-- **There is one group for each key, at the first occurrence of the key, with all values of the
key in their order.** -/
theorem groupPairs_eq (pairs : List (κ × α)) :
    groupPairs pairs =
      (firstOccurrences (pairs.map (·.1))).map fun key =>
        (key, (pairs.filter (·.1 = key)).map (·.2)) := by
  induction pairs using List.reverseRecOn with
  | nil => rfl
  | append_singleton pairs pair ih =>
    have step : groupPairs (pairs ++ [pair]) = addToGroup pair.1 pair.2 (groupPairs pairs) := by
      simp [groupPairs, List.foldl_append]
    rw [step, ih, addToGroup_map (nodup_firstOccurrences _), List.map_append, List.map_singleton,
      firstOccurrences_concat]
    split
    · refine List.map_congr_left fun key _ => ?_
      by_cases h : key = pair.1
      · simp [h, List.filter_append]
      · simp [h, Ne.symm h, List.filter_append]
    · next new =>
      rw [List.map_append, List.map_singleton]
      congr 1
      · refine List.map_congr_left fun key mem => ?_
        have h : pair.1 ≠ key := fun h => new (h ▸ mem)
        simp [h, List.filter_append]
      · have none : pairs.filter (·.1 = pair.1) = [] := by
          rw [List.filter_eq_nil_iff]
          intro other mem same
          rw [mem_firstOccurrences] at new
          exact new (of_decide_eq_true same ▸ List.mem_map_of_mem mem)
        simp [none, List.filter_append]

theorem length_filter_key (pairs : List (κ × α)) (key : κ) :
    (pairs.filter (·.1 = key)).length = (pairs.map (·.1)).count key := by
  induction pairs with
  | nil => rfl
  | cons pair rest ih => by_cases h : pair.1 = key <;> simp [h, ih]

end Groups

/-! ## The checks -/

namespace Stub

/-- The methods of both roles, first those that become methods of the class. -/
def allMethods (stub : Stub) : List Signature := stub.methods .outgoing ++ stub.methods .incoming

variable {stub : Stub}

theorem names_methodsWithContract (stub : Stub) (role : Role) :
    (((stub.methodsWithContract role).map fun (contract, method) =>
        (method.name, contract.name)).map (·.1)) = (stub.methods role).map (·.name) := by
  simp only [methodsWithContract, methods, List.map_map, List.map_flatMap]
  rfl

theorem duplicateMethods_eq_nil_iff {role : Role} :
    stub.duplicateMethods role = [] ↔ ((stub.methods role).map (·.name)).Nodup := by
  rw [duplicateMethods, groupPairs_eq, names_methodsWithContract, List.filterMap_eq_nil_iff,
    List.nodup_iff_count_le_one]
  simp only [List.forall_mem_map, ite_eq_right_iff, reduceCtorEq, imp_false, Nat.not_lt,
    List.length_map, length_filter_key, names_methodsWithContract, mem_firstOccurrences]
  constructor
  · intro h name
    by_cases mem : name ∈ (stub.methods role).map (·.name)
    · obtain ⟨method, declared, rfl⟩ := List.mem_map.1 mem
      exact h method declared
    · rw [List.count_eq_zero_of_not_mem mem]
      omega
  · exact fun h method _ => h method.name

theorem sharedHandlers_eq_nil_iff :
    stub.sharedHandlers = [] ↔
      ∀ a ∈ stub.methods .incoming, ∀ b ∈ stub.methods .incoming,
        handlerName a.name = handlerName b.name → a.name = b.name := by
  rw [sharedHandlers, groupPairs_eq, List.filterMap_eq_nil_iff]
  simp only [List.forall_mem_map, ite_eq_right_iff, reduceCtorEq, imp_false, Nat.not_lt,
    mem_firstOccurrences, length_firstOccurrences_le_one_iff, List.mem_filter, and_imp,
    decide_eq_true_eq]
  constructor
  · intro h a ha b hb same
    exact h a ha a ha rfl b hb same.symm
  · intro h method _ a ha toA b hb toB
    exact h a ha b hb (toA.trans toB.symm)

theorem namesInBothRoles_eq_nil_iff :
    stub.namesInBothRoles = [] ↔
      ∀ a ∈ stub.methods .incoming, ∀ b ∈ stub.methods .outgoing, a.name ≠ b.name := by
  rw [namesInBothRoles, List.map_eq_nil_iff, List.filter_eq_nil_iff]
  simp only [mem_firstOccurrences, decide_eq_true_eq]
  constructor
  · intro h a ha b hb same
    exact h a.name (List.mem_map_of_mem ha) (same ▸ List.mem_map_of_mem hb)
  · intro h name incoming outgoing
    obtain ⟨a, ha, rfl⟩ := List.mem_map.1 incoming
    obtain ⟨b, hb, same⟩ := List.mem_map.1 outgoing
    exact h a ha b hb same.symm

/-- A stub has no clashes if and only if no two methods have the same name, in whatever roles, and no
two incoming methods the same handler name. -/
theorem clashes_eq_nil_iff :
    stub.clashes = [] ↔
      (stub.allMethods.map (·.name)).Nodup ∧ ((stub.methods .incoming).map (·.handler)).Nodup := by
  rw [clashes, List.append_eq_nil_iff, List.append_eq_nil_iff, List.append_eq_nil_iff,
    duplicateMethods_eq_nil_iff, duplicateMethods_eq_nil_iff, sharedHandlers_eq_nil_iff,
    namesInBothRoles_eq_nil_iff, allMethods, List.map_append, List.nodup_append]
  constructor
  · rintro ⟨⟨⟨incoming, outgoing⟩, handlers⟩, roles⟩
    refine ⟨⟨outgoing, incoming, ?_⟩, ?_⟩
    · simp only [List.forall_mem_map]
      exact fun a ha b hb same => roles b hb a ha same.symm
    · -- The names are distinct, so it is enough that distinct names have distinct handlers.
      exact (List.Nodup.of_map _ incoming).map_on fun a ha b hb same =>
        List.inj_on_of_nodup_map incoming ha hb (handlers a ha b hb same)
  · rintro ⟨⟨outgoing, incoming, roles⟩, handlers⟩
    refine ⟨⟨⟨incoming, outgoing⟩, ?_⟩, ?_⟩
    · intro a ha b hb same
      rw [List.inj_on_of_nodup_map handlers ha hb same]
    · intro a ha b hb same
      exact roles _ (List.mem_map_of_mem hb) _ (List.mem_map_of_mem ha) same.symm

end Stub

end TypedHub
