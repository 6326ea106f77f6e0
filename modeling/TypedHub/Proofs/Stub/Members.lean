import Mathlib.Data.List.Basic
import TypedHub.Stub.Source

/-!
# The members of the written types by kind

The members of a type are one list of different kinds, and readers look at them one kind at a time.
Here it is said what they find in the class and in the interface of a stub.
-/

namespace TypedHub

open CSharp

/-! ## Pairs of members -/

section Pairs

variable {α β : Type} (f g : α → β) (list : List α) (i : Nat)

theorem getElem?_flatMap_pair_even :
    (list.flatMap fun a => [f a, g a])[2 * i]? = list[i]?.map f := by
  induction list generalizing i with
  | nil => rfl
  | cons a rest ih =>
    cases i with
    | zero => rfl
    | succ i => exact ih i

theorem getElem?_flatMap_pair_odd :
    (list.flatMap fun a => [f a, g a])[2 * i + 1]? = list[i]?.map g := by
  induction list generalizing i with
  | nil => rfl
  | cons a rest ih =>
    cases i with
    | zero => rfl
    | succ i => exact ih i

theorem length_flatMap_pair : (list.flatMap fun a => [f a, g a]).length = 2 * list.length := by
  induction list with
  | nil => rfl
  | cons a rest ih =>
    rw [List.flatMap_cons, List.length_append, ih, List.length_cons]
    exact Nat.add_comm 2 _

end Pairs

namespace Stub

variable {settings : Settings} {stub : Stub} {method : Signature} {i : Nat}

/-! ## The class -/

theorem methods_classDecl :
    (stub.classDecl settings).methods =
      (stub.methods .outgoing).flatMap fun method =>
        [method.forwarding settings, method.cancellable settings] := by
  simp [TypeDecl.methods, classDecl, classMembers, List.filterMap_append, List.filterMap_flatMap]

theorem events_classDecl :
    (stub.classDecl settings).events =
      (stub.methods .incoming).map (·.classEvent settings stub.interfaceName) := by
  simp [TypeDecl.events, classDecl, classMembers, List.filterMap_append, List.filterMap_flatMap]

theorem constructor?_classDecl :
    (stub.classDecl settings).constructor? = some (stub.constructor settings) := by
  rw [TypeDecl.constructor?, classDecl, classMembers, List.findSome?_append,
    List.findSome?_eq_none_iff.2 ?_]
  · rfl
  · intro member mem
    simp only [List.mem_append, List.mem_flatMap, List.mem_map, List.mem_cons, List.not_mem_nil,
      or_false] at mem
    obtain (rfl | ⟨_, -, rfl | rfl⟩) | ⟨_, -, rfl⟩ := mem <;> rfl

theorem forwarding_classDecl (h : (stub.methods .outgoing)[i]? = some method) :
    (stub.classDecl settings).methods[2 * i]? = some (method.forwarding settings) := by
  rw [methods_classDecl, getElem?_flatMap_pair_even, h, Option.map_some]

theorem cancellable_classDecl (h : (stub.methods .outgoing)[i]? = some method) :
    (stub.classDecl settings).methods[2 * i + 1]? = some (method.cancellable settings) := by
  rw [methods_classDecl, getElem?_flatMap_pair_odd, h, Option.map_some]

/-! ## The interface -/

theorem methods_interfaceDecl :
    (stub.interfaceDecl settings).methods =
      (stub.methods .outgoing).map (·.declaration settings) := by
  simp [TypeDecl.methods, interfaceDecl, interfaceMembers, List.filterMap_append,
    List.filterMap_flatMap]

theorem events_interfaceDecl :
    (stub.interfaceDecl settings).events = (stub.methods .incoming).map (·.interfaceEvent) := by
  simp [TypeDecl.events, interfaceDecl, interfaceMembers, List.filterMap_append,
    List.filterMap_flatMap, List.map_eq_flatMap]

theorem delegates_interfaceDecl :
    (stub.interfaceDecl settings).delegates =
      (stub.methods .incoming).map (·.delegate stub.interfaceName) := by
  simp [TypeDecl.delegates, interfaceDecl, interfaceMembers, List.filterMap_append,
    List.filterMap_flatMap, List.map_eq_flatMap]

theorem declaration_interfaceDecl (h : (stub.methods .outgoing)[i]? = some method) :
    (stub.interfaceDecl settings).methods[i]? = some (method.declaration settings) := by
  rw [methods_interfaceDecl, List.getElem?_map, h, Option.map_some]

theorem delegate_interfaceDecl (h : (stub.methods .incoming)[i]? = some method) :
    (stub.interfaceDecl settings).delegates[i]? = some (method.delegate stub.interfaceName) := by
  rw [delegates_interfaceDecl, List.getElem?_map, h, Option.map_some]

end Stub

end TypedHub
