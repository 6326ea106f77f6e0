import TypedHub.Proofs.Stub.Reachability
import TypedHub.Proofs.Stub.Traversal

/-!
# More roots

What further roots add to the contracts (`reachable_append`). The walk from them begins where the
walk from the first roots has ended, and takes other ways than it would on its own. But both are
plain traversals without what has been seen (`walk_roots`), and the plain traversals from the roots
of a list do not depend on each other.
-/

namespace TypedHub

open Metadata

variable {compilation : Compilation}

/-! ## Types without those that have been seen -/

/-- Which names have been visited matters, and not in which order. -/
theorem unseen_congr {visited visited' : List String}
    (same : ∀ name, name ∈ visited ↔ name ∈ visited') (types : List TypeSymbol) :
    unseen visited types = unseen visited' types := by
  induction types generalizing visited visited' with
  | nil => rfl
  | cons type rest ih =>
    have more : ∀ name, name ∈ type.qualifiedName :: visited ↔
        name ∈ type.qualifiedName :: visited' := by
      intro name
      rw [List.mem_cons, List.mem_cons, same]
    rw [unseen, unseen, ih same, ih more]
    simp only [same]

theorem unseen_cons_visited_of_mem {visited : List String} {name : String} (old : name ∈ visited)
    (types : List TypeSymbol) : unseen (name :: visited) types = unseen visited types := by
  refine unseen_congr (fun other => ?_) types
  rw [List.mem_cons]
  exact or_iff_right_of_imp fun same => same ▸ old

theorem unseen_visited_middle (extra visited : List String) (name : String)
    (types : List TypeSymbol) :
    unseen (extra ++ name :: visited) types = unseen (name :: (extra ++ visited)) types :=
  unseen_congr (fun _ => List.perm_middle.mem_iff) types

/-- To have visited more names is to leave their types out. -/
theorem unseen_append_visited (extra visited : List String) (types : List TypeSymbol) :
    unseen (extra ++ visited) types =
      (unseen visited types).filter (·.qualifiedName ∉ extra) := by
  induction types generalizing visited with
  | nil => rfl
  | cons type rest ih =>
    rw [unseen, unseen]
    by_cases old : type.qualifiedName ∈ visited
    · rw [if_pos (List.mem_append_right _ old), if_pos old, ih]
    · rw [if_neg old]
      by_cases listed : type.qualifiedName ∈ extra
      · -- the name is among the extra ones already, so that it need not be added
        have added := List.mem_append_left visited listed
        rw [if_pos added, List.filter_cons_of_neg (by simpa using listed), ← ih,
          unseen_visited_middle, unseen_cons_visited_of_mem added]
      · have new : type.qualifiedName ∉ extra ++ visited := by
          rw [List.mem_append, not_or]
          exact ⟨listed, old⟩
        rw [if_neg new, List.filter_cons_of_pos (by simpa using listed), ← ih,
          unseen_visited_middle]

theorem unseen_append (visited : List String) (front back : List TypeSymbol) :
    unseen visited (front ++ back) =
      unseen visited front ++ unseen (front.map (·.qualifiedName) ++ visited) back := by
  induction front generalizing visited with
  | nil => rfl
  | cons type rest ih =>
    rw [List.cons_append, List.map_cons, List.cons_append, unseen, unseen]
    by_cases old : type.qualifiedName ∈ visited
    · rw [if_pos old, if_pos old, ih, unseen_cons_visited_of_mem (List.mem_append_right _ old)]
    · rw [if_neg old, if_neg old, ih, unseen_visited_middle, List.cons_append]

theorem mem_names_unseen {types : List TypeSymbol} {name : String} :
    name ∈ (unseen [] types).map (·.qualifiedName) ↔ name ∈ types.map (·.qualifiedName) := by
  -- nothing but repetitions is left out, whatever has been visited
  have key (visited : List String) : name ∈ visited ∨
      name ∈ (unseen visited types).map (·.qualifiedName) ↔
        name ∈ visited ∨ name ∈ types.map (·.qualifiedName) := by
    induction types generalizing visited with
    | nil => rfl
    | cons type rest ih =>
      rw [unseen, List.map_cons, List.mem_cons]
      by_cases old : type.qualifiedName ∈ visited
      · rw [if_pos old, ih]
        constructor
        · tauto
        · rintro (mem | rfl | mem)
          · exact .inl mem
          · exact .inl old
          · exact .inr mem
      · have both := ih (type.qualifiedName :: visited)
        rw [List.mem_cons] at both
        rw [if_neg old, List.map_cons, List.mem_cons]
        tauto
  simpa using key []

/-! ## Walks from roots -/

/-- The walk from roots gives what the plain traversals from them give, without the repetitions. -/
theorem walk_roots (compilation : Compilation) (roots : List String) :
    walk compilation [] roots = unseen [] (roots.flatMap (traversal compilation [])) := by
  have walked := walk_eq_unseen (Frontier.roots compilation roots)
  rwa [Visit.name_all, Visit.all, List.flatMap_map] at walked

/-- Further roots add what their own walk gives, except for what the first roots have given. -/
theorem walk_append (compilation : Compilation) (xs ys : List String) :
    walk compilation [] (xs ++ ys) = walk compilation [] xs ++
      (walk compilation [] ys).filter
        (·.qualifiedName ∉ (walk compilation [] xs).map (·.qualifiedName)) := by
  simp only [walk_roots, List.flatMap_append, unseen_append, unseen_append_visited,
    mem_names_unseen]

/-- A root that has been reached adds nothing. -/
theorem walk_append_reached {xs : List String} {root : String}
    (reached : root ∈ (walk compilation [] xs).map (·.qualifiedName)) :
    walk compilation [] (xs ++ [root]) = walk compilation [] xs := by
  have none : (walk compilation [] [root]).filter
      (·.qualifiedName ∉ (walk compilation [] xs).map (·.qualifiedName)) = [] := by
    rw [List.filter_eq_nil_iff]
    intro type mem
    have below : Reaches compilation [root] type.qualifiedName :=
      mem_names_walk_iff.1 (List.mem_map_of_mem mem)
    have known := mem_names_walk_iff.2 ((mem_names_walk_iff.1 reached).trans below)
    simpa using known
  rw [walk_append, none, List.append_nil]

/-- **Further roots only add contracts behind those of the first roots.** They are the contracts of
the further roots in their order, without those whose name is among the first ones. So a root whose
name is among the contracts of the roots before it makes no difference. -/
theorem reachable_append (compilation : Compilation) (xs ys : List String) :
    Contract.reachable compilation (xs ++ ys) = Contract.reachable compilation xs ++
        (Contract.reachable compilation ys).filter
          (·.name ∉ (Contract.reachable compilation xs).map (·.name)) ∧
      ∀ root ∈ (Contract.reachable compilation xs).map (·.name),
        Contract.reachable compilation (xs ++ root :: ys) =
          Contract.reachable compilation (xs ++ ys) := by
  refine ⟨?_, fun root reached => ?_⟩
  · rw [names_reachable]
    simp only [Contract.reachable]
    rw [walk_append, List.map_append, List.filter_map]
    rfl
  · rw [names_reachable] at reached
    have split : xs ++ root :: ys = xs ++ [root] ++ ys := by simp
    simp only [Contract.reachable]
    rw [split, walk_append _ (xs ++ [root]), walk_append_reached reached, ← walk_append]

theorem reachable_append_ring :
    "IAnswer" ∈ (Contract.reachable ring ["ICall"]).map (·.name) ∧
      Contract.reachable ring ["ICall", "IAnswer", "ICall"] =
        Contract.reachable ring ["ICall", "ICall"] := by
  have reached : "IAnswer" ∈ (Contract.reachable ring ["ICall"]).map (·.name) := by
    rw [names_reachable, mem_names_walk_iff]
    exact reaches_ring
  exact ⟨reached, (reachable_append ring ["ICall"] ["ICall"]).2 "IAnswer" reached⟩

end TypedHub
