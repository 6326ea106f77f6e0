import Mathlib.Data.List.Basic
import TypedHub.Stub.Clash
import TypedHub.Stub.Contracts

/-!
# The walk and the plain traversal

The walk over the contracts of a compilation visits no interface twice. Here it is compared with the
plain traversal, which keeps no account of what it has visited: an interface, then the traversals of
its bases, stopping only at an interface that it is already below. The walk gives what the plain
traversal gives, without the repetitions (`reachable_eq_firstOccurrences`).

## Why nothing is lost

Where the walk passes over a name, it passes over the whole traversal from there. So all of that
must have been visited before. It has, by an invariant on the names that are still pending
(`Frontier`): an interface that has been visited, and that no pending name is below, has no base
left that has not been visited.
-/

namespace TypedHub

open Metadata

variable {compilation : Compilation}

/-! ## The plain traversal -/

/-- The interfaces of the plain traversal from a name, below the interfaces of the path. -/
def traversal (compilation : Compilation) (path : List String) (name : String) : List TypeSymbol :=
  if new : name ∈ path then []
  else
    match h : compilation.interface? name with
    | none => []
    | some type =>
      have := unvisited_cons_lt h new
      type :: type.bases.flatMap (traversal compilation (name :: path))
termination_by unvisited compilation path

theorem traversal_of_mem {path : List String} {name : String} (h : name ∈ path) :
    traversal compilation path name = [] := by
  rw [traversal, dif_pos h]

theorem traversal_of_none {path : List String} {name : String}
    (h : compilation.interface? name = none) : traversal compilation path name = [] := by
  rw [traversal]
  split
  · rfl
  · split
    · rfl
    · next found => rw [h] at found; cases found

theorem traversal_of_some {path : List String} {name : String} {type : TypeSymbol}
    (new : name ∉ path) (h : compilation.interface? name = some type) :
    traversal compilation path name =
      type :: type.bases.flatMap (traversal compilation (name :: path)) := by
  rw [traversal, dif_neg new]
  split
  · next missing => rw [h] at missing; cases missing
  · next found => rw [h] at found; cases found; rfl

/-- What the traversal meets are the interfaces that their names stand for. -/
theorem interface?_of_mem_traversal {path : List String} {name : String} {type : TypeSymbol}
    (mem : type ∈ traversal compilation path name) :
    compilation.interface? type.qualifiedName = some type := by
  induction path, name using traversal.induct compilation with
  | case1 path name h =>
    rw [traversal_of_mem h] at mem
    cases mem
  | case2 path name new missing =>
    rw [traversal_of_none missing] at mem
    cases mem
  | case3 path name new found h _ ih =>
    rw [traversal_of_some new h] at mem
    obtain rfl | below := List.mem_cons.1 mem
    · rw [(Compilation.mem_of_interface? h).2.1, h]
    · obtain ⟨base, -, mem⟩ := List.mem_flatMap.1 below
      exact ih base mem

/-! ## Types without repetitions -/

/-- The types whose names have not been visited, each at its first place. -/
def unseen (visited : List String) : List TypeSymbol → List TypeSymbol
  | [] => []
  | type :: rest =>
    if type.qualifiedName ∈ visited then unseen visited rest
    else type :: unseen (type.qualifiedName :: visited) rest

theorem unseen_append_of_visited {visited : List String} {front : List TypeSymbol}
    (h : ∀ type ∈ front, type.qualifiedName ∈ visited) (rest : List TypeSymbol) :
    unseen visited (front ++ rest) = unseen visited rest := by
  induction front with
  | nil => rfl
  | cons type front ih =>
    rw [List.cons_append, unseen, if_pos (h type List.mem_cons_self)]
    exact ih fun other mem => h other (List.mem_cons_of_mem _ mem)

/-- What is kept of a list of values, if `kept` holds the values of the visited types and values are
equal if and only if names are. -/
theorem foldl_map_eq_append_unseen {κ : Type} [DecidableEq κ] (value : TypeSymbol → κ)
    {types : List TypeSymbol}
    (byName : ∀ a ∈ types, ∀ b ∈ types, value a = value b ↔ a.qualifiedName = b.qualifiedName)
    (kept : List κ) (visited : List String)
    (same : ∀ type ∈ types, value type ∈ kept ↔ type.qualifiedName ∈ visited) :
    (types.map value).foldl (fun kept v => if v ∈ kept then kept else kept ++ [v]) kept =
      kept ++ (unseen visited types).map value := by
  induction types generalizing kept visited with
  | nil => simp [unseen]
  | cons type rest ih =>
    have byName' := fun a ha b hb =>
      byName a (List.mem_cons_of_mem _ ha) b (List.mem_cons_of_mem _ hb)
    have same' := fun a ha => same a (List.mem_cons_of_mem _ ha)
    rw [List.map_cons, List.foldl_cons, unseen]
    by_cases h : type.qualifiedName ∈ visited
    · rw [if_pos ((same type List.mem_cons_self).2 h), if_pos h]
      exact ih byName' kept visited same'
    · rw [if_neg (mt (same type List.mem_cons_self).1 h), if_neg h,
        ih byName' (kept ++ [value type]) (type.qualifiedName :: visited)]
      · rw [List.map_cons, List.append_assoc, List.singleton_append]
      · intro other mem
        rw [List.mem_append, List.mem_singleton, List.mem_cons, same' other mem,
          byName other (List.mem_cons_of_mem _ mem) type List.mem_cons_self, or_comm]

theorem firstOccurrences_map {κ : Type} [DecidableEq κ] (value : TypeSymbol → κ)
    {types : List TypeSymbol}
    (byName : ∀ a ∈ types, ∀ b ∈ types, value a = value b ↔ a.qualifiedName = b.qualifiedName) :
    firstOccurrences (types.map value) = (unseen [] types).map value := by
  rw [firstOccurrences, foldl_map_eq_append_unseen value byName [] [] (by simp), List.nil_append]

/-! ## The frontier of the walk -/

/-- A name that is still to be visited, and the interfaces that it is below. -/
structure Visit where
  path : List String
  name : String

/-- The names, to be visited below the interfaces of the path. -/
def Visit.all (path names : List String) : List Visit := names.map (⟨path, ·⟩)

@[simp]
theorem Visit.name_all (path names : List String) :
    (Visit.all path names).map (·.name) = names := by
  rw [Visit.all, List.map_map]
  exact List.map_id names

/-- The invariant of the walk on what it has visited and what is pending. -/
structure Frontier (compilation : Compilation) (visited : List String) (pending : List Visit) :
    Prop where
  /-- Pending names are below interfaces that have been visited. -/
  path_subset : ∀ visit ∈ pending, visit.path ⊆ visited
  /-- Later ones are not below others than earlier ones are. -/
  nested : pending.Pairwise fun earlier later => later.path ⊆ earlier.path
  /-- A base of a visited interface has been visited, or is pending below that interface. -/
  covered : ∀ name ∈ visited, ∀ type, compilation.interface? name = some type →
    ∀ base ∈ type.bases, (compilation.interface? base).isSome →
      base ∈ visited ∨ ∃ visit ∈ pending, visit.name = base ∧ name ∈ visit.path

namespace Frontier

variable {visited : List String} {pending : List Visit} {visit : Visit}

theorem roots (compilation : Compilation) (names : List String) :
    Frontier compilation [] (Visit.all [] names) where
  path_subset := by simp [Visit.all]
  nested := by
    rw [Visit.all, List.pairwise_map]
    exact List.pairwise_of_forall fun _ _ => List.Subset.refl _
  covered := by simp

/-- A visit is done with if its name has been visited or stands for no interface. -/
theorem skip (frontier : Frontier compilation visited (visit :: pending))
    (done : visit.name ∈ visited ∨ compilation.interface? visit.name = none) :
    Frontier compilation visited pending where
  path_subset := fun other mem => frontier.path_subset other (List.mem_cons_of_mem _ mem)
  nested := (List.pairwise_cons.1 frontier.nested).2
  covered := by
    intro name mem type h base hb resolves
    obtain seen | ⟨other, waiting, rfl, below⟩ :=
      frontier.covered name mem type h base hb resolves
    · exact .inl seen
    · obtain rfl | waiting := List.mem_cons.1 waiting
      · obtain seen | missing := done
        · exact .inl seen
        · rw [missing] at resolves
          cases resolves
      · exact .inr ⟨other, waiting, rfl, below⟩

/-- Visiting an interface puts its bases in front of what is pending, below itself. -/
theorem enter (frontier : Frontier compilation visited (visit :: pending)) {type : TypeSymbol}
    (h : compilation.interface? visit.name = some type) :
    Frontier compilation (visit.name :: visited)
      (Visit.all (visit.name :: visit.path) type.bases ++ pending) where
  path_subset := by
    have here : visit.path ⊆ visited := frontier.path_subset visit List.mem_cons_self
    intro other mem
    rcases List.mem_append.1 mem with mem | mem
    · obtain ⟨base, -, rfl⟩ := List.mem_map.1 mem
      exact List.cons_subset_cons _ here
    · exact List.subset_cons_of_subset _
        (frontier.path_subset other (List.mem_cons_of_mem _ mem))
  nested := by
    obtain ⟨first, later⟩ := List.pairwise_cons.1 frontier.nested
    refine List.pairwise_append.2 ⟨?_, later, ?_⟩
    · rw [Visit.all, List.pairwise_map]
      exact List.pairwise_of_forall fun _ _ => List.Subset.refl _
    · intro entered mem other waiting
      obtain ⟨base, -, rfl⟩ := List.mem_map.1 mem
      exact List.subset_cons_of_subset _ (first other waiting)
  covered := by
    intro name mem found hn base hb resolves
    obtain rfl | mem := List.mem_cons.1 mem
    · rw [h] at hn
      cases hn
      exact .inr ⟨⟨visit.name :: visit.path, base⟩,
        List.mem_append_left _ (List.mem_map_of_mem hb), rfl, List.mem_cons_self⟩
    · obtain seen | ⟨other, waiting, rfl, below⟩ :=
        frontier.covered name mem found hn base hb resolves
      · exact .inl (List.mem_cons_of_mem _ seen)
      · obtain rfl | waiting := List.mem_cons.1 waiting
        · exact .inl List.mem_cons_self
        · exact .inr ⟨other, List.mem_append_right _ waiting, rfl, below⟩

/-- At the front of what is pending, a visited interface that the path does not hold has no base
left that has not been visited. -/
theorem base_mem (frontier : Frontier compilation visited (visit :: pending)) {name : String}
    (seen : name ∈ visited) (off : name ∉ visit.path) {type : TypeSymbol}
    (h : compilation.interface? name = some type) {base : String} (mem : base ∈ type.bases)
    (resolves : (compilation.interface? base).isSome) : base ∈ visited := by
  obtain seen | ⟨other, waiting, rfl, below⟩ := frontier.covered name seen type h base mem resolves
  · exact seen
  · refine absurd ?_ off
    obtain rfl | waiting := List.mem_cons.1 waiting
    · exact below
    · exact (List.pairwise_cons.1 frontier.nested).1 other waiting below

end Frontier

/-- The traversal from a visited name meets only visited interfaces, if the visited interfaces off
the path have all their bases visited. -/
theorem qualifiedName_mem_of_mem_traversal {visited path : List String} {name : String}
    (seen : name ∈ visited)
    (closed : ∀ other ∈ visited, other ∉ path → ∀ type, compilation.interface? other = some type →
      ∀ base ∈ type.bases, (compilation.interface? base).isSome → base ∈ visited)
    {type : TypeSymbol} (mem : type ∈ traversal compilation path name) :
    type.qualifiedName ∈ visited := by
  induction path, name using traversal.induct compilation with
  | case1 path name h =>
    rw [traversal_of_mem h] at mem
    cases mem
  | case2 path name new missing =>
    rw [traversal_of_none missing] at mem
    cases mem
  | case3 path name new found h _ ih =>
    rw [traversal_of_some new h] at mem
    obtain rfl | below := List.mem_cons.1 mem
    · rw [(Compilation.mem_of_interface? h).2.1]
      exact seen
    · obtain ⟨base, hb, mem⟩ := List.mem_flatMap.1 below
      cases resolves : compilation.interface? base with
      | none =>
        rw [traversal_of_none resolves] at mem
        cases mem
      | some _ =>
        refine ih base ?_ ?_ mem
        · exact closed name seen new found h base hb (by rw [resolves]; rfl)
        · exact fun other hv off => closed other hv fun on => off (List.mem_cons_of_mem _ on)

/-- The walk from the pending names gives what their traversals give, except for what has been
visited and for repetitions. -/
theorem walk_eq_unseen {visited : List String} {pending : List Visit}
    (frontier : Frontier compilation visited pending) :
    walk compilation visited (pending.map (·.name)) =
      unseen visited
        (pending.flatMap fun visit => traversal compilation visit.path visit.name) := by
  generalize names : pending.map (·.name) = waiting
  induction visited, waiting using walk.induct compilation generalizing pending with
  | case1 visited =>
    rw [List.map_eq_nil_iff] at names
    subst names
    rw [walk]
    rfl
  | case2 visited name rest seen ih =>
    obtain ⟨visit, pending, rfl, rfl, rfl⟩ := List.map_eq_cons_iff.1 names
    rw [walk_cons_of_mem seen, ih (frontier.skip (.inl seen)) rfl, List.flatMap_cons,
      unseen_append_of_visited]
    intro type mem
    exact qualifiedName_mem_of_mem_traversal seen
      (fun other hv off found h base hb resolves => frontier.base_mem hv off h hb resolves) mem
  | case3 visited name rest new missing ih =>
    obtain ⟨visit, pending, rfl, rfl, rfl⟩ := List.map_eq_cons_iff.1 names
    rw [walk_cons_of_none missing, ih (frontier.skip (.inr missing)) rfl, List.flatMap_cons,
      traversal_of_none missing, List.nil_append]
  | case4 visited name rest new type h _ ih =>
    obtain ⟨visit, pending, rfl, rfl, rfl⟩ := List.map_eq_cons_iff.1 names
    have off : visit.name ∉ visit.path := fun on =>
      new (frontier.path_subset visit List.mem_cons_self on)
    have entered := ih (frontier.enter h) (by rw [List.map_append, Visit.name_all])
    rw [walk_cons_of_some new h, entered, List.flatMap_append, Visit.all, List.flatMap_map,
      List.flatMap_cons, traversal_of_some off h, List.cons_append, unseen,
      (Compilation.mem_of_interface? h).2.1, if_neg new]

/-- **The contracts that can be reached from the roots are those of the plain traversals from the
roots, one after the other, each at its first occurrence; and an occurrence is one of the name.** -/
theorem reachable_eq_firstOccurrences (compilation : Compilation) (roots : List String) :
    Contract.reachable compilation roots =
        firstOccurrences ((roots.flatMap (traversal compilation [])).map .ofSymbol) ∧
      (Contract.reachable compilation roots).map (·.name) =
        firstOccurrences ((roots.flatMap (traversal compilation [])).map (·.qualifiedName)) := by
  have walked :
      walk compilation [] roots = unseen [] (roots.flatMap (traversal compilation [])) := by
    have h := walk_eq_unseen (Frontier.roots compilation roots)
    rwa [Visit.name_all, Visit.all, List.flatMap_map] at h
  have resolved : ∀ type ∈ roots.flatMap (traversal compilation []),
      compilation.interface? type.qualifiedName = some type := by
    intro type mem
    obtain ⟨root, -, mem⟩ := List.mem_flatMap.1 mem
    exact interface?_of_mem_traversal mem
  have byName : ∀ a ∈ roots.flatMap (traversal compilation []),
      ∀ b ∈ roots.flatMap (traversal compilation []),
        Contract.ofSymbol a = Contract.ofSymbol b ↔ a.qualifiedName = b.qualifiedName := by
    intro a ha b hb
    refine ⟨congrArg Contract.name, fun same => ?_⟩
    have both := resolved a ha
    rw [same, resolved b hb] at both
    rw [Option.some.inj both]
  rw [Contract.reachable, walked, firstOccurrences_map Contract.ofSymbol byName,
    firstOccurrences_map TypeSymbol.qualifiedName (fun _ _ _ _ => Iff.rfl), List.map_map]
  exact ⟨rfl, rfl⟩

end TypedHub
