import Mathlib.Data.List.Flatten
import Mathlib.Data.List.Nodup
import Mathlib.Data.List.Perm.Subperm
import Mathlib.Tactic.Tauto
import TypedHub.Proofs.Stub.Signatures

/-!
# What the walk over the contracts reaches

The walk is a loop over pending names. Here it is compared with the recursion that it stands for
(`Visits`): names are visited one after the other, and an interface is entered by visiting its bases
before the next name. The recursion ends on every compilation, also on cyclic ones, after a number
of calls that is known beforehand, and meets what the loop gives (`exists_visits`).

What the recursion meets is then read off its rules by induction: each interface once
(`Visits.nodup`), only what can be reached from the roots (`Visits.reaches`), and all of that
(`Visits.mem_of_reaches`).
-/

namespace TypedHub

open Metadata

/-! ## Resolving names -/

/-- The type is what the name stands for, and it is an interface. It is the first type with this
name: one of another kind in front of it would hide it. -/
structure Metadata.Compilation.Resolves (compilation : Compilation) (name : String)
    (type : TypeSymbol) : Prop where
  first : ∃ before behind, compilation.types = before ++ type :: behind ∧
    ∀ other ∈ before, other.qualifiedName ≠ name
  named : type.qualifiedName = name
  kind : type.kind = .interfaceType

variable {compilation : Compilation} {roots : List String}

theorem Metadata.Compilation.interface?_eq_some_iff {name : String} {type : TypeSymbol} :
    compilation.interface? name = some type ↔ compilation.Resolves name type := by
  rw [interface?, find?_eq, Option.filter_eq_some_iff, List.find?_eq_some_iff_append]
  simp only [decide_eq_true_eq, Bool.not_eq_true', decide_eq_false_iff_not]
  constructor
  · rintro ⟨⟨named, before, behind, types, hidden⟩, kind⟩
    exact ⟨⟨before, behind, types, hidden⟩, named, kind⟩
  · rintro ⟨⟨before, behind, types, hidden⟩, named, kind⟩
    exact ⟨⟨named, before, behind, types, hidden⟩, kind⟩

theorem Metadata.Compilation.Resolves.unique {name : String} {type other : TypeSymbol}
    (h : compilation.Resolves name type) (h' : compilation.Resolves name other) :
    type = other := by
  rw [← interface?_eq_some_iff] at h h'
  rw [h] at h'
  exact Option.some.inj h'

theorem Metadata.Compilation.Resolves.mem {name : String} {type : TypeSymbol}
    (h : compilation.Resolves name type) : type ∈ compilation.types := by
  obtain ⟨before, behind, types, -⟩ := h.first
  rw [types]
  exact List.mem_append_right _ List.mem_cons_self

/-- The name stands for an interface to which bases lead from a root, by way of names that stand for
interfaces. -/
inductive Reaches (compilation : Compilation) (roots : List String) : String → Prop
  | root {name : String} {type : TypeSymbol} (listed : name ∈ roots)
      (found : compilation.Resolves name type) : Reaches compilation roots name
  | base {name base : String} {type next : TypeSymbol} (reached : Reaches compilation roots name)
      (resolved : compilation.Resolves name type) (declared : base ∈ type.bases)
      (found : compilation.Resolves base next) : Reaches compilation roots base

/-- What can be reached from a reached name has been reached. -/
theorem Reaches.trans {start name : String} (reached : Reaches compilation roots start)
    (h : Reaches compilation [start] name) : Reaches compilation roots name := by
  induction h with
  | root listed found =>
    rw [List.mem_singleton] at listed
    rwa [listed]
  | base _ resolved declared found ih => exact .base ih resolved declared found

/-! ## The recursion -/

/-- The recursion from names that are to be visited: given what has been visited before, it meets
the listed interfaces, leaves a larger set of visited names, and takes a number of calls, one for
each name that it looks at. -/
inductive Visits (compilation : Compilation) :
    List String → List String → List TypeSymbol → List String → Nat → Prop
  | done {visited : List String} : Visits compilation visited [] [] visited 0
  | seen {visited rest after : List String} {name : String} {met : List TypeSymbol} {calls : Nat}
      (old : name ∈ visited) (later : Visits compilation visited rest met after calls) :
      Visits compilation visited (name :: rest) met after (calls + 1)
  | unknown {visited rest after : List String} {name : String} {met : List TypeSymbol}
      {calls : Nat} (missing : ∀ type, ¬compilation.Resolves name type)
      (later : Visits compilation visited rest met after calls) :
      Visits compilation visited (name :: rest) met after (calls + 1)
  | enter {visited between rest after : List String} {name : String} {type : TypeSymbol}
      {below met : List TypeSymbol} {inner outer : Nat} (new : name ∉ visited)
      (found : compilation.Resolves name type)
      (bases : Visits compilation (name :: visited) type.bases below between inner)
      (later : Visits compilation between rest met after outer) :
      Visits compilation visited (name :: rest) (type :: (below ++ met)) after (inner + outer + 1)

namespace Visits

variable {visited pending after : List String} {met : List TypeSymbol} {calls : Nat}

/-- Visiting the names of two lists is visiting those of the first one and then, with what has been
visited by then, those of the second one. -/
theorem of_append {front back : List String}
    (h : Visits compilation visited (front ++ back) met after calls) :
    ∃ first second between inner outer, Visits compilation visited front first between inner ∧
      Visits compilation between back second after outer ∧ met = first ++ second ∧
      calls = inner + outer := by
  generalize whole : front ++ back = pending at h
  -- the first list is empty, and all is left to the second one, or it begins with the next name
  induction h generalizing front with
  | done =>
    obtain ⟨rfl, rfl⟩ := List.append_eq_nil_iff.1 whole
    exact ⟨[], [], _, 0, 0, .done, .done, rfl, rfl⟩
  | @seen visited rest after name met calls old later ih =>
    rcases List.append_eq_cons_iff.1 whole with ⟨rfl, rfl⟩ | ⟨front, rfl, rfl⟩
    · exact ⟨[], met, visited, 0, calls + 1, .done, .seen old later, rfl, (Nat.zero_add _).symm⟩
    · obtain ⟨first, second, between, inner, outer, here, there, rfl, rfl⟩ := ih rfl
      exact ⟨first, second, between, inner + 1, outer, .seen old here, there, rfl, by omega⟩
  | @unknown visited rest after name met calls missing later ih =>
    rcases List.append_eq_cons_iff.1 whole with ⟨rfl, rfl⟩ | ⟨front, rfl, rfl⟩
    · exact ⟨[], met, visited, 0, calls + 1, .done, .unknown missing later, rfl,
        (Nat.zero_add _).symm⟩
    · obtain ⟨first, second, between, inner, outer, here, there, rfl, rfl⟩ := ih rfl
      exact ⟨first, second, between, inner + 1, outer, .unknown missing here, there, rfl, by omega⟩
  | @enter visited middle rest after name type below met inner outer new found bases later _ ih =>
    rcases List.append_eq_cons_iff.1 whole with ⟨rfl, rfl⟩ | ⟨front, rfl, rfl⟩
    · exact ⟨[], _, visited, 0, _, .done, .enter new found bases later, rfl,
        (Nat.zero_add _).symm⟩
    · obtain ⟨first, second, between, n, m, here, there, rfl, rfl⟩ := ih rfl
      refine ⟨type :: (below ++ first), second, between, inner + n + 1, m,
        .enter new found bases here, there, ?_, by omega⟩
      rw [List.cons_append, List.append_assoc]

/-! ### What one visit keeps -/

/-- The visited names grow by the names of the interfaces that are met. -/
theorem mem_after_iff (h : Visits compilation visited pending met after calls) {name : String} :
    name ∈ after ↔ name ∈ visited ∨ name ∈ met.map (·.qualifiedName) := by
  induction h with
  | done => simp
  | seen _ _ ih => exact ih
  | unknown _ _ ih => exact ih
  | enter _ found _ _ inside behind =>
    rw [behind, inside, List.map_cons, List.map_append, found.named]
    simp only [List.mem_cons, List.mem_append]
    tauto

theorem mem_after_of_mem (h : Visits compilation visited pending met after calls) {name : String}
    (old : name ∈ visited) : name ∈ after := h.mem_after_iff.2 (.inl old)

/-- No interface is met that has been visited before, and none is met twice. -/
theorem nodup (h : Visits compilation visited pending met after calls) :
    (met.map (·.qualifiedName)).Nodup ∧ ∀ name ∈ met.map (·.qualifiedName), name ∉ visited := by
  induction h with
  | done => simp
  | seen _ _ ih => exact ih
  | unknown _ _ ih => exact ih
  | enter new found bases _ inside behind =>
    obtain ⟨distinct, fresh⟩ := inside
    obtain ⟨distinct', fresh'⟩ := behind
    -- what is met later is none of what has been visited by then
    simp only [bases.mem_after_iff, List.mem_cons, not_or] at fresh fresh'
    rw [List.map_cons, List.map_append, found.named]
    refine ⟨List.nodup_cons.2 ⟨?_, List.nodup_append.2 ⟨distinct, distinct', ?_⟩⟩, ?_⟩
    · rw [List.mem_append]
      rintro (inner | outer)
      · exact (fresh _ inner).1 rfl
      · exact (fresh' _ outer).1.1 rfl
    · rintro a inner b outer rfl
      exact (fresh' a outer).2 inner
    · intro name mem
      rcases List.mem_cons.1 mem with rfl | mem
      · exact new
      · rcases List.mem_append.1 mem with inner | outer
        · exact (fresh _ inner).2
        · exact (fresh' _ outer).1.2

/-- What is met is what its name stands for. -/
theorem resolves (h : Visits compilation visited pending met after calls) :
    ∀ type ∈ met, compilation.Resolves type.qualifiedName type := by
  induction h with
  | done => simp
  | seen _ _ ih => exact ih
  | unknown _ _ ih => exact ih
  | enter _ found _ _ inside behind =>
    rw [List.forall_mem_cons, List.forall_mem_append, found.named]
    exact ⟨found, inside, behind⟩

/-- There is a call for each of the names and for each base that an interface declares when it is
met. -/
theorem calls_eq (h : Visits compilation visited pending met after calls) :
    calls = pending.length + (met.flatMap (·.bases)).length := by
  induction h with
  | done => rfl
  | seen _ _ ih => rw [ih, List.length_cons]; omega
  | unknown _ _ ih => rw [ih, List.length_cons]; omega
  | enter _ _ _ _ inside behind =>
    rw [inside, behind, List.flatMap_cons, List.flatMap_append]
    simp only [List.length_append, List.length_cons]
    omega

/-- Since no type is met twice, the declared bases of all types bound the calls. -/
theorem calls_le (h : Visits compilation visited pending met after calls) :
    calls ≤ pending.length + (compilation.types.flatMap (·.bases)).length := by
  have once : met.Subperm compilation.types :=
    (List.Nodup.of_map _ h.nodup.1).subperm fun type mem => (h.resolves type mem).mem
  obtain ⟨kept, same, sub⟩ := once
  have fewer : (kept.flatMap (·.bases)).length ≤ (compilation.types.flatMap (·.bases)).length :=
    (sub.flatMap (·.bases)).length_le
  rw [h.calls_eq, ← (same.flatMap_right _).length_eq]
  omega

/-! ### What is met -/

/-- What is met can be reached: the names to be visited stand for something reachable if they stand
for an interface, and so do the bases of what is reached. -/
theorem reaches (h : Visits compilation visited pending met after calls)
    (start : ∀ name ∈ pending, ∀ type, compilation.Resolves name type →
      Reaches compilation roots name) :
    ∀ type ∈ met, Reaches compilation roots type.qualifiedName := by
  induction h with
  | done => simp
  | seen _ _ ih => exact ih (List.forall_mem_cons.1 start).2
  | unknown _ _ ih => exact ih (List.forall_mem_cons.1 start).2
  | enter _ found _ _ inside behind =>
    obtain ⟨here, there⟩ := List.forall_mem_cons.1 start
    have reached := here _ found
    rw [List.forall_mem_cons, List.forall_mem_append, found.named]
    refine ⟨reached, inside ?_, behind there⟩
    exact fun base declared next resolved => .base reached found declared resolved

/-- All names to be visited have been visited, if they stand for interfaces. -/
theorem mem_of_mem_pending (h : Visits compilation visited pending met after calls) :
    ∀ name ∈ pending, ∀ type, compilation.Resolves name type → name ∈ after := by
  induction h with
  | done => simp
  | seen old later ih => exact List.forall_mem_cons.2 ⟨fun _ _ => later.mem_after_of_mem old, ih⟩
  | unknown missing _ ih =>
    exact List.forall_mem_cons.2 ⟨fun type found => absurd found (missing type), ih⟩
  | enter _ _ bases later _ behind =>
    refine List.forall_mem_cons.2 ⟨fun _ _ => ?_, behind⟩
    exact later.mem_after_of_mem (bases.mem_after_of_mem List.mem_cons_self)

/-- An interface that has been met has no base left to be visited. A base that is an interface on
the way to it has been visited before its own bases have all been. -/
theorem mem_of_mem_bases (h : Visits compilation visited pending met after calls) :
    ∀ type ∈ met, ∀ base ∈ type.bases, ∀ next, compilation.Resolves base next → base ∈ after := by
  induction h with
  | done => simp
  | seen _ _ ih => exact ih
  | unknown _ _ ih => exact ih
  | enter _ _ bases later inside behind =>
    rw [List.forall_mem_cons, List.forall_mem_append]
    refine ⟨?_, ?_, behind⟩
    -- its own bases were to be visited when it was entered
    · exact fun base declared next found =>
        later.mem_after_of_mem (bases.mem_of_mem_pending base declared next found)
    · exact fun type mem base declared next found =>
        later.mem_after_of_mem (inside type mem base declared next found)

/-- All that can be reached from the roots is met. -/
theorem mem_of_reaches (h : Visits compilation [] roots met after calls) {name : String}
    (reached : Reaches compilation roots name) : name ∈ met.map (·.qualifiedName) := by
  have all {name : String} : name ∈ after → name ∈ met.map (·.qualifiedName) := by
    rw [h.mem_after_iff]
    exact fun mem => mem.resolve_left List.not_mem_nil
  induction reached with
  | root listed found => exact all (h.mem_of_mem_pending _ listed _ found)
  | base _ resolved declared found ih =>
    obtain ⟨type, mem, rfl⟩ := List.mem_map.1 ih
    obtain rfl := resolved.unique (h.resolves type mem)
    exact all (h.mem_of_mem_bases _ mem _ declared _ found)

end Visits

/-! ## The walk -/

/-- **The recursion ends, and it meets what the walk gives.** The induction is on the walk. Where
the walk enters an interface, it puts the bases in front of the other pending names, and there the
calls for the bases are told from those for the others. -/
theorem exists_visits (compilation : Compilation) (visited pending : List String) :
    ∃ after calls,
      Visits compilation visited pending (walk compilation visited pending) after calls := by
  induction visited, pending using walk.induct compilation with
  | case1 visited =>
    rw [walk]
    exact ⟨visited, 0, .done⟩
  | case2 visited name rest old ih =>
    obtain ⟨after, calls, later⟩ := ih
    rw [walk_cons_of_mem old]
    exact ⟨after, calls + 1, .seen old later⟩
  | case3 visited name rest new missing ih =>
    obtain ⟨after, calls, later⟩ := ih
    rw [walk_cons_of_none missing]
    refine ⟨after, calls + 1, .unknown (fun type found => ?_) later⟩
    rw [← Compilation.interface?_eq_some_iff, missing] at found
    cases found
  | case4 visited name rest new type found _ ih =>
    obtain ⟨after, calls, both⟩ := ih
    obtain ⟨below, met, between, inner, outer, bases, later, same, -⟩ := both.of_append
    rw [walk_cons_of_some new found, same]
    exact ⟨after, inner + outer + 1,
      .enter new (Compilation.interface?_eq_some_iff.1 found) bases later⟩

/-- The names of the interfaces that the walk from the roots gives are those that can be reached. -/
theorem mem_names_walk_iff {name : String} :
    name ∈ (walk compilation [] roots).map (·.qualifiedName) ↔ Reaches compilation roots name := by
  obtain ⟨after, calls, visits⟩ := exists_visits compilation [] roots
  constructor
  · intro mem
    obtain ⟨type, met, rfl⟩ := List.mem_map.1 mem
    exact visits.reaches (fun name listed type found => .root listed found) type met
  · exact visits.mem_of_reaches

theorem names_reachable (compilation : Compilation) (roots : List String) :
    (Contract.reachable compilation roots).map (·.name) =
      (walk compilation [] roots).map (·.qualifiedName) := by
  rw [Contract.reachable, List.map_map]
  rfl

/-- **The contracts of roots are exactly the interfaces that can be reached from them.** The
recursion from the roots ends, after no more calls than there are roots and declared bases, and the
contracts describe the interfaces that it meets, in their order. Their names are distinct, and a
name is among them if and only if it can be reached. The methods of each contract describe those
that the interface of its name declares itself, in their order: by name, result and parameters. -/
theorem reachable_exact (compilation : Compilation) (roots : List String) :
    (∃ met after calls, Visits compilation [] roots met after calls ∧
      calls ≤ roots.length + (compilation.types.flatMap (·.bases)).length ∧
      List.Forall₂ Contract.Describes (Contract.reachable compilation roots) met) ∧
    ((Contract.reachable compilation roots).map (·.name)).Nodup ∧
    (∀ name, name ∈ (Contract.reachable compilation roots).map (·.name) ↔
      Reaches compilation roots name) ∧
    ∀ contract ∈ Contract.reachable compilation roots, ∃ type,
      compilation.Resolves contract.name type ∧
        List.Forall₂ Signature.Describes contract.methods type.methods := by
  obtain ⟨after, calls, visits⟩ := exists_visits compilation [] roots
  have described : List.Forall₂ Contract.Describes (Contract.reachable compilation roots)
      (walk compilation [] roots) := Contract.forall₂_describes_iff.2 rfl
  refine ⟨⟨_, after, calls, visits, visits.calls_le, described⟩, ?_, fun name => ?_, ?_⟩
  · rw [names_reachable]
    exact visits.nodup.1
  · rw [names_reachable, mem_names_walk_iff]
  · intro contract mem
    obtain ⟨type, met, rfl⟩ := List.mem_map.1 mem
    exact ⟨type, visits.resolves type met, Signature.forall₂_describes_iff.2 rfl⟩

/-- An interface without a namespace. -/
def bareInterface (name : String) (bases : List String) (methods : List MethodSymbol) :
    TypeSymbol where
  kind := .interfaceType
  name := name
  containingNamespace := ""
  accessibility := .isPublic
  bases := bases
  methods := methods
  attributes := []

/-- A method with a result and parameters: a nullable one with a constant as its default, one whose
default is not told, and a rest of arguments. Then one that returns nothing, whatever type is given
with it. -/
def answering : List MethodSymbol :=
  [⟨"Answer", false, some "int",
      [⟨"string", "text", true, true, some (.string "yes"), false⟩,
        ⟨"Mood", "mood", false, true, none, false⟩,
        ⟨"bool[]", "rest", false, false, none, true⟩]⟩,
    ⟨"HangUp", true, some "int", []⟩]

/-- Two interfaces that are bases of each other, and a third one that a class of its name hides. -/
def ring : Compilation :=
  ⟨[bareInterface "ICall" ["IHidden", "IAnswer"] [],
    bareInterface "IAnswer" ["ICall"] answering,
    { bareInterface "IHidden" [] [] with kind := .classType },
    bareInterface "IHidden" [] []]⟩

theorem reaches_ring : Reaches ring ["ICall"] "IAnswer" := by
  have call : Reaches ring ["ICall"] "ICall" :=
    .root List.mem_cons_self (Compilation.interface?_eq_some_iff.1 rfl)
  exact .base call (Compilation.interface?_eq_some_iff.1 rfl)
    (List.mem_cons_of_mem _ List.mem_cons_self) (Compilation.interface?_eq_some_iff.1 rfl)

theorem reachable_exact_ring :
    (∃ contract ∈ Contract.reachable ring ["ICall"],
      contract.name = "IAnswer" ∧ contract.methods =
        [⟨"Answer", .type "int", [⟨"string", "text", true, some "\"yes\"", false⟩,
            ⟨"Mood", "mood", false, some "default", false⟩, ⟨"bool[]", "rest", false, none, true⟩]⟩,
          ⟨"HangUp", .nothing, []⟩]) ∧
    "IHidden" ∉ (Contract.reachable ring ["ICall"]).map (·.name) := by
  obtain ⟨-, -, names, methods⟩ := reachable_exact ring ["ICall"]
  constructor
  · obtain ⟨contract, mem, named⟩ := List.mem_map.1 ((names "IAnswer").2 reaches_ring)
    obtain ⟨type, found, described⟩ := methods contract mem
    rw [named, ← Compilation.interface?_eq_some_iff] at found
    obtain rfl : bareInterface "IAnswer" ["ICall"] answering = type := Option.some.inj found
    exact ⟨contract, mem, named, Signature.forall₂_describes_iff.1 described⟩
  · -- the class is the first type of the name, so the name stands for no interface
    have hidden {type : TypeSymbol} : ¬ring.Resolves "IHidden" type := by
      rw [← Compilation.interface?_eq_some_iff]
      exact fun found => by cases found
    rw [names]
    intro reached
    cases reached with
    | root _ found => exact hidden found
    | base _ _ _ found => exact hidden found

end TypedHub
