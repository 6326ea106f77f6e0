import TypedHub.Stub.Declaration

/-!
# What a declaration depends on

The stub of a declaration depends on the compilation only through the names that are looked up for
it. These are the names that are listed for its roles and, repeatedly, the bases of the interfaces
that such names stand for (`Declaration.Reaches`). Compilations that agree on them give the same
stub, whatever else is in them (`Stub.ofDeclaration_congr`).
-/

namespace TypedHub

open Metadata

variable {first second : Compilation}

/-! ## Interfaces -/

theorem interface?_congr {name : String} (h : first.find? name = second.find? name) :
    first.interface? name = second.interface? name :=
  congrArg (Option.filter _) h

/-- The walk visits no other names than the pending ones and, from there on, bases of interfaces. So
a set of names that holds the former, and is closed under the latter, holds all that matters. -/
theorem walk_congr (looksUp : String → Prop)
    (agree : ∀ name, looksUp name → first.interface? name = second.interface? name)
    (closed : ∀ name, looksUp name → ∀ type, first.interface? name = some type →
      ∀ base ∈ type.bases, looksUp base)
    {visited pending : List String} (h : ∀ name ∈ pending, looksUp name) :
    walk first visited pending = walk second visited pending := by
  -- the induction follows the first walk; the hypotheses keep the second one in step with it
  induction visited, pending using walk.induct first with
  | case1 visited => rw [walk, walk]
  | case2 visited name rest seen ih =>
    rw [List.forall_mem_cons] at h
    rw [walk_cons_of_mem seen, walk_cons_of_mem seen, ih h.2]
  | case3 visited name rest new missing ih =>
    rw [List.forall_mem_cons] at h
    rw [walk_cons_of_none missing, walk_cons_of_none (agree name h.1 ▸ missing), ih h.2]
  | case4 visited name rest new type found _ ih =>
    rw [List.forall_mem_cons] at h
    have pending : ∀ other ∈ type.bases ++ rest, looksUp other :=
      List.forall_mem_append.2 ⟨closed name h.1 type found, h.2⟩
    rw [walk_cons_of_some new found, walk_cons_of_some new (agree name h.1 ▸ found), ih pending]

/-! ## Declarations -/

/-- The name is looked up for the declaration. -/
inductive Declaration.Reaches (compilation : Compilation) (declaration : Declaration) :
    String → Prop
  | root {role : Role} {name : String} (listed : name ∈ declaration.roots role) :
      Reaches compilation declaration name
  | base {name base : String} {type : TypeSymbol} (reached : Reaches compilation declaration name)
      (resolved : compilation.interface? name = some type) (declared : base ∈ type.bases) :
      Reaches compilation declaration base

/-- Compilations that agree on all names that are looked up give the same stub. -/
theorem Stub.ofDeclaration_congr {declaration : Declaration}
    (agree : ∀ name, declaration.Reaches first name → first.find? name = second.find? name) :
    Stub.ofDeclaration first declaration = Stub.ofDeclaration second declaration := by
  have contracts : ∀ role, Contract.reachable first (declaration.roots role) =
      Contract.reachable second (declaration.roots role) := by
    intro role
    refine congrArg _ (walk_congr (declaration.Reaches first) ?agree ?closed ?roots)
    case agree => exact fun name reached => interface?_congr (agree name reached)
    case closed => exact fun name reached type resolved base => .base reached resolved
    case roots => exact fun name => .root
  rw [ofDeclaration, ofDeclaration, contracts .outgoing, contracts .incoming]

end TypedHub
