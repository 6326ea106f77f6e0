import TypedHub.CSharp.StringLiteral
import TypedHub.Json.FloatText
import TypedHub.Metadata.Basic
import TypedHub.Stub.Basic

/-!
# Contracts of a compilation

The interfaces that can be reached from given roots by way of declared bases, each once, an
interface before its bases, bases in the order of declaration. Names that stand for nothing, or for
something else than an interface, are passed over.

## How it works

The walk keeps the names that are still to be visited, the next one in front. Visiting an interface
puts its bases in front of them.

## Termination

Cycles among the bases do no harm, since no name is visited twice: each visit makes the number of
types that have not been visited smaller, and each name that is passed over the list of pending
names.
-/

namespace TypedHub

open Metadata

/-! ## Signatures -/

/-- The text of the default value of a parameter: a constant as a literal, and the default value of
the type where the constant is missing or has no literal. -/
def defaultText (parameter : ParameterSymbol) : Option String :=
  match parameter.constant with
  | none | some .null => if parameter.hasDefault then some "default" else none
  | some (.bool value) => some (toString value)
  | some (.number value) => some value.text
  | some (.string value) => some (CSharp.stringLiteral value)
  | some (.array _) | some (.object _) => some "default"

def Parameter.ofSymbol (parameter : ParameterSymbol) : Parameter where
  type := parameter.type
  name := parameter.name
  nullable := parameter.nullable
  defaultText := TypedHub.defaultText parameter
  isVariadic := parameter.isParams

/-- A method returns nothing if it is said to, whatever return type is given with it, and if no
return type is given. -/
def Result.ofSymbol (method : MethodSymbol) : Result :=
  match method.returnType, method.returnsVoid with
  | some name, false => .type name
  | _, _ => .nothing

def Signature.ofSymbol (method : MethodSymbol) : Signature where
  name := method.name
  result := .ofSymbol method
  parameters := method.parameters.map .ofSymbol

def Contract.ofSymbol (type : TypeSymbol) : Contract where
  name := type.qualifiedName
  methods := type.methods.map .ofSymbol

/-! ## The walk -/

/-- The number of types whose name is not among the visited ones. -/
def unvisited (compilation : Compilation) (visited : List String) : Nat :=
  compilation.types.countP fun type => type.qualifiedName ∉ visited

theorem countP_lt_of_imp {p q : α → Bool} {a : α} {list : List α} (h : ∀ x, p x → q x)
    (mem : a ∈ list) (hp : p a = false) (hq : q a = true) : list.countP p < list.countP q := by
  induction list with
  | nil => simp at mem
  | cons x rest ih =>
    have le : rest.countP p ≤ rest.countP q := List.countP_mono_left fun x _ => h x
    rcases List.mem_cons.1 mem with rfl | mem
    · simp only [List.countP_cons, hp, hq]
      simp only [Bool.false_eq_true, if_false, if_true]
      omega
    · have lt := ih mem
      simp only [List.countP_cons]
      by_cases hx : p x = true
      · simp only [hx, h x hx, if_true]; omega
      · rw [if_neg hx]; omega

theorem unvisited_cons_lt {compilation : Compilation} {visited : List String} {name : String}
    {type : TypeSymbol} (h : compilation.interface? name = some type) (new : name ∉ visited) :
    unvisited compilation (name :: visited) < unvisited compilation visited := by
  obtain ⟨mem, rfl, -⟩ := Compilation.mem_of_interface? h
  -- The type that is visited now is counted on the right only.
  refine countP_lt_of_imp (a := type) ?_ mem ?_ ?_
  · intro x hx
    simp only [List.mem_cons, not_or, decide_eq_true_eq] at hx ⊢
    exact hx.2
  · simp
  · simpa using new

/-- The interfaces that the walk meets from the pending names on. -/
def walk (compilation : Compilation) (visited pending : List String) : List TypeSymbol :=
  match pending with
  | [] => []
  | name :: rest =>
    if new : name ∈ visited then walk compilation visited rest
    else
      match h : compilation.interface? name with
      | none => walk compilation visited rest
      | some type =>
        have := unvisited_cons_lt h new
        type :: walk compilation (name :: visited) (type.bases ++ rest)
termination_by (unvisited compilation visited, pending.length)

section

variable {compilation : Compilation} {visited rest : List String} {name : String}

theorem walk_cons_of_mem (seen : name ∈ visited) :
    walk compilation visited (name :: rest) = walk compilation visited rest := by
  rw [walk, dif_pos seen]

theorem walk_cons_of_none (missing : compilation.interface? name = none) :
    walk compilation visited (name :: rest) = walk compilation visited rest := by
  rw [walk]
  split
  · rfl
  · split
    · rfl
    · next found => rw [missing] at found; cases found

theorem walk_cons_of_some (new : name ∉ visited) {type : TypeSymbol}
    (h : compilation.interface? name = some type) :
    walk compilation visited (name :: rest) =
      type :: walk compilation (name :: visited) (type.bases ++ rest) := by
  rw [walk, dif_neg new]
  split
  · next missing => rw [h] at missing; cases missing
  · next found => rw [h] at found; cases found; rfl

end

/-- The contracts that can be reached from the roots. -/
def Contract.reachable (compilation : Compilation) (roots : List String) : List Contract :=
  (walk compilation [] roots).map .ofSymbol

end TypedHub
