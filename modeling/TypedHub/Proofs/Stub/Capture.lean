import Mathlib.Data.List.Forall2
import TypedHub.Proofs.Stub.MemberNames
import TypedHub.Proofs.Stub.Members

/-!
# What the closures of a constructor raise

The constructor subscribes to each incoming method with a closure that raises the event of the
method. The event is written as a simple name, and a simple name is looked up among the parameters
around it before it is looked up among the members of the class. So it stands for the event only if
it is the name of no parameter of the closure and not that of the parameter of the constructor.

The parameters that are added to the signatures of methods get fresh names; that of the constructor
has a fixed one, and those of a closure are the user's. So both can capture the name of an event.
-/

namespace TypedHub

open CSharp

namespace CSharp

/-! ## Raises and their scopes -/

/-- A delegate that is invoked unless it is null, and the names of the parameters around the place
where that is done, innermost first. -/
structure Raise where
  target : Expr
  scope : List String

mutual

/-- The raises in an expression that stands in a scope. -/
def Expr.raises (scope : List String) : Expr → List Raise
  | .name _ | .literal _ | .str _ | .this | .defaultValue => []
  | .member target _ => target.raises scope
  | .call callee _ arguments => callee.raises scope ++ exprRaises scope arguments
  | .invokeIfSet target arguments =>
    ⟨target, scope⟩ :: (target.raises scope ++ exprRaises scope arguments)
  | .await operand => operand.raises scope
  | .coalesce left right => left.raises scope ++ right.raises scope
  | .discard value => value.raises scope
  | .lambda _ parameters body =>
    paramRaises scope parameters ++ body.raises (parameters.map (·.name) ++ scope)

/-- The raises in expressions that stand in the same scope. -/
def exprRaises (scope : List String) : List Expr → List Raise
  | [] => []
  | e :: rest => e.raises scope ++ exprRaises scope rest

/-- The raises in the default of a parameter. -/
def Param.raises (scope : List String) : Param → List Raise
  | ⟨_, _, _, default?⟩ => defaultRaises scope default?

def paramRaises (scope : List String) : List Param → List Raise
  | [] => []
  | p :: rest => p.raises scope ++ paramRaises scope rest

def defaultRaises (scope : List String) : Option Expr → List Raise
  | none => []
  | some value => value.raises scope

end

def Statement.raises (scope : List String) : Statement → List Raise
  | assign target value => target.raises scope ++ value.raises scope
  | expr value => value.raises scope

/-- The raises in the body of a constructor, whose parameters are in scope there. -/
def Constructor.raises (constructor : Constructor) : List Raise :=
  constructor.body.flatMap (Statement.raises (constructor.parameters.map (·.name)))

/-- The target is a simple name, and no parameter around it has that name; so it is the name of a
member. -/
def Raise.ReachesMember (raise : Raise) (name : String) : Prop :=
  raise.target = .name name ∧ ∀ bound ∈ raise.scope, identifier bound ≠ identifier name

theorem exprRaises_eq (scope : List String) (expressions : List Expr) :
    exprRaises scope expressions = expressions.flatMap (Expr.raises scope) := by
  induction expressions with
  | nil => rfl
  | cons e rest ih => rw [exprRaises, ih, List.flatMap_cons]

theorem paramRaises_eq (scope : List String) (parameters : List Param) :
    paramRaises scope parameters =
      parameters.flatMap fun parameter => defaultRaises scope parameter.default? := by
  induction parameters with
  | nil => rfl
  | cons p rest ih =>
    obtain ⟨_, _, _, _⟩ := p
    rw [paramRaises, Param.raises, ih, List.flatMap_cons]

end CSharp

/-! ## The raises of a closure -/

namespace Signature

variable {scope : List String} {method : Signature}

theorem raises_raise : method.raise.raises scope = [⟨.name method.memberName, scope⟩] := by
  have arguments : exprRaises scope (.this :: method.arguments) = [] := by
    rw [exprRaises_eq, List.flatMap_eq_nil_iff]
    intro e mem
    simp only [Signature.arguments, Parameter.argument, List.mem_cons, List.mem_map] at mem
    obtain rfl | ⟨parameter, -, rfl⟩ := mem <;> rw [Expr.raises]
  rw [raise, Expr.raises, Expr.raises, arguments]
  rfl

/-- Whatever the method returns, its closure raises one event. -/
theorem raises_closureBody :
    method.closureBody.raises scope = [⟨.name method.memberName, scope⟩] := by
  unfold closureBody
  cases Completion.of method.result with
  | nothing => exact raises_raise
  | awaitable kind => simp [completed, Expr.raises, raises_raise]
  | awaitableOf kind result =>
    simp [completedWith, Expr.raises, exprRaises, raises_raise]
  | value type => simp [Expr.raises, raises_raise]

theorem raises_subscription (settings : Settings) :
    (method.subscription settings).raises scope =
      [⟨.name method.memberName,
        method.parameters.map (fun parameter => escapeKeyword parameter.name) ++ scope⟩] := by
  have parameters : paramRaises scope (method.parameters.map (·.bare)) = [] := by
    rw [paramRaises_eq, List.flatMap_map, List.flatMap_eq_nil_iff]
    exact fun parameter _ => by rw [Parameter.bare, Parameter.withoutDefault, defaultRaises]
  have names : (method.parameters.map (·.bare)).map (·.name) =
      method.parameters.map fun parameter => escapeKeyword parameter.name := by
    rw [List.map_map]
    rfl
  simp [subscription, closure, Expr.raises, exprRaises, parameters, names, raises_closureBody]

end Signature

/-! ## The constructor -/

namespace Stub

variable {settings : Settings} {stub : Stub}

theorem raises_constructor :
    (stub.constructor settings).raises =
      (stub.methods .incoming).map fun method =>
        ⟨.name method.memberName,
          method.parameters.map (fun parameter => escapeKeyword parameter.name) ++
            [connectionParam]⟩ := by
  have connection : Statement.raises [connectionParam]
      (.assign (.name settings.transport.connectionProperty) (.name connectionParam)) = [] := by
    rw [Statement.raises, Expr.raises, Expr.raises]
    rfl
  rw [Constructor.raises, constructor, constructorBody, List.map_singleton, List.flatMap_cons,
    connection, List.nil_append, List.flatMap_map, List.map_eq_flatMap]
  congr 1
  funext method
  exact Signature.raises_subscription settings

/-- **The constructor raises the events one by one, in their order, and each by its name; and that
name reaches the event if and only if it is neither that of a parameter of the method nor that of
the parameter of the constructor.** -/
theorem raises_reach_events_iff (settings : Settings) (stub : Stub) {unit : CompilationUnit}
    (written : stub.lower settings = .ok unit) :
    ∃ classType interfaceType constructor, unit.types = [classType, interfaceType] ∧
      classType.constructor? = some constructor ∧
      classType.events.map (·.name) = (stub.methods .incoming).map (·.memberName) ∧
      List.Forall₂
        (fun method raise => raise.target = .name method.memberName ∧
          (raise.ReachesMember method.memberName ↔
            identifier method.name ≠ connectionParam ∧
              ∀ parameter ∈ method.parameters, identifier parameter.name ≠ identifier method.name))
        (stub.methods .incoming) constructor.raises := by
  obtain ⟨-, rfl⟩ := lower_eq_ok_iff.1 written
  refine ⟨_, _, _, rfl, constructor?_classDecl, ?_, ?_⟩
  · rw [events_classDecl, List.map_map]
    rfl
  · rw [raises_constructor, List.forall₂_map_right_iff, List.forall₂_same]
    refine fun method _ => ⟨rfl, ?_⟩
    have connection : identifier connectionParam = connectionParam := by decide
    simp only [Raise.ReachesMember, true_and, List.mem_append, List.mem_map, List.mem_singleton,
      or_imp, forall_and, forall_eq, forall_exists_index, and_imp, forall_apply_eq_imp_iff₂,
      Signature.memberName, identifier_escapeKeyword, connection]
    rw [and_comm, ne_comm]

theorem raises_reach_events_chat :
    chat.lower {} = .ok (chat.compilationUnit {}) ∧
      ∃ classType interfaceType constructor,
        (chat.compilationUnit {}).types = [classType, interfaceType] ∧
          classType.constructor? = some constructor ∧
          List.Forall₂ (fun method raise => raise.ReachesMember method.memberName)
            (chat.methods .incoming) constructor.raises := by
  have written : chat.lower {} = .ok (chat.compilationUnit {}) := by rfl
  obtain ⟨classType, interfaceType, constructor, types, first, -, raises⟩ :=
    raises_reach_events_iff {} chat written
  refine ⟨written, classType, interfaceType, constructor, types, first, ?_⟩
  have free : ∀ method ∈ chat.methods .incoming, identifier method.name ≠ connectionParam ∧
      ∀ parameter ∈ method.parameters, identifier parameter.name ≠ identifier method.name := by
    decide
  exact ((List.forall₂_and_left _ _).2 ⟨free, raises⟩).imp fun _ _ ⟨free, _, reaches⟩ =>
    reaches.2 free

/-- A client with an incoming method that has the name of the parameter of the constructor. -/
def shadowed : Stub where
  className := "C"
  containingNamespace := ""
  visibility := .isPublic
  outgoing := []
  incoming := [⟨"IIn", [⟨"hubConnection", .nothing, []⟩]⟩]

/-- The checks pass although the closure invokes the connection instead of the event. -/
theorem not_raises_reach_events_shadowed :
    shadowed.clashes = [] ∧ shadowed.lower {} = .ok (shadowed.compilationUnit {}) ∧
      ∃ method ∈ shadowed.methods .incoming, ∃ raise ∈ (shadowed.constructor {}).raises,
        raise.target = .name method.memberName ∧ ¬ raise.ReachesMember method.memberName := by
  refine ⟨by decide, by rfl, ⟨"hubConnection", .nothing, []⟩, by decide,
    ⟨.name "hubConnection", ["hubConnection"]⟩, ?_, by rfl, ?_⟩
  · rw [raises_constructor]
    exact List.mem_singleton.2 rfl
  · rintro ⟨-, apart⟩
    exact absurd rfl (apart "hubConnection" List.mem_cons_self)

end Stub

end TypedHub
