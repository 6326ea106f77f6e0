import TypedHub.Proofs.Stub.Bodies
import TypedHub.Proofs.Stub.ReturnTypes

/-!
# What the constructor subscribes to

For each incoming method the interface has a delegate, and the constructor subscribes with a closure
that raises the event of the delegate. Four lists are made of the parameters of the method: those of
the delegate, those of the closure, the type arguments of the subscription, and the arguments of the
raise. A stub compiles, and answers what the hub calls, only if they go in step
(`signatures_agree`).
-/

namespace TypedHub

open CSharp

namespace CSharp

/-! ## Subscriptions -/

/-- A call that registers a closure under a key. -/
structure Subscription where
  callee : String
  typeArguments : List String
  connection : String
  key : String
  isAsync : Bool
  parameters : List Param
  body : Expr

/-- The closure that is registered. -/
def Subscription.closure (subscription : Subscription) : Expr :=
  .lambda subscription.isAsync subscription.parameters subscription.body

def Statement.subscription? : Statement → Option Subscription
  | .expr (.call (.name callee) typeArguments
      [.name connection, .str key, .lambda isAsync parameters body]) =>
    some ⟨callee, typeArguments, connection, key, isAsync, parameters, body⟩
  | _ => none

/-- The subscriptions in the body of a constructor. -/
def Constructor.subscriptions (constructor : Constructor) : List Subscription :=
  constructor.body.filterMap Statement.subscription?

/-! ## Invocations -/

/-- A delegate that is invoked unless it is null, and what it is handed. -/
structure Invocation where
  target : Expr
  arguments : List Expr

def Occurrence.invocation? : Occurrence → Option Invocation
  | ⟨.invokeIfSet target arguments, _⟩ => some ⟨target, arguments⟩
  | _ => none

/-- The invocations in an expression. -/
def Expr.invocations (e : Expr) : List Invocation :=
  (e.occurrences []).filterMap Occurrence.invocation?

/-- Simple expressions as arguments invoke nothing, so an invocation of a name with such arguments
is the only one. -/
theorem invocations_invokeIfSet {target : String} {arguments : List Expr}
    (flat : ∀ argument ∈ arguments, argument = .this ∨ ∃ text, argument = .name text) :
    (Expr.invokeIfSet (.name target) arguments).invocations = [⟨.name target, arguments⟩] := by
  have none :
      (arguments.flatMap (Expr.occurrences [])).filterMap Occurrence.invocation? = [] := by
    rw [List.filterMap_flatMap, List.flatMap_eq_nil_iff]
    intro argument mem
    rcases flat argument mem with rfl | ⟨text, rfl⟩
    · rw [Expr.occurrences]
      rfl
    · rw [Expr.occurrences]
      rfl
  have invocation : Occurrence.invocation? ⟨.invokeIfSet (.name target) arguments, []⟩ =
      some ⟨.name target, arguments⟩ := rfl
  rw [Expr.invocations, Expr.occurrences, Expr.occurrences, exprOccurrences_eq,
    List.filterMap_cons_some invocation, List.singleton_append, List.filterMap_cons_none rfl, none]

theorem invocations_await (operand : Expr) :
    (Expr.await operand).invocations = operand.invocations := by
  rw [Expr.invocations, Expr.occurrences, List.filterMap_cons_none rfl, Expr.invocations]

theorem invocations_coalesce {left right : Expr} (none : right.invocations = []) :
    (Expr.coalesce left right).invocations = left.invocations := by
  rw [Expr.invocations] at none
  rw [Expr.invocations, Expr.occurrences, List.filterMap_cons_none rfl, List.filterMap_append, none,
    List.append_nil, Expr.invocations]

end CSharp

namespace Signature

variable {method : Signature}

/-- The subscription to the calls of the method. -/
def subscribed (settings : Settings) (method : Signature) : Subscription where
  callee := settings.transport.subscribe
  typeArguments :=
    method.parameters.map (·.markedType) ++ (Completion.of method.result).result?.toList
  connection := settings.transport.connectionProperty
  key := method.name
  isAsync := method.closureIsAsync
  parameters := method.parameters.map (·.bare)
  body := method.closureBody

theorem invocations_raise :
    method.raise.invocations = [⟨.name method.memberName, .this :: method.arguments⟩] := by
  refine invocations_invokeIfSet ?_
  intro argument mem
  rw [arguments_eq, List.mem_cons, List.mem_map] at mem
  rcases mem with rfl | ⟨name, -, rfl⟩
  · exact .inl rfl
  · exact .inr ⟨name, rfl⟩

/-- Whatever stands for the answer when the event is not set, it invokes nothing. -/
theorem invocations_closureBody :
    method.closureBody.invocations = [⟨.name method.memberName, .this :: method.arguments⟩] := by
  unfold closureBody
  cases Completion.of method.result with
  | nothing => exact invocations_raise
  | awaitable kind =>
    have none : (completed kind).invocations = [] := by
      rw [completed, Expr.invocations, Expr.occurrences]
      rfl
    rw [invocations_await, invocations_coalesce none, invocations_raise]
  | awaitableOf kind result =>
    have none : (completedWith kind result).invocations = [] := by
      simp [completedWith, Expr.invocations, Expr.occurrences, exprOccurrences,
        List.filterMap_cons, Occurrence.invocation?]
    rw [invocations_await, invocations_coalesce none, invocations_raise]
  | value type =>
    have none : Expr.defaultValue.invocations = [] := by
      rw [Expr.invocations, Expr.occurrences]
      rfl
    rw [invocations_coalesce none, invocations_raise]

end Signature

namespace Stub

variable {settings : Settings} {stub : Stub}

/-- The constructor subscribes to the incoming methods one by one. -/
theorem subscriptions_constructor :
    (stub.constructor settings).subscriptions =
      (stub.methods .incoming).map (·.subscribed settings) := by
  rw [Constructor.subscriptions, constructor, constructorBody, List.filterMap_cons_none rfl,
    List.filterMap_map, ← List.filterMap_eq_map]
  rfl

theorem subscription_constructor {method : Signature} {i : Nat}
    (h : (stub.methods .incoming)[i]? = some method) :
    (stub.constructor settings).subscriptions[i]? = some (method.subscribed settings) := by
  rw [subscriptions_constructor, List.getElem?_map, h, Option.map_some]

end Stub

/-! ## Agreement -/

/-- A delegate, and a subscription with a closure, that are made for the calls of one method. -/
structure Signature.AgreeOn (method : Signature) (delegate : Delegate)
    (subscription : Subscription) : Prop where
  length_closure : subscription.parameters.length = method.parameters.length
  /-- The closure takes what the contract says, with the nullable marks. -/
  closureTypes :
    List.Forall₂ Parameter.TypedAs method.parameters (subscription.parameters.map (·.type))
  /-- The delegate takes the same behind the sender. -/
  delegateTypes : ∃ sender rest, delegate.parameters = sender :: rest ∧
    rest.map (·.type) = subscription.parameters.map (·.type)
  /-- The type arguments begin with the same types. -/
  typeArguments : subscription.typeArguments.take method.parameters.length =
    subscription.parameters.map (·.type)
  /-- There is one more, the type of the result, if and only if the method has a result. -/
  resultArgument : ∀ type,
    subscription.typeArguments.drop method.parameters.length = [type] ↔ method.result.Carries type
  noResultArgument :
    subscription.typeArguments.length = method.parameters.length ↔
      ¬ ∃ type, method.result.Carries type
  /-- The closure raises one event, that of the method, with the client and its own parameters. -/
  raises : subscription.body.invocations =
    [⟨.name (escapeKeyword method.name),
      .this :: subscription.parameters.map fun parameter => .name parameter.name⟩]
  /-- These are as many arguments as the delegate has parameters. -/
  length_raise : ∀ invocation ∈ subscription.body.invocations,
    invocation.arguments.length = delegate.parameters.length

namespace Signature

theorem take_typeArguments (settings : Settings) (method : Signature) :
    (method.subscribed settings).typeArguments.take method.parameters.length =
      method.parameters.map (·.markedType) := by
  rw [subscribed, ← List.length_map (·.markedType), List.take_left]

theorem drop_typeArguments (settings : Settings) (method : Signature) :
    (method.subscribed settings).typeArguments.drop method.parameters.length =
      (Completion.of method.result).result?.toList := by
  rw [subscribed, ← List.length_map (·.markedType), List.drop_left]

theorem types_closure (settings : Settings) (method : Signature) :
    (method.subscribed settings).parameters.map (·.type) =
      method.parameters.map (·.markedType) := by
  rw [subscribed, List.map_map]
  rfl

theorem names_closure (settings : Settings) (method : Signature) :
    (method.subscribed settings).parameters.map (·.name) = method.writtenNames := by
  rw [subscribed, List.map_map]
  rfl

theorem agreeOn (settings : Settings) (interfaceName : String) (method : Signature) :
    method.AgreeOn (method.delegate interfaceName) (method.subscribed settings) where
  length_closure := by rw [subscribed, List.length_map]
  closureTypes := by
    rw [types_closure, List.forall₂_map_right_iff, List.forall₂_same]
    exact fun parameter _ => parameter.typedAs_markedType
  delegateTypes := by
    refine ⟨_, _, rfl, ?_⟩
    rw [types_closure, List.map_map]
    rfl
  typeArguments := by rw [take_typeArguments, types_closure]
  resultArgument := by
    intro type
    rw [drop_typeArguments, Result.carries_iff]
    cases (Completion.of method.result).result? with
    | none => simp
    | some result => simp
  noResultArgument := by
    simp only [Result.carries_iff]
    rw [subscribed, List.length_append, List.length_map]
    cases (Completion.of method.result).result? with
    | none => simp
    | some result => simp
  raises := by
    have arguments : method.arguments =
        (method.subscribed settings).parameters.map fun parameter => .name parameter.name := by
      rw [arguments_eq, ← names_closure settings, List.map_map]
      rfl
    rw [← arguments]
    exact invocations_closureBody
  length_raise := by
    intro invocation mem
    have body : (method.subscribed settings).body = method.closureBody := rfl
    rw [body, invocations_closureBody] at mem
    obtain rfl := List.mem_singleton.1 mem
    rw [delegate, List.length_cons, List.length_cons, arguments, List.length_map, List.length_map]

end Signature

namespace Stub

/-- **For each incoming method, in their order, the interface has a delegate and the constructor a
subscription that agree on its signature: on the types of the parameters, on whether there is a
result, and on what the closure hands to the handlers.** -/
theorem signatures_agree (settings : Settings) (stub : Stub) {unit : CompilationUnit}
    (written : stub.lower settings = .ok unit) :
    ∃ classType interfaceType constructor, unit.types = [classType, interfaceType] ∧
      classType.constructor? = some constructor ∧
      interfaceType.delegates.length = (stub.incoming.flatMap (·.methods)).length ∧
      constructor.subscriptions.length = (stub.incoming.flatMap (·.methods)).length ∧
      constructor.body.length = (stub.incoming.flatMap (·.methods)).length + 1 ∧
      ∀ (i : Nat) (method : Signature), (stub.incoming.flatMap (·.methods))[i]? = some method →
        ∃ delegate subscription, interfaceType.delegates[i]? = some delegate ∧
          constructor.subscriptions[i]? = some subscription ∧ subscription.key = method.name ∧
          method.AgreeOn delegate subscription := by
  obtain ⟨-, rfl⟩ := lower_eq_ok_iff.1 written
  refine ⟨_, _, _, rfl, constructor?_classDecl, ?_, ?_, ?_, ?_⟩
  · rw [delegates_interfaceDecl, List.length_map]
    rfl
  · rw [subscriptions_constructor, List.length_map]
    rfl
  · rw [constructor, constructorBody, List.length_cons, List.length_map]
    rfl
  · intro i method h
    refine ⟨method.delegate stub.interfaceName, method.subscribed settings, ?_, ?_, rfl,
      method.agreeOn settings stub.interfaceName⟩
    · exact delegate_interfaceDecl h
    · exact subscription_constructor h

/-- A client that is greeted by name and times, asked a question, and told to stop: a nullable
parameter, a keyword for a name, a rest of arguments, and results of all forms. -/
def listener : Stub where
  className := "Listener"
  containingNamespace := "App"
  visibility := .isInternal
  outgoing := []
  incoming :=
    [⟨"IGreeter",
        [⟨"greeted", .type "System.Threading.Tasks.Task",
            [⟨"string", "who", true, none, false⟩, ⟨"int", "event", false, some "1", false⟩]⟩,
          ⟨"ask", .type "global::System.Threading.Tasks.ValueTask<bool>",
            [⟨"string?", "question", true, none, false⟩]⟩]⟩,
      ⟨"ICounter",
        [⟨"count", .type "int", [⟨"string[]", "words", false, none, true⟩]⟩,
          ⟨"stop", .nothing, []⟩]⟩]

theorem lower_listener : listener.lower {} = .ok (listener.compilationUnit {}) :=
  lower_eq_ok_iff.2 ⟨by decide +kernel, rfl⟩

theorem signatures_agree_listener :
    listener.lower {} = .ok (listener.compilationUnit {}) ∧
      ∃ classType interfaceType constructor,
        (listener.compilationUnit {}).types = [classType, interfaceType] ∧
          classType.constructor? = some constructor ∧
          (∀ (i : Nat) (method : Signature),
            (listener.incoming.flatMap (·.methods))[i]? = some method →
            ∃ delegate subscription, interfaceType.delegates[i]? = some delegate ∧
              constructor.subscriptions[i]? = some subscription ∧
              subscription.key = method.name ∧ method.AgreeOn delegate subscription) ∧
          interfaceType.delegates.map (·.parameters.map (·.type)) =
            [["IListener", "string?", "int"], ["IListener", "string?"], ["IListener", "string[]"],
              ["IListener"]] ∧
          constructor.subscriptions.map (fun subscription =>
              (subscription.key, subscription.typeArguments)) =
            [("greeted", ["string?", "int"]), ("ask", ["string?", "bool"]),
              ("count", ["string[]", "int"]), ("stop", [])] := by
  obtain ⟨classType, interfaceType, constructor, types, first, -, -, -, agree⟩ :=
    signatures_agree {} listener lower_listener
  obtain ⟨rfl, rfl⟩ :
      listener.classDecl {} = classType ∧ listener.interfaceDecl {} = interfaceType := by
    simpa [compilationUnit] using types
  obtain rfl : listener.constructor {} = constructor :=
    Option.some.inj (constructor?_classDecl.symm.trans first)
  refine ⟨lower_listener, _, _, _, rfl, first, agree, ?_, ?_⟩
  all_goals decide +kernel

end Stub

end TypedHub
