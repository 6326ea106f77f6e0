import TypedHub.Proofs.Stub.Agreement
import TypedHub.Proofs.Stub.FreshName

/-!
# What the bodies of outgoing methods call

Of the two methods of the class for an outgoing method, the first one calls the second one, and the
second one calls the transport. Both hand on their parameters. The called method and the connection
are written as simple names, and the parameters of the method, whose names are the user's, are in
scope there. So the name of a method can be captured by one of its own parameters, and so can the
connection (`calls_reach_members_iff`).

The token, which is the only parameter that is not the user's, captures neither: its name is fresh
among the parameters, and it is never that of the connection.
-/

namespace TypedHub

open CSharp

namespace CSharp

/-! ## Calls and their scopes -/

/-- An expression, and the names of the parameters around it, innermost first. -/
structure Occurrence where
  expr : Expr
  scope : List String

mutual

/-- An expression that stands in a scope, and all expressions in it. -/
def Expr.occurrences (scope : List String) : Expr → List Occurrence
  | .name text => [⟨.name text, scope⟩]
  | .literal text => [⟨.literal text, scope⟩]
  | .str value => [⟨.str value, scope⟩]
  | .this => [⟨.this, scope⟩]
  | .defaultValue => [⟨.defaultValue, scope⟩]
  | .member target memberName => ⟨.member target memberName, scope⟩ :: target.occurrences scope
  | .call callee typeArguments arguments =>
    ⟨.call callee typeArguments arguments, scope⟩ ::
      (callee.occurrences scope ++ exprOccurrences scope arguments)
  | .invokeIfSet target arguments =>
    ⟨.invokeIfSet target arguments, scope⟩ ::
      (target.occurrences scope ++ exprOccurrences scope arguments)
  | .await operand => ⟨.await operand, scope⟩ :: operand.occurrences scope
  | .coalesce left right =>
    ⟨.coalesce left right, scope⟩ :: (left.occurrences scope ++ right.occurrences scope)
  | .discard value => ⟨.discard value, scope⟩ :: value.occurrences scope
  | .lambda isAsync parameters body =>
    ⟨.lambda isAsync parameters body, scope⟩ ::
      (paramOccurrences scope parameters ++ body.occurrences (parameters.map (·.name) ++ scope))

/-- The expressions in a list of them. -/
def exprOccurrences (scope : List String) : List Expr → List Occurrence
  | [] => []
  | e :: rest => e.occurrences scope ++ exprOccurrences scope rest

/-- The expressions in the default of a parameter. -/
def Param.occurrences (scope : List String) : Param → List Occurrence
  | ⟨_, _, _, default?⟩ => defaultOccurrences scope default?

def paramOccurrences (scope : List String) : List Param → List Occurrence
  | [] => []
  | p :: rest => p.occurrences scope ++ paramOccurrences scope rest

def defaultOccurrences (scope : List String) : Option Expr → List Occurrence
  | none => []
  | some value => value.occurrences scope

end

theorem exprOccurrences_eq (scope : List String) (expressions : List Expr) :
    exprOccurrences scope expressions = expressions.flatMap (Expr.occurrences scope) := by
  induction expressions with
  | nil => rfl
  | cons e rest ih => rw [exprOccurrences, ih, List.flatMap_cons]

/-- A call of what a name stands for, and the names of the parameters around it. -/
structure NamedCall where
  callee : String
  typeArguments : List String
  arguments : List Expr
  scope : List String

def Occurrence.namedCall? : Occurrence → Option NamedCall
  | ⟨.call (.name callee) typeArguments arguments, scope⟩ =>
    some ⟨callee, typeArguments, arguments, scope⟩
  | _ => none

/-- The calls by name in an expression that stands in a scope. -/
def Expr.namedCalls (scope : List String) (e : Expr) : List NamedCall :=
  (e.occurrences scope).filterMap Occurrence.namedCall?

/-- The calls by name in the body of a method, whose parameters are in scope there. -/
def Method.namedCalls (method : Method) : List NamedCall :=
  method.body.toList.flatMap (Expr.namedCalls (method.parameters.map (·.name)))

/-- A simple name that no parameter around it has; so it stands for a member of the class. -/
def IsMemberName (scope : List String) (name : String) : Prop :=
  ∀ bound ∈ scope, identifier bound ≠ identifier name

variable {scope : List String}

/-- Names and strings as arguments call nothing, so a call of a name with such arguments is the only
one. -/
theorem namedCalls_call {callee : String} {typeArguments : List String} {arguments : List Expr}
    (flat : ∀ argument ∈ arguments,
      (∃ text, argument = .name text) ∨ ∃ value, argument = .str value) :
    (Expr.call (.name callee) typeArguments arguments).namedCalls scope =
      [⟨callee, typeArguments, arguments, scope⟩] := by
  have none :
      (arguments.flatMap (Expr.occurrences scope)).filterMap Occurrence.namedCall? = [] := by
    rw [List.filterMap_flatMap, List.flatMap_eq_nil_iff]
    intro argument mem
    obtain ⟨text, rfl⟩ | ⟨value, rfl⟩ := flat argument mem
    · rw [Expr.occurrences]
      rfl
    · rw [Expr.occurrences]
      rfl
  have call : Occurrence.namedCall? ⟨.call (.name callee) typeArguments arguments, scope⟩ =
      some ⟨callee, typeArguments, arguments, scope⟩ := rfl
  rw [Expr.namedCalls, Expr.occurrences, Expr.occurrences, exprOccurrences_eq,
    List.filterMap_cons_some call, List.singleton_append, List.filterMap_cons_none rfl, none]

/-- Awaiting or dropping the value of an expression, and calling a method of it, calls nothing else
by name. -/
theorem namedCalls_await (operand : Expr) :
    (Expr.await operand).namedCalls scope = operand.namedCalls scope := by
  rw [Expr.namedCalls, Expr.occurrences, List.filterMap_cons_none rfl, Expr.namedCalls]

theorem namedCalls_discard (value : Expr) :
    (Expr.discard value).namedCalls scope = value.namedCalls scope := by
  rw [Expr.namedCalls, Expr.occurrences, List.filterMap_cons_none rfl, Expr.namedCalls]

theorem namedCalls_callMethod (target : Expr) (method : String) :
    (target.callMethod method).namedCalls scope = target.namedCalls scope := by
  rw [Expr.callMethod, Expr.namedCalls, Expr.occurrences, Expr.occurrences,
    List.filterMap_cons_none rfl, exprOccurrences, List.append_nil, List.filterMap_cons_none rfl,
    Expr.namedCalls]

end CSharp

/-! ## The token -/

namespace Signature

variable {settings : Settings} {method : Signature}

/-- The name of the token begins with a small letter, other than that of the connection. -/
theorem identifier_tokenName_ne (method : Signature) :
    identifier method.tokenName ≠ identifier ({} : Transport).connectionProperty := by
  obtain ⟨count, eq⟩ := toList_freshName "cancellationToken" method.parameterNames
  have head : (identifier method.tokenName).toList.head? = some 'c' := by
    rw [identifier, tokenName, eq]
    exact congrArg List.head? eq
  intro same
  rw [same] at head
  exact absurd head (by decide)

/-! ## The calls of the two methods -/

/-- The names of the parameters of the method, as they are written. -/
def writtenNames (method : Signature) : List String :=
  method.parameters.map fun parameter => escapeKeyword parameter.name

theorem arguments_eq (method : Signature) : method.arguments = method.writtenNames.map .name := by
  rw [arguments, writtenNames, List.map_map]
  rfl

theorem names_forwarding :
    (method.forwarding settings).parameters.map (·.name) = method.writtenNames := by
  rw [forwarding, List.map_map]
  rfl

theorem names_cancellable :
    (method.cancellable settings).parameters.map (·.name) =
      method.writtenNames ++ [method.tokenName] := by
  rw [cancellable, cancellableParams, List.map_append, List.map_map]
  rfl

/-- Whatever the method returns, the first one calls the second one with the token that never
cancels. -/
theorem namedCalls_forwarding :
    (method.forwarding settings).namedCalls =
      [⟨method.memberName, [],
        method.writtenNames.map .name ++ [.name settings.transport.neverCancel],
        method.writtenNames⟩] := by
  have call : (Expr.callName method.memberName
      (method.arguments ++ [.name settings.transport.neverCancel])).namedCalls method.writtenNames =
        [⟨method.memberName, [],
          method.writtenNames.map .name ++ [.name settings.transport.neverCancel],
          method.writtenNames⟩] := by
    rw [Expr.callName, arguments_eq]
    refine namedCalls_call fun argument mem => .inl ?_
    rw [← List.map_singleton, ← List.map_append] at mem
    obtain ⟨name, -, rfl⟩ := List.mem_map.1 mem
    exact ⟨name, rfl⟩
  rw [Method.namedCalls, names_forwarding]
  change [method.forwardingCall settings].flatMap _ = _
  rw [List.flatMap_singleton, forwardingCall]
  cases Completion.of method.result with
  | nothing => rw [namedCalls_discard, call]
  | awaitable kind => exact call
  | awaitableOf kind result => exact call
  | value type => rw [namedCalls_callMethod, namedCalls_callMethod, call]

/-- The second one calls the transport with the connection, the name of the method and all of its
own parameters. -/
theorem namedCalls_cancellable :
    (method.cancellable settings).namedCalls =
      [⟨settings.transport.invoke, (Completion.of method.result).result?.toList,
        .name settings.transport.connectionProperty :: .str method.name ::
          (method.writtenNames ++ [method.tokenName]).map .name,
        method.writtenNames ++ [method.tokenName]⟩] := by
  have handedOn : method.arguments ++ [.name method.tokenName] =
      (method.writtenNames ++ [method.tokenName]).map .name := by
    rw [arguments_eq, List.map_append]
    rfl
  rw [Method.namedCalls, names_cancellable]
  change [Expr.await (method.transportCall settings)].flatMap _ = _
  rw [List.flatMap_singleton, namedCalls_await, transportCall, List.append_assoc, handedOn]
  refine namedCalls_call fun argument mem => ?_
  rcases List.mem_append.1 mem with front | passed
  · obtain rfl | rfl := List.mem_pair.1 front
    · exact .inl ⟨_, rfl⟩
    · exact .inr ⟨_, rfl⟩
  · obtain ⟨name, -, rfl⟩ := List.mem_map.1 passed
    exact .inl ⟨name, rfl⟩

/-! ## What their names stand for -/

theorem isMemberName_writtenNames {name : String} :
    IsMemberName method.writtenNames name ↔
      ∀ parameter ∈ method.parameters, identifier parameter.name ≠ identifier name := by
  simp only [IsMemberName, writtenNames, List.forall_mem_map, identifier_escapeKeyword]

theorem isMemberName_connection :
    IsMemberName (method.writtenNames ++ [method.tokenName]) ({} : Transport).connectionProperty ↔
      ∀ parameter ∈ method.parameters,
        identifier parameter.name ≠ identifier ({} : Transport).connectionProperty := by
  rw [← isMemberName_writtenNames]
  simp only [IsMemberName, List.forall_mem_append, List.forall_mem_singleton]
  exact and_iff_left method.identifier_tokenName_ne

/-- What the two methods of the class for an outgoing method call, and when the names that they use
stand for members of the class. -/
structure CallsThrough (settings : Settings) (method : Signature)
    (forwarding cancellable : Method) : Prop where
  /-- The first one calls a method of the name with its own parameters and the token that never
  cancels. -/
  forwards : ∃ call, forwarding.namedCalls = [call] ∧ call.callee = escapeKeyword method.name ∧
    call.arguments = forwarding.parameters.map (.name ·.name) ++
      [.name settings.transport.neverCancel] ∧
    call.scope = forwarding.parameters.map (·.name) ∧
    (IsMemberName call.scope call.callee ↔
      ∀ parameter ∈ method.parameters, identifier parameter.name ≠ identifier method.name)
  /-- The second one calls the transport with the connection, the name as it is in the contract and
  its own parameters, the last one of which is the token. -/
  invokes : ∃ call, cancellable.namedCalls = [call] ∧ call.callee = settings.transport.invoke ∧
    call.arguments = .name settings.transport.connectionProperty :: .str method.name ::
      cancellable.parameters.map (.name ·.name) ∧
    call.scope = cancellable.parameters.map (·.name) ∧
    (IsMemberName call.scope settings.transport.connectionProperty ↔
      ∀ parameter ∈ method.parameters,
        identifier parameter.name ≠ identifier settings.transport.connectionProperty)
  /-- Their own parameters are those of the contract, and behind them the token. -/
  forwarded : forwarding.parameters.map (·.name) =
    method.parameters.map fun parameter => escapeKeyword parameter.name
  invoked : cancellable.parameters.map (·.name) =
    (method.parameters.map fun parameter => escapeKeyword parameter.name) ++ [method.tokenName]

theorem callsThrough (standard : settings.transport = {}) (method : Signature) :
    method.CallsThrough settings (method.forwarding settings) (method.cancellable settings) where
  forwards := by
    refine ⟨_, namedCalls_forwarding, rfl, ?_, names_forwarding.symm, ?_⟩
    · rw [← names_forwarding, List.map_map]
      rfl
    · rw [isMemberName_writtenNames, memberName, identifier_escapeKeyword]
  invokes := by
    refine ⟨_, namedCalls_cancellable, rfl, ?_, names_cancellable.symm, ?_⟩
    · rw [← names_cancellable, List.map_map]
      rfl
    · rw [standard]
      exact isMemberName_connection
  forwarded := names_forwarding
  invoked := names_cancellable

end Signature

namespace Stub

/-- **In the class, each outgoing method has two methods that hand on their parameters as the
contract orders them. The one without a token calls the method by its name, and that name reaches it
if and only if none of its parameters has it; the one with a token calls the transport with the
connection, and that is reached if and only if none of the parameters has the name of the
property.** -/
theorem calls_reach_members_iff (settings : Settings) (standard : settings.transport = {})
    (stub : Stub) {unit : CompilationUnit} (written : stub.lower settings = .ok unit) :
    ∃ classType interfaceType, unit.types = [classType, interfaceType] ∧
      classType.methods.length = 2 * (stub.methods .outgoing).length ∧
      ∀ (i : Nat) (method : Signature), (stub.methods .outgoing)[i]? = some method →
        ∃ forwarding cancellable, classType.methods[2 * i]? = some forwarding ∧
          classType.methods[2 * i + 1]? = some cancellable ∧
          method.CallsThrough settings forwarding cancellable := by
  obtain ⟨-, rfl⟩ := lower_eq_ok_iff.1 written
  refine ⟨_, _, rfl, by rw [methods_classDecl, length_flatMap_pair], ?_⟩
  intro i method h
  refine ⟨method.forwarding settings, method.cancellable settings, ?_, ?_,
    method.callsThrough standard⟩
  · exact forwarding_classDecl h
  · exact cancellable_classDecl h

theorem calls_reach_members_chat :
    chat.lower {} = .ok (chat.compilationUnit {}) ∧
      ∃ classType interfaceType, (chat.compilationUnit {}).types = [classType, interfaceType] ∧
        ∃ forwarding cancellable forwardingCall transportCall,
          classType.methods[0]? = some forwarding ∧ classType.methods[1]? = some cancellable ∧
          forwarding.namedCalls = [forwardingCall] ∧ cancellable.namedCalls = [transportCall] ∧
          IsMemberName forwardingCall.scope forwardingCall.callee ∧
          IsMemberName transportCall.scope "HubConnection" := by
  have written : chat.lower {} = .ok (chat.compilationUnit {}) := by rfl
  obtain ⟨classType, interfaceType, types, -, calls⟩ := calls_reach_members_iff {} rfl chat written
  obtain ⟨forwarding, cancellable, first, second, through⟩ :=
    calls 0 ⟨"Send", .nothing, [⟨"string", "text", false, none, false⟩]⟩ rfl
  obtain ⟨forwardingCall, forwards, -, -, -, forwardsMember⟩ := through.forwards
  obtain ⟨transportCall, invokes, -, -, -, invokesMember⟩ := through.invokes
  exact ⟨written, classType, interfaceType, types, forwarding, cancellable, forwardingCall,
    transportCall, first, second, forwards, invokes, forwardsMember.2 (by decide),
    invokesMember.2 (by decide)⟩

/-- A client with an outgoing method that has parameters of its own name and of that of the
connection. -/
def captured : Stub where
  className := "C"
  containingNamespace := ""
  visibility := .isPublic
  outgoing :=
    [⟨"IOut", [⟨"send", .nothing, [⟨"string", "send", false, none, false⟩,
      ⟨"string", "HubConnection", false, none, false⟩]⟩]⟩]
  incoming := []

/-- The checks pass although the first method calls its parameter instead of the second method, and
the second one takes another parameter for the connection. -/
theorem not_calls_reach_members_captured :
    captured.clashes = [] ∧ captured.lower {} = .ok (captured.compilationUnit {}) ∧
      ∃ method ∈ captured.methods .outgoing, method.parameterNames.Nodup ∧
        (∃ call ∈ (method.forwarding {}).namedCalls, ¬ IsMemberName call.scope call.callee) ∧
        ∃ call ∈ (method.cancellable {}).namedCalls,
          call.arguments.head? = some (.name "HubConnection") ∧
          ¬ IsMemberName call.scope "HubConnection" := by
  refine ⟨by decide, by rfl, _, List.mem_singleton.2 rfl, by decide, ?_, ?_⟩
  · rw [Signature.namedCalls_forwarding]
    refine ⟨_, List.mem_singleton.2 rfl, fun apart => ?_⟩
    exact absurd (Signature.isMemberName_writtenNames.1 apart) (by decide)
  · rw [Signature.namedCalls_cancellable]
    refine ⟨_, List.mem_singleton.2 rfl, rfl, fun apart => ?_⟩
    exact absurd (Signature.isMemberName_connection.1 apart) (by decide)

end Stub

end TypedHub
