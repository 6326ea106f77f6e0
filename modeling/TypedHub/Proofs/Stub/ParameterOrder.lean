import TypedHub.Proofs.Stub.Subscriptions

/-!
# The order of written parameters

C# has two rules for the order of parameters: one that takes the rest of the arguments has none
behind it, and behind an optional one all others are optional as well, unless they take the rest.
Contracts keep them (`Signature.InOrder`). Four lists are made of the parameters of a method, and
each of them needs its own care:

* the overload without a token repeats them as they are;
* the overload with a token has one more behind them, so none of them takes the rest any longer, and
  the one that did becomes optional if another one is;
* the delegate has the client in front of them, and no defaults;
* the closure has nothing but types and names.

All of them keep the rules (`parameters_in_order`).
-/

namespace TypedHub

open CSharp

/-! ## The rules -/

/-- The parameters of a contract are in order. -/
structure Signature.InOrder (method : Signature) : Prop where
  /-- One that takes the rest of the arguments has none behind it. -/
  restLast : method.parameters.Pairwise fun earlier _ => earlier.isVariadic = false
  /-- Those behind an optional one are optional, unless they take the rest. -/
  optionalLast : method.parameters.Pairwise fun earlier later =>
    earlier.defaultText.isSome → later.isVariadic = false → later.defaultText.isSome

instance (method : Signature) : Decidable method.InOrder :=
  decidable_of_iff (_ ∧ _) ⟨fun ⟨rest, optional⟩ => ⟨rest, optional⟩,
    fun ⟨rest, optional⟩ => ⟨rest, optional⟩⟩

/-- Written parameters are in order. -/
structure CSharp.ParamsInOrder (params : List Param) : Prop where
  /-- One that takes the rest of the arguments has none behind it. -/
  restLast : params.Pairwise fun earlier _ => earlier.isParams = false
  /-- Those behind an optional one are optional, unless they take the rest. -/
  optionalLast : params.Pairwise fun earlier later =>
    earlier.default?.isSome → later.isParams = false → later.default?.isSome

/-- The parameters of the two methods of the class for an outgoing method, and of the declaration of
the second one in the interface. -/
structure Signature.WrittenInOrder (settings : Settings) (method : Signature)
    (forwarding cancellable declaration : Method) : Prop where
  names_forwarding : forwarding.parameters.map (·.name) = method.writtenNames
  forwardingInOrder : ParamsInOrder forwarding.parameters
  declared : declaration.parameters = cancellable.parameters
  /-- The token is the last one. -/
  tokenLast : ∃ front token, cancellable.parameters = front ++ [token] ∧
    front.map (·.name) = method.writtenNames ∧ token.name = method.tokenName ∧
    token.type = settings.transport.cancellationType
  /-- None of them takes the rest of the arguments. -/
  noRest : ∀ param ∈ cancellable.parameters, param.isParams = false
  /-- All behind an optional one are optional. -/
  optionalLast : cancellable.parameters.Pairwise fun earlier later =>
    earlier.default?.isSome → later.default?.isSome
  /-- None of them is optional if none was. -/
  noneAdded : (∀ parameter ∈ method.parameters, parameter.defaultText = none) →
    ∀ param ∈ cancellable.parameters, param.default? = none

/-- The parameters of the delegate for an incoming method, and of the closure that is subscribed. -/
structure Signature.HandledInOrder (interfaceName : String) (method : Signature)
    (delegate : Delegate) (subscription : Subscription) : Prop where
  /-- The client is the first one. -/
  senderFirst : ∃ sender rest, delegate.parameters = sender :: rest ∧
    sender.type = interfaceName ∧ rest.map (·.name) = method.writtenNames
  noDefaults : ∀ param ∈ delegate.parameters, param.default? = none
  restLast : delegate.parameters.Pairwise fun earlier _ => earlier.isParams = false
  names_closure : subscription.parameters.map (·.name) = method.writtenNames
  /-- The closure has only types and names. -/
  plainClosure : ∀ param ∈ subscription.parameters, param.isParams = false ∧ param.default? = none

/-! ## Defaults in front of the token -/

namespace Signature

variable {settings : Settings} {method : Signature}

theorem hasDefaults_of_mem {parameter : Parameter} (mem : parameter ∈ method.parameters)
    (optional : parameter.defaultText.isSome) : method.hasDefaults = true :=
  List.any_eq_true.2 ⟨parameter, mem, optional⟩

theorem hasDefaults_eq_false
    (without : ∀ parameter ∈ method.parameters, parameter.defaultText = none) :
    method.hasDefaults = false := by
  rw [hasDefaults, List.any_eq_false]
  intro parameter mem
  rw [without parameter mem]
  decide

/-- A parameter is optional in front of the token if it was before, or if it took the rest of the
arguments and any parameter was optional. -/
theorem isSome_default_beforeToken (parameter : Parameter) :
    (method.beforeToken parameter).default?.isSome ↔
      parameter.defaultText.isSome ∨ method.hasDefaults ∧ parameter.isVariadic := by
  rw [beforeToken, Parameter.declared]
  cases parameter.defaultText with
  | some text => simp
  | none => simp

theorem isSome_default_tokenParam :
    (method.tokenParam settings).default?.isSome ↔ method.hasDefaults := by
  rw [tokenParam]
  split
  · next h => simp [h]
  · next h => simp [h]

/-- What becomes optional in front of the token has only the token behind it, so the order is kept
there. -/
theorem optionalLast_cancellableParams (inOrder : method.InOrder) :
    (method.cancellableParams settings).Pairwise fun earlier later =>
      earlier.default?.isSome → later.default?.isSome := by
  rw [cancellableParams, List.pairwise_append]
  refine ⟨?front, List.pairwise_singleton _ _, ?token⟩
  case front =>
    rw [List.pairwise_map]
    refine (inOrder.restLast.and inOrder.optionalLast).imp_of_mem ?_
    rintro earlier later memEarlier - ⟨notRest, optional⟩ isSome
    rw [isSome_default_beforeToken] at isSome ⊢
    have given : earlier.defaultText.isSome := by
      rcases isSome with given | ⟨-, rest⟩
      · exact given
      · rw [notRest] at rest
        cases rest
    cases rest : later.isVariadic with
    | true => exact .inr ⟨hasDefaults_of_mem memEarlier given, rfl⟩
    | false => exact .inl (optional given rest)
  case token =>
    intro earlier memEarlier token memToken isSome
    obtain ⟨parameter, mem, rfl⟩ := List.mem_map.1 memEarlier
    obtain rfl := List.mem_singleton.1 memToken
    rw [isSome_default_tokenParam]
    rw [isSome_default_beforeToken] at isSome
    rcases isSome with given | ⟨any, -⟩
    · exact hasDefaults_of_mem mem given
    · exact any

theorem noRest_cancellableParams :
    ∀ param ∈ method.cancellableParams settings, param.isParams = false := by
  rw [cancellableParams, List.forall_mem_append, List.forall_mem_map, List.forall_mem_singleton]
  exact ⟨fun _ _ => rfl, rfl⟩

theorem default_cancellableParams
    (without : ∀ parameter ∈ method.parameters, parameter.defaultText = none) :
    ∀ param ∈ method.cancellableParams settings, param.default? = none := by
  have noDefaults := hasDefaults_eq_false without
  rw [cancellableParams, List.forall_mem_append, List.forall_mem_map, List.forall_mem_singleton]
  constructor
  · intro parameter mem
    simp [beforeToken, Parameter.declared, noDefaults, without parameter mem]
  · simp [tokenParam, noDefaults]

/-! ## The lists of a method -/

theorem paramsInOrder_forwarding (inOrder : method.InOrder) :
    ParamsInOrder (method.forwarding settings).parameters where
  restLast := by
    rw [forwarding, List.pairwise_map]
    exact inOrder.restLast
  optionalLast := by
    rw [forwarding, List.pairwise_map]
    refine inOrder.optionalLast.imp ?_
    intro earlier later optional isSome notRest
    rw [Parameter.declared, Option.isSome_map] at isSome ⊢
    exact optional isSome notRest

theorem writtenInOrder (settings : Settings) (inOrder : method.InOrder) :
    method.WrittenInOrder settings (method.forwarding settings) (method.cancellable settings)
      (method.declaration settings) where
  names_forwarding := names_forwarding
  forwardingInOrder := paramsInOrder_forwarding inOrder
  declared := rfl
  tokenLast := by
    refine ⟨_, _, rfl, ?_, rfl, rfl⟩
    rw [List.map_map]
    rfl
  noRest := noRest_cancellableParams
  optionalLast := optionalLast_cancellableParams inOrder
  noneAdded := default_cancellableParams

theorem handledInOrder (settings : Settings) (interfaceName : String) (inOrder : method.InOrder) :
    method.HandledInOrder interfaceName (method.delegate interfaceName)
      (method.subscribed settings) where
  senderFirst := by
    refine ⟨_, _, rfl, rfl, ?_⟩
    rw [List.map_map]
    rfl
  noDefaults := by
    rw [delegate, List.forall_mem_cons, List.forall_mem_map]
    exact ⟨rfl, fun _ _ => rfl⟩
  restLast := by
    rw [delegate, List.pairwise_cons, List.pairwise_map]
    exact ⟨fun _ _ => rfl, inOrder.restLast⟩
  names_closure := names_closure settings method
  plainClosure := by
    rw [subscribed, List.forall_mem_map]
    exact fun _ _ => ⟨rfl, rfl⟩

end Signature

namespace Stub

/-- **If the parameters of a method are in order, then so are those of all that is written for it:
in the overloads of an outgoing method, in the delegate of an incoming method and in the closure
that is subscribed.** -/
theorem parameters_in_order (settings : Settings) (stub : Stub) {unit : CompilationUnit}
    (written : stub.lower settings = .ok unit) :
    ∃ classType interfaceType constructor, unit.types = [classType, interfaceType] ∧
      classType.constructor? = some constructor ∧
      (∀ (i : Nat) (method : Signature),
        (stub.outgoing.flatMap (·.methods))[i]? = some method → method.InOrder →
        ∃ forwarding cancellable declaration, classType.methods[2 * i]? = some forwarding ∧
          classType.methods[2 * i + 1]? = some cancellable ∧
          interfaceType.methods[i]? = some declaration ∧
          method.WrittenInOrder settings forwarding cancellable declaration) ∧
      ∀ (i : Nat) (method : Signature),
        (stub.incoming.flatMap (·.methods))[i]? = some method → method.InOrder →
        ∃ delegate subscription, interfaceType.delegates[i]? = some delegate ∧
          constructor.subscriptions[i]? = some subscription ∧
          method.HandledInOrder interfaceType.name delegate subscription := by
  obtain ⟨-, rfl⟩ := lower_eq_ok_iff.1 written
  refine ⟨_, _, _, rfl, constructor?_classDecl, ?outgoing, ?incoming⟩
  case outgoing =>
    intro i method h inOrder
    refine ⟨method.forwarding settings, method.cancellable settings, method.declaration settings,
      ?_, ?_, ?_, method.writtenInOrder settings inOrder⟩
    · exact forwarding_classDecl h
    · exact cancellable_classDecl h
    · exact declaration_interfaceDecl h
  case incoming =>
    intro i method h inOrder
    refine ⟨method.delegate stub.interfaceName, method.subscribed settings, ?_, ?_,
      method.handledInOrder settings stub.interfaceName inOrder⟩
    · exact delegate_interfaceDecl h
    · exact subscription_constructor h

/-- A client of a log, with methods that take optional parameters and a rest of arguments. -/
def logger : Stub where
  className := "Logger"
  containingNamespace := "App"
  visibility := .isPublic
  outgoing :=
    [⟨"ILog", [⟨"write", .nothing,
        [⟨"string", "text", false, none, false⟩, ⟨"int", "level", false, some "3", false⟩,
          ⟨"string[]", "tags", false, none, true⟩]⟩,
      ⟨"clear", .type "System.Threading.Tasks.Task", [⟨"bool", "all", false, none, false⟩]⟩]⟩]
  incoming :=
    [⟨"IWatch", [⟨"written", .type "bool",
        [⟨"int", "level", false, some "3", false⟩, ⟨"string[]", "tags", true, none, true⟩]⟩]⟩]

theorem parameters_in_order_logger :
    logger.lower {} = .ok (logger.compilationUnit {}) ∧
      (∀ method ∈ logger.outgoing.flatMap (·.methods), method.InOrder) ∧
      (∀ method ∈ logger.incoming.flatMap (·.methods), method.InOrder) ∧
      ∃ classType interfaceType constructor,
        (logger.compilationUnit {}).types = [classType, interfaceType] ∧
          classType.constructor? = some constructor ∧
          (∀ (i : Nat) (method : Signature),
            (logger.outgoing.flatMap (·.methods))[i]? = some method →
            ∃ forwarding cancellable declaration, classType.methods[2 * i]? = some forwarding ∧
              classType.methods[2 * i + 1]? = some cancellable ∧
              interfaceType.methods[i]? = some declaration ∧
              method.WrittenInOrder {} forwarding cancellable declaration) ∧
          (∀ (i : Nat) (method : Signature),
            (logger.incoming.flatMap (·.methods))[i]? = some method →
            ∃ delegate subscription, interfaceType.delegates[i]? = some delegate ∧
              constructor.subscriptions[i]? = some subscription ∧
              method.HandledInOrder interfaceType.name delegate subscription) ∧
          classType.methods.map (·.parameters.map fun param =>
              (param.name, param.isParams, param.default?.isSome)) =
            [[("text", false, false), ("level", false, true), ("tags", true, false)],
              [("text", false, false), ("level", false, true), ("tags", false, true),
                ("cancellationToken", false, true)],
              [("all", false, false)],
              [("all", false, false), ("cancellationToken", false, false)]] ∧
          interfaceType.delegates.map (·.parameters.map fun param =>
              (param.name, param.isParams, param.default?.isSome)) =
            [[("sender", false, false), ("level", false, false), ("tags", true, false)]] := by
  have written : logger.lower {} = .ok (logger.compilationUnit {}) :=
    lower_eq_ok_iff.2 ⟨by decide +kernel, rfl⟩
  have inOrderOut : ∀ method ∈ logger.outgoing.flatMap (·.methods), method.InOrder := by decide
  have inOrderIn : ∀ method ∈ logger.incoming.flatMap (·.methods), method.InOrder := by decide
  obtain ⟨classType, interfaceType, constructor, types, first, outgoing, incoming⟩ :=
    parameters_in_order {} logger written
  obtain ⟨rfl, rfl⟩ :
      logger.classDecl {} = classType ∧ logger.interfaceDecl {} = interfaceType := by
    simpa [compilationUnit] using types
  refine ⟨written, inOrderOut, inOrderIn, _, _, constructor, rfl, first, ?_, ?_, ?_, ?_⟩
  · intro i method h
    exact outgoing i method h (inOrderOut method (List.mem_of_getElem? h))
  · intro i method h
    exact incoming i method h (inOrderIn method (List.mem_of_getElem? h))
  · decide +kernel
  · decide +kernel

end Stub

end TypedHub
