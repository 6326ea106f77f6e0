import Mathlib.Data.List.Forall2
import TypedHub.Proofs.Stub.MemberNames
import TypedHub.Proofs.Stub.Members

/-!
# Class and interface agree

A stub is written as two types, and the class has to implement the interface that stands beside it
as well as the contracts that it was written for. So their members go in step, and nothing of the
contracts may get lost between them:

* the class has two methods for each outgoing method, the first one declared as in the contract, the
  second one as in the interface;
* both types have the same events, and in the interface each stands right behind its delegate;
* the constructor subscribes to each incoming method, by the name that the contract gives it.

All of this holds for whatever stub can be written, with clashes or without.
-/

namespace TypedHub

open CSharp

/-! ## What it means to agree -/

/-- How the type of a parameter is written: as its text, with a question mark behind it if the
parameter is nullable and the text does not end with one already. -/
inductive Parameter.TypedAs (parameter : Parameter) : String → Prop
  | plain (never : parameter.nullable = false) : TypedAs parameter parameter.type
  | marked {type : String} (nullable : parameter.nullable = true)
      (mark : parameter.type = type ++ "?") : TypedAs parameter parameter.type
  | unmarked (nullable : parameter.nullable = true) (noMark : ∀ type, parameter.type ≠ type ++ "?") :
      TypedAs parameter (parameter.type ++ "?")

/-- A written parameter that says all that the contract says of the parameter. -/
structure Parameter.DeclaredBy (parameter : Parameter) (param : Param) : Prop where
  type : parameter.TypedAs param.type
  name : param.name = escapeKeyword parameter.name
  isParams : param.isParams = parameter.isVariadic
  default? : param.default? = parameter.defaultText.map .literal

/-- A written parameter that has another one behind it: it cannot take the rest of the arguments,
and if it did in the contract, it is optional as soon as another one is. -/
structure Parameter.PlacedBy (parameter : Parameter) (method : Signature) (param : Param) :
    Prop where
  type : parameter.TypedAs param.type
  name : param.name = escapeKeyword parameter.name
  isParams : param.isParams = false
  default? : param.default? =
    match parameter.defaultText with
    | some text => some (.literal text)
    | none =>
      if parameter.isVariadic ∧ method.hasDefaults then some (.literal "default") else none

/-- The parameters of the method followed by a cancellation token, which is optional if one of them
is. -/
def Signature.FollowedByToken (method : Signature) (settings : Settings) (params : List Param) :
    Prop :=
  ∃ placed token, params = placed ++ [token] ∧
    List.Forall₂ (·.PlacedBy method ·) method.parameters placed ∧
    token.isParams = false ∧ token.type = settings.transport.cancellationType ∧
    token.name = method.tokenName ∧
    token.default? = if method.hasDefaults then some (.literal "default") else none

/-- The string under which a call subscribes. -/
def CSharp.Statement.key? : Statement → Option String
  | .expr (.call _ _ (_ :: .str key :: _)) => some key
  | _ => none

/-- A class and an interface that go in step with each other and with the outgoing and incoming
methods that they are written for. -/
structure Stub.Agree (settings : Settings) (outgoing incoming : List Signature)
    (classType interfaceType : TypeDecl) : Prop where
  length_classMethods : classType.methods.length = 2 * outgoing.length
  length_interfaceMethods : interfaceType.methods.length = outgoing.length
  /-- The first of two methods is declared as in the contract. -/
  implementsContract : ∀ (i : Nat) (method : Signature), outgoing[i]? = some method →
    ∃ m, classType.methods[2 * i]? = some m ∧ m.name = escapeKeyword method.name ∧
      m.returnType = method.result.text ∧
      List.Forall₂ Parameter.DeclaredBy method.parameters m.parameters
  /-- The second one is declared as in the interface. -/
  implementsInterface : ∀ (i : Nat) (method : Signature), outgoing[i]? = some method →
    ∃ m declaration, classType.methods[2 * i + 1]? = some m ∧
      interfaceType.methods[i]? = some declaration ∧ m.name = declaration.name ∧
      m.returnType = declaration.returnType ∧ m.parameters = declaration.parameters ∧
      m.name = escapeKeyword method.name ∧ method.FollowedByToken settings m.parameters
  length_classEvents : classType.events.length = incoming.length
  length_interfaceEvents : interfaceType.events.length = incoming.length
  eventNames : classType.events.map (·.name) = interfaceType.events.map (·.name)
  eventTypes : classType.events.map (·.type) =
    interfaceType.events.map (interfaceType.name ++ "." ++ ·.type)
  length_delegates : interfaceType.delegates.length = incoming.length
  /-- A delegate is the type of its event, unless the event is not set. -/
  delegateOfEvent : List.Forall₂ (fun (event : Event) (delegate : Delegate) =>
    event.type = delegate.name ++ "?") interfaceType.events interfaceType.delegates
  /-- Each event of the interface stands right behind its delegate. -/
  placedDelegates : interfaceType.members =
    interfaceType.methods.map .method ++
      (interfaceType.delegates.zip interfaceType.events).flatMap fun (delegate, event) =>
        [.delegate delegate, .event event]
  /-- The constructor keeps the connection and then subscribes to all incoming methods. -/
  subscribes : ∃ constructor target value subscriptions,
    classType.constructor? = some constructor ∧
      constructor.body = .assign target value :: subscriptions ∧
      subscriptions.map Statement.key? = incoming.map fun method => some method.name

/-! ## Parameters -/

theorem getLast?_eq_mark_iff {text : String} :
    text.toList.getLast? = some '?' ↔ ∃ front, text = front ++ "?" := by
  rw [List.getLast?_eq_some_iff]
  constructor
  · rintro ⟨front, chars⟩
    exact ⟨String.ofList front, String.toList_inj.1 (by rw [chars]; simp)⟩
  · rintro ⟨front, rfl⟩
    exact ⟨front.toList, String.toList_append⟩

theorem Parameter.typedAs_markedType (parameter : Parameter) :
    parameter.TypedAs parameter.markedType := by
  unfold markedType
  cases nullable : parameter.nullable with
  | false => exact .plain nullable
  | true =>
    by_cases mark : ∃ type, parameter.type = type ++ "?"
    · have ends := getLast?_eq_mark_iff.2 mark
      obtain ⟨type, same⟩ := mark
      rw [ends]
      exact .marked nullable same
    · rw [if_pos (by simpa using mt getLast?_eq_mark_iff.1 mark)]
      exact .unmarked nullable fun type same => mark ⟨type, same⟩

theorem Parameter.declaredBy_declared (parameter : Parameter) :
    parameter.DeclaredBy parameter.declared := ⟨parameter.typedAs_markedType, rfl, rfl, rfl⟩

theorem Parameter.placedBy_beforeToken (method : Signature) (parameter : Parameter) :
    parameter.PlacedBy method (method.beforeToken parameter) where
  type := parameter.typedAs_markedType
  name := rfl
  isParams := rfl
  default? := by
    simp only [Signature.beforeToken, declared, Signature.implicitDefault]
    cases parameter.defaultText with
    | some text => simp
    | none => simp [and_comm]

theorem Signature.followedByToken_cancellableParams (settings : Settings) (method : Signature) :
    method.FollowedByToken settings (method.cancellableParams settings) := by
  refine ⟨_, _, rfl, ?_, rfl, rfl, rfl, rfl⟩
  rw [List.forall₂_map_right_iff, List.forall₂_same]
  exact fun parameter _ => parameter.placedBy_beforeToken method

/-! ## Members -/

namespace Stub

variable {settings : Settings} {stub : Stub}

theorem key?_constructorBody :
    ((stub.methods .incoming).map fun method => Statement.expr (method.subscription settings)).map
        Statement.key? =
      (stub.methods .incoming).map fun method => some method.name := by
  rw [List.map_map]
  rfl

theorem interfaceMembers_eq_zip :
    (stub.interfaceDecl settings).members =
      (stub.interfaceDecl settings).methods.map .method ++
        ((stub.interfaceDecl settings).delegates.zip (stub.interfaceDecl settings).events).flatMap
          fun (delegate, event) => [.delegate delegate, .event event] := by
  rw [methods_interfaceDecl, delegates_interfaceDecl, events_interfaceDecl, List.map_map,
    List.zip_map', List.flatMap_map]
  rfl

/-- The two types of the source of a stub agree. -/
theorem agree_compilationUnit (settings : Settings) (stub : Stub) :
    Agree settings (stub.methods .outgoing) (stub.methods .incoming) (stub.classDecl settings)
      (stub.interfaceDecl settings) where
  length_classMethods := by rw [methods_classDecl, length_flatMap_pair]
  length_interfaceMethods := by rw [methods_interfaceDecl, List.length_map]
  implementsContract := by
    intro i method h
    refine ⟨method.forwarding settings, ?_, rfl, rfl, ?_⟩
    · exact forwarding_classDecl h
    · rw [Signature.forwarding, List.forall₂_map_right_iff, List.forall₂_same]
      exact fun parameter _ => parameter.declaredBy_declared
  implementsInterface := by
    intro i method h
    refine ⟨method.cancellable settings, method.declaration settings, ?_, ?_, rfl, rfl, rfl, rfl,
      method.followedByToken_cancellableParams settings⟩
    · exact cancellable_classDecl h
    · exact declaration_interfaceDecl h
  length_classEvents := by rw [events_classDecl, List.length_map]
  length_interfaceEvents := by rw [events_interfaceDecl, List.length_map]
  eventNames := by
    rw [events_classDecl, events_interfaceDecl, List.map_map, List.map_map]
    rfl
  eventTypes := by
    rw [events_classDecl, events_interfaceDecl, List.map_map, List.map_map]
    refine List.map_congr_left fun method _ => ?_
    exact String.append_assoc
  length_delegates := by rw [delegates_interfaceDecl, List.length_map]
  delegateOfEvent := by
    rw [events_interfaceDecl, delegates_interfaceDecl, List.forall₂_map_left_iff,
      List.forall₂_map_right_iff, List.forall₂_same]
    exact fun method _ => rfl
  placedDelegates := interfaceMembers_eq_zip
  subscribes := ⟨_, _, _, _, constructor?_classDecl, rfl, key?_constructorBody⟩

/-- **Class and interface of every stub that can be written go in step with each other and with the
contracts: none of their members is lost, written twice or put out of its order.** -/
theorem classes_agree (settings : Settings) (stub : Stub) {unit : CompilationUnit}
    (written : stub.lower settings = .ok unit) :
    ∃ classType interfaceType, unit.types = [classType, interfaceType] ∧
      Agree settings (stub.outgoing.flatMap (·.methods)) (stub.incoming.flatMap (·.methods))
        classType interfaceType := by
  obtain ⟨-, rfl⟩ := lower_eq_ok_iff.1 written
  exact ⟨_, _, rfl, agree_compilationUnit settings stub⟩

/-- A client of a forum: two contracts in one direction, optional parameters and a rest of
arguments, and a name that is a keyword. -/
def forum : Stub where
  className := "ForumClient"
  containingNamespace := "Forum"
  visibility := .isInternal
  outgoing :=
    [⟨"IPosts", [⟨"Post", .type "int", [⟨"string", "text", true, some "default", false⟩,
        ⟨"string[]", "tags", false, none, true⟩]⟩, ⟨"lock", .nothing, []⟩]⟩,
      ⟨"IEmpty", []⟩,
      ⟨"IVotes",
        [⟨"Vote", .type "System.Threading.Tasks.Task", [⟨"int", "params", false, none, false⟩]⟩]⟩]
  incoming :=
    [⟨"IReader", [⟨"Posted", .nothing, [⟨"string", "text", false, none, false⟩]⟩,
      ⟨"Closing", .type "System.Threading.Tasks.ValueTask<bool>", []⟩]⟩]

theorem classes_agree_forum :
    forum.lower {} = .ok (forum.compilationUnit {}) ∧
      ∃ classType interfaceType, (forum.compilationUnit {}).types = [classType, interfaceType] ∧
        Agree {} (forum.outgoing.flatMap (·.methods)) (forum.incoming.flatMap (·.methods))
          classType interfaceType ∧
        classType.methods.map (·.name) = ["Post", "Post", "@lock", "@lock", "Vote", "Vote"] ∧
        interfaceType.methods.map (·.parameters.map fun param => (param.type, param.name)) =
          [[("string?", "text"), ("string[]", "tags"),
              ("System.Threading.CancellationToken", "cancellationToken")],
            [("System.Threading.CancellationToken", "cancellationToken")],
            [("int", "@params"), ("System.Threading.CancellationToken", "cancellationToken")]] ∧
        interfaceType.delegates.map (·.name) = ["PostedHandler", "ClosingHandler"] ∧
        classType.events.map (·.type) =
          ["IForumClient.PostedHandler?", "IForumClient.ClosingHandler?"] := by
  have written : forum.lower {} = .ok (forum.compilationUnit {}) :=
    lower_eq_ok_iff.2 ⟨by decide +kernel, rfl⟩
  obtain ⟨classType, interfaceType, types, agree⟩ := classes_agree {} forum written
  obtain ⟨rfl, rfl⟩ : forum.classDecl {} = classType ∧ forum.interfaceDecl {} = interfaceType := by
    simpa [compilationUnit] using types
  refine ⟨written, _, _, rfl, agree, ?_, ?_, ?_, ?_⟩
  all_goals decide +kernel

end Stub

end TypedHub
