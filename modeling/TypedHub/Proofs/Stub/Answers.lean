import TypedHub.Proofs.CSharp.Evaluation
import TypedHub.Proofs.Stub.AddedNames
import TypedHub.Proofs.Stub.Checked
import TypedHub.Proofs.Stub.Subscriptions

/-!
# How incoming calls are answered

A call of the hub is answered by the closure that the constructor has registered for it. The closure
calls the handlers of the event, if there are any, and what they give is the answer, awaited where
it is an awaitable. If there are none, or if they give null, then a substitute stands in for their
answer: an awaitable that is complete, or a default value. So null is never awaited
(`closures_answer`).

Two things about the substitutes are easy to miss. A default in the place of a missing value of the
type `int?` is of the type `int`, and so it is zero. And the awaitables of the library are written
with their full names, which begin with `System`: something else of that name around the closure,
such as a parameter, captures them.
-/

namespace TypedHub

open CSharp

/-! ## Answers -/

namespace Completion

variable (world : World)

/-- What a call comes to that no handlers have an answer to. -/
def unanswered : Completion → Run Value
  | nothing => ⟨[], .ok .nothing⟩
  | awaitable kind => ⟨[.awaited (.completed kind .nothing)], .ok .nothing⟩
  | awaitableOf kind type =>
    let result := (world.category type).default
    ⟨[.awaited (.completed kind result)], .ok result⟩
  | value type => ⟨[], .ok (world.category type).bareDefault⟩

/-- What becomes of the answer of the handlers. -/
def handedOn (answer : Value) : Completion → Run Value
  | nothing | value _ => ⟨[], .ok answer⟩
  | awaitable _ | awaitableOf _ _ => world.await answer

/-- Whether the answer of the handlers is awaited. -/
def isAwaited : Completion → Bool
  | awaitable _ | awaitableOf _ _ => true
  | nothing | value _ => false

/-- How a call is answered that completes in the given way. -/
structure Answered (client : Value) (handlers : Option Nat) (values : List Value)
    (completion : Completion) (run : Run Value) : Prop where
  awaitsNoNull : .awaited .null ∉ run.effects
  /-- The handlers are called once, with the client and the values, if there are any. -/
  invocations : run.invocations = handlers.toList.map fun id => (id, client :: values)
  /-- Without handlers the call is answered all the same. -/
  unanswered : handlers = none → run = completion.unanswered world
  /-- If the handlers fail, so does the call. -/
  failed : ∀ id failure, handlers = some id →
    world.invoked id (client :: values) = .error failure →
    run = (Run.fail (.foreign failure)).behind (.invoked id (client :: values))
  /-- What they give is awaited or returned, unless it is null. -/
  answered : ∀ id answer, handlers = some id →
    world.invoked id (client :: values) = .ok answer →
    (answer ≠ .null ∨ completion = .nothing) →
    run = (completion.handedOn world answer).behind (.invoked id (client :: values))
  /-- If it is null, then the call is answered as if there were none. -/
  answeredNull : ∀ id, handlers = some id →
    world.invoked id (client :: values) = .ok .null → completion ≠ .nothing →
    run = (completion.unanswered world).behind (.invoked id (client :: values))

end Completion

namespace Signature

/-- A frame is that of the constructor, and the method has its event there. -/
structure StandsIn (method : Signature) (handlers : Option Nat) (frame : Frame) : Prop where
  scope : ∃ connection, frame.scope = [(connectionParam, connection)]
  event : frame.members (identifier method.name) = some (.event method.result handlers)

/-- The name of the method is none of those that are in scope in its closure. -/
structure NameIsFree (method : Signature) : Prop where
  connection : identifier method.name ≠ connectionParam
  parameters : ∀ parameter ∈ method.parameters, identifier parameter.name ≠ identifier method.name

/-- What is called System around the body of the closure is the namespace. -/
structure SystemIsFree (method : Signature) (frame : Frame) : Prop where
  members : frame.members "System" = none
  parameters : ∀ parameter ∈ method.parameters, identifier parameter.name ≠ "System"

end Signature

namespace Completion

variable {world : World} {completion : Completion}

/-- What becomes of the answer of the handlers, with the substitute for null. -/
def answer (world : World) (completion : Completion) (value : Value) : Run Value :=
  if value = .null ∧ completion ≠ .nothing then completion.unanswered world
  else completion.handedOn world value

theorem answer_of_ne (h : completion ≠ .nothing) (value : Value) :
    completion.answer world value =
      if value = .null then completion.unanswered world else completion.handedOn world value := by
  simp only [answer, h, ne_eq, not_false_eq_true, and_true]

theorem answer_absentResult {result : Result} (completes : result.Completes completion) :
    completion.answer world (absentResult result) = completion.unanswered world := by
  cases completes with
  | nothing => rfl
  | awaitable _ kind => exact if_pos ⟨rfl, by simp⟩
  | awaitableOf _ kind type => exact if_pos ⟨rfl, by simp⟩
  | value _ => exact if_pos ⟨rfl, by simp⟩

theorem awaited_null_not_mem_unanswered :
    .awaited .null ∉ (completion.unanswered world).effects := by
  cases completion <;> simp [unanswered]

theorem awaited_null_not_mem_answer (value : Value) :
    .awaited .null ∉ (completion.answer world value).effects := by
  unfold answer
  split
  · exact awaited_null_not_mem_unanswered
  · next given =>
    cases completion with
    | nothing | value _ => exact List.not_mem_nil
    | awaitable _ | awaitableOf _ _ =>
      intro mem
      have null : Value.null = value := Effect.awaited.inj (List.mem_singleton.1 mem)
      exact given ⟨null.symm, by simp⟩

theorem invocations_unanswered : (completion.unanswered world).invocations = [] := by
  cases completion <;> rfl

theorem invocations_answer (value : Value) : (completion.answer world value).invocations = [] := by
  unfold answer
  split
  · exact invocations_unanswered
  · cases completion <;> rfl

end Completion

namespace Completion.Answered

variable {world : World} {client : Value} {values : List Value} {completion : Completion} {id : Nat}

theorem of_none :
    completion.Answered world client none values (completion.unanswered world) where
  awaitsNoNull := Completion.awaited_null_not_mem_unanswered
  invocations := Completion.invocations_unanswered
  unanswered := fun _ => rfl
  failed := nofun
  answered := nofun
  answeredNull := nofun

theorem of_error {failure : Nat}
    (invoked : world.invoked id (client :: values) = .error failure) :
    completion.Answered world client (some id) values
      ((Run.fail (.foreign failure)).behind (.invoked id (client :: values))) where
  awaitsNoNull := by simp [Run.behind, Run.fail]
  invocations := rfl
  unanswered := nofun
  failed := by
    rintro _ _ ⟨⟩ same
    obtain rfl := Except.error.inj (invoked.symm.trans same)
    rfl
  answered := by
    rintro _ _ ⟨⟩ same
    cases invoked.symm.trans same
  answeredNull := by
    rintro _ ⟨⟩ same
    cases invoked.symm.trans same

theorem of_ok {answer : Value}
    (invoked : world.invoked id (client :: values) = .ok answer) :
    completion.Answered world client (some id) values
      ((completion.answer world answer).behind (.invoked id (client :: values))) where
  awaitsNoNull := by
    intro mem
    rcases List.mem_cons.1 mem with same | later
    · cases same
    · exact Completion.awaited_null_not_mem_answer answer later
  invocations := by
    rw [Run.invocations_behind, Completion.invocations_answer]
    rfl
  unanswered := nofun
  failed := by
    rintro _ _ ⟨⟩ same
    cases invoked.symm.trans same
  answered := by
    rintro _ _ ⟨⟩ same given
    obtain rfl := Except.ok.inj (invoked.symm.trans same)
    have notNull : ¬ (answer = .null ∧ completion ≠ .nothing) := by
      rintro ⟨null, some⟩
      exact given.elim (absurd null) some
    rw [Completion.answer, if_neg notNull]
  answeredNull := by
    rintro _ ⟨⟩ same some
    obtain rfl := Except.ok.inj (invoked.symm.trans same)
    rw [Completion.answer, if_pos ⟨rfl, some⟩]

end Completion.Answered

/-! ## Names in the frame of a closure -/

namespace CSharp

variable {frame : Frame} {name : String}

theorem Frame.denotes?_of_find? {bound : String} {value : Value} (plain : '.' ∉ name.toList)
    (found : frame.scope.find? (fun bound => identifier bound.1 = identifier name) =
      some (bound, value)) :
    frame.denotes? name = some (.variable value) := by
  rw [denotes?, if_neg plain, found]

theorem Frame.denotes?_of_free (plain : '.' ∉ name.toList)
    (free : ∀ bound ∈ frame.scope, identifier bound.1 ≠ identifier name) :
    frame.denotes? name = frame.members (identifier name) := by
  have none : frame.scope.find? (fun bound => identifier bound.1 = identifier name) = none := by
    rw [List.find?_eq_none]
    intro bound mem same
    exact free bound mem (of_decide_eq_true same)
  rw [denotes?, if_neg plain, none]

/-- Each name is found with its value, because no name before it is the same identifier. -/
theorem find?_zip {names : List String} {values : List Value} (outer : List (String × Value))
    (lengths : names.length = values.length) (apart : (names.map identifier).Nodup) :
    List.Forall₂ (fun name value => ∃ bound, (names.zip values ++ outer).find?
      (fun bound => identifier bound.1 = identifier name) = some (bound, value)) names values := by
  induction names generalizing values with
  | nil =>
    cases values with
    | nil => exact .nil
    | cons value rest => cases lengths
  | cons name rest ih =>
    cases values with
    | nil => cases lengths
    | cons value values =>
      rw [List.map_cons, List.nodup_cons] at apart
      refine .cons ⟨name, by simp⟩ ?_
      have later := ih (Nat.succ.inj lengths) apart.2
      have others : ∀ other ∈ rest, identifier name ≠ identifier other := by
        intro other mem same
        exact apart.1 (same ▸ List.mem_map_of_mem mem)
      refine ((List.forall₂_and_left _ _).2 ⟨others, later⟩).imp ?_
      rintro other value ⟨different, bound, found⟩
      refine ⟨bound, ?_⟩
      rw [List.zip_cons_cons, List.cons_append, List.find?_cons_of_neg (by simpa using different)]
      exact found

theorem exprsEval_names {asked : Option Value} {names : List String} {values : List Value}
    (h : List.Forall₂ (fun name value => frame.denotes? name = some (.variable value))
      names values) :
    exprsEval frame asked (names.map .name) = pure values := by
  induction h with
  | nil => rw [List.map_nil, exprsEval]
  | cons found _ ih =>
    rw [List.map_cons, exprsEval, Expr.eval, Frame.read, found, ih]
    rfl

/-! ## Expressions in the frame of a closure -/

/-- What stands on the right is evaluated if there is null on the left. -/
theorem eval_coalesce {asked : Option Value} {left right : Expr} {type : String}
    (h : frame.resultOf? left = some (.type type)) :
    (Expr.coalesce left right).eval frame asked =
      left.eval frame none >>= fun value =>
        if value = .null then right.eval frame (some (frame.world.category type).bareDefault)
        else pure value := by
  rw [Expr.eval, h]
  refine bind_congr fun value => ?_
  cases value <;> rfl

theorem eval_await {asked : Option Value} {operand : Expr} (h : frame.isAsync = true) :
    (Expr.await operand).eval frame asked = operand.eval frame none >>= frame.world.await := by
  rw [Expr.eval, if_pos h]

section Library

variable {asked : Option Value} (global : frame.denotes? "System" = none)

include global

theorem eval_completed (kind : Awaitable) :
    (Signature.completed kind).eval frame asked = pure (.completed kind .nothing) := by
  have dotted : frame.denotes? (kind.text ++ ".CompletedTask") = none := by
    rw [Frame.denotes?, if_pos (by cases kind <;> decide)]
  have property : completedProperty? (kind.text ++ ".CompletedTask") = some kind := by
    cases kind <;> rfl
  have head : pathHead (kind.text ++ ".CompletedTask") = "System" := by
    cases kind <;> rfl
  rw [Signature.completed, Expr.eval, Frame.read, dotted, property]
  simp [Frame.isGlobal, head, global]

theorem eval_completedWith (kind : Awaitable) (type : String) :
    (Signature.completedWith kind type).eval frame asked =
      pure (.completed kind (frame.world.category type).default) := by
  have factory : resultFactory? (kind.text ++ ".FromResult") = some kind := by
    cases kind <;> rfl
  have head : pathHead (kind.text ++ ".FromResult") = "System" := by
    cases kind <;> rfl
  have found : frame.factory? (.name (kind.text ++ ".FromResult")) = some kind := by
    simp [Frame.factory?, Frame.isGlobal, head, global, factory]
  simp [Signature.completedWith, Expr.eval, exprsEval, found]

end Library

end CSharp

/-! ## Bodies of closures -/

namespace Signature

variable {method : Signature} {frame : Frame} {handlers : Option Nat} {values : List Value}
  {completion : Completion} {asked : Option Value}

theorem closureIsAsync_eq (method : Signature) (completes : method.result.Completes completion) :
    method.closureIsAsync = completion.isAwaited := by
  rw [closureIsAsync, Result.completes_iff.1 completes]
  cases completion <;> rfl

/-- The frame in which the body of a closure is evaluated, as far as its body needs it. -/
structure Enters (method : Signature) (handlers : Option Nat) (values : List Value)
    (frame : Frame) : Prop where
  event : frame.event? (.name method.memberName) = some (method.result, handlers)
  arguments : exprsEval frame none method.arguments = pure values
  isAsync : frame.isAsync = method.closureIsAsync
  global : method.closureIsAsync = true → frame.denotes? "System" = none

namespace Enters

theorem eval_raise_none (h : method.Enters none values frame) :
    method.raise.eval frame asked = pure (absentResult method.result) := by
  rw [raise, Expr.eval, h.event]

theorem eval_raise_some {id : Nat} (h : method.Enters (some id) values frame) :
    method.raise.eval frame asked = frame.world.invoke id (frame.self :: values) := by
  rw [raise, Expr.eval, h.event, exprsEval, Expr.eval, h.arguments]
  rfl

theorem resultOf?_raise (h : method.Enters handlers values frame) :
    frame.resultOf? method.raise = some method.result := by
  rw [raise, Frame.resultOf?, h.event]
  rfl

/-- What the handlers give is awaited, or what stands in for it. -/
theorem eval_awaited {substitute : Expr} {type : String} {value : Value}
    (h : method.Enters handlers values frame) (isAsync : method.closureIsAsync = true)
    (typed : method.result = .type type)
    (substituted : ∀ asked, substitute.eval frame asked = pure value) :
    (Expr.await (.coalesce method.raise substitute)).eval frame none =
      method.raise.eval frame none >>= fun answer =>
        if answer = .null then frame.world.await value else frame.world.await answer := by
  have result := h.resultOf?_raise
  rw [typed] at result
  rw [eval_await (h.isAsync.trans isAsync), eval_coalesce result, bind_assoc]
  refine bind_congr fun answer => ?_
  by_cases null : answer = .null
  · rw [if_pos null, if_pos null, substituted, pure_bind]
  · rw [if_neg null, if_neg null, pure_bind]

/-- What the handlers give is handed on, and if it is null, then something else in its place. -/
theorem eval_closureBody (h : method.Enters handlers values frame)
    (completes : method.result.Completes completion) :
    method.closureBody.eval frame none =
      method.raise.eval frame none >>= completion.answer frame.world := by
  have read := Result.completes_iff.1 completes
  rw [closureBody, read]
  cases completion with
  | nothing =>
    have handedOn : Completion.nothing.answer frame.world = pure := by
      funext answer
      exact if_neg fun both => both.2 rfl
    rw [handedOn, bind_pure]
  | value type =>
    have result := h.resultOf?_raise
    rw [completes.eq_type] at result
    -- The default is asked for by the declared type, without its question mark.
    change (Expr.coalesce method.raise .defaultValue).eval frame none = _
    rw [eval_coalesce result]
    simp only [Expr.eval]
    have some : Completion.value type ≠ .nothing := by simp
    exact bind_congr fun answer => (Completion.answer_of_ne some answer).symm
  | awaitable kind =>
    have some : Completion.awaitable kind ≠ .nothing := by simp
    obtain ⟨type, typed⟩ := completes.exists_eq_type some
    have isAsync : method.closureIsAsync = true := method.closureIsAsync_eq completes
    have awaited := h.eval_awaited isAsync typed fun _ => eval_completed (h.global isAsync) kind
    exact awaited.trans (bind_congr fun answer => (Completion.answer_of_ne some answer).symm)
  | awaitableOf kind result =>
    have some : Completion.awaitableOf kind result ≠ .nothing := by simp
    obtain ⟨type, typed⟩ := completes.exists_eq_type some
    have isAsync : method.closureIsAsync = true := method.closureIsAsync_eq completes
    have awaited := h.eval_awaited isAsync typed fun _ =>
      eval_completedWith (h.global isAsync) kind result
    exact awaited.trans (bind_congr fun answer => (Completion.answer_of_ne some answer).symm)

/-- The body of the closure is answered as the method asks for. -/
theorem answered (h : method.Enters handlers values frame)
    (completes : method.result.Completes completion) :
    completion.Answered frame.world frame.self handlers values
      (method.closureBody.eval frame none) := by
  rw [h.eval_closureBody completes]
  cases handlers with
  | none =>
    rw [h.eval_raise_none, pure_bind, Completion.answer_absentResult completes]
    exact .of_none
  | some id =>
    rw [h.eval_raise_some]
    cases invoked : frame.world.invoked id (frame.self :: values) with
    | error failure =>
      rw [World.invoke_of_error invoked, Run.behind_bind, Run.fail_bind]
      exact .of_error invoked
    | ok answer =>
      rw [World.invoke_of_ok invoked, Run.behind_bind, pure_bind]
      exact .of_ok invoked

end Enters

end Signature

/-! ## Closures in the constructor -/

namespace Signature

variable {method : Signature} {frame : Frame} {handlers : Option Nat} {values : List Value}

theorem isSome_bind?_subscribed_iff {settings : Settings} :
    (bind? (method.subscribed settings).parameters values).isSome ↔
      method.parameters.length = values.length ∧ method.NamesApart := by
  have names : ((method.subscribed settings).parameters.map fun param => identifier param.name) =
      method.parameters.map fun parameter => identifier parameter.name := by
    rw [← identifiers_writtenNames, ← names_closure settings, List.map_map]
    rfl
  have length : (method.subscribed settings).parameters.length = method.parameters.length :=
    List.length_map _
  rw [isSome_bind?_iff, length, CSharp.NamesApart, names]
  rfl

/-- Around the body of a closure are its parameters and that of the constructor. -/
theorem ne_of_mem_scope {connection : Value} {name : String}
    (parameters : ∀ parameter ∈ method.parameters, identifier parameter.name ≠ name)
    (outer : connectionParam ≠ name) :
    ∀ bound ∈ method.writtenNames.zip values ++ [(connectionParam, connection)],
      identifier bound.1 ≠ name := by
  have plain : identifier connectionParam = connectionParam := by decide
  refine List.forall_mem_append.2 ⟨?_, List.forall_mem_singleton.2 (plain ▸ outer)⟩
  rintro ⟨name, value⟩ mem
  obtain ⟨parameter, among, rfl⟩ := List.mem_map.1 (List.of_mem_zip mem).1
  rw [identifier_escapeKeyword]
  exact parameters parameter among

/-- **In the constructor, the body of the closure finds the event under the name of the method, and
the values under those of its parameters.** -/
theorem enters_entered (standsIn : method.StandsIn handlers frame) (free : method.NameIsFree)
    (identifiers : ∀ name ∈ method.name :: method.parameterNames, isIdentifier name.toList = true)
    (lengths : method.parameters.length = values.length) (apart : method.NamesApart)
    (system : method.closureIsAsync = true → method.SystemIsFree frame) :
    method.Enters handlers values
      (frame.entered method.closureIsAsync (method.writtenNames.zip values)) := by
  obtain ⟨named, parametersNamed⟩ := List.forall_mem_cons.1 identifiers
  obtain ⟨connection, scope⟩ := standsIn.scope
  have entered : (frame.entered method.closureIsAsync (method.writtenNames.zip values)).scope =
      method.writtenNames.zip values ++ [(connectionParam, connection)] := by
    rw [← scope]
    rfl
  constructor
  case event =>
    have denotes : (frame.entered method.closureIsAsync
        (method.writtenNames.zip values)).denotes? method.memberName =
          some (.event method.result handlers) := by
      rw [memberName, Frame.denotes?_of_free (point_not_mem_escapeKeyword named)]
      · rw [identifier_escapeKeyword]
        exact standsIn.event
      · rw [entered, identifier_escapeKeyword]
        exact ne_of_mem_scope free.parameters free.connection.symm
    rw [Frame.event?, denotes]
  case arguments =>
    -- An argument is the name of a parameter, and the first of that name in scope is this one,
    -- because the parameters are innermost and no two of them have the same identifier.
    have plain : ∀ name ∈ method.writtenNames, '.' ∉ name.toList := by
      refine List.forall_mem_map.2 fun parameter mem => ?_
      exact point_not_mem_escapeKeyword (parametersNamed _ (List.mem_map_of_mem mem))
    have written : (method.writtenNames.map identifier).Nodup := by
      rw [identifiers_writtenNames]
      exact apart
    have sameLength : method.writtenNames.length = values.length := by
      rw [writtenNames, List.length_map, lengths]
    have found := find?_zip [(connectionParam, connection)] sameLength written
    rw [arguments_eq]
    refine exprsEval_names (((List.forall₂_and_left _ _).2 ⟨plain, found⟩).imp ?_)
    rintro name value ⟨plain, bound, found⟩
    rw [← entered] at found
    exact Frame.denotes?_of_find? plain found
  case isAsync => rfl
  case global =>
    intro isAsync
    have systemIsFree := system isAsync
    -- `hubConnection`, the third name that may be found, is another one.
    have plain : identifier "System" = "System" := by decide
    rw [Frame.denotes?_of_free (by decide)]
    · rw [plain]
      exact systemIsFree.members
    · rw [entered, plain]
      exact ne_of_mem_scope systemIsFree.parameters (by decide)

end Signature

namespace Stub

/-- **A closure that can be called answers the call.** Without handlers nothing is called, and with
handlers they are called once, with the client and the values in their order; null is never awaited;
and what the handlers give is awaited or returned unless it is null, in which case the answer is the
same as without handlers: nothing, an awaitable that is complete, or a default value. For this, the
name of the method must be free for its event, and for awaitables that of `System` for the library.
-/
theorem closures_answer (settings : Settings) (stub : Stub) {unit : CompilationUnit}
    (written : stub.lower settings = .ok unit) :
    ∃ classType interfaceType constructor, unit.types = [classType, interfaceType] ∧
      classType.constructor? = some constructor ∧
      constructor.parameters.map (·.name) = [connectionParam] ∧
      constructor.subscriptions.length = (stub.methods .incoming).length ∧
      ∀ (i : Nat) (method : Signature), (stub.methods .incoming)[i]? = some method →
        ∃ subscription, constructor.subscriptions[i]? = some subscription ∧
          subscription.key = method.name ∧
          (∀ values, (bind? subscription.parameters values).isSome ↔
            method.parameters.length = values.length ∧ method.NamesApart) ∧
          ∀ (frame : Frame) (handlers : Option Nat) (values : List Value)
            (completion : Completion), method.result.Completes completion →
            (bind? subscription.parameters values).isSome →
            method.StandsIn handlers frame → method.NameIsFree →
            (completion.isAwaited = true → method.SystemIsFree frame) →
            completion.Answered frame.world frame.self handlers values
              (subscription.closure.called frame values) := by
  obtain ⟨accepted, rfl⟩ := lower_eq_ok_iff.1 written
  refine ⟨_, _, _, rfl, constructor?_classDecl, rfl, ?_, ?_⟩
  · rw [subscriptions_constructor, List.length_map]
  · intro i method h
    have identifiers := isIdentifier_of_mem_methods accepted (List.mem_of_getElem? h)
    refine ⟨method.subscribed settings, ?_, rfl, fun _ => Signature.isSome_bind?_subscribed_iff, ?_⟩
    · exact subscription_constructor h
    · intro frame handlers values completion completes callable standsIn free system
      obtain ⟨lengths, apart⟩ := Signature.isSome_bind?_subscribed_iff.1 callable
      rw [← method.closureIsAsync_eq completes] at system
      rw [Subscription.closure, called_lambda frame _ _ callable, Signature.names_closure]
      have enters := method.enters_entered standsIn free identifiers lengths apart system
      exact enters.answered completes

/-- The frame of the constructor of a client, with the same handlers for all events. -/
def constructorFrame (stub : Stub) (world : World) (handlers : Option Nat) : Frame where
  world := world
  self := .object 0
  members := fun name =>
    ((stub.methods .incoming).find? fun method => identifier method.name = name).map fun method =>
      .event method.result handlers
  scope := [(connectionParam, .object 1)]
  isAsync := false

/-- Handlers that give an awaitable of their own, which results in true, and false as a default. -/
def helpful : World where
  category := fun _ => .value (.object 10)
  invoked := fun _ _ => .ok (.object 12)
  awaited := fun _ => .ok (.object 11)

theorem closures_answer_listener :
    listener.lower {} = .ok (listener.compilationUnit {}) ∧
      ∃ classType interfaceType constructor subscription,
        (listener.compilationUnit {}).types = [classType, interfaceType] ∧
          classType.constructor? = some constructor ∧
          constructor.subscriptions[1]? = some subscription ∧ subscription.key = "ask" ∧
          subscription.closure.called (listener.constructorFrame helpful none) [.object 2] =
            ⟨[.awaited (.completed .valueTask (.object 10))], .ok (.object 10)⟩ ∧
          subscription.closure.called (listener.constructorFrame helpful (some 7)) [.object 2] =
            ⟨[.invoked 7 [.object 0, .object 2], .awaited (.object 12)], .ok (.object 11)⟩ := by
  obtain ⟨classType, interfaceType, constructor, types, first, -, -, answers⟩ :=
    closures_answer {} listener lower_listener
  obtain ⟨subscription, second, key, callable, answered⟩ := answers 1 _ rfl
  have called (handlers : Option Nat) :=
    answered (listener.constructorFrame helpful handlers) handlers [.object 2]
      (.awaitableOf .valueTask "bool") (Result.completes_iff.2 (by decide))
      ((callable _).2 ⟨rfl, by decide⟩) ⟨⟨_, rfl⟩, by rfl⟩ ⟨by decide, by decide⟩
      fun _ => ⟨by rfl, by decide⟩
  refine ⟨lower_listener, classType, interfaceType, constructor, subscription, types, first, second,
    key, ?unset, ?set⟩
  case unset => exact (called none).unanswered rfl
  case set => exact (called (some 7)).answered 7 _ rfl rfl (.inl (by decide))

/-- A client that is asked for a number that may be missing, and greeted by a parameter that has the
name of a namespace. -/
def substituted : Stub where
  className := "C"
  containingNamespace := ""
  visibility := .isPublic
  outgoing := []
  incoming :=
    [⟨"IIn",
      [⟨"peek", .type "int?", []⟩,
        ⟨"greet", .type "System.Threading.Tasks.Task",
          [⟨"string", "System", false, none, false⟩]⟩]⟩]

/-- Handlers that give null, and zero as the default of the numbers that may be missing. -/
def unhelpful : World where
  category := fun _ => .nullable (.object 10)
  invoked := fun _ _ => .ok .null
  awaited := fun _ => .error 0

/-- The checks pass although a call is answered by zero where null is the default value, or where
the handlers give null, and although a parameter captures the name of the awaitable. -/
theorem not_closures_answer_substituted :
    substituted.clashes = [] ∧ substituted.lower {} = .ok (substituted.compilationUnit {}) ∧
      ∃ peek greet, substituted.methods .incoming = [peek, greet] ∧
        peek.NameIsFree ∧ greet.NameIsFree ∧
        (unhelpful.category "int?").default = .null ∧
        peek.closure.called (substituted.constructorFrame unhelpful none) [] =
          ⟨[], .ok (.object 10)⟩ ∧
        peek.closure.called (substituted.constructorFrame unhelpful (some 7)) [] =
          ⟨[.invoked 7 [.object 0]], .ok (.object 10)⟩ ∧
        greet.closure.called (substituted.constructorFrame unhelpful none) [.object 2] =
          .fail .meaningless := by
  refine ⟨by decide, lower_eq_ok_iff.2 ⟨by decide +kernel, rfl⟩, _, _, rfl,
    ⟨by decide, by decide⟩, ⟨by decide, by decide⟩, rfl, ?_, ?_, ?_⟩
  · rfl
  · rfl
  · rfl

end Stub

end TypedHub
