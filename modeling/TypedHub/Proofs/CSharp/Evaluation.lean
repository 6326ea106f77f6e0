import TypedHub.Proofs.CSharp.Identifier
import TypedHub.Stub.Completion
import TypedHub.Text.Split

/-!
# What closures do when they run

A meaning for the expressions that the bodies of closures are made of: what they do, one effect
after the other, and how they end. The rules are those of C#.

* A simple name is looked up among the parameters around it, innermost first, and then among the
  members of the class. A dotted path is taken from the global namespace, unless its first name is
  found in one of these places.
* `f?.Invoke(..)` does nothing if the event `f` has no handlers, and gives null, or nothing if the
  handlers give nothing. Otherwise it evaluates the arguments in their order and calls the handlers
  with them.
* `a ?? b` is `a`, and `b` if that is null. A `default` in the place of `b` is of the type of `a`
  without its question mark: for an `a` of the type `int?` it is zero and not null.
* `await a` goes on when `a` is complete, with its result, and fails if `a` is null. It is allowed
  in asynchronous closures only.

All else has no meaning here, and neither has what does not compile, such as a closure with two
parameters of one name. That counts as a failure, so nothing good can be shown of it by accident.

The code of others, which is that of the handlers and of the awaitables that they give, is a
parameter of the rules (`World`).
-/

namespace TypedHub.CSharp

/-! ## Values and types -/

/-- A value at run time. -/
inductive Value where
  | null
  /-- What a call gives that gives no value. -/
  | nothing
  /-- An awaitable that the library makes complete from the start, with its result. -/
  | completed (kind : Awaitable) (result : Value)
  /-- Anything else: numbers, texts, clients, delegates, the awaitables of others. -/
  | object (id : Nat)
  deriving DecidableEq

/-- A type, as far as null and default values go. -/
inductive Category where
  /-- The values are references, and null is one of them. -/
  | reference
  /-- The values are never null; one of them is the default. -/
  | value (zero : Value)
  /-- `T?` for a type `T` whose values are never null, with the default of `T`. -/
  | nullable (zero : Value)

namespace Category

/-- The default value of the type. -/
def default : Category → Value
  | reference | nullable _ => .null
  | value zero => zero

/-- The default value of the type without its question mark. -/
def bareDefault : Category → Value
  | reference => .null
  | value zero | nullable zero => zero

end Category

/-! ## Runs -/

/-- Why an evaluation gives no value. -/
inductive Failure where
  /-- The expression is none of C#, or has no meaning here. -/
  | meaningless
  /-- Null was awaited. -/
  | nullReference
  /-- The code of others has failed, or does not end. -/
  | foreign (id : Nat)
  deriving DecidableEq

/-- What an evaluation does besides giving a value. -/
inductive Effect where
  | invoked (handlers : Nat) (arguments : List Value)
  | awaited (value : Value)
  deriving DecidableEq

/-- What an evaluation does, one effect after the other, and how it ends. -/
structure Run (α : Type) where
  effects : List Effect
  ending : Except Failure α

namespace Run

variable {α β : Type}

def fail (failure : Failure) : Run α := ⟨[], .error failure⟩

/-- The run with one more effect in front. -/
def behind (effect : Effect) (run : Run α) : Run α := ⟨effect :: run.effects, run.ending⟩

protected def bind (run : Run α) (next : α → Run β) : Run β :=
  match run.ending with
  | .ok a => ⟨run.effects ++ (next a).effects, (next a).ending⟩
  | .error failure => ⟨run.effects, .error failure⟩

instance : Monad Run where
  pure a := ⟨[], .ok a⟩
  bind := Run.bind

instance : LawfulMonad Run := by
  refine LawfulMonad.mk' Run ?_ ?_ ?_
  · rintro α ⟨effects, ending⟩
    cases ending with
    | error failure => rfl
    | ok a => exact congrArg (Run.mk · _) (List.append_nil effects)
  · intro α β a next
    rfl
  · rintro α β γ ⟨effects, ending⟩ next last
    cases ending with
    | error failure => rfl
    | ok a =>
      -- The effects of `next` are the same on both sides, so only its ending is split.
      change Run.bind ⟨effects ++ (next a).effects, (next a).ending⟩ last =
        ⟨effects ++ (Run.bind (next a) last).effects, (Run.bind (next a) last).ending⟩
      unfold Run.bind
      cases (next a).ending with
      | error failure => rfl
      | ok b => exact congrArg (Run.mk · _) (List.append_assoc ..)

theorem fail_bind (failure : Failure) (next : α → Run β) :
    fail failure >>= next = fail failure := rfl

/-- An effect in front of a run is in front of what comes after it. -/
theorem behind_bind (effect : Effect) (run : Run α) (next : α → Run β) :
    run.behind effect >>= next = (run >>= next).behind effect := by
  obtain ⟨effects, ending⟩ := run
  cases ending with
  | error failure => rfl
  | ok a => rfl

/-- The calls of handlers in a run, with their arguments. -/
def invocations (run : Run α) : List (Nat × List Value) :=
  run.effects.filterMap fun
    | .invoked handlers arguments => some (handlers, arguments)
    | .awaited _ => none

theorem invocations_behind (handlers : Nat) (arguments : List Value) (run : Run α) :
    (run.behind (.invoked handlers arguments)).invocations =
      (handlers, arguments) :: run.invocations := rfl

end Run

/-! ## The code of others -/

structure World where
  /-- The types by their names. -/
  category : String → Category
  /-- How a call of handlers ends. -/
  invoked : Nat → List Value → Except Nat Value
  /-- How awaiting an awaitable of others ends. -/
  awaited : Nat → Except Nat Value

namespace World

variable (world : World)

/-- Calls handlers. -/
def invoke (handlers : Nat) (arguments : List Value) : Run Value :=
  ⟨[.invoked handlers arguments], (world.invoked handlers arguments).mapError .foreign⟩

/-- Awaits a value. -/
def await (value : Value) : Run Value where
  effects := [.awaited value]
  ending :=
    match value with
    | .null => .error .nullReference
    | .nothing => .error .meaningless
    | .completed _ result => .ok result
    | .object id => (world.awaited id).mapError .foreign

variable {world} {handlers : Nat} {arguments : List Value}

theorem invoke_of_ok {value : Value} (h : world.invoked handlers arguments = .ok value) :
    world.invoke handlers arguments =
      (pure value : Run Value).behind (.invoked handlers arguments) := by
  rw [invoke, h]
  rfl

theorem invoke_of_error {failure : Nat} (h : world.invoked handlers arguments = .error failure) :
    world.invoke handlers arguments =
      (Run.fail (.foreign failure)).behind (.invoked handlers arguments) := by
  rw [invoke, h]
  rfl

end World

/-! ## Names -/

/-- What a simple name stands for. -/
inductive Denotation where
  | variable (value : Value)
  /-- An event: what its handlers give, and the handlers, if there are any. -/
  | event (result : Result) (handlers : Option Nat)
  /-- Another member of the class, or a type or namespace around it. -/
  | other

/-- Where an expression is evaluated. -/
structure Frame where
  world : World
  /-- The client. -/
  self : Value
  /-- What stands around, by identifiers: above all the members of the class. -/
  members : String → Option Denotation
  /-- The parameters in scope, innermost first. -/
  scope : List (String × Value)
  isAsync : Bool

/-- The property of the library that holds an awaitable without a result. -/
def completedProperty? : String → Option Awaitable
  | "System.Threading.Tasks.Task.CompletedTask" => some .task
  | "System.Threading.Tasks.ValueTask.CompletedTask" => some .valueTask
  | _ => none

/-- The function of the library that makes an awaitable with a given result. -/
def resultFactory? : String → Option Awaitable
  | "System.Threading.Tasks.Task.FromResult" => some .task
  | "System.Threading.Tasks.ValueTask.FromResult" => some .valueTask
  | _ => none

/-- The first name of a dotted path. -/
def pathHead (path : String) : String := (Text.parts '.' path).head?.getD path

namespace Frame

variable (frame : Frame)

/-- What a simple name stands for, unless it is one of the global namespace. -/
def denotes? (name : String) : Option Denotation :=
  if '.' ∈ name.toList then none
  else
    match frame.scope.find? fun bound => identifier bound.1 = identifier name with
    | some (_, value) => some (.variable value)
    | none => frame.members (identifier name)

/-- Whether a dotted path is taken from the global namespace. -/
def isGlobal (path : String) : Bool := (frame.denotes? (pathHead path)).isNone

/-- The value that a name or a dotted path stands for. -/
def read (text : String) : Run Value :=
  match frame.denotes? text with
  | some (.variable value) => pure value
  | some (.event _ _) | some .other => .fail .meaningless
  | none =>
    match completedProperty? text with
    | some kind =>
      if frame.isGlobal text then pure (.completed kind .nothing) else .fail .meaningless
    | none => .fail .meaningless

/-- The event that an expression names. -/
def event? : Expr → Option (Result × Option Nat)
  | .name text =>
    match frame.denotes? text with
    | some (.event result handlers) => some (result, handlers)
    | _ => none
  | _ => none

/-- What the handlers give that an expression calls. -/
def resultOf? : Expr → Option Result
  | .invokeIfSet target _ => (frame.event? target).map (·.1)
  | _ => none

/-- The function of the library that an expression names. -/
def factory? : Expr → Option Awaitable
  | .name text => if frame.isGlobal text then resultFactory? text else none
  | _ => none

end Frame

/-! ## Evaluation -/

/-- What an invocation gives that is left out because there are no handlers. -/
def absentResult : Result → Value
  | .nothing => .nothing
  | .type _ => .null

mutual

/-- Evaluates an expression. Where a value of a certain type is asked for, `asked` is the default
value of that type. -/
def Expr.eval (frame : Frame) (asked : Option Value) : Expr → Run Value
  | .name text => frame.read text
  | .this => pure frame.self
  | .defaultValue =>
    match asked with
    | some value => pure value
    | none => .fail .meaningless
  | .invokeIfSet target arguments =>
    match frame.event? target with
    | some (result, none) => pure (absentResult result)
    | some (_, some handlers) => do
      let values ← exprsEval frame none arguments
      frame.world.invoke handlers values
    | none => .fail .meaningless
  | .coalesce left right =>
    match frame.resultOf? left with
    | some (.type type) => do
      let value ← left.eval frame none
      match value with
      | .null => right.eval frame (some (frame.world.category type).bareDefault)
      | _ => pure value
    | _ => .fail .meaningless
  | .await operand =>
    if frame.isAsync then do
      let value ← operand.eval frame none
      frame.world.await value
    else .fail .meaningless
  | .call callee typeArguments arguments =>
    match frame.factory? callee, typeArguments with
    | some kind, [type] => do
      let values ← exprsEval frame (some (frame.world.category type).default) arguments
      match values with
      | [value] => pure (.completed kind value)
      | _ => .fail .meaningless
    | _, _ => .fail .meaningless
  | .literal _ | .str _ | .member _ _ | .discard _ | .lambda _ _ _ => .fail .meaningless

/-- Evaluates expressions in their order. -/
def exprsEval (frame : Frame) (asked : Option Value) : List Expr → Run (List Value)
  | [] => pure []
  | e :: rest => do
    let value ← e.eval frame asked
    let values ← exprsEval frame asked rest
    pure (value :: values)

end

/-! ## Calls of closures -/

/-- The values by the names of the parameters: one for each, and no two parameters of one name. -/
def bind? (parameters : List Param) (values : List Value) : Option (List (String × Value)) :=
  if parameters.length = values.length ∧ NamesApart parameters then
    some ((parameters.map (·.name)).zip values)
  else none

theorem isSome_bind?_iff {parameters : List Param} {values : List Value} :
    (bind? parameters values).isSome ↔
      parameters.length = values.length ∧ NamesApart parameters := by
  unfold bind?
  split
  · next h => simp [h]
  · next h => simp [h]

/-- The frame in which the body of a closure is evaluated. -/
def Frame.entered (frame : Frame) (isAsync : Bool) (bound : List (String × Value)) : Frame :=
  { frame with scope := bound ++ frame.scope, isAsync }

/-- Calls a closure that stands in the frame. -/
def Expr.called (frame : Frame) (closure : Expr) (values : List Value) : Run Value :=
  match closure with
  | .lambda isAsync parameters body =>
    match bind? parameters values with
    | some bound => body.eval (frame.entered isAsync bound) none
    | none => .fail .meaningless
  | _ => .fail .meaningless

theorem called_lambda {parameters : List Param} {values : List Value} (frame : Frame)
    (isAsync : Bool) (body : Expr) (h : (bind? parameters values).isSome) :
    (Expr.lambda isAsync parameters body).called frame values =
      body.eval (frame.entered isAsync ((parameters.map (·.name)).zip values)) none := by
  rw [Expr.called, bind?, if_pos (isSome_bind?_iff.1 h)]

end TypedHub.CSharp
