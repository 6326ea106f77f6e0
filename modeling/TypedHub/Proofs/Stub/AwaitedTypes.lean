import TypedHub.Proofs.Stub.Bodies
import TypedHub.Proofs.Stub.ReturnTypes

/-!
# The types of asynchronous overloads

The overload with a token is asynchronous whatever the method returns, so its return type is written
anew: an awaitable stays, a plain value becomes the result of an awaitable, and nothing becomes an
awaitable without a result. The type is only a text, and whoever reads that text has to find an
awaitable in it with the very result that the transport is asked for (`overloads_complete`).
-/

namespace TypedHub

open CSharp

namespace Completion

/-- The completion by an awaitable, with or without a result. -/
def IsAwaited : Completion → Prop
  | awaitable _ | awaitableOf _ _ => True
  | nothing | value _ => False

/-- How an asynchronous method completes that stands for a method with the given completion. -/
def awaited : Completion → Completion
  | nothing => awaitable .task
  | value type => awaitableOf .task type
  | awaitable kind => awaitable kind
  | awaitableOf kind result => awaitableOf kind result

theorem isAwaited_awaited (completion : Completion) : completion.awaited.IsAwaited := by
  cases completion <;> trivial

/-- The result stays the same. -/
theorem result?_awaited (completion : Completion) :
    completion.awaited.result? = completion.result? := by
  cases completion <;> rfl

/-- What is read of the type that was written for an asynchronous method. -/
theorem of_awaitedType (declared : Result) :
    of (.type ((of declared).awaitedType declared)) = (of declared).awaited := by
  have written {completion : Completion} (read : of declared = completion)
      (some : completion ≠ .nothing) : of (.type declared.text) = completion := by
    obtain ⟨type, rfl⟩ := (Result.completes_iff.2 read).exists_eq_type some
    exact read
  have bare : "" ∈ globalAliases := by decide
  cases read : of declared with
  | nothing =>
    show of (.type Awaitable.task.text) = awaitable .task
    exact of_awaitable bare .task
  | value type =>
    show of (.type (Awaitable.task.text ++ "<" ++ type ++ ">")) = awaitableOf .task type
    exact of_awaitableOf bare .task type
  | awaitable kind => exact written read nofun
  | awaitableOf kind result => exact written read nofun

end Completion

namespace Signature

variable {settings : Settings} {method : Signature}

/-- The expression that waits for the awaitable of a call and gives its result. -/
def waitedFor (call : Expr) : Expr := (call.callMethod "GetAwaiter").callMethod "GetResult"

/-- The call of the overload with a token that is passed the token that never cancels. -/
def overloadCall (settings : Settings) (method : Signature) : Expr :=
  .callName (method.cancellable settings).name
    (method.arguments ++ [.name settings.transport.neverCancel])

/-- What the overload without a token makes of the call, by the completion of the method. -/
theorem body_forwarding (settings : Settings) (method : Signature) :
    (method.forwarding settings).body =
      some (match Completion.of method.result with
        | .nothing => .discard (method.overloadCall settings)
        | .value _ => waitedFor (method.overloadCall settings)
        | .awaitable _ | .awaitableOf _ _ => method.overloadCall settings) := rfl

/-- Dropping, waiting and returning are told apart by the outermost expressions. -/
theorem handlings_apart (settings : Settings) (method : Signature) :
    waitedFor (method.overloadCall settings) ≠ .discard (method.overloadCall settings) ∧
      method.overloadCall settings ≠ .discard (method.overloadCall settings) ∧
      waitedFor (method.overloadCall settings) ≠ method.overloadCall settings := by
  refine ⟨nofun, nofun, fun same => ?_⟩
  -- One of the two calls a member of an expression, the other one a name.
  injection same with callee
  cases callee

/-- **The overload with a token returns, by the text of its type, an awaitable, and the result of
that is what its call of the transport asks for. The other overload drops the awaitable, waits for
it or returns it just as the method returns nothing, a plain value or an awaitable.** -/
theorem overloads_complete (settings : Settings) (method : Signature) :
    let again := Completion.of (.type (method.cancellable settings).returnType)
    again.IsAwaited ∧
      (∃ arguments, (method.cancellable settings).body =
        some (.await (.call (.name settings.transport.invoke) again.result?.toList arguments))) ∧
      ((method.forwarding settings).body = some (.discard (method.overloadCall settings)) ↔
        method.result.Completes .nothing) ∧
      ((method.forwarding settings).body = some (waitedFor (method.overloadCall settings)) ↔
        ∃ type, method.result.Completes (.value type)) ∧
      ((method.forwarding settings).body = some (method.overloadCall settings) ↔
        ∃ completion, completion.IsAwaited ∧ method.result.Completes completion) := by
  intro again
  have eq : again = (Completion.of method.result).awaited :=
    Completion.of_awaitedType method.result
  obtain ⟨waitedDropped, returnedDropped, waitedReturned⟩ := handlings_apart settings method
  refine ⟨eq ▸ Completion.isAwaited_awaited _, ?_, ?_⟩
  · rw [eq, Completion.result?_awaited]
    exact ⟨_, rfl⟩
  simp only [Result.completes_iff, body_forwarding, Option.some.injEq]
  cases Completion.of method.result with
  | nothing =>
    simp [Completion.IsAwaited, waitedDropped.symm, returnedDropped.symm]
  | value type =>
    simp [Completion.IsAwaited, waitedDropped, waitedReturned]
  | awaitable kind =>
    simp [Completion.IsAwaited, returnedDropped, waitedReturned.symm]
  | awaitableOf kind result =>
    simp [Completion.IsAwaited, returnedDropped, waitedReturned.symm]

end Signature

end TypedHub
