import TypedHub.Stub.Basic
import TypedHub.Text.Ends

/-!
# How a call completes

The return type of a method decides how it is called and answered: with nothing, with a plain value,
or by an awaitable, with or without a result. Awaitables are known by their full names, with or
without the alias of the global namespace in front.
-/

namespace TypedHub

/-- The types that can be awaited. -/
inductive Awaitable where
  | task
  | valueTask
  deriving DecidableEq

def Awaitable.text : Awaitable → String
  | task => "System.Threading.Tasks.Task"
  | valueTask => "System.Threading.Tasks.ValueTask"

inductive Completion where
  | nothing
  /-- An awaitable without a result. -/
  | awaitable (kind : Awaitable)
  /-- An awaitable with a result of the given type. -/
  | awaitableOf (kind : Awaitable) (result : String)
  /-- A plain value of the given type. -/
  | value (type : String)
  deriving DecidableEq

namespace Completion

/-- The completion by an awaitable of the given kind that a type name stands for. -/
def ofAwaitable? (kind : Awaitable) (name : List Char) : Option Completion :=
  match Text.behind? kind.text.toList name with
  | some [] => some (awaitable kind)
  | some ('<' :: rest) =>
    (Text.before? ['>'] rest).map fun result => awaitableOf kind (String.ofList result)
  | _ => none

/-- The completion that a result means. -/
def of : Result → Completion
  | .nothing => nothing
  | .type name =>
    let bare := (Text.behind? "global::".toList name.toList).getD name.toList
    (ofAwaitable? .task bare <|> ofAwaitable? .valueTask bare).getD (value name)

/-- The type of the result, if there is one. -/
def result? : Completion → Option String
  | awaitableOf _ result => some result
  | value type => some type
  | nothing | awaitable _ => none

/-- The awaitable that an asynchronous method with the declared result returns. -/
def awaitedType (declared : Result) : Completion → String
  | nothing => Awaitable.task.text
  | value type => Awaitable.task.text ++ "<" ++ type ++ ">"
  | awaitable _ | awaitableOf _ _ => declared.text

end Completion

end TypedHub
