import TypedHub.CSharp.Name
import TypedHub.CSharp.Unit
import TypedHub.Stub.Completion
import TypedHub.Stub.FreshName
import TypedHub.Stub.Handler
import TypedHub.Stub.Settings

/-!
# The members that stand for one method

An outgoing method `m(p)` becomes two overloads in the class and one declaration in the interface:

* `m(p)` in the class, which calls the other overload with a token that never cancels;
* `m(p, token)` in the class, which calls the transport under the key `"m"`;
* `m(p, token)` in the interface.

An incoming method `n(x)` becomes a delegate `NHandler(sender, x)` and an event `n` in the
interface, the same event in the class, and a subscription under the key `"n"` in the constructor,
with a closure that raises the event.
-/

namespace TypedHub

open CSharp

/-! ## Attributes -/

/-- Names the program that has written a declaration. -/
def generatedCode (settings : Settings) : Attribute where
  name := "System.CodeDom.Compiler.GeneratedCode"
  arguments :=
    [⟨none, .str settings.generatorName⟩, ⟨none, .str settings.generatorVersion⟩]

def excludeFromCoverage : Attribute :=
  ⟨"System.Diagnostics.CodeAnalysis.ExcludeFromCodeCoverage", []⟩

def debuggerNonUserCode : Attribute := ⟨"System.Diagnostics.DebuggerNonUserCode", []⟩

/-- The attributes of written events. -/
def eventAttributes (settings : Settings) : AttributeList :=
  [excludeFromCoverage, generatedCode settings]

/-- The attributes of all other written members. -/
def memberAttributes (settings : Settings) : AttributeList :=
  debuggerNonUserCode :: eventAttributes settings

/-! ## Parameters -/

/-- The type of a parameter with its nullable mark, which is never written twice. -/
def Parameter.markedType (parameter : Parameter) : String :=
  if parameter.nullable && parameter.type.toList.getLast? != some '?' then parameter.type ++ "?"
  else parameter.type

/-- The parameter as it is declared in the contract. -/
def Parameter.declared (parameter : Parameter) : Param where
  isParams := parameter.isVariadic
  type := parameter.markedType
  name := escapeKeyword parameter.name
  default? := parameter.defaultText.map .literal

/-- The parameter without its default. -/
def Parameter.withoutDefault (parameter : Parameter) : Param :=
  { parameter.declared with default? := none }

/-- The parameter in a closure: only type and name. -/
def Parameter.bare (parameter : Parameter) : Param :=
  { parameter.withoutDefault with isParams := false }

/-- The parameter as an argument that is passed on. -/
def Parameter.argument (parameter : Parameter) : Expr := .name (escapeKeyword parameter.name)

namespace Signature

/-- The name under which the method is declared. -/
def memberName (method : Signature) : String := escapeKeyword method.name

def parameterNames (method : Signature) : List String := method.parameters.map (·.name)

/-- The parameters, passed on as arguments. -/
def arguments (method : Signature) : List Expr := method.parameters.map (·.argument)

/-! ## Outgoing -/

/-- Whether any parameter is optional. -/
def hasDefaults (method : Signature) : Bool := method.parameters.any (·.defaultText.isSome)

/-- The name of the cancellation token. -/
def tokenName (method : Signature) : String := freshName "cancellationToken" method.parameterNames

/-- The default that a parameter is given for the sake of those before it. -/
def implicitDefault : Expr := .literal "default"

/-- A parameter in front of the cancellation token. The token is the last one, so none of these
takes the rest of the arguments; one that did becomes optional if another one is. -/
def beforeToken (method : Signature) (parameter : Parameter) : Param :=
  { parameter.declared with
    isParams := false
    default? :=
      if method.hasDefaults && parameter.defaultText.isNone && parameter.isVariadic then
        some implicitDefault
      else parameter.declared.default? }

/-- The cancellation token, which is optional if a parameter before it is. -/
def tokenParam (settings : Settings) (method : Signature) : Param where
  isParams := false
  type := settings.transport.cancellationType
  name := method.tokenName
  default? := if method.hasDefaults then some implicitDefault else none

/-- The parameters of the overload with a cancellation token. -/
def cancellableParams (settings : Settings) (method : Signature) : List Param :=
  method.parameters.map method.beforeToken ++ [method.tokenParam settings]

/-- The call of the other overload with a token that never cancels; its awaitable is dropped, waited
for or returned as the result of the method demands. -/
def forwardingCall (settings : Settings) (method : Signature) : Expr :=
  let call :=
    Expr.callName method.memberName (method.arguments ++ [.name settings.transport.neverCancel])
  match Completion.of method.result with
  | .nothing => .discard call
  | .value _ => (call.callMethod "GetAwaiter").callMethod "GetResult"
  | .awaitable _ | .awaitableOf _ _ => call

/-- The overload without a cancellation token. -/
def forwarding (settings : Settings) (method : Signature) : Method where
  attributes := [memberAttributes settings]
  modifiers := ["public"]
  returnType := method.result.text
  name := method.memberName
  parameters := method.parameters.map (·.declared)
  body := some (method.forwardingCall settings)

/-- The call of the transport. -/
def transportCall (settings : Settings) (method : Signature) : Expr :=
  .call (.name settings.transport.invoke) (Completion.of method.result).result?.toList
    ([.name settings.transport.connectionProperty, .str method.name] ++ method.arguments ++
      [.name method.tokenName])

/-- The overload with a cancellation token. -/
def cancellable (settings : Settings) (method : Signature) : Method where
  attributes := [memberAttributes settings]
  modifiers := ["public", "async"]
  returnType := (Completion.of method.result).awaitedType method.result
  name := method.memberName
  parameters := method.cancellableParams settings
  body := some (.await (method.transportCall settings))

/-- The declaration in the interface of the overload with a cancellation token. -/
def declaration (settings : Settings) (method : Signature) : Method where
  attributes := []
  modifiers := []
  returnType := (Completion.of method.result).awaitedType method.result
  name := method.memberName
  parameters := method.cancellableParams settings
  body := none

/-! ## Incoming -/

def handler (method : Signature) : String := handlerName method.name

/-- The first parameter of a handler, which is the client that was called. -/
def senderParam (interfaceName : String) (method : Signature) : Param where
  isParams := false
  type := interfaceName
  name := freshName "sender" method.parameterNames
  default? := none

def delegate (interfaceName : String) (method : Signature) : Delegate where
  modifiers := []
  returnType := method.result.text
  name := method.handler
  parameters := method.senderParam interfaceName :: method.parameters.map (·.withoutDefault)

/-- The event in the interface. -/
def interfaceEvent (method : Signature) : Event where
  attributes := []
  modifiers := []
  type := method.handler ++ "?"
  name := method.memberName

/-- The event in the class. -/
def classEvent (settings : Settings) (interfaceName : String) (method : Signature) : Event where
  attributes := [eventAttributes settings]
  modifiers := ["public"]
  type := interfaceName ++ "." ++ method.handler ++ "?"
  name := method.memberName

/-- Invokes the handlers of the event, if it has any. -/
def raise (method : Signature) : Expr :=
  .invokeIfSet (.name method.memberName) (.this :: method.arguments)

/-- What a closure awaits when the event has no handlers: an awaitable that is complete. -/
def completed (kind : Awaitable) : Expr := .name (kind.text ++ ".CompletedTask")

/-- The same for an awaitable with a result, which is then the default value. -/
def completedWith (kind : Awaitable) (result : String) : Expr :=
  .call (.name (kind.text ++ ".FromResult")) [result] [.defaultValue]

/-- The body of the closure that answers a call of the hub. -/
def closureBody (method : Signature) : Expr :=
  match Completion.of method.result with
  | .nothing => method.raise
  | .awaitable kind => .await (.coalesce method.raise (completed kind))
  | .awaitableOf kind result => .await (.coalesce method.raise (completedWith kind result))
  | .value _ => .coalesce method.raise .defaultValue

/-- Whether the closure awaits its handlers. -/
def closureIsAsync (method : Signature) : Bool :=
  match Completion.of method.result with
  | .awaitable _ | .awaitableOf _ _ => true
  | .nothing | .value _ => false

/-- The closure that answers a call of the hub. -/
def closure (method : Signature) : Expr :=
  .lambda method.closureIsAsync (method.parameters.map (·.bare)) method.closureBody

/-- The call that registers the closure with the transport. -/
def subscription (settings : Settings) (method : Signature) : Expr :=
  .call (.name settings.transport.subscribe)
    (method.parameters.map (·.markedType) ++ (Completion.of method.result).result?.toList)
    [.name settings.transport.connectionProperty, .str method.name, method.closure]

end Signature

end TypedHub
