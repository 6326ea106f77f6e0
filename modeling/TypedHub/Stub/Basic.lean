import TypedHub.Json.Value

/-!
# Stubs

A `Stub` says all that is needed to write a strongly typed client of a hub: the class to extend, and
the contracts whose methods the client calls (outgoing) or is called by (incoming). It holds no
metadata, only names and texts, so two equal stubs have equal sources.

The order of contracts, methods and parameters is significant.
-/

namespace TypedHub

/-- What a method returns. A type that happens to be called void is not `nothing`. -/
inductive Result where
  | nothing
  | type (name : String)
  deriving DecidableEq

/-- How a result is written in a signature. -/
def Result.text : Result → String
  | nothing => "void"
  | type name => name

structure Parameter where
  type : String
  name : String
  nullable : Bool
  /-- The text of the default value, if the parameter is optional. -/
  defaultText : Option String
  /-- Whether the parameter takes the rest of the arguments. -/
  isVariadic : Bool
  deriving DecidableEq

structure Signature where
  name : String
  result : Result
  parameters : List Parameter
  deriving DecidableEq

/-- An interface with the methods that it declares itself. -/
structure Contract where
  name : String
  methods : List Signature
  deriving DecidableEq

/-- Who may see the class. -/
inductive Visibility where
  | isPublic
  | isInternal
  | isProtected
  | protectedInternal
  | privateProtected
  | isPrivate
  | unspecified
  deriving DecidableEq

/-- The modifiers of a class declaration; an empty text where none is written. -/
def Visibility.modifier : Visibility → String
  | isPublic => "public"
  | isInternal => "internal"
  | isProtected => "protected"
  | protectedInternal => "protected internal"
  | privateProtected => "private protected"
  | isPrivate => "private"
  | unspecified => ""

/-- The direction of the calls of a contract. -/
inductive Role where
  /-- The hub calls the client. -/
  | incoming
  /-- The client calls the hub. -/
  | outgoing
  deriving DecidableEq

def Role.text : Role → String
  | incoming => "incoming"
  | outgoing => "outgoing"

/-- The named argument of the marker attribute that lists the interfaces of a role. -/
def Role.argumentName : Role → String
  | incoming => "Incoming"
  | outgoing => "Outgoing"

/-- A client to be written. -/
structure Stub where
  className : String
  containingNamespace : String
  visibility : Visibility
  outgoing : List Contract
  incoming : List Contract
  deriving DecidableEq

namespace Stub

/-- The name of the interface that is written beside the class. -/
def interfaceName (stub : Stub) : String := "I" ++ stub.className

def contracts (stub : Stub) : Role → List Contract
  | .incoming => stub.incoming
  | .outgoing => stub.outgoing

/-- The methods of a role over all contracts, each with the contract it stands in. -/
def methodsWithContract (stub : Stub) (role : Role) : List (Contract × Signature) :=
  (stub.contracts role).flatMap fun contract => contract.methods.map (contract, ·)

/-- The methods of a role over all contracts. -/
def methods (stub : Stub) (role : Role) : List Signature :=
  (stub.contracts role).flatMap (·.methods)

/-- The name of the source file. -/
def fileName (stub : Stub) : String :=
  if stub.containingNamespace = "" then stub.className ++ ".g.cs"
  else stub.containingNamespace ++ "." ++ stub.className ++ ".g.cs"

end Stub

end TypedHub
