import TypedHub.CSharp.Name
import TypedHub.Stub.Basic

/-!
# Names of a stub

Every name and type name of a stub must be one that can be written. They are checked in the order of
the class, its namespace, and then for the outgoing and the incoming contracts: first the names of
all contracts, then the methods one by one with their results and parameters.
-/

namespace TypedHub

open CSharp

/-- The first name in a result that cannot be written. -/
def Result.check : Result → Except NameError Unit
  | nothing => .ok ()
  | type name => checkTypeName name

def Parameter.check (parameter : Parameter) : Except NameError Unit := do
  checkIdentifier .parameterName parameter.name
  checkTypeName parameter.type

def Signature.check (signature : Signature) : Except NameError Unit := do
  checkIdentifier .methodName signature.name
  signature.result.check
  signature.parameters.forM Parameter.check

/-- The first name in the contracts and methods of a role that cannot be written. -/
def Stub.checkRole (stub : Stub) (role : Role) : Except NameError Unit := do
  (stub.contracts role).forM fun contract => checkTypeName contract.name
  (stub.methods role).forM Signature.check

/-- The first name in a stub that cannot be written. -/
def Stub.checkNames (stub : Stub) : Except NameError Unit := do
  checkIdentifier .className stub.className
  if stub.containingNamespace ≠ "" then checkNamespace stub.containingNamespace
  stub.checkRole .outgoing
  stub.checkRole .incoming

end TypedHub
