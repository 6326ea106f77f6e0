import TypedHub.Stub.Basic
import TypedHub.Stub.Handler

/-!
# Clashes of names

Calls are addressed by the name of the method alone, so a name may occur only once in each role. The
class has events for incoming and methods for outgoing calls, so no name may be in both roles, and
each incoming method has a delegate, so no two of them may have the same handler name.
-/

namespace TypedHub

/-- A reason not to write a stub. -/
inductive Clash where
  /-- A method name occurs more than once in a role. -/
  | duplicateMethod (role : Role) (name : String) (contracts : List String)
  /-- Different incoming methods have the same handler name. -/
  | sharedHandler (handler : String) (methods : List String)
  /-- A name is both incoming and outgoing. -/
  | bothRoles (name : String)
  /-- An earlier declaration has taken the source file. -/
  | duplicateFile (fileName : String)
  deriving DecidableEq

def Clash.message : Clash → String
  | duplicateMethod role name contracts =>
    role.text ++ " method `" ++ name ++ "` is declared more than once (in " ++
      ", ".intercalate contracts ++ ")"
  | sharedHandler handler methods =>
    "incoming methods " ++ ", ".intercalate methods ++ " all map to handler `" ++ handler ++ "`"
  | bothRoles name => "`" ++ name ++ "` is used by both an incoming and an outgoing method"
  | duplicateFile fileName =>
    "artifact `" ++ fileName ++ "` is already produced by another declaration"

/-! ## Groups -/

/-- Adds a value to the group of a key; a new group is put at the end. -/
def addToGroup [DecidableEq κ] (key : κ) (value : α) : List (κ × List α) → List (κ × List α)
  | [] => [(key, [value])]
  | (k, values) :: rest =>
    if k = key then (k, values ++ [value]) :: rest else (k, values) :: addToGroup key value rest

/-- The values grouped by their keys, groups in the order of their first members, members in order.
-/
def groupPairs [DecidableEq κ] (pairs : List (κ × α)) : List (κ × List α) :=
  pairs.foldl (fun groups pair => addToGroup pair.1 pair.2 groups) []

/-- The values without repetitions, each at its first place. -/
def firstOccurrences [DecidableEq α] (values : List α) : List α :=
  values.foldl (fun kept value => if value ∈ kept then kept else kept ++ [value]) []

/-! ## Checks -/

namespace Stub

/-- One clash for each name that a role has more than once. -/
def duplicateMethods (stub : Stub) (role : Role) : List Clash :=
  (groupPairs ((stub.methodsWithContract role).map fun (contract, method) =>
      (method.name, contract.name))).filterMap fun (name, contracts) =>
    if 1 < contracts.length then some (.duplicateMethod role name contracts) else none

/-- One clash for each handler name that different incoming methods share. -/
def sharedHandlers (stub : Stub) : List Clash :=
  (groupPairs ((stub.methods .incoming).map fun method =>
      (handlerName method.name, method.name))).filterMap fun (handler, methods) =>
    let distinct := firstOccurrences methods
    if 1 < distinct.length then some (.sharedHandler handler distinct) else none

/-- One clash for each incoming name that is outgoing too. -/
def namesInBothRoles (stub : Stub) : List Clash :=
  let outgoing := (stub.methods .outgoing).map (·.name)
  ((firstOccurrences ((stub.methods .incoming).map (·.name))).filter (· ∈ outgoing)).map .bothRoles

/-- The clashes within a stub. -/
def clashes (stub : Stub) : List Clash :=
  stub.duplicateMethods .incoming ++ stub.duplicateMethods .outgoing ++ stub.sharedHandlers ++
    stub.namesInBothRoles

end Stub

end TypedHub
