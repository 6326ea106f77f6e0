import TypedHub.Stub.Basic

/-!
# Stubs as JSON

The dump of stubs for readers outside the library. No two stubs have the same dump: no result is
written as a word, a type as an object, and a missing default as null.
-/

namespace TypedHub

def Result.toJson : Result → Json
  | nothing => .string "void"
  | type name => .object [("type", .string name)]

def Parameter.toJson (parameter : Parameter) : Json :=
  .object
    [ ("ty", .string parameter.type),
      ("name", .string parameter.name),
      ("nullable", .bool parameter.nullable),
      ("default_value",
        match parameter.defaultText with
        | some text => .string text
        | none => .null),
      ("is_variadic", .bool parameter.isVariadic) ]

def Signature.toJson (signature : Signature) : Json :=
  .object
    [ ("name", .string signature.name),
      ("return_type", signature.result.toJson),
      ("parameters", .array (signature.parameters.map Parameter.toJson)) ]

def Contract.toJson (contract : Contract) : Json :=
  .object
    [ ("qualified_name", .string contract.name),
      ("methods", .array (contract.methods.map Signature.toJson)) ]

def Visibility.word : Visibility → String
  | isPublic => "public"
  | isInternal => "internal"
  | isProtected => "protected"
  | protectedInternal => "protected_internal"
  | privateProtected => "private_protected"
  | isPrivate => "private"
  | unspecified => "unspecified"

def Stub.toJson (stub : Stub) : Json :=
  .object
    [ ("class_name", .string stub.className),
      ("namespace", .string stub.containingNamespace),
      ("visibility", .string stub.visibility.word),
      ("outgoing_interfaces", .array (stub.outgoing.map Contract.toJson)),
      ("incoming_interfaces", .array (stub.incoming.map Contract.toJson)) ]

/-- The dump of several stubs. -/
def Stub.dump (stubs : List Stub) : Json := .array (stubs.map toJson)

end TypedHub
