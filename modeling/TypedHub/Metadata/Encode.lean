import TypedHub.Metadata.Vocabulary

/-!
# Metadata as JSON

Every field is written, in the order of declaration. Words out of the vocabulary are written for
kinds and accessibilities, and null for a missing constant or return type.
-/

namespace TypedHub.Metadata

/-- Null for nothing. -/
def orNull (encode : α → Json) : Option α → Json
  | some value => encode value
  | none => .null

def ParameterSymbol.toJson (parameter : ParameterSymbol) : Json :=
  .object
    [ ("type", .string parameter.type),
      ("name", .string parameter.name),
      ("nullable", .bool parameter.nullable),
      ("has_default", .bool parameter.hasDefault),
      ("default", orNull id parameter.constant),
      ("is_params", .bool parameter.isParams) ]

def MethodSymbol.toJson (method : MethodSymbol) : Json :=
  .object
    [ ("name", .string method.name),
      ("returns_void", .bool method.returnsVoid),
      ("return_type", orNull .string method.returnType),
      ("parameters", .array (method.parameters.map ParameterSymbol.toJson)) ]

def AttributeData.toJson (data : AttributeData) : Json :=
  .object
    [ ("name", .string data.name),
      ("named_arguments", .object data.namedArguments) ]

def TypeSymbol.toJson (type : TypeSymbol) : Json :=
  .object
    [ ("kind", .string type.kind.word),
      ("name", .string type.name),
      ("namespace", .string type.containingNamespace),
      ("accessibility", .string type.accessibility.word),
      ("bases", .array (type.bases.map .string)),
      ("methods", .array (type.methods.map MethodSymbol.toJson)),
      ("attributes", .array (type.attributes.map AttributeData.toJson)) ]

def Compilation.toJson (compilation : Compilation) : Json :=
  .object [("types", .array (compilation.types.map TypeSymbol.toJson))]

end TypedHub.Metadata
