import TypedHub.Json.Reader
import TypedHub.Metadata.Vocabulary

/-!
# Metadata from JSON

The shapes of the metadata records: their fields in the order of declaration, which of them must be
given, and the defaults of the others.
-/

namespace TypedHub.Metadata

open Json (Reader Shape Field)

def TypeKind.reader : Reader TypeKind := .word ofWord

def Accessibility.reader : Reader Accessibility := .word ofWord

def ParameterSymbol.shape : Shape ParameterSymbol where
  name := "ParameterSymbol"
  fields :=
    [ .mandatory "type" .string fun v p => { p with type := v },
      .mandatory "name" .string fun v p => { p with name := v },
      .optional "nullable" .bool fun v p => { p with nullable := v },
      .optional "has_default" .bool fun v p => { p with hasDefault := v },
      .optional "default" .valueOrNull fun v p => { p with constant := v },
      .optional "is_params" .bool fun v p => { p with isParams := v } ]
  blank := ⟨"", "", false, false, none, false⟩

def ParameterSymbol.reader : Reader ParameterSymbol := shape.reader

def MethodSymbol.shape : Shape MethodSymbol where
  name := "MethodSymbol"
  fields :=
    [ .mandatory "name" .string fun v m => { m with name := v },
      .optional "returns_void" .bool fun v m => { m with returnsVoid := v },
      .optional "return_type" .stringOrNull fun v m => { m with returnType := v },
      .optional "parameters" (.list ParameterSymbol.reader) fun v m => { m with parameters := v } ]
  blank := ⟨"", false, none, []⟩

def MethodSymbol.reader : Reader MethodSymbol := shape.reader

def AttributeData.shape : Shape AttributeData where
  name := "AttributeData"
  fields :=
    [ .mandatory "name" .string fun v a => { a with name := v },
      .optional "named_arguments" .freeObject fun v a => { a with namedArguments := v } ]
  blank := ⟨"", []⟩

def AttributeData.reader : Reader AttributeData := shape.reader

def TypeSymbol.shape : Shape TypeSymbol where
  name := "TypeSymbol"
  fields :=
    [ .mandatory "kind" TypeKind.reader fun v t => { t with kind := v },
      .mandatory "name" .string fun v t => { t with name := v },
      .optional "namespace" .string fun v t => { t with containingNamespace := v },
      .optional "accessibility" Accessibility.reader fun v t => { t with accessibility := v },
      .optional "bases" (.list .string) fun v t => { t with bases := v },
      .optional "methods" (.list MethodSymbol.reader) fun v t => { t with methods := v },
      .optional "attributes" (.list AttributeData.reader) fun v t => { t with attributes := v } ]
  blank := ⟨.other, "", "", .notApplicable, [], [], []⟩

def TypeSymbol.reader : Reader TypeSymbol := shape.reader

def Compilation.shape : Shape Compilation where
  name := "Compilation"
  fields := [.optional "types" (.list TypeSymbol.reader) fun v c => { c with types := v }]
  blank := ⟨[]⟩

def Compilation.reader : Reader Compilation := shape.reader

end TypedHub.Metadata
