import TypedHub.Stub.Contracts

/-!
# Declarations

A class that carries the marker attribute declares a stub. The named arguments of the attribute
list, for each role, the interfaces whose calls the stub is for.
-/

namespace TypedHub

open Metadata

/-- A marked class with its marker. -/
structure Declaration where
  symbol : TypeSymbol
  marker : AttributeData

namespace Declaration

/-- The interface names that are listed for a role. A single name may stand without a list; entries
that are no names are left out, and so is everything where neither is given. -/
def roots (declaration : Declaration) (role : Role) : List String :=
  match declaration.marker.namedArguments.lookup role.argumentName with
  | some (.array items) => items.filterMap fun | .string name => some name | _ => none
  | some (.string name) => [name]
  | _ => []

end Declaration

/-- The declaration made by a type, if it is a class with the marker. -/
def Declaration.ofSymbol? (marker : String) (symbol : TypeSymbol) : Option Declaration :=
  match symbol.attribute? marker with
  | some data => if symbol.kind = .classType then some ⟨symbol, data⟩ else none
  | none => none

/-- All declarations, in the order of the compilation. -/
def declarations (marker : String) (compilation : Compilation) : List Declaration :=
  compilation.types.filterMap (Declaration.ofSymbol? marker)

/-- The visibility of the written class. -/
def Visibility.ofAccessibility : Accessibility → Visibility
  | .isPublic => isPublic
  | .isInternal => isInternal
  | .isProtected => isProtected
  | .protectedOrInternal => protectedInternal
  | .protectedAndInternal => privateProtected
  | .isPrivate => isPrivate
  | .notApplicable => unspecified

/-- The stub that a declaration asks for. -/
def Stub.ofDeclaration (compilation : Compilation) (declaration : Declaration) : Stub where
  className := declaration.symbol.name
  containingNamespace := declaration.symbol.containingNamespace
  visibility := .ofAccessibility declaration.symbol.accessibility
  outgoing := Contract.reachable compilation (declaration.roots .outgoing)
  incoming := Contract.reachable compilation (declaration.roots .incoming)

/-- The stubs of all declarations. -/
def stubs (marker : String) (compilation : Compilation) : List Stub :=
  (declarations marker compilation).map (Stub.ofDeclaration compilation)

end TypedHub
