import Mathlib.Data.List.Forall2
import TypedHub.Stub.Contracts

/-!
# What a contract says of an interface

A contract is free of metadata, but it says of an interface all that the stub needs: its name and
the methods that it declares itself, each with its name, its result and its parameters, and of a
parameter everything that can be told in a signature. This is stated part by part, without the
conversion (`Contract.Describes`), and only the converted interface says it
(`Contract.describes_iff`).
-/

namespace TypedHub

open Metadata

/-! ## Descriptions -/

/-- How the default of a parameter is written, if it has one. Null is no constant, and a list or an
object is one without a literal. -/
inductive Metadata.ParameterSymbol.DefaultsTo (parameter : ParameterSymbol) : Option String → Prop
  | required (missing : ∀ value ∈ parameter.constant, value = .null)
      (given : parameter.hasDefault = false) : DefaultsTo parameter none
  | unstated (missing : ∀ value ∈ parameter.constant, value = .null)
      (given : parameter.hasDefault = true) : DefaultsTo parameter (some "default")
  | true (constant : parameter.constant = some (.bool true)) :
      DefaultsTo parameter (some "true")
  | false (constant : parameter.constant = some (.bool false)) :
      DefaultsTo parameter (some "false")
  | number {value : Json.Number} (constant : parameter.constant = some (.number value)) :
      DefaultsTo parameter (some value.text)
  | string {value : String} (constant : parameter.constant = some (.string value)) :
      DefaultsTo parameter (some (CSharp.stringLiteral value))
  | list {items : List Json} (constant : parameter.constant = some (.array items)) :
      DefaultsTo parameter (some "default")
  | object {members : List (String × Json)}
      (constant : parameter.constant = some (.object members)) :
      DefaultsTo parameter (some "default")

structure Parameter.Describes (parameter : Parameter) (symbol : ParameterSymbol) : Prop where
  type : parameter.type = symbol.type
  name : parameter.name = symbol.name
  nullable : parameter.nullable = symbol.nullable
  defaultText : symbol.DefaultsTo parameter.defaultText
  isVariadic : parameter.isVariadic = symbol.isParams

/-- What a method returns: the type that is given for it, unless it is said to return nothing. -/
inductive Metadata.MethodSymbol.Returns (method : MethodSymbol) : Result → Prop
  | type {name : String} (given : method.returnType = some name)
      (returns : method.returnsVoid = false) : Returns method (.type name)
  | void (nothing : method.returnsVoid = true) : Returns method .nothing
  | untyped (missing : method.returnType = none) : Returns method .nothing

structure Signature.Describes (signature : Signature) (method : MethodSymbol) : Prop where
  name : signature.name = method.name
  result : method.Returns signature.result
  parameters : List.Forall₂ Parameter.Describes signature.parameters method.parameters

structure Contract.Describes (contract : Contract) (type : TypeSymbol) : Prop where
  name : contract.name = type.qualifiedName
  methods : List.Forall₂ Signature.Describes contract.methods type.methods

/-! ## Only the converted interface is described -/

theorem forall₂_iff_eq_map {α β : Type} {R : α → β → Prop} {f : β → α}
    (h : ∀ a b, R a b ↔ a = f b) {as : List α} {bs : List β} :
    List.Forall₂ R as bs ↔ as = bs.map f := by
  obtain rfl : R = fun a b => a = f b := funext fun a => funext fun b => propext (h a b)
  rw [← List.forall₂_map_right_iff, List.forall₂_eq_eq_eq]

theorem defaultText_of_missing {parameter : ParameterSymbol}
    (missing : ∀ value ∈ parameter.constant, value = .null) :
    defaultText parameter = if parameter.hasDefault then some "default" else none := by
  unfold defaultText
  cases constant : parameter.constant with
  | none => rfl
  | some value =>
    obtain rfl := missing value constant
    rfl

theorem Metadata.ParameterSymbol.defaultsTo_defaultText (parameter : ParameterSymbol) :
    parameter.DefaultsTo (TypedHub.defaultText parameter) := by
  have ofMissing (missing : ∀ value ∈ parameter.constant, value = .null) :
      parameter.DefaultsTo (TypedHub.defaultText parameter) := by
    rw [defaultText_of_missing missing]
    cases given : parameter.hasDefault with
    | true => exact .unstated missing given
    | false => exact .required missing given
  cases constant : parameter.constant with
  | none => exact ofMissing (by simp [constant])
  | some value =>
    cases value with
    | null => exact ofMissing (by simp [constant])
    | bool b =>
      rw [TypedHub.defaultText, constant]
      cases b with
      | true => exact .true constant
      | false => exact .false constant
    | number n =>
      rw [TypedHub.defaultText, constant]
      exact .number constant
    | string text =>
      rw [TypedHub.defaultText, constant]
      exact .string constant
    | array items =>
      rw [TypedHub.defaultText, constant]
      exact .list constant
    | object members =>
      rw [TypedHub.defaultText, constant]
      exact .object constant

theorem Metadata.ParameterSymbol.defaultsTo_iff {parameter : ParameterSymbol}
    {text : Option String} : parameter.DefaultsTo text ↔ text = TypedHub.defaultText parameter := by
  refine ⟨fun h => ?_, fun same => same ▸ parameter.defaultsTo_defaultText⟩
  cases h with
  | required missing given => rw [defaultText_of_missing missing, given]; rfl
  | unstated missing given => rw [defaultText_of_missing missing, given]; rfl
  | true constant | false constant => rw [TypedHub.defaultText, constant]; rfl
  | number constant | string constant | list constant | object constant =>
    rw [TypedHub.defaultText, constant]

theorem Metadata.MethodSymbol.returns_iff {method : MethodSymbol} {result : Result} :
    method.Returns result ↔ result = .ofSymbol method := by
  obtain ⟨name, returnsVoid, returnType, parameters⟩ := method
  constructor
  · rintro (⟨given, returns⟩ | nothing | missing)
    · cases given
      cases returns
      rfl
    · cases nothing
      cases returnType <;> rfl
    · cases missing
      rfl
  · rintro rfl
    cases returnsVoid with
    | true => cases returnType <;> exact .void rfl
    | false =>
      cases returnType with
      | none => exact .untyped rfl
      | some type => exact .type rfl rfl

theorem Parameter.describes_iff (parameter : Parameter) (symbol : ParameterSymbol) :
    parameter.Describes symbol ↔ parameter = .ofSymbol symbol := by
  obtain ⟨type, name, nullable, defaultText, isVariadic⟩ := parameter
  constructor
  · rintro ⟨rfl, rfl, rfl, text, rfl⟩
    obtain rfl := ParameterSymbol.defaultsTo_iff.1 text
    rfl
  · intro same
    cases same
    exact ⟨rfl, rfl, rfl, ParameterSymbol.defaultsTo_iff.2 rfl, rfl⟩

theorem Parameter.forall₂_describes_iff {parameters : List Parameter}
    {symbols : List ParameterSymbol} :
    List.Forall₂ Parameter.Describes parameters symbols ↔ parameters = symbols.map .ofSymbol :=
  forall₂_iff_eq_map describes_iff

theorem Signature.describes_iff (signature : Signature) (method : MethodSymbol) :
    signature.Describes method ↔ signature = .ofSymbol method := by
  obtain ⟨name, result, parameters⟩ := signature
  constructor
  · rintro ⟨rfl, result, parameters⟩
    obtain rfl := MethodSymbol.returns_iff.1 result
    obtain rfl := Parameter.forall₂_describes_iff.1 parameters
    rfl
  · intro same
    cases same
    exact ⟨rfl, MethodSymbol.returns_iff.2 rfl, Parameter.forall₂_describes_iff.2 rfl⟩

theorem Signature.forall₂_describes_iff {signatures : List Signature}
    {methods : List MethodSymbol} :
    List.Forall₂ Signature.Describes signatures methods ↔ signatures = methods.map .ofSymbol :=
  forall₂_iff_eq_map describes_iff

theorem Contract.describes_iff (contract : Contract) (type : TypeSymbol) :
    contract.Describes type ↔ contract = .ofSymbol type := by
  obtain ⟨name, methods⟩ := contract
  constructor
  · rintro ⟨rfl, methods⟩
    obtain rfl := Signature.forall₂_describes_iff.1 methods
    rfl
  · intro same
    cases same
    exact ⟨rfl, Signature.forall₂_describes_iff.2 rfl⟩

theorem Contract.forall₂_describes_iff {contracts : List Contract} {types : List TypeSymbol} :
    List.Forall₂ Contract.Describes contracts types ↔ contracts = types.map .ofSymbol :=
  forall₂_iff_eq_map describes_iff

end TypedHub
