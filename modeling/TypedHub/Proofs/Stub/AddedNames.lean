import TypedHub.Proofs.Stub.Bodies

/-!
# The names of added parameters

Two parameters of a stub are not the user's: the token of an outgoing method and the sender of a
delegate. Each gets a fresh name, one that no parameter of the method has. But names are compared as
texts there, and C# compares identifiers, for which an at sign in front makes no difference: so the
name of the token is met again in a parameter that has it behind an at sign, and only there
(`added_names_apart_iff`).
-/

namespace TypedHub

open CSharp

/-! ## Apart -/

namespace Signature

variable {settings : Settings} {method : Signature}

/-- No two of the parameters have the same identifier. -/
def NamesApart (method : Signature) : Prop :=
  (method.parameters.map fun parameter => identifier parameter.name).Nodup

instance : DecidablePred NamesApart := fun _ => inferInstanceAs (Decidable (List.Nodup _))

theorem identifiers_writtenNames (method : Signature) :
    method.writtenNames.map identifier =
      method.parameters.map fun parameter => identifier parameter.name := by
  rw [writtenNames, List.map_map]
  refine List.map_congr_left ?_
  intro parameter _
  exact identifier_escapeKeyword parameter.name

/-- A fresh name is met among the identifiers of the parameters only behind an at sign. -/
theorem freshName_mem_identifiers_iff {name : String} (nonempty : name ≠ "")
    (plain : name.toList.head? ≠ some '@') :
    freshName name method.parameterNames ∈
        method.parameters.map (fun parameter => identifier parameter.name) ↔
      "@" ++ freshName name method.parameterNames ∈ method.parameterNames := by
  have fresh := freshName_not_mem name method.parameterNames
  have head : (freshName name method.parameterNames).toList.head? ≠ some '@' := by
    rw [head?_freshName nonempty]
    exact plain
  rw [List.mem_map]
  constructor
  · rintro ⟨parameter, mem, same⟩
    have given : parameter.name ∈ method.parameterNames := List.mem_map_of_mem mem
    rcases (identifier_eq_iff head).1 same with same | escaped
    · rw [same] at given
      exact absurd given fresh
    · rwa [escaped] at given
  · intro escaped
    obtain ⟨parameter, mem, same⟩ := List.mem_map.1 escaped
    exact ⟨parameter, mem, (identifier_eq_iff head).2 (.inr same)⟩

/-- A fresh name that is added to those of the parameters, in front or behind. -/
theorem nodup_cons_freshName_iff {name : String} (nonempty : name ≠ "")
    (plain : name.toList.head? ≠ some '@') :
    (identifier (freshName name method.parameterNames) ::
        method.parameters.map fun parameter => identifier parameter.name).Nodup ↔
      method.NamesApart ∧
        "@" ++ freshName name method.parameterNames ∉ method.parameterNames := by
  have head : (freshName name method.parameterNames).toList.head? ≠ some '@' := by
    rw [head?_freshName nonempty]
    exact plain
  rw [(identifier_eq_iff head).2 (.inl rfl), List.nodup_cons,
    freshName_mem_identifiers_iff nonempty plain, and_comm]
  rfl

theorem namesApart_cancellable_iff :
    CSharp.NamesApart (method.cancellable settings).parameters ↔
      method.NamesApart ∧ "@" ++ method.tokenName ∉ method.parameterNames := by
  have written : (method.cancellable settings).parameters.map (·.name) =
      method.writtenNames ++ [method.tokenName] := names_cancellable
  have names : ((method.cancellable settings).parameters.map fun param => identifier param.name) =
      (method.parameters.map fun parameter => identifier parameter.name) ++
        [identifier method.tokenName] := by
    rw [← identifiers_writtenNames, ← List.map_singleton, ← List.map_append, ← written,
      List.map_map]
    rfl
  rw [CSharp.NamesApart, names, (List.perm_append_singleton _ _).nodup_iff]
  exact nodup_cons_freshName_iff (by decide) (by decide)

theorem namesApart_delegate_iff (interfaceName : String) :
    CSharp.NamesApart (method.delegate interfaceName).parameters ↔
      method.NamesApart ∧ "@" ++ freshName "sender" method.parameterNames ∉
        method.parameterNames := by
  have names : ((method.delegate interfaceName).parameters.map fun param => identifier param.name) =
      identifier (freshName "sender" method.parameterNames) ::
        method.parameters.map fun parameter => identifier parameter.name := by
    rw [delegate, List.map_cons, ← identifiers_writtenNames, writtenNames, List.map_map,
      List.map_map]
    rfl
  rw [CSharp.NamesApart, names]
  exact nodup_cons_freshName_iff (by decide) (by decide)

/-- A parameter that is added to those of the method: it has the wanted name, with as few
underscores behind it as make it different from all of theirs as a text. -/
structure IsAdded (wanted : String) (method : Signature) (added : Param) : Prop where
  fresh : added.name ∉ method.parameterNames
  least : ∃ count, added.name = underscored wanted count ∧
    ∀ fewer < count, underscored wanted fewer ∈ method.parameterNames

theorem isAdded_freshName {wanted : String} {added : Param}
    (h : added.name = freshName wanted method.parameterNames) : method.IsAdded wanted added where
  fresh := by
    rw [h]
    exact freshName_not_mem wanted method.parameterNames
  least := by
    rw [h]
    exact exists_freshName_eq wanted method.parameterNames

theorem IsAdded.name_eq {wanted : String} {added : Param} {count : Nat}
    (h : method.IsAdded wanted added) (free : underscored wanted count ∉ method.parameterNames)
    (taken : ∀ fewer < count, underscored wanted fewer ∈ method.parameterNames) :
    added.name = underscored wanted count := by
  obtain ⟨least, eq, takenBefore⟩ := h.least
  have fresh := h.fresh
  rw [eq] at fresh ⊢
  rcases Nat.lt_trichotomy least count with less | same | more
  · exact absurd (taken least less) fresh
  · rw [same]
  · exact absurd (takenBefore count more) free

end Signature

namespace Stub

/-- **If no two parameters of a method have the same identifier, then the same holds with the token
behind them and with the sender in front of them, if and only if no parameter has the name of the
token, respectively of the sender, behind an at sign.** -/
theorem added_names_apart_iff (settings : Settings) (stub : Stub) {unit : CompilationUnit}
    (written : stub.lower settings = .ok unit) :
    ∃ classType interfaceType, unit.types = [classType, interfaceType] ∧
      (∀ (i : Nat) (method : Signature), (stub.methods .outgoing)[i]? = some method →
        ∃ cancellable declaration front token, classType.methods[2 * i + 1]? = some cancellable ∧
          interfaceType.methods[i]? = some declaration ∧
          declaration.parameters = cancellable.parameters ∧
          cancellable.parameters = front ++ [token] ∧
          method.IsAdded "cancellationToken" token ∧
          (CSharp.NamesApart cancellable.parameters ↔
            method.NamesApart ∧ "@" ++ token.name ∉ method.parameterNames)) ∧
      ∀ (i : Nat) (method : Signature), (stub.methods .incoming)[i]? = some method →
        ∃ delegate sender behind, interfaceType.delegates[i]? = some delegate ∧
          delegate.parameters = sender :: behind ∧ method.IsAdded "sender" sender ∧
          (CSharp.NamesApart delegate.parameters ↔
            method.NamesApart ∧ "@" ++ sender.name ∉ method.parameterNames) := by
  obtain ⟨-, rfl⟩ := lower_eq_ok_iff.1 written
  refine ⟨_, _, rfl, ?outgoing, ?incoming⟩
  case outgoing =>
    intro i method h
    refine ⟨method.cancellable settings, method.declaration settings, _, _, ?_, ?_, rfl, rfl,
      Signature.isAdded_freshName rfl, Signature.namesApart_cancellable_iff⟩
    · exact cancellable_classDecl h
    · exact declaration_interfaceDecl h
  case incoming =>
    intro i method h
    refine ⟨method.delegate stub.interfaceName, _, _, ?_, rfl,
      Signature.isAdded_freshName rfl, Signature.namesApart_delegate_iff _⟩
    exact delegate_interfaceDecl h

/-- A client with parameters that have the names of those that are added. -/
def namesakes : Stub where
  className := "Client"
  containingNamespace := ""
  visibility := .isPublic
  outgoing :=
    [⟨"IOut", [⟨"stop", .nothing, [⟨"bool", "cancellationToken", false, none, false⟩,
      ⟨"bool", "@cancellationToken__", false, none, false⟩]⟩]⟩]
  incoming := [⟨"IIn", [⟨"moved", .nothing, [⟨"object", "sender", false, none, false⟩]⟩]⟩]

theorem added_names_apart_namesakes :
    namesakes.lower {} = .ok (namesakes.compilationUnit {}) ∧
      ∃ classType interfaceType, (namesakes.compilationUnit {}).types = [classType, interfaceType] ∧
        (∃ cancellable, classType.methods[1]? = some cancellable ∧
          CSharp.NamesApart cancellable.parameters) ∧
        ∃ delegate, interfaceType.delegates[0]? = some delegate ∧
          CSharp.NamesApart delegate.parameters := by
  have written : namesakes.lower {} = .ok (namesakes.compilationUnit {}) :=
    lower_eq_ok_iff.2 ⟨by decide +kernel, rfl⟩
  obtain ⟨classType, interfaceType, types, outgoing, incoming⟩ :=
    added_names_apart_iff {} namesakes written
  obtain ⟨cancellable, -, -, token, atMethod, -, -, -, added, apart⟩ := outgoing 0 _ rfl
  obtain ⟨delegate, sender, -, atDelegate, -, addedSender, apartSender⟩ := incoming 0 _ rfl
  have tokenName : token.name = underscored "cancellationToken" 1 :=
    added.name_eq (by decide) (by decide)
  have senderName : sender.name = underscored "sender" 1 :=
    addedSender.name_eq (by decide) (by decide)
  refine ⟨written, classType, interfaceType, types,
    ⟨cancellable, atMethod, apart.2 ⟨by decide, ?_⟩⟩,
    ⟨delegate, atDelegate, apartSender.2 ⟨by decide, ?_⟩⟩⟩
  · rw [tokenName]
    decide
  · rw [senderName]
    decide

/-- A client with parameters that have the names of those that are added behind an at sign. -/
def escapedNamesakes : Stub where
  className := "C"
  containingNamespace := ""
  visibility := .isPublic
  outgoing :=
    [⟨"IOut", [⟨"send", .nothing, [⟨"string", "@cancellationToken", false, none, false⟩]⟩]⟩]
  incoming := [⟨"IIn", [⟨"greet", .nothing, [⟨"string", "@sender", false, none, false⟩]⟩]⟩]

/-- The checks pass although the added parameters have the identifiers of the others. -/
theorem not_added_names_apart_escapedNamesakes :
    escapedNamesakes.clashes = [] ∧
      escapedNamesakes.lower {} = .ok (escapedNamesakes.compilationUnit {}) ∧
      (∃ method ∈ escapedNamesakes.methods .outgoing, method.NamesApart ∧
        ¬ CSharp.NamesApart (method.cancellable {}).parameters) ∧
      ∃ method ∈ escapedNamesakes.methods .incoming, method.NamesApart ∧
        ¬ CSharp.NamesApart (method.delegate escapedNamesakes.interfaceName).parameters := by
  refine ⟨by decide, lower_eq_ok_iff.2 ⟨by decide +kernel, rfl⟩,
    ⟨_, List.mem_singleton.2 rfl, by decide, ?_⟩, _, List.mem_singleton.2 rfl, by decide, ?_⟩
  · rw [Signature.namesApart_cancellable_iff, Signature.tokenName, freshName_of_not_mem (by decide)]
    decide
  · rw [Signature.namesApart_delegate_iff, freshName_of_not_mem (by decide)]
    decide

end Stub

end TypedHub
