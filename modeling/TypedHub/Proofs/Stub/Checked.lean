import TypedHub.Proofs.CSharp.Plain
import TypedHub.Proofs.Steps
import TypedHub.Proofs.Stub.Bodies

/-!
# What the check of names establishes

A stub whose names are accepted has identifiers and type names throughout, so all texts that its
source takes over from the contracts are plain.
-/

namespace TypedHub

open CSharp

/-! ## One name -/

theorem checkIdentifier_eq_ok_iff {nameUse : NameUse} {name : String} :
    checkIdentifier nameUse name = .ok () ↔ isIdentifier name.toList = true := by
  unfold checkIdentifier
  split <;> simp_all

theorem checkTypeName_eq_ok_iff {name : String} :
    checkTypeName name = .ok () ↔ isTypeName name.toList = true := by
  unfold checkTypeName
  split <;> simp_all

/-! ## The parts of a stub -/

/-- A method whose texts are plain. The defaults of its parameters are literals and not names, so
they are another matter. -/
structure Signature.IsPlain (method : Signature) : Prop where
  name : Plain method.name
  result : Plain method.result.text
  parameters : ∀ parameter ∈ method.parameters, Plain parameter.name ∧ Plain parameter.type

/-- A stub whose names and types are plain. -/
structure Stub.IsPlain (stub : Stub) : Prop where
  className : Plain stub.className
  containingNamespace : Plain stub.containingNamespace
  contracts : ∀ role, ∀ contract ∈ stub.contracts role, Plain contract.name
  methods : ∀ role, ∀ method ∈ stub.methods role, method.IsPlain

theorem Result.plain_text {result : Result} (h : result.check = .ok ()) : Plain result.text := by
  cases result with
  | nothing => exact plain_of_spelled rfl (by decide)
  | type name => exact plain_of_isTypeName (checkTypeName_eq_ok_iff.1 h)

theorem Parameter.plain_of_check {parameter : Parameter} (h : parameter.check = .ok ()) :
    Plain parameter.name ∧ Plain parameter.type := by
  obtain ⟨name, type⟩ := check_bind_eq_ok_iff.1 h
  exact ⟨plain_of_isIdentifier (checkIdentifier_eq_ok_iff.1 name),
    plain_of_isTypeName (checkTypeName_eq_ok_iff.1 type)⟩

theorem Signature.isPlain_of_check {method : Signature} (h : method.check = .ok ()) :
    method.IsPlain := by
  obtain ⟨name, rest⟩ := check_bind_eq_ok_iff.1 h
  obtain ⟨result, parameters⟩ := check_bind_eq_ok_iff.1 rest
  exact
    { name := plain_of_isIdentifier (checkIdentifier_eq_ok_iff.1 name)
      result := Result.plain_text result
      parameters := fun parameter mem =>
        Parameter.plain_of_check (forM_eq_ok_iff.1 parameters parameter mem) }

theorem Signature.isIdentifier_of_check {method : Signature} (h : method.check = .ok ()) :
    ∀ name ∈ method.name :: method.parameterNames, isIdentifier name.toList = true := by
  obtain ⟨name, rest⟩ := check_bind_eq_ok_iff.1 h
  have parameters := forM_eq_ok_iff.1 (check_bind_eq_ok_iff.1 rest).2
  refine List.forall_mem_cons.2 ⟨checkIdentifier_eq_ok_iff.1 name, List.forall_mem_map.2 ?_⟩
  intro parameter mem
  exact checkIdentifier_eq_ok_iff.1 (check_bind_eq_ok_iff.1 (parameters parameter mem)).1

namespace Stub

variable {stub : Stub}

theorem plain_of_checkRole {role : Role} (h : stub.checkRole role = .ok ()) :
    (∀ contract ∈ stub.contracts role, Plain contract.name) ∧
      ∀ method ∈ stub.methods role, method.IsPlain := by
  obtain ⟨contracts, methods⟩ := check_bind_eq_ok_iff.1 h
  refine ⟨fun contract mem => ?_, fun method mem => ?_⟩
  · exact plain_of_isTypeName (checkTypeName_eq_ok_iff.1 (forM_eq_ok_iff.1 contracts contract mem))
  · exact Signature.isPlain_of_check (forM_eq_ok_iff.1 methods method mem)

theorem checkNames_eq_ok_iff :
    stub.checkNames = .ok () ↔
      isIdentifier stub.className.toList = true ∧
        (stub.containingNamespace ≠ "" → checkNamespace stub.containingNamespace = .ok ()) ∧
        ∀ role, stub.checkRole role = .ok () := by
  have roles : (∀ role, stub.checkRole role = .ok ()) ↔
      stub.checkRole .outgoing = .ok () ∧ stub.checkRole .incoming = .ok () := by
    refine ⟨fun all => ⟨all _, all _⟩, fun ⟨outgoing, incoming⟩ role => ?_⟩
    cases role with
    | incoming => exact incoming
    | outgoing => exact outgoing
  rw [roles, checkNames, check_bind_eq_ok_iff, checkIdentifier_eq_ok_iff]
  refine and_congr_right fun _ => ?_
  by_cases empty : stub.containingNamespace = ""
  · rw [if_neg (not_not.2 empty)]
    simp only [check_bind_eq_ok_iff, empty, ne_eq, not_true_eq_false, false_imp_iff, true_and]
  · rw [if_pos empty]
    simp only [check_bind_eq_ok_iff, empty, ne_eq, not_false_eq_true, true_imp_iff]

/-- The names of methods and of their parameters are identifiers. -/
theorem isIdentifier_of_mem_methods (h : stub.checkNames = .ok ()) {role : Role}
    {method : Signature} (mem : method ∈ stub.methods role) :
    ∀ name ∈ method.name :: method.parameterNames, isIdentifier name.toList = true := by
  have checked := (check_bind_eq_ok_iff.1 ((checkNames_eq_ok_iff.1 h).2.2 role)).2
  exact Signature.isIdentifier_of_check (forM_eq_ok_iff.1 checked method mem)

/-- **A stub whose names are accepted is plain.** -/
theorem isPlain_of_checkNames (h : stub.checkNames = .ok ()) : stub.IsPlain := by
  obtain ⟨className, segments, roles⟩ := checkNames_eq_ok_iff.1 h
  refine ⟨plain_of_isIdentifier className, ?_, ?_, ?_⟩
  · by_cases empty : stub.containingNamespace = ""
    · rw [empty]
      exact plain_of_spelled rfl (by decide)
    · exact plain_of_parts fun part mem =>
        checkIdentifier_eq_ok_iff.1 (forM_eq_ok_iff.1 (segments empty) part mem)
  · exact fun role => (plain_of_checkRole (roles role)).1
  · exact fun role => (plain_of_checkRole (roles role)).2

end Stub

/-! ## The transport -/

/-- The names of a transport. -/
def Transport.names (transport : Transport) : List String :=
  [transport.connectionType, transport.invoke, transport.subscribe, transport.cancellationType,
    transport.neverCancel, transport.connectionProperty]

/-- A transport whose names are plain. They are settings, which no check looks at. -/
structure Transport.IsPlain (transport : Transport) : Prop where
  connectionType : Plain transport.connectionType
  invoke : Plain transport.invoke
  subscribe : Plain transport.subscribe
  cancellationType : Plain transport.cancellationType
  neverCancel : Plain transport.neverCancel
  connectionProperty : Plain transport.connectionProperty

theorem Transport.isPlain_of_isTypeNamePart {transport : Transport}
    (h : ∀ name ∈ transport.names, ∀ c ∈ name.toList, isTypeNamePart c = true) :
    transport.IsPlain := by
  have plain : ∀ name ∈ transport.names, Plain name := fun name mem c among =>
    not_structural_of_isTypeNamePart (h name mem c among)
  simp only [names, List.forall_mem_cons] at plain
  obtain ⟨connectionType, invoke, subscribe, cancellationType, neverCancel, property, -⟩ := plain
  exact ⟨connectionType, invoke, subscribe, cancellationType, neverCancel, property⟩

/-! ## Names and types that are made of others -/

theorem plain_freshName {name : String} (plain : Plain name) (taken : List String) :
    Plain (freshName name taken) := by
  obtain ⟨count, eq⟩ := toList_freshName name taken
  rw [Plain, eq]
  refine List.forall_mem_append.2 ⟨plain, fun c mem => ?_⟩
  rw [List.eq_of_mem_replicate mem]
  decide

theorem plain_markedType {parameter : Parameter} (plain : Plain parameter.type) :
    Plain parameter.markedType := by
  unfold Parameter.markedType
  split
  · exact plain_append_iff.2 ⟨plain, plain_of_spelled rfl (by decide)⟩
  · exact plain

theorem code_mem_of_ofNat_mem {code : Nat} (mem : Char.ofNat code ∈ structural) :
    code ∈ structural.map Char.toNat := by
  by_cases valid : code.isValidChar
  · rw [Char.ofNat, dif_pos valid] at mem
    exact List.mem_map_of_mem mem
  · rw [Char.ofNat, dif_neg valid] at mem
    exact absurd mem (by decide)

/-- No uppercase form has the code of a structural character, unless the character is one itself. -/
theorem not_structural_of_mem_uppercase {c d : Char} (h : c ∉ structural)
    (mem : d ∈ Unicode.uppercase c) : d ∉ structural := by
  obtain ⟨code, among, rfl⟩ := List.mem_map.1 mem
  rw [Unicode.uppercaseCodes] at among
  split at among
  · next run found =>
    have apart : ∀ run ∈ Unicode.uppercaseRuns, ∀ code ∈ structural.map Char.toNat,
        ¬ (run.upper ≤ code ∧ code ≤ run.upper + (run.last - run.first)) := by decide +kernel
    have contained := List.find?_some found
    simp only [Unicode.UppercaseRun.contains, Bool.and_eq_true, decide_eq_true_eq] at contained
    intro structured
    refine apart run (List.mem_of_find?_eq_some found) code (code_mem_of_ofNat_mem structured) ?_
    rw [List.mem_singleton.1 among]
    omega
  · cases found : Unicode.uppercaseExpansions.lookup c.toNat with
    | none =>
      rw [found, Option.getD_none, List.mem_singleton] at among
      rwa [among, Char.ofNat_toNat]
    | some expansion =>
      have apart : ∀ pair ∈ Unicode.uppercaseExpansions, ∀ code ∈ pair.2,
          code ∉ structural.map Char.toNat := by decide +kernel
      obtain ⟨before, behind, split, -⟩ := List.lookup_eq_some_iff.1 found
      have listed : (c.toNat, expansion) ∈ Unicode.uppercaseExpansions := by
        rw [split]
        exact List.mem_append_right _ List.mem_cons_self
      rw [found, Option.getD_some] at among
      exact mt code_mem_of_ofNat_mem (apart _ listed code among)

theorem plain_handlerName {name : String} (plain : Plain name) : Plain (handlerName name) := by
  have word : ∀ c ∈ "Handler".toList, c ∉ structural := forall_mem_of_all (by decide)
  refine plain_ofList ?_
  cases chars : name.toList with
  | nil => exact word
  | cons first rest =>
    rw [Plain, chars, List.forall_mem_cons] at plain
    refine List.forall_mem_append.2 ⟨List.forall_mem_append.2 ⟨fun c mem => ?_, plain.2⟩, word⟩
    exact not_structural_of_mem_uppercase plain.1 mem

theorem Awaitable.plain_text (kind : Awaitable) : Plain kind.text := by
  cases kind with
  | task => exact plain_of_spelled rfl (by decide)
  | valueTask => exact plain_of_spelled rfl (by decide)

theorem Visibility.plain_modifier (visibility : Visibility) : Plain visibility.modifier := by
  cases visibility <;> exact plain_of_spelled rfl (by decide)

/-- What an awaitable results in is a part of its name. -/
theorem Completion.plain_of_ofAwaitable? {kind : Awaitable} {name : List Char} {result : String}
    {completion : Completion} (plain : ∀ c ∈ name, c ∉ structural)
    (found : ofAwaitable? kind name = some completion) (mem : completion.result? = some result) :
    Plain result := by
  unfold ofAwaitable? at found
  split at found
  · obtain rfl := Option.some.inj found
    exact nomatch mem
  · next rest split =>
    obtain ⟨inner, closed, rfl⟩ := Option.map_eq_some_iff.1 found
    obtain rfl := Option.some.inj mem
    rw [Text.behind?_eq_some_iff] at split
    rw [Text.before?_eq_some_iff] at closed
    refine plain_ofList fun c among => plain c ?_
    rw [split, closed]
    exact List.mem_append_right _ (List.mem_cons_of_mem _ (List.mem_append_left _ among))
  · exact nomatch found

/-- The type of a result is the declared type or a part of it. -/
theorem Completion.plain_result? {declared : Result} {result : String} (plain : Plain declared.text)
    (mem : (Completion.of declared).result? = some result) : Plain result := by
  cases declared with
  | nothing => exact nomatch mem
  | type name =>
    have bare : ∀ c ∈ (Text.behind? "global::".toList name.toList).getD name.toList,
        c ∉ structural := by
      cases found : Text.behind? "global::".toList name.toList with
      | none => exact plain
      | some rest =>
        rw [Text.behind?_eq_some_iff] at found
        exact fun c among => plain c (found ▸ List.mem_append_right _ among)
    rw [Completion.of] at mem
    generalize (Text.behind? "global::".toList name.toList).getD name.toList = bareName at bare mem
    cases task : ofAwaitable? .task bareName with
    | some completion =>
      rw [task] at mem
      exact plain_of_ofAwaitable? bare task mem
    | none =>
      cases valueTask : ofAwaitable? .valueTask bareName with
      | some completion =>
        rw [task, valueTask] at mem
        exact plain_of_ofAwaitable? bare valueTask mem
      | none =>
        rw [task, valueTask] at mem
        exact Option.some.inj mem ▸ plain

theorem Completion.plain_awaitedType {declared : Result} (plain : Plain declared.text) :
    Plain ((Completion.of declared).awaitedType declared) := by
  cases completion : Completion.of declared with
  | nothing => exact Awaitable.plain_text .task
  | awaitable _ | awaitableOf _ _ => exact plain
  | value type =>
    have result : Plain type := plain_result? plain (by rw [completion]; rfl)
    have opening : Plain "<" := plain_of_spelled rfl (by decide)
    have closing : Plain ">" := plain_of_spelled rfl (by decide)
    simp only [awaitedType, plain_append_iff]
    exact ⟨⟨⟨Awaitable.plain_text .task, opening⟩, result⟩, closing⟩

end TypedHub
