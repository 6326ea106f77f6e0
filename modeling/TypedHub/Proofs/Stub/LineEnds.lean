import TypedHub.Proofs.CSharp.Characters
import TypedHub.Proofs.Stub.DefaultText
import TypedHub.Proofs.Stub.StoredTexts
import TypedHub.Stub.Marker

/-!
# Ends of lines in sources

Three of the ends of lines are control characters, which are escaped in literals. Names and types
have none of them either, so they get into no row of a source, be it that of a stub
(`Stub.not_mem_rows`) or that of the marker attribute (`not_mem_markerUnit_rows`), unless the
transport brings them along.
-/

namespace TypedHub

open CSharp

/-- The ends of lines that are control characters. -/
def controlEnds : List Char := ['\n', '\r', '\u0085']

variable {c : Char}

theorem mem_structural_of_controlEnds (control : c ∈ controlEnds) : c ∈ structural := by
  have all : ∀ c ∈ controlEnds, c ∈ structural := forall_mem_of_all (by decide)
  exact all c control

theorem isPrintable_of_controlEnds (control : c ∈ controlEnds) : isPrintable c = false := by
  have all : ∀ c ∈ controlEnds, isPrintable c = false := forall_mem_of_all (by decide)
  exact all c control

theorem CSharp.Plain.not_mem {text : String} (plain : Plain text) (control : c ∈ controlEnds) :
    c ∉ text.toList := fun mem => plain c mem (mem_structural_of_controlEnds control)

/-- A literal escapes all control characters. -/
theorem not_mem_stringLiteral (control : c ∈ controlEnds) (value : String) :
    c ∉ (stringLiteral value).toList := by
  have apart : ∀ c ∈ controlEnds, c ∈ lineEnds ∧ c ∉ separators := forall_mem_of_all (by decide)
  obtain ⟨lineEnd, noSeparator⟩ := apart c control
  rw [mem_stringLiteral_iff lineEnd]
  exact fun mem => noSeparator mem.1

theorem Stored.not_mem {literals : List String} {text : String} (stored : Stored literals text)
    (control : c ∈ controlEnds) (h : ∀ literal ∈ literals, c ∉ literal.toList) :
    c ∉ text.toList := by
  cases stored with
  | plain plain => exact plain.not_mem control
  | key plain => exact not_mem_stringLiteral control _
  | literal mem => exact h text mem

/-- An end of a line that is in none of the texts of a unit is in none of its rows. -/
theorem not_mem_of_mem_rows {literals : List String} {unit : CompilationUnit}
    (stored : AllStored literals unit.pieces) (control : c ∈ controlEnds)
    (h : ∀ literal ∈ literals, c ∉ literal.toList) : ∀ row ∈ unit.rows, c ∉ row.text.toList :=
  fun _ mem => (CompilationUnit.drawn_of_mem_rows mem).not_mem (isPrintable_of_controlEnds control)
    fun piece among => (stored piece among).not_mem control h

theorem not_mem_identity (control : c ∈ controlEnds) (settings : Settings) :
    ∀ literal ∈ settings.identity, c ∉ literal.toList :=
  List.forall_mem_cons.2 ⟨not_mem_stringLiteral control _,
    List.forall_mem_singleton.2 (not_mem_stringLiteral control _)⟩

/-! ## Stubs -/

theorem Transport.isStored_names (transport : Transport) (literals : List String) :
    transport.IsStored (literals ++ transport.names) := by
  have all : ∀ name ∈ transport.names, Stored (literals ++ transport.names) name :=
    fun name mem => .literal (List.mem_append_right _ mem)
  simp only [names, List.forall_mem_cons] at all
  obtain ⟨connectionType, invoke, subscribe, cancellationType, neverCancel, property, -⟩ := all
  exact ⟨connectionType, invoke, subscribe, cancellationType, neverCancel, property⟩

/-- The rows of a stub have no ends of lines but those that the transport brings along. -/
theorem Stub.not_mem_rows {settings : Settings} {stub : Stub} (plain : stub.IsPlain)
    (defaults : ∀ text ∈ stub.defaultTexts, Plain text ∨ ∃ value, text = stringLiteral value)
    (control : c ∈ controlEnds) (transport : ∀ name ∈ settings.transport.names, c ∉ name.toList) :
    ∀ row ∈ (stub.compilationUnit settings).rows, c ∉ row.text.toList := by
  have stored := stored_compilationUnit plain (settings.transport.isStored_names _)
    fun text (mem : text ∈ stub.valueLiterals settings) => List.mem_append_left _ mem
  refine not_mem_of_mem_rows stored control (List.forall_mem_append.2 ⟨?_, transport⟩)
  refine List.forall_mem_append.2 ⟨not_mem_identity control settings, fun text mem => ?_⟩
  obtain plain | ⟨value, rfl⟩ := defaults text mem
  · exact plain.not_mem control
  · exact not_mem_stringLiteral control value

/-! ## The marker attribute -/

/-- The compilation unit of a marker attribute whose name can be written. -/
def markerUnit (settings : Settings) (marker : String) : CompilationUnit :=
  ⟨[autoGenerated], true, (splitLast marker).1, [markerDecl settings (splitLast marker).2]⟩

/-- What is checked before the source of the marker attribute is written. -/
theorem markerSource_eq_ok_iff {settings : Settings} {marker source : String} :
    markerSource settings marker = .ok source ↔
      isIdentifier (splitLast marker).2.toList = true ∧
        (∀ segments ∈ (splitLast marker).1, checkNamespace segments = .ok ()) ∧
        source = (markerUnit settings marker).text := by
  unfold markerSource markerUnit
  obtain ⟨fileNamespace, name⟩ := splitLast marker
  simp only [check_bind_eq_ok_iff, checkIdentifier_eq_ok_iff]
  refine and_congr_right fun _ => ?_
  cases fileNamespace with
  | none => simp [@eq_comm _ source]
  | some segments => simp [check_bind_eq_ok_iff, @eq_comm _ source]

section Marker

variable {settings : Settings} {marker source : String}

theorem plain_usageName {name : String} (plain : Plain name) : Plain (usageName name) := by
  unfold usageName
  split
  · next rest found =>
    rw [Text.before?_eq_some_iff] at found
    exact plain_ofList fun c mem => plain c (found ▸ List.mem_append_left _ mem)
  · exact plain

/-- The documentation takes over the name that is used between brackets, and nothing else. -/
theorem drawn_markerDocs (name : String) :
    ∀ doc ∈ markerDocs name, DrawnFrom [usageName name] doc := by
  simp only [markerDocs, List.forall_mem_cons, drawn_append_iff]
  have word {text : String} {chars : List Char} (spelled : text = String.ofList chars)
      (h : chars.all (fun c => decide (isPrintable c = true)) = true) :
      DrawnFrom [usageName name] text :=
    fun c mem => .inl (forall_mem_of_spelled spelled h c mem)
  exact ⟨word rfl (by decide), ⟨word rfl (by decide), word rfl (by decide)⟩, word rfl (by decide),
    ⟨⟨word rfl (by decide), drawn_self _⟩, word rfl (by decide)⟩, word rfl (by decide),
    word rfl (by decide), List.forall_mem_nil _⟩

section Stored

variable {literals : List String}

theorem stored_attributeUsage : AllStored literals attributeUsage.pieces :=
  .cons (stored_word rfl (by decide)) <| .cons (stored_word rfl (by decide)) <|
    .cons (stored_word rfl (by decide)) <| .cons (stored_word rfl (by decide)) <|
    .cons (stored_word rfl (by decide)) <| .single (stored_word rfl (by decide))

theorem stored_roleProperty (role : Role) {modifiers : List String} {initializer : Option Expr}
    (words : AllStored literals modifiers)
    (value : AllStored literals (optionPieces initializer)) :
    AllStored literals (roleProperty role modifiers initializer).pieces := by
  have visible : Stored literals "public" := stored_word rfl (by decide)
  have type : Stored literals "System.Type[]" := stored_word rfl (by decide)
  have name : Stored literals role.argumentName := by
    cases role <;> exact stored_word rfl (by decide)
  exact .append (.append .nil (.append (.cons visible words) (.cons type (.single name)))) value

theorem stored_markerDecl {name : String} (plain : Plain name)
    (identity : ∀ text ∈ settings.identity, text ∈ literals)
    (docs : ∀ doc ∈ markerDocs name, doc ∈ literals) :
    AllStored literals (markerDecl settings name).pieces := by
  have attributes :
      AllStored literals (attributePieces [[attributeUsage], memberAttributes settings]) :=
    (stored_attributeUsage.append .nil).append (stored_memberAttributes identity)
  have words : AllStored literals ["internal", "sealed", "class", name, "System.Attribute"] :=
    .cons (stored_word rfl (by decide)) <| .cons (stored_word rfl (by decide)) <|
      .cons (stored_word rfl (by decide)) <| .cons (.plain plain) <|
      .single (stored_word rfl (by decide))
  have required : AllStored literals ["required"] := .single (stored_word rfl (by decide))
  have empty : AllStored literals (optionPieces (some (.literal "[]"))) := by
    rw [optionPieces, Expr.pieces]
    exact .single (stored_word rfl (by decide))
  have documented : AllStored literals (markerDocs name) := fun doc mem => .literal (docs doc mem)
  refine .append ((documented.append attributes).append words) ?_
  exact (stored_roleProperty .incoming required .nil).append
    ((stored_roleProperty .outgoing .nil empty).append .nil)

/-- The texts of the marker attribute are its name, its namespace, its documentation and the
identity of the generator. -/
theorem stored_markerUnit (written : markerSource settings marker = .ok source)
    (identity : ∀ text ∈ settings.identity, text ∈ literals)
    (docs : ∀ doc ∈ markerDocs (splitLast marker).2, doc ∈ literals) :
    AllStored literals (markerUnit settings marker).pieces := by
  obtain ⟨identifier, segments, -⟩ := markerSource_eq_ok_iff.1 written
  have header : AllStored literals [autoGenerated] := .single (stored_word rfl (by decide))
  have namespaceName : AllStored literals (splitLast marker).1.toList := fun name mem => by
    have checked := forM_eq_ok_iff.1 (segments name (Option.mem_toList.1 mem))
    exact .plain (plain_of_parts fun part among => checkIdentifier_eq_ok_iff.1 (checked part among))
  have declared := stored_markerDecl (plain_of_isIdentifier identifier) identity docs
  exact (header.append namespaceName).append (declared.append .nil)

end Stored

/-- The rows of the marker attribute have no ends of lines. -/
theorem not_mem_markerUnit_rows (written : markerSource settings marker = .ok source)
    (control : c ∈ controlEnds) :
    ∀ row ∈ (markerUnit settings marker).rows, c ∉ row.text.toList := by
  have plain := plain_of_isIdentifier (markerSource_eq_ok_iff.1 written).1
  have stored : AllStored (settings.identity ++ markerDocs (splitLast marker).2) _ :=
    stored_markerUnit written (fun _ => List.mem_append_left _) fun _ => List.mem_append_right _
  refine not_mem_of_mem_rows stored control (List.forall_mem_append.2 ⟨?_, ?_⟩)
  · exact not_mem_identity control settings
  · have usage : ∀ text ∈ [usageName (splitLast marker).2], c ∉ text.toList :=
      List.forall_mem_singleton.2 ((plain_usageName plain).not_mem control)
    exact fun doc mem =>
      (drawn_markerDocs _ doc mem).not_mem (isPrintable_of_controlEnds control) usage

end Marker

end TypedHub
