import TypedHub.Proofs.Stub.DefaultText
import TypedHub.Proofs.Stub.StoredTexts

/-!
# The statements and blocks of a source

The texts that the source of a stub takes over have no semicolons and braces outside of literals. So
the semicolons and braces of a source are those that the program itself writes, and how many there
are depends on the numbers of methods alone (`emit_hasShape`).

The line separator and the paragraph separator end lines but are not escaped in literals. They are
the only ends of lines that can get into one, and they do so from a default or from the identity of
the generator.
-/

namespace TypedHub

open CSharp

namespace Stub

variable {settings : Settings} {stub : Stub}

/-! ## Marks -/

/-- The property and the constructor have blocks; each outgoing method has two members without a
block, and each incoming one has an event and a statement of the constructor. -/
theorem marks_classDecl : (stub.classDecl settings).marks =
    '\x7b' :: (['\x7b', ';', '\x7d'] ++ (stub.methods .outgoing).flatMap (fun _ => [';', ';']) ++
      (stub.methods .incoming).flatMap (fun _ => [';']) ++
      ('\x7b' :: ';' :: (stub.methods .incoming).flatMap (fun _ => [';']) ++ ['\x7d'])) ++
      ['\x7d'] := by
  have statements : (stub.constructorBody settings).map (fun _ => ';') =
      ';' :: (stub.methods .incoming).flatMap fun _ => [';'] := by
    rw [constructorBody, List.map_cons, List.map_map, ← List.map_eq_flatMap]
    rfl
  have members : (stub.classMembers settings).flatMap Member.marks =
      ['\x7b', ';', '\x7d'] ++ (stub.methods .outgoing).flatMap (fun _ => [';', ';']) ++
        (stub.methods .incoming).flatMap (fun _ => [';']) ++
        ('\x7b' :: (stub.constructorBody settings).map (fun _ => ';') ++ ['\x7d']) := by
    rw [classMembers, List.flatMap_append, List.flatMap_append, List.flatMap_append,
      List.flatMap_singleton, List.flatMap_singleton, List.flatMap_assoc, List.flatMap_map]
    rfl
  rw [TypeDecl.marks, classDecl, members, statements]

/-- Each outgoing method is declared, and each incoming one has a delegate and an event. -/
theorem marks_interfaceDecl : (stub.interfaceDecl settings).marks =
    '\x7b' :: ((stub.methods .outgoing).flatMap (fun _ => [';']) ++
      (stub.methods .incoming).flatMap (fun _ => [';', ';'])) ++ ['\x7d'] := by
  have members : (stub.interfaceMembers settings).flatMap Member.marks =
      (stub.methods .outgoing).flatMap (fun _ => [';']) ++
        (stub.methods .incoming).flatMap (fun _ => [';', ';']) := by
    rw [interfaceMembers, List.flatMap_append, List.flatMap_map, List.flatMap_assoc]
    rfl
  rw [TypeDecl.marks, interfaceDecl, members]

theorem marks_compilationUnit : (stub.compilationUnit settings).marks =
    (if stub.containingNamespace = "" then [] else [';']) ++
      ((stub.classDecl settings).marks ++ (stub.interfaceDecl settings).marks) := by
  have types : (stub.compilationUnit settings).types.flatMap TypeDecl.marks =
      (stub.classDecl settings).marks ++ (stub.interfaceDecl settings).marks := by
    rw [compilationUnit, List.flatMap_cons, List.flatMap_singleton]
  rw [CompilationUnit.marks, types, compilationUnit]
  split <;> rfl

theorem count_semicolon : (stub.compilationUnit settings).marks.count ';' =
    2 + 3 * (stub.methods .outgoing).length + 4 * (stub.methods .incoming).length +
      if stub.containingNamespace = "" then 0 else 1 := by
  rw [marks_compilationUnit, marks_classDecl, marks_interfaceDecl]
  split <;> simp [List.count_flatMap, Function.comp_def] <;> omega

theorem count_brace : (stub.compilationUnit settings).marks.count '\x7b' = 4 ∧
    (stub.compilationUnit settings).marks.count '\x7d' = 4 := by
  rw [marks_compilationUnit, marks_classDecl, marks_interfaceDecl]
  split <;> simp [List.count_flatMap, Function.comp_def]

/-! ## The text -/

section Text

variable (plain : stub.IsPlain) (transport : settings.transport.IsPlain)
  (defaults : ∀ text ∈ stub.defaultTexts, Plain text ∨ ∃ value, text = stringLiteral value)

include plain transport defaults

theorem scans_compilationUnit :
    Scans (stub.compilationUnit settings).text (stub.compilationUnit settings).marks
      (stub.compilationUnit settings).pieces := by
  have quiet : ∀ text ∈ stub.valueLiterals settings, Quiet text := by
    refine List.forall_mem_append.2 ⟨?_, fun text mem => ?_⟩
    · exact List.forall_mem_cons.2
        ⟨quiet_stringLiteral _, List.forall_mem_singleton.2 (quiet_stringLiteral _)⟩
    · obtain plain | ⟨value, rfl⟩ := defaults text mem
      · exact plain.quiet
      · exact quiet_stringLiteral value
  exact CompilationUnit.scans fun piece mem =>
    (stored_compilationUnit plain (transport.isStored _) (fun _ => id) piece mem).quiet quiet

/-- An end of a line stands in a literal of the file if and only if it is one of the separators, and
stands in the identity of the generator or in an outgoing default. -/
theorem inLiteral_compilationUnit_iff {c : Char} (lineEnd : c ∈ lineEnds) :
    InLiteral c (stub.compilationUnit settings).text ↔ c ∈ separators ∧
      (c ∈ settings.generatorName.toList ∨ c ∈ settings.generatorVersion.toList ∨
        ∃ value, stringLiteral value ∈ stub.defaultTexts ∧ c ∈ value.toList) := by
  have contains {text : String} (mem : text ∈ stub.valueLiterals settings) (h : InLiteral c text) :
      InLiteral c (stub.compilationUnit settings).text :=
    ((scans_compilationUnit plain transport defaults).inLiteral_iff c).2
      ⟨text, valueLiterals_subset text mem, h⟩
  constructor
  · intro h
    obtain ⟨piece, mem, h⟩ :=
      ((scans_compilationUnit plain transport defaults).inLiteral_iff c).1 h
    have stored := stored_compilationUnit plain (transport.isStored _) (fun _ => id) piece mem
    have among := stored.mem_of_inLiteral lineEnd h
    obtain identity | default := List.mem_append.1 among
    · obtain rfl | rfl := List.mem_pair.1 identity
      · obtain ⟨separator, mem⟩ := (inLiteral_stringLiteral_iff lineEnd _).1 h
        exact ⟨separator, .inl mem⟩
      · obtain ⟨separator, mem⟩ := (inLiteral_stringLiteral_iff lineEnd _).1 h
        exact ⟨separator, .inr (.inl mem)⟩
    · obtain plain | ⟨value, rfl⟩ := defaults piece default
      · exact absurd h (plain.not_inLiteral c)
      · obtain ⟨separator, mem⟩ := (inLiteral_stringLiteral_iff lineEnd _).1 h
        exact ⟨separator, .inr (.inr ⟨value, default, mem⟩)⟩
  · rintro ⟨separator, mem | mem | ⟨value, default, mem⟩⟩
    · exact contains (List.mem_append_left _ List.mem_cons_self)
        ((inLiteral_stringLiteral_iff lineEnd _).2 ⟨separator, mem⟩)
    · exact contains (List.mem_append_left _ (List.mem_cons_of_mem _ List.mem_cons_self))
        ((inLiteral_stringLiteral_iff lineEnd _).2 ⟨separator, mem⟩)
    · exact contains (List.mem_append_right _ default)
        ((inLiteral_stringLiteral_iff lineEnd _).2 ⟨separator, mem⟩)

end Text

/-! ## Sources of declarations -/

theorem defaultTexts_ofDeclaration (compilation : Metadata.Compilation)
    (declaration : Declaration) :
    ∀ text ∈ (ofDeclaration compilation declaration).defaultTexts,
      Plain text ∨ ∃ value, text = stringLiteral value := by
  intro text mem
  obtain ⟨method, outgoing, mem⟩ := List.mem_flatMap.1 mem
  obtain ⟨parameter, mem, given⟩ := List.mem_filterMap.1 mem
  obtain ⟨contract, reached, declared⟩ := List.mem_flatMap.1 outgoing
  obtain ⟨type, -, rfl⟩ := List.mem_map.1 reached
  obtain ⟨methodSymbol, -, rfl⟩ := List.mem_map.1 declared
  obtain ⟨parameterSymbol, -, rfl⟩ := List.mem_map.1 mem
  exact plain_or_eq_stringLiteral_of_defaultText given

/-- The statements, the blocks and the literals in the source of a stub. -/
structure HasShape (settings : Settings) (stub : Stub) (text : String) : Prop where
  semicolons : (marks text).count ';' =
    2 + 3 * (stub.methods .outgoing).length + 4 * (stub.methods .incoming).length +
      if stub.containingNamespace = "" then 0 else 1
  openBraces : (marks text).count '\x7b' = 4
  closeBraces : (marks text).count '\x7d' = 4
  nested : Nested (marks text)
  closed : Closed text
  /-- A line ends in a literal only by a separator that the identity of the generator or an outgoing
  default brings along. -/
  inLiteral_iff : ∀ c ∈ lineEnds, InLiteral c text ↔ c ∈ separators ∧
    (c ∈ settings.generatorName.toList ∨ c ∈ settings.generatorVersion.toList ∨
      ∃ value, stringLiteral value ∈ stub.defaultTexts ∧ c ∈ value.toList)

/-- All literals are closed on their lines if and only if no value has a separator. -/
theorem HasShape.closesOnLine_iff {text : String} (shape : HasShape settings stub text) :
    ClosesOnLine text ↔ ∀ c ∈ separators, c ∉ settings.generatorName.toList ∧
      c ∉ settings.generatorVersion.toList ∧
      ∀ value, stringLiteral value ∈ stub.defaultTexts → c ∉ value.toList := by
  have ends : ∀ c ∈ separators, c ∈ lineEnds := forall_mem_of_all (by decide)
  constructor
  · intro ⟨_, apart⟩ c separator
    have none := mt (shape.inLiteral_iff c (ends c separator)).2 (apart c (ends c separator))
    refine ⟨fun mem => none ⟨separator, .inl mem⟩, fun mem => none ⟨separator, .inr (.inl mem)⟩, ?_⟩
    exact fun value default mem => none ⟨separator, .inr (.inr ⟨value, default, mem⟩)⟩
  · refine fun free => ⟨shape.closed, fun c lineEnd h => ?_⟩
    obtain ⟨separator, mem | mem | ⟨value, default, mem⟩⟩ := (shape.inLiteral_iff c lineEnd).1 h
    · exact (free c separator).1 mem
    · exact (free c separator).2.1 mem
    · exact (free c separator).2.2 value default mem

theorem hasShape_compilationUnit (plain : stub.IsPlain)
    (transport : settings.transport.IsPlain)
    (defaults : ∀ text ∈ stub.defaultTexts, Plain text ∨ ∃ value, text = stringLiteral value) :
    HasShape settings stub (stub.compilationUnit settings).text := by
  have scans := scans_compilationUnit plain transport defaults
  exact
    { semicolons := by rw [scans.marks_eq, count_semicolon]
      openBraces := by rw [scans.marks_eq, count_brace.1]
      closeBraces := by rw [scans.marks_eq, count_brace.2]
      nested := by
        rw [scans.marks_eq]
        exact CompilationUnit.nested_marks _
      closed := scans.closed
      inLiteral_iff := fun c => inLiteral_compilationUnit_iff plain transport defaults }

/-- **No metadata adds a statement or a block to a source. How many semicolons and braces it has
outside of its literals depends on the numbers of methods alone, every literal is closed, and the
only ends of lines that can stand in one are the separators of a default or of the identity of the
generator.** -/
theorem emit_hasShape (settings : Settings)
    (names : ∀ name ∈ settings.transport.names, ∀ c ∈ name.toList, isTypeNamePart c = true)
    (compilation : Metadata.Compilation) (declaration : Declaration) {text : String}
    (written : (ofDeclaration compilation declaration).emit settings = .ok text) :
    HasShape settings (ofDeclaration compilation declaration) text := by
  obtain ⟨checked, rfl⟩ := emit_eq_ok_iff.1 written
  exact hasShape_compilationUnit (isPlain_of_checkNames checked)
    (Transport.isPlain_of_isTypeNamePart names)
    (defaultTexts_ofDeclaration compilation declaration)

/-- An interface with a method whose parameter has the given default. -/
def sending (default : String) : Metadata.TypeSymbol where
  kind := .interfaceType
  name := "IOut"
  containingNamespace := ""
  accessibility := .isPublic
  bases := []
  methods :=
    [⟨"Send", true, none, [⟨"string", "text", false, true, some (.string default), false⟩]⟩]
  attributes := []

/-- A marked class that sends what the interface declares. -/
def sender : Declaration where
  symbol :=
    { kind := .classType, name := "Sender", containingNamespace := "", accessibility := .isPublic
      bases := [], methods := []
      attributes :=
        [⟨"HubStubs.GenerateHubClientAttribute", [("Outgoing", .array [.string "IOut"])]⟩] }
  marker := ⟨"HubStubs.GenerateHubClientAttribute", [("Outgoing", .array [.string "IOut"])]⟩

theorem ofDeclaration_sender (default : String) :
    ofDeclaration ⟨[sender.symbol, sending default]⟩ sender =
      { className := "Sender", containingNamespace := "", visibility := .isPublic
        outgoing :=
          [⟨"IOut", [⟨"Send", .nothing,
            [⟨"string", "text", false, some (stringLiteral default), false⟩]⟩]⟩]
        incoming := [] } := by
  have found : (⟨[sender.symbol, sending default]⟩ : Metadata.Compilation).interface? "IOut" =
      some (sending default) := by rfl
  have walked : walk ⟨[sender.symbol, sending default]⟩ [] ["IOut"] = [sending default] := by
    rw [walk, dif_neg List.not_mem_nil]
    split
    · next missing => exact absurd (found.symm.trans missing) (Option.some_ne_none _)
    · next same =>
      obtain rfl := Option.some.inj (found.symm.trans same)
      change sending default :: walk _ _ [] = _
      rw [walk]
  have roots : sender.roots .outgoing = ["IOut"] := by decide
  rw [ofDeclaration, roots, Contract.reachable, walked]
  have none : sender.roots .incoming = [] := by decide
  rw [none, Contract.reachable, walk]
  rfl

theorem defaultTexts_sender (default : String) :
    (ofDeclaration ⟨[sender.symbol, sending default]⟩ sender).defaultTexts =
      [stringLiteral default] := by
  rw [ofDeclaration_sender]
  rfl

/-- The names of the transport that sources are written for unless told otherwise. -/
theorem isTypeNamePart_transport : ∀ name ∈ ({} : Settings).transport.names, ∀ c ∈ name.toList,
    isTypeNamePart c = true := by
  have name {text : String} {chars : List Char} (spelled : text = String.ofList chars)
      (h : chars.all (fun c => decide (isTypeNamePart c = true)) = true) :
      ∀ c ∈ text.toList, isTypeNamePart c = true := forall_mem_of_spelled spelled h
  simp only [Transport.names, List.forall_mem_cons]
  exact ⟨name rfl (by decide +kernel), name rfl (by decide +kernel), name rfl (by decide +kernel),
    name rfl (by decide +kernel), name rfl (by decide +kernel), name rfl (by decide +kernel),
    List.forall_mem_nil _⟩

theorem emit_hasShape_sender :
    (∀ name ∈ ({} : Settings).transport.names, ∀ c ∈ name.toList, isTypeNamePart c = true) ∧
      ∃ text, (ofDeclaration ⟨[sender.symbol, sending "\"; \x7d"]⟩ sender).emit {} = .ok text ∧
        (marks text).count ';' = 5 ∧ (marks text).count '\x7b' = 4 ∧
        (marks text).count '\x7d' = 4 ∧ Nested (marks text) ∧ ClosesOnLine text := by
  have checked :
      (ofDeclaration ⟨[sender.symbol, sending "\"; \x7d"]⟩ sender).checkNames = .ok () := by
    rw [ofDeclaration_sender]
    rfl
  have written : (ofDeclaration ⟨[sender.symbol, sending "\"; \x7d"]⟩ sender).emit {} = .ok _ :=
    emit_eq_ok_iff.2 ⟨checked, rfl⟩
  have shape := emit_hasShape {} isTypeNamePart_transport _ _ written
  have apart : ∀ c ∈ separators, c ∉ programName.toList ∧ c ∉ programVersion.toList ∧
      c ∉ "\"; \x7d".toList := forall_mem_of_all (by decide)
  refine ⟨isTypeNamePart_transport, _, written, ?_, shape.openBraces, shape.closeBraces,
    shape.nested, shape.closesOnLine_iff.2 fun c separator => ?_⟩
  · rw [shape.semicolons, ofDeclaration_sender]
    rfl
  · obtain ⟨name, version, outside⟩ := apart c separator
    refine ⟨name, version, fun value default mem => outside ?_⟩
    rw [defaultTexts_sender, List.mem_singleton] at default
    have lineEnd : c ∈ lineEnds := by
      have ends : ∀ c ∈ separators, c ∈ lineEnds := forall_mem_of_all (by decide)
      exact ends c separator
    have inside := (inLiteral_stringLiteral_iff lineEnd value).2 ⟨separator, mem⟩
    rw [default] at inside
    exact ((inLiteral_stringLiteral_iff lineEnd _).1 inside).2

/-- The default of a parameter ends the line on which its literal begins. -/
theorem not_closesOnLine_emit_sender :
    declarations sender.marker.name ⟨[sender.symbol, sending "a\u2028b"]⟩ = [sender] ∧
      ∃ text, (ofDeclaration ⟨[sender.symbol, sending "a\u2028b"]⟩ sender).emit {} = .ok text ∧
        ¬ ClosesOnLine text := by
  have checked :
      (ofDeclaration ⟨[sender.symbol, sending "a\u2028b"]⟩ sender).checkNames = .ok () := by
    rw [ofDeclaration_sender]
    rfl
  have transport := Transport.isPlain_of_isTypeNamePart isTypeNamePart_transport
  have shape := hasShape_compilationUnit (isPlain_of_checkNames checked) transport
    (defaultTexts_ofDeclaration _ _)
  refine ⟨by rfl, _, emit_eq_ok_iff.2 ⟨checked, rfl⟩, fun closes => ?_⟩
  obtain ⟨-, -, free⟩ := shape.closesOnLine_iff.1 closes '\u2028' List.mem_cons_self
  refine free "a\u2028b" ?_ (by decide)
  rw [defaultTexts_sender]
  exact List.mem_cons_self

end Stub

end TypedHub
