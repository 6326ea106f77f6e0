import TypedHub.Proofs.CSharp.Tidy
import TypedHub.Proofs.Stub.LineEnds

/-!
# Sources are tidy

Whatever the rows of a source begin with is a word of the program itself, the name of a method, the
name of a type, or a name of the transport, and none of these begins with a space. So the sources of
stubs are tidy (`Stub.emit_tidy`), as long as the names of the transport are type names and the
defaults of parameters are written as they are for constants.
-/

namespace TypedHub

open CSharp

/-! ## Names -/

theorem not_mem_spaces_of_isTypeNameStart {c : Char} (h : isTypeNameStart c = true) :
    c ∉ spaces := by
  have none : ∀ c ∈ spaces, isTypeNameStart c = false := forall_mem_of_all (by decide +kernel)
  exact fun mem => absurd h (by rw [none c mem]; decide)

variable {name : String}

theorem begins_of_isTypeName (h : isTypeName name.toList = true) : Begins name := by
  unfold isTypeName at h
  split at h
  · cases h
  · next c rest chars =>
    simp only [Bool.and_eq_true] at h
    exact begins_of_toList chars (not_mem_spaces_of_isTypeNameStart h.1.1)

theorem begins_of_isIdentifier (h : isIdentifier name.toList = true) : Begins name := by
  have mark : isTypeNameStart '@' = true := by decide +kernel
  have first {c : Char} (start : isNameStart c = true) : isTypeNameStart c = true := by
    rw [isTypeNameStart, start, Bool.true_or]
  unfold isIdentifier at h
  split at h
  · next rest chars => exact begins_of_toList chars (not_mem_spaces_of_isTypeNameStart mark)
  · unfold isPlainIdentifier at h
    split at h
    · cases h
    · next c rest chars =>
      have start := first (Bool.and_eq_true_iff.1 h).1
      exact begins_of_toList chars (not_mem_spaces_of_isTypeNameStart start)

theorem begins_escapeKeyword (h : Begins name) : Begins (escapeKeyword name) := by
  unfold escapeKeyword
  split
  · have mark : Begins "@" := begins_of_spelled rfl (by decide)
    exact mark.append name
  · exact h

/-! ## Expressions -/

theorem begins_member {target : Expr} (tight : target.isLoose = false) (h : Begins target.text)
    (memberName : String) : Begins (Expr.member target memberName).text := by
  rw [Expr.text, tight, String.append_assoc]
  exact h.append _

theorem begins_call (callee : Expr) (tight : callee.isLoose = false) (h : Begins callee.text)
    (typeArguments : List String) (arguments : List Expr) :
    Begins (Expr.call callee typeArguments arguments).text := by
  rw [Expr.text, tight]
  simp only [String.append_assoc]
  exact h.append _

/-! ## Methods -/

theorem begins_public : Begins "public" := begins_of_spelled rfl (by decide)

theorem Result.begins_text {result : Result} (h : result.check = .ok ()) : Begins result.text := by
  cases result with
  | nothing => exact begins_of_spelled rfl (by decide)
  | type name => exact begins_of_isTypeName (checkTypeName_eq_ok_iff.1 h)

theorem Completion.begins_awaitedType {declared : Result} (h : Begins declared.text)
    (completion : Completion) : Begins (completion.awaitedType declared) := by
  have task : Begins Awaitable.task.text := begins_of_spelled rfl (by decide)
  cases completion with
  | nothing => exact task
  | awaitable _ | awaitableOf _ _ => exact h
  | value type =>
    simp only [awaitedType, String.append_assoc]
    exact task.append _

namespace Signature

variable {settings : Settings} {method : Signature}

theorem begins_forwardingCall (name : Begins method.name) :
    Begins (method.forwardingCall settings).text := by
  have call := begins_call (.name method.memberName) rfl (begins_escapeKeyword name) []
    (method.arguments ++ [.name settings.transport.neverCancel])
  unfold forwardingCall
  cases Completion.of method.result with
  | nothing =>
    have dropped : Begins "_ = " := begins_of_spelled rfl (by decide)
    exact dropped.append _
  | value type =>
    have awaiter := begins_call _ rfl (begins_member rfl call "GetAwaiter") [] []
    exact begins_call _ rfl (begins_member rfl awaiter "GetResult") [] []
  | awaitable _ | awaitableOf _ _ => exact call

theorem begins_forwarding (name : Begins method.name) :
    ∀ front ∈ (Member.method (method.forwarding settings)).fronts, Begins front :=
  List.forall_mem_cons.2
    ⟨begins_public.words _, List.forall_mem_singleton.2 (begins_forwardingCall name)⟩

theorem begins_cancellable :
    ∀ front ∈ (Member.method (method.cancellable settings)).fronts, Begins front := by
  have awaited : Begins "await " := begins_of_spelled rfl (by decide)
  exact List.forall_mem_cons.2
    ⟨begins_public.words _, List.forall_mem_singleton.2 (awaited.append _)⟩

theorem begins_declaration (result : Begins method.result.text) :
    ∀ front ∈ (Member.method (method.declaration settings)).fronts, Begins front :=
  List.forall_mem_singleton.2 ((Completion.begins_awaitedType result _).words _)

theorem begins_delegate (interfaceName : String) :
    ∀ front ∈ (Member.delegate (method.delegate interfaceName)).fronts, Begins front := by
  have word : Begins "delegate" := begins_of_spelled rfl (by decide)
  exact List.forall_mem_singleton.2 (word.words _)

theorem begins_interfaceEvent :
    ∀ front ∈ (Member.event method.interfaceEvent).fronts, Begins front := by
  have word : Begins "event" := begins_of_spelled rfl (by decide)
  exact List.forall_mem_singleton.2 (word.words _)

theorem begins_classEvent (interfaceName : String) :
    ∀ front ∈ (Member.event (method.classEvent settings interfaceName)).fronts, Begins front :=
  List.forall_mem_singleton.2 (begins_public.words _)

end Signature

/-! ## Types -/

theorem TypeDecl.begins_fronts {t : TypeDecl}
    (header : Begins (words (t.modifiers ++ [t.keyword.text, t.name])))
    (members : ∀ member ∈ t.members, ∀ front ∈ member.fronts, Begins front) :
    ∀ front ∈ t.fronts, Begins front := by
  rw [TypeDecl.fronts]
  simp only [List.forall_mem_cons]
  exact ⟨begins_of_spelled rfl (by decide), begins_of_spelled rfl (by decide),
    begins_of_spelled rfl (by decide), header, List.forall_mem_flatMap.2 members⟩

namespace Stub

variable {settings : Settings} {stub : Stub}

theorem begins_of_mem_methods (h : stub.checkNames = .ok ()) {role : Role} {method : Signature}
    (mem : method ∈ stub.methods role) : Begins method.name ∧ Begins method.result.text := by
  have checked := (check_bind_eq_ok_iff.1 ((checkNames_eq_ok_iff.1 h).2.2 role)).2
  obtain ⟨name, rest⟩ := check_bind_eq_ok_iff.1 (forM_eq_ok_iff.1 checked method mem)
  exact ⟨begins_of_isIdentifier (checkIdentifier_eq_ok_iff.1 name),
    Result.begins_text (check_bind_eq_ok_iff.1 rest).1⟩

theorem begins_constructor (transport : ∀ name ∈ settings.transport.names, Begins name) :
    ∀ front ∈ (Member.constructor (stub.constructor settings)).fronts, Begins front := by
  simp only [Transport.names, List.forall_mem_cons] at transport
  obtain ⟨-, -, subscribe, -, -, property, -⟩ := transport
  refine List.forall_mem_cons.2 ⟨begins_public.words _, List.forall_mem_map.2 ?_⟩
  refine List.forall_mem_cons.2 ⟨?assign, List.forall_mem_map.2 fun method _ => ?subscribe⟩
  case assign =>
    rw [Statement.text, Expr.text, String.append_assoc]
    exact property.append _
  case subscribe =>
    exact begins_call (.name settings.transport.subscribe) rfl subscribe _ _

theorem begins_classDecl (h : stub.checkNames = .ok ())
    (transport : ∀ name ∈ settings.transport.names, Begins name) :
    ∀ front ∈ (stub.classDecl settings).fronts, Begins front := by
  refine TypeDecl.begins_fronts ?header ?members
  case header =>
    rw [classDecl]
    cases stub.visibility <;> exact Begins.words (begins_of_spelled rfl (by decide)) _
  case members =>
    change ∀ member ∈ stub.classMembers settings, _
    rw [classMembers]
    simp only [List.forall_mem_append, List.forall_mem_singleton, List.forall_mem_flatMap,
      List.forall_mem_map]
    refine ⟨⟨⟨?property, fun method mem => ?outgoing⟩, fun method mem => ?incoming⟩, ?opening⟩
    case property => exact List.forall_mem_singleton.2 (begins_public.words _)
    case outgoing =>
      exact List.forall_mem_cons.2 ⟨Signature.begins_forwarding (begins_of_mem_methods h mem).1,
        List.forall_mem_singleton.2 Signature.begins_cancellable⟩
    case incoming => exact Signature.begins_classEvent _
    case opening => exact begins_constructor transport

theorem begins_interfaceDecl (h : stub.checkNames = .ok ()) :
    ∀ front ∈ (stub.interfaceDecl settings).fronts, Begins front := by
  refine TypeDecl.begins_fronts (begins_public.words _) ?_
  change ∀ member ∈ stub.interfaceMembers settings, _
  rw [interfaceMembers]
  simp only [List.forall_mem_append, List.forall_mem_flatMap, List.forall_mem_map]
  refine ⟨fun method mem => ?outgoing, fun method mem => ?incoming⟩
  case outgoing => exact Signature.begins_declaration (begins_of_mem_methods h mem).2
  case incoming =>
    exact List.forall_mem_cons.2 ⟨Signature.begins_delegate _,
      List.forall_mem_singleton.2 Signature.begins_interfaceEvent⟩

theorem begins_compilationUnit (h : stub.checkNames = .ok ())
    (transport : ∀ name ∈ settings.transport.names, Begins name) :
    ∀ front ∈ (stub.compilationUnit settings).fronts, Begins front := by
  rw [CompilationUnit.fronts]
  simp only [List.forall_mem_cons]
  refine ⟨begins_of_spelled rfl (by decide), begins_of_spelled rfl (by decide),
    begins_of_spelled rfl (by decide), List.forall_mem_flatMap.2 ?_⟩
  exact List.forall_mem_cons.2 ⟨begins_classDecl h transport,
    List.forall_mem_singleton.2 (begins_interfaceDecl h)⟩

theorem ends_compilationUnit : ∀ back ∈ (stub.compilationUnit settings).backs, Ends back := by
  have types : ∀ t ∈ (stub.compilationUnit settings).types, t.docs = [] :=
    List.forall_mem_cons.2 ⟨rfl, List.forall_mem_singleton.2 rfl⟩
  rw [CompilationUnit.backs, List.forall_mem_append, List.forall_mem_cons, List.forall_mem_cons,
    List.forall_mem_flatMap]
  have header : Ends autoGenerated := ends_of_spelled rfl (by decide)
  refine ⟨⟨ends_of_spelled rfl (by decide), ends_of_spelled rfl (by decide),
    List.forall_mem_singleton.2 header⟩, fun t mem => ?_⟩
  rw [TypeDecl.backs, types t mem, List.append_nil]
  exact ends_of_mem_closers

/-- **The source of a stub is tidy.** -/
theorem emit_tidy {text : String}
    (transport : ∀ name ∈ settings.transport.names, isTypeName name.toList = true)
    (defaults : ∀ text ∈ stub.defaultTexts, ∃ parameter, TypedHub.defaultText parameter = some text)
    (written : stub.emit settings = .ok text) : ∃ lines, Tidy text lines := by
  obtain ⟨checked, rfl⟩ := emit_eq_ok_iff.1 written
  have rows {c : Char} (control : c ∈ controlEnds) :
      ∀ row ∈ (stub.compilationUnit settings).rows, c ∉ row.text.toList := by
    refine not_mem_rows (isPlain_of_checkNames checked) (fun text mem => ?_) control
      fun name mem => (plain_of_isTypeName (transport name mem)).not_mem control
    obtain ⟨parameter, eq⟩ := defaults text mem
    exact plain_or_eq_stringLiteral_of_defaultText eq
  exact ⟨_, CompilationUnit.tidy_text (List.cons_ne_nil _ _)
    (begins_compilationUnit checked fun name mem => begins_of_isTypeName (transport name mem))
    ends_compilationUnit fun row mem => ⟨rows (by decide) row mem, rows (by decide) row mem⟩⟩

/-- A client that sends a text with ends of lines unless it is given another one. -/
def chatting : Stub where
  className := "Chat"
  containingNamespace := "App"
  visibility := .isPublic
  outgoing :=
    [⟨"IOut", [⟨"Send", .nothing,
      [⟨"string", "text", false, some (stringLiteral "a\r\nb "), false⟩]⟩]⟩]
  incoming := [⟨"IIn", [⟨"Receive", .type "int", [⟨"string", "text", true, none, false⟩]⟩]⟩]

theorem emit_tidy_chatting :
    (∀ name ∈ ({} : Settings).transport.names, isTypeName name.toList = true) ∧
      (∀ text ∈ chatting.defaultTexts,
        ∃ parameter, TypedHub.defaultText parameter = some text) ∧
      chatting.emit {} = .ok (chatting.compilationUnit {}).text ∧
      ∃ lines, Tidy (chatting.compilationUnit {}).text lines := by
  have transport : ∀ name ∈ ({} : Settings).transport.names, isTypeName name.toList = true := by
    have name {text : String} {chars : List Char} (spelled : text = String.ofList chars)
        (h : isTypeName chars = true) : isTypeName text.toList = true := by
      rwa [spelled, String.toList_ofList]
    simp only [Transport.names, List.forall_mem_cons]
    exact ⟨name rfl (by decide +kernel), name rfl (by decide +kernel),
      name rfl (by decide +kernel), name rfl (by decide +kernel), name rfl (by decide +kernel),
      name rfl (by decide +kernel), List.forall_mem_nil _⟩
  have defaults : ∀ text ∈ chatting.defaultTexts,
      ∃ parameter, TypedHub.defaultText parameter = some text :=
    List.forall_mem_singleton.2
      ⟨⟨"string", "text", false, true, some (.string "a\r\nb "), false⟩, rfl⟩
  have written : chatting.emit {} = .ok (chatting.compilationUnit {}).text :=
    emit_eq_ok_iff.2 ⟨by decide +kernel, rfl⟩
  exact ⟨transport, defaults, written, emit_tidy transport defaults written⟩

end Stub

end TypedHub
