import TypedHub.Proofs.CSharp.Marks
import TypedHub.Proofs.Stub.Checked
import TypedHub.Stub.Declaration

/-!
# The texts that a source takes over

The source of a stub is printed from names, types and literals. The names and types are plain, and
so are the words of the program itself. Of the literals, the keys of methods are plain between their
quotes. What is left are the identity of the generator and the defaults of outgoing parameters; all
of these are taken over (`valueLiterals_subset`), and nothing else is (`stored_compilationUnit`).
The names of the transport are settings that no check looks at, so they are plain by assumption or
counted among the literals.
-/

namespace TypedHub

open CSharp

/-! ## Texts that are taken over -/

/-- A text that is plain, the literal of a plain one, or among the given literals. -/
inductive Stored (literals : List String) : String → Prop where
  | plain {text : String} (plain : Plain text) : Stored literals text
  | key {name : String} (plain : Plain name) : Stored literals (stringLiteral name)
  | literal {text : String} (mem : text ∈ literals) : Stored literals text

theorem Stored.quiet {literals : List String} {text : String} (quiet : ∀ p ∈ literals, Quiet p)
    (stored : Stored literals text) : Quiet text := by
  cases stored with
  | plain plain => exact plain.quiet
  | key plain => exact quiet_stringLiteral _
  | literal mem => exact quiet text mem

/-- The ends of lines that stand in the literals of a text come from the given ones. -/
theorem Stored.mem_of_inLiteral {literals : List String} {text : String} {c : Char}
    (stored : Stored literals text) (lineEnd : c ∈ lineEnds) (h : InLiteral c text) :
    text ∈ literals := by
  cases stored with
  | plain plain => exact absurd h (plain.not_inLiteral c)
  | @key name plain =>
    have structured : c ∈ structural := by
      simp only [structural, List.mem_cons, lineEnd, or_true]
    exact absurd structured (plain c ((inLiteral_stringLiteral_iff lineEnd name).1 h).2)
  | literal mem => exact mem

/-- All of the texts are such ones. -/
def AllStored (literals texts : List String) : Prop := ∀ text ∈ texts, Stored literals text

namespace AllStored

variable {literals : List String}

theorem nil : AllStored literals [] := List.forall_mem_nil _

theorem cons {text : String} {rest : List String} (first : Stored literals text)
    (others : AllStored literals rest) : AllStored literals (text :: rest) :=
  List.forall_mem_cons.2 ⟨first, others⟩

theorem single {text : String} (stored : Stored literals text) : AllStored literals [text] :=
  List.forall_mem_singleton.2 stored

theorem append {front back : List String} (first : AllStored literals front)
    (second : AllStored literals back) : AllStored literals (front ++ back) :=
  List.forall_mem_append.2 ⟨first, second⟩

theorem flatMap {α : Type} {texts : α → List String} {list : List α}
    (h : ∀ a ∈ list, AllStored literals (texts a)) : AllStored literals (list.flatMap texts) :=
  List.forall_mem_flatMap.2 h

end AllStored

/-- A transport whose names are such texts. -/
structure Transport.IsStored (transport : Transport) (literals : List String) : Prop where
  connectionType : Stored literals transport.connectionType
  invoke : Stored literals transport.invoke
  subscribe : Stored literals transport.subscribe
  cancellationType : Stored literals transport.cancellationType
  neverCancel : Stored literals transport.neverCancel
  connectionProperty : Stored literals transport.connectionProperty

theorem Transport.IsPlain.isStored {transport : Transport} (plain : transport.IsPlain)
    (literals : List String) : transport.IsStored literals where
  connectionType := .plain plain.connectionType
  invoke := .plain plain.invoke
  subscribe := .plain plain.subscribe
  cancellationType := .plain plain.cancellationType
  neverCancel := .plain plain.neverCancel
  connectionProperty := .plain plain.connectionProperty

/-- The literals of the identity of the generator. -/
def Settings.identity (settings : Settings) : List String :=
  [stringLiteral settings.generatorName, stringLiteral settings.generatorVersion]

/-- The texts of the defaults of all outgoing parameters. -/
def Stub.defaultTexts (stub : Stub) : List String :=
  (stub.methods .outgoing).flatMap fun method => method.parameters.filterMap (·.defaultText)

section Texts

variable {literals : List String} {settings : Settings}

theorem stored_word {text : String} {chars : List Char} (spelled : text = String.ofList chars)
    (h : chars.all (fun c => decide (c ∉ structural)) = true) : Stored literals text :=
  .plain (plain_of_spelled spelled h)

theorem stored_generatedCode (identity : ∀ p ∈ settings.identity, p ∈ literals) :
    AllStored literals (generatedCode settings).pieces :=
  .cons (stored_word rfl (by decide)) fun p mem => .literal (identity p mem)

theorem stored_eventAttributes (identity : ∀ p ∈ settings.identity, p ∈ literals) :
    AllStored literals (attributePieces [eventAttributes settings]) :=
  .cons (stored_word rfl (by decide)) (stored_generatedCode identity)

theorem stored_memberAttributes (identity : ∀ p ∈ settings.identity, p ∈ literals) :
    AllStored literals (attributePieces [memberAttributes settings]) :=
  .cons (stored_word rfl (by decide)) (stored_eventAttributes identity)

end Texts

/-! ## Parameters and expressions -/

section Members

variable {literals : List String} {settings : Settings} {method : Signature}

theorem stored_param {p : Param} (type : Stored literals p.type) (name : Plain p.name)
    (defaults : AllStored literals (optionPieces p.default?)) :
    AllStored literals p.pieces := by
  obtain ⟨isParams, typeText, nameText, default?⟩ := p
  rw [Param.pieces]
  exact .append (.cons type (.single (.plain name))) defaults

theorem stored_params {list : List Param}
    (h : ∀ p ∈ list, AllStored literals p.pieces) :
    AllStored literals (paramPieces list) := by
  rw [paramPieces_eq]
  exact .flatMap h

theorem stored_defaultText {parameter : Parameter}
    (defaults : ∀ text ∈ parameter.defaultText, text ∈ literals) :
    AllStored literals (optionPieces (parameter.defaultText.map .literal)) := by
  cases given : parameter.defaultText with
  | none => exact .nil
  | some text =>
    rw [Option.map_some, optionPieces, Expr.pieces]
    exact .single (.literal (defaults text given))

/-- A call of a name. -/
theorem stored_call {callee : String} {typeArguments : List String} {arguments : List Expr}
    (name : Stored literals callee) (types : ∀ type ∈ typeArguments, Plain type)
    (handedOn : AllStored literals (exprPieces arguments)) :
    AllStored literals (Expr.call (.name callee) typeArguments arguments).pieces := by
  rw [Expr.pieces, Expr.pieces]
  exact .append (.cons name fun type mem => .plain (types type mem)) handedOn

theorem stored_exprs_append {front back : List Expr}
    (first : AllStored literals (exprPieces front))
    (second : AllStored literals (exprPieces back)) :
    AllStored literals (exprPieces (front ++ back)) := by
  rw [exprPieces_eq, List.flatMap_append, ← exprPieces_eq, ← exprPieces_eq]
  exact .append first second

theorem stored_name {name : String} (stored : Stored literals name) :
    AllStored literals (exprPieces [.name name]) := by
  rw [exprPieces, Expr.pieces]
  exact .single stored

/-! ## Outgoing methods -/

namespace Signature

theorem plain_tokenName (method : Signature) : Plain method.tokenName :=
  plain_freshName (plain_of_spelled rfl (by decide)) _

variable (plain : method.IsPlain) (transport : settings.transport.IsStored literals)
  (identity : ∀ text ∈ settings.identity, text ∈ literals)
  (defaults : ∀ parameter ∈ method.parameters, ∀ text ∈ parameter.defaultText, text ∈ literals)

include plain

theorem plain_memberName : Plain method.memberName := plain_escapeKeyword plain.name

theorem stored_arguments : AllStored literals (exprPieces method.arguments) := by
  rw [exprPieces_eq, arguments_eq, List.flatMap_map, writtenNames]
  refine .flatMap (List.forall_mem_map.2 fun parameter mem => ?_)
  rw [Expr.pieces]
  exact .single (.plain (plain_escapeKeyword (plain.parameters parameter mem).1))

theorem plain_result {result : String}
    (mem : result ∈ (Completion.of method.result).result?.toList) : Plain result :=
  Completion.plain_result? plain.result (Option.mem_toList.1 mem)

include transport

theorem stored_forwardingCall :
    AllStored literals (method.forwardingCall settings).pieces := by
  have never : AllStored literals (exprPieces [.name settings.transport.neverCancel]) :=
    stored_name transport.neverCancel
  have call := stored_call (.plain (plain_memberName plain)) (List.forall_mem_nil _)
    (stored_exprs_append (stored_arguments plain) never)
  rw [forwardingCall]
  cases Completion.of method.result with
  | nothing =>
    rw [Expr.pieces]
    exact call
  | awaitable _ | awaitableOf _ _ => exact call
  | value type =>
    have awaiter : Stored literals "GetAwaiter" := stored_word rfl (by decide)
    have result : Stored literals "GetResult" := stored_word rfl (by decide)
    simp only [Expr.callMethod, Expr.pieces, exprPieces, List.append_nil]
    exact .append (.append call (.single awaiter)) (.single result)

theorem stored_transportCall :
    AllStored literals (method.transportCall settings).pieces := by
  refine stored_call transport.invoke (fun type => plain_result plain) ?_
  refine stored_exprs_append (stored_exprs_append ?_ (stored_arguments plain))
    (stored_name (.plain method.plain_tokenName))
  rw [exprPieces, exprPieces, Expr.pieces, Expr.pieces]
  exact .cons transport.connectionProperty (.single (.key plain.name))

include identity defaults

theorem stored_forwarding :
    AllStored literals (method.forwarding settings).pieces := by
  have words : AllStored literals ["public", method.result.text, method.memberName] :=
    .cons (stored_word rfl (by decide))
      (.cons (.plain plain.result) (.single (.plain (plain_memberName plain))))
  rw [Method.pieces]
  refine .append (stored_memberAttributes identity) (.append (.append words ?_) ?_)
  · refine stored_params (List.forall_mem_map.2 fun parameter mem => ?_)
    obtain ⟨name, type⟩ := plain.parameters parameter mem
    exact stored_param (.plain (plain_markedType type)) (plain_escapeKeyword name)
      (stored_defaultText (defaults parameter mem))
  · rw [forwarding, optionPieces]
    exact stored_forwardingCall plain transport

omit identity in
/-- The parameters of the overload with a token, which the interface declares as well. -/
theorem stored_cancellableParams :
    AllStored literals (paramPieces (method.cancellableParams settings)) := by
  have implicit : AllStored literals (optionPieces (some implicitDefault)) := by
    rw [optionPieces, implicitDefault, Expr.pieces]
    exact .single (stored_word rfl (by decide))
  refine stored_params (List.forall_mem_append.2 ⟨?_, List.forall_mem_singleton.2 ?_⟩)
  · refine List.forall_mem_map.2 fun parameter mem => ?_
    obtain ⟨name, type⟩ := plain.parameters parameter mem
    refine stored_param (.plain (plain_markedType type)) (plain_escapeKeyword name) ?_
    rw [beforeToken]
    split
    · exact implicit
    · exact stored_defaultText (defaults parameter mem)
  · refine stored_param transport.cancellationType method.plain_tokenName ?_
    rw [tokenParam]
    split
    · exact implicit
    · exact .nil

theorem stored_cancellable :
    AllStored literals (method.cancellable settings).pieces := by
  have returned := Completion.plain_awaitedType plain.result
  have modifiers : AllStored literals ["public", "async"] :=
    .cons (stored_word rfl (by decide)) (.single (stored_word rfl (by decide)))
  have words := modifiers.append
    (.cons (.plain returned) (.single (.plain (plain_memberName plain))))
  rw [Method.pieces]
  refine .append (stored_memberAttributes identity) (.append (.append words ?_) ?_)
  · exact stored_cancellableParams plain transport defaults
  · rw [cancellable, optionPieces, Expr.pieces]
    exact stored_transportCall plain transport

omit identity in
theorem stored_declaration :
    AllStored literals (method.declaration settings).pieces := by
  have returned := Completion.plain_awaitedType plain.result
  rw [Method.pieces]
  refine .append .nil (.append (.append ?_ ?_) .nil)
  · exact .cons (.plain returned) (.single (.plain (plain_memberName plain)))
  · exact stored_cancellableParams plain transport defaults

/-! ## Incoming methods -/

omit defaults identity transport

omit plain in
theorem plain_sender (method : Signature) :
    Plain (freshName "sender" method.parameterNames) :=
  plain_freshName (plain_of_spelled rfl (by decide)) _

theorem stored_delegate {interfaceName : String} (interface : Plain interfaceName) :
    AllStored literals (method.delegate interfaceName).pieces := by
  have words : AllStored literals ["delegate", method.result.text, method.handler] :=
    .cons (stored_word rfl (by decide))
      (.cons (.plain plain.result) (.single (.plain (plain_handlerName plain.name))))
  rw [Delegate.pieces]
  refine .append words (stored_params (List.forall_mem_cons.2 ⟨?_, ?_⟩))
  · exact stored_param (.plain interface) method.plain_sender .nil
  · refine List.forall_mem_map.2 fun parameter mem => ?_
    obtain ⟨name, type⟩ := plain.parameters parameter mem
    exact stored_param (.plain (plain_markedType type)) (plain_escapeKeyword name) .nil

theorem stored_interfaceEvent : AllStored literals method.interfaceEvent.pieces := by
  have type : Plain (method.handler ++ "?") :=
    plain_append_iff.2 ⟨plain_handlerName plain.name, plain_of_spelled rfl (by decide)⟩
  rw [Event.pieces]
  refine .append .nil (.cons (stored_word rfl (by decide)) ?_)
  exact .cons (.plain type) (.single (.plain (plain_memberName plain)))

include identity in
theorem stored_classEvent {interfaceName : String} (interface : Plain interfaceName) :
    AllStored literals (method.classEvent settings interfaceName).pieces := by
  have type : Plain (interfaceName ++ "." ++ method.handler ++ "?") := by
    simp only [plain_append_iff]
    exact ⟨⟨⟨interface, plain_of_spelled rfl (by decide)⟩, plain_handlerName plain.name⟩,
      plain_of_spelled rfl (by decide)⟩
  have modifiers : AllStored literals ["public"] := .single (stored_word rfl (by decide))
  rw [Event.pieces]
  refine .append (stored_eventAttributes identity) (.append modifiers ?_)
  refine .cons (stored_word rfl (by decide)) ?_
  exact .cons (.plain type) (.single (.plain (plain_memberName plain)))

theorem stored_raise : AllStored literals method.raise.pieces := by
  rw [raise, Expr.pieces, Expr.pieces, exprPieces, Expr.pieces]
  exact .append (.single (.plain (plain_memberName plain))) (stored_arguments plain)

theorem stored_closureBody : AllStored literals method.closureBody.pieces := by
  unfold closureBody
  cases completion : Completion.of method.result with
  | nothing => exact stored_raise plain
  | awaitable kind =>
    have completed : Plain (kind.text ++ ".CompletedTask") :=
      plain_append_iff.2 ⟨kind.plain_text, plain_of_spelled rfl (by decide)⟩
    rw [Expr.pieces, Expr.pieces, Signature.completed, Expr.pieces]
    exact .append (stored_raise plain) (.single (.plain completed))
  | awaitableOf kind result =>
    have completed : Plain (kind.text ++ ".FromResult") :=
      plain_append_iff.2 ⟨kind.plain_text, plain_of_spelled rfl (by decide)⟩
    have type : Plain result := plain_result plain (by rw [completion]; exact List.mem_cons_self)
    simp only [completedWith, Expr.pieces, exprPieces, List.append_nil]
    exact .append (stored_raise plain) (.cons (.plain completed) (.single (.plain type)))
  | value type =>
    rw [Expr.pieces, Expr.pieces, List.append_nil]
    exact stored_raise plain

include transport in
theorem stored_subscription :
    AllStored literals (method.subscription settings).pieces := by
  have parameters :
      AllStored literals (paramPieces (method.parameters.map (·.bare))) := by
    refine stored_params (List.forall_mem_map.2 fun parameter mem => ?_)
    obtain ⟨name, type⟩ := plain.parameters parameter mem
    exact stored_param (.plain (plain_markedType type)) (plain_escapeKeyword name) .nil
  have types : ∀ type ∈ method.parameters.map (·.markedType) ++
      (Completion.of method.result).result?.toList, Plain type :=
    List.forall_mem_append.2 ⟨List.forall_mem_map.2 fun parameter mem =>
      plain_markedType (plain.parameters parameter mem).2, fun type => plain_result plain⟩
  refine stored_call transport.subscribe types ?_
  simp only [closure, exprPieces, Expr.pieces, List.append_nil]
  refine .append (.single transport.connectionProperty)
    (.append (.single (.key plain.name)) ?_)
  exact .append parameters (stored_closureBody plain)

end Signature

end Members

/-! ## The file -/

namespace Stub

variable {literals : List String} {settings : Settings} {stub : Stub}

/-- The literals of a source that are not the keys of methods. -/
def valueLiterals (settings : Settings) (stub : Stub) : List String :=
  settings.identity ++ stub.defaultTexts

section Stored

variable (plain : stub.IsPlain) (transport : settings.transport.IsStored literals)
  (values : ∀ text ∈ stub.valueLiterals settings, text ∈ literals)

include values in
theorem identity_subset : ∀ text ∈ settings.identity, text ∈ literals :=
  fun text mem => values text (List.mem_append_left _ mem)

include values in
theorem defaultText_mem {method : Signature} (outgoing : method ∈ stub.methods .outgoing)
    {parameter : Parameter} (mem : parameter ∈ method.parameters) {text : String}
    (given : text ∈ parameter.defaultText) : text ∈ literals :=
  values text <| List.mem_append_right _
    (List.mem_flatMap.2 ⟨method, outgoing, List.mem_filterMap.2 ⟨parameter, mem, given⟩⟩)

include plain

theorem plain_interfaceName : Plain stub.interfaceName :=
  plain_append_iff.2 ⟨plain_of_spelled rfl (by decide), plain.className⟩

include transport values

theorem stored_constructor :
    AllStored literals (stub.constructor settings).pieces := by
  have parameter : Plain connectionParam := plain_of_spelled rfl (by decide)
  have words : AllStored literals ["public", stub.className] :=
    .cons (stored_word rfl (by decide)) (.single (.plain plain.className))
  rw [Constructor.pieces]
  refine .append (stored_memberAttributes (identity_subset values)) (.append (.append words ?_) ?_)
  · refine stored_params (List.forall_mem_singleton.2 ?_)
    exact stored_param transport.connectionType parameter .nil
  · rw [constructor, constructorBody, List.flatMap_cons, Statement.pieces, Expr.pieces, Expr.pieces,
      List.flatMap_map]
    refine .append (.cons transport.connectionProperty (.single (.plain parameter))) ?_
    exact .flatMap fun method mem =>
      Signature.stored_subscription (plain.methods .incoming method mem) transport

theorem stored_classMembers : ∀ member ∈ stub.classMembers settings,
    AllStored literals member.pieces := by
  have interface := plain_interfaceName plain
  simp only [classMembers, List.forall_mem_append, List.forall_mem_singleton]
  refine ⟨⟨⟨?_, ?_⟩, ?_⟩, stored_constructor plain transport values⟩
  · rw [Member.pieces, Property.pieces, connectionProperty, optionPieces, List.append_nil]
    refine .append (stored_memberAttributes (identity_subset values)) ?_
    refine .cons (stored_word rfl (by decide)) (.cons transport.connectionType ?_)
    exact .single transport.connectionProperty
  · refine List.forall_mem_flatMap.2 fun method mem => List.forall_mem_cons.2 ⟨?_, ?_⟩
    · exact Signature.stored_forwarding (plain.methods .outgoing method mem) transport
        (identity_subset values) fun _ => defaultText_mem values mem
    · exact List.forall_mem_singleton.2 <|
        Signature.stored_cancellable (plain.methods .outgoing method mem) transport
          (identity_subset values) fun _ => defaultText_mem values mem
  · exact List.forall_mem_map.2 fun method mem =>
      Signature.stored_classEvent (plain.methods .incoming method mem) (identity_subset values)
        interface

theorem stored_interfaceMembers : ∀ member ∈ stub.interfaceMembers settings,
    AllStored literals member.pieces := by
  have interface := plain_interfaceName plain
  refine List.forall_mem_append.2 ⟨?_, ?_⟩
  · exact List.forall_mem_map.2 fun method mem =>
      Signature.stored_declaration (plain.methods .outgoing method mem) transport
        fun _ => defaultText_mem values mem
  · refine List.forall_mem_flatMap.2 fun method mem => List.forall_mem_cons.2 ⟨?_, ?_⟩
    · exact Signature.stored_delegate (plain.methods .incoming method mem) interface
    · exact List.forall_mem_singleton.2
        (Signature.stored_interfaceEvent (plain.methods .incoming method mem))

theorem stored_classDecl :
    AllStored literals (stub.classDecl settings).pieces := by
  have visibility : AllStored literals
      (if stub.visibility.modifier = "" then [] else [stub.visibility.modifier]) := by
    split
    · exact .nil
    · exact .single (.plain stub.visibility.plain_modifier)
  have word : Stored literals "partial" := stored_word rfl (by decide)
  have modifiers := visibility.append (.single word)
  have names : AllStored literals ["class", stub.className] :=
    .cons (stored_word rfl (by decide)) (.single (.plain plain.className))
  have header := (modifiers.append names).append (.single (.plain (plain_interfaceName plain)))
  rw [TypeDecl.pieces]
  exact .append (.append .nil header) (.flatMap (stored_classMembers plain transport values))

theorem stored_interfaceDecl :
    AllStored literals (stub.interfaceDecl settings).pieces := by
  have name : Plain stub.interfaceName := plain_interfaceName plain
  have words :
      AllStored literals ["public", "interface", stub.interfaceName] :=
    .cons (stored_word rfl (by decide))
      (.cons (stored_word rfl (by decide)) (.single (.plain name)))
  have bases : AllStored literals (stub.outgoing.map (·.name)) :=
    List.forall_mem_map.2 fun contract mem => .plain (plain.contracts .outgoing contract mem)
  rw [TypeDecl.pieces]
  exact .append (.append (stored_generatedCode (identity_subset values)) (words.append bases))
    (.flatMap (stored_interfaceMembers plain transport values))

theorem stored_compilationUnit :
    AllStored literals (stub.compilationUnit settings).pieces := by
  have namespaceName : AllStored literals
      (stub.compilationUnit settings).fileNamespace.toList := by
    rw [compilationUnit]
    split
    · exact .nil
    · exact .single (.plain plain.containingNamespace)
  have types : ∀ t ∈ (stub.compilationUnit settings).types,
      AllStored literals t.pieces :=
    List.forall_mem_cons.2 ⟨stored_classDecl plain transport values,
      List.forall_mem_singleton.2 (stored_interfaceDecl plain transport values)⟩
  rw [CompilationUnit.pieces]
  exact .append (.append (.single (stored_word rfl (by decide))) namespaceName) (.flatMap types)

end Stored

theorem valueLiterals_subset : ∀ text ∈ stub.valueLiterals settings,
    text ∈ (stub.compilationUnit settings).pieces := by
  have inFile {t : TypeDecl} {text : String} (mem : t ∈ (stub.compilationUnit settings).types)
      (among : text ∈ t.pieces) : text ∈ (stub.compilationUnit settings).pieces :=
    List.mem_append_right _ (List.mem_flatMap.2 ⟨t, mem, among⟩)
  refine List.forall_mem_append.2 ⟨fun text mem => ?_, fun text mem => ?_⟩
  · have stamped : text ∈ attributePieces (stub.interfaceDecl settings).attributes :=
      List.mem_cons_of_mem _ mem
    refine inFile (List.mem_cons_of_mem _ List.mem_cons_self) ?_
    exact List.mem_append_left _ (List.mem_append_left _ (List.mem_append_right _ stamped))
  · obtain ⟨method, outgoing, mem⟩ := List.mem_flatMap.1 mem
    obtain ⟨parameter, mem, given⟩ := List.mem_filterMap.1 mem
    have declared : text ∈ parameter.declared.pieces := by
      rw [Parameter.declared, given, Param.pieces, Option.map_some, optionPieces, Expr.pieces]
      exact List.mem_append_right _ List.mem_cons_self
    have parameters : text ∈ paramPieces (method.forwarding settings).parameters := by
      rw [paramPieces_eq]
      exact List.mem_flatMap.2 ⟨_, List.mem_map_of_mem mem, declared⟩
    have member : Member.method (method.forwarding settings) ∈ stub.classMembers settings := by
      refine List.mem_append_left _ (List.mem_append_left _ (List.mem_append_right _ ?_))
      exact List.mem_flatMap.2 ⟨method, outgoing, List.mem_cons_self⟩
    refine inFile List.mem_cons_self (List.mem_append_right _ (List.mem_flatMap.2 ⟨_, member, ?_⟩))
    exact List.mem_append_right _ (List.mem_append_left _ (List.mem_append_right _ parameters))

end Stub

end TypedHub
