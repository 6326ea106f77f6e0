import TypedHub.Proofs.CSharp.LegalName
import TypedHub.Proofs.Stub.Checked

/-!
# The names that a source declares

The names of the types, members and parameters of a source come from names that were checked, but
not all in the same way. Those of methods and parameters are escaped where they are keywords, those
of handlers have their first letter in uppercase and a word behind it, and those of added parameters
have underscores behind them. All of these are legal up to the numerals of the given name. The name
of the class and the segments of the namespace are written as they are, even keywords, and the
letter of the interface is put in front of an at sign; so these can be illegal
(`Stub.declaredNames_legal_iff`).
-/

namespace TypedHub

open CSharp

namespace CSharp

/-! ## Declared names -/

mutual

/-- The names of the parameters that are declared in an expression. -/
@[simp]
def Expr.paramNames : Expr → List String
  | .name _ | .literal _ | .str _ | .this | .defaultValue => []
  | .member target _ => target.paramNames
  | .call callee _ arguments => callee.paramNames ++ exprParamNames arguments
  | .invokeIfSet target arguments => target.paramNames ++ exprParamNames arguments
  | .await operand => operand.paramNames
  | .coalesce left right => left.paramNames ++ right.paramNames
  | .discard value => value.paramNames
  | .lambda _ parameters body => paramNames parameters ++ body.paramNames

@[simp]
def exprParamNames : List Expr → List String
  | [] => []
  | e :: rest => e.paramNames ++ exprParamNames rest

/-- The name of a parameter, and those in its default. -/
@[simp]
def Param.names : Param → List String
  | ⟨_, _, name, default?⟩ => name :: optionParamNames default?

@[simp]
def paramNames : List Param → List String
  | [] => []
  | p :: rest => p.names ++ paramNames rest

@[simp]
def optionParamNames : Option Expr → List String
  | none => []
  | some value => value.paramNames

end

def Statement.paramNames : Statement → List String
  | assign target value => target.paramNames ++ value.paramNames
  | expr value => value.paramNames

/-- The name of a member, and the names of the parameters in it. -/
def Member.declaredNames : Member → List String
  | property p => p.name :: optionParamNames p.initializer
  | method m => m.name :: (paramNames m.parameters ++ optionParamNames m.body)
  | constructor c => c.name :: (CSharp.paramNames c.parameters ++ c.body.flatMap (·.paramNames))
  | event e => [e.name]
  | delegate d => d.name :: paramNames d.parameters

def TypeDecl.declaredNames (type : TypeDecl) : List String :=
  type.name :: type.members.flatMap (·.declaredNames)

/-- The segments of the namespace, and the names of the types with those of their members and
parameters. -/
def CompilationUnit.declaredNames (unit : CompilationUnit) : List String :=
  unit.fileNamespace.toList.flatMap (Text.parts '.') ++ unit.types.flatMap (·.declaredNames)

theorem exprParamNames_eq (list : List Expr) :
    exprParamNames list = list.flatMap (·.paramNames) := by
  induction list with
  | nil => rfl
  | cons e rest ih => rw [exprParamNames, ih, List.flatMap_cons]

/-- Where no default declares parameters, the names are those of the list. -/
theorem paramNames_eq_map {list : List Param} (h : ∀ p ∈ list, optionParamNames p.default? = []) :
    paramNames list = list.map (·.name) := by
  induction list with
  | nil => rfl
  | cons p rest ih =>
    obtain ⟨isParams, type, name, default?⟩ := p
    rw [List.forall_mem_cons] at h
    rw [paramNames, Param.names, h.1, ih h.2]
    rfl

theorem optionParamNames_literal (text : Option String) :
    optionParamNames (text.map .literal) = [] := by
  cases text <;> simp only [Option.map, optionParamNames, Expr.paramNames]

theorem exprParamNames_name (names : List String) : exprParamNames (names.map .name) = [] := by
  rw [exprParamNames_eq, List.flatMap_eq_nil_iff, List.forall_mem_map]
  exact fun _ _ => by rw [Expr.paramNames]

end CSharp

/-! ## Names that are made of others -/

/-- Underscores behind a name make it no keyword, because keywords have none. -/
theorem isLegalName_freshName {name : String} (legal : isLegalPlain name.toList = true)
    (other : name ∉ keywords) (taken : List String) : IsLegalName (freshName name taken) := by
  obtain ⟨count, chars⟩ := toList_freshName name taken
  have underscores : (List.replicate count '_').all isLegalPart = true := by
    rw [List.all_eq_true]
    exact fun c mem => by rw [List.eq_of_mem_replicate mem]; decide
  constructor
  · have nonempty : name.toList ≠ [] := fun empty => by rw [empty] at legal; cases legal
    rw [chars]
    exact isLegalIdentifier_of_isLegalPlain
      ((isLegalPlain_append nonempty underscores).trans legal)
  · cases count with
    | zero =>
      rw [List.replicate_zero, List.append_nil, String.toList_inj] at chars
      rwa [chars]
    | succ more =>
      refine not_mem_keywords (c := '_') ?_ (by decide)
      rw [chars, List.replicate_succ]
      exact List.mem_append_right _ List.mem_cons_self

theorem exists_uppercase_of_isNameStart {c : Char} (h : isNameStart c = true) :
    ∃ first rest, Unicode.uppercase c = first :: rest ∧ isLegalStart first = true ∧
      rest.all isLegalPart = true := by
  obtain underscore | letter := Bool.or_eq_true_iff.1 h
  · rw [of_decide_eq_true underscore]
    exact ⟨'_', [], by decide, by decide, rfl⟩
  · obtain ⟨first, rest, chars, begins, continues⟩ := Unicode.exists_uppercase_eq_cons letter
    refine ⟨first, rest, chars, by rw [isLegalStart, begins, Bool.or_true], ?_⟩
    rw [List.all_eq_true]
    exact fun d mem => by rw [isLegalPart, continues d mem, Bool.or_true]

theorem handlerChars_cons (c : Char) (rest : List Char) :
    handlerChars (c :: rest) = Unicode.uppercase c ++ rest ++ "Handler".toList := rfl

theorem all_isLegalPart_handler : "Handler".toList.all isLegalPart = true := by decide

/-- The uppercase form of the first character leaves an identifier one, and so does the word behind
it. -/
theorem isLegalIdentifier_handlerChars {text : List Char} (h : isPlainIdentifier text = true) :
    isLegalIdentifier (handlerChars text) = isLegalPlain text := by
  cases text with
  | nil => cases h
  | cons c rest =>
    have start := (Bool.and_eq_true_iff.1 h).1
    obtain ⟨first, others, chars, legal, parts⟩ := exists_uppercase_of_isNameStart start
    rw [handlerChars_cons, chars, List.cons_append, List.cons_append,
      isLegalIdentifier_of_start legal, isLegalPlain, isLegalPlain, List.all_append,
      List.all_append, parts, all_isLegalPart_handler, legal, isLegalStart_of_isNameStart start,
      Bool.true_and, Bool.and_true]

theorem isLegalName_handlerName_iff {name : String} (h : isIdentifier name.toList = true) :
    IsLegalName (handlerName name) ↔ NumeralsFit name.toList := by
  have other : handlerName name ∉ keywords := by
    refine not_mem_keywords (c := 'H') ?_ (by decide)
    rw [handlerName, String.toList_ofList]
    cases name.toList with
    | nil => exact List.mem_cons_self
    | cons first rest => exact List.mem_append_right _ List.mem_cons_self
  rw [IsLegalName, and_iff_left other, handlerName, String.toList_ofList]
  unfold isIdentifier at h
  split at h
  · next rest chars =>
    -- an at sign has no other uppercase form, and the name behind it stays as it is
    have nonempty : rest ≠ [] := fun empty => by rw [empty] at h; cases h
    have escaped : handlerChars ('@' :: rest) = '@' :: (rest ++ "Handler".toList) := rfl
    rw [chars, numeralsFit_at_cons, ← isLegalPlain_iff h, escaped, isLegalIdentifier,
      isLegalPlain_append nonempty all_isLegalPart_handler]
  · rw [isLegalIdentifier_handlerChars h, isLegalPlain_iff h]

/-! ## Members -/

namespace Signature

variable {settings : Settings} {method : Signature}

/-- Passing parameters on declares none. -/
theorem exprParamNames_arguments (method : Signature) (more : List String) :
    exprParamNames (method.arguments ++ more.map .name) = [] := by
  rw [arguments_eq, ← List.map_append, exprParamNames_name]

theorem paramNames_forwardingCall : (method.forwardingCall settings).paramNames = [] := by
  have call : (Expr.callName method.memberName
      (method.arguments ++ [.name settings.transport.neverCancel])).paramNames = [] := by
    rw [Expr.callName, Expr.paramNames, Expr.paramNames, List.nil_append]
    exact method.exprParamNames_arguments [settings.transport.neverCancel]
  unfold forwardingCall
  cases Completion.of method.result with
  | nothing => rw [Expr.paramNames, call]
  | awaitable _ | awaitableOf _ _ => exact call
  | value _ =>
    simp only [Expr.callMethod, Expr.paramNames, exprParamNames, call, List.append_nil]

theorem paramNames_transportCall : (method.transportCall settings).paramNames = [] := by
  rw [transportCall, Expr.paramNames, Expr.paramNames, List.append_assoc, List.nil_append]
  simp only [List.cons_append, List.nil_append, exprParamNames, Expr.paramNames]
  exact method.exprParamNames_arguments [method.tokenName]

theorem paramNames_closureBody : method.closureBody.paramNames = [] := by
  have raise : method.raise.paramNames = [] := by
    rw [Signature.raise, Expr.paramNames, Expr.paramNames, exprParamNames, Expr.paramNames]
    exact List.append_nil method.arguments ▸ method.exprParamNames_arguments []
  unfold closureBody
  cases Completion.of method.result with
  | nothing => exact raise
  | awaitable kind => simp only [Expr.paramNames, raise, completed, List.append_nil]
  | awaitableOf kind result =>
    simp only [Expr.paramNames, raise, completedWith, exprParamNames, List.append_nil]
  | value type => simp only [Expr.paramNames, raise, List.append_nil]

theorem paramNames_subscription :
    (method.subscription settings).paramNames = method.writtenNames := by
  have parameters : paramNames (method.parameters.map (·.bare)) = method.writtenNames := by
    rw [paramNames_eq_map (List.forall_mem_map.2 fun _ _ => rfl), List.map_map]
    rfl
  simp only [subscription, closure, Expr.paramNames, exprParamNames, parameters,
    paramNames_closureBody, List.nil_append, List.append_nil]

theorem paramNames_cancellableParams :
    paramNames (method.cancellableParams settings) = method.writtenNames ++ [method.tokenName] := by
  have implicit : optionParamNames (some implicitDefault) = [] := by
    rw [optionParamNames, implicitDefault, Expr.paramNames]
  rw [← @names_cancellable settings method]
  refine paramNames_eq_map (List.forall_mem_append.2 ⟨?parameters, ?token⟩)
  case parameters =>
    refine List.forall_mem_map.2 fun parameter _ => ?_
    rw [beforeToken]
    split
    · exact implicit
    · exact optionParamNames_literal _
  case token =>
    rw [List.forall_mem_singleton, tokenParam]
    split
    · exact implicit
    · rfl

theorem declaredNames_forwarding :
    (Member.method (method.forwarding settings)).declaredNames =
      method.memberName :: method.writtenNames := by
  have parameters : paramNames (method.forwarding settings).parameters = method.writtenNames := by
    rw [← @names_forwarding settings method]
    exact paramNames_eq_map (List.forall_mem_map.2 fun _ _ => optionParamNames_literal _)
  rw [Member.declaredNames, parameters, forwarding, optionParamNames, paramNames_forwardingCall,
    List.append_nil]

theorem declaredNames_cancellable :
    (Member.method (method.cancellable settings)).declaredNames =
      method.memberName :: (method.writtenNames ++ [method.tokenName]) := by
  rw [Member.declaredNames, cancellable, paramNames_cancellableParams, optionParamNames,
    Expr.paramNames, paramNames_transportCall, List.append_nil]

theorem declaredNames_declaration :
    (Member.method (method.declaration settings)).declaredNames =
      method.memberName :: (method.writtenNames ++ [method.tokenName]) := by
  rw [Member.declaredNames, declaration, paramNames_cancellableParams, optionParamNames,
    List.append_nil]

theorem declaredNames_delegate (interfaceName : String) :
    (Member.delegate (method.delegate interfaceName)).declaredNames =
      method.handler :: freshName "sender" method.parameterNames :: method.writtenNames := by
  rw [Member.declaredNames, delegate, paramNames_eq_map]
  · rw [List.map_cons, List.map_map]
    rfl
  · exact List.forall_mem_cons.2 ⟨rfl, List.forall_mem_map.2 fun _ _ => rfl⟩

theorem declaredNames_classEvent (interfaceName : String) :
    (Member.event (method.classEvent settings interfaceName)).declaredNames =
      [method.memberName] := by
  rw [Member.declaredNames, classEvent]

theorem declaredNames_interfaceEvent :
    (Member.event method.interfaceEvent).declaredNames = [method.memberName] := by
  rw [Member.declaredNames, interfaceEvent]

/-! ### Legal ones -/

theorem isLegalName_tokenName (method : Signature) : IsLegalName method.tokenName :=
  isLegalName_freshName (by decide) (by decide) _

theorem isLegalName_sender (method : Signature) :
    IsLegalName (freshName "sender" method.parameterNames) :=
  isLegalName_freshName (by decide) (by decide) _

theorem isLegalName_writtenNames_iff
    (h : ∀ name ∈ method.parameterNames, isIdentifier name.toList = true) :
    (∀ name ∈ method.writtenNames, IsLegalName name) ↔
      ∀ name ∈ method.parameterNames, NumeralsFit name.toList := by
  have names : method.writtenNames = method.parameterNames.map escapeKeyword := by
    rw [parameterNames, List.map_map]
    rfl
  rw [names, List.forall_mem_map]
  exact forall₂_congr fun name mem => isLegalName_escapeKeyword_iff (h name mem)

/-- The names that an outgoing method declares. -/
theorem isLegalName_outgoing_iff
    (h : ∀ name ∈ method.name :: method.parameterNames, isIdentifier name.toList = true) :
    (IsLegalName method.memberName ∧ IsLegalName method.tokenName ∧
        ∀ name ∈ method.writtenNames, IsLegalName name) ↔
      ∀ name ∈ method.name :: method.parameterNames, NumeralsFit name.toList := by
  rw [List.forall_mem_cons] at h ⊢
  rw [memberName, isLegalName_escapeKeyword_iff h.1, isLegalName_writtenNames_iff h.2,
    and_iff_right method.isLegalName_tokenName]

/-- The names that an incoming method declares. -/
theorem isLegalName_incoming_iff
    (h : ∀ name ∈ method.name :: method.parameterNames, isIdentifier name.toList = true) :
    (IsLegalName method.memberName ∧ IsLegalName method.handler ∧
        IsLegalName (freshName "sender" method.parameterNames) ∧
        ∀ name ∈ method.writtenNames, IsLegalName name) ↔
      ∀ name ∈ method.name :: method.parameterNames, NumeralsFit name.toList := by
  rw [List.forall_mem_cons] at h ⊢
  rw [memberName, isLegalName_escapeKeyword_iff h.1, handler, isLegalName_handlerName_iff h.1,
    isLegalName_writtenNames_iff h.2, and_iff_right method.isLegalName_sender, and_self_left]

end Signature

namespace Stub

variable {settings : Settings} {stub : Stub}

/-- The segments of the namespace; none in the global one. -/
def segments (stub : Stub) : List String :=
  if stub.containingNamespace = "" then [] else Text.parts '.' stub.containingNamespace

theorem declaredNames_constructor :
    (Member.constructor (stub.constructor settings)).declaredNames =
      stub.className :: connectionParam ::
        (stub.methods .incoming).flatMap (·.writtenNames) := by
  rw [Member.declaredNames, constructor, constructorBody, List.flatMap_cons, List.flatMap_map]
  simp only [paramNames, Param.names, optionParamNames, Statement.paramNames, Expr.paramNames,
    Signature.paramNames_subscription, List.append_nil, List.nil_append, List.cons_append]

theorem declaredNames_connectionProperty :
    (Member.property (connectionProperty settings)).declaredNames =
      [settings.transport.connectionProperty] := by
  rw [Member.declaredNames, connectionProperty, optionParamNames]

/-- What holds of all declared names holds of those of the types, of their members and of the
parameters of these. -/
theorem forall_mem_declaredNames_iff {P : String → Prop} :
    (∀ name ∈ (stub.compilationUnit settings).declaredNames, P name) ↔
      (∀ segment ∈ stub.segments, P segment) ∧ P stub.className ∧ P stub.interfaceName ∧
      P settings.transport.connectionProperty ∧ P connectionParam ∧
      (∀ method ∈ stub.methods .outgoing, P method.memberName ∧ P method.tokenName ∧
        ∀ name ∈ method.writtenNames, P name) ∧
      ∀ method ∈ stub.methods .incoming, P method.memberName ∧ P method.handler ∧
        P (freshName "sender" method.parameterNames) ∧ ∀ name ∈ method.writtenNames, P name := by
  have segments : (stub.compilationUnit settings).fileNamespace.toList.flatMap (Text.parts '.') =
      stub.segments := by
    unfold compilationUnit Stub.segments
    split <;> simp
  rw [CompilationUnit.declaredNames, segments]
  simp only [compilationUnit, classDecl, interfaceDecl, TypeDecl.declaredNames, classMembers,
    interfaceMembers, List.forall_mem_append, List.forall_mem_flatMap, List.forall_mem_cons,
    List.forall_mem_map, Signature.declaredNames_forwarding, Signature.declaredNames_cancellable,
    Signature.declaredNames_declaration, Signature.declaredNames_delegate,
    Signature.declaredNames_classEvent, Signature.declaredNames_interfaceEvent,
    declaredNames_connectionProperty, declaredNames_constructor, List.not_mem_nil, false_imp_iff,
    implies_true, and_true]
  constructor
  · rintro ⟨segments, ⟨className, ⟨⟨property, -⟩, -⟩, -, param, -⟩, interface, outgoing, incoming⟩
    refine ⟨segments, className, interface, property, param, fun m mem => ?_, fun m mem => ?_⟩
    · obtain ⟨name, parameters, token⟩ := outgoing m mem
      exact ⟨name, token, parameters⟩
    · obtain ⟨⟨handler, sender, parameters⟩, name⟩ := incoming m mem
      exact ⟨name, handler, sender, parameters⟩
  · rintro ⟨segments, className, interface, property, param, outgoing, incoming⟩
    refine ⟨segments, ⟨className, ⟨⟨property, fun m mem => ?_⟩, fun m mem => (incoming m mem).1⟩,
      className, param, fun m mem => (incoming m mem).2.2.2⟩, interface, fun m mem => ?_,
      fun m mem => ?_⟩
    · obtain ⟨name, token, parameters⟩ := outgoing m mem
      exact ⟨⟨name, parameters⟩, name, parameters, token⟩
    · obtain ⟨name, token, parameters⟩ := outgoing m mem
      exact ⟨name, parameters, token⟩
    · obtain ⟨name, handler, sender, parameters⟩ := incoming m mem
      exact ⟨⟨handler, sender, parameters⟩, name⟩

/-! ## Names that were given -/

/-- The names of the class, of its namespace, and of the methods and their parameters. -/
def givenNames (stub : Stub) : List String :=
  stub.className :: stub.segments ++
    (stub.methods .outgoing ++ stub.methods .incoming).flatMap fun method =>
      method.name :: method.parameterNames

theorem isIdentifier_of_mem_givenNames (h : stub.checkNames = .ok ()) :
    ∀ name ∈ stub.givenNames, isIdentifier name.toList = true := by
  obtain ⟨className, segments, -⟩ := checkNames_eq_ok_iff.1 h
  rw [givenNames, List.cons_append, List.forall_mem_cons, List.forall_mem_append]
  refine ⟨className, ?segments, ?methods⟩
  case segments =>
    unfold Stub.segments
    split
    · exact List.forall_mem_nil _
    · next inside =>
      exact fun segment mem =>
        checkIdentifier_eq_ok_iff.1 (forM_eq_ok_iff.1 (segments inside) segment mem)
  case methods =>
    rw [List.forall_mem_flatMap, List.forall_mem_append]
    exact ⟨fun _ => isIdentifier_of_mem_methods h, fun _ => isIdentifier_of_mem_methods h⟩

/-- **All names that a source declares are legal, unless the class or a segment of the namespace is
a keyword, the class is written with an at sign, or a name has numerals that C# does not admit.** So
escaping keywords, uppercasing, and adding words or underscores make no illegal names: where the
numerals fit, only the names that are written as they are given can be illegal, and that of the
interface. -/
theorem declaredNames_legal_iff (settings : Settings) (stub : Stub) {unit : CompilationUnit}
    (written : stub.lower settings = .ok unit) :
    ((∀ name ∈ unit.declaredNames, IsLegalName name) ↔
      IsLegalName settings.transport.connectionProperty ∧
      stub.className ∉ keywords ∧ stub.className.toList.head? ≠ some '@' ∧
      (∀ segment ∈ stub.segments, segment ∉ keywords) ∧
      ∀ name ∈ stub.givenNames, NumeralsFit name.toList) ∧
    ((∀ name ∈ stub.givenNames, NumeralsFit name.toList) →
      ∀ name ∈ unit.declaredNames, IsLegalName name ∨ name ∈ stub.segments ∨
        name = settings.transport.connectionProperty ∨ name = stub.className ∨
        name = stub.interfaceName) := by
  obtain ⟨checked, rfl⟩ := lower_eq_ok_iff.1 written
  have identifiers := isIdentifier_of_mem_givenNames checked
  rw [givenNames, List.cons_append, List.forall_mem_cons, List.forall_mem_append,
    List.forall_mem_flatMap, List.forall_mem_append] at identifiers ⊢
  obtain ⟨className, segments, outgoing, incoming⟩ := identifiers
  have param : IsLegalName connectionParam := by decide
  have outgoingLegal := forall₂_congr fun method mem =>
    Signature.isLegalName_outgoing_iff (outgoing method mem)
  have incomingLegal := forall₂_congr fun method mem =>
    Signature.isLegalName_incoming_iff (incoming method mem)
  constructor
  · have segmentsLegal : (∀ segment ∈ stub.segments, IsLegalName segment) ↔
        (∀ segment ∈ stub.segments, segment ∉ keywords) ∧
          ∀ segment ∈ stub.segments, NumeralsFit segment.toList := by
      rw [← forall₂_and]
      exact forall₂_congr fun segment mem => isLegalName_iff (segments segment mem)
    rw [forall_mem_declaredNames_iff, segmentsLegal, isLegalName_iff className, interfaceName,
      isLegalName_interface_iff className, outgoingLegal, incomingLegal]
    constructor
    · rintro ⟨⟨others, segmentsFit⟩, ⟨other, fits⟩, ⟨plain, -⟩, property, -, outgoing, incoming⟩
      exact ⟨property, other, plain, others, fits, segmentsFit, outgoing, incoming⟩
    · rintro ⟨property, other, plain, others, fits, segmentsFit, outgoing, incoming⟩
      exact ⟨⟨others, segmentsFit⟩, ⟨other, fits⟩, ⟨plain, fits⟩, property, param, outgoing,
        incoming⟩
  · -- the names that are written as given, and that of the interface, are among the exceptions
    rintro ⟨-, -, outgoingFit, incomingFit⟩
    rw [forall_mem_declaredNames_iff]
    refine ⟨fun segment mem => .inr (.inl mem), .inr (.inr (.inr (.inl rfl))),
      .inr (.inr (.inr (.inr rfl))), .inr (.inr (.inl rfl)), .inl param, ?outgoing, ?incoming⟩
    case outgoing =>
      intro method mem
      obtain ⟨name, token, parameters⟩ := outgoingLegal.2 outgoingFit method mem
      exact ⟨.inl name, .inl token, fun name mem => .inl (parameters name mem)⟩
    case incoming =>
      intro method mem
      obtain ⟨name, handler, sender, parameters⟩ := incomingLegal.2 incomingFit method mem
      exact ⟨.inl name, .inl handler, .inl sender, fun name mem => .inl (parameters name mem)⟩

/-- A client whose methods and parameters have names that change when they are written: keywords,
the name of the token, and a letter that has no uppercase form of one character. -/
def polyglot : Stub where
  className := "Client"
  containingNamespace := "App.Hubs"
  visibility := .isPublic
  outgoing :=
    [⟨"IOut", [⟨"class", .nothing, [⟨"string", "cancellationToken", false, none, false⟩,
      ⟨"string", "await", false, none, false⟩]⟩]⟩]
  incoming := [⟨"IIn", [⟨"ŉord", .nothing, [⟨"string", "sender", false, none, false⟩]⟩]⟩]

theorem declaredNames_legal_polyglot :
    polyglot.lower {} = .ok (polyglot.compilationUnit {}) ∧
      ∀ name ∈ (polyglot.compilationUnit {}).declaredNames, IsLegalName name := by
  have written : polyglot.lower {} = .ok (polyglot.compilationUnit {}) :=
    lower_eq_ok_iff.2 ⟨by decide, rfl⟩
  refine ⟨written, (declaredNames_legal_iff {} polyglot written).1.2 ⟨?_, ?_, ?_, ?_, ?_⟩⟩
  all_goals decide

/-- A class that is called like a keyword. -/
def keywordClass : Stub := ⟨"event", "", .isPublic, [], []⟩

/-- It is accepted, and its name is written as it is. -/
theorem not_declaredNames_legal_keywordClass :
    keywordClass.lower {} = .ok (keywordClass.compilationUnit {}) ∧
      IsLegalName ({} : Settings).transport.connectionProperty ∧
      ¬ ∀ name ∈ (keywordClass.compilationUnit {}).declaredNames, IsLegalName name := by
  refine ⟨lower_eq_ok_iff.2 ⟨by decide, rfl⟩, by decide, fun legal => ?_⟩
  have className : IsLegalName "event" := (forall_mem_declaredNames_iff.1 legal).2.1
  exact absurd className.2 (by decide)

end Stub

end TypedHub
