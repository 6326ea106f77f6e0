import TypedHub.Proofs.CSharp.Descent
import TypedHub.Proofs.CSharp.Spelling

/-!
# How printed expressions are read

A printed expression with simple leaves is read in one way, and what it is read as determines the
expression, so different expressions are printed differently (`Expr.text_injective`).

What it is read as need not be what was printed. A null-conditional invocation is printed without
parentheses in front of a member access or a call, which it then takes up; and a string with a line
separator or a paragraph separator is no literal. `Expr.reads_text_iff` says exactly which
expressions are read as they were meant.
-/

namespace TypedHub.CSharp

/-! ## Readings of expressions -/

mutual

/-- What an expression is read as where member accesses and calls may follow. -/
@[simp]
def Expr.chain : Expr → Chain
  | .name text => ⟨none, .name text⟩
  | .literal text => ⟨none, .number text⟩
  | .str value => ⟨none, .str value⟩
  | .this => ⟨none, .this⟩
  | .defaultValue => ⟨none, .defaultValue⟩
  | .member target memberName =>
    ⟨target.chain.receiver?, .member target.chain.last memberName⟩
  | .call callee typeArguments arguments =>
    ⟨callee.chain.receiver?, .call callee.chain.last typeArguments (exprReadings arguments)⟩
  | .invokeIfSet target arguments =>
    ⟨some target.chain.whole, .invocation (exprReadings arguments)⟩
  | .await operand => ⟨none, .await operand.chain.whole⟩
  | .coalesce left right => ⟨none, .coalesce left.chain.whole right.chain.whole⟩
  | .discard value => ⟨none, .assign (.name "_") value.chain.whole⟩
  | .lambda isAsync parameters body =>
    ⟨none, .lambda isAsync (paramReadings parameters) body.chain.whole⟩

@[simp]
def exprReadings : List Expr → List Reading
  | [] => []
  | e :: rest => e.chain.whole :: exprReadings rest

@[simp]
def Param.reading : Param → Formal Reading
  | ⟨isParams, type, name, default?⟩ => ⟨isParams, type, name, optionReading default?⟩

@[simp]
def paramReadings : List Param → List (Formal Reading)
  | [] => []
  | p :: rest => p.reading :: paramReadings rest

@[simp]
def optionReading : Option Expr → Option Reading
  | none => none
  | some value => some value.chain.whole

end

/-- What an expression is read as. -/
def Expr.read (e : Expr) : Reading := e.chain.whole

mutual

/-- The tree that an expression is printed for, constructor by constructor. -/
@[simp]
def Expr.meant : Expr → Reading
  | .name text => .name text
  | .literal text => .number text
  | .str value => .str value
  | .this => .this
  | .defaultValue => .defaultValue
  | .member target memberName => .member target.meant memberName
  | .call callee typeArguments arguments => .call callee.meant typeArguments (exprsMeant arguments)
  | .invokeIfSet target arguments => .conditional target.meant (.invocation (exprsMeant arguments))
  | .await operand => .await operand.meant
  | .coalesce left right => .coalesce left.meant right.meant
  | .discard value => .assign (.name "_") value.meant
  | .lambda isAsync parameters body => .lambda isAsync (paramsMeant parameters) body.meant

@[simp]
def exprsMeant : List Expr → List Reading
  | [] => []
  | e :: rest => e.meant :: exprsMeant rest

@[simp]
def Param.meant : Param → Formal Reading
  | ⟨isParams, type, name, default?⟩ => ⟨isParams, type, name, optionMeant default?⟩

@[simp]
def paramsMeant : List Param → List (Formal Reading)
  | [] => []
  | p :: rest => p.meant :: paramsMeant rest

@[simp]
def optionMeant : Option Expr → Option Reading
  | none => none
  | some value => some value.meant

end

/-! ## The expression from its reading -/

mutual

/-- The expression that is read so; what is evaluated with a receiver is invoked on it. -/
@[simp]
def Reading.toExpr (receiver : Expr) : Reading → Expr
  | .name text => .name text
  | .number text => .literal text
  | .str value => .str value
  | .this => .this
  | .defaultValue => .defaultValue
  | .member target memberName => .member (target.toExpr receiver) memberName
  | .call callee typeArguments arguments =>
    .call (callee.toExpr receiver) typeArguments (toExprs arguments)
  | .conditional receiver whenSet => whenSet.toExpr (receiver.toExpr .this)
  | .invocation arguments => .invokeIfSet receiver (toExprs arguments)
  | .await operand => .await (operand.toExpr .this)
  | .coalesce left right => .coalesce (left.toExpr .this) (right.toExpr .this)
  | .assign _ value => .discard (value.toExpr .this)
  | .lambda isAsync parameters body => .lambda isAsync (toParams parameters) (body.toExpr .this)

@[simp]
def toExprs : List Reading → List Expr
  | [] => []
  | r :: rest => r.toExpr .this :: toExprs rest

@[simp]
def Formal.toParam : Formal Reading → Param
  | ⟨isParams, type, name, default?⟩ => ⟨isParams, type, name, optionToExpr default?⟩

@[simp]
def toParams : List (Formal Reading) → List Param
  | [] => []
  | p :: rest => p.toParam :: toParams rest

@[simp]
def optionToExpr : Option Reading → Option Expr
  | none => none
  | some r => some (r.toExpr .this)

end

/-- The receiver of the last null-conditional invocation as an expression; where there is none, it
does not matter what it is. -/
def receiverExpr : Option Reading → Expr
  | none => .this
  | some receiver => receiver.toExpr .this

@[simp]
theorem receiverExpr_none : receiverExpr none = .this := rfl

@[simp]
theorem receiverExpr_some (receiver : Reading) :
    receiverExpr (some receiver) = receiver.toExpr .this := rfl

theorem Chain.toExpr_whole (chain : Chain) :
    chain.whole.toExpr .this = chain.last.toExpr (receiverExpr chain.receiver?) := by
  obtain ⟨_ | receiver, last⟩ := chain <;> simp [whole]

mutual

/-- The reading of an expression determines it. -/
theorem Expr.toExpr_chain : ∀ e : Expr, e.chain.last.toExpr (receiverExpr e.chain.receiver?) = e
  | .name _ | .literal _ | .str _ | .this | .defaultValue => by simp
  | .member target _ => by simp [target.toExpr_chain]
  | .call callee _ arguments => by simp [callee.toExpr_chain, toExprs_readings arguments]
  | .invokeIfSet target arguments => by
    have same := target.toExpr_chain
    rw [← Chain.toExpr_whole] at same
    simp [same, toExprs_readings arguments]
  | .await operand => by simp [Chain.toExpr_whole, operand.toExpr_chain]
  | .coalesce left right => by simp [Chain.toExpr_whole, left.toExpr_chain, right.toExpr_chain]
  | .discard value => by simp [Chain.toExpr_whole, value.toExpr_chain]
  | .lambda _ parameters body => by
    simp [Chain.toExpr_whole, body.toExpr_chain, toParams_readings parameters]

theorem toExprs_readings : ∀ list : List Expr, toExprs (exprReadings list) = list
  | [] => by simp
  | e :: rest => by simp [Chain.toExpr_whole, e.toExpr_chain, toExprs_readings rest]

theorem Param.toParam_reading : ∀ p : Param, p.reading.toParam = p
  | ⟨_, _, _, none⟩ => by simp
  | ⟨_, _, _, some value⟩ => by simp [Chain.toExpr_whole, value.toExpr_chain]

theorem toParams_readings : ∀ list : List Param, toParams (paramReadings list) = list
  | [] => by simp
  | p :: rest => by simp [p.toParam_reading, toParams_readings rest]

end

theorem Expr.toExpr_read (e : Expr) : e.read.toExpr .this = e := by
  rw [read, Chain.toExpr_whole, toExpr_chain]

/-! ## The grammar derives the reading -/

theorem exprReadings_eq_map (list : List Expr) : exprReadings list = list.map Expr.read := by
  induction list with
  | nil => simp
  | cons e rest ih => rw [exprReadings, ih, List.map_cons, Expr.read]

theorem paramReadings_eq_map (list : List Param) :
    paramReadings list = list.map Param.reading := by
  induction list with
  | nil => simp
  | cons p rest ih => rw [paramReadings, ih, List.map_cons]

/-- Where in the grammar an expression stands. -/
def Expr.level : Expr → Level
  | .await _ => .unary
  | .coalesce _ _ => .coalescing
  | .discard _ | .lambda _ _ _ => .expression
  | e => .operand e.chain.receiver?

/-- The tokens of an expression with what they are read as. -/
def Expr.derived (e : Expr) : List Token × Reading := (e.tokens, e.read)

/-- A parameter with the tokens and the reading of its default. -/
def Param.derived (p : Param) : Formal (List Token × Reading) :=
  ⟨p.isParams, p.type, p.name, p.default?.map Expr.derived⟩

theorem Param.map_fst_derived (p : Param) : p.derived.map (·.1) = p.withTokens := by
  obtain ⟨isParams, type, name, _ | value⟩ := p <;>
    simp [derived, Formal.map, withTokens, optionTokens, Expr.derived]

theorem Param.map_snd_derived (p : Param) : p.derived.map (·.2) = p.reading := by
  obtain ⟨isParams, type, name, _ | value⟩ := p <;>
    simp [derived, Formal.map, Expr.derived, Expr.read]

section Places

variable {e : Expr} (h : Derives e.level e.tokens e.chain.last)

include h

/-- Any expression may stand where an expression is asked for. -/
theorem Expr.derives_expression : Derives .expression e.tokens e.read := by
  cases e with
  | name | literal | str | this | defaultValue | member | call | invokeIfSet =>
    exact .coalescing (.unary (.operand h))
  | await => exact .coalescing (.unary h)
  | coalesce => exact .coalescing h
  | discard | lambda => exact h

/-- With parentheses as needed, it may stand where an operand is asked for. -/
theorem Expr.derives_operand :
    Derives (.operand e.chain.receiver?) (enclosed e.isLoose e.tokens) e.chain.last := by
  have inner := derives_expression h
  cases e with
  | name | literal | str | this | defaultValue | member | call | invokeIfSet => exact h
  | await | coalesce | discard | lambda => exact .parenthesized inner

/-- With parentheses as needed, it may stand on the right of `??`. -/
theorem Expr.derives_coalescing :
    Derives .coalescing (enclosed e.isAssignment e.tokens) e.read := by
  have inner := derives_expression h
  cases e with
  | name | literal | str | this | defaultValue | member | call | invokeIfSet =>
    exact .unary (.operand h)
  | await => exact .unary h
  | coalesce => exact h
  | discard | lambda => exact .unary (.operand (.parenthesized inner))

end Places

theorem simple_of_mem_derived {parameters : List Param}
    (simple : ∀ leaf ∈ paramLeaves parameters, leaf.IsSimple) :
    ∀ p ∈ parameters.map Param.derived, IsSimpleName p.type ∧ IsSimpleName p.name := by
  induction parameters with
  | nil => exact fun _ mem => absurd mem List.not_mem_nil
  | cons p rest ih =>
    obtain ⟨isParams, type, name, default?⟩ := p
    simp only [paramLeaves, Param.leaves, List.forall_mem_append, List.forall_mem_cons] at simple
    exact List.forall_mem_cons.2 ⟨⟨simple.1.1.1, simple.1.1.2.1⟩, ih simple.2⟩

mutual

/-- The tokens of an expression are read as the expression. -/
theorem Expr.derives : ∀ e : Expr, (∀ leaf ∈ e.leaves, leaf.IsSimple) →
    Derives e.level e.tokens e.chain.last
  | .name text, simple => by
    rw [Expr.tokens, Expr.chain]
    exact .name (simple _ List.mem_cons_self)
  | .literal text, simple => by
    rw [Expr.tokens, Expr.chain]
    exact .number (simple _ List.mem_cons_self)
  | .str value, _ => by
    rw [Expr.tokens, Expr.chain]
    exact .str
  | .this, _ => by
    rw [Expr.tokens, Expr.chain]
    exact .this
  | .defaultValue, _ => by
    rw [Expr.tokens, Expr.chain]
    exact .defaultValue
  | .member target memberName, simple => by
    rw [Expr.leaves, List.forall_mem_append, List.forall_mem_singleton] at simple
    rw [Expr.level, Expr.tokens, Expr.chain]
    · exact .member (Expr.derives_operand (target.derives simple.1)) simple.2
    all_goals exact nofun
  | .call callee typeArguments arguments, simple => by
    simp only [Expr.leaves, List.forall_mem_append, List.forall_mem_map] at simple
    obtain ⟨⟨simpleCallee, simpleTypes⟩, simpleArguments⟩ := simple
    have operand := Expr.derives_operand (callee.derives simpleCallee)
    have all := Derives.call operand simpleTypes (exprs_derive arguments simpleArguments)
    rw [List.map_map, List.map_map] at all
    rw [Expr.level, Expr.tokens, Expr.chain, exprTokens_eq_map, exprReadings_eq_map]
    · exact all
    all_goals exact nofun
  | .invokeIfSet target arguments, simple => by
    rw [Expr.leaves, List.forall_mem_append] at simple
    have operand := Expr.derives_operand (target.derives simple.1)
    have all := Derives.invokeIfSet operand (exprs_derive arguments simple.2)
    rw [List.map_map, List.map_map] at all
    rw [Expr.level, Expr.tokens, Expr.chain, exprTokens_eq_map, exprReadings_eq_map]
    · exact all
    all_goals exact nofun
  | .await operand, simple => by
    rw [Expr.level, Expr.tokens, Expr.chain]
    exact .await (.operand (Expr.derives_operand (operand.derives simple)))
  | .coalesce left right, simple => by
    rw [Expr.leaves, List.forall_mem_append] at simple
    rw [Expr.level, Expr.tokens, Expr.chain]
    exact .coalesce (.operand (Expr.derives_operand (left.derives simple.1)))
      (Expr.derives_coalescing (right.derives simple.2))
  | .discard value, simple => by
    rw [Expr.level, Expr.tokens, Expr.chain]
    exact .assign (.operand (.name (by decide))) (Expr.derives_expression (value.derives simple))
  | .lambda isAsync parameters body, simple => by
    rw [Expr.leaves, List.forall_mem_append] at simple
    have all := @Derives.lambda isAsync _ _ _ (simple_of_mem_derived simple.1)
      (params_derive parameters simple.1) (Expr.derives_expression (body.derives simple.2))
    simp only [List.map_map, Function.comp_def, Param.map_fst_derived, Param.map_snd_derived] at all
    rw [Expr.level, Expr.tokens, Expr.chain, paramTokens_eq_map, paramReadings_eq_map, List.map_map]
    exact all

theorem exprs_derive : ∀ list : List Expr, (∀ leaf ∈ exprLeaves list, leaf.IsSimple) →
    ∀ argument ∈ list.map Expr.derived, Derives .expression argument.1 argument.2
  | [], _ => fun _ mem => absurd mem List.not_mem_nil
  | e :: rest, simple => by
    rw [exprLeaves, List.forall_mem_append] at simple
    exact List.forall_mem_cons.2
      ⟨Expr.derives_expression (e.derives simple.1), exprs_derive rest simple.2⟩

theorem params_derive : ∀ list : List Param, (∀ leaf ∈ paramLeaves list, leaf.IsSimple) →
    ∀ p ∈ list.map Param.derived, ∀ value ∈ p.default?, Derives .expression value.1 value.2
  | [], _ => fun _ mem => absurd mem List.not_mem_nil
  | ⟨_, _, _, none⟩ :: rest, simple => by
    rw [paramLeaves, List.forall_mem_append] at simple
    exact List.forall_mem_cons.2 ⟨nofun, params_derive rest simple.2⟩
  | ⟨_, _, _, some value⟩ :: rest, simple => by
    simp only [paramLeaves, Param.leaves, optionLeaves, List.forall_mem_append] at simple
    refine List.forall_mem_cons.2 ⟨fun derived is => ?_, params_derive rest simple.2⟩
    obtain rfl := Option.some.inj is
    exact Expr.derives_expression (value.derives simple.1.2)

end

/-! ## What C# reads -/

/-- A text is read as a tree if its literals are closed where they must be, and its tokens are those
of the tree. -/
def Reads (text : String) (reading : Reading) : Prop :=
  ClosesOnLine text ∧ ∃ tokens, lex text.toList = some tokens ∧ Derives .expression tokens reading

theorem plain_of_isWordChar {word : String} (chars : ∀ c ∈ word.toList, isWordChar c = true) :
    Plain word := fun c mem structured => by
  have none : ∀ c ∈ structural, isWordChar c = false := forall_mem_of_all (by decide +kernel)
  have char := chars c mem
  rw [none c structured] at char
  cases char

namespace Leaf

variable {leaf : Leaf}

theorem plain_or_exists_str (simple : leaf.IsSimple) :
    Plain leaf.text ∨ ∃ value, leaf = str value := by
  cases leaf with
  | name text =>
    have chars := simple.1.elim isWordChar_of_isIdentifier isWordChar_of_isLegalIdentifier
    exact .inl (plain_of_isWordChar chars)
  | literal text => exact .inl (plain_of_isWordChar (isWordChar_of_isNumber simple))
  | str value => exact .inr ⟨value, rfl⟩

theorem quiet_text (simple : leaf.IsSimple) : Quiet leaf.text := by
  obtain plain | ⟨value, rfl⟩ := plain_or_exists_str simple
  · exact plain.quiet
  · exact quiet_stringLiteral value

/-- No end of a line stands in the literal of a leaf if the leaf is on one line. -/
theorem isOnOneLine_iff (simple : leaf.IsSimple) :
    leaf.IsOnOneLine ↔ ∀ c ∈ lineEnds, ¬InLiteral c leaf.text := by
  obtain plain | ⟨value, rfl⟩ := plain_or_exists_str simple
  · cases leaf with
    | name | literal => exact iff_of_true trivial fun c _ => plain.not_inLiteral c
    | str value =>
      exact absurd List.mem_cons_self (plain '"' (by rw [text, toList_stringLiteral]; simp))
  · have ends : ∀ c ∈ separators, c ∈ lineEnds := forall_mem_of_all (by decide)
    constructor
    · exact fun h c mem inside =>
        have ⟨separator, there⟩ := (inLiteral_stringLiteral_iff mem value).1 inside
        h c separator there
    · exact fun h c mem there =>
        h c (ends c mem) ((inLiteral_stringLiteral_iff (ends c mem) value).2 ⟨mem, there⟩)

end Leaf

namespace Expr

variable {e : Expr}

theorem closesOnLine_text_iff (simple : ∀ leaf ∈ e.leaves, leaf.IsSimple) :
    ClosesOnLine e.text ↔ ∀ leaf ∈ e.leaves, leaf.IsOnOneLine := by
  have scans := e.scans (by
    rw [pieces_eq]
    exact List.forall_mem_map.2 fun leaf mem => Leaf.quiet_text (simple leaf mem))
  rw [ClosesOnLine, and_iff_right scans.closed]
  simp only [scans.inLiteral_iff, pieces_eq, List.mem_map, exists_exists_and_eq_and, not_exists,
    not_and]
  constructor
  · exact fun h leaf mem =>
      (Leaf.isOnOneLine_iff (simple leaf mem)).2 fun c ends => h c ends leaf mem
  · exact fun h c ends leaf mem => (Leaf.isOnOneLine_iff (simple leaf mem)).1 (h leaf mem) c ends

/-- A printed expression is read in one way at most, and in one if its strings are on one line. -/
theorem reads_iff_read (simple : ∀ leaf ∈ e.leaves, leaf.IsSimple) (reading : Reading) :
    Reads e.text reading ↔ (∀ leaf ∈ e.leaves, leaf.IsOnOneLine) ∧ reading = e.read := by
  have derives := derives_expression (e.derives simple)
  have tokens := (e.spells simple).lex_eq
  rw [Reads, closesOnLine_text_iff simple]
  refine and_congr_right fun _ => ⟨?_, ?_⟩
  · rintro ⟨_, read, derived⟩
    rw [tokens] at read
    exact Derives.unique (Option.some.inj read ▸ derived) derives
  · rintro rfl
    exact ⟨_, tokens, derives⟩

/-- **Different expressions are printed differently.** Any two expressions with simple leaves that
are printed alike are the same. -/
theorem text_injective {e' : Expr} (simple : ∀ leaf ∈ e.leaves, leaf.IsSimple)
    (simple' : ∀ leaf ∈ e'.leaves, leaf.IsSimple) (same : e.text = e'.text) : e = e' := by
  have tokens := (e.spells simple).lex_eq
  rw [same, (e'.spells simple').lex_eq] at tokens
  have derives := derives_expression (e.derives simple)
  rw [← Option.some.inj tokens] at derives
  have read := derives.unique (derives_expression (e'.derives simple'))
  rw [← e.toExpr_read, read, toExpr_read]

theorem text_injective_callMethod :
    (callMethod (.name "hub") "Stop").text = "hub.Stop()" ∧
      callMethod (.name "hub") "Stop" = .call (.member (.name "hub") "Stop") [] [] :=
  ⟨rfl, text_injective (by decide +kernel) (by decide +kernel) rfl⟩

end Expr

/-! ## What was meant -/

/-- A null-conditional invocation. -/
def Expr.isConditional : Expr → Bool
  | .invokeIfSet _ _ => true
  | _ => false

mutual

/-- No member is accessed and nothing is called right behind a null-conditional invocation. -/
@[simp]
def Expr.IsUnabsorbed : Expr → Prop
  | .name _ | .literal _ | .str _ | .this | .defaultValue => True
  | .member target _ => target.isConditional = false ∧ target.IsUnabsorbed
  | .call callee _ arguments =>
    (callee.isConditional = false ∧ callee.IsUnabsorbed) ∧ exprsUnabsorbed arguments
  | .invokeIfSet target arguments => target.IsUnabsorbed ∧ exprsUnabsorbed arguments
  | .await operand => operand.IsUnabsorbed
  | .coalesce left right => left.IsUnabsorbed ∧ right.IsUnabsorbed
  | .discard value => value.IsUnabsorbed
  | .lambda _ parameters body => paramsUnabsorbed parameters ∧ body.IsUnabsorbed

@[simp]
def exprsUnabsorbed : List Expr → Prop
  | [] => True
  | e :: rest => e.IsUnabsorbed ∧ exprsUnabsorbed rest

@[simp]
def Param.IsUnabsorbed : Param → Prop
  | ⟨_, _, _, default?⟩ => optionUnabsorbed default?

@[simp]
def paramsUnabsorbed : List Param → Prop
  | [] => True
  | p :: rest => p.IsUnabsorbed ∧ paramsUnabsorbed rest

@[simp]
def optionUnabsorbed : Option Expr → Prop
  | none => True
  | some value => value.IsUnabsorbed

end

@[simp]
theorem Chain.whole_none (last : Reading) : whole ⟨none, last⟩ = last := rfl

@[simp]
theorem Chain.whole_some (receiver last : Reading) :
    whole ⟨some receiver, last⟩ = .conditional receiver last := rfl

theorem Chain.whole_eq_iff {chain : Chain} {reading : Reading}
    (h : ∀ receiver whenSet, reading ≠ .conditional receiver whenSet) :
    chain.whole = reading ↔ chain.receiver? = none ∧ chain.last = reading := by
  obtain ⟨_ | receiver, last⟩ := chain
  · simp
  · exact iff_of_false (fun same => h receiver last same.symm) fun ⟨absent, _⟩ => nomatch absent

/-- What stands in front of a member access or a call is read as it was meant if it takes up
nothing of what follows. -/
theorem Expr.chain_eq_iff {e : Expr} (h : e.chain.whole = e.meant ↔ e.IsUnabsorbed) :
    (e.chain.receiver? = none ∧ e.chain.last = e.meant) ↔
      e.isConditional = false ∧ e.IsUnabsorbed := by
  by_cases conditional : e.isConditional = true
  · cases e with
    | invokeIfSet target arguments => simp [isConditional]
    | name | literal | str | this | defaultValue | member | call | await | coalesce | discard
    | lambda => cases conditional
  · have other : ∀ receiver whenSet, e.meant ≠ .conditional receiver whenSet := by
      intro receiver whenSet same
      cases e <;> simp [isConditional] at same conditional
    rw [← Chain.whole_eq_iff other, h, Bool.eq_false_iff, and_iff_right conditional]

mutual

/-- An expression is read as it was meant exactly if no null-conditional invocation takes up what
follows it. -/
theorem Expr.whole_eq_meant_iff : ∀ e : Expr, e.chain.whole = e.meant ↔ e.IsUnabsorbed
  | .name _ | .literal _ | .str _ | .this | .defaultValue => by simp
  | .member target memberName => by
    rw [Expr.meant]
    refine (Chain.whole_eq_iff ?_).trans ?_
    · exact nofun
    · simpa using Expr.chain_eq_iff target.whole_eq_meant_iff
  | .call callee types arguments => by
    rw [Expr.meant]
    refine (Chain.whole_eq_iff ?_).trans ?_
    · exact nofun
    · rw [Expr.chain, Reading.call.injEq, Expr.IsUnabsorbed, eq_self, true_and,
        ← Expr.chain_eq_iff callee.whole_eq_meant_iff, ← exprReadings_eq_iff arguments]
      exact and_assoc.symm
  | .invokeIfSet target arguments => by
    simp [target.whole_eq_meant_iff, exprReadings_eq_iff arguments]
  | .await operand => by simp [operand.whole_eq_meant_iff]
  | .coalesce left right => by simp [left.whole_eq_meant_iff, right.whole_eq_meant_iff]
  | .discard value => by simp [value.whole_eq_meant_iff]
  | .lambda _ parameters body => by
    simp [body.whole_eq_meant_iff, paramReadings_eq_iff parameters]

theorem exprReadings_eq_iff :
    ∀ list : List Expr, exprReadings list = exprsMeant list ↔ exprsUnabsorbed list
  | [] => by simp
  | e :: rest => by simp [e.whole_eq_meant_iff, exprReadings_eq_iff rest]

theorem Param.reading_eq_iff : ∀ p : Param, p.reading = p.meant ↔ p.IsUnabsorbed
  | ⟨_, _, _, none⟩ => by simp
  | ⟨_, _, _, some value⟩ => by simp [value.whole_eq_meant_iff]

theorem paramReadings_eq_iff :
    ∀ list : List Param, paramReadings list = paramsMeant list ↔ paramsUnabsorbed list
  | [] => by simp
  | p :: rest => by simp [p.reading_eq_iff, paramReadings_eq_iff rest]

end

namespace Expr

/-- **Which expressions are read as they were meant.** An expression with simple leaves is read in
one way or not at all. It is read as what it was printed for, and as nothing else, exactly if none
of its strings has a line separator or a paragraph separator, and no null-conditional invocation
stands right in front of a member access or a call. -/
theorem reads_text_iff (e : Expr) (simple : ∀ leaf ∈ e.leaves, leaf.IsSimple) :
    (∀ reading, Reads e.text reading ↔
      (∀ leaf ∈ e.leaves, leaf.IsOnOneLine) ∧ reading = e.read) ∧
    ((∀ reading, Reads e.text reading ↔ reading = e.meant) ↔
      (∀ leaf ∈ e.leaves, leaf.IsOnOneLine) ∧ e.IsUnabsorbed) := by
  refine ⟨reads_iff_read simple, ?_⟩
  simp only [reads_iff_read simple]
  constructor
  · intro same
    obtain ⟨oneLine, is⟩ := (same e.meant).2 rfl
    exact ⟨oneLine, e.whole_eq_meant_iff.1 is.symm⟩
  · rintro ⟨oneLine, unabsorbed⟩ reading
    rw [and_iff_right oneLine, ← e.whole_eq_meant_iff.2 unabsorbed, read]

/-- The right side of `??` is awaited together with the left one. -/
theorem reads_text_iff_await :
    let e : Expr := .await (.coalesce (.name "task") (.name "completed"))
    e.text = "await (task ?? completed)" ∧ ∀ reading, Reads e.text reading ↔ reading = e.meant := by
  intro e
  have simple : ∀ leaf ∈ e.leaves, leaf.IsSimple := by decide +kernel
  refine ⟨rfl, (reads_text_iff e simple).2.2 ⟨?_, ?_⟩⟩
  · simp [e, Leaf.IsOnOneLine]
  · simp [e]

/-- The member of the result of a null-conditional invocation. -/
def memberOfResult : Expr := .member (.invokeIfSet (.name "f") []) "x"

/-- The member is accessed only if the delegate is there. -/
theorem not_reads_meant_memberOfResult :
    (∀ leaf ∈ memberOfResult.leaves, leaf.IsSimple) ∧ memberOfResult.text = "f?.Invoke().x" ∧
      Reads memberOfResult.text
        (.conditional (.name "f") (.member (.invocation []) "x")) ∧
      ¬Reads memberOfResult.text memberOfResult.meant := by
  have simple : ∀ leaf ∈ memberOfResult.leaves, leaf.IsSimple := by decide +kernel
  have oneLine : ∀ leaf ∈ memberOfResult.leaves, leaf.IsOnOneLine := by
    simp [memberOfResult, Leaf.IsOnOneLine]
  refine ⟨simple, rfl, (reads_iff_read simple _).2 ⟨oneLine, rfl⟩, fun reads => ?_⟩
  have absorbed := memberOfResult.whole_eq_meant_iff.1 ((reads_iff_read simple _).1 reads).2.symm
  simp [memberOfResult, isConditional] at absorbed

end Expr

end TypedHub.CSharp
