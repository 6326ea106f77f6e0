import TypedHub.CSharp.Expr
import TypedHub.Proofs.CSharp.Grammar
import TypedHub.Proofs.CSharp.Marks
import TypedHub.Proofs.CSharp.Plain

/-!
# The tokens of a printed expression

An expression is printed piece by piece, and each piece is read as the tokens that it was printed
for, if its leaves are simple: names that are no reserved words, numbers of decimal digits, and
strings of any kind (`Expr.spells`).
-/

namespace TypedHub.CSharp

/-! ## Leaves -/

/-- What stands at the leaves of an expression. -/
inductive Leaf where
  /-- A name, be it that of a member, a parameter or a type. -/
  | name (text : String)
  /-- A literal that is not a string. -/
  | literal (text : String)
  | str (value : String)

namespace Leaf

def text : Leaf → String
  | name text | literal text => text
  | str value => stringLiteral value

/-- A leaf that is read as one token. -/
def IsSimple : Leaf → Prop
  | name text => IsSimpleName text
  | literal text => IsNumber text
  | str _ => True

instance : DecidablePred IsSimple
  | name text => inferInstanceAs (Decidable (IsSimpleName text))
  | literal text => inferInstanceAs (Decidable (IsNumber text))
  | str _ => .isTrue trivial

/-- No line ends in the leaf when it is written. -/
def IsOnOneLine : Leaf → Prop
  | str value => ∀ c ∈ separators, c ∉ value.toList
  | _ => True

end Leaf

mutual

/-- The leaves of an expression, in the order in which they are written. -/
@[simp]
def Expr.leaves : Expr → List Leaf
  | .name text => [.name text]
  | .literal text => [.literal text]
  | .str value => [.str value]
  | .this | .defaultValue => []
  | .member target memberName => target.leaves ++ [.name memberName]
  | .call callee typeArguments arguments =>
    callee.leaves ++ typeArguments.map .name ++ exprLeaves arguments
  | .invokeIfSet target arguments => target.leaves ++ exprLeaves arguments
  | .await operand => operand.leaves
  | .coalesce left right => left.leaves ++ right.leaves
  | .discard value => value.leaves
  | .lambda _ parameters body => paramLeaves parameters ++ body.leaves

@[simp]
def exprLeaves : List Expr → List Leaf
  | [] => []
  | e :: rest => e.leaves ++ exprLeaves rest

@[simp]
def Param.leaves : Param → List Leaf
  | ⟨_, type, name, default?⟩ => [.name type, .name name] ++ optionLeaves default?

@[simp]
def paramLeaves : List Param → List Leaf
  | [] => []
  | p :: rest => p.leaves ++ paramLeaves rest

@[simp]
def optionLeaves : Option Expr → List Leaf
  | none => []
  | some value => value.leaves

end

mutual

/-- The texts that an expression is printed from are those of its leaves. -/
theorem Expr.pieces_eq : ∀ e : Expr, e.pieces = e.leaves.map Leaf.text
  | .name _ | .literal _ | .str _ | .this | .defaultValue => by simp [Expr.pieces, Leaf.text]
  | .member target _ => by simp [Expr.pieces, Leaf.text, target.pieces_eq]
  | .call callee _ arguments => by
    simp [Expr.pieces, Leaf.text, callee.pieces_eq, exprPieces_eq_map arguments, Function.comp_def]
  | .invokeIfSet target arguments => by
    simp [Expr.pieces, target.pieces_eq, exprPieces_eq_map arguments]
  | .await operand => by simp [Expr.pieces, operand.pieces_eq]
  | .coalesce left right => by simp [Expr.pieces, left.pieces_eq, right.pieces_eq]
  | .discard value => by simp [Expr.pieces, value.pieces_eq]
  | .lambda _ parameters body => by
    simp [Expr.pieces, paramPieces_eq_map parameters, body.pieces_eq]

theorem exprPieces_eq_map : ∀ list : List Expr, exprPieces list = (exprLeaves list).map Leaf.text
  | [] => rfl
  | e :: rest => by simp [exprPieces, e.pieces_eq, exprPieces_eq_map rest]

theorem Param.pieces_eq : ∀ p : Param, p.pieces = p.leaves.map Leaf.text
  | ⟨_, _, _, default?⟩ => by simp [Param.pieces, Leaf.text, optionPieces_eq_map default?]

theorem paramPieces_eq_map :
    ∀ list : List Param, paramPieces list = (paramLeaves list).map Leaf.text
  | [] => rfl
  | p :: rest => by simp [paramPieces, p.pieces_eq, paramPieces_eq_map rest]

theorem optionPieces_eq_map :
    ∀ e? : Option Expr, optionPieces e? = (optionLeaves e?).map Leaf.text
  | none => rfl
  | some e => by simp [optionPieces, e.pieces_eq]

end

/-! ## Tokens -/

/-- Tokens between parentheses if there is need for them. -/
def enclosed (needed : Bool) (tokens : List Token) : List Token :=
  if needed then .mark .openParen :: tokens ++ [.mark .closeParen] else tokens

mutual

/-- The tokens of an expression. -/
def Expr.tokens : Expr → List Token
  | .name text | .literal text => [.word text]
  | .str value => [.string value]
  | .this => [.word "this"]
  | .defaultValue => [.word "default", .mark .bang]
  | .member target memberName =>
    enclosed target.isLoose target.tokens ++ [.mark .point, .word memberName]
  | .call callee typeArguments arguments =>
    enclosed callee.isLoose callee.tokens ++ typeArgumentTokens typeArguments ++
      groupTokens (exprTokens arguments)
  | .invokeIfSet target arguments =>
    enclosed target.isLoose target.tokens ++
      .mark .ifSet :: .word "Invoke" :: groupTokens (exprTokens arguments)
  | .await operand => .word "await" :: enclosed operand.isLoose operand.tokens
  | .coalesce left right =>
    enclosed left.isLoose left.tokens ++ .mark .ifNull :: enclosed right.isAssignment right.tokens
  | .discard value => [.word "_"] ++ .mark .equals :: value.tokens
  | .lambda isAsync parameters body =>
    (if isAsync then [.word "async"] else []) ++
      groupTokens ((paramTokens parameters).map Formal.tokens) ++ .mark .arrow :: body.tokens

/-- The tokens of expressions, one by one. -/
def exprTokens : List Expr → List (List Token)
  | [] => []
  | e :: rest => e.tokens :: exprTokens rest

/-- A parameter with the tokens of its default. -/
def Param.withTokens : Param → Formal (List Token)
  | ⟨isParams, type, name, default?⟩ => ⟨isParams, type, name, optionTokens default?⟩

def paramTokens : List Param → List (Formal (List Token))
  | [] => []
  | p :: rest => p.withTokens :: paramTokens rest

def optionTokens : Option Expr → Option (List Token)
  | none => none
  | some value => some value.tokens

end

/-! ## Words -/

theorem isWordChar_of_isIdentifier {name : List Char} (h : isIdentifier name = true) :
    ∀ c ∈ name, isWordChar c = true := by
  intro c mem
  obtain rfl | part := eq_at_or_isNamePart_of_isIdentifier h c mem
  · exact Bool.or_true _
  · rw [isWordChar, part, Bool.true_or, Bool.true_or]

theorem isWordChar_of_isLegalIdentifier {name : List Char} (h : isLegalIdentifier name = true) :
    ∀ c ∈ name, isWordChar c = true := by
  have plain {text : List Char} (h : isLegalPlain text = true) (c : Char) (mem : c ∈ text) :
      isWordChar c = true := by
    have part := List.all_eq_true.1 (all_isLegalPart_of_isLegalPlain h) c mem
    rw [isWordChar, part, Bool.or_true, Bool.true_or]
  unfold isLegalIdentifier at h
  split at h
  · exact List.forall_mem_cons.2 ⟨Bool.or_true _, plain h⟩
  · exact plain h

theorem spells_of_isSimpleName {name : String} (simple : IsSimpleName name) :
    Spells name [.word name] := by
  refine spells_word ?_ (simple.1.elim isWordChar_of_isIdentifier isWordChar_of_isLegalIdentifier)
  rintro rfl
  revert simple
  decide

theorem isWordChar_of_isNumber {text : String} (digits : IsNumber text) :
    ∀ c ∈ text.toList, isWordChar c = true := by
  intro c mem
  have all : ∀ code ∈ List.range' 48 10, isWordChar (Char.ofNat code) = true := by decide +kernel
  have bounds := toNat_of_isDigit (List.all_eq_true.1 digits.2 c mem)
  have digit := all c.toNat (List.mem_range'_1.2 (by omega))
  rwa [Char.ofNat_toNat] at digit

theorem spells_of_isNumber {text : String} (digits : IsNumber text) : Spells text [.word text] :=
  spells_word digits.1 (isWordChar_of_isNumber digits)

/-- Words that are no names. -/
theorem spells_reserved {word : String}
    (h : word ∈ ["this", "default", "Invoke", "await", "async", "params", "_"]) :
    Spells word [.word word] := by
  have all : ∀ word ∈ ["this", "default", "Invoke", "await", "async", "params", "_"],
      word ≠ "" ∧ word.toList.all isWordChar = true := by decide +kernel
  obtain ⟨nonempty, chars⟩ := all word h
  exact spells_word nonempty (List.all_eq_true.1 chars)

/-! ## Lists -/

section Lists

variable {front : String} {tokens : List Token}

theorem spells_intercalate {α : Type} {text : α → String} {tokensOf : α → List Token}
    {list : List α} (h : ∀ a ∈ list, Spells (text a) (tokensOf a)) :
    Spells (", ".intercalate (list.map text)) (separated (list.map tokensOf)) := by
  match list, h with
  | [], _ => exact delimits_empty.spells
  | [a], h => 
    rw [List.map_singleton, List.map_singleton, String.intercalate_singleton, separated_singleton]
    exact h a List.mem_cons_self
  | a :: b :: rest, h => 
    have others := spells_intercalate fun other mem => h other (List.mem_cons_of_mem a mem)
    have all := ((h a List.mem_cons_self).before stands_comma).spells_append others
    rw [List.map_cons, List.map_cons, String.intercalate_cons_cons, List.map_cons, List.map_cons,
      separated_cons_cons]
    rwa [List.append_assoc] at all

theorem spells_parenthesized (h : Spells front tokens) (needed : Bool) :
    Spells (parenthesized needed front) (enclosed needed tokens) := by
  unfold parenthesized enclosed
  split
  · exact ((stands_openParen.delimits.spells_append h).before stands_closeParen).spells
  · exact h

/-- Type arguments behind a text. -/
theorem Spells.typeArguments (first : Spells front tokens) {types : List String}
    (simple : ∀ type ∈ types, IsSimpleName type) :
    Spells (front ++ typeArgumentText types) (tokens ++ typeArgumentTokens types) := by
  cases types with
  | nil => 
    rw [typeArgumentText, String.append_empty, typeArgumentTokens, List.append_nil]
    exact first
  | cons type more => 
    have inner : Spells (", ".intercalate ((type :: more).map fun type => type)) _ :=
      spells_intercalate fun type mem => spells_of_isSimpleName (simple type mem)
    rw [List.map_id'] at inner
    have all := ((first.before stands_less).spells_append inner).before stands_greater
    rw [List.append_assoc, List.append_assoc] at all
    have split : front ++ typeArgumentText (type :: more) =
        front ++ "<" ++ ", ".intercalate (type :: more) ++ ">" := by
      rw [typeArgumentText]
      · simp only [String.append_assoc]
      · exact List.cons_ne_nil _ _
    rw [split]
    exact all.spells

/-- Arguments in parentheses behind a text. -/
theorem Spells.group (first : Spells front tokens) {inner : String} {parts : List (List Token)}
    (second : Spells inner (separated parts)) :
    Delimits (front ++ "(" ++ inner ++ ")") (tokens ++ groupTokens parts) := by
  have all := ((first.before stands_openParen).spells_append second).before stands_closeParen
  rwa [List.append_assoc, List.append_assoc] at all

end Lists

/-! ## Expressions -/

theorem exprTexts_eq_map (list : List Expr) : exprTexts list = list.map Expr.text := by
  induction list with
  | nil => rfl
  | cons e rest ih => rw [exprTexts, ih, List.map_cons]

theorem paramTexts_eq_map (list : List Param) : paramTexts list = list.map Param.text := by
  induction list with
  | nil => rfl
  | cons p rest ih => rw [paramTexts, ih, List.map_cons]

theorem exprTokens_eq_map (list : List Expr) : exprTokens list = list.map Expr.tokens := by
  induction list with
  | nil => rfl
  | cons e rest ih => rw [exprTokens, ih, List.map_cons]

theorem paramTokens_eq_map (list : List Param) :
    paramTokens list = list.map Param.withTokens := by
  induction list with
  | nil => rfl
  | cons p rest ih => rw [paramTokens, ih, List.map_cons]

/-- A parameter without its default. -/
theorem spells_declared (isParams : Bool) {type name : String} (simpleType : IsSimpleName type)
    (simpleName : IsSimpleName name) :
    Spells ((if isParams then "params " else "") ++ type ++ " " ++ name)
      ((if isParams then [.word "params"] else []) ++ [.word type, .word name]) := by
  have front : Delimits (if isParams then "params " else "")
      (if isParams then [.word "params"] else []) := by
    cases isParams with
    | false => exact delimits_empty
    | true =>
      have word : Spells "params" [.word "params"] := spells_reserved (by decide)
      exact word.before stands_blank
  have typed := (front.spells_append (spells_of_isSimpleName simpleType)).before stands_blank
  have all := typed.spells_append (spells_of_isSimpleName simpleName)
  rwa [List.append_nil, List.append_assoc] at all

mutual

/-- The text of an expression is read as its tokens. -/
theorem Expr.spells : ∀ e : Expr, (∀ leaf ∈ e.leaves, leaf.IsSimple) → Spells e.text e.tokens
  | .name text, simple => by
    rw [Expr.text, Expr.tokens]
    exact spells_of_isSimpleName (simple _ List.mem_cons_self)
  | .literal text, simple => by
    rw [Expr.text, Expr.tokens]
    exact spells_of_isNumber (simple _ List.mem_cons_self)
  | .str value, _ => by
    rw [Expr.text, Expr.tokens]
    exact (delimits_stringLiteral value).spells
  | .this, _ => by
    rw [Expr.text, Expr.tokens]
    exact spells_reserved (by decide)
  | .defaultValue, _ => by
    rw [Expr.text, Expr.tokens]
    have word : Spells "default" [.word "default"] := spells_reserved (by decide)
    exact (word.before stands_bang).spells
  | .member target memberName, simple => by
    rw [Expr.leaves, List.forall_mem_append, List.forall_mem_singleton] at simple
    rw [Expr.text, Expr.tokens]
    have front := spells_parenthesized (target.spells simple.1) target.isLoose
    have all := (front.before stands_point).spells_append (spells_of_isSimpleName simple.2)
    rwa [List.append_assoc] at all
  | .call callee typeArguments arguments, simple => by
    simp only [Expr.leaves, List.forall_mem_append, List.forall_mem_map] at simple
    obtain ⟨⟨simpleCallee, simpleTypes⟩, simpleArguments⟩ := simple
    rw [Expr.text, Expr.tokens]
    have front := spells_parenthesized (callee.spells simpleCallee) callee.isLoose
    have inner := spells_intercalate (exprs_spell arguments simpleArguments)
    rw [← exprTexts_eq_map, ← exprTokens_eq_map] at inner
    exact ((front.typeArguments simpleTypes).group inner).spells
  | .invokeIfSet target arguments, simple => by
    rw [Expr.leaves, List.forall_mem_append] at simple
    rw [Expr.text, Expr.tokens]
    have front := spells_parenthesized (target.spells simple.1) target.isLoose
    have inner := spells_intercalate (exprs_spell arguments simple.2)
    rw [← exprTexts_eq_map, ← exprTokens_eq_map] at inner
    have word : Spells "Invoke" [.word "Invoke"] := spells_reserved (by decide)
    have invoke := stands_ifSet.append (word.before stands_openParen)
    have all := ((front.before invoke).spells_append inner).before stands_closeParen
    simpa [groupTokens] using all.spells
  | .await operand, simple => by
    rw [Expr.text, Expr.tokens]
    have word : Spells "await" [.word "await"] := spells_reserved (by decide)
    have front := word.before stands_blank
    exact front.spells_append (spells_parenthesized (operand.spells simple) operand.isLoose)
  | .coalesce left right, simple => by
    rw [Expr.leaves, List.forall_mem_append] at simple
    rw [Expr.text, Expr.tokens]
    have front := spells_parenthesized (left.spells simple.1) left.isLoose
    have back := spells_parenthesized (right.spells simple.2) right.isAssignment
    have all := (front.before stands_ifNull).spells_append back
    rwa [List.append_assoc] at all
  | .discard value, simple => by
    rw [Expr.text, Expr.tokens]
    have word : Spells "_" [.word "_"] := spells_reserved (by decide)
    exact (word.before stands_equals).spells_append (value.spells simple)
  | .lambda isAsync parameters body, simple => by
    rw [Expr.leaves, List.forall_mem_append] at simple
    rw [Expr.text, Expr.tokens]
    have front : Delimits (if isAsync then "async " else "")
        (if isAsync then [.word "async"] else []) := by
      cases isAsync with
      | false => exact delimits_empty
      | true =>
        have word : Spells "async" [.word "async"] := spells_reserved (by decide)
        exact word.before stands_blank
    have inner := spells_intercalate (params_spell parameters simple.1)
    have arrow := stands_closeParen.append stands_arrow.delimits
    have heading := ((front.append stands_openParen.delimits).spells_append inner).before arrow
    have all := heading.spells_append (body.spells simple.2)
    rw [paramTexts_eq_map, paramTokens_eq_map, List.map_map]
    simpa [groupTokens, Function.comp_def] using all

theorem exprs_spell : ∀ list : List Expr, (∀ leaf ∈ exprLeaves list, leaf.IsSimple) →
    ∀ e ∈ list, Spells e.text e.tokens
  | [], _ => fun _ mem => absurd mem List.not_mem_nil
  | e :: rest, simple => by
    rw [exprLeaves, List.forall_mem_append] at simple
    exact List.forall_mem_cons.2 ⟨e.spells simple.1, exprs_spell rest simple.2⟩

theorem Param.spells : ∀ p : Param, (∀ leaf ∈ p.leaves, leaf.IsSimple) →
    Spells p.text p.withTokens.tokens
  | ⟨isParams, type, name, none⟩, simple => by
    simp only [Param.leaves, List.forall_mem_append, List.forall_mem_cons] at simple
    obtain ⟨⟨simpleType, simpleName, -⟩, -⟩ := simple
    rw [Param.text, defaultText, String.append_empty, Param.withTokens, optionTokens,
      Formal.tokens, List.append_nil]
    exact spells_declared isParams simpleType simpleName
  | ⟨isParams, type, name, some value⟩, simple => by
    simp only [Param.leaves, List.forall_mem_append, List.forall_mem_cons] at simple
    obtain ⟨⟨simpleType, simpleName, -⟩, simpleValue⟩ := simple
    rw [Param.text, defaultText, Param.withTokens, optionTokens, Formal.tokens]
    have front := (spells_declared isParams simpleType simpleName).before stands_equals
    have all := front.spells_append (value.spells simpleValue)
    rwa [String.append_assoc, List.append_assoc] at all

theorem params_spell : ∀ list : List Param, (∀ leaf ∈ paramLeaves list, leaf.IsSimple) →
    ∀ p ∈ list, Spells p.text p.withTokens.tokens
  | [], _ => fun _ mem => absurd mem List.not_mem_nil
  | p :: rest, simple => by
    rw [paramLeaves, List.forall_mem_append] at simple
    exact List.forall_mem_cons.2 ⟨p.spells simple.1, params_spell rest simple.2⟩

end

end TypedHub.CSharp
