import TypedHub.Proofs.CSharp.Plain
import TypedHub.Proofs.CSharp.Rows

/-!
# The characters of a printed compilation unit

The words of the printer itself are made of blanks and visible ASCII characters. So any other
character in a row of a unit comes from one of the texts that are stored in the unit
(`CompilationUnit.drawn_of_mem_rows`).
-/

namespace TypedHub.CSharp

/-! ## Texts that are drawn from others -/

/-- The characters of the printer's own words. -/
def isPrintable (c : Char) : Bool := 0x20 ≤ c.toNat && c.toNat < 0x7F

/-- A text whose characters are printable, but for those that stand in one of the pieces. -/
def DrawnFrom (pieces : List String) (text : String) : Prop :=
  ∀ c ∈ text.toList, isPrintable c = true ∨ ∃ piece ∈ pieces, c ∈ piece.toList

theorem drawn_word {pieces : List String} (word : String)
    (printable : word.toList.all isPrintable = true) : DrawnFrom pieces word :=
  fun c mem => .inl (List.all_eq_true.1 printable c mem)

theorem drawn_empty (pieces : List String) : DrawnFrom pieces "" := drawn_word "" (by decide)

theorem drawn_piece {pieces : List String} {piece : String} (mem : piece ∈ pieces) :
    DrawnFrom pieces piece := fun _ among => .inr ⟨piece, mem, among⟩

theorem drawn_self (text : String) : DrawnFrom [text] text := drawn_piece List.mem_cons_self

section Words

variable {pieces : List String}

theorem drawn_blank : DrawnFrom pieces " " := drawn_word _ (by decide)

theorem drawn_comma : DrawnFrom pieces ", " := drawn_word _ (by decide)

theorem drawn_open : DrawnFrom pieces "(" := drawn_word _ (by decide)

theorem drawn_close : DrawnFrom pieces ")" := drawn_word _ (by decide)

theorem drawn_semicolon : DrawnFrom pieces ";" := drawn_word _ (by decide)

theorem drawn_assign : DrawnFrom pieces " = " := drawn_word _ (by decide)

end Words

theorem drawn_append_iff {pieces : List String} {front back : String} :
    DrawnFrom pieces (front ++ back) ↔ DrawnFrom pieces front ∧ DrawnFrom pieces back := by
  simp only [DrawnFrom, String.toList_append, List.forall_mem_append]

namespace DrawnFrom

variable {pieces others : List String} {text back : String}

theorem mono (drawn : DrawnFrom pieces text) (h : pieces ⊆ others) : DrawnFrom others text :=
  fun c mem => (drawn c mem).imp_right fun ⟨piece, listed, among⟩ => ⟨piece, h listed, among⟩

theorem append (first : DrawnFrom pieces text) (second : DrawnFrom others back) :
    DrawnFrom (pieces ++ others) (text ++ back) := by
  exact drawn_append_iff.2
    ⟨first.mono (List.subset_append_left _ _), second.mono (List.subset_append_right _ _)⟩

/-- A text before one of the printer's own words. -/
theorem before (drawn : DrawnFrom pieces text) (word : DrawnFrom [] back) :
    DrawnFrom pieces (text ++ back) := by
  have all := drawn.append word
  rwa [List.append_nil] at all

/-- A text behind one of the printer's own words. -/
theorem behind {front : String} (drawn : DrawnFrom pieces text) (word : DrawnFrom [] front) :
    DrawnFrom pieces (front ++ text) := word.append drawn

/-- Texts with one of the printer's own words between any two. -/
theorem intercalate {separator : String} (word : DrawnFrom [] separator) {texts : List String}
    (h : ∀ text ∈ texts, DrawnFrom pieces text) :
    DrawnFrom pieces (separator.intercalate texts) := by
  intro c mem
  rw [String.toList_intercalate] at mem
  obtain mem | ⟨part, listed, mem⟩ := mem_of_mem_intercalate mem
  · exact word.mono (List.nil_subset _) c mem
  · obtain ⟨text, among, rfl⟩ := List.mem_map.1 listed
    exact h text among c mem

/-- Texts that are stored one by one. -/
theorem intercalate_self {separator : String} (word : DrawnFrom [] separator)
    (texts : List String) : DrawnFrom texts (separator.intercalate texts) :=
  word.intercalate fun _ mem => drawn_piece mem

/-- Texts that are each drawn from their own pieces. -/
theorem intercalate_map {α : Type} {separator : String} (word : DrawnFrom [] separator)
    {list : List α} {text : α → String} {pieces : α → List String}
    (h : ∀ a ∈ list, DrawnFrom (pieces a) (text a)) :
    DrawnFrom (list.flatMap pieces) (separator.intercalate (list.map text)) :=
  word.intercalate <| List.forall_mem_map.2 fun a mem =>
    (h a mem).mono fun _ among => List.mem_flatMap.2 ⟨a, mem, among⟩

/-- A forbidden character is not in a text that is drawn from pieces without it. -/
theorem not_mem {c : Char} (drawn : DrawnFrom pieces text) (strange : isPrintable c = false)
    (h : ∀ piece ∈ pieces, c ∉ piece.toList) : c ∉ text.toList := by
  intro mem
  obtain printable | ⟨piece, listed, among⟩ := drawn c mem
  · rw [strange] at printable
    cases printable
  · exact h piece listed among

end DrawnFrom

/-! ## Expressions -/

/-- The character stands in one of the pieces. -/
def Among (c : Char) (pieces : List String) : Prop := ∃ piece ∈ pieces, c ∈ piece.toList

section Among

variable {c : Char}

theorem among_nil : ¬ Among c [] := by simp [Among]

theorem among_cons_iff {piece : String} {rest : List String} :
    Among c (piece :: rest) ↔ c ∈ piece.toList ∨ Among c rest := by
  simp [Among]

theorem among_append_iff {front back : List String} :
    Among c (front ++ back) ↔ Among c front ∨ Among c back := by
  simp [Among, or_and_right, exists_or]

/-- A character that is not in the separator stands between no two texts. -/
theorem mem_intercalate_iff {separator : String} (apart : c ∉ separator.toList)
    (texts : List String) : c ∈ (separator.intercalate texts).toList ↔ Among c texts := by
  match texts with
  | [] => simp [Among]
  | [text] => simp [Among]
  | text :: next :: rest =>
    have later := mem_intercalate_iff apart (next :: rest)
    rw [String.intercalate_cons_cons, String.toList_append, String.toList_append, among_cons_iff,
      ← later]
    simp [apart]

/-- The words of the printer do not have the character. -/
theorem not_mem_word (strange : isPrintable c = false) (word : String)
    (printable : word.toList.all isPrintable = true) : c ∉ word.toList := by
  intro mem
  have := List.all_eq_true.1 printable c mem
  rw [strange] at this
  cases this

theorem mem_parenthesized_iff (strange : isPrintable c = false) (needed : Bool) (text : String) :
    c ∈ (parenthesized needed text).toList ↔ c ∈ text.toList := by
  have opening := not_mem_word strange "(" (by decide)
  have closing := not_mem_word strange ")" (by decide)
  unfold CSharp.parenthesized
  split <;> simp only [String.toList_append, List.mem_append, opening, closing, false_or, or_false]

theorem mem_typeArgumentText_iff (strange : isPrintable c = false) (arguments : List String) :
    c ∈ (typeArgumentText arguments).toList ↔ Among c arguments := by
  have opening := not_mem_word strange "<" (by decide)
  have closing := not_mem_word strange ">" (by decide)
  have comma := not_mem_word strange ", " (by decide)
  unfold typeArgumentText
  split
  · simp [Among]
  · simp only [String.toList_append, List.mem_append, opening, closing, mem_intercalate_iff comma,
      false_or, or_false]

mutual

/-- A character that is none of the printer's own stands in the text of an expression just where it
stands in one of its pieces. -/
theorem Expr.mem_text_iff (strange : isPrintable c = false) :
    ∀ e : Expr, c ∈ e.text.toList ↔ Among c e.pieces
  | .name text | .literal text => by simp [Expr.text, Expr.pieces, Among]
  | .str value => by simp [Expr.text, Expr.pieces, Among]
  | .this | .defaultValue => by
    rw [Expr.text, Expr.pieces]
    exact iff_of_false (not_mem_word strange _ (by decide)) among_nil
  | .member target memberName => by
    have point := not_mem_word strange "." (by decide)
    simp only [Expr.text, Expr.pieces, String.toList_append, List.mem_append, point, or_false,
      mem_parenthesized_iff strange, Expr.mem_text_iff strange target, among_append_iff,
      among_cons_iff, among_nil]
  | .call callee typeArguments arguments => by
    have comma := not_mem_word strange ", " (by decide)
    have opening := not_mem_word strange "(" (by decide)
    have closing := not_mem_word strange ")" (by decide)
    simp only [Expr.text, Expr.pieces, String.toList_append, List.mem_append, opening, closing,
      or_false, mem_parenthesized_iff strange, mem_typeArgumentText_iff strange,
      mem_intercalate_iff comma, Expr.mem_text_iff strange callee,
      exprTexts_among strange arguments, among_append_iff]
  | .invokeIfSet target arguments => by
    have comma := not_mem_word strange ", " (by decide)
    have opening := not_mem_word strange "?.Invoke(" (by decide)
    have closing := not_mem_word strange ")" (by decide)
    simp only [Expr.text, Expr.pieces, String.toList_append, List.mem_append, opening, closing,
      or_false, mem_parenthesized_iff strange, mem_intercalate_iff comma,
      Expr.mem_text_iff strange target, exprTexts_among strange arguments, among_append_iff]
  | .await operand => by
    have word := not_mem_word strange "await " (by decide)
    simp only [Expr.text, Expr.pieces, String.toList_append, List.mem_append, word, false_or,
      mem_parenthesized_iff strange, Expr.mem_text_iff strange operand]
  | .coalesce left right => by
    have mark := not_mem_word strange " ?? " (by decide)
    simp only [Expr.text, Expr.pieces, String.toList_append, List.mem_append, mark, or_false,
      mem_parenthesized_iff strange, Expr.mem_text_iff strange left,
      Expr.mem_text_iff strange right, among_append_iff]
  | .discard value => by
    have word := not_mem_word strange "_ = " (by decide)
    simp only [Expr.text, Expr.pieces, String.toList_append, List.mem_append, word, false_or,
      Expr.mem_text_iff strange value]
  | .lambda isAsync parameters body => by
    have comma := not_mem_word strange ", " (by decide)
    have opening := not_mem_word strange "(" (by decide)
    have arrow := not_mem_word strange ") => " (by decide)
    have asyncWord : c ∉ (if isAsync then "async " else "").toList := by
      split <;> exact not_mem_word strange _ (by decide)
    simp only [Expr.text, Expr.pieces, String.toList_append, List.mem_append, asyncWord, opening,
      arrow, false_or, or_false, mem_intercalate_iff comma, paramTexts_among strange parameters,
      Expr.mem_text_iff strange body, among_append_iff]

theorem exprTexts_among (strange : isPrintable c = false) :
    ∀ list : List Expr, Among c (exprTexts list) ↔ Among c (exprPieces list)
  | [] => Iff.rfl
  | e :: rest => by
    rw [exprTexts, exprPieces, among_cons_iff, among_append_iff, Expr.mem_text_iff strange e,
      exprTexts_among strange rest]

theorem paramTexts_among (strange : isPrintable c = false) :
    ∀ list : List Param, Among c (paramTexts list) ↔ Among c (paramPieces list)
  | [] => Iff.rfl
  | p :: rest => by
    rw [paramTexts, paramPieces, among_cons_iff, among_append_iff, Param.mem_text_iff strange p,
      paramTexts_among strange rest]

theorem Param.mem_text_iff (strange : isPrintable c = false) :
    ∀ p : Param, c ∈ p.text.toList ↔ Among c p.pieces
  | ⟨isParams, type, name, default?⟩ => by
    have blank := not_mem_word strange " " (by decide)
    have paramsWord : c ∉ (if isParams then "params " else "").toList := by
      split <;> exact not_mem_word strange _ (by decide)
    simp only [Param.text, Param.pieces, String.toList_append, List.mem_append, paramsWord, blank,
      false_or, or_false, defaultText_mem_iff strange default?, among_append_iff, among_cons_iff,
      among_nil]

theorem defaultText_mem_iff (strange : isPrintable c = false) :
    ∀ default? : Option Expr, c ∈ (defaultText default?).toList ↔ Among c (optionPieces default?)
  | none => by simp [defaultText, optionPieces, Among]
  | some value => by
    have assign := not_mem_word strange " = " (by decide)
    simp only [defaultText, optionPieces, String.toList_append, List.mem_append, assign, false_or,
      Expr.mem_text_iff strange value]

end

theorem mem_paramList_iff (strange : isPrintable c = false) (parameters : List Param) :
    c ∈ (paramList parameters).toList ↔ Among c (paramPieces parameters) := by
  have comma := not_mem_word strange ", " (by decide)
  rw [paramList, mem_intercalate_iff comma, paramTexts_among strange]

end Among

/-- To be drawn from pieces is a matter of the characters that are not the printer's own. -/
theorem drawn_of_among {pieces : List String} {text : String}
    (h : ∀ c, isPrintable c = false → c ∈ text.toList → Among c pieces) :
    DrawnFrom pieces text := by
  intro c mem
  cases printable : isPrintable c with
  | true => exact .inl rfl
  | false => exact .inr (h c printable mem)

/-- An expression is drawn from its texts. -/
theorem Expr.drawn (e : Expr) : DrawnFrom e.pieces e.text :=
  drawn_of_among fun _ strange => (Expr.mem_text_iff strange e).1

theorem drawn_paramList (parameters : List Param) :
    DrawnFrom (paramPieces parameters) (paramList parameters) :=
  drawn_of_among fun _ strange => (mem_paramList_iff strange parameters).1

/-! ## Declarations -/

theorem drawn_words (list : List String) : DrawnFrom list (words list) := by
  exact drawn_blank.intercalate fun word mem => drawn_piece (List.mem_of_mem_filter mem)

/-- Words with a list of parameters behind them. -/
theorem drawn_parameterized (list : List String) (parameters : List Param) :
    DrawnFrom (list ++ paramPieces parameters)
      (words list ++ "(" ++ paramList parameters ++ ")") := by
  have front := (drawn_words list).before drawn_open
  exact (front.append (drawn_paramList parameters)).before drawn_close

theorem AttributeArgument.drawn (argument : AttributeArgument) :
    DrawnFrom argument.pieces argument.text := by
  obtain ⟨name, value⟩ := argument
  cases name with
  | none => exact value.drawn
  | some name => exact ((drawn_self name).before drawn_assign).append value.drawn

theorem Attribute.drawn (a : Attribute) : DrawnFrom a.pieces a.text := by
  rw [text, pieces]
  split
  · exact drawn_piece List.mem_cons_self
  · have arguments := drawn_comma.intercalate_map fun argument (_ : argument ∈ a.arguments) =>
      argument.drawn
    have front := (drawn_self a.name).before drawn_open
    exact (front.append arguments).before drawn_close

/-- The attributes between brackets. -/
theorem drawn_attributeList (list : AttributeList) :
    DrawnFrom (list.flatMap Attribute.pieces)
      ("[" ++ ", ".intercalate (list.map Attribute.text) ++ "]") := by
  have attributes := drawn_comma.intercalate_map fun a (_ : a ∈ list) => a.drawn
  exact (attributes.behind (drawn_word "[" (by decide))).before (drawn_word "]" (by decide))

theorem Statement.drawn (statement : Statement) : DrawnFrom statement.pieces statement.text := by
  cases statement with
  | assign target value => exact (target.drawn.before drawn_assign).append value.drawn
  | expr value => exact value.drawn

theorem Accessor.drawn (accessor : Accessor) : DrawnFrom [] accessor.text := by
  cases accessor <;> exact drawn_word _ (by decide)

theorem Property.drawn (p : Property) :
    DrawnFrom (p.modifiers ++ [p.type, p.name] ++ optionPieces p.initializer) p.line := by
  obtain ⟨attributes, modifiers, type, name, accessors, initializer⟩ := p
  have list : DrawnFrom [] (" ".intercalate (accessors.map (·.text))) :=
    drawn_blank.intercalate (List.forall_mem_map.2 fun accessor _ => accessor.drawn)
  have front := (drawn_words (modifiers ++ [type, name])).before (drawn_word " \x7b " (by decide))
  have declared := (front.before list).before (drawn_word " \x7d" (by decide))
  cases initializer with
  | none =>
    rw [optionPieces, List.append_nil]
    exact declared
  | some value =>
    have assigned := (declared.before drawn_assign).append value.drawn
    exact assigned.before drawn_semicolon

/-! ## Rows -/

/-- The rows of a layout at a level are drawn from the pieces. -/
def RowsDrawn (pieces : List String) (level : Nat) (lines : List Layout) : Prop :=
  ∀ row ∈ rowsAll level lines, DrawnFrom pieces row.text

section Rows

variable {pieces others : List String} {level : Nat} {front back : List Layout}

theorem rowsDrawn_line {text : String} (drawn : DrawnFrom pieces text) :
    RowsDrawn pieces level [.line text] := List.forall_mem_singleton.2 drawn

theorem RowsDrawn.append (first : RowsDrawn pieces level front)
    (second : RowsDrawn others level back) :
    RowsDrawn (pieces ++ others) level (front ++ back) := by
  rw [RowsDrawn, rowsAll_append]
  exact List.forall_mem_append.2
    ⟨fun row mem => (first row mem).mono (List.subset_append_left _ _),
      fun row mem => (second row mem).mono (List.subset_append_right _ _)⟩

theorem rowsDrawn_indented (drawn : RowsDrawn pieces (level + 1) front) :
    RowsDrawn pieces level [.indented front] := by
  rw [RowsDrawn, rowsAll, rowsAll, List.append_nil]
  exact drawn

theorem rowsDrawn_attributeLines (level : Nat) (lists : List AttributeList) :
    RowsDrawn (attributePieces lists) level (attributeLines lists) := by
  rw [RowsDrawn, rowsAll_attributeLines]
  exact List.forall_mem_map.2 fun list kept => (drawn_attributeList list).mono fun _ among =>
    List.mem_flatMap.2 ⟨list, List.mem_of_mem_filter kept, among⟩

end Rows

theorem Method.rowsDrawn_lines (level : Nat) (m : Method) :
    RowsDrawn (m.modifiers ++ [m.returnType, m.name] ++ paramPieces m.parameters ++
      optionPieces m.body) level (m.lines level) := by
  obtain ⟨attributes, modifiers, returnType, name, parameters, body⟩ := m
  have signature := drawn_parameterized (modifiers ++ [returnType, name]) parameters
  cases body with
  | none =>
    rw [optionPieces, List.append_nil]
    exact rowsDrawn_line (signature.before drawn_semicolon)
  | some body =>
    rw [Method.lines]
    change RowsDrawn _ level (if _ then _ else _)
    split
    · have inline := (signature.before (drawn_word " => " (by decide))).append body.drawn
      exact rowsDrawn_line (inline.before drawn_semicolon)
    · have first : RowsDrawn _ level [.line _] :=
        rowsDrawn_line (signature.before (drawn_word " =>" (by decide)))
      have inner : RowsDrawn _ (level + 1) [.line _] :=
        rowsDrawn_line (body.drawn.before drawn_semicolon)
      exact first.append (rowsDrawn_indented inner)

theorem Constructor.rowsDrawn_block (level : Nat) (c : Constructor) :
    RowsDrawn (c.modifiers ++ [c.name] ++ paramPieces c.parameters ++
      c.body.flatMap Statement.pieces) level
      [.block c.header (c.body.map fun statement => .line (statement.text ++ ";"))] := by
  have header := drawn_parameterized (c.modifiers ++ [c.name]) c.parameters
  rw [RowsDrawn, rowsAll, rowsAll, Layout.rows, List.append_nil, List.cons_append,
    List.forall_mem_cons, List.forall_mem_append, List.forall_mem_singleton, rowsAll_lines,
    List.forall_mem_map]
  refine ⟨?first, fun statement mem => ?inner, drawn_word "\x7d" (by decide)⟩
  case first =>
    exact (header.before (drawn_word " \x7b" (by decide))).mono (List.subset_append_left _ _)
  case inner =>
    refine (statement.drawn.before drawn_semicolon).mono fun _ among => ?_
    exact List.mem_append_right _ (List.mem_flatMap.2 ⟨statement, mem, among⟩)

/-- The rows of a member are drawn from its texts. -/
theorem Member.rowsDrawn_lines (level : Nat) (member : Member) :
    RowsDrawn member.pieces level (member.lines level) := by
  cases member with
  | property p =>
    rw [Member.pieces, Property.pieces, List.append_assoc]
    exact (rowsDrawn_attributeLines level p.attributes).append (rowsDrawn_line p.drawn)
  | method m => exact (rowsDrawn_attributeLines level m.attributes).append (m.rowsDrawn_lines level)
  | constructor c =>
    exact (rowsDrawn_attributeLines level c.attributes).append (c.rowsDrawn_block level)
  | event e =>
    have line := (drawn_words (e.modifiers ++ ["event", e.type, e.name])).before drawn_semicolon
    exact (rowsDrawn_attributeLines level e.attributes).append (rowsDrawn_line line)
  | delegate d =>
    have words := drawn_words (d.modifiers ++ ["delegate", d.returnType, d.name])
    have front := (words.before drawn_open).append (drawn_paramList d.parameters)
    exact rowsDrawn_line (front.before (drawn_word ");" (by decide)))

theorem TypeDecl.drawn_header (t : TypeDecl) :
    DrawnFrom (t.modifiers ++ [t.keyword.text, t.name] ++ t.bases) t.header := by
  have parentheses : DrawnFrom [] (if t.primaryConstructor then "()" else "") := by
    split <;> exact drawn_word _ (by decide)
  have bases : DrawnFrom t.bases
      (if t.bases.isEmpty then "" else ": " ++ ", ".intercalate t.bases) := by
    split
    · exact drawn_empty _
    · exact (drawn_comma.intercalate_self t.bases).behind (drawn_word ": " (by decide))
  exact ((drawn_words _).before parentheses).append bases

theorem TypeDecl.drawn_of_hasRow {t : TypeDecl} {row : Row} (h : t.HasRow row) :
    DrawnFrom t.pieces row.text := by
  cases h with
  | @doc doc mem =>
    refine ((drawn_self doc).behind (drawn_word "/// " (by decide))).mono fun _ among => ?_
    obtain rfl := List.mem_singleton.1 among
    exact List.mem_append_left _ (List.mem_append_left _ (List.mem_append_left _ mem))
  | @attributes list mem =>
    refine (drawn_attributeList list).mono fun _ among => ?_
    have inLists := List.mem_flatMap.2 ⟨list, mem, among⟩
    exact List.mem_append_left _ (List.mem_append_left _ (List.mem_append_right _ inLists))
  | header =>
    refine (t.drawn_header.before (drawn_word " \x7b" (by decide))).mono fun _ among => ?_
    exact List.mem_append_left _ (List.mem_append_right _ among)
  | blank => exact drawn_empty _
  | @member member row mem inside =>
    refine (member.rowsDrawn_lines 1 row inside).mono fun _ among => ?_
    exact List.mem_append_right _ (List.mem_flatMap.2 ⟨member, mem, among⟩)
  | closing => exact drawn_word "\x7d" (by decide)

/-- **The rows of a unit are drawn from the texts that are stored in it.** -/
theorem CompilationUnit.drawn_of_mem_rows {unit : CompilationUnit} {row : Row}
    (mem : row ∈ unit.rows) : DrawnFrom unit.pieces row.text := by
  cases hasRow_of_mem_rows mem with
  | @comment comment listed =>
    refine ((drawn_self comment).behind (drawn_word "// " (by decide))).mono fun _ among => ?_
    obtain rfl := List.mem_singleton.1 among
    exact List.mem_append_left _ (List.mem_append_left _ listed)
  | nullable => exact drawn_word "#nullable enable" (by decide)
  | blank => exact drawn_empty _
  | @fileNamespace name given =>
    have named := (drawn_self name).behind (drawn_word "namespace " (by decide))
    refine (named.before drawn_semicolon).mono fun _ among => ?_
    obtain rfl := List.mem_singleton.1 among
    have stored := Option.mem_toList.2 given
    exact List.mem_append_left _ (List.mem_append_right _ stored)
  | @type t row listed inside =>
    refine (TypeDecl.drawn_of_hasRow inside).mono fun _ among => ?_
    exact List.mem_append_right _ (List.mem_flatMap.2 ⟨t, listed, among⟩)

end TypedHub.CSharp
