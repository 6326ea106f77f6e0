import TypedHub.CSharp.Printer
import TypedHub.Proofs.CSharp.Scan

/-!
# The marks of a printed compilation unit

A declaration is printed from the texts that are stored in it: names, type names, literals and
strings. If these texts close their literals and have no marks, then the marks of what is printed
are those of the declaration alone, and what stands in the literals of the file stands in those of
the texts. So nothing that is stored in a declaration can add to the statements and blocks of the
file.
-/

namespace TypedHub.CSharp

/-! ## The stored texts -/

mutual

/-- The texts that an expression is printed from, strings as their literals. -/
def Expr.pieces : Expr → List String
  | .name text => [text]
  | .literal text => [text]
  | .str value => [stringLiteral value]
  | .this | .defaultValue => []
  | .member target memberName => target.pieces ++ [memberName]
  | .call callee typeArguments arguments =>
    callee.pieces ++ typeArguments ++ exprPieces arguments
  | .invokeIfSet target arguments => target.pieces ++ exprPieces arguments
  | .await operand => operand.pieces
  | .coalesce left right => left.pieces ++ right.pieces
  | .discard value => value.pieces
  | .lambda _ parameters body => paramPieces parameters ++ body.pieces

/-- The texts of expressions, in their order. -/
def exprPieces : List Expr → List String
  | [] => []
  | e :: rest => e.pieces ++ exprPieces rest

/-- The texts that a parameter is printed from. -/
def Param.pieces : Param → List String
  | ⟨_, type, name, default?⟩ => [type, name] ++ optionPieces default?

def paramPieces : List Param → List String
  | [] => []
  | p :: rest => p.pieces ++ paramPieces rest

/-- The texts of an expression that may be missing. -/
def optionPieces : Option Expr → List String
  | none => []
  | some value => value.pieces

end

theorem exprPieces_eq (list : List Expr) : exprPieces list = list.flatMap Expr.pieces := by
  induction list with
  | nil => rfl
  | cons e rest ih => rw [exprPieces, ih, List.flatMap_cons]

theorem paramPieces_eq (list : List Param) : paramPieces list = list.flatMap Param.pieces := by
  induction list with
  | nil => rfl
  | cons p rest ih => rw [paramPieces, ih, List.flatMap_cons]

def AttributeArgument.pieces (argument : AttributeArgument) : List String :=
  argument.name.toList ++ argument.value.pieces

def Attribute.pieces (a : Attribute) : List String :=
  a.name :: a.arguments.flatMap AttributeArgument.pieces

def attributePieces (lists : List AttributeList) : List String :=
  lists.flatMap fun list => list.flatMap Attribute.pieces

def Statement.pieces : Statement → List String
  | assign target value => target.pieces ++ value.pieces
  | expr value => value.pieces

def Property.pieces (p : Property) : List String :=
  attributePieces p.attributes ++ (p.modifiers ++ [p.type, p.name]) ++ optionPieces p.initializer

def Method.pieces (m : Method) : List String :=
  attributePieces m.attributes ++ ((m.modifiers ++ [m.returnType, m.name]) ++
    paramPieces m.parameters ++ optionPieces m.body)

def Constructor.pieces (c : Constructor) : List String :=
  attributePieces c.attributes ++ ((c.modifiers ++ [c.name]) ++ paramPieces c.parameters ++
    c.body.flatMap Statement.pieces)

def Event.pieces (e : Event) : List String :=
  attributePieces e.attributes ++ (e.modifiers ++ ["event", e.type, e.name])

def Delegate.pieces (d : Delegate) : List String :=
  (d.modifiers ++ ["delegate", d.returnType, d.name]) ++ paramPieces d.parameters

def Member.pieces : Member → List String
  | property p => p.pieces
  | method m => m.pieces
  | constructor c => c.pieces
  | event e => e.pieces
  | delegate d => d.pieces

def TypeDecl.pieces (t : TypeDecl) : List String :=
  t.docs ++ attributePieces t.attributes ++ (t.modifiers ++ [t.keyword.text, t.name] ++ t.bases) ++
    t.members.flatMap Member.pieces

def CompilationUnit.pieces (unit : CompilationUnit) : List String :=
  unit.header ++ unit.fileNamespace.toList ++ unit.types.flatMap TypeDecl.pieces

/-! ## The marks of declarations -/

def Property.marks (p : Property) : List Char :=
  '\x7b' :: p.accessors.map (fun _ => ';') ++ ['\x7d'] ++
    if p.initializer.isSome then [';'] else []

/-- A property and a constructor have a block, all other members end with a semicolon. -/
def Member.marks : Member → List Char
  | property p => p.marks
  | constructor c => '\x7b' :: c.body.map (fun _ => ';') ++ ['\x7d']
  | method _ | event _ | delegate _ => [';']

def TypeDecl.marks (t : TypeDecl) : List Char :=
  '\x7b' :: t.members.flatMap Member.marks ++ ['\x7d']

def CompilationUnit.marks (unit : CompilationUnit) : List Char :=
  (if unit.fileNamespace.isSome then [';'] else []) ++ unit.types.flatMap TypeDecl.marks

/-- Marks in which each brace that opens a block has one behind it that closes the block. -/
inductive Nested : List Char → Prop where
  | nil : Nested []
  | semicolon : Nested [';']
  | block {inner : List Char} (nested : Nested inner) : Nested ('\x7b' :: inner ++ ['\x7d'])
  | append {front back : List Char} (first : Nested front) (second : Nested back) :
    Nested (front ++ back)

theorem nested_flatMap {α : Type} {marks : α → List Char} {list : List α}
    (h : ∀ a ∈ list, Nested (marks a)) : Nested (list.flatMap marks) := by
  induction list with
  | nil => exact .nil
  | cons a rest ih =>
    rw [List.flatMap_cons]
    exact .append (h a List.mem_cons_self) (ih fun b mem => h b (List.mem_cons_of_mem a mem))

theorem nested_semicolons {α : Type} (list : List α) : Nested (list.map fun _ => ';') := by
  rw [List.map_eq_flatMap]
  exact nested_flatMap fun _ _ => .semicolon

theorem Member.nested_marks (member : Member) : Nested member.marks := by
  cases member with
  | property p =>
    refine .append (.block (nested_semicolons p.accessors)) ?_
    split
    · exact .semicolon
    · exact .nil
  | constructor c => exact .block (nested_semicolons c.body)
  | method _ | event _ | delegate _ => exact .semicolon

theorem TypeDecl.nested_marks (t : TypeDecl) : Nested t.marks :=
  .block (nested_flatMap fun member _ => member.nested_marks)

theorem CompilationUnit.nested_marks (unit : CompilationUnit) : Nested unit.marks := by
  refine .append ?_ (nested_flatMap fun t _ => t.nested_marks)
  split
  · exact .semicolon
  · exact .nil

/-! ## Expressions -/

section Parts

variable {text : String} {marked : List Char} {pieces : List String}

/-- A text behind a text of code. -/
theorem Scans.behind {front : String} (scans : Scans text marked pieces)
    (before : Scans front [] []) : Scans (front ++ text) marked pieces := before.append scans

/-- A text before a text of code. -/
theorem Scans.before {back : String} {markedBack : List Char} (scans : Scans text marked pieces)
    (behind : Scans back markedBack []) : Scans (text ++ back) (marked ++ markedBack) pieces := by
  have all := scans.append behind
  rwa [List.append_nil] at all

theorem scans_blank : Scans " " [] [] := scans_of_code rfl (by decide) rfl

theorem scans_comma : Scans ", " [] [] := scans_of_code rfl (by decide) rfl

theorem scans_open : Scans "(" [] [] := scans_of_code rfl (by decide) rfl

theorem scans_close : Scans ")" [] [] := scans_of_code rfl (by decide) rfl

theorem scans_semicolon : Scans ";" [';'] [] := scans_of_code rfl (by decide) rfl

theorem scans_assign : Scans " = " [] [] :=
  scans_of_code rfl (by decide) rfl

theorem scans_parenthesized (scans : Scans text [] pieces) (needed : Bool) :
    Scans (parenthesized needed text) [] pieces := by
  unfold parenthesized
  split
  · exact scans.between scans_open scans_close
  · exact scans

end Parts

/-- Texts that are stored one by one. -/
theorem Scans.intercalate_quiet {separator : String} (plain : Scans separator [] [])
    {list : List String} (quiet : ∀ piece ∈ list, Quiet piece) :
    Scans (separator.intercalate list) [] list := by
  have all : Scans (separator.intercalate (list.map fun piece => piece)) []
      (list.flatMap fun piece => [piece]) :=
    plain.intercalate_unmarked fun piece mem => (quiet piece mem).scans
  rwa [List.map_id', List.flatMap_singleton'] at all

theorem scans_typeArgumentText {arguments : List String} (quiet : ∀ p ∈ arguments, Quiet p) :
    Scans (typeArgumentText arguments) [] arguments := by
  cases arguments with
  | nil => exact scans_empty
  | cons first rest =>
    exact (scans_comma.intercalate_quiet quiet).between
      (scans_of_code rfl (by decide) rfl)
      (scans_of_code rfl (by decide) rfl)

mutual

/-- An expression has no marks, and its literals are those of its texts. -/
theorem Expr.scans : ∀ e : Expr, (∀ p ∈ e.pieces, Quiet p) → Scans e.text [] e.pieces
  | .name text, quiet | .literal text, quiet => by
    rw [Expr.text, Expr.pieces]
    exact (quiet text (by rw [Expr.pieces]; exact List.mem_cons_self)).scans
  | .str value, _ => by
    rw [Expr.text, Expr.pieces]
    exact (quiet_stringLiteral value).scans
  | .this, _ => by
    rw [Expr.text, Expr.pieces]
    exact scans_of_code rfl (by decide) rfl
  | .defaultValue, _ => by
    rw [Expr.text, Expr.pieces]
    exact scans_of_code rfl (by decide) rfl
  | .member target memberName, quiet => by
    rw [Expr.pieces, List.forall_mem_append, List.forall_mem_singleton] at quiet
    rw [Expr.text, Expr.pieces]
    have front := scans_parenthesized (Expr.scans target quiet.1) target.isLoose
    exact (front.before (scans_of_code rfl (by decide) rfl)).append quiet.2.scans
  | .call callee typeArguments arguments, quiet => by
    simp only [Expr.pieces, List.forall_mem_append] at quiet
    obtain ⟨⟨quietCallee, quietTypes⟩, quietArguments⟩ := quiet
    rw [Expr.text, Expr.pieces]
    have front := (scans_parenthesized (Expr.scans callee quietCallee) callee.isLoose).append
      (scans_typeArgumentText quietTypes)
    have middle := (front.before scans_open).append (exprs_scan arguments quietArguments)
    exact middle.before scans_close
  | .invokeIfSet target arguments, quiet => by
    rw [Expr.pieces, List.forall_mem_append] at quiet
    rw [Expr.text, Expr.pieces]
    have invoke : Scans "?.Invoke(" [] [] := scans_of_code rfl (by decide) rfl
    have front := (scans_parenthesized (Expr.scans target quiet.1) target.isLoose).before invoke
    exact (front.append (exprs_scan arguments quiet.2)).before scans_close
  | .await operand, quiet => by
    rw [Expr.pieces] at quiet
    rw [Expr.text, Expr.pieces]
    exact (scans_parenthesized (Expr.scans operand quiet) operand.isLoose).behind
      (scans_of_code rfl (by decide) rfl)
  | .coalesce left right, quiet => by
    rw [Expr.pieces, List.forall_mem_append] at quiet
    rw [Expr.text, Expr.pieces]
    have operator : Scans " ?? " [] [] := scans_of_code rfl (by decide) rfl
    have front := (scans_parenthesized (Expr.scans left quiet.1) left.isLoose).before operator
    exact front.append (scans_parenthesized (Expr.scans right quiet.2) right.isAssignment)
  | .discard value, quiet => by
    rw [Expr.pieces] at quiet
    rw [Expr.text, Expr.pieces]
    exact (Expr.scans value quiet).behind
      (scans_of_code rfl (by decide) rfl)
  | .lambda isAsync parameters body, quiet => by
    rw [Expr.pieces, List.forall_mem_append] at quiet
    rw [Expr.text, Expr.pieces]
    have asyncWord : Scans (if isAsync then "async " else "") [] [] := by
      split
      · exact scans_of_code rfl (by decide) rfl
      · exact scans_empty
    have front := (params_scan parameters quiet.1).behind (asyncWord.append scans_open)
    exact (front.before (scans_of_code rfl (by decide) rfl)).append
      (Expr.scans body quiet.2)

theorem exprs_scan : ∀ list : List Expr, (∀ p ∈ exprPieces list, Quiet p) →
    Scans (", ".intercalate (exprTexts list)) [] (exprPieces list)
  | [], _ => scans_empty
  | [e], quiet => by
    rw [exprPieces, exprPieces, List.append_nil] at quiet ⊢
    rw [exprTexts, exprTexts, String.intercalate_singleton]
    exact Expr.scans e quiet
  | e :: f :: rest, quiet => by
    rw [exprPieces, List.forall_mem_append] at quiet
    rw [exprTexts, exprTexts, String.intercalate_cons_cons, exprPieces]
    exact ((Expr.scans e quiet.1).before scans_comma).append (exprs_scan (f :: rest) quiet.2)

theorem params_scan : ∀ list : List Param, (∀ p ∈ paramPieces list, Quiet p) →
    Scans (", ".intercalate (paramTexts list)) [] (paramPieces list)
  | [], _ => scans_empty
  | [p], quiet => by
    rw [paramPieces, paramPieces, List.append_nil] at quiet ⊢
    rw [paramTexts, paramTexts, String.intercalate_singleton]
    exact Param.scans p quiet
  | p :: q :: rest, quiet => by
    rw [paramPieces, List.forall_mem_append] at quiet
    rw [paramTexts, paramTexts, String.intercalate_cons_cons, paramPieces]
    exact ((Param.scans p quiet.1).before scans_comma).append (params_scan (q :: rest) quiet.2)

theorem Param.scans : ∀ p : Param, (∀ q ∈ p.pieces, Quiet q) → Scans p.text [] p.pieces
  | ⟨isParams, type, name, default?⟩, quiet => by
    simp only [Param.pieces, List.forall_mem_append, List.forall_mem_cons] at quiet
    obtain ⟨⟨quietType, quietName, -⟩, quietDefault⟩ := quiet
    rw [Param.text, Param.pieces]
    have paramsWord : Scans (if isParams then "params " else "") [] [] := by
      split
      · exact scans_of_code rfl (by decide) rfl
      · exact scans_empty
    have front := (quietType.scans.behind paramsWord).before scans_blank
    exact (front.append quietName.scans).append (default_scans default? quietDefault)

theorem default_scans : ∀ default? : Option Expr, (∀ q ∈ optionPieces default?, Quiet q) →
    Scans (defaultText default?) [] (optionPieces default?)
  | none, _ => scans_empty
  | some value, quiet => by
    rw [defaultText, optionPieces]
    rw [optionPieces] at quiet
    exact (Expr.scans value quiet).behind scans_assign

end

/-! ## Lines -/

/-- Lines at a level, with their marks and their texts. -/
def LinesScan (level : Nat) (lines : List Layout) (marked : List Char) (pieces : List String) :
    Prop := Scans (writeAll level lines).text marked pieces

theorem writeAll_append (level : Nat) (front back : List Layout) :
    (writeAll level (front ++ back)).text =
      (writeAll level front).text ++ (writeAll level back).text := by
  induction front with
  | nil => simp [writeAll]
  | cons step rest ih =>
    rw [List.cons_append, writeAll, writeAll]
    change (step.write level).text ++ _ = (step.write level).text ++ _ ++ _
    rw [ih, String.append_assoc]

section Lines

variable {level : Nat} {marked markedBack : List Char} {pieces piecesBack : List String}

theorem linesScan_nil : LinesScan level [] [] [] := scans_empty

theorem LinesScan.append {front back : List Layout} (first : LinesScan level front marked pieces)
    (second : LinesScan level back markedBack piecesBack) :
    LinesScan level (front ++ back) (marked ++ markedBack) (pieces ++ piecesBack) := by
  rw [LinesScan, writeAll_append]
  exact Scans.append first second

/-- Lines before lines that have neither marks nor literals. -/
theorem LinesScan.before {front back : List Layout} (first : LinesScan level front marked pieces)
    (second : LinesScan level back [] []) : LinesScan level (front ++ back) marked pieces := by
  have all := first.append second
  rwa [List.append_nil, List.append_nil] at all

theorem linesScan_flatMap {α : Type} {lines : α → List Layout} {marks : α → List Char}
    {pieces : α → List String} {list : List α}
    (h : ∀ a ∈ list, LinesScan level (lines a) (marks a) (pieces a)) :
    LinesScan level (list.flatMap lines) (list.flatMap marks) (list.flatMap pieces) := by
  induction list with
  | nil => exact linesScan_nil
  | cons a rest ih =>
    rw [List.flatMap_cons, List.flatMap_cons, List.flatMap_cons]
    exact (h a List.mem_cons_self).append (ih fun b mem => h b (List.mem_cons_of_mem a mem))

theorem scans_lineFeed : Scans "\n" [] [] := scans_of_code rfl (by decide) rfl

theorem scans_lineText {text : String} (scans : Scans text marked pieces) :
    Scans (lineText level text) marked pieces := by
  unfold lineText
  split
  · next empty =>
    subst empty
    have all := scans.append scans_lineFeed
    rwa [List.append_nil, List.append_nil, String.empty_append] at all
  · refine scans.between ?_ scans_lineFeed
    have blanks : ∀ c ∈ List.replicate (indentWidth level) ' ', c ∉ structural := by
      intro c mem
      rw [List.eq_of_mem_replicate mem]
      decide
    exact (plain_ofList blanks).scans

theorem linesScan_line {text : String} (scans : Scans text marked pieces) :
    LinesScan level [.line text] marked pieces := by
  have written : Scans (lineText level text) marked pieces := scans_lineText scans
  have all := written.append scans_empty
  rwa [List.append_nil, List.append_nil] at all

theorem linesScan_blank : LinesScan level [.blank] [] [] := scans_lineFeed.append scans_empty

theorem linesScan_indented {lines : List Layout} (h : LinesScan (level + 1) lines marked pieces) :
    LinesScan level [.indented lines] marked pieces := by
  have all := Scans.append h scans_empty
  rwa [List.append_nil, List.append_nil] at all

theorem scans_openBrace : Scans " \x7b" ['\x7b'] [] :=
  scans_of_code rfl (by decide) rfl

theorem scans_closeBrace : Scans "\x7d" ['\x7d'] [] :=
  scans_of_code rfl (by decide) rfl

theorem linesScan_block {header : String} {lines : List Layout} (first : Scans header [] pieces)
    (h : LinesScan (level + 1) lines marked piecesBack) :
    LinesScan level [.block header lines] ('\x7b' :: marked ++ ['\x7d'])
      (pieces ++ piecesBack) := by
  have opening : Scans (lineText level (header ++ " \x7b")) ['\x7b'] pieces :=
    scans_lineText (first.before scans_openBrace)
  have closing : Scans (lineText level "\x7d") ['\x7d'] [] := scans_lineText scans_closeBrace
  have all := ((opening.append h).append closing).append scans_empty
  rwa [List.append_nil, List.append_nil, List.append_nil] at all

end Lines

/-! ## Members -/

/-- Words that are left out are empty, so they have no marks and no literals. -/
theorem scans_words {list : List String} (quiet : ∀ word ∈ list, Quiet word) :
    Scans (words list) [] list := by
  have kept : Scans (words list) [] (list.filter (· ≠ "")) :=
    scans_blank.intercalate_quiet fun word mem => quiet word (List.mem_of_mem_filter mem)
  refine ⟨kept.closed, kept.marks_eq, fun c => ?_⟩
  have filled {word : String} (h : InLiteral c word) : word ≠ "" := by
    rintro rfl
    obtain ⟨_, -, mem⟩ := h
    exact List.not_mem_nil mem
  rw [kept.inLiteral_iff]
  constructor
  · exact fun ⟨word, mem, h⟩ => ⟨word, List.mem_of_mem_filter mem, h⟩
  · exact fun ⟨word, mem, h⟩ => ⟨word, List.mem_filter.2 ⟨mem, decide_eq_true (filled h)⟩, h⟩

theorem AttributeArgument.scans {argument : AttributeArgument}
    (quiet : ∀ p ∈ argument.pieces, Quiet p) : Scans argument.text [] argument.pieces := by
  obtain ⟨name, value⟩ := argument
  rw [AttributeArgument.pieces, List.forall_mem_append] at quiet
  cases name with
  | none => exact value.scans quiet.2
  | some name =>
    have front := (quiet.1 name List.mem_cons_self).scans.before scans_assign
    exact front.append (value.scans quiet.2)

theorem Attribute.scans {a : Attribute} (quiet : ∀ p ∈ a.pieces, Quiet p) :
    Scans a.text [] a.pieces := by
  rw [Attribute.pieces, List.forall_mem_cons, List.forall_mem_flatMap] at quiet
  unfold Attribute.text Attribute.pieces
  split
  · next empty =>
    rw [List.isEmpty_iff.1 empty]
    exact quiet.1.scans
  · have arguments := scans_comma.intercalate_unmarked fun argument mem =>
      AttributeArgument.scans (quiet.2 argument mem)
    exact ((quiet.1.scans.before scans_open).append arguments).before scans_close

theorem linesScan_attributeLines {level : Nat} {lists : List AttributeList}
    (quiet : ∀ p ∈ attributePieces lists, Quiet p) :
    LinesScan level (attributeLines lists) [] (attributePieces lists) := by
  induction lists with
  | nil => exact linesScan_nil
  | cons list rest ih =>
    rw [attributePieces, List.flatMap_cons, List.forall_mem_append] at quiet
    have others := ih quiet.2
    cases list with
    | nil => exact others
    | cons a more =>
      have attributes := scans_comma.intercalate_unmarked fun b mem =>
        Attribute.scans (List.forall_mem_flatMap.1 quiet.1 b mem)
      have opening : Scans "[" [] [] := scans_of_code rfl (by decide) rfl
      have closing : Scans "]" [] [] := scans_of_code rfl (by decide) rfl
      exact (linesScan_line (attributes.between opening closing)).append others

theorem Statement.scans {statement : Statement} (quiet : ∀ p ∈ statement.pieces, Quiet p) :
    Scans statement.text [] statement.pieces := by
  cases statement with
  | assign target value =>
    rw [Statement.pieces, List.forall_mem_append] at quiet
    exact ((target.scans quiet.1).before scans_assign).append (value.scans quiet.2)
  | expr value => exact value.scans quiet

theorem Accessor.scans (accessor : Accessor) : Scans accessor.text [';'] [] := by
  cases accessor with
  | get => exact scans_of_code rfl (by decide) rfl
  | init => exact scans_of_code rfl (by decide) rfl

theorem Property.scans {p : Property}
    (quiet : ∀ piece ∈ p.modifiers ++ [p.type, p.name] ++ optionPieces p.initializer, Quiet piece) :
    Scans p.line p.marks (p.modifiers ++ [p.type, p.name] ++ optionPieces p.initializer) := by
  obtain ⟨attributes, modifiers, type, name, accessors, initializer⟩ := p
  rw [List.forall_mem_append] at quiet
  have accessorTexts := scans_blank.intercalate fun accessor (_ : accessor ∈ accessors) =>
    accessor.scans
  rw [← List.map_eq_flatMap, List.flatMap_eq_nil_iff.2 fun _ _ => rfl] at accessorTexts
  have opening : Scans " \x7b " ['\x7b'] [] :=
    scans_of_code rfl (by decide) rfl
  have closing : Scans " \x7d" ['\x7d'] [] := scans_of_code rfl (by decide) rfl
  have declared := (((scans_words quiet.1).before opening).before accessorTexts).before closing
  cases initializer with
  | none =>
    rw [optionPieces, List.append_nil]
    simpa [Property.line, Property.marks] using declared
  | some value =>
    have all := ((declared.before scans_assign).append (value.scans quiet.2)).before scans_semicolon
    simpa [Property.line, Property.marks, optionPieces] using all

/-- Words with a list of parameters behind them, which is what methods, constructors and delegates
begin with. -/
theorem scans_parameterized {list : List String} {parameters : List Param}
    (quiet : ∀ p ∈ list ++ paramPieces parameters, Quiet p) :
    Scans (words list ++ "(" ++ paramList parameters ++ ")") []
      (list ++ paramPieces parameters) := by
  rw [List.forall_mem_append] at quiet
  have front := (scans_words quiet.1).before scans_open
  exact (front.append (params_scan parameters quiet.2)).before scans_close

theorem Method.linesScan_lines {level : Nat} {m : Method}
    (quiet : ∀ p ∈ m.modifiers ++ [m.returnType, m.name] ++ paramPieces m.parameters ++
      optionPieces m.body, Quiet p) :
    LinesScan level (m.lines level) [';'] (m.modifiers ++ [m.returnType, m.name] ++
      paramPieces m.parameters ++ optionPieces m.body) := by
  obtain ⟨attributes, modifiers, returnType, name, parameters, body⟩ := m
  rw [List.forall_mem_append] at quiet
  have signature := scans_parameterized quiet.1
  cases body with
  | none =>
    rw [optionPieces, List.append_nil]
    exact linesScan_line (signature.before scans_semicolon)
  | some body =>
    have arrow : Scans " => " [] [] := scans_of_code rfl (by decide) rfl
    have arrowEnd : Scans " =>" [] [] := scans_of_code rfl (by decide) rfl
    have bodyScans := body.scans quiet.2
    rw [Method.lines, optionPieces]
    change LinesScan level (if _ then _ else _) _ _
    split
    · exact linesScan_line (((signature.before arrow).append bodyScans).before scans_semicolon)
    · have first : LinesScan level [.line _] _ _ := linesScan_line (signature.before arrowEnd)
      exact first.append (linesScan_indented (linesScan_line (bodyScans.before scans_semicolon)))

theorem Constructor.linesScan_block {level : Nat} {c : Constructor}
    (quiet : ∀ p ∈ c.modifiers ++ [c.name] ++ paramPieces c.parameters ++
      c.body.flatMap Statement.pieces, Quiet p) :
    LinesScan level [.block c.header (c.body.map fun statement => .line (statement.text ++ ";"))]
      ('\x7b' :: c.body.map (fun _ => ';') ++ ['\x7d'])
      (c.modifiers ++ [c.name] ++ paramPieces c.parameters ++ c.body.flatMap Statement.pieces) := by
  rw [List.forall_mem_append] at quiet
  refine CSharp.linesScan_block (scans_parameterized quiet.1) ?_
  rw [List.map_eq_flatMap, List.map_eq_flatMap]
  refine linesScan_flatMap fun statement mem => linesScan_line ?_
  exact (Statement.scans (List.forall_mem_flatMap.1 quiet.2 statement mem)).before scans_semicolon

/-- The lines of a member have its marks and its texts. -/
theorem Member.linesScan_lines {level : Nat} {member : Member}
    (quiet : ∀ p ∈ member.pieces, Quiet p) :
    LinesScan level (member.lines level) member.marks member.pieces := by
  cases member with
  | property p =>
    rw [Member.pieces, Property.pieces, List.append_assoc, List.forall_mem_append] at quiet
    rw [Member.pieces, Property.pieces, List.append_assoc]
    exact (linesScan_attributeLines quiet.1).append (linesScan_line (Property.scans quiet.2))
  | method m =>
    rw [Member.pieces, Method.pieces, List.forall_mem_append] at quiet
    exact (linesScan_attributeLines quiet.1).append (Method.linesScan_lines quiet.2)
  | constructor c =>
    rw [Member.pieces, Constructor.pieces, List.forall_mem_append] at quiet
    exact (linesScan_attributeLines quiet.1).append (Constructor.linesScan_block quiet.2)
  | event e =>
    rw [Member.pieces, Event.pieces, List.forall_mem_append] at quiet
    have line := (scans_words quiet.2).before scans_semicolon
    exact (linesScan_attributeLines quiet.1).append (linesScan_line line)
  | delegate d =>
    rw [Member.pieces, Delegate.pieces, List.forall_mem_append] at quiet
    have front := (scans_words quiet.1).before scans_open
    have ending : Scans ");" [';'] [] := scans_of_code rfl (by decide) rfl
    exact linesScan_line ((front.append (params_scan d.parameters quiet.2)).before ending)

theorem Member.linesScan_gap {level : Nat} (member : Member) :
    LinesScan level member.gap [] [] := by
  cases member with
  | delegate d => exact linesScan_nil
  | property _ | method _ | constructor _ | event _ => exact linesScan_blank

/-! ## Types and units -/

/-- Comments, each behind its slashes. -/
theorem linesScan_comments (level : Nat) {slashes : String} {comments : List String}
    (plain : Scans slashes [] []) (quiet : ∀ comment ∈ comments, Quiet comment) :
    LinesScan level (comments.map fun comment => .line (slashes ++ comment)) [] comments := by
  have all : LinesScan level (comments.flatMap fun comment => [.line (slashes ++ comment)])
      (comments.flatMap fun _ => []) (comments.flatMap fun comment => [comment]) :=
    linesScan_flatMap fun comment mem => linesScan_line ((quiet comment mem).scans.behind plain)
  rwa [← List.map_eq_flatMap, List.flatMap_singleton',
    List.flatMap_eq_nil_iff.2 fun _ _ => rfl] at all

theorem TypeDecl.scans_header {t : TypeDecl}
    (quiet : ∀ p ∈ t.modifiers ++ [t.keyword.text, t.name] ++ t.bases, Quiet p) :
    Scans t.header [] (t.modifiers ++ [t.keyword.text, t.name] ++ t.bases) := by
  rw [List.forall_mem_append] at quiet
  have constructorText : Scans (if t.primaryConstructor then "()" else "") [] [] := by
    split
    · exact scans_of_code rfl (by decide) rfl
    · exact scans_empty
  have baseTexts : Scans (if t.bases.isEmpty then "" else ": " ++ ", ".intercalate t.bases) []
      t.bases := by
    split
    · next empty =>
      rw [List.isEmpty_iff.1 empty]
      exact scans_empty
    · exact (scans_comma.intercalate_quiet quiet.2).behind
        (scans_of_code rfl (by decide) rfl)
  exact ((scans_words quiet.1).before constructorText).append baseTexts

theorem TypeDecl.linesScan_body {level : Nat} {t : TypeDecl}
    (quiet : ∀ p ∈ t.members.flatMap Member.pieces, Quiet p) :
    LinesScan level (t.body level) (t.members.flatMap Member.marks)
      (t.members.flatMap Member.pieces) := by
  unfold TypeDecl.body
  split
  · next empty =>
    rw [List.isEmpty_iff.1 empty]
    exact linesScan_nil
  · refine linesScan_blank.append (linesScan_indented (linesScan_flatMap fun member mem => ?_))
    have lines : LinesScan (level + 1) (member.lines (level + 1)) _ _ :=
      Member.linesScan_lines (List.forall_mem_flatMap.1 quiet member mem)
    exact lines.before member.linesScan_gap

theorem TypeDecl.linesScan_lines {level : Nat} {t : TypeDecl} (quiet : ∀ p ∈ t.pieces, Quiet p) :
    LinesScan level (t.lines level) t.marks t.pieces := by
  rw [TypeDecl.pieces, List.forall_mem_append, List.forall_mem_append,
    List.forall_mem_append] at quiet
  obtain ⟨⟨⟨quietDocs, quietAttributes⟩, quietHeader⟩, quietMembers⟩ := quiet
  have slashes : Scans "/// " [] [] := scans_of_code rfl (by decide) rfl
  have docs := linesScan_comments level slashes quietDocs
  have header : LinesScan level [.line (t.header ++ " \x7b")] ['\x7b'] _ :=
    linesScan_line ((TypeDecl.scans_header quietHeader).before scans_openBrace)
  have body : LinesScan level (t.body level) _ _ := TypeDecl.linesScan_body quietMembers
  have front := ((docs.append (linesScan_attributeLines quietAttributes)).append header).append body
  rw [← List.append_nil t.pieces]
  exact front.append (linesScan_line scans_closeBrace)

theorem linesScan_typeLines {types : List TypeDecl}
    (quiet : ∀ p ∈ types.flatMap TypeDecl.pieces, Quiet p) :
    LinesScan 0 (typeLines types) (types.flatMap TypeDecl.marks)
      (types.flatMap TypeDecl.pieces) := by
  match types, quiet with
  | [], _ => exact linesScan_nil
  | [t], quiet =>
    rw [List.flatMap_singleton] at quiet ⊢
    rw [List.flatMap_singleton]
    exact TypeDecl.linesScan_lines quiet
  | t :: next :: rest, quiet =>
    rw [List.flatMap_cons, List.forall_mem_append] at quiet
    rw [List.flatMap_cons, List.flatMap_cons]
    have first : LinesScan 0 (t.lines 0) _ _ := TypeDecl.linesScan_lines quiet.1
    exact (first.before linesScan_blank).append (linesScan_typeLines quiet.2)

/-- **The marks of a printed unit are those of its declarations, and its literals are those of the
stored texts, as long as these close their literals and have no marks.** -/
theorem CompilationUnit.scans {unit : CompilationUnit} (quiet : ∀ p ∈ unit.pieces, Quiet p) :
    Scans unit.text unit.marks unit.pieces := by
  obtain ⟨comments, nullableEnable, fileNamespace, types⟩ := unit
  rw [CompilationUnit.pieces, List.forall_mem_append, List.forall_mem_append] at quiet
  obtain ⟨⟨quietComments, quietNamespace⟩, quietTypes⟩ := quiet
  have slashes : Scans "// " [] [] := scans_of_code rfl (by decide) rfl
  have nullable : LinesScan 0
      (if nullableEnable then [.line "#nullable enable"] else []) [] [] := by
    split
    · exact linesScan_line (scans_of_code rfl (by decide) rfl)
    · exact linesScan_nil
  have gap : LinesScan 0 (if comments.isEmpty && !nullableEnable then [] else [.blank]) [] [] := by
    split
    · exact linesScan_nil
    · exact linesScan_blank
  have header := ((linesScan_comments 0 slashes quietComments).before nullable).before gap
  have typesScan := linesScan_typeLines quietTypes
  cases fileNamespace with
  | none => exact (header.append linesScan_nil).append typesScan
  | some name =>
    have word : Scans "namespace " [] [] := scans_of_code rfl (by decide) rfl
    have line := ((quietNamespace name List.mem_cons_self).scans.behind word).before scans_semicolon
    exact (header.append ((linesScan_line line).before linesScan_blank)).append typesScan

end TypedHub.CSharp
