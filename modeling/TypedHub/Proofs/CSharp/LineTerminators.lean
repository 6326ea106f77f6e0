import TypedHub.Proofs.CSharp.Characters
import TypedHub.Proofs.CSharp.Spelling

/-!
# Ends of lines in expressions

An expression is printed from raw texts, which are taken over as they are, and from values, which
become string literals. A literal escapes the ends of lines that are control characters; the line
separator and the paragraph separator stand for themselves. So an end of a line gets into a printed
expression by a raw text, or as one of the two separators by a value (`lineEnd_mem_iff`).
-/

namespace TypedHub.CSharp

/-! ## Raw texts and values -/

/-- The text of a leaf that is printed as it is. -/
def Leaf.raw? : Leaf → Option String
  | name text | literal text => some text
  | str _ => none

/-- The value of a leaf that is printed as a string literal. -/
def Leaf.value? : Leaf → Option String
  | name _ | literal _ => none
  | str value => some value

/-- The texts of an expression that are printed as they are. -/
def Expr.rawTexts (e : Expr) : List String := e.leaves.filterMap Leaf.raw?

/-- The values of the string literals of an expression. -/
def Expr.values (e : Expr) : List String := e.leaves.filterMap Leaf.value?

/-! ## Ends of lines -/

variable {c : Char}

/-- The ends of lines are none of the printer's own characters, and no quotes. -/
theorem isPrintable_of_lineEnd (lineEnd : c ∈ lineEnds) : isPrintable c = false := by
  have all : ∀ c ∈ lineEnds, isPrintable c = false := forall_mem_of_all (by decide)
  exact all c lineEnd

/-- An end of a line stands in the text of a leaf that is raw and has it, or that is a value with a
separator. -/
theorem mem_leafText_iff (lineEnd : c ∈ lineEnds) (leaf : Leaf) :
    c ∈ leaf.text.toList ↔
      (∃ text, leaf.raw? = some text ∧ c ∈ text.toList) ∨
        c ∈ separators ∧ ∃ value, leaf.value? = some value ∧ c ∈ value.toList := by
  cases leaf with
  | name text => simp [Leaf.text, Leaf.raw?, Leaf.value?]
  | literal text => simp [Leaf.text, Leaf.raw?, Leaf.value?]
  | str value => simp [Leaf.text, Leaf.raw?, Leaf.value?, mem_stringLiteral_iff lineEnd]

/-- **An end of a line stands in the literal of a value if and only if it is one of the two
separators and the value has it, and in a printed expression if and only if a raw text has it, or it
is one of the two separators and the value of a literal has it.** -/
theorem lineEnd_mem_iff (lineEnd : c ∈ lineEnds) :
    (∀ value : String, c ∈ (stringLiteral value).toList ↔ c ∈ separators ∧ c ∈ value.toList) ∧
    ∀ e : Expr, c ∈ e.text.toList ↔
      (∃ text ∈ e.rawTexts, c ∈ text.toList) ∨
        c ∈ separators ∧ ∃ value ∈ e.values, c ∈ value.toList := by
  refine ⟨mem_stringLiteral_iff lineEnd, fun e => ?_⟩
  have leaves : c ∈ e.text.toList ↔ ∃ leaf ∈ e.leaves, c ∈ leaf.text.toList := by
    rw [Expr.mem_text_iff (isPrintable_of_lineEnd lineEnd), Expr.pieces_eq, Among]
    simp only [List.mem_map, exists_exists_and_eq_and]
  rw [leaves]
  simp only [mem_leafText_iff lineEnd, Expr.rawTexts, Expr.values, List.mem_filterMap]
  constructor
  · rintro ⟨leaf, mem, ⟨text, raw, among⟩ | ⟨separator, value, given, among⟩⟩
    · exact .inl ⟨text, ⟨leaf, mem, raw⟩, among⟩
    · exact .inr ⟨separator, value, ⟨leaf, mem, given⟩, among⟩
  · rintro (⟨text, ⟨leaf, mem, raw⟩, among⟩ | ⟨separator, value, ⟨leaf, mem, given⟩, among⟩)
    · exact ⟨leaf, mem, .inl ⟨text, raw, among⟩⟩
    · exact ⟨leaf, mem, .inr ⟨separator, value, given, among⟩⟩

/-- A line feed in a string gets into no call, neither by the string nor by the name of a function
that has none. -/
theorem lineEnd_mem_iff_lineFeed :
    '\n' ∈ lineEnds ∧ '\n' ∉ (stringLiteral "a\nb").toList ∧
      '\n' ∉ (Expr.callName "f" [.str "a\nb"]).text.toList := by
  have lineEnd : '\n' ∈ lineEnds := by decide
  obtain ⟨literals, expressions⟩ := lineEnd_mem_iff lineEnd
  refine ⟨lineEnd, fun mem => ?_, fun mem => ?_⟩
  · exact absurd ((literals _).1 mem) (by decide)
  · exact absurd ((expressions _).1 mem) (by decide)

/-- A line separator stands unescaped in the literal of a value that has it, and so in an expression
without any raw text. -/
theorem not_oneLine_lineSeparator :
    '\u2028' ∈ lineEnds ∧ '\u2028' ∈ (stringLiteral "a\u2028b").toList ∧
      (Expr.str "a\u2028b").rawTexts = [] ∧ '\u2028' ∈ (Expr.str "a\u2028b").text.toList := by
  decide

end TypedHub.CSharp
