import TypedHub.Proofs.CSharp.Spacing
import TypedHub.Proofs.Text.Split

/-!
# Tidy texts

A text is tidy if it consists of whole lines, none of them with a carriage return, if no two blank
lines follow each other, if all others are indented by at most two levels and have no spaces at
either end behind that, and if the last one is a closing brace. Where the rows of a unit begin and
end with characters that are no spaces, its text is tidy (`CompilationUnit.tidy_text`).
-/

namespace TypedHub.CSharp

/-- The characters that Unicode counts as spaces. -/
def spaces : List Char :=
  ['\t', '\n', '\x0b', '\x0c', '\r', ' ', '\u0085', '\u00a0', '\u1680', '\u2000', '\u2001',
   '\u2002', '\u2003', '\u2004', '\u2005', '\u2006', '\u2007', '\u2008', '\u2009', '\u200a',
   '\u2028', '\u2029', '\u202f', '\u205f', '\u3000']

/-- The text begins with a character, and that is no space. -/
def Begins (text : String) : Prop := ∃ c ∈ text.toList.head?, c ∉ spaces

/-- The text ends with a character, and that is no space. -/
def Ends (text : String) : Prop := ∃ c ∈ text.toList.getLast?, c ∉ spaces

/-- A line that is indented by no, four or eight blanks, with a text behind them that neither begins
nor ends with a space. -/
def IsTrimmedLine (line : String) : Prop :=
  ∃ width ∈ [0, 4, 8], ∃ text,
    line = String.ofList (List.replicate width ' ') ++ text ∧ Begins text ∧ Ends text

/-- The text consists of whole lines, and these are tidy. -/
structure Tidy (text : String) (lines : List String) : Prop where
  /-- Each line has a line feed behind it, and nothing follows the last one. -/
  whole : Text.parts '\n' text = lines ++ [""]
  noReturn : '\r' ∉ text.toList
  closing : lines.getLast? = some "\x7d"
  /-- No two blank lines follow each other. -/
  spaced : lines.IsChain fun line next => line ≠ "" ∨ next ≠ ""
  trimmed : ∀ line ∈ lines, line ≠ "" → IsTrimmedLine line

/-! ## Ends of texts -/

section

variable {text : String}

theorem begins_of_toList {c : Char} {rest : List Char} (chars : text.toList = c :: rest)
    (h : c ∉ spaces) : Begins text :=
  ⟨c, by rw [chars]; rfl, h⟩

theorem begins_of_spelled {c : Char} {rest : List Char} (spelled : text = String.ofList (c :: rest))
    (h : c ∉ spaces) : Begins text :=
  begins_of_toList (by rw [spelled, String.toList_ofList]) h

theorem ends_of_spelled {chars : List Char} (spelled : text = String.ofList chars)
    (h : chars.getLast?.any (fun c => decide (c ∉ spaces)) = true) : Ends text := by
  cases last : chars.getLast? with
  | none => rw [last] at h; cases h
  | some c =>
    rw [last] at h
    exact ⟨c, by rw [spelled, String.toList_ofList, last]; rfl, of_decide_eq_true h⟩

theorem Begins.append (h : Begins text) (rest : String) : Begins (text ++ rest) := by
  obtain ⟨c, mem, apart⟩ := h
  refine ⟨c, ?_, apart⟩
  rw [String.toList_append, List.head?_append, Option.mem_def.1 mem]
  rfl

theorem Ends.append (h : Ends text) (front : String) : Ends (front ++ text) := by
  obtain ⟨c, mem, apart⟩ := h
  refine ⟨c, ?_, apart⟩
  rw [String.toList_append, List.getLast?_append, Option.mem_def.1 mem]
  rfl

theorem Begins.ne_empty (h : Begins text) : text ≠ "" := by
  rintro rfl
  obtain ⟨c, mem, -⟩ := h
  cases mem

/-- Words begin with the first of them. -/
theorem Begins.words (h : Begins text) (rest : List String) : Begins (words (text :: rest)) := by
  obtain ⟨others, eq⟩ := exists_words_eq h.ne_empty rest
  exact eq ▸ h.append others

end

theorem ends_of_mem_closers : ∀ back ∈ closers, Ends back := by
  simp only [closers, List.forall_mem_cons]
  exact ⟨ends_of_spelled rfl (by decide), ends_of_spelled rfl (by decide),
    ends_of_spelled rfl (by decide), ends_of_spelled rfl (by decide),
    ends_of_spelled rfl (by decide), ends_of_spelled rfl (by decide),
    ends_of_spelled rfl (by decide), List.forall_mem_nil _⟩

/-! ## Rows -/

/-- A row as a line of a text. -/
def Row.line (row : Row) : String := String.ofList row.chars

theorem Row.line_of_text_eq_empty {row : Row} (h : row.text = "") : row.line = "" := by
  rw [line, chars, if_pos h]

theorem Row.line_eq {row : Row} (h : row.text ≠ "") :
    row.line = String.ofList (List.replicate (indentWidth row.level) ' ') ++ row.text := by
  rw [line, chars, if_neg h, String.ofList_append, String.ofList_toList]

theorem Row.line_ne_empty {row : Row} (h : row.text ≠ "") : row.line ≠ "" := by
  rw [line_eq h]
  exact fun empty => h (String.append_eq_empty_iff.1 empty).2

/-- A row holds no character but blanks and those of its text. -/
theorem Row.not_mem_chars {row : Row} {c : Char} (other : c ≠ ' ') (h : c ∉ row.text.toList) :
    c ∉ row.chars := by
  rw [chars]
  split
  · exact List.not_mem_nil
  · rw [List.mem_append, not_or]
    exact ⟨fun mem => other (List.eq_of_mem_replicate mem), h⟩

/-- The lines of a text that is written are its rows, and nothing stands behind the last of them. -/
theorem parts_writeAll {level : Nat} {steps : List Layout}
    (h : ∀ row ∈ rowsAll level steps, '\n' ∉ row.text.toList) :
    Text.parts '\n' (writeAll level steps).text =
      (rowsAll level steps).map Row.line ++ [""] := by
  have apart : ∀ chars ∈ (rowsAll level steps).map Row.chars, '\n' ∉ chars :=
    List.forall_mem_map.2 fun row mem => row.not_mem_chars (by decide) (h row mem)
  have split := Text.splitAt_flatMap_concat apart
  rw [List.flatMap_map] at split
  rw [Text.parts, toList_writeAll, rowChars, split, List.map_append, List.map_map]
  rfl

theorem Row.Shaped.isTrimmedLine {fronts backs : List String} {row : Row}
    (shaped : row.Shaped fronts backs) (begins : ∀ front ∈ fronts, Begins front)
    (ends : ∀ back ∈ backs, Ends back) : IsTrimmedLine row.line := by
  obtain ⟨small, ⟨front, listed, rest, first⟩, back, listed', rest', last⟩ := shaped
  have text : Begins row.text := first ▸ (begins front listed).append rest
  refine ⟨indentWidth row.level, ?_, row.text, row.line_eq text.ne_empty, text,
    last ▸ (ends back listed').append rest'⟩
  have levels : ∀ level ≤ 2, indentWidth level ∈ [0, 4, 8] := by decide
  exact levels row.level small

/-! ## Units -/

/-- **The text of a unit is tidy if its rows begin and end with characters that are no spaces.** -/
theorem CompilationUnit.tidy_text {unit : CompilationUnit} (types : unit.types ≠ [])
    (begins : ∀ front ∈ unit.fronts, Begins front) (ends : ∀ back ∈ unit.backs, Ends back)
    (controls : ∀ row ∈ unit.rows, '\n' ∉ row.text.toList ∧ '\r' ∉ row.text.toList) :
    Tidy unit.text (unit.rows.map Row.line) where
  whole := parts_writeAll fun row mem => (controls row mem).1
  noReturn := by
    rw [toList_text, rowChars, List.mem_flatMap]
    rintro ⟨row, mem, among⟩
    obtain inside | feed := List.mem_append.1 among
    · exact row.not_mem_chars (by decide) (controls row mem).2 inside
    · exact absurd (List.mem_singleton.1 feed) (by decide)
  closing := by
    rw [List.getLast?_map, unit.getLast?_rows types]
    rfl
  spaced := by
    rw [List.isChain_map]
    exact unit.spaced_rows.imp fun row next h => h.imp row.line_ne_empty next.line_ne_empty
  trimmed := List.forall_mem_map.2 fun row mem filled => by
    obtain empty | shaped := unit.shaped_of_mem_rows mem
    · exact absurd (row.line_of_text_eq_empty empty) filled
    · exact shaped.isTrimmedLine begins ends

end TypedHub.CSharp
