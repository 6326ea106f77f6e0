import TypedHub.Proofs.CSharp.Marks

/-!
# The rows of a printed compilation unit

The text of a layout is a list of rows, each with a line feed behind it (`toList_writeAll`). A row
knows its level, so what is said of the rows of a unit is said of the lines of its text together
with their indentation.

* No row stands less deep than the layout it belongs to (`level_le_of_mem_rowsAll`).
* Apart from the rows of members there are only a few kinds of rows
  (`CompilationUnit.hasRow_of_mem_rows`).
-/

namespace TypedHub.CSharp

/-! ## Rows -/

/-- A line of a text, without its line feed: how deep it stands, and what stands there. -/
structure Row where
  level : Nat
  text : String

/-- The characters of a row. Nothing is indented where there is nothing else. -/
def Row.chars (row : Row) : List Char :=
  if row.text = "" then []
  else List.replicate (indentWidth row.level) ' ' ++ row.text.toList

theorem Row.chars_outer (text : String) : (Row.mk 0 text).chars = text.toList := by
  rw [Row.chars]
  split
  · next empty =>
    change text = "" at empty
    rw [empty]
    rfl
  · rfl

mutual

/-- The rows that a step writes at the given level. -/
@[simp]
def Layout.rows (level : Nat) : Layout → List Row
  | .line text => [⟨level, text⟩]
  | .blank => [⟨level, ""⟩]
  | .width => []
  | .block header body =>
    ⟨level, header ++ " \x7b"⟩ :: rowsAll (level + 1) body ++ [⟨level, "\x7d"⟩]
  | .indented body => rowsAll (level + 1) body

/-- The rows that steps write one after the other. -/
@[simp]
def rowsAll (level : Nat) : List Layout → List Row
  | [] => []
  | step :: rest => step.rows level ++ rowsAll level rest

end

/-- The rows of the text of a unit. -/
def CompilationUnit.rows (unit : CompilationUnit) : List Row := rowsAll 0 unit.lines

theorem rowsAll_append (level : Nat) (front back : List Layout) :
    rowsAll level (front ++ back) = rowsAll level front ++ rowsAll level back := by
  induction front with
  | nil => rfl
  | cons step rest ih => rw [List.cons_append, rowsAll, rowsAll, ih, List.append_assoc]

theorem rowsAll_lines {α : Type} (level : Nat) (text : α → String) (list : List α) :
    rowsAll level (list.map fun a => .line (text a)) = list.map fun a => ⟨level, text a⟩ := by
  induction list with
  | nil => rfl
  | cons a rest ih => rw [List.map_cons, List.map_cons, rowsAll, ih, Layout.rows]; rfl

theorem rowsAll_flatMap {α : Type} (level : Nat) (lines : α → List Layout) (list : List α) :
    rowsAll level (list.flatMap lines) = list.flatMap fun a => rowsAll level (lines a) := by
  induction list with
  | nil => rfl
  | cons a rest ih => rw [List.flatMap_cons, List.flatMap_cons, rowsAll_append, ih]

/-- The characters of rows, each with a line feed behind it. -/
def rowChars (rows : List Row) : List Char := rows.flatMap fun row => row.chars ++ ['\n']

theorem rowChars_append (front back : List Row) :
    rowChars (front ++ back) = rowChars front ++ rowChars back := List.flatMap_append

theorem toList_lineText (level : Nat) (text : String) :
    (lineText level text).toList = rowChars [⟨level, text⟩] := by
  rw [rowChars, List.flatMap_singleton, Row.chars, lineText]
  split
  · rfl
  · rw [String.toList_append, String.toList_append, String.toList_ofList]
    rfl

mutual

theorem Layout.toList_write (level : Nat) : ∀ step : Layout,
    (step.write level).text.toList = rowChars (step.rows level)
  | .line text => toList_lineText level text
  | .blank => by
    rw [Layout.write, Layout.rows, ← toList_lineText]
    rfl
  | .width => rfl
  | .block header body => by
    rw [Layout.write, Layout.rows, List.cons_append, ← List.singleton_append, rowChars_append,
      rowChars_append, ← toList_lineText, ← toList_lineText, ← toList_writeAll (level + 1) body,
      ← List.append_assoc, ← String.toList_append, ← String.toList_append]
    rfl
  | .indented body => by
    rw [Layout.write, Layout.rows]
    exact toList_writeAll (level + 1) body

/-- **The text of a layout consists of its rows.** -/
theorem toList_writeAll (level : Nat) : ∀ steps : List Layout,
    (writeAll level steps).text.toList = rowChars (rowsAll level steps)
  | [] => rfl
  | step :: rest => by
    rw [writeAll, rowsAll, rowChars_append, ← Layout.toList_write level step,
      ← toList_writeAll level rest, ← String.toList_append]
    rfl

end

theorem CompilationUnit.toList_text (unit : CompilationUnit) :
    unit.text.toList = rowChars unit.rows := toList_writeAll 0 unit.lines

mutual

theorem Layout.level_le_of_mem_rows (level : Nat) : ∀ step : Layout,
    ∀ row ∈ step.rows level, level ≤ row.level
  | .line _ | .blank => List.forall_mem_singleton.2 (Nat.le_refl level)
  | .width => List.forall_mem_nil _
  | .block header body => by
    rw [Layout.rows, List.forall_mem_append, List.forall_mem_cons, List.forall_mem_singleton]
    refine ⟨⟨Nat.le_refl level, fun row mem => ?_⟩, Nat.le_refl level⟩
    exact Nat.le_of_succ_le (level_le_of_mem_rowsAll _ body row mem)
  | .indented body => by
    rw [Layout.rows]
    exact fun row mem => Nat.le_of_succ_le (level_le_of_mem_rowsAll _ body row mem)

/-- No row stands less deep than the layout that it belongs to. -/
theorem level_le_of_mem_rowsAll (level : Nat) : ∀ steps : List Layout,
    ∀ row ∈ rowsAll level steps, level ≤ row.level
  | [] => List.forall_mem_nil _
  | step :: rest => by
    rw [rowsAll, List.forall_mem_append]
    exact ⟨Layout.level_le_of_mem_rows level step, level_le_of_mem_rowsAll level rest⟩

end

/-! ## The rows of a unit -/

/-- Words begin with the first of them. -/
theorem exists_words_eq {first : String} (h : first ≠ "") (rest : List String) :
    ∃ others, words (first :: rest) = first ++ others := by
  rw [words, List.filter_cons_of_pos (by simpa using h)]
  cases rest.filter (· ≠ "") with
  | nil => exact ⟨"", by rw [String.intercalate_singleton, String.append_empty]⟩
  | cons next more => exact ⟨_, by rw [String.intercalate_cons_cons, String.append_assoc]⟩

/-- The rows of a type that is not indented itself. -/
inductive TypeDecl.HasRow (t : TypeDecl) : Row → Prop where
  | doc {doc : String} (mem : doc ∈ t.docs) : t.HasRow ⟨0, "/// " ++ doc⟩
  | attributes {list : AttributeList} (mem : list ∈ t.attributes) :
    t.HasRow ⟨0, "[" ++ ", ".intercalate (list.map Attribute.text) ++ "]"⟩
  | header : t.HasRow ⟨0, t.header ++ " \x7b"⟩
  /-- The rows before the members and behind each of them. -/
  | blank (level : Nat) : t.HasRow ⟨level, ""⟩
  | member {member : Member} {row : Row} (mem : member ∈ t.members)
    (inside : row ∈ rowsAll 1 (member.lines 1)) : t.HasRow row
  | closing : t.HasRow ⟨0, "\x7d"⟩

/-- The rows of a unit: those of its head, blank ones, and those of its types. -/
inductive CompilationUnit.HasRow (unit : CompilationUnit) : Row → Prop where
  | comment {comment : String} (mem : comment ∈ unit.header) : unit.HasRow ⟨0, "// " ++ comment⟩
  | nullable : unit.HasRow ⟨0, "#nullable enable"⟩
  | blank : unit.HasRow ⟨0, ""⟩
  | fileNamespace {name : String} (given : unit.fileNamespace = some name) :
    unit.HasRow ⟨0, "namespace " ++ name ++ ";"⟩
  | type {t : TypeDecl} {row : Row} (mem : t ∈ unit.types) (inside : t.HasRow row) :
    unit.HasRow row

theorem rowsAll_attributeLines (level : Nat) (lists : List AttributeList) :
    rowsAll level (attributeLines lists) = (lists.filter (!·.isEmpty)).map fun list =>
      ⟨level, "[" ++ ", ".intercalate (list.map Attribute.text) ++ "]"⟩ := rowsAll_lines ..

theorem Member.blank_of_mem_gap {level : Nat} {member : Member} {row : Row}
    (mem : row ∈ rowsAll level member.gap) : row = ⟨level, ""⟩ := by
  cases member with
  | delegate d => exact absurd mem List.not_mem_nil
  | property _ | method _ | constructor _ | event _ => exact List.mem_singleton.1 mem

namespace TypeDecl

variable {t : TypeDecl} {row : Row}

theorem hasRow_of_mem_body (mem : row ∈ rowsAll 0 (t.body 0)) : t.HasRow row := by
  rw [body] at mem
  split at mem
  · exact absurd mem List.not_mem_nil
  · simp only [rowsAll, Layout.rows, List.append_nil, List.singleton_append, List.mem_cons,
      rowsAll_flatMap, List.mem_flatMap, rowsAll_append, List.mem_append] at mem
    obtain rfl | ⟨member, listed, lines | gap⟩ := mem
    · exact .blank 0
    · exact .member listed lines
    · exact member.blank_of_mem_gap gap ▸ .blank 1

theorem hasRow_of_mem_rows (mem : row ∈ rowsAll 0 (t.lines 0)) : t.HasRow row := by
  rw [lines, rowsAll_append, rowsAll_append, rowsAll_append, rowsAll_append, rowsAll_lines,
    rowsAll_attributeLines] at mem
  simp only [List.mem_append] at mem
  obtain (((docs | attributes) | header) | body) | closing := mem
  · obtain ⟨doc, listed, rfl⟩ := List.mem_map.1 docs
    exact .doc listed
  · obtain ⟨list, kept, rfl⟩ := List.mem_map.1 attributes
    exact .attributes (List.mem_of_mem_filter kept)
  · exact List.mem_singleton.1 header ▸ .header
  · exact hasRow_of_mem_body body
  · exact List.mem_singleton.1 closing ▸ .closing

end TypeDecl

namespace CompilationUnit

variable {unit : CompilationUnit} {row : Row}

theorem hasRow_of_mem_typeLines : ∀ types : List TypeDecl, (∀ t ∈ types, t ∈ unit.types) →
    row ∈ rowsAll 0 (typeLines types) → unit.HasRow row
  | [], _, mem => absurd mem List.not_mem_nil
  | [t], listed, mem => .type (listed t List.mem_cons_self) (TypeDecl.hasRow_of_mem_rows mem)
  | t :: next :: rest, listed, mem => by
    rw [List.forall_mem_cons] at listed
    rw [typeLines, rowsAll_append, rowsAll_append, List.mem_append, List.mem_append] at mem
    obtain (first | blank) | others := mem
    · exact .type listed.1 (TypeDecl.hasRow_of_mem_rows first)
    · exact List.mem_singleton.1 blank ▸ .blank
    · exact hasRow_of_mem_typeLines (next :: rest) listed.2 others
    · exact nofun

/-- **What the rows of a unit are.** -/
theorem hasRow_of_mem_rows (mem : row ∈ unit.rows) : unit.HasRow row := by
  rw [rows, lines, rowsAll_append, rowsAll_append, rowsAll_append, rowsAll_append,
    rowsAll_lines] at mem
  simp only [List.mem_append] at mem
  obtain (((comments | nullable) | gap) | named) | types := mem
  · obtain ⟨comment, listed, rfl⟩ := List.mem_map.1 comments
    exact .comment listed
  · split at nullable
    · exact List.mem_singleton.1 nullable ▸ .nullable
    · exact absurd nullable List.not_mem_nil
  · split at gap
    · exact absurd gap List.not_mem_nil
    · exact List.mem_singleton.1 gap ▸ .blank
  · split at named
    · next name given =>
      obtain rfl | rfl := List.mem_pair.1 named
      · exact .fileNamespace given
      · exact .blank
    · exact absurd named List.not_mem_nil
  · exact hasRow_of_mem_typeLines unit.types (fun _ => id) types

end CompilationUnit

end TypedHub.CSharp
