import TypedHub.Proofs.CSharp.Tidy

/-!
# Indentation

A writer knows what it has written and how deep the next line stands. A group of steps makes the
level one greater and sets it back behind the last of them, so that nothing outside of the group
depends on what is in it: a writer ends at the level at which it began, and has written the same as
a layout at that level (`runAll_eq`).

Hence the level of a layout shows in the blanks in front of its lines and in the widths, and nowhere
else (`runAll_nested`). In front of an empty line there are none, wherever it stands.
-/

namespace TypedHub.CSharp

/-! ## Writers -/

/-- A text that is being written: what is there, how deep the next line stands, and the widths that
were asked for. -/
structure Writer where
  text : String
  level : Nat
  widths : List Nat
  deriving DecidableEq

namespace Writer

/-- A writer that has written nothing. -/
def new (level : Nat) : Writer := ⟨"", level, []⟩

def line (w : Writer) (text : String) : Writer := { w with text := w.text ++ lineText w.level text }

def blank (w : Writer) : Writer := { w with text := w.text ++ "\n" }

def width (w : Writer) : Writer := { w with widths := w.widths ++ [indentWidth w.level] }

def indent (w : Writer) : Writer := { w with level := w.level + 1 }

/-- Made behind a group only, where the level is not 0. -/
def dedent (w : Writer) : Writer := { w with level := w.level - 1 }

end Writer

mutual

/-- The writer after a step. -/
def Layout.run (w : Writer) : Layout → Writer
  | .line text => w.line text
  | .blank => w.blank
  | .width => w.width
  | .block header body =>
    (runAll (w.line (header ++ " \x7b")).indent body).dedent.line "\x7d"
  | .indented body => (runAll w.indent body).dedent

/-- The writer after steps that are made one after the other. -/
def runAll (w : Writer) : List Layout → Writer
  | [] => w
  | step :: rest => runAll (step.run w) rest

end

/-- Steps in a group that is the only step of another group, and so on. -/
def nested : Nat → List Layout → List Layout
  | 0, steps => steps
  | levels + 1, steps => [.indented (nested levels steps)]

/-! ## What a writer writes -/

namespace Written

theorem widths_append (a b : Written) : (a ++ b).widths = a.widths ++ b.widths := rfl

theorem append_assoc (a b c : Written) : a ++ b ++ c = a ++ (b ++ c) := by
  refine congrArg₂ Written.mk ?_ ?_
  · exact String.append_assoc
  · exact List.append_assoc ..

theorem append_nothing (a : Written) : a ++ ⟨"", []⟩ = a := by
  refine congrArg₂ Written.mk ?_ ?_
  · exact String.append_empty
  · exact List.append_nil _

end Written

theorem writeAll_singleton (level : Nat) (step : Layout) :
    writeAll level [step] = step.write level := by
  rw [writeAll, writeAll, Written.append_nothing]

namespace Writer

variable (w : Writer)

/-- The writer after something else was written at its level. -/
def add (written : Written) : Writer :=
  { w with text := w.text ++ written.text, widths := w.widths ++ written.widths }

@[simp]
theorem level_add (written : Written) : (w.add written).level = w.level := rfl

@[simp]
theorem level_indent : w.indent.level = w.level + 1 := rfl

theorem add_nothing : w.add ⟨"", []⟩ = w := by
  rw [add, String.append_empty, List.append_nil]

theorem add_add (first second : Written) : (w.add first).add second = w.add (first ++ second) := by
  rw [add, add, add]
  congr 1
  · exact String.append_assoc
  · exact List.append_assoc ..

theorem line_eq (text : String) : w.line text = w.add (.line w.level text) := by
  rw [line, add, Written.line, List.append_nil]

theorem blank_eq : w.blank = w.add ⟨"\n", []⟩ := by
  rw [blank, add, List.append_nil]

theorem width_eq : w.width = w.add ⟨"", [indentWidth w.level]⟩ := by
  rw [width, add, String.append_empty]

/-- A group leaves the level as it was. -/
theorem dedent_add_indent (written : Written) : (w.indent.add written).dedent = w.add written :=
  rfl

end Writer

mutual

theorem Layout.run_eq (w : Writer) : ∀ step : Layout, step.run w = w.add (step.write w.level)
  | .line text => w.line_eq text
  | .blank => w.blank_eq
  | .width => w.width_eq
  | .block header body => by
    rw [Layout.run, Layout.write, runAll_eq _ body, Writer.dedent_add_indent, Writer.line_eq,
      Writer.line_eq, Writer.add_add, Writer.add_add]
    simp only [Writer.level_add, Writer.level_indent, Written.append_assoc]
  | .indented body => by
    rw [Layout.run, Layout.write, runAll_eq _ body, Writer.dedent_add_indent, Writer.level_indent]

/-- **A writer writes what the steps write at its level, and stays at that level.** -/
theorem runAll_eq (w : Writer) : ∀ steps : List Layout,
    runAll w steps = w.add (writeAll w.level steps)
  | [] => w.add_nothing.symm
  | step :: rest => by
    rw [runAll, writeAll, runAll_eq _ rest, Layout.run_eq w step, Writer.add_add, Writer.level_add]

end

theorem writeAll_nested (level levels : Nat) (steps : List Layout) :
    writeAll level (nested levels steps) = writeAll (level + levels) steps := by
  induction levels generalizing level with
  | zero => rfl
  | succ levels ih =>
    rw [nested, writeAll_singleton, Layout.write, ih, Nat.add_right_comm, Nat.add_assoc]

/-! ## Layouts at different levels -/

theorem indentWidth_add (level levels : Nat) :
    indentWidth (level + levels) = indentWidth level + indentWidth levels := Nat.mul_add ..

/-- The row some levels deeper. -/
def Row.deeper (levels : Nat) (row : Row) : Row := { row with level := row.level + levels }

mutual

theorem Layout.rows_add (level levels : Nat) : ∀ step : Layout,
    step.rows (level + levels) = (step.rows level).map (Row.deeper levels)
  | .line _ | .blank | .width => rfl
  | .block header body => by
    rw [Layout.rows, Layout.rows, Nat.add_right_comm, rowsAll_add _ _ body, List.map_append]
    rfl
  | .indented body => by
    rw [Layout.rows, Layout.rows, Nat.add_right_comm, rowsAll_add _ _ body]

theorem rowsAll_add (level levels : Nat) : ∀ steps : List Layout,
    rowsAll (level + levels) steps = (rowsAll level steps).map (Row.deeper levels)
  | [] => rfl
  | step :: rest => by
    rw [rowsAll, rowsAll, List.map_append, Layout.rows_add level levels step,
      rowsAll_add level levels rest]

end

mutual

theorem Layout.widths_add (level levels : Nat) : ∀ step : Layout,
    (step.write (level + levels)).widths =
      (step.write level).widths.map (· + indentWidth levels)
  | .line _ | .blank => rfl
  | .width => by
    rw [Layout.write, Layout.write, indentWidth_add]
    rfl
  | .block header body => by
    rw [Layout.write, Layout.write, Nat.add_right_comm, Written.widths_append,
      Written.widths_append, widthsAll_add _ _ body, Written.widths_append, Written.widths_append]
    simp only [Written.line, List.nil_append, List.append_nil]
  | .indented body => by
    rw [Layout.write, Layout.write, Nat.add_right_comm, widthsAll_add _ _ body]

theorem widthsAll_add (level levels : Nat) : ∀ steps : List Layout,
    (writeAll (level + levels) steps).widths =
      (writeAll level steps).widths.map (· + indentWidth levels)
  | [] => rfl
  | step :: rest => by
    rw [writeAll, writeAll, Written.widths_append, Written.widths_append, List.map_append,
      Layout.widths_add level levels step, widthsAll_add level levels rest]

end

/-! ## Texts -/

mutual

/-- The texts of the lines and headers of a step. -/
def Layout.texts : Layout → List String
  | .line text => [text]
  | .blank => []
  | .width => []
  | .block header body => header :: textsAll body
  | .indented body => textsAll body

/-- The texts of the lines and headers of steps. -/
def textsAll : List Layout → List String
  | [] => []
  | step :: rest => step.texts ++ textsAll rest

end

mutual

theorem Layout.not_mem_rows (level : Nat) : ∀ step : Layout,
    (∀ text ∈ step.texts, '\n' ∉ text.toList) → ∀ row ∈ step.rows level, '\n' ∉ row.text.toList
  | .line _, whole => by
    rw [Layout.texts, List.forall_mem_singleton] at whole
    exact List.forall_mem_singleton.2 whole
  | .blank, _ => List.forall_mem_singleton.2 List.not_mem_nil
  | .width, _ => List.forall_mem_nil _
  | .block header body, whole => by
    rw [Layout.texts, List.forall_mem_cons] at whole
    rw [Layout.rows, List.forall_mem_append, List.forall_mem_cons, List.forall_mem_singleton]
    have opening : '\n' ∉ (header ++ " \x7b").toList := by
      rw [String.toList_append, List.mem_append, not_or]
      exact ⟨whole.1, by decide⟩
    have closing : '\n' ∉ "\x7d".toList := by decide
    exact ⟨⟨opening, not_mem_rowsAll _ body whole.2⟩, closing⟩
  | .indented body, whole => not_mem_rowsAll _ body whole

/-- The rows are whole lines if the texts of lines and headers are. -/
theorem not_mem_rowsAll (level : Nat) : ∀ steps : List Layout,
    (∀ text ∈ textsAll steps, '\n' ∉ text.toList) →
      ∀ row ∈ rowsAll level steps, '\n' ∉ row.text.toList
  | [], _ => List.forall_mem_nil _
  | step :: rest, whole => by
    rw [textsAll, List.forall_mem_append] at whole
    rw [rowsAll, List.forall_mem_append]
    exact ⟨Layout.not_mem_rows level step whole.1, not_mem_rowsAll level rest whole.2⟩

end

/-- A line with blanks in front, unless it is empty. -/
def indentLine (width : Nat) (line : String) : String :=
  if line = "" then "" else String.ofList (List.replicate width ' ') ++ line

/-- A text with blanks in front of each of its lines that is not empty. -/
def indentLines (width : Nat) (text : String) : String :=
  "\n".intercalate ((Text.parts '\n' text).map (indentLine width))

theorem Row.line_deeper (levels : Nat) (row : Row) :
    (row.deeper levels).line = indentLine (indentWidth levels) row.line := by
  by_cases empty : row.text = ""
  · rw [line_of_text_eq_empty empty, indentLine, if_pos rfl]
    exact line_of_text_eq_empty empty
  · have deeper : (row.deeper levels).text ≠ "" := empty
    rw [indentLine, if_neg (line_ne_empty empty), line_eq empty, line_eq deeper,
      ← String.append_assoc, ← String.ofList_append, List.replicate_append_replicate, Row.deeper,
      indentWidth_add, Nat.add_comm]

/-- **A layout that stands some levels deeper has their blanks in front of its lines.** -/
theorem text_writeAll_add {steps : List Layout} (level levels : Nat)
    (whole : ∀ text ∈ textsAll steps, '\n' ∉ text.toList) :
    (writeAll (level + levels) steps).text =
      indentLines (indentWidth levels) (writeAll level steps).text := by
  have lines : Text.parts '\n' (writeAll (level + levels) steps).text =
      (Text.parts '\n' (writeAll level steps).text).map (indentLine (indentWidth levels)) := by
    rw [parts_writeAll (not_mem_rowsAll _ steps whole),
      parts_writeAll (not_mem_rowsAll _ steps whole), rowsAll_add, List.map_append, List.map_map,
      List.map_map]
    congr 1
    exact List.map_congr_left fun row _ => row.line_deeper levels
  rw [indentLines, ← lines]
  exact (Text.intercalate_parts '\n' _).symm

/-! ## Groups -/

/-- What a writer has written so far. -/
def Writer.written (w : Writer) : Written := ⟨w.text, w.widths⟩

theorem written_runAll_new (level : Nat) (steps : List Layout) :
    (runAll (.new level) steps).written = writeAll level steps := by
  rw [runAll_eq, Writer.written, Writer.add, Writer.new, String.empty_append, List.nil_append]

/-- **Steps in groups write what they write outside of all groups, with four blanks for each group
in front of the lines.** -/
theorem runAll_nested {steps : List Layout} (whole : ∀ text ∈ textsAll steps, '\n' ∉ text.toList)
    (levels : Nat) (w : Writer) :
    (∀ level, writeAll level steps = (runAll (.new level) steps).written) ∧
      (runAll w (nested levels steps)).text =
        w.text ++ indentLines (4 * (w.level + levels)) (runAll (.new 0) steps).text ∧
      (runAll w (nested levels steps)).widths =
        w.widths ++ (runAll (.new 0) steps).widths.map (· + 4 * (w.level + levels)) ∧
      (runAll w (nested levels steps)).level = w.level ∧
      ∀ more, (runAll (runAll w steps) more).text =
        w.text ++ (runAll (.new w.level) steps).text ++ (runAll (.new w.level) more).text := by
  have run : ∀ level, writeAll level steps = (runAll (.new level) steps).written :=
    fun level => (written_runAll_new level steps).symm
  have inside : runAll w (nested levels steps) = w.add (writeAll (w.level + levels) steps) := by
    rw [runAll_eq, writeAll_nested]
  have text := text_writeAll_add 0 (w.level + levels) whole
  have widths := widthsAll_add 0 (w.level + levels) steps
  rw [Nat.zero_add, run 0] at text widths
  refine ⟨run, ?text, ?widths, ?kept, fun more => ?sequence⟩
  case text =>
    rw [inside]
    exact congrArg (w.text ++ ·) text
  case widths =>
    rw [inside]
    exact congrArg (w.widths ++ ·) widths
  case kept => rw [inside, Writer.level_add]
  case sequence =>
    rw [runAll_eq, runAll_eq, Writer.level_add, run, ← written_runAll_new w.level more]
    rfl

/-- A comment and a type, with an empty line in it and a part that stands deeper. -/
def outline : List Layout :=
  [.line "// a type", .block "class C" [.line "", .indented [.line "int x;", .width]], .width]

theorem runAll_nested_outline :
    (∀ text ∈ textsAll outline, '\n' ∉ text.toList) ∧
      (runAll ⟨"\x7b\n", 1, [0]⟩ (nested 2 outline)).text =
        "\x7b\n            // a type\n            class C \x7b\n\n" ++
          "                    int x;\n            \x7d\n" ∧
      (runAll ⟨"\x7b\n", 1, [0]⟩ (nested 2 outline)).widths = [0, 20, 12] ∧
      (runAll ⟨"\x7b\n", 1, [0]⟩ (nested 2 outline)).level = 1 := by
  have whole : ∀ text ∈ textsAll outline, '\n' ∉ text.toList := by decide
  obtain ⟨-, text, widths, kept, -⟩ := runAll_nested whole 2 ⟨"\x7b\n", 1, [0]⟩
  exact ⟨whole, text.trans (by decide +kernel), widths.trans (by decide +kernel), kept⟩

end TypedHub.CSharp
