import Mathlib.Data.List.Chain
import TypedHub.Proofs.CSharp.Rows

/-!
# How the rows of a unit are spaced

Blank rows stand between members, types and the parts of the head of a unit, and never two of them
one behind the other (`CompilationUnit.spaced_rows`). A unit whose last type has been printed ends
with its closing brace (`CompilationUnit.getLast?_rows`). All other rows stand at most two levels
deep and begin and end with one of a few texts (`CompilationUnit.shaped_of_mem_rows`).
-/

namespace TypedHub.CSharp

/-! ## Blank rows -/

/-- No two blank rows stand one behind the other. -/
def Spaced (rows : List Row) : Prop :=
  rows.IsChain fun row next => row.text ≠ "" ∨ next.text ≠ ""

/-- Spaced rows of which the first one is not blank, so that they may stand behind any others. -/
structure IsGroup (rows : List Row) : Prop where
  spaced : Spaced rows
  begins : ∀ row ∈ rows.head?, row.text ≠ ""

/-- No row is blank. -/
def Filled (rows : List Row) : Prop := ∀ row ∈ rows, row.text ≠ ""

section

variable {front back rows : List Row}

theorem Filled.append (h : Filled front) (h' : Filled back) : Filled (front ++ back) :=
  List.forall_mem_append.2 ⟨h, h'⟩

theorem Filled.spaced (h : Filled rows) : Spaced rows := by
  induction rows with
  | nil => exact .nil
  | cons row rest ih =>
    rw [Filled, List.forall_mem_cons] at h
    exact List.isChain_cons.2 ⟨fun _ _ => .inl h.1, ih h.2⟩

theorem Filled.isGroup (h : Filled rows) : IsGroup rows :=
  ⟨h.spaced, fun row mem => h row (List.mem_of_mem_head? mem)⟩

theorem isGroup_nil : IsGroup [] := ⟨.nil, nofun⟩

theorem IsGroup.append (h : IsGroup front) (h' : IsGroup back) : IsGroup (front ++ back) where
  spaced := List.isChain_append.2
    ⟨h.spaced, h'.spaced, fun _ _ next mem => .inr (h'.begins next mem)⟩
  begins := by
    cases front with
    | nil => exact h'.begins
    | cons row rest => exact h.begins

/-- Rows that are not blank may stand before any others. -/
theorem Filled.spaced_append (h : Filled front) (h' : Spaced back) : Spaced (front ++ back) :=
  List.isChain_append.2
    ⟨h.spaced, h', fun row mem _ _ => .inl (h row (List.mem_of_mem_getLast? mem))⟩

theorem Filled.isGroup_append (h : Filled front) (filled : front ≠ []) (h' : Spaced back) :
    IsGroup (front ++ back) where
  spaced := h.spaced_append h'
  begins := by
    obtain ⟨row, rest, rfl⟩ := List.exists_cons_of_ne_nil filled
    exact h.isGroup.begins

/-- A blank row may stand behind one that is not blank. -/
theorem IsGroup.concat_blank (h : IsGroup rows) {last : Row} (ends : rows.getLast? = some last)
    (filled : last.text ≠ "") (level : Nat) : IsGroup (rows ++ [⟨level, ""⟩]) where
  spaced := by
    refine List.isChain_append.2 ⟨h.spaced, .singleton _, fun row mem _ _ => .inl ?_⟩
    cases ends.symm.trans mem
    exact filled
  begins := by
    cases rows with
    | nil => cases ends
    | cons row rest => exact h.begins

theorem IsGroup.spaced_cons (h : IsGroup rows) (row : Row) : Spaced (row :: rows) :=
  List.isChain_cons.2 ⟨fun next mem => .inr (h.begins next mem), h.spaced⟩

theorem IsGroup.spaced_gap (h : IsGroup rows) (joined : Bool) :
    Spaced (rowsAll 0 (if joined then [] else [.blank]) ++ rows) := by
  cases joined with
  | true => exact h.spaced
  | false => exact h.spaced_cons _

theorem isGroup_flatMap {α : Type} {list : List α} {rows : α → List Row}
    (h : ∀ a ∈ list, IsGroup (rows a)) : IsGroup (list.flatMap rows) := by
  induction list with
  | nil => exact isGroup_nil
  | cons a rest ih =>
    rw [List.forall_mem_cons] at h
    rw [List.flatMap_cons]
    exact h.1.append (ih h.2)

end

/-! ## Rows that are not blank -/

/-- The row stands at most two levels deep, and it begins and ends with one of the texts. -/
structure Row.Shaped (fronts backs : List String) (row : Row) : Prop where
  level : row.level ≤ 2
  begins : ∃ front ∈ fronts, ∃ rest, row.text = front ++ rest
  ends : ∃ back ∈ backs, ∃ rest, row.text = rest ++ back

section

variable {fronts fronts' backs backs' : List String} {level : Nat} {text : String}

theorem Row.Shaped.mono {row : Row} (h : row.Shaped fronts backs)
    (more : ∀ front ∈ fronts, front ∈ fronts') (more' : ∀ back ∈ backs, back ∈ backs') :
    row.Shaped fronts' backs' where
  level := h.level
  begins := let ⟨front, mem, rest⟩ := h.begins; ⟨front, more front mem, rest⟩
  ends := let ⟨back, mem, rest⟩ := h.ends; ⟨back, more' back mem, rest⟩

theorem shaped_row (back : String) (small : level ≤ 2) {front : String} (mem : front ∈ fronts)
    (mem' : back ∈ backs) (begins : ∃ rest, text = front ++ rest)
    (ends : ∃ rest, text = rest ++ back) : (Row.mk level text).Shaped fronts backs :=
  ⟨small, ⟨front, mem, begins⟩, back, mem', ends⟩

end

/-- What the rows of members end with. -/
def closers : List String := [";", ");", "\x7d", " \x7d", " \x7b", "]", " =>"]

theorem shaped_attributes {fronts : List String} (mem : "[" ∈ fronts) {level : Nat}
    (small : level ≤ 2) (lists : List AttributeList) :
    ∀ row ∈ rowsAll level (attributeLines lists), row.Shaped fronts closers := by
  rw [rowsAll_attributeLines]
  exact List.forall_mem_map.2 fun list _ => shaped_row "]" small mem (by decide)
    ⟨_, String.append_assoc ..⟩ ⟨_, rfl⟩

/-! ## Members -/

/-- What the declaration of a property begins with. -/
def Property.front (p : Property) : String := words (p.modifiers ++ [p.type, p.name])

def Method.front (m : Method) : String := words (m.modifiers ++ [m.returnType, m.name])

def Constructor.front (c : Constructor) : String := words (c.modifiers ++ [c.name])

def Event.front (e : Event) : String := words (e.modifiers ++ ["event", e.type, e.name])

def Delegate.front (d : Delegate) : String :=
  words (d.modifiers ++ ["delegate", d.returnType, d.name])

/-- What the rows of a member begin with, apart from brackets. -/
def Member.fronts : Member → List String
  | property p => [p.front]
  | method m => m.front :: (m.body.map Expr.text).toList
  | constructor c => c.front :: c.body.map Statement.text
  | event e => [e.front]
  | delegate d => [d.front]

theorem Property.shaped_line (p : Property) :
    (Row.mk 1 p.line).Shaped (Member.property p).fronts closers := by
  have begins : ∃ rest, p.line = p.front ++ rest := by
    unfold Property.line
    split
    all_goals
      simp only [String.append_assoc]
      exact ⟨_, rfl⟩
  have small : 1 ≤ 2 := by decide
  cases value : p.initializer with
  | none =>
    refine shaped_row " \x7d" small List.mem_cons_self (by decide) begins ?_
    rw [Property.line, value]
    exact ⟨_, rfl⟩
  | some value' =>
    refine shaped_row ";" small List.mem_cons_self (by decide) begins ?_
    rw [Property.line, value]
    exact ⟨_, rfl⟩

theorem Method.shaped_lines (m : Method) :
    ∀ row ∈ rowsAll 1 (m.lines 1), row.Shaped (Member.method m).fronts closers := by
  have signature : ∀ rest, ∃ others, m.signature ++ rest = m.front ++ others := by
    intro rest
    simp only [Method.signature, String.append_assoc]
    exact ⟨_, rfl⟩
  have small : 1 ≤ 2 := by decide
  unfold Method.lines
  cases body : m.body.map Expr.text with
  | none =>
    exact List.forall_mem_singleton.2
      (shaped_row ";" small List.mem_cons_self (by decide) (signature _) ⟨_, rfl⟩)
  | some text =>
    have listed : text ∈ (Member.method m).fronts := by simp [Member.fronts, body]
    dsimp only
    split
    · refine List.forall_mem_singleton.2
        (shaped_row ";" small List.mem_cons_self (by decide) ?_ ⟨_, rfl⟩)
      simpa only [String.append_assoc] using signature (" => " ++ (text ++ ";"))
    · exact List.forall_mem_cons.2
        ⟨shaped_row " =>" small List.mem_cons_self (by decide) (signature _) ⟨_, rfl⟩,
          List.forall_mem_singleton.2
            (shaped_row ";" (Nat.le_refl 2) listed (by decide) ⟨_, rfl⟩ ⟨_, rfl⟩)⟩

theorem Constructor.shaped_block (c : Constructor) :
    ∀ row ∈ (Layout.block c.header
      (c.body.map fun statement => .line (statement.text ++ ";"))).rows 1,
      row.Shaped ("\x7d" :: (Member.constructor c).fronts) closers := by
  have small : 1 ≤ 2 := by decide
  rw [Layout.rows, rowsAll_lines, List.forall_mem_append, List.forall_mem_cons,
    List.forall_mem_singleton]
  refine ⟨⟨?opening, List.forall_mem_map.2 fun statement mem => ?statement⟩, ?closing⟩
  case opening =>
    refine shaped_row " \x7b" small (List.mem_cons_of_mem _ List.mem_cons_self) (by decide) ?_
      ⟨_, rfl⟩
    simp only [Constructor.header, String.append_assoc]
    exact ⟨_, rfl⟩
  case statement =>
    have listed : statement.text ∈ "\x7d" :: (Member.constructor c).fronts :=
      List.mem_cons_of_mem _ (List.mem_cons_of_mem _ (List.mem_map_of_mem mem))
    exact shaped_row ";" (Nat.le_refl 2) listed (by decide) ⟨_, rfl⟩ ⟨_, rfl⟩
  case closing =>
    exact shaped_row "\x7d" small List.mem_cons_self (by decide) ⟨"", rfl⟩ ⟨"", rfl⟩

theorem Member.shaped_lines (member : Member) :
    ∀ row ∈ rowsAll 1 (member.lines 1), row.Shaped ("[" :: "\x7d" :: member.fronts) closers := by
  have small : 1 ≤ 2 := by decide
  have attributes (lists : List AttributeList) :
      ∀ row ∈ rowsAll 1 (attributeLines lists),
        row.Shaped ("[" :: "\x7d" :: member.fronts) closers :=
    shaped_attributes List.mem_cons_self small lists
  have named : ∀ front ∈ member.fronts, front ∈ "[" :: "\x7d" :: member.fronts :=
    fun front mem => List.mem_cons_of_mem _ (List.mem_cons_of_mem _ mem)
  cases member with
  | property p =>
    rw [Member.lines, rowsAll_append, List.forall_mem_append]
    exact ⟨attributes _, List.forall_mem_singleton.2 (p.shaped_line.mono named fun _ => id)⟩
  | method m =>
    rw [Member.lines, rowsAll_append, List.forall_mem_append]
    exact ⟨attributes _, fun row mem => (m.shaped_lines row mem).mono named fun _ => id⟩
  | constructor c =>
    rw [Member.lines, rowsAll_append, List.forall_mem_append, rowsAll, rowsAll, List.append_nil]
    exact ⟨attributes _, fun row mem =>
      (c.shaped_block row mem).mono (fun _ => List.mem_cons_of_mem _) fun _ => id⟩
  | event e =>
    rw [Member.lines, rowsAll_append, List.forall_mem_append]
    exact ⟨attributes _, List.forall_mem_singleton.2
      (shaped_row ";" small (named _ List.mem_cons_self) (by decide) ⟨_, rfl⟩ ⟨_, rfl⟩)⟩
  | delegate d =>
    refine List.forall_mem_singleton.2
      (shaped_row ");" small (named _ List.mem_cons_self) (by decide) ?_ ⟨_, rfl⟩)
    simp only [Delegate.line, String.append_assoc]
    exact ⟨_, rfl⟩

/-- No row of a member is blank. -/
theorem Member.filled_lines (member : Member) : Filled (rowsAll 1 (member.lines 1)) := by
  intro row mem
  obtain ⟨back, listed, rest, text⟩ := (member.shaped_lines row mem).ends
  have filled : ∀ back ∈ closers, back ≠ "" := by decide
  rw [text]
  exact fun empty => filled back listed (String.append_eq_empty_iff.1 empty).2

theorem Member.lines_ne_nil (member : Member) : rowsAll 1 (member.lines 1) ≠ [] := by
  cases member with
  | property _ | event _ | constructor _ => simp [Member.lines, rowsAll_append]
  | delegate _ => simp [Member.lines]
  | method m =>
    rw [Member.lines, rowsAll_append]
    refine List.append_ne_nil_of_right_ne_nil _ ?_
    unfold Method.lines
    cases m.body.map Expr.text with
    | none => simp
    | some body =>
      dsimp only
      split <;> simp

/-- The rows of a member with the blank one behind it. -/
theorem Member.isGroup (member : Member) :
    IsGroup (rowsAll 1 (member.lines 1 ++ member.gap)) := by
  rw [rowsAll_append]
  cases member with
  | delegate d => exact (Member.filled_lines _).isGroup_append (Member.lines_ne_nil _) .nil
  | property _ | method _ | constructor _ | event _ =>
    exact (Member.filled_lines _).isGroup_append (Member.lines_ne_nil _) (.singleton _)

/-! ## Types and units -/

/-- What the rows of a type begin with. -/
def TypeDecl.fronts (t : TypeDecl) : List String :=
  "/// " :: "[" :: "\x7d" :: words (t.modifiers ++ [t.keyword.text, t.name]) ::
    t.members.flatMap Member.fronts

/-- What the rows of a type end with. -/
def TypeDecl.backs (t : TypeDecl) : List String := closers ++ t.docs

/-- What the rows of a unit begin with. -/
def CompilationUnit.fronts (unit : CompilationUnit) : List String :=
  "// " :: "#nullable enable" :: "namespace " :: unit.types.flatMap TypeDecl.fronts

/-- What the rows of a unit end with. -/
def CompilationUnit.backs (unit : CompilationUnit) : List String :=
  "#nullable enable" :: ";" :: unit.header ++ unit.types.flatMap TypeDecl.backs

namespace TypeDecl

variable (t : TypeDecl)

/-- The rows of a type before its members. -/
def headRows : List Row :=
  rowsAll 0 (t.docs.map (fun doc => .line ("/// " ++ doc)) ++ attributeLines t.attributes ++
    [.line (t.header ++ " \x7b")])

/-- The rows of the members, each with the blank row behind it. -/
def memberRows : List Row :=
  t.members.flatMap fun member => rowsAll 1 (member.lines 1 ++ member.gap)

theorem rows_eq : rowsAll 0 (t.lines 0) =
    t.headRows ++ (if t.members.isEmpty then [] else ⟨0, ""⟩ :: t.memberRows) ++ [⟨0, "\x7d"⟩] := by
  rw [lines, rowsAll_append, rowsAll_append, headRows, memberRows, body]
  congr 2
  split
  · rfl
  · simp only [rowsAll, Layout.rows, List.append_nil, List.singleton_append, rowsAll_flatMap]

theorem getLast?_rows : (rowsAll 0 (t.lines 0)).getLast? = some ⟨0, "\x7d"⟩ := by
  rw [rows_eq, List.getLast?_concat]

theorem filled_headRows : Filled t.headRows := by
  rw [headRows, rowsAll_append, rowsAll_append, rowsAll_lines, rowsAll_attributeLines]
  refine .append (.append ?docs ?attributes) ?opening
  case docs => exact List.forall_mem_map.2 fun doc _ => by simp
  case attributes => exact List.forall_mem_map.2 fun list _ => by simp
  case opening => exact List.forall_mem_singleton.2 (by simp)

theorem isGroup_rows : IsGroup (rowsAll 0 (t.lines 0)) := by
  have members : IsGroup t.memberRows := isGroup_flatMap fun member _ => member.isGroup
  have closing : Filled [⟨0, "\x7d"⟩] := by simp [Filled]
  rw [rows_eq]
  refine IsGroup.append ?_ closing.isGroup
  refine t.filled_headRows.isGroup_append ?_ ?_
  · simp [headRows, rowsAll_append]
  · split
    · exact .nil
    · exact members.spaced_cons _

end TypeDecl

theorem isGroup_typeLines (types : List TypeDecl) : IsGroup (rowsAll 0 (typeLines types)) := by
  induction types using typeLines.induct with
  | case1 => exact isGroup_nil
  | case2 t => exact t.isGroup_rows
  | case3 t rest more ih =>
    rw [typeLines, rowsAll_append, rowsAll_append]
    · exact (t.isGroup_rows.concat_blank t.getLast?_rows (by decide) 0).append ih
    · exact more

theorem getLast?_typeLines {types : List TypeDecl} (h : types ≠ []) :
    (rowsAll 0 (typeLines types)).getLast? = some ⟨0, "\x7d"⟩ := by
  induction types using typeLines.induct with
  | case1 => exact absurd rfl h
  | case2 t => exact t.getLast?_rows
  | case3 t rest more ih =>
    rw [typeLines, rowsAll_append, List.getLast?_append, ih more]
    · rfl
    · exact more

theorem TypeDecl.HasRow.shaped {t : TypeDecl} {row : Row} (h : t.HasRow row) :
    row.text = "" ∨ row.Shaped t.fronts t.backs := by
  have outer : 0 ≤ 2 := by decide
  have closing (back : String) (mem : back ∈ closers) : back ∈ t.backs :=
    List.mem_append_left _ mem
  have bracket : "[" ∈ t.fronts := by simp [TypeDecl.fronts]
  have brace : "\x7d" ∈ t.fronts := by simp [TypeDecl.fronts]
  cases h with
  | doc mem =>
    exact .inr (shaped_row _ outer List.mem_cons_self (List.mem_append_right _ mem) ⟨_, rfl⟩
      ⟨_, rfl⟩)
  | attributes mem =>
    exact .inr (shaped_row _ outer bracket (closing "]" (by decide))
      ⟨_, String.append_assoc ..⟩ ⟨_, rfl⟩)
  | header =>
    have listed : words (t.modifiers ++ [t.keyword.text, t.name]) ∈ t.fronts := by
      simp [TypeDecl.fronts]
    refine .inr (shaped_row _ outer listed (closing " \x7b" (by decide)) ?_ ⟨_, rfl⟩)
    simp only [TypeDecl.header, String.append_assoc]
    exact ⟨_, rfl⟩
  | blank level => exact .inl rfl
  | @member member _ mem inside =>
    refine .inr ((member.shaped_lines _ inside).mono (fun front listed => ?_) closing)
    obtain rfl | rfl | named := List.mem_cons.1 listed |>.imp_right List.mem_cons.1
    · exact bracket
    · exact brace
    · iterate 4 refine List.mem_cons_of_mem _ ?_
      exact List.mem_flatMap.2 ⟨member, mem, named⟩
  | closing =>
    exact .inr (shaped_row _ outer brace (closing "\x7d" (by decide)) ⟨"", rfl⟩ ⟨"", rfl⟩)

namespace CompilationUnit

variable {unit : CompilationUnit}

variable (unit) in
/-- **No two blank rows of a unit stand one behind the other.** -/
theorem spaced_rows : Spaced unit.rows := by
  have comments : Filled (rowsAll 0 (unit.header.map fun comment => .line ("// " ++ comment))) := by
    rw [rowsAll_lines]
    exact List.forall_mem_map.2 fun comment _ => by simp
  have nullable : Filled (rowsAll 0
      (if unit.nullableEnable then [.line "#nullable enable"] else [])) := by
    split
    · exact List.forall_mem_singleton.2 (by simp)
    · exact List.forall_mem_nil _
  have types := isGroup_typeLines unit.types
  rw [rows, lines, rowsAll_append, rowsAll_append, rowsAll_append, rowsAll_append,
    List.append_assoc (_ ++ _), List.append_assoc (_ ++ _)]
  -- the head has no blank rows, so the gap behind it must only not meet one at the other side
  refine (comments.append nullable).spaced_append (IsGroup.spaced_gap ?_ _)
  split
  · next name _ =>
    have line : Filled [⟨0, "namespace " ++ name ++ ";"⟩] :=
      List.forall_mem_singleton.2 (by simp)
    exact line.isGroup_append (List.cons_ne_nil _ _) (types.spaced_cons ⟨0, ""⟩)
  · exact types

/-- **A unit ends with the closing brace of its last type.** -/
theorem getLast?_rows (types : unit.types ≠ []) :
    unit.rows.getLast? = some ⟨0, "\x7d"⟩ := by
  rw [rows, lines, rowsAll_append, List.getLast?_append, getLast?_typeLines types]
  rfl

/-- **What the rows of a unit look like.** -/
theorem shaped_of_mem_rows {row : Row} (mem : row ∈ unit.rows) :
    row.text = "" ∨ row.Shaped unit.fronts unit.backs := by
  have outer : 0 ≤ 2 := by decide
  cases hasRow_of_mem_rows mem with
  | @comment text inside =>
    have back : text ∈ unit.backs := by simp [backs, inside]
    exact .inr (shaped_row text outer List.mem_cons_self back ⟨_, rfl⟩ ⟨_, rfl⟩)
  | nullable =>
    have front : "#nullable enable" ∈ unit.fronts := by simp [fronts]
    have back : "#nullable enable" ∈ unit.backs := by simp [backs]
    exact .inr (shaped_row _ outer front back ⟨"", rfl⟩ ⟨"", rfl⟩)
  | blank => exact .inl rfl
  | fileNamespace given =>
    have front : "namespace " ∈ unit.fronts := by simp [fronts]
    have back : ";" ∈ unit.backs := by simp [backs]
    exact .inr (shaped_row ";" outer front back ⟨_, String.append_assoc ..⟩ ⟨_, rfl⟩)
  | @type t _ member inside =>
    refine inside.shaped.imp_right fun shaped => shaped.mono (fun front listed => ?_)
      fun back listed => List.mem_append_right _ (List.mem_flatMap.2 ⟨t, member, listed⟩)
    iterate 3 refine List.mem_cons_of_mem _ ?_
    exact List.mem_flatMap.2 ⟨t, member, listed⟩

end CompilationUnit

end TypedHub.CSharp
