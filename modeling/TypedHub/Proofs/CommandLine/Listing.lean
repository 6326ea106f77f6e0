import TypedHub.CommandLine.Command
import TypedHub.CommandLine.Disk
import TypedHub.Proofs.Generation.SourceNames
import TypedHub.Proofs.Stub.LineEnds
import TypedHub.Proofs.Stub.Shape

/-!
# A listing can be cut into its artifacts

The listing of a pass is one text, with a heading before each source. A reader that knows nothing of
the pass can cut it at its headings again (`sections`), because no line of a source looks like one.

* Sources consist of whole lines, and no end of a line gets into a row (`Proofs.Stub.LineEnds`).
* A row that is indented begins with a blank, and a row that is not is one of a few
  (`CompilationUnit.HasRow`), none of which is a heading (`isWhole_text`).
* File names have no line feeds, so a heading is a line of its own (`Generator.isSourceName_of_ok`).
-/

namespace TypedHub

/-! ## Lines -/

namespace Text

/-- The lines of a text, each with its line feed, which only the last one may lack. -/
def lines : List Char → List (List Char)
  | [] => []
  | c :: rest =>
    if c = '\n' then [c] :: lines rest
    else
      match lines rest with
      | [] => [[c]]
      | line :: more => (c :: line) :: more

theorem lines_append_lineFeed {line : List Char} (h : '\n' ∉ line) (rest : List Char) :
    lines (line ++ '\n' :: rest) = (line ++ ['\n']) :: lines rest := by
  induction line with
  | nil => rfl
  | cons c more ih =>
    rw [List.mem_cons, not_or] at h
    rw [List.cons_append, lines, if_neg (Ne.symm h.1), ih h.2]
    rfl

/-- Rows without line feeds, each with one behind it, are the lines of their text. -/
theorem lines_flatMap_append {rows : List (List Char)} (h : ∀ row ∈ rows, '\n' ∉ row)
    (rest : List Char) :
    lines (rows.flatMap (· ++ ['\n']) ++ rest) = rows.map (· ++ ['\n']) ++ lines rest := by
  induction rows with
  | nil => rfl
  | cons row others ih =>
    rw [List.forall_mem_cons] at h
    rw [List.flatMap_cons, List.append_assoc, List.append_assoc, List.singleton_append,
      lines_append_lineFeed h.1, ih h.2, List.map_cons, List.cons_append]

end Text

namespace CommandLine

open CSharp (CompilationUnit TypeDecl Row)
open Metadata (Compilation)

/-! ## Cutting a listing -/

/-- What a heading begins with. -/
def headingFront : List Char := "// ==== ".toList

/-- What a heading ends with, before its line feed. -/
def headingBack : List Char := " ====".toList

/-- The line before the source of an artifact. -/
def headingLine (name : List Char) : List Char := headingFront ++ name ++ headingBack ++ ['\n']

/-- The name in a line of the form that listings have before each source. -/
def heading? (line : List Char) : Option (List Char) :=
  (Text.behind? headingFront line).bind (Text.before? (headingBack ++ ['\n']))

/-- Lines cut at the headings: what stands before the first one, and then each name with what stands
behind it. -/
def cut : List (List Char) → List Char × List (List Char × List Char)
  | [] => ([], [])
  | line :: rest =>
    match heading? line with
    | some name => ([], (name, (cut rest).1) :: (cut rest).2)
    | none => (line ++ (cut rest).1, (cut rest).2)

/-- A text cut at its headings. -/
def sections (text : String) : String × List (String × String) :=
  let (front, named) := cut (Text.lines text.toList)
  (String.ofList front, named.map fun (name, source) => (String.ofList name, String.ofList source))

theorem heading?_eq_some_iff {line name : List Char} :
    heading? line = some name ↔ line = headingLine name := by
  simp only [heading?, Option.bind_eq_some_iff, Text.behind?_eq_some_iff, Text.before?_eq_some_iff,
    headingLine, List.append_assoc]
  constructor
  · rintro ⟨rest, rfl, rfl⟩
    rfl
  · rintro rfl
    exact ⟨_, rfl, rfl⟩

/-- A text of whole lines, none of which is a heading. -/
def IsWhole (text : List Char) : Prop :=
  ∃ rows : List (List Char), text = rows.flatMap (· ++ ['\n']) ∧
    ∀ row ∈ rows, '\n' ∉ row ∧ heading? (row ++ ['\n']) = none

theorem cut_append {front : List (List Char)} (h : ∀ line ∈ front, heading? line = none)
    (rest : List (List Char)) :
    cut (front ++ rest) = (front.flatten ++ (cut rest).1, (cut rest).2) := by
  induction front with
  | nil => rfl
  | cons line more ih =>
    rw [List.forall_mem_cons] at h
    rw [List.cons_append, cut, h.1, ih h.2, List.flatten_cons, List.append_assoc]

/-- Whole lines without headings belong to what stands before the next heading. -/
theorem IsWhole.cut_lines {text : List Char} (whole : IsWhole text) (rest : List Char) :
    cut (Text.lines (text ++ rest)) =
      (text ++ (cut (Text.lines rest)).1, (cut (Text.lines rest)).2) := by
  obtain ⟨rows, rfl, apart⟩ := whole
  rw [Text.lines_flatMap_append (fun row mem => (apart row mem).1),
    cut_append (List.forall_mem_map.2 fun row mem => (apart row mem).2), List.flatMap_def]

/-- A heading begins the section of its name. -/
theorem cut_lines_headingLine {name : List Char} (h : '\n' ∉ name) (rest : List Char) :
    cut (Text.lines (headingLine name ++ rest)) =
      ([], (name, (cut (Text.lines rest)).1) :: (cut (Text.lines rest)).2) := by
  have apart : '\n' ∉ headingFront ++ name ++ headingBack := by
    have words : '\n' ∉ headingFront ∧ '\n' ∉ headingBack := by decide
    simp only [List.mem_append, not_or]
    exact ⟨⟨words.1, h⟩, words.2⟩
  have line : Text.lines (headingLine name ++ rest) = headingLine name :: Text.lines rest := by
    rw [headingLine, List.append_assoc, List.singleton_append, Text.lines_append_lineFeed apart]
  rw [line, cut, heading?_eq_some_iff.2 rfl]

theorem toList_headed (name source : String) :
    ("// ==== " ++ name ++ " ====\n" ++ source).toList =
      headingLine name.toList ++ source.toList := by
  have front : "// ==== ".toList = headingFront := rfl
  have back : " ====\n".toList = headingBack ++ ['\n'] := by decide
  rw [String.toList_append, String.toList_append, String.toList_append, front, back,
    ← List.append_assoc _ headingBack, headingLine]

theorem toList_listing (output : Output) :
    (listing output).toList = output.artifacts.flatMap fun artifact =>
      headingLine artifact.fileName.toList ++ artifact.source.toList := by
  rw [listing, String.toList_join, List.flatMap_map]
  exact congrArg (List.flatMap · _) (funext fun _ => toList_headed _ _)

/-- **Whole sources are the sections of their listing.** The induction is on the artifacts; what is
cut off behind a source is the listing of those that come later, and nothing stands before its first
heading. -/
theorem sections_listing_of_isWhole {output : Output}
    (h : ∀ artifact ∈ output.artifacts,
      '\n' ∉ artifact.fileName.toList ∧ IsWhole artifact.source.toList) :
    sections (listing output) =
      ("", output.artifacts.map fun artifact => (artifact.fileName, artifact.source)) := by
  have pieces : cut (Text.lines (listing output).toList) =
      ([], output.artifacts.map fun artifact =>
        (artifact.fileName.toList, artifact.source.toList)) := by
    rw [toList_listing]
    generalize output.artifacts = artifacts at h
    induction artifacts with
    | nil => rfl
    | cons first rest ih =>
      rw [List.forall_mem_cons] at h
      rw [List.flatMap_cons, List.append_assoc, cut_lines_headingLine h.1.1, h.1.2.cut_lines,
        ih h.2, List.append_nil, List.map_cons]
  rw [sections, pieces]
  simp [Function.comp_def]

/-! ## The lines of a source -/

/-- A text whose first character is not that of a heading. -/
inductive BeginsApart : List Char → Prop where
  | cons {c : Char} {rest : List Char} (other : c ≠ '/') : BeginsApart (c :: rest)

theorem BeginsApart.append {text : List Char} (apart : BeginsApart text) (back : List Char) :
    BeginsApart (text ++ back) := by
  cases apart with
  | cons other => exact .cons other

theorem BeginsApart.heading?_eq_none {line : List Char} (apart : BeginsApart line) :
    heading? line = none := by
  cases apart with
  | @cons c rest other =>
    have front : Text.behind? headingFront (c :: rest) = none := if_neg (Ne.symm other)
    rw [heading?, front, Option.bind_none]

/-- An indented row begins with a blank, so only the other ones need to be looked at. -/
theorem heading?_of_row {row : Row}
    (h : row.level = 0 → row.text = "" ∨ BeginsApart row.text.toList) :
    heading? (row.chars ++ ['\n']) = none := by
  obtain ⟨level, text⟩ := row
  apply BeginsApart.heading?_eq_none
  cases level with
  | zero =>
    rw [CSharp.Row.chars_outer]
    obtain empty | apart := h rfl
    · change text = "" at empty
      rw [empty]
      exact .cons (by decide)
    · exact apart.append _
  | succ level =>
    rw [Row.chars]
    split
    · exact .cons (by decide)
    · exact .cons (by decide)

/-- The header of a type begins with the first modifier. -/
theorem beginsApart_header {t : TypeDecl} {first : String} {rest : List String}
    (modifiers : t.modifiers = first :: rest) (apart : BeginsApart first.toList) :
    BeginsApart t.header.toList := by
  have filled : first ≠ "" := by
    rintro rfl
    cases apart
  obtain ⟨others, words⟩ := CSharp.exists_words_eq filled (rest ++ [t.keyword.text, t.name])
  rw [TypeDecl.header, modifiers, List.cons_append, words]
  simp only [String.toList_append, List.append_assoc]
  exact apart.append _

theorem heading?_of_hasRow {t : TypeDecl} {row : Row} (h : t.HasRow row)
    (header : BeginsApart t.header.toList) : heading? (row.chars ++ ['\n']) = none := by
  cases h with
  | @doc doc mem =>
    have front : Text.behind? headingFront (("/// " ++ doc).toList ++ ['\n']) = none := by
      rw [String.toList_append]
      rfl
    rw [CSharp.Row.chars_outer, heading?, front, Option.bind_none]
  | attributes mem =>
    refine heading?_of_row fun _ => .inr ?_
    rw [String.toList_append, String.toList_append]
    exact (BeginsApart.cons (by decide)).append _
  | header =>
    refine heading?_of_row fun _ => .inr ?_
    rw [String.toList_append]
    exact header.append _
  | blank level => exact heading?_of_row fun _ => .inl rfl
  | @member member _ mem inside =>
    have level := CSharp.level_le_of_mem_rowsAll 1 _ row inside
    exact heading?_of_row fun outer => by omega
  | closing => exact heading?_of_row fun _ => .inr (.cons (by decide))

/-- No line of a unit is a heading unless a comment is one. -/
theorem isWhole_text {unit : CompilationUnit}
    (unbroken : ∀ row ∈ unit.rows, '\n' ∉ row.text.toList)
    (comments : ∀ comment ∈ unit.header, heading? (("// " ++ comment).toList ++ ['\n']) = none)
    (headers : ∀ t ∈ unit.types, BeginsApart t.header.toList) : IsWhole unit.text.toList := by
  refine ⟨unit.rows.map Row.chars, ?_, List.forall_mem_map.2 fun row mem => ⟨?_, ?_⟩⟩
  · rw [CompilationUnit.toList_text, CSharp.rowChars, List.flatMap_map]
  · have blanks : '\n' ∉ List.replicate (CSharp.indentWidth row.level) ' ' := fun mem =>
      absurd (List.eq_of_mem_replicate mem) (by decide)
    rw [Row.chars]
    split
    · exact List.not_mem_nil
    · exact List.not_mem_append blanks (unbroken row mem)
  · cases CompilationUnit.hasRow_of_mem_rows mem with
    | comment listed =>
      rw [CSharp.Row.chars_outer]
      exact comments _ listed
    | nullable => exact heading?_of_row fun _ => .inr (.cons (by decide))
    | blank => exact heading?_of_row fun _ => .inl rfl
    | @fileNamespace name given =>
      refine heading?_of_row fun _ => .inr ?_
      rw [String.toList_append, String.toList_append, List.append_assoc]
      exact (BeginsApart.cons (by decide)).append _
    | type listed inside => exact heading?_of_hasRow inside (headers _ listed)

/-- The comment at the top of every source is no heading. -/
theorem heading?_autoGenerated :
    ∀ comment ∈ [autoGenerated], heading? (("// " ++ comment).toList ++ ['\n']) = none :=
  List.forall_mem_singleton.2 (by decide)

/-- A stub whose names are accepted has a source of whole lines. -/
theorem isWhole_compilationUnit {settings : Settings} {stub : Stub} (plain : stub.IsPlain)
    (defaults : ∀ text ∈ stub.defaultTexts,
      CSharp.Plain text ∨ ∃ value, text = CSharp.stringLiteral value)
    (transport : ∀ name ∈ settings.transport.names, '\n' ∉ name.toList) :
    IsWhole (stub.compilationUnit settings).text.toList := by
  refine isWhole_text (stub.not_mem_rows plain defaults (by decide) transport)
    heading?_autoGenerated (List.forall_mem_cons.2 ⟨?_, List.forall_mem_singleton.2 ?_⟩)
  · cases visible : stub.visibility
    all_goals
      refine beginsApart_header (by rw [Stub.classDecl, visible]; rfl) ?_
      exact .cons (by decide)
  · exact beginsApart_header rfl (.cons (by decide))

theorem isWhole_markerSource {settings : Settings} {marker source : String}
    (written : markerSource settings marker = .ok source) : IsWhole source.toList := by
  obtain ⟨-, -, rfl⟩ := markerSource_eq_ok_iff.1 written
  refine isWhole_text (not_mem_markerUnit_rows written (by decide)) heading?_autoGenerated ?_
  exact List.forall_mem_singleton.2
    (beginsApart_header rfl (.cons (by decide)))

/-! ## The listing of a pass -/

/-- Whatever was kept, the artifacts of a pass have whole sources, and no name of theirs breaks its
line. -/
theorem isWhole_of_ok {generator : Generator} {stubs : List Stub} {compilation : Compilation}
    {output : Output} (h : generator.Remembers stubs)
    (transport : ∀ name ∈ generator.config.settings.transport.names, '\n' ∉ name.toList)
    (ok : (generator.run compilation).1 = .ok output) :
    ∀ artifact ∈ output.artifacts,
      '\n' ∉ artifact.fileName.toList ∧ IsWhole artifact.source.toList := by
  have named (artifact : Artifact) (mem : artifact ∈ output.artifacts) :
      '\n' ∉ artifact.fileName.toList := fun among => by
    have harmless := (Generator.isSourceName_of_ok h ok artifact mem).isHarmful_eq_false
    exact absurd (harmless '\n' among) (by decide)
  obtain ⟨marker, -, source, artifacts⟩ := Generator.artifacts_eq_cons_of_ok h ok
  refine fun artifact mem => ⟨named artifact mem, ?_⟩
  rw [artifacts] at mem
  obtain rfl | mem := List.mem_cons.1 mem
  · exact isWhole_markerSource source
  · obtain ⟨stub, accepted, -, written⟩ := Generator.exists_stub_of_mem_tail h ok mem
    obtain ⟨declaration, -, rfl⟩ := GeneratorConfig.exists_declaration_of_mem_accepted accepted
    obtain ⟨checked, text⟩ := Stub.emit_eq_ok_iff.1 written
    rw [text]
    exact isWhole_compilationUnit (Stub.isPlain_of_checkNames checked)
      (Stub.defaultTexts_ofDeclaration compilation declaration) transport

/-- A pass on any history can be read back from its listing. -/
theorem sections_listing_of_ok {generator : Generator} {stubs : List Stub}
    {compilation : Compilation} {output : Output} (h : generator.Remembers stubs)
    (transport : ∀ name ∈ generator.config.settings.transport.names, '\n' ∉ name.toList)
    (ok : (generator.run compilation).1 = .ok output) :
    sections (listing output) =
      ("", output.artifacts.map fun artifact => (artifact.fileName, artifact.source)) :=
  sections_listing_of_isWhole (isWhole_of_ok h transport ok)

end CommandLine

end TypedHub
