import TypedHub.Proofs.Generation.FileNames
import TypedHub.Proofs.Unicode.NameChars

/-!
# What the file names of a pass are made of

The file name of an artifact is a sequence of identifiers with points between them, and the ending
of source files (`IsSourceName`). No pass writes anything into a file whose name is something else:
a stub whose names are wrong is refused before it gets into the cache, so what is taken from there
has been checked as well, whether or not a configuration asks for the check of clashes. Such a name
is that of a file right in the directory it is written into (`sourceName_of_ok`).
-/

namespace TypedHub.Unicode

/-- The code points of white space. -/
def whiteSpaceRanges : List (Nat × Nat) :=
  [(0x9, 0xD), (0x20, 0x20), (0x85, 0x85), (0xA0, 0xA0), (0x1680, 0x1680), (0x2000, 0x200A),
  (0x2028, 0x2029), (0x202F, 0x202F), (0x205F, 0x205F), (0x3000, 0x3000)]

def isWhiteSpace (c : Char) : Bool := inRanges c.toNat whiteSpaceRanges

end TypedHub.Unicode

namespace TypedHub

open CSharp (isIdentifier isNamePart isNameStart isPlainIdentifier)
open CommandLine (IsFileName Disk directoryParts joinPath)
open Metadata (Compilation)

/-! ## Characters of names -/

/-- A character that has no place in the name of a file: a path separator of any system, white space
or a control character. -/
def isHarmful (c : Char) : Bool :=
  c = '/' || c = '\\' || Unicode.isWhiteSpace c || CSharp.isControl c

/-- The code points of these characters. -/
def harmfulRanges : List (Nat × Nat) :=
  Unicode.whiteSpaceRanges ++ [(0x0, 0x1F), (0x2F, 0x2F), (0x5C, 0x5C), (0x7F, 0x9F)]

theorem inRanges_of_isHarmful {c : Char} (h : isHarmful c = true) :
    Unicode.inRanges c.toNat harmfulRanges = true := by
  have slashes : ∀ d ∈ ['/', '\\'], Unicode.inRanges d.toNat harmfulRanges = true :=
    CSharp.forall_mem_of_all (by decide)
  simp only [isHarmful, Bool.or_eq_true, decide_eq_true_eq] at h
  obtain ((slash | slash) | blank) | control := h
  · exact slashes c (by simp [slash])
  · exact slashes c (by simp [slash])
  · obtain ⟨range, mem, bounds⟩ := Unicode.inRanges_iff.1 blank
    exact Unicode.inRanges_iff.2 ⟨range, List.mem_append_left _ mem, bounds⟩
  · simp only [CSharp.isControl, Bool.or_eq_true, Bool.and_eq_true, decide_eq_true_eq] at control
    obtain low | high := control
    · exact Unicode.inRanges_iff.2 ⟨(0x0, 0x1F), by decide, Nat.zero_le _, by omega⟩
    · exact Unicode.inRanges_iff.2 ⟨(0x7F, 0x9F), by decide, high.1, by omega⟩

/-- Letters and numerals of all scripts are harmless, and so is the underscore. -/
theorem isHarmful_eq_false_of_isNamePart {c : Char} (h : isNamePart c = true) :
    isHarmful c = false := by
  have apart : ∀ range ∈ harmfulRanges, Unicode.outOfRanges range.1 range.2
      ((0x5F, 0x5F) :: (Unicode.letterRanges ++ Unicode.numeralRanges)) = true := by
    decide +kernel
  have named : Unicode.inRanges c.toNat
      ((0x5F, 0x5F) :: (Unicode.letterRanges ++ Unicode.numeralRanges)) = true := by
    simp only [isNamePart, Bool.or_eq_true, decide_eq_true_eq] at h
    obtain (rfl | letter) | numeral := h
    · decide
    · obtain ⟨range, mem, bounds⟩ := Unicode.inRanges_iff.1 letter
      exact Unicode.inRanges_iff.2 ⟨range, by simp [mem], bounds⟩
    · obtain ⟨range, mem, bounds⟩ := Unicode.inRanges_iff.1 numeral
      exact Unicode.inRanges_iff.2 ⟨range, by simp [mem], bounds⟩
  refine Bool.eq_false_iff.2 fun harmful => ?_
  obtain ⟨range, mem, low, high⟩ := Unicode.inRanges_iff.1 (inRanges_of_isHarmful harmful)
  rw [Unicode.inRanges_eq_false_of_outOfRanges (apart range mem) low high] at named
  cases named

/-! ## Names of source files -/

/-- Identifiers with points between them, and the ending of source files behind them. -/
def IsSourceName (name : String) : Prop :=
  ∃ segments : List String, segments ≠ [] ∧
    (∀ segment ∈ segments, isIdentifier segment.toList = true) ∧
    name = ".".intercalate segments ++ ".g.cs"

namespace IsSourceName

variable {name : String}

theorem of_isIdentifier (h : isIdentifier name.toList = true) : IsSourceName (name ++ ".g.cs") :=
  ⟨[name], List.cons_ne_nil _ _, List.forall_mem_singleton.2 h,
    by rw [String.intercalate_singleton]⟩

/-- The parts of such a name are the identifiers and the two parts of the ending. -/
theorem exists_parts (h : IsSourceName name) :
    ∃ segments : List String, (∀ segment ∈ segments, isIdentifier segment.toList = true) ∧
      Text.parts '.' name = segments ++ ["g", "cs"] := by
  obtain ⟨segments, nonempty, identifiers, rfl⟩ := h
  refine ⟨segments, identifiers, ?_⟩
  have joined : ".".intercalate segments ++ ".g.cs" =
      (String.singleton '.').intercalate (segments ++ ["g", "cs"]) := by
    rw [String.intercalate_append_of_ne_nil nonempty (List.cons_ne_nil _ _), String.append_assoc]
    rfl
  rw [joined]
  refine Text.parts_intercalate (List.append_ne_nil_of_left_ne_nil nonempty _) ?_
  refine List.forall_mem_append.2 ⟨fun segment mem => ?_, by decide⟩
  exact CSharp.point_not_mem_of_isIdentifier (identifiers segment mem)

theorem ne_empty_of_mem_parts (h : IsSourceName name) :
    ∀ part ∈ Text.parts '.' name, part ≠ "" := by
  obtain ⟨segments, identifiers, parts⟩ := h.exists_parts
  rw [parts]
  refine List.forall_mem_append.2 ⟨fun segment mem empty => ?_, by decide⟩
  have identifier := identifiers segment mem
  rw [empty] at identifier
  cases identifier

/-- Before the ending there are points, at signs, letters, numerals and underscores only. -/
theorem exists_stem (h : IsSourceName name) :
    ∃ stem, name = stem ++ ".g.cs" ∧
      ∀ c ∈ stem.toList, c = '.' ∨ c = '@' ∨ isNamePart c = true := by
  obtain ⟨segments, -, identifiers, rfl⟩ := h
  refine ⟨_, rfl, fun c mem => ?_⟩
  rw [String.toList_intercalate] at mem
  obtain point | ⟨part, among, mem⟩ := CSharp.mem_of_mem_intercalate mem
  · exact .inl (List.mem_singleton.1 point)
  · obtain ⟨segment, listed, rfl⟩ := List.mem_map.1 among
    exact .inr (CSharp.eq_at_or_isNamePart_of_isIdentifier (identifiers segment listed) c mem)

theorem isHarmful_eq_false (h : IsSourceName name) : ∀ c ∈ name.toList, isHarmful c = false := by
  obtain ⟨stem, rfl, chars⟩ := h.exists_stem
  have ending : ∀ c ∈ ".g.cs".toList, isHarmful c = false := CSharp.forall_mem_of_all (by decide)
  rw [String.toList_append]
  refine List.forall_mem_append.2 ⟨fun c mem => ?_, ending⟩
  obtain rfl | rfl | part := chars c mem
  · decide
  · decide
  · exact isHarmful_eq_false_of_isNamePart part

theorem isFileName (h : IsSourceName name) : IsFileName name := by
  obtain ⟨stem, rfl, chars⟩ := h.exists_stem
  refine isFileName_append fun c mem => ?_
  obtain rfl | rfl | part := chars c mem
  · exact CSharp.isTypeNamePart_of_mem (by decide)
  · exact CSharp.isTypeNamePart_of_mem (by decide)
  · exact CSharp.isTypeNamePart_of_isNamePart part

end IsSourceName

/-- A stub that can be written stands in a file of its qualified name. -/
theorem Stub.isSourceName_of_emit {stub : Stub} {settings : Settings} {source : String}
    (h : stub.emit settings = .ok source) : IsSourceName stub.fileName := by
  obtain ⟨className, segments, -⟩ := checkNames_eq_ok_iff.1 (emit_eq_ok_iff.1 h).1
  rw [fileName_eq]
  unfold Metadata.qualify
  split
  · exact .of_isIdentifier className
  · next inside =>
    have checked := forM_eq_ok_iff.1 (segments inside)
    refine ⟨Text.parts '.' stub.containingNamespace ++ [stub.className], by simp, ?_, ?_⟩
    · refine List.forall_mem_append.2 ⟨fun segment mem => ?_, List.forall_mem_singleton.2 className⟩
      exact checkIdentifier_eq_ok_iff.1 (checked segment mem)
    · have joined := Text.intercalate_parts '.' stub.containingNamespace
      rw [String.intercalate_append_of_ne_nil (Text.parts_ne_nil '.' _) (List.cons_ne_nil _ _),
        String.intercalate_singleton]
      change _ = (String.singleton '.').intercalate _ ++ "." ++ _ ++ _
      rw [joined]

/-! ## Written files -/

/-- A file of such a name that is written stands right in the directory, and no other file has
changed. -/
theorem exists_parent_of_writeText {disk written : Disk} {workingDirectory : CommandLine.Place}
    {directory name text : String} (h : IsFileName name)
    (wrote : disk.writeText workingDirectory (joinPath directory name) text = .ok written) :
    ∃ parent, disk.walk (Disk.start workingDirectory directory) (directoryParts directory) =
        .ok parent ∧
      written = disk.put (parent ++ [name]) (.text text) := by
  obtain ⟨target, found, -, rfl⟩ := (Disk.writeText_joinPath_eq_ok_iff h).1 wrote
  obtain ⟨parent, walked, rfl⟩ := Disk.exists_parent_of_fileIn h found
  exact ⟨parent, walked, rfl⟩

namespace Generator

variable {generator : Generator} {stubs : List Stub} {compilation : Compilation} {output : Output}

/-- The file name of the marker attribute is made of the name of its class, those behind it of the
names of accepted stubs, which have been checked before their sources were written, be it in an
earlier pass. -/
theorem isSourceName_of_ok (h : generator.Remembers stubs)
    (ok : (generator.run compilation).1 = .ok output) :
    ∀ artifact ∈ output.artifacts, IsSourceName artifact.fileName := by
  obtain ⟨marker, named, source, artifacts⟩ := artifacts_eq_cons_of_ok h ok
  rw [artifacts, List.forall_mem_cons, named]
  refine ⟨.of_isIdentifier (isIdentifier_of_markerSource source), fun artifact mem => ?_⟩
  obtain ⟨stub, -, name, written⟩ := exists_stub_of_mem_tail h ok mem
  exact name ▸ Stub.isSourceName_of_emit written

/-- **The file names of a pass do no harm.** Whatever came before the pass, each artifact of it has
a file name of one or more identifiers with points between them and the ending of source files: no
part of it is empty, and it has no path separator, no white space and no control character. So a
path of such a name leads to a file right in the directory it stands behind, and writing under that
path changes this file only. -/
theorem fileNames_harmless (config : GeneratorConfig) (passes : List Compilation)
    (compilation : Compilation) {output : Output}
    (ok : (((new config).after passes).run compilation).1 = .ok output) :
    ∀ artifact ∈ output.artifacts,
      IsSourceName artifact.fileName ∧
      (∀ part ∈ Text.parts '.' artifact.fileName, part ≠ "") ∧
      (∀ c ∈ artifact.fileName.toList, isHarmful c = false) ∧
      ∀ directory : String,
        Text.parts '/' (joinPath directory artifact.fileName) =
          directoryParts directory ++ [artifact.fileName] ∧
        ∀ (disk written : Disk) (workingDirectory : CommandLine.Place) (text : String),
          disk.writeText workingDirectory (joinPath directory artifact.fileName) text =
            .ok written →
          ∃ parent, disk.walk (Disk.start workingDirectory directory) (directoryParts directory) =
              .ok parent ∧
            written = disk.put (parent ++ [artifact.fileName]) (.text text) := by
  intro artifact mem
  have named := isSourceName_of_ok (remembers_lastAccepted config passes) ok artifact mem
  refine ⟨named, named.ne_empty_of_mem_parts, named.isHarmful_eq_false, fun directory => ⟨?_, ?_⟩⟩
  · exact CommandLine.parts_joinPath named.isFileName directory
  · exact fun _ _ _ _ => exists_parent_of_writeText named.isFileName

theorem fileNames_harmless_client :
    ∃ output,
      ((new {}).run (markedClasses ({} : GeneratorConfig).marker ["Client"])).1 = .ok output ∧
      output.artifacts.map (·.fileName) = ["GenerateHubClientAttribute.g.cs", "Client.g.cs"] ∧
      ∀ artifact ∈ output.artifacts, IsSourceName artifact.fileName := by
  have accepted : (({} : GeneratorConfig).settlement
      (markedClasses ({} : GeneratorConfig).marker ["Client"])).accepted = [.bare "Client"] := by
    rw [GeneratorConfig.settlement_markedClasses]
    rfl
  obtain ⟨output, ok⟩ := exists_output_of_accepted (by rw [accepted]; decide +kernel)
  refine ⟨output, ok, ?_, fun artifact mem => (fileNames_harmless {} [] _ ok artifact mem).1⟩
  have names := fileNames_of_ok (remembers_new {}) ok
  change _ = _ :: (({} : GeneratorConfig).settlement _).accepted.map _ at names
  rw [names, accepted]
  decide

end Generator

end TypedHub
