import TypedHub.Proofs.CommandLine.Writing
import TypedHub.Proofs.Generation.Success
import TypedHub.Proofs.Generation.Verdict
import TypedHub.Proofs.Stub.Checked

/-!
# The file names of a pass

No two accepted stubs have the same file name, but the marker attribute is written beside them and
its file name is not among those that are taken. So all file names of a pass are different if and
only if no accepted class has the name of the marker attribute and stands in the global namespace
(`nodup_fileNames_iff`). Where they are different, an artifact is found by its name, and artifacts
that are written into one directory do not overwrite each other.
-/

namespace TypedHub

open CSharp (isIdentifier isTypeNamePart NameError)
open CommandLine (IsFileName Sandbox CommandError joinPath writeArtifacts)
open Metadata (Compilation)

/-! ## The name of the marker attribute -/

theorem splitLast_mem_parts (name : String) : (splitLast name).2 ∈ Text.parts '.' name := by
  rw [← List.mem_reverse]
  cases reversed : (Text.parts '.' name).reverse with
  | nil =>
    have parts := List.map_eq_nil_iff.1 (List.reverse_eq_nil_iff.1 reversed)
    exact absurd parts (Text.splitAt_ne_nil '.' name.toList)
  | cons last others =>
    have is : (splitLast name).2 = last := by
      rw [splitLast, reversed]
      cases others <;> rfl
    exact is ▸ List.mem_cons_self

/-- The name of the class of the marker attribute is not qualified. -/
theorem not_mem_splitLast (name : String) : '.' ∉ (splitLast name).2.toList := by
  obtain ⟨part, mem, is⟩ := List.mem_map.1 (splitLast_mem_parts name)
  rw [← is, String.toList_ofList]
  exact Text.not_mem_of_mem_splitAt mem

theorem isIdentifier_of_markerSource {settings : Settings} {marker source : String}
    (h : markerSource settings marker = .ok source) :
    isIdentifier (splitLast marker).2.toList = true := by
  unfold markerSource at h
  exact checkIdentifier_eq_ok_iff.1 (check_bind_eq_ok_iff.1 h).1

/-! ## File names -/

namespace Stub

theorem fileName_eq (stub : Stub) :
    stub.fileName = Metadata.qualify stub.containingNamespace stub.className ++ ".g.cs" := by
  unfold fileName Metadata.qualify
  split <;> rfl

/-- A class has the file name of the marker attribute if it has its name and no namespace: a
qualified name has a point. -/
theorem fileName_eq_markerFileName_iff {stub : Stub} {marker : String} :
    stub.fileName = markerFileName marker ↔
      stub.containingNamespace = "" ∧ stub.className = (splitLast marker).2 := by
  rw [fileName_eq, markerFileName, String.append_left_inj]
  unfold Metadata.qualify
  split
  · next empty => simp [empty]
  · next inside =>
    refine iff_of_false (fun same => not_mem_splitLast marker ?_) fun h => inside h.1
    rw [← same]
    simp

end Stub

/-- The characters of names lead to no other place, whatever they are, if the ending of source files
stands behind them. -/
theorem isFileName_append {name : String} (h : ∀ c ∈ name.toList, isTypeNamePart c = true) :
    IsFileName (name ++ ".g.cs") where
  noSlash mem := by
    rw [String.toList_append, List.mem_append] at mem
    have other : isTypeNamePart '/' = false := by
      rw [isTypeNamePart, CSharp.isNamePart_eq_false (.inr rfl)]
      decide
    have ending : '/' ∉ ".g.cs".toList := by decide
    exact mem.elim (fun mem => absurd (h _ mem) (by rw [other]; decide)) ending
  moves := by
    have long : 5 ≤ (name ++ ".g.cs").length := by
      rw [String.length_append]
      exact Nat.le_add_left 5 name.length
    simp only [CommandLine.staysInPlace, Bool.or_eq_false_iff, decide_eq_false_iff_not]
    constructor <;> (intro short; rw [short] at long; revert long; decide)
  notParent short := by
    have long : 5 ≤ (name ++ ".g.cs").length := by
      rw [String.length_append]
      exact Nat.le_add_left 5 name.length
    rw [short] at long
    revert long
    decide

theorem isFileName_markerFileName {settings : Settings} {marker source : String}
    (h : markerSource settings marker = .ok source) : IsFileName (markerFileName marker) :=
  isFileName_append (CSharp.forall_mem_of_isIdentifier (isIdentifier_of_markerSource h))

namespace Stub

variable {stub : Stub}

theorem forall_mem_qualifiedName (h : stub.checkNames = .ok ()) :
    ∀ c ∈ (Metadata.qualify stub.containingNamespace stub.className).toList,
      isTypeNamePart c = true := by
  obtain ⟨className, segments, -⟩ := checkNames_eq_ok_iff.1 h
  have simpleName := CSharp.forall_mem_of_isIdentifier className
  unfold Metadata.qualify
  split
  · exact simpleName
  · next inside =>
    have qualifier := CSharp.forall_mem_of_parts fun part mem =>
      checkIdentifier_eq_ok_iff.1 (forM_eq_ok_iff.1 (segments inside) part mem)
    have point : isTypeNamePart '.' = true := CSharp.isTypeNamePart_of_mem (by decide)
    intro c mem
    simp only [String.toList_append, List.mem_append] at mem
    obtain (mem | mem) | mem := mem
    · exact qualifier c mem
    · obtain rfl := List.mem_singleton.1 mem
      exact point
    · exact simpleName c mem

theorem isFileName_of_emit {settings : Settings} {source : String}
    (h : stub.emit settings = .ok source) : IsFileName stub.fileName := by
  rw [fileName_eq]
  exact isFileName_append (forall_mem_qualifiedName (emit_eq_ok_iff.1 h).1)

end Stub

/-! ## The file names of a pass -/

/-- No accepted class stands for the same source file as the marker attribute. -/
def GeneratorConfig.SparesMarker (config : GeneratorConfig) (compilation : Compilation) : Prop :=
  ∀ stub ∈ (config.settlement compilation).accepted,
    ¬(stub.containingNamespace = "" ∧ stub.className = (splitLast config.marker).2)

/-- The artifact with a given name is the only one with that name. -/
theorem Output.artifact?_eq_some {output : Output}
    (distinct : (output.artifacts.map (·.fileName)).Nodup) {artifact : Artifact}
    (mem : artifact ∈ output.artifacts) :
    output.artifact? artifact.fileName = some artifact ∧
      ∀ other ∈ output.artifacts, other.fileName = artifact.fileName → other = artifact := by
  refine ⟨(find?_key_eq_some_iff distinct).2 ⟨mem, rfl⟩, fun other mem' same => ?_⟩
  exact List.inj_on_of_nodup_map distinct mem' mem same

namespace Generator

variable {generator : Generator} {stubs : List Stub} {compilation : Compilation} {output : Output}

theorem fileNames_of_ok (h : generator.Remembers stubs)
    (ok : (generator.run compilation).1 = .ok output) :
    output.artifacts.map (·.fileName) =
      markerFileName generator.config.marker ::
        (generator.config.settlement compilation).accepted.map (·.fileName) := by
  obtain ⟨marker, named, -, artifacts⟩ := artifacts_eq_cons_of_ok h ok
  rw [artifacts, List.map_cons, named, fileNames_behind_marker h ok]

theorem nodup_fileNames_iff (h : generator.Remembers stubs)
    (ok : (generator.run compilation).1 = .ok output) :
    (output.artifacts.map (·.fileName)).Nodup ↔ generator.config.SparesMarker compilation := by
  rw [fileNames_of_ok h ok, List.nodup_cons,
    and_iff_left (nodup_fileName_settlement generator.config compilation)]
  simp only [List.mem_map, not_exists, not_and, GeneratorConfig.SparesMarker,
    Stub.fileName_eq_markerFileName_iff]

/-- Every artifact of a pass has a name that stays in the directory it is written into. -/
theorem isFileName_of_ok (h : generator.Remembers stubs)
    (ok : (generator.run compilation).1 = .ok output) :
    ∀ artifact ∈ output.artifacts, IsFileName artifact.fileName := by
  obtain ⟨marker, named, source, artifacts⟩ := artifacts_eq_cons_of_ok h ok
  rw [artifacts, List.forall_mem_cons, named]
  refine ⟨isFileName_markerFileName source, fun artifact mem => ?_⟩
  obtain ⟨stub, -, name, written⟩ := exists_stub_of_mem_tail h ok mem
  exact name ▸ Stub.isFileName_of_emit written

/-- **The file names of a pass are different if and only if the marker attribute has its own.** The
accepted stubs have different file names, but one of them may have that of the marker attribute: a
class of the same name in the global namespace. Where that does not happen, an artifact is found by
its name as the only one, and artifacts that have been written into one directory can all be read
from it. -/
theorem fileNames_apart (config : GeneratorConfig) (passes : List Compilation)
    (compilation : Compilation) {output : Output}
    (ok : (((new config).after passes).run compilation).1 = .ok output) :
    ((output.artifacts.map (·.fileName)).Nodup ↔ config.SparesMarker compilation) ∧
      (config.SparesMarker compilation →
        (∀ artifact ∈ output.artifacts, output.artifact? artifact.fileName = some artifact ∧
          ∀ other ∈ output.artifacts, other.fileName = artifact.fileName → other = artifact) ∧
        ∀ (directory : String) (sandbox final : Sandbox),
          (writeArtifacts directory output :
            ExceptT CommandError (StateM Sandbox) Unit).run sandbox = (.ok (), final) →
          ∀ artifact ∈ output.artifacts,
            final.readText (joinPath directory artifact.fileName) = .ok artifact.source) := by
  have remembers := remembers_lastAccepted config passes
  have same : ((new config).after passes).config = config :=
    config_after (remembers_new config) passes
  have iff := nodup_fileNames_iff remembers ok
  rw [same] at iff
  refine ⟨iff, fun spares => ⟨fun artifact mem => ?_, fun directory sandbox final wrote => ?_⟩⟩
  · exact Output.artifact?_eq_some (iff.2 spares) mem
  · exact Sandbox.readText_of_writeArtifacts (isFileName_of_ok remembers ok) (iff.2 spares) wrote

theorem fileNames_apart_client :
    ∃ output,
      ((new {}).run (markedClasses ({} : GeneratorConfig).marker ["Client"])).1 = .ok output ∧
        (output.artifacts.map (·.fileName)).Nodup ∧
        ∀ artifact ∈ output.artifacts, output.artifact? artifact.fileName = some artifact := by
  have accepted : (({} : GeneratorConfig).settlement
      (markedClasses ({} : GeneratorConfig).marker ["Client"])).accepted = [.bare "Client"] := by
    rw [GeneratorConfig.settlement_markedClasses]
    rfl
  obtain ⟨output, ok⟩ := exists_output_of_accepted (by rw [accepted]; decide +kernel)
  have spares : ({} : GeneratorConfig).SparesMarker
      (markedClasses ({} : GeneratorConfig).marker ["Client"]) := by
    rw [GeneratorConfig.SparesMarker, accepted]
    decide +kernel
  have apart := fileNames_apart {} [] _ ok
  exact ⟨output, ok, apart.1.2 spares, fun artifact mem => ((apart.2 spares).1 artifact mem).1⟩

/-- A class that is called like the usual marker attribute. -/
def namesake : Compilation :=
  markedClasses ({} : GeneratorConfig).marker ["GenerateHubClientAttribute"]

/-- The stub of such a class has the file name of the marker attribute. -/
theorem not_nodup_fileNames_namesake :
    ∃ output, ((new {}).run namesake).1 = .ok output ∧
      ¬(output.artifacts.map (·.fileName)).Nodup := by
  have remembers := remembers_new {}
  have accepted : (({} : GeneratorConfig).settlement namesake).accepted =
      [.bare "GenerateHubClientAttribute"] := by
    rw [namesake, GeneratorConfig.settlement_markedClasses]
    rfl
  obtain ⟨output, ok⟩ : ∃ output, ((new {}).run namesake).1 = .ok output :=
    exists_output_of_accepted (by rw [accepted]; decide +kernel)
  refine ⟨output, ok, fun distinct => ?_⟩
  have spares := (nodup_fileNames_iff remembers ok).1 distinct
  change ∀ stub ∈ (({} : GeneratorConfig).settlement namesake).accepted, _ at spares
  rw [accepted] at spares
  exact spares _ List.mem_cons_self ⟨rfl, by decide⟩

end Generator

end TypedHub
