import TypedHub.Proofs.Generation.Verdict
import TypedHub.Proofs.Stub.Reach

/-!
# Edits elsewhere

Between two passes the compilation may be edited. A declaration takes notice only of the names that
are looked up for it: where the compilations agree on them, its stub is the same, and a stub that
the last successful pass has accepted is not written again (`cached_of_agree`).
-/

namespace TypedHub

open Metadata (AttributeData Compilation TypeSymbol)

/-- The artifact of a stub, by its file name: the artifact of the marker attribute, which comes
first, is not looked at. -/
def Output.stubArtifact? (output : Output) (stub : Stub) : Option Artifact :=
  output.artifacts.tail.find? (·.fileName = stub.fileName)

namespace Generator

variable {generator : Generator} {stubs : List Stub} {compilation : Compilation} {output : Output}

/-- An accepted stub has one artifact, with the source that is written for it. -/
theorem stubArtifact?_of_ok (h : generator.Remembers stubs)
    (ok : (generator.run compilation).1 = .ok output) {stub : Stub}
    (accepted : stub ∈ (generator.config.settlement compilation).accepted) :
    ∃ source, stub.emit generator.config.settings = .ok source ∧
      output.stubArtifact? stub = some (stub.artifact stubs source) := by
  have distinct : (output.artifacts.tail.map (·.fileName)).Nodup := by
    rw [fileNames_behind_marker h ok]
    exact nodup_fileName_settlement generator.config compilation
  obtain ⟨sources, written, rfl, -⟩ := run_of_ok h ok
  obtain ⟨source, text, paired⟩ := mem_zip_artifacts stubs
    (forall₂_of_mapM_eq_ok (GeneratorConfig.sources_eq_ok_iff.1 written).2) accepted
  exact ⟨source, text, (find?_key_eq_some_iff distinct).2 ⟨(List.of_mem_zip paired).2, rfl⟩⟩

/-- **Edits elsewhere do not disturb a declaration.** Compilations that agree on all names that are
looked up for a declaration give the same stub for it. So if a pass accepts that stub, and the next
pass that succeeds accepts it again, then its source is kept. Passes in between may have failed. -/
theorem cached_of_agree {first second : Compilation} {declaration : Declaration}
    (agree : ∀ name, declaration.Reaches first name → first.find? name = second.find? name) :
    Stub.ofDeclaration first declaration = Stub.ofDeclaration second declaration ∧
      ∀ (config : GeneratorConfig) (before between : List Compilation) (former later : Output),
        let generator := (new config).after before
        let next := (generator.run first).2.after between
        (generator.run first).1 = .ok former →
        (generator.run first).2.lastSuccess? between = none →
        (next.run second).1 = .ok later →
        Stub.ofDeclaration first declaration ∈ (config.settlement first).accepted →
        Stub.ofDeclaration second declaration ∈ (config.settlement second).accepted →
        ∃ artifact, former.stubArtifact? (.ofDeclaration first declaration) = some artifact ∧
          later.stubArtifact? (.ofDeclaration second declaration) =
            some { artifact with status := .cached } := by
  have same := Stub.ofDeclaration_congr agree
  refine ⟨same, ?_⟩
  rw [← same]
  intro config before between former later generator next ok failed okLater accepted again
  generalize Stub.ofDeclaration first declaration = stub at accepted again
  -- the passes in between have failed, so the last one begins with what the first one has left
  have remembers := remembers_lastAccepted config before
  have configured : generator.config = config := config_after (remembers_new config) before
  have afterwards := remembers_run_of_ok remembers ok
  have kept : next.Remembers (generator.config.settlement first).accepted := by
    have h := remembers_after afterwards between
    rwa [failed] at h
  have configuredLater : next.config = config := by
    rw [config_after afterwards between, config_run remembers, configured]
  rw [← configured] at accepted
  rw [← configuredLater] at again
  obtain ⟨source, text, found⟩ := stubArtifact?_of_ok remembers ok accepted
  obtain ⟨sourceLater, textLater, foundLater⟩ := stubArtifact?_of_ok kept okLater again
  -- the source is determined by the stub and the settings, so both passes give the same
  rw [configured] at text
  rw [configuredLater, text, Except.ok.injEq] at textLater
  refine ⟨_, found, ?_⟩
  rw [foundLater, ← textLater]
  simp [Stub.artifact, accepted]

/-- A class whose hub is called through one interface. -/
def caller : Declaration :=
  let marker : AttributeData :=
    ⟨({} : GeneratorConfig).marker, [("Outgoing", .string "ICalls")]⟩
  ⟨{ markedClass marker.name "Caller" with attributes := [marker] }, marker⟩

/-- The interface, with a base that stands for nothing. -/
def calls : TypeSymbol where
  kind := .interfaceType
  name := "ICalls"
  containingNamespace := ""
  accessibility := .isPublic
  bases := ["IAbsent"]
  methods := [⟨"Say", true, none, []⟩]
  attributes := []

/-- The class and the interface alone. -/
def alone : Compilation := ⟨[caller.symbol, calls]⟩

/-- The same in another order and beside another class, with a namesake of the interface that comes
too late. -/
def edited : Compilation :=
  ⟨[calls, markedClass ({} : GeneratorConfig).marker "Client", caller.symbol,
    { calls with methods := [] }]⟩

/-- The stub of the class. -/
def calling : Stub := ⟨"Caller", "", .isPublic, [⟨"ICalls", [⟨"Say", .nothing, []⟩]⟩], []⟩

theorem find?_alone_eq_edited {name : String} (reached : caller.Reaches alone name) :
    alone.find? name = edited.find? name := by
  have listed : ∀ role, caller.roots role ⊆ ["ICalls"] := by rintro (_ | _) <;> decide
  have bases : ∀ type ∈ alone.types, type.bases ⊆ ["IAbsent"] := by decide
  have names : name = "ICalls" ∨ name = "IAbsent" := by
    cases reached with
    | root mem => exact .inl (List.mem_singleton.1 (listed _ mem))
    | base _ resolved declared =>
      have mem := (Compilation.mem_of_interface? resolved).1
      exact .inr (List.mem_singleton.1 (bases _ mem declared))
  obtain rfl | rfl := names <;> rfl

/-- Wherever the interface is found and its base is not, the class has the same stub. -/
theorem ofDeclaration_caller (found : compilation.interface? "ICalls" = some calls)
    (missing : compilation.interface? "IAbsent" = none) :
    Stub.ofDeclaration compilation caller = calling := by
  have outgoing : caller.roots .outgoing = ["ICalls"] := by decide
  have incoming : caller.roots .incoming = [] := by decide
  have walked : walk compilation [] ["ICalls"] = [calls] := by
    rw [walk_cons_of_some List.not_mem_nil found]
    change calls :: walk _ _ ["IAbsent"] = _
    rw [walk_cons_of_none missing, walk]
  rw [Stub.ofDeclaration, outgoing, incoming, Contract.reachable, walked, Contract.reachable_nil]
  rfl

theorem ofDeclaration_alone : Stub.ofDeclaration alone caller = calling :=
  ofDeclaration_caller rfl rfl

theorem accepted_alone : (({} : GeneratorConfig).settlement alone).accepted = [calling] := by
  have found : declarations ({} : GeneratorConfig).marker alone = [caller] := rfl
  rw [GeneratorConfig.settlement, found, List.map_singleton, ofDeclaration_alone]
  decide

theorem accepted_edited :
    (({} : GeneratorConfig).settlement edited).accepted = [.bare "Client", calling] := by
  have found : declarations ({} : GeneratorConfig).marker edited =
      [⟨markedClass _ "Client", ⟨_, []⟩⟩, caller] := rfl
  have stub : Stub.ofDeclaration edited caller = calling := ofDeclaration_caller rfl rfl
  rw [GeneratorConfig.settlement, found]
  simp only [List.map_cons, List.map_nil, stub, ofDeclaration_markedClass]
  decide

theorem cached_of_agree_edited :
    ∃ former later artifact, ((new {}).run alone).1 = .ok former ∧
      (((new {}).run alone).2.run edited).1 = .ok later ∧
      former.stubArtifact? calling = some artifact ∧
      later.stubArtifact? calling = some { artifact with status := .cached } := by
  have writable : ∀ stub ∈ [Stub.bare "Client", calling], stub.checkNames = .ok () := by
    decide
  obtain ⟨former, ok⟩ : ∃ former, ((new {}).run alone).1 = .ok former :=
    exists_output_of_accepted fun stub mem =>
      writable stub (List.mem_cons_of_mem _ (accepted_alone ▸ mem))
  obtain ⟨later, okLater⟩ : ∃ later, (((new {}).run alone).2.run edited).1 = .ok later := by
    have configured := config_run (remembers_new {}) alone
    refine (exists_output_iff (remembers_run_of_ok (remembers_new {}) ok)).2 ?_
    rw [configured]
    exact ⟨exists_markerSource, fun stub mem => writable stub (accepted_edited ▸ mem)⟩
  obtain ⟨same, cached⟩ := cached_of_agree fun _ => find?_alone_eq_edited
  rw [← same, ofDeclaration_alone] at cached
  obtain ⟨artifact, found, foundLater⟩ := cached {} [] [] former later ok rfl okLater
    (accepted_alone ▸ List.mem_cons_self) (accepted_edited ▸ by simp)
  exact ⟨former, later, artifact, ok, okLater, found, foundLater⟩

end Generator

end TypedHub
