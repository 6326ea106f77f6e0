import Mathlib.Data.List.Perm.Basic
import TypedHub.Proofs.Generation.Memory

/-!
# Histories of passes

A generator goes through passes one after the other, some of which may fail. After any of them it
remembers what the last successful pass has accepted (`remembers_after`). So a pass gives the same
as on a new generator, statuses apart, and the cache is a record of the last pass that succeeded.
-/

namespace TypedHub

open CSharp (NameError)
open Metadata (Compilation)

/-- What an artifact holds, whether it was written or found. -/
def Artifact.content (artifact : Artifact) : String × String := (artifact.fileName, artifact.source)

/-- An output without the statuses of its artifacts. -/
def Output.content (output : Output) : List (String × String) × List Diagnostic :=
  (output.artifacts.map (·.content), output.diagnostics)

namespace Generator

/-- The generator after passes over the compilations, one after the other. -/
def after (generator : Generator) (passes : List Compilation) : Generator :=
  passes.foldl (fun generator compilation => (generator.run compilation).2) generator

/-- The compilation of the last of the passes that succeeds, if one does. -/
def lastSuccess? (generator : Generator) : List Compilation → Option Compilation
  | [] => none
  | compilation :: rest =>
    ((generator.run compilation).2.lastSuccess? rest).or
      (if (generator.run compilation).1.isOk then some compilation else none)

/-- The stubs that the last successful pass accepts; none if no pass succeeds. -/
def lastAccepted (generator : Generator) (passes : List Compilation) : List Stub :=
  match generator.lastSuccess? passes with
  | some compilation => (generator.config.settlement compilation).accepted
  | none => []

variable {generator : Generator} {stubs : List Stub} {compilation : Compilation}

/-! ## One pass -/

theorem config_run (h : generator.Remembers stubs) (compilation : Compilation) :
    (generator.run compilation).2.config = generator.config := by
  obtain ⟨e, -, run⟩ | ⟨e, marker, -, -, run⟩ | ⟨sources, -, run⟩ := run_cases h compilation
  all_goals rw [run]
  rfl

/-- What a pass gives does not depend on what is remembered. -/
theorem content_run (h : generator.Remembers stubs) (compilation : Compilation) :
    (generator.run compilation).1.map Output.content =
      (generator.config.sources compilation).map fun sources =>
        (generator.config.output false [] compilation sources).content := by
  obtain ⟨e, failed, run⟩ | ⟨e, marker, failed, -, run⟩ | ⟨sources, written, run⟩ :=
    run_cases h compilation
  · rw [run, failed]
    rfl
  · rw [run, failed]
    rfl
  · rw [run, written]
    simp only [Except.map, GeneratorConfig.output, Output.content, List.map_cons, Artifact.content,
      List.map_zipWith, Stub.artifact]

theorem run_of_ok (h : generator.Remembers stubs) {output : Output}
    (ok : (generator.run compilation).1 = .ok output) :
    ∃ sources, generator.config.sources compilation = .ok sources ∧
      output = generator.config.output generator.marker.isSome stubs compilation sources ∧
      (generator.run compilation).2 = generator.afterSources stubs compilation sources := by
  obtain ⟨e, -, run⟩ | ⟨e, marker, -, -, run⟩ | ⟨sources, written, run⟩ := run_cases h compilation
  · rw [run] at ok
    cases ok
  · rw [run] at ok
    cases ok
  · rw [run, Except.ok.injEq] at ok
    exact ⟨sources, written, ok.symm, by rw [run]⟩

/-- A pass that fails leaves the cache as it was. -/
theorem run_of_error (h : generator.Remembers stubs) {e : NameError}
    (error : (generator.run compilation).1 = .error e) :
    (generator.run compilation).2.Remembers stubs ∧
      (generator.run compilation).2.cache = generator.cache := by
  obtain ⟨e, -, run⟩ | ⟨e, marker, -, written, run⟩ | ⟨sources, -, run⟩ :=
    run_cases h compilation
  · rw [run]
    exact ⟨h, rfl⟩
  · rw [run]
    exact ⟨h.withMarker written, rfl⟩
  · rw [run] at error
    cases error

theorem remembers_run_of_ok (h : generator.Remembers stubs) {output : Output}
    (ok : (generator.run compilation).1 = .ok output) :
    (generator.run compilation).2.Remembers
      (generator.config.settlement compilation).accepted := by
  obtain ⟨sources, written, -, state⟩ := run_of_ok h ok
  rw [state]
  exact h.afterSources written

/-- The artifacts of a pass behind the marker attribute stand for the accepted stubs, and those
that are remembered are the cached ones. -/
theorem artifacts_of_ok (h : generator.Remembers stubs) {output : Output}
    (ok : (generator.run compilation).1 = .ok output) :
    List.Forall₂ (fun stub artifact => ∃ source, artifact = stub.artifact stubs source)
      (generator.config.settlement compilation).accepted output.artifacts.tail := by
  obtain ⟨sources, written, rfl, -⟩ := run_of_ok h ok
  exact forall₂_artifacts stubs
    (forall₂_of_mapM_eq_ok (GeneratorConfig.sources_eq_ok_iff.1 written).2)

/-! ## Many passes -/

theorem after_cons (generator : Generator) (compilation : Compilation)
    (rest : List Compilation) :
    generator.after (compilation :: rest) = (generator.run compilation).2.after rest := rfl

theorem config_after (h : generator.Remembers stubs) (passes : List Compilation) :
    (generator.after passes).config = generator.config := by
  induction passes generalizing generator stubs with
  | nil => rfl
  | cons compilation rest ih =>
    rw [after_cons]
    cases result : (generator.run compilation).1 with
    | error e => rw [ih (run_of_error h result).1, config_run h]
    | ok output => rw [ih (remembers_run_of_ok h result), config_run h]

theorem lastSuccess?_cons_of_error {e : NameError} (rest : List Compilation)
    (error : (generator.run compilation).1 = .error e) :
    generator.lastSuccess? (compilation :: rest) =
      (generator.run compilation).2.lastSuccess? rest := by
  rw [lastSuccess?, error]
  exact Option.or_none

theorem lastSuccess?_cons_of_ok {output : Output} (rest : List Compilation)
    (ok : (generator.run compilation).1 = .ok output) :
    generator.lastSuccess? (compilation :: rest) =
      ((generator.run compilation).2.lastSuccess? rest).or (some compilation) := by
  rw [lastSuccess?, ok]
  rfl

/-- After any passes a generator remembers what the last successful one has accepted, or what it
remembered before if there was none. The induction goes from the first pass on. -/
theorem remembers_after (h : generator.Remembers stubs) (passes : List Compilation) :
    (generator.after passes).Remembers
      (match generator.lastSuccess? passes with
        | some compilation => (generator.config.settlement compilation).accepted
        | none => stubs) := by
  induction passes generalizing generator stubs with
  | nil => exact h
  | cons compilation rest ih =>
    rw [after_cons]
    cases result : (generator.run compilation).1 with
    | error e =>
      have later := ih (run_of_error h result).1
      rwa [config_run h, ← lastSuccess?_cons_of_error rest result] at later
    | ok output =>
      have later := ih (remembers_run_of_ok h result)
      rw [config_run h] at later
      rw [lastSuccess?_cons_of_ok rest result]
      -- A later success counts; if there is none, it is this pass.
      cases last : (generator.run compilation).2.lastSuccess? rest <;> rwa [last] at later

theorem remembers_lastAccepted (config : GeneratorConfig) (passes : List Compilation) :
    ((new config).after passes).Remembers ((new config).lastAccepted passes) :=
  remembers_after (remembers_new config) passes

/-- **A pass gives the same on a generator with a history as on a new one, statuses apart.** It
succeeds on the one if and only if it succeeds on the other, and then the artifacts have the same
file names and sources in the same order, and the diagnostics are the same. Former passes may have
failed. If both fail, they tell the same name where both choose the first one. -/
theorem content_run_after (config : GeneratorConfig) (passes : List Compilation)
    (compilation : Compilation) :
    (((new config).after passes).run compilation).1.map Output.content =
      ((new config).run compilation).1.map Output.content := by
  rw [content_run (remembers_lastAccepted config passes), content_run (remembers_new config),
    config_after (remembers_new config)]

/-! ## The cache as a record -/

end Generator

/-- The cache has one entry for each of the stubs, under its file name and with the source that is
written for it, and no others. -/
def Cache.IsRecordOf (cache : Cache) (settings : Settings) (stubs : List Stub) : Prop :=
  (cache.entries.map fun entry => (entry.fileName, entry.stub, Except.ok entry.source)).Perm
    (stubs.map fun stub => (stub.fileName, stub, stub.emit settings))

namespace Generator

variable {generator : Generator} {stubs : List Stub}

theorem Remembers.isRecordOf (h : generator.Remembers stubs) :
    generator.cache.IsRecordOf generator.config.settings stubs := by
  refine (List.perm_ext_iff_of_nodup ?_ ?_).2 fun line => ?_
  · exact .of_map (·.1) (by rw [List.map_map]; exact generator.cache.distinct)
  · exact .of_map (·.1) (by rw [List.map_map]; exact h.distinct)
  simp only [List.mem_map]
  constructor
  · rintro ⟨entry, mem, rfl⟩
    have found := Cache.find?_eq_some_iff.2 ⟨mem, rfl⟩
    obtain ⟨accepted, name⟩ := h.known _ _ found
    obtain ⟨source, written, same⟩ := h.found _ accepted
    rw [name, found, Option.some.injEq] at same
    exact ⟨entry.stub, accepted, by rw [name, written, same]⟩
  · rintro ⟨stub, accepted, rfl⟩
    obtain ⟨source, written, found⟩ := h.found stub accepted
    exact ⟨_, (Cache.find?_eq_some_iff.1 found).1, by rw [written]⟩

/-- **The cache is a record of the last successful pass.** It has one entry for each stub which that
pass accepted, and none if there was no such pass; a pass that fails does not touch it. So in a
pass that succeeds, an artifact behind the marker attribute is cached if and only if the last
successful pass before it accepted an equal stub under the same file name, and else it is
generated. -/
theorem cache_after_passes (config : GeneratorConfig) (passes : List Compilation) :
    let generator := (new config).after passes
    let recorded := (new config).lastAccepted passes
    generator.cache.IsRecordOf config.settings recorded ∧
    (∀ compilation e, (generator.run compilation).1 = .error e →
      (generator.run compilation).2.cache = generator.cache) ∧
    (∀ compilation output, (generator.run compilation).1 = .ok output →
      List.Forall₂
        (fun stub artifact =>
          artifact.fileName = stub.fileName ∧
          (artifact.status = .cached ↔
            ∃ old ∈ recorded, old.fileName = artifact.fileName ∧ old = stub) ∧
          (artifact.status = .generated ↔
            ¬∃ old ∈ recorded, old.fileName = artifact.fileName ∧ old = stub))
        (config.settlement compilation).accepted output.artifacts.tail) := by
  intro generator recorded
  have remembers : generator.Remembers recorded := remembers_lastAccepted config passes
  have same : generator.config = config := config_after (remembers_new config) passes
  refine ⟨same ▸ remembers.isRecordOf, ?_, ?_⟩
  · intro compilation e error
    exact (run_of_error remembers error).2
  · intro compilation output ok
    have artifacts := artifacts_of_ok remembers ok
    rw [same] at artifacts
    refine artifacts.imp fun stub artifact => ?_
    rintro ⟨source, rfl⟩
    -- An equal stub has the same file name, so only the stub itself need be looked for.
    have iff : (∃ old ∈ recorded, old.fileName = stub.fileName ∧ old = stub) ↔ stub ∈ recorded :=
      ⟨fun ⟨_, mem, _, eq⟩ => eq ▸ mem, fun mem => ⟨stub, mem, rfl, rfl⟩⟩
    refine ⟨rfl, ?_⟩
    rw [show (stub.artifact recorded source).fileName = stub.fileName from rfl, iff]
    by_cases mem : stub ∈ recorded <;> simp [Stub.artifact, mem]

end Generator

end TypedHub
