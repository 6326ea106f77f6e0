import TypedHub.Proofs.Generation.Settlement
import TypedHub.Proofs.Keyed
import TypedHub.Proofs.Steps

/-!
# What a generator remembers

`Generator.Remembers` says what the memory of a generator holds: the sources of certain stubs, each
as it would be written anew, and perhaps the source of the marker attribute.

* `run_cases` — what a pass can do: fail at the marker attribute, fail at a stub, or give an output
  in which the memory decides nothing but statuses
* `Remembers.afterSources` — a pass that succeeds leaves a generator that remembers exactly the
  stubs it has accepted
-/

namespace TypedHub

open CSharp (NameError)
open Metadata (Compilation)

/-! ## The cache as a map -/

namespace Cache

variable {cache : Cache} {name : String} {stub : Stub}

theorem find?_eq_some_iff {entry : Entry} :
    cache.find? name = some entry ↔ entry ∈ cache.entries ∧ entry.fileName = name :=
  find?_key_eq_some_iff cache.distinct

theorem lookup?_eq_some_iff {source : String} :
    cache.lookup? name stub = some source ↔ cache.find? name = some ⟨name, stub, source⟩ := by
  unfold lookup?
  cases found : cache.find? name with
  | none => simp
  | some entry =>
    obtain ⟨-, rfl⟩ := find?_eq_some_iff.1 found
    obtain ⟨fileName, other, text⟩ := entry
    by_cases h : other = stub <;> simp [h]

theorem find?_record (cache : Cache) (stub : Stub) (artifact : Artifact) (name : String) :
    (cache.record stub artifact).find? name =
      if artifact.fileName = name ∧ artifact.status = .generated then
        some ⟨artifact.fileName, stub, artifact.source⟩
      else cache.find? name := by
  unfold record
  cases artifact.status with
  | generated => simp [find?_store]
  | cached => simp

/-- Recording artifacts with other file names changes nothing under a name. -/
theorem find?_recordAll_of_not_mem {written : List (Stub × Artifact)}
    (h : name ∉ written.map (·.2.fileName)) (cache : Cache) :
    (cache.recordAll written).find? name = cache.find? name := by
  induction written generalizing cache with
  | nil => rfl
  | cons head rest ih =>
    rw [List.map_cons, List.mem_cons, not_or] at h
    show ((cache.record head.1 head.2).recordAll rest).find? name = _
    rw [ih h.2, find?_record, if_neg fun hc : _ ∧ _ => h.1 hc.1.symm]

/-- Of artifacts with different file names, each is recorded under its own. -/
theorem find?_recordAll_of_mem {written : List (Stub × Artifact)} {artifact : Artifact}
    (distinct : (written.map (·.2.fileName)).Nodup) (mem : (stub, artifact) ∈ written)
    (cache : Cache) :
    (cache.recordAll written).find? artifact.fileName =
      if artifact.status = .generated then some ⟨artifact.fileName, stub, artifact.source⟩
      else cache.find? artifact.fileName := by
  induction written generalizing cache with
  | nil => simp at mem
  | cons head rest ih =>
    rw [List.map_cons, List.nodup_cons] at distinct
    show ((cache.record head.1 head.2).recordAll rest).find? _ = _
    rcases List.mem_cons.1 mem with rfl | mem
    · rw [find?_recordAll_of_not_mem distinct.1, find?_record]
      simp
    · have other : head.2.fileName ≠ artifact.fileName := fun same =>
        distinct.1 (same ▸ List.mem_map_of_mem mem)
      rw [ih distinct.2 mem, find?_record, if_neg fun hc : _ ∧ _ => other hc.1]

end Cache

/-! ## The memory of a generator -/

/-- The artifact with the source of a stub, for a generator that remembers the given stubs. -/
def Stub.artifact (remembered : List Stub) (stub : Stub) (source : String) : Artifact :=
  ⟨stub.fileName, source, if stub ∈ remembered then .cached else .generated⟩

/-- The sources that a pass is about: the marker attribute and the accepted stubs. -/
def GeneratorConfig.sources (config : GeneratorConfig) (compilation : Compilation) :
    Except NameError (String × List String) := do
  let marker ← markerSource config.settings config.marker
  let sources ← (config.settlement compilation).accepted.mapM (·.emit config.settings)
  .ok (marker, sources)

/-- The output of a pass with the given sources. What is remembered of former passes shows in the
statuses only. -/
def GeneratorConfig.output (config : GeneratorConfig) (knowsMarker : Bool)
    (remembered : List Stub) (compilation : Compilation) (sources : String × List String) :
    Output where
  artifacts :=
    ⟨markerFileName config.marker, sources.1, if knowsMarker then .cached else .generated⟩ ::
      List.zipWith (Stub.artifact remembered) (config.settlement compilation).accepted sources.2
  diagnostics := (config.settlement compilation).diagnostics

theorem GeneratorConfig.sources_eq_ok_iff {config : GeneratorConfig} {compilation : Compilation}
    {sources : String × List String} :
    config.sources compilation = .ok sources ↔
      markerSource config.settings config.marker = .ok sources.1 ∧
        (config.settlement compilation).accepted.mapM (·.emit config.settings) =
          .ok sources.2 := by
  simp only [GeneratorConfig.sources, bind_eq_ok_iff, Except.ok.injEq]
  constructor
  · rintro ⟨marker, written, texts, emitted, rfl⟩
    exact ⟨written, emitted⟩
  · rintro ⟨written, emitted⟩
    exact ⟨_, written, _, emitted, rfl⟩

namespace Generator

variable {generator : Generator} {stubs : List Stub} {stub : Stub}

/-- The generator remembers the sources of the given stubs, and no others. -/
structure Remembers (generator : Generator) (stubs : List Stub) : Prop where
  /-- The source of the marker attribute, if it is there, is the one that would be written. -/
  marker : ∀ source, generator.marker = some source →
    markerSource generator.config.settings generator.config.marker = .ok source
  distinct : (stubs.map (·.fileName)).Nodup
  /-- Each stub is found with the source that would be written for it. -/
  found : ∀ stub ∈ stubs, ∃ source, stub.emit generator.config.settings = .ok source ∧
    generator.cache.find? stub.fileName = some ⟨stub.fileName, stub, source⟩
  /-- Nothing else is found. -/
  known : ∀ name entry, generator.cache.find? name = some entry →
    entry.stub ∈ stubs ∧ entry.stub.fileName = name

theorem remembers_new (config : GeneratorConfig) : (new config).Remembers [] where
  marker := by simp [new]
  distinct := List.nodup_nil
  found := by simp
  known := by simp [new, Cache.empty, Cache.find?]

/-! ## The parts of a pass -/

/-- A remembered stub is not written again, and the artifact is the same as if it were. -/
theorem artifact_eq (h : generator.Remembers stubs) (stub : Stub) :
    generator.artifact stub =
      (stub.emit generator.config.settings).map (stub.artifact stubs) := by
  unfold artifact
  by_cases mem : stub ∈ stubs
  · obtain ⟨source, emitted, found⟩ := h.found stub mem
    rw [Cache.lookup?_eq_some_iff.2 found, emitted]
    simp [Stub.artifact, mem, Except.map]
  · cases looked : generator.cache.lookup? stub.fileName stub with
    | some source => exact absurd (h.known _ _ (Cache.lookup?_eq_some_iff.1 looked)).1 mem
    | none =>
      cases stub.emit generator.config.settings <;>
        simp [Stub.artifact, mem, Except.map, bind, Except.bind]

theorem markerArtifact_eq (h : generator.Remembers stubs) :
    generator.markerArtifact =
      (markerSource generator.config.settings generator.config.marker).map fun source =>
        (⟨markerFileName generator.config.marker, source,
            if generator.marker.isSome then .cached else .generated⟩,
          { generator with marker := some source }) := by
  unfold markerArtifact
  cases known : generator.marker with
  | some source =>
    rw [h.marker source known]
    simp only [Except.map, Option.isSome_some, if_true]
    rw [← known]
  | none =>
    cases markerSource generator.config.settings generator.config.marker <;>
      simp [Except.map, bind, Except.bind]

/-- The marker attribute may be learnt at any time. -/
theorem Remembers.withMarker (h : generator.Remembers stubs) {source : String}
    (written : markerSource generator.config.settings generator.config.marker = .ok source) :
    { generator with marker := some source : Generator }.Remembers stubs where
  marker := by
    rintro other ⟨⟩
    exact written
  distinct := h.distinct
  found := h.found
  known := h.known

/-! ## The whole pass -/

/-- The generator after a pass that has written the given sources. -/
def afterSources (generator : Generator) (stubs : List Stub) (compilation : Compilation)
    (sources : String × List String) : Generator :=
  let accepted := (generator.config.settlement compilation).accepted
  { generator with
    marker := some sources.1
    cache := generator.keep (accepted.zip (List.zipWith (Stub.artifact stubs) accepted sources.2)) }

/-- A pass on a generator that remembers the given stubs. It fails if the marker attribute or one of
the accepted stubs cannot be written, whatever is remembered. -/
theorem run_cases (h : generator.Remembers stubs) (compilation : Compilation) :
    (∃ e, generator.config.sources compilation = .error e ∧
      generator.run compilation = (.error e, generator)) ∨
    (∃ e marker, generator.config.sources compilation = .error e ∧
      markerSource generator.config.settings generator.config.marker = .ok marker ∧
      generator.run compilation = (.error e, { generator with marker := some marker })) ∨
    (∃ sources, generator.config.sources compilation = .ok sources ∧
      generator.run compilation =
        (.ok (generator.config.output generator.marker.isSome stubs compilation sources),
          generator.afterSources stubs compilation sources)) := by
  unfold run
  rw [markerArtifact_eq h]
  cases written : markerSource generator.config.settings generator.config.marker with
  | error e =>
    exact .inl ⟨e, bind_eq_error_iff.2 (.inl written), rfl⟩
  | ok marker =>
    -- The generator that goes on knows the marker attribute; its other memory is the same.
    have emitted := funext (artifact_eq (h.withMarker written))
    simp only [Except.map]
    rw [emitted, mapM_map_ok]
    cases sources : (generator.config.settlement compilation).accepted.mapM
      (·.emit generator.config.settings) with
    | error e =>
      have failed : generator.config.sources compilation = .error e :=
        bind_eq_error_iff.2 (.inr ⟨marker, written, bind_eq_error_iff.2 (.inl sources)⟩)
      exact .inr (.inl ⟨e, marker, failed, rfl, rfl⟩)
    | ok texts =>
      have all : generator.config.sources compilation = .ok (marker, texts) :=
        GeneratorConfig.sources_eq_ok_iff.2 ⟨written, sources⟩
      exact .inr (.inr ⟨(marker, texts), all, rfl⟩)

/-! ## The memory after a pass -/

variable {settings : Settings} {accepted : List Stub} {sources : List String}

theorem fileName_zip_artifacts (stubs : List Stub)
    (h : List.Forall₂ (fun stub source => stub.emit settings = .ok source) accepted sources) :
    (accepted.zip (List.zipWith (Stub.artifact stubs) accepted sources)).map (·.2.fileName) =
      accepted.map (·.fileName) := by
  induction h with
  | nil => rfl
  | cons _ _ ih => simp [Stub.artifact, ih]

theorem forall₂_artifacts (stubs : List Stub)
    (h : List.Forall₂ (fun stub source => stub.emit settings = .ok source) accepted sources) :
    List.Forall₂ (fun stub artifact => ∃ source, artifact = stub.artifact stubs source) accepted
      (List.zipWith (Stub.artifact stubs) accepted sources) := by
  induction h with
  | nil => exact .nil
  | cons _ _ ih => exact .cons ⟨_, rfl⟩ ih

theorem mem_zip_artifacts (stubs : List Stub)
    (h : List.Forall₂ (fun stub source => stub.emit settings = .ok source) accepted sources)
    (mem : stub ∈ accepted) :
    ∃ source, stub.emit settings = .ok source ∧
      (stub, stub.artifact stubs source) ∈
        accepted.zip (List.zipWith (Stub.artifact stubs) accepted sources) := by
  induction h with
  | nil => simp at mem
  | cons emitted _ ih =>
    rcases List.mem_cons.1 mem with rfl | mem
    · exact ⟨_, emitted, List.mem_cons_self⟩
    · obtain ⟨source, emitted, paired⟩ := ih mem
      exact ⟨source, emitted, List.mem_cons_of_mem _ paired⟩

variable {compilation : Compilation} {written : String × List String}

theorem nodup_fileName_settlement (config : GeneratorConfig) (compilation : Compilation) :
    ((config.settlement compilation).accepted.map (·.fileName)).Nodup :=
  config.nodup_fileName_accepted [] _

/-- After a pass each accepted stub is found, whether it was written or found before. -/
theorem find?_afterSources (h : generator.Remembers stubs)
    (emitted : List.Forall₂ (fun stub source => stub.emit generator.config.settings = .ok source)
      (generator.config.settlement compilation).accepted written.2)
    (mem : stub ∈ (generator.config.settlement compilation).accepted) :
    ∃ source, stub.emit generator.config.settings = .ok source ∧
      (generator.afterSources stubs compilation written).cache.find? stub.fileName =
        some ⟨stub.fileName, stub, source⟩ := by
  obtain ⟨source, text, paired⟩ := mem_zip_artifacts stubs emitted mem
  have names := fileName_zip_artifacts stubs emitted
  have distinct := nodup_fileName_settlement generator.config compilation
  refine ⟨source, text, ?_⟩
  show (generator.keep _).find? (stub.artifact stubs source).fileName = _
  rw [keep, Cache.find?_retain, if_pos (List.mem_map_of_mem paired),
    Cache.find?_recordAll_of_mem (names ▸ distinct) paired]
  by_cases old : stub ∈ stubs
  · obtain ⟨former, formerText, found⟩ := h.found stub old
    rw [text, Except.ok.injEq] at formerText
    simp [Stub.artifact, old, found, formerText]
  · simp [Stub.artifact, old]

/-- After a pass nothing is found but under the file names of accepted stubs. -/
theorem exists_accepted_of_find?_afterSources {name : String} {entry : Cache.Entry}
    (emitted : List.Forall₂ (fun stub source => stub.emit generator.config.settings = .ok source)
      (generator.config.settlement compilation).accepted written.2)
    (found : (generator.afterSources stubs compilation written).cache.find? name = some entry) :
    ∃ stub ∈ (generator.config.settlement compilation).accepted, stub.fileName = name := by
  change (generator.keep _).find? name = _ at found
  rw [keep, Cache.find?_retain, fileName_zip_artifacts stubs emitted] at found
  split at found
  · next mem => exact List.mem_map.1 mem
  · cases found

/-- A pass that succeeds leaves a generator that remembers the stubs it has accepted: those that it
has written, those that it has found, and no older ones. -/
theorem Remembers.afterSources (h : generator.Remembers stubs)
    (sources : generator.config.sources compilation = .ok written) :
    (generator.afterSources stubs compilation written).Remembers
      (generator.config.settlement compilation).accepted := by
  obtain ⟨marker, emitted⟩ := GeneratorConfig.sources_eq_ok_iff.1 sources
  have emitted := forall₂_of_mapM_eq_ok emitted
  refine ⟨?_, nodup_fileName_settlement _ _, fun stub => find?_afterSources h emitted, ?_⟩
  · rintro source ⟨⟩
    exact marker
  · intro name entry found
    obtain ⟨stub, accepted, rfl⟩ := exists_accepted_of_find?_afterSources emitted found
    obtain ⟨source, -, again⟩ := find?_afterSources h emitted accepted
    rw [found, Option.some.injEq] at again
    exact again ▸ ⟨accepted, rfl⟩

end Generator

end TypedHub
