import TypedHub.Proofs.Generation.Order

/-!
# Passes that tolerate clashes

Whether a generator refuses stubs with clashing names decides nothing but which stubs it writes.
Where the declared classes have different names, no file name is ever found taken, so a generator
that tolerates clashes accepts all stubs, and one that refuses them accepts those without clashes.
What is written for a stub does not depend on the other ones, so the second generator leaves out
artifacts of the first one and changes nothing else (`Generator.refusing_of_tolerant`).
-/

namespace TypedHub

open Metadata (Compilation)

theorem stubs_eq_map_declared (marker : String) (compilation : Compilation) :
    stubs marker compilation = (declared marker compilation).map Prod.snd := by
  rw [declared, stubs, List.map_map]
  rfl

/-! ## What is settled -/

namespace GeneratorConfig

/-- The configuration with stubs of clashing names accepted. -/
def tolerant (config : GeneratorConfig) : GeneratorConfig := { config with refusesClashes := false }

/-- The configuration with stubs of clashing names refused. -/
def refusing (config : GeneratorConfig) : GeneratorConfig := { config with refusesClashes := true }

variable {config : GeneratorConfig} {compilation : Compilation}

theorem objections_tolerant (config : GeneratorConfig) (stub : Stub) :
    config.tolerant.objections [] stub = [] := by
  rw [objections, if_neg List.not_mem_nil]
  rfl

theorem objections_refusing (config : GeneratorConfig) (stub : Stub) :
    config.refusing.objections [] stub = stub.clashes := by
  rw [objections, if_neg List.not_mem_nil]
  rfl

theorem settlement_tolerant
    (distinct : ((declarations config.marker compilation).map (·.symbol.qualifiedName)).Nodup) :
    config.tolerant.settlement compilation = ⟨stubs config.marker compilation, []⟩ := by
  rw [settlement_eq_settleAlone config.tolerant distinct, settleAlone, stubs_eq_map_declared]
  simp only [objections_tolerant, decide_true, List.filter_true, List.map_nil]
  exact congrArg (Settlement.mk _) (List.flatMap_eq_nil_iff.2 fun _ _ => rfl)

theorem settlement_refusing
    (distinct : ((declarations config.marker compilation).map (·.symbol.qualifiedName)).Nodup) :
    config.refusing.settlement compilation =
      ⟨(stubs config.marker compilation).filter fun stub => stub.clashes = [],
        (declared config.marker compilation).flatMap fun (declaration, stub) =>
          stub.clashes.map (⟨declaration, ·⟩)⟩ := by
  rw [settlement_eq_settleAlone config.refusing distinct, settleAlone, stubs_eq_map_declared]
  simp only [objections_refusing]
  rfl

end GeneratorConfig

/-! ## What is written -/

/-- The artifact that a first pass gives for a stub. -/
def Stub.written (settings : Settings) (stub : Stub) : Artifact :=
  stub.artifact [] (stub.compilationUnit settings).text

theorem Stub.eq_map_of_mapM_emit {settings : Settings} {accepted : List Stub}
    {sources : List String} (emitted : accepted.mapM (·.emit settings) = .ok sources) :
    sources = accepted.map fun stub => (stub.compilationUnit settings).text := by
  have each := forall₂_of_mapM_eq_ok emitted
  clear emitted
  induction each with
  | nil => rfl
  | cons written _ ih => rw [List.map_cons, ← ih, (emit_eq_ok_iff.1 written).2]

namespace Generator

variable {config : GeneratorConfig} {compilation : Compilation}

/-- A first pass that succeeds writes everything: the marker attribute and the accepted stubs. -/
theorem artifacts_of_first {output : Output} (ok : ((new config).run compilation).1 = .ok output) :
    ∃ source, markerSource config.settings config.marker = .ok source ∧
      output.artifacts = ⟨markerFileName config.marker, source, .generated⟩ ::
        (config.settlement compilation).accepted.map (Stub.written config.settings) := by
  obtain ⟨⟨source, sources⟩, written, rfl, -⟩ := run_of_ok (remembers_new config) ok
  obtain ⟨marker, emitted⟩ := GeneratorConfig.sources_eq_ok_iff.1 written
  refine ⟨source, marker, ?_⟩
  obtain rfl := Stub.eq_map_of_mapM_emit emitted
  exact congrArg _ (List.zipWith_map_right.trans List.zipWith_self)

/-- **A generator that refuses clashes leaves out the clashing stubs, and nothing else.** Where the
declared classes have different names, and a first pass that tolerates clashes succeeds, that pass
refuses nothing, and a first pass that refuses clashes succeeds as well. The first one gives an
artifact for each declaration in order, behind the marker attribute; the second one gives the same
artifacts for those declarations whose stubs have no clashes, and the clashes of all others. -/
theorem refusing_of_tolerant (config : GeneratorConfig) (compilation : Compilation)
    (distinct : ((declarations config.marker compilation).map (·.symbol.qualifiedName)).Nodup)
    {tolerated : Output} (ok : ((new config.tolerant).run compilation).1 = .ok tolerated) :
    ∃ (marker : Artifact) (written : Stub → Artifact) (output : Output),
      ((new config.refusing).run compilation).1 = .ok output ∧
      marker.fileName = markerFileName config.marker ∧
      (∀ stub ∈ stubs config.marker compilation, (written stub).fileName = stub.fileName ∧
        stub.emit config.settings = .ok (written stub).source) ∧
      tolerated.artifacts = marker :: (stubs config.marker compilation).map written ∧
      tolerated.diagnostics = [] ∧
      output.artifacts = marker ::
        ((stubs config.marker compilation).filter fun stub => stub.clashes = []).map written ∧
      output.diagnostics = ((declarations config.marker compilation).flatMap fun declaration =>
        (Stub.ofDeclaration compilation declaration).clashes.map
          (⟨declaration.symbol.qualifiedName, ·⟩)) ∧
      ∀ declaration ∈ declarations config.marker compilation,
        (Stub.ofDeclaration compilation declaration).clashes ≠ [] →
        ∃ diagnostic ∈ output.diagnostics,
          diagnostic.declaration = declaration.symbol.qualifiedName := by
  have tolerates := GeneratorConfig.settlement_tolerant distinct
  have refuses := GeneratorConfig.settlement_refusing distinct
  -- what can be written for all stubs can be written for those that are left
  obtain ⟨source, checked⟩ := (exists_output_iff (remembers_new config.tolerant)).1 ⟨_, ok⟩
  change ∀ stub ∈ (config.tolerant.settlement compilation).accepted, _ at checked
  rw [tolerates] at checked
  obtain ⟨output, ok'⟩ : ∃ output, ((new config.refusing).run compilation).1 = .ok output := by
    refine (exists_output_iff (remembers_new config.refusing)).2 ⟨source, ?_⟩
    change ∀ stub ∈ (config.refusing.settlement compilation).accepted, _
    rw [refuses]
    exact fun stub mem => checked stub (List.mem_of_mem_filter mem)
  obtain ⟨marker, written, artifacts⟩ := artifacts_of_first ok
  obtain ⟨marker', written', artifacts'⟩ := artifacts_of_first ok'
  obtain rfl : marker = marker' := Except.ok.inj (written.symm.trans written')
  have refused := diagnostics_of_ok (remembers_new config.refusing) ok'
  change _ = (config.refusing.settlement compilation).diagnostics at refused
  rw [refuses, declared, List.flatMap_map] at refused
  refine ⟨⟨markerFileName config.marker, marker, .generated⟩, Stub.written config.settings, output,
    ok', rfl, ?_, ?_, ?_, ?_, refused, ?_⟩
  · exact fun stub mem => ⟨rfl, Stub.emit_eq_ok_iff.2 ⟨checked stub mem, rfl⟩⟩
  · rw [artifacts, tolerates]
    rfl
  · rw [diagnostics_of_ok (remembers_new config.tolerant) ok]
    exact congrArg Settlement.diagnostics tolerates
  · rw [artifacts', refuses]
    rfl
  · intro declaration mem clashing
    obtain ⟨clash, first⟩ := List.exists_mem_of_ne_nil _ clashing
    refine ⟨⟨declaration.symbol.qualifiedName, clash⟩, ?_, rfl⟩
    rw [refused]
    exact List.mem_flatMap.2 ⟨declaration, mem, List.mem_map_of_mem first⟩

/-- A class with the same calls in both directions, its interface, and a class without calls. -/
def mixed : Compilation := ⟨crowded.types.take 3⟩

theorem declarations_mixed : declarations ({} : GeneratorConfig).marker mixed =
    [echo, ⟨markedClass ({} : GeneratorConfig).marker "Client",
      ⟨({} : GeneratorConfig).marker, []⟩⟩] := rfl

theorem stubs_mixed :
    TypedHub.stubs ({} : GeneratorConfig).marker mixed = [echoing, .bare "Client"] := by
  have stub : Stub.ofDeclaration mixed echo = echoing := ofDeclaration_echo (by cbv)
  rw [TypedHub.stubs, declarations_mixed, List.map_cons, List.map_singleton, stub,
    ofDeclaration_markedClass]

theorem refusing_of_tolerant_mixed :
    ∃ tolerated output, ((new ({} : GeneratorConfig).tolerant).run mixed).1 = .ok tolerated ∧
      ((new ({} : GeneratorConfig).refusing).run mixed).1 = .ok output ∧
      tolerated.artifacts.tail.map (·.fileName) = ["Echo.g.cs", "Client.g.cs"] ∧
      output.artifacts.tail.map (·.fileName) = ["Client.g.cs"] ∧
      tolerated.diagnostics = [] ∧
      ∃ diagnostic ∈ output.diagnostics, diagnostic.declaration = "Echo" := by
  have distinct : ((declarations ({} : GeneratorConfig).marker mixed).map
      (·.symbol.qualifiedName)).Nodup := by
    rw [declarations_mixed]
    decide
  have accepted : (({} : GeneratorConfig).tolerant.settlement mixed).accepted =
      [echoing, .bare "Client"] :=
    (congrArg Settlement.accepted (GeneratorConfig.settlement_tolerant distinct)).trans stubs_mixed
  obtain ⟨tolerated, ok⟩ : ∃ output,
      ((new ({} : GeneratorConfig).tolerant).run mixed).1 = .ok output := by
    refine (exists_output_iff (remembers_new _)).2 ⟨exists_markerSource, ?_⟩
    change ∀ stub ∈ (({} : GeneratorConfig).tolerant.settlement mixed).accepted, _
    rw [accepted]
    decide +kernel
  obtain ⟨marker, written, output, ok', -, named, all, silent, left, -, reported⟩ :=
    refusing_of_tolerant {} mixed distinct ok
  rw [stubs_mixed] at all left named
  have clean : [echoing, .bare "Client"].filter (fun stub => stub.clashes = []) =
      [.bare "Client"] := by decide +kernel
  have client := (named (.bare "Client") (by simp)).1
  rw [clean] at left
  refine ⟨tolerated, output, ok, ok', ?_, ?_, silent, ?_⟩
  · rw [all, List.tail_cons, List.map_cons, List.map_singleton, List.map_cons, List.map_singleton,
      (named echoing (by simp)).1, client]
    decide +kernel
  · rw [left, List.tail_cons, List.map_singleton, List.map_singleton, client]
    decide +kernel
  · refine reported echo (declarations_mixed ▸ List.mem_cons_self) ?_
    have stub : Stub.ofDeclaration mixed echo = echoing := (List.cons.inj stubs_mixed).1
    rw [stub]
    decide +kernel

end Generator

end TypedHub
