import TypedHub.Generation.Cache
import TypedHub.Stub.Clash
import TypedHub.Stub.Declaration
import TypedHub.Stub.Marker

/-!
# Generation passes

A `Generator` turns compilations into source files, one pass after the other. It keeps the sources
of the last successful pass: a stub that is equal to the one that had its file name then is not
written again. Nothing but the status of a file depends on what was kept.

A pass settles the declarations in their order. A declaration is refused with a diagnostic if an
earlier one has taken its file name or if its own names clash; the others are accepted. A name that
cannot be written makes the whole pass fail, and then the kept sources stay as they were.

The accepted stubs may be written in any order, also at the same time. Where several of them have
names that cannot be written, it is left open which one a failing pass tells; here it is that of the
first stub in the order of the declarations. Nothing else depends on this choice.
-/

namespace TypedHub

open CSharp (NameError)
open Metadata (Compilation)

/-- What decides the sources, for the life of a generator. -/
structure GeneratorConfig where
  /-- The qualified name of the marker attribute. -/
  marker : String := "HubStubs.GenerateHubClientAttribute"
  settings : Settings := {}
  /-- Whether stubs with clashing names are refused. -/
  refusesClashes : Bool := true
  deriving DecidableEq

/-- Whether a source was written in this pass or kept from an earlier one. -/
inductive Status where
  | generated
  | cached
  deriving DecidableEq

/-- A source file. -/
structure Artifact where
  fileName : String
  source : String
  status : Status
  deriving DecidableEq

/-- A reason why a declaration was refused. -/
structure Diagnostic where
  /-- The qualified name of the class. -/
  declaration : String
  clash : Clash
  deriving DecidableEq

/-- What a pass gives: the marker attribute and then the accepted declarations as source files, and
the refusals. -/
structure Output where
  artifacts : List Artifact
  diagnostics : List Diagnostic
  deriving DecidableEq

/-- The artifact with the given file name. -/
def Output.artifact? (output : Output) (fileName : String) : Option Artifact :=
  output.artifacts.find? (·.fileName = fileName)

/-! ## Settling declarations -/

/-- What speaks against a stub after the given file names have been taken. -/
def GeneratorConfig.objections (config : GeneratorConfig) (taken : List String) (stub : Stub) :
    List Clash :=
  if stub.fileName ∈ taken then [.duplicateFile stub.fileName]
  else if config.refusesClashes then stub.clashes
  else []

/-- The accepted stubs and the refusals, each in the order of the declarations. -/
structure Settlement where
  accepted : List Stub
  diagnostics : List Diagnostic

/-- Settles declarations, given by the names and stubs of their classes, after the given file names
have been taken. -/
def GeneratorConfig.settle (config : GeneratorConfig) (taken : List String) :
    List (String × Stub) → Settlement
  | [] => ⟨[], []⟩
  | (declaration, stub) :: rest =>
    match config.objections taken stub with
    | [] =>
      let later := config.settle (stub.fileName :: taken) rest
      { later with accepted := stub :: later.accepted }
    | clashes =>
      let later := config.settle taken rest
      { later with diagnostics := clashes.map (⟨declaration, ·⟩) ++ later.diagnostics }

/-- The declarations of a compilation, settled. -/
def GeneratorConfig.settlement (config : GeneratorConfig) (compilation : Compilation) :
    Settlement :=
  config.settle [] <|
    (declarations config.marker compilation).map fun declaration =>
      (declaration.symbol.qualifiedName, .ofDeclaration compilation declaration)

/-! ## Passes -/

/-- Puts the source of an artifact under its stub, unless it was found there. -/
def Cache.record (cache : Cache) (stub : Stub) (artifact : Artifact) : Cache :=
  match artifact.status with
  | .generated => cache.store ⟨artifact.fileName, stub, artifact.source⟩
  | .cached => cache

/-- Records artifacts one after the other. -/
def Cache.recordAll (cache : Cache) (written : List (Stub × Artifact)) : Cache :=
  written.foldl (fun cache (stub, artifact) => cache.record stub artifact) cache

/-- A configuration with what was kept of former passes. -/
structure Generator where
  config : GeneratorConfig
  cache : Cache
  /-- The source of the marker attribute, once it has been written. -/
  marker : Option String

namespace Generator

/-- A generator before its first pass. -/
def new (config : GeneratorConfig) : Generator := ⟨config, .empty, none⟩

/-- The artifact of the marker attribute, and the generator that keeps its source. -/
def markerArtifact (generator : Generator) : Except NameError (Artifact × Generator) :=
  let fileName := markerFileName generator.config.marker
  match generator.marker with
  | some source => .ok (⟨fileName, source, .cached⟩, generator)
  | none => do
    let source ← markerSource generator.config.settings generator.config.marker
    .ok (⟨fileName, source, .generated⟩, { generator with marker := some source })

/-- The artifact of an accepted stub: kept, or else written. -/
def artifact (generator : Generator) (stub : Stub) : Except NameError Artifact :=
  match generator.cache.lookup? stub.fileName stub with
  | some source => .ok ⟨stub.fileName, source, .cached⟩
  | none => do
    let source ← stub.emit generator.config.settings
    .ok ⟨stub.fileName, source, .generated⟩

/-- The cache with the written sources put in and all file names dropped that are not among those of
this pass. -/
def keep (generator : Generator) (written : List (Stub × Artifact)) : Cache :=
  (generator.cache.recordAll written).retain (written.map (·.2.fileName))

/-- One pass over a compilation: its output or a name that cannot be written, and the generator for
the next pass. The marker attribute is kept even by a pass that fails after it. Of several stubs that
cannot be written the first one is told, which is one choice among them. -/
def run (generator : Generator) (compilation : Compilation) : Except NameError Output × Generator :=
  match generator.markerArtifact with
  | .error e => (.error e, generator)
  | .ok (marker, generator) =>
    -- From here on the generator keeps the marker attribute, whatever becomes of the stubs.
    let settlement := generator.config.settlement compilation
    match settlement.accepted.mapM generator.artifact with
    | .error e => (.error e, generator)
    | .ok artifacts =>
      (.ok ⟨marker :: artifacts, settlement.diagnostics⟩,
        { generator with cache := generator.keep (settlement.accepted.zip artifacts) })

end Generator

end TypedHub
