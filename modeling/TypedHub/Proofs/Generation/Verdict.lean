import TypedHub.Proofs.Generation.Success

/-!
# What becomes of each declaration

`GeneratorConfig.settle` threads the file names that are taken through the declarations, and only
accepted ones take a name. Here its result is said for each declaration on its own: a file name is
taken if and only if a clean stub before it has that name, whether or not that stub was accepted. So
what becomes of a declaration is decided by its stub and the stubs before it.
-/

namespace TypedHub

open CSharp (NameError)
open Metadata (Compilation)

namespace GeneratorConfig

/-- Nothing speaks against the stub by itself: its names do not clash, or nobody looks at them. -/
def IsClean (config : GeneratorConfig) (stub : Stub) : Prop :=
  config.refusesClashes = true → stub.clashes = []

/-- A clean one of the earlier stubs has the file name. -/
def IsTaken (config : GeneratorConfig) (earlier : List Stub) (fileName : String) : Prop :=
  ∃ other ∈ earlier, config.IsClean other ∧ other.fileName = fileName

end GeneratorConfig

/-- What a pass gives for one declaration. -/
structure Verdict where
  artifact? : Option Artifact
  diagnostics : List Diagnostic

/-- The verdict is the right one for a declaration with the given stub that comes after the earlier
stubs. -/
structure Verdict.Settles (config : GeneratorConfig) (earlier : List Stub) (declaration : String)
    (stub : Stub) (verdict : Verdict) : Prop where
  /-- There is an artifact if the stub is clean and its file name is free. -/
  isSome_iff : verdict.artifact?.isSome = true ↔
    config.IsClean stub ∧ ¬config.IsTaken earlier stub.fileName
  /-- The artifact is what is written for the stub. -/
  written : ∀ artifact ∈ verdict.artifact?,
    artifact.fileName = stub.fileName ∧ stub.emit config.settings = .ok artifact.source
  /-- A taken file name is reported, and nothing else. -/
  taken : config.IsTaken earlier stub.fileName →
    verdict.diagnostics = [⟨declaration, .duplicateFile stub.fileName⟩]
  /-- If the file name is free, the clashes are reported, each of them and in their order. -/
  clashing : ¬config.IsTaken earlier stub.fileName → ¬config.IsClean stub →
    verdict.diagnostics = stub.clashes.map (⟨declaration, ·⟩)
  /-- Nothing is reported where there is an artifact. -/
  silent : verdict.artifact?.isSome = true → verdict.diagnostics = []

/-- Each declaration has a verdict that settles it after the stubs before it. -/
def Verdict.SettleAll (config : GeneratorConfig) (earlier : List Stub)
    (declared : List (String × Stub)) (verdicts : List Verdict) : Prop :=
  verdicts.length = declared.length ∧
    ∀ i declaration stub, declared[i]? = some (declaration, stub) →
      ∃ verdict : Verdict, verdicts[i]? = some verdict ∧
        verdict.Settles config (earlier ++ (declared.take i).map Prod.snd) declaration stub

namespace GeneratorConfig

variable {config : GeneratorConfig} {taken : List String} {earlier : List Stub} {stub : Stub}
  {declaration : String} {rest : List (String × Stub)}

/-! ## Taken file names -/

theorem isTaken_concat {fileName : String} :
    config.IsTaken (earlier ++ [stub]) fileName ↔
      config.IsTaken earlier fileName ∨ config.IsClean stub ∧ stub.fileName = fileName := by
  simp only [IsTaken, List.mem_append, List.mem_singleton, or_and_right, exists_or,
    exists_eq_left]

/-- The taken file names are those of the clean ones of the earlier stubs. -/
def Tracks (config : GeneratorConfig) (taken : List String) (earlier : List Stub) : Prop :=
  ∀ fileName, fileName ∈ taken ↔ config.IsTaken earlier fileName

theorem tracks_nil : config.Tracks [] [] := by
  simp [Tracks, IsTaken]

/-- An accepted stub takes its file name. -/
theorem Tracks.accept (h : config.Tracks taken earlier)
    (objections : config.objections taken stub = []) :
    config.Tracks (stub.fileName :: taken) (earlier ++ [stub]) := by
  have clean := (objections_eq_nil_iff.1 objections).2
  intro fileName
  rw [isTaken_concat, List.mem_cons, h fileName]
  constructor
  · rintro (rfl | before)
    · exact .inr ⟨clean, rfl⟩
    · exact .inl before
  · rintro (before | ⟨-, rfl⟩)
    · exact .inr before
    · exact .inl rfl

/-- A refused stub is not clean, or its file name was taken before. -/
theorem Tracks.refuse (h : config.Tracks taken earlier)
    (objections : config.objections taken stub ≠ []) :
    config.Tracks taken (earlier ++ [stub]) := by
  intro fileName
  rw [isTaken_concat, h fileName, iff_self_or]
  rintro ⟨clean, rfl⟩
  by_contra free
  exact objections (objections_eq_nil_iff.2 ⟨fun mem => free ((h _).1 mem), clean⟩)

/-! ## One declaration -/

theorem diagnostics_settle_cons_accepted (h : config.objections taken stub = []) :
    (config.settle taken ((declaration, stub) :: rest)).diagnostics =
      (config.settle (stub.fileName :: taken) rest).diagnostics := by
  rw [settle, h]

theorem diagnostics_settle_cons_refused (h : config.objections taken stub ≠ []) :
    (config.settle taken ((declaration, stub) :: rest)).diagnostics =
      (config.objections taken stub).map (⟨declaration, ·⟩) ++
        (config.settle taken rest).diagnostics := by
  rw [settle]
  split
  · next none => exact absurd none h
  · rfl

theorem settles_accepted (h : config.Tracks taken earlier)
    (objections : config.objections taken stub = []) {artifact : Artifact}
    (written : artifact.fileName = stub.fileName ∧
      stub.emit config.settings = .ok artifact.source) :
    Verdict.Settles config earlier declaration stub ⟨some artifact, []⟩ := by
  obtain ⟨free, clean⟩ : _ ∧ config.IsClean stub := objections_eq_nil_iff.1 objections
  rw [h] at free
  exact {
    isSome_iff := by simp [clean, free]
    written := by rintro _ ⟨⟩; exact written
    taken := fun isTaken => absurd isTaken free
    clashing := fun _ unclean => absurd clean unclean
    silent := fun _ => rfl }

theorem settles_refused (h : config.Tracks taken earlier)
    (objections : config.objections taken stub ≠ []) :
    Verdict.Settles config earlier declaration stub
      ⟨none, (config.objections taken stub).map (⟨declaration, ·⟩)⟩ where
  isSome_iff := by
    rw [← h, ← and_comm (a := stub.fileName ∉ taken), IsClean, ← objections_eq_nil_iff]
    simp [objections]
  written := by simp
  taken isTaken := by
    rw [← h] at isTaken
    simp [GeneratorConfig.objections, isTaken]
  clashing free unclean := by
    rw [← h] at free
    have looks : config.refusesClashes = true := by
      by_contra blind
      exact unclean fun looks => absurd looks blind
    simp [GeneratorConfig.objections, free, looks]
  silent := by simp

/-! ## All declarations -/

theorem settleAll_nil : Verdict.SettleAll config earlier [] [] := by
  simp [Verdict.SettleAll]

theorem settleAll_cons {verdict : Verdict} {verdicts : List Verdict}
    (first : verdict.Settles config earlier declaration stub)
    (others : Verdict.SettleAll config (earlier ++ [stub]) rest verdicts) :
    Verdict.SettleAll config earlier ((declaration, stub) :: rest) (verdict :: verdicts) := by
  refine ⟨by simp [others.1], fun i name other found => ?_⟩
  cases i with
  | zero =>
    cases found
    exact ⟨verdict, rfl, by simpa using first⟩
  | succ i =>
    obtain ⟨later, there, settles⟩ := others.2 i name other found
    exact ⟨later, there, by simpa using settles⟩

/-- The settlement of declarations that come after the earlier stubs is made of a verdict on each of
them. The induction is on the declarations, and the taken file names go along with the stubs that
have been passed. -/
theorem exists_verdicts {declared : List (String × Stub)} {artifacts : List Artifact}
    (tracks : config.Tracks taken earlier)
    (written : List.Forall₂
      (fun stub artifact =>
        artifact.fileName = stub.fileName ∧ stub.emit config.settings = .ok artifact.source)
      (config.settle taken declared).accepted artifacts) :
    ∃ verdicts, Verdict.SettleAll config earlier declared verdicts ∧
      artifacts = verdicts.filterMap (·.artifact?) ∧
      (config.settle taken declared).diagnostics = verdicts.flatMap (·.diagnostics) := by
  induction declared generalizing taken earlier artifacts with
  | nil =>
    cases written
    exact ⟨[], settleAll_nil, rfl, rfl⟩
  | cons head rest ih =>
    obtain ⟨declaration, stub⟩ := head
    by_cases objections : config.objections taken stub = []
    · rw [settle_cons_accepted objections] at written
      obtain _ | ⟨first, others⟩ := written
      obtain ⟨verdicts, settle, rfl, diagnostics⟩ := ih (tracks.accept objections) others
      refine ⟨_, settleAll_cons (settles_accepted tracks objections first) settle, rfl, ?_⟩
      rw [diagnostics_settle_cons_accepted objections, diagnostics]
      rfl
    · rw [settle_cons_refused objections] at written
      obtain ⟨verdicts, settle, rfl, diagnostics⟩ := ih (tracks.refuse objections) written
      refine ⟨_, settleAll_cons (settles_refused tracks objections) settle, rfl, ?_⟩
      rw [diagnostics_settle_cons_refused objections, diagnostics]
      rfl

end GeneratorConfig

/-- The settlement is about the stubs of the declarations, each with the name of its class. -/
theorem settlement_eq (config : GeneratorConfig) (compilation : Compilation) :
    config.settlement compilation =
      config.settle [] (((declarations config.marker compilation).map
        (·.symbol.qualifiedName)).zip (stubs config.marker compilation)) := by
  rw [GeneratorConfig.settlement, stubs, List.zip_map']

namespace Generator

variable {generator : Generator} {stubs : List Stub} {compilation : Compilation}

/-- Each artifact behind the marker attribute is what is written for its stub, whether or not it was
kept. -/
theorem written_of_ok (h : generator.Remembers stubs) {output : Output}
    (ok : (generator.run compilation).1 = .ok output) :
    List.Forall₂
      (fun stub artifact =>
        artifact.fileName = stub.fileName ∧
          stub.emit generator.config.settings = .ok artifact.source)
      (generator.config.settlement compilation).accepted output.artifacts.tail := by
  obtain ⟨sources, written, rfl, -⟩ := run_of_ok h ok
  have emitted := forall₂_of_mapM_eq_ok (GeneratorConfig.sources_eq_ok_iff.1 written).2
  show List.Forall₂ _ _ (List.zipWith (Stub.artifact stubs) _ sources.2)
  generalize (generator.config.settlement compilation).accepted = accepted,
    sources.2 = texts at emitted
  induction emitted with
  | nil => exact .nil
  | cons text _ ih => exact .cons ⟨rfl, text⟩ ih

theorem exists_stub_of_mem_tail (h : generator.Remembers stubs) {output : Output}
    (ok : (generator.run compilation).1 = .ok output) {artifact : Artifact}
    (mem : artifact ∈ output.artifacts.tail) :
    ∃ stub ∈ (generator.config.settlement compilation).accepted,
      artifact.fileName = stub.fileName ∧
        stub.emit generator.config.settings = .ok artifact.source := by
  have written := written_of_ok h ok
  generalize (generator.config.settlement compilation).accepted = accepted,
    output.artifacts.tail = artifacts at written mem
  induction written with
  | nil => exact absurd mem List.not_mem_nil
  | @cons stub _ others _ first _ ih =>
    obtain rfl | mem := List.mem_cons.1 mem
    · exact ⟨stub, List.mem_cons_self, first⟩
    · obtain ⟨other, among, found⟩ := ih mem
      exact ⟨other, List.mem_cons_of_mem _ among, found⟩

theorem contents_behind_marker (h : generator.Remembers stubs) {output : Output}
    (ok : (generator.run compilation).1 = .ok output) :
    (output.artifacts.tail.map (·.content)).map (Prod.map id .ok) =
      (generator.config.settlement compilation).accepted.map fun stub =>
        (stub.fileName, stub.emit generator.config.settings) := by
  have written := written_of_ok h ok
  generalize (generator.config.settlement compilation).accepted = accepted,
    output.artifacts.tail = artifacts at written
  induction written with
  | nil => rfl
  | cons first _ ih => rw [List.map_cons, List.map_cons, List.map_cons, ih, ← first.1, first.2]; rfl

theorem fileNames_behind_marker (h : generator.Remembers stubs) {output : Output}
    (ok : (generator.run compilation).1 = .ok output) :
    output.artifacts.tail.map (·.fileName) =
      (generator.config.settlement compilation).accepted.map (·.fileName) := by
  have contents := congrArg (List.map Prod.fst) (contents_behind_marker h ok)
  rwa [List.map_map, List.map_map, List.map_map] at contents

theorem diagnostics_of_ok (h : generator.Remembers stubs) {output : Output}
    (ok : (generator.run compilation).1 = .ok output) :
    output.diagnostics = (generator.config.settlement compilation).diagnostics := by
  obtain ⟨sources, -, rfl, -⟩ := run_of_ok h ok
  rfl

/-- The first artifact is the marker attribute. -/
theorem artifacts_eq_cons_of_ok (h : generator.Remembers stubs) {output : Output}
    (ok : (generator.run compilation).1 = .ok output) :
    ∃ marker : Artifact, marker.fileName = markerFileName generator.config.marker ∧
      markerSource generator.config.settings generator.config.marker = .ok marker.source ∧
      output.artifacts = marker :: output.artifacts.tail := by
  obtain ⟨sources, written, rfl, -⟩ := run_of_ok h ok
  exact ⟨_, rfl, (GeneratorConfig.sources_eq_ok_iff.1 written).1, rfl⟩

/-- **Each declaration is settled once, by its own stub and the stubs before it.** A pass that
succeeds gives the marker attribute, and then a verdict on each declaration in their order: an
artifact if the stub is clean and no clean stub before it has its file name, and otherwise the
reasons against it. The artifacts and the diagnostics of the verdicts are all that it gives. -/
theorem declarations_settled (config : GeneratorConfig) (passes : List Compilation)
    (compilation : Compilation) {output : Output}
    (ok : (((new config).after passes).run compilation).1 = .ok output) :
    ∃ (marker : Artifact) (verdicts : List Verdict),
      marker.fileName = markerFileName config.marker ∧
      output.artifacts = marker :: verdicts.filterMap (·.artifact?) ∧
      output.diagnostics = verdicts.flatMap (·.diagnostics) ∧
      Verdict.SettleAll config []
        (((declarations config.marker compilation).map (·.symbol.qualifiedName)).zip
          (TypedHub.stubs config.marker compilation)) verdicts := by
  have remembers := remembers_lastAccepted config passes
  have same : ((new config).after passes).config = config :=
    config_after (remembers_new config) passes
  obtain ⟨marker, named, -, artifacts⟩ := artifacts_eq_cons_of_ok remembers ok
  have written := written_of_ok remembers ok
  have refused := diagnostics_of_ok remembers ok
  rw [same] at named written refused
  rw [settlement_eq] at written refused
  obtain ⟨verdicts, settle, tail, diagnostics⟩ :=
    GeneratorConfig.exists_verdicts GeneratorConfig.tracks_nil written
  rw [tail] at artifacts
  rw [diagnostics] at refused
  exact ⟨marker, verdicts, named, artifacts, refused, settle⟩

/-- A class with the same calls in both directions. -/
def echo : Declaration where
  symbol :=
    { markedClass ({} : GeneratorConfig).marker "Echo" with
      attributes := [⟨({} : GeneratorConfig).marker,
        [("Incoming", .string "IEcho"), ("Outgoing", .string "IEcho")]⟩] }
  marker := ⟨({} : GeneratorConfig).marker,
    [("Incoming", .string "IEcho"), ("Outgoing", .string "IEcho")]⟩

/-- That class with its interface, and two classes of one name. -/
def crowded : Compilation where
  types :=
    [ echo.symbol,
      { kind := .interfaceType, name := "IEcho", containingNamespace := "",
        accessibility := .isPublic, bases := [], methods := [⟨"Say", true, none, []⟩],
        attributes := [] },
      markedClass ({} : GeneratorConfig).marker "Client",
      markedClass ({} : GeneratorConfig).marker "Client" ]

/-- The stub of the first class. -/
def echoing : Stub :=
  let contract : Contract := ⟨"IEcho", [⟨"Say", .nothing, []⟩]⟩
  ⟨"Echo", "", .isPublic, [contract], [contract]⟩

theorem ofDeclaration_echo {compilation : Compilation}
    (reached : Contract.reachable compilation ["IEcho"] = echoing.incoming) :
    Stub.ofDeclaration compilation echo = echoing := by
  have roots : ∀ role, echo.roots role = ["IEcho"] := by rintro (_ | _) <;> rfl
  simp only [Stub.ofDeclaration, roots, reached]
  rfl

theorem declared_crowded :
    (((declarations ({} : GeneratorConfig).marker crowded).map (·.symbol.qualifiedName)).zip
      (TypedHub.stubs ({} : GeneratorConfig).marker crowded)) =
    [("Echo", echoing), ("Client", .bare "Client"), ("Client", .bare "Client")] := by
  have found : declarations ({} : GeneratorConfig).marker crowded =
      [echo, ⟨markedClass _ "Client", ⟨_, []⟩⟩, ⟨markedClass _ "Client", ⟨_, []⟩⟩] := rfl
  have stub : Stub.ofDeclaration crowded echo = echoing := ofDeclaration_echo (by cbv)
  rw [TypedHub.stubs, found]
  simp only [List.map_cons, List.map_nil, stub, ofDeclaration_markedClass]
  rfl

theorem declarations_settled_crowded :
    ∃ output, ((new {}).run crowded).1 = .ok output ∧
      output.artifacts.map (·.fileName) = ["GenerateHubClientAttribute.g.cs", "Client.g.cs"] ∧
      output.diagnostics =
        [⟨"Echo", .bothRoles "Say"⟩, ⟨"Client", .duplicateFile "Client.g.cs"⟩] := by
  obtain ⟨output, ok⟩ : ∃ output, ((new {}).run crowded).1 = .ok output :=
    exists_output_of_accepted (by rw [settlement_eq, declared_crowded]; decide +kernel)
  obtain ⟨marker, verdicts, named, artifacts, diagnostics, length, settles⟩ :=
    declarations_settled {} [] crowded ok
  rw [declared_crowded] at length settles
  obtain ⟨first, second, third, rfl⟩ := List.length_eq_three.1 length
  obtain ⟨_, ⟨⟩, echo⟩ := settles 0 _ _ rfl
  obtain ⟨_, ⟨⟩, client⟩ := settles 1 _ _ rfl
  obtain ⟨_, ⟨⟩, again⟩ := settles 2 _ _ rfl
  have unclean : ¬({} : GeneratorConfig).IsClean echoing := by
    unfold GeneratorConfig.IsClean
    decide +kernel
  have clean : ({} : GeneratorConfig).IsClean (.bare "Client") := by
    unfold GeneratorConfig.IsClean
    decide +kernel
  have free : ¬({} : GeneratorConfig).IsTaken [] echoing.fileName := by
    simp [GeneratorConfig.IsTaken]
  have freeForClient : ¬({} : GeneratorConfig).IsTaken [echoing] (Stub.bare "Client").fileName := by
    rintro ⟨_, mem, h, -⟩
    exact unclean (List.mem_singleton.1 mem ▸ h)
  have taken : ({} : GeneratorConfig).IsTaken [echoing, .bare "Client"]
      (Stub.bare "Client").fileName := ⟨.bare "Client", by simp, clean, rfl⟩
  have refused : first.artifact? = none := by simpa [unclean] using echo.isSome_iff
  have refusedAgain : third.artifact? = none := by simpa [taken] using again.isSome_iff
  obtain ⟨artifact, accepted⟩ :=
    Option.isSome_iff_exists.1 (client.isSome_iff.2 ⟨clean, freeForClient⟩)
  refine ⟨output, ok, ?_, ?_⟩
  · simp only [artifacts, List.filterMap_cons, List.filterMap_nil, refused, refusedAgain, accepted,
      List.map_cons, List.map_nil, named, (client.written artifact accepted).1]
    decide
  · simp only [diagnostics, List.flatMap_cons, List.flatMap_nil, echo.clashing free unclean,
      client.silent (by simp [accepted]), again.taken taken]
    decide +kernel

end Generator

end TypedHub
