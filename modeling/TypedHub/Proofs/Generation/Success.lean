import TypedHub.Proofs.Generation.History
import TypedHub.Stub.Source

/-!
# When a pass succeeds

A pass succeeds if and only if the names of the marker attribute and of all accepted stubs can be
written, whatever came before it. One that fails tells one of the names that cannot, and which one
is a choice (`GeneratorConfig.FailsWith`). The simplest passes are those over classes without
contracts.
-/

namespace TypedHub

open CSharp (NameError)
open Metadata (Compilation TypeSymbol)

theorem Stub.exists_emit_eq_ok_iff {settings : Settings} {stub : Stub} :
    (∃ source, stub.emit settings = .ok source) ↔ stub.checkNames = .ok () := by
  simp only [emit_eq_ok_iff, exists_and_left, exists_eq, and_true]

namespace Generator

variable {generator : Generator} {stubs : List Stub} {compilation : Compilation}

theorem exists_sources_iff (config : GeneratorConfig) (compilation : Compilation) :
    (∃ sources, config.sources compilation = .ok sources) ↔
      (∃ source, markerSource config.settings config.marker = .ok source) ∧
        ∀ stub ∈ (config.settlement compilation).accepted, stub.checkNames = .ok () := by
  simp only [GeneratorConfig.sources_eq_ok_iff, Prod.exists, exists_and_left, exists_and_right,
    exists_mapM_eq_ok_iff, Stub.exists_emit_eq_ok_iff]

/-- A pass succeeds if and only if all names in it can be written. -/
theorem exists_output_iff (h : generator.Remembers stubs) :
    (∃ output, (generator.run compilation).1 = .ok output) ↔
      (∃ source, markerSource generator.config.settings generator.config.marker = .ok source) ∧
        ∀ stub ∈ (generator.config.settlement compilation).accepted, stub.checkNames = .ok () := by
  rw [← exists_sources_iff]
  obtain ⟨e, failed, run⟩ | ⟨e, marker, failed, -, run⟩ | ⟨sources, written, run⟩ :=
    run_cases h compilation
  · simp [run, failed]
  · simp [run, failed]
  · simp [run, written]

theorem exists_error_iff (h : generator.Remembers stubs) :
    (∃ e, (generator.run compilation).1 = .error e) ↔
      ¬((∃ source, markerSource generator.config.settings generator.config.marker = .ok source) ∧
        ∀ stub ∈ (generator.config.settlement compilation).accepted,
          stub.checkNames = .ok ()) := by
  rw [← exists_output_iff h]
  cases (generator.run compilation).1 <;> simp

end Generator

/-! ## Which name is told -/

/-- The errors that a pass has to choose from: that of the marker attribute, or else those of all
accepted stubs that cannot be written. -/
inductive GeneratorConfig.FailsWith (config : GeneratorConfig) (compilation : Compilation) :
    NameError → Prop
  | marker {e : NameError} (unwritable : markerSource config.settings config.marker = .error e) :
      FailsWith config compilation e
  | stub {source : String} {stub : Stub} {e : NameError}
      (written : markerSource config.settings config.marker = .ok source)
      (accepted : stub ∈ (config.settlement compilation).accepted)
      (unwritable : stub.emit config.settings = .error e) : FailsWith config compilation e

theorem GeneratorConfig.failsWith_of_sources {config : GeneratorConfig} {compilation : Compilation}
    {e : NameError} (failed : config.sources compilation = .error e) :
    config.FailsWith compilation e := by
  obtain unwritable | ⟨source, written, rest⟩ := bind_eq_error_iff.1 failed
  · exact .marker unwritable
  · obtain failed | ⟨sources, -, last⟩ := bind_eq_error_iff.1 rest
    · obtain ⟨stub, accepted, unwritable⟩ := exists_of_mapM_eq_error failed
      exact .stub written accepted unwritable
    · cases last

namespace Generator

variable {generator : Generator} {stubs : List Stub} {compilation : Compilation}

/-- **A pass that fails tells one of the errors that it has to choose from, and if there are any, it
does fail.** So whichever of them is chosen, the same passes fail. -/
theorem error_mem_failsWith (h : generator.Remembers stubs) :
    (∀ e, (generator.run compilation).1 = .error e →
      generator.config.FailsWith compilation e) ∧
    ((∃ e, generator.config.FailsWith compilation e) ↔
      ∃ e, (generator.run compilation).1 = .error e) := by
  have told : ∀ e, (generator.run compilation).1 = .error e →
      generator.config.FailsWith compilation e := by
    intro e error
    obtain ⟨e', failed, run⟩ | ⟨e', marker, failed, -, run⟩ | ⟨sources, -, run⟩ :=
      run_cases h compilation
    · rw [run] at error
      cases error
      exact GeneratorConfig.failsWith_of_sources failed
    · rw [run] at error
      cases error
      exact GeneratorConfig.failsWith_of_sources failed
    · rw [run] at error
      cases error
  refine ⟨told, fun ⟨e, fails⟩ => (exists_error_iff h).2 fun ⟨marker, names⟩ => ?_,
    fun ⟨e, error⟩ => ⟨e, told e error⟩⟩
  cases fails with
  | marker unwritable =>
    obtain ⟨source, written⟩ := marker
    cases written.symm.trans unwritable
  | stub _ accepted unwritable =>
    obtain ⟨source, emitted⟩ := Stub.exists_emit_eq_ok_iff.2 (names _ accepted)
    cases emitted.symm.trans unwritable

end Generator

/-! ## Classes without contracts -/

/-- A class that carries the marker attribute and names no interfaces. -/
def markedClass (marker name : String) : TypeSymbol where
  kind := .classType
  name := name
  containingNamespace := ""
  accessibility := .isPublic
  bases := []
  methods := []
  attributes := [⟨marker, []⟩]

/-- A compilation of such classes. -/
def markedClasses (marker : String) (names : List String) : Compilation :=
  ⟨names.map (markedClass marker)⟩

/-- The stub of a class that names no interfaces. -/
def Stub.bare (name : String) : Stub := ⟨name, "", .isPublic, [], []⟩

theorem Contract.reachable_nil (compilation : Compilation) :
    Contract.reachable compilation [] = [] := by
  rw [Contract.reachable, walk, List.map_nil]

theorem declarations_markedClasses (marker : String) (names : List String) :
    declarations marker (markedClasses marker names) =
      names.map fun name => ⟨markedClass marker name, ⟨marker, []⟩⟩ := by
  induction names with
  | nil => rfl
  | cons name rest ih =>
    simp only [declarations, markedClasses, List.map_cons] at ih ⊢
    rw [List.filterMap_cons, ih]
    simp [Declaration.ofSymbol?, TypeSymbol.attribute?, markedClass]

theorem ofDeclaration_markedClass (compilation : Compilation) (marker name : String) :
    Stub.ofDeclaration compilation ⟨markedClass marker name, ⟨marker, []⟩⟩ = .bare name := by
  have none : ∀ role, Declaration.roots ⟨markedClass marker name, ⟨marker, []⟩⟩ role = [] :=
    fun _ => rfl
  simp only [Stub.ofDeclaration, none, Contract.reachable_nil]
  rfl

/-- A pass over classes without contracts has only their names to settle. -/
theorem GeneratorConfig.settlement_markedClasses (config : GeneratorConfig) (names : List String) :
    config.settlement (markedClasses config.marker names) =
      config.settle [] (names.map fun name => (name, .bare name)) := by
  rw [settlement, declarations_markedClasses, List.map_map]
  simp only [Function.comp_def, ofDeclaration_markedClass]
  rfl

/-- The marker attribute of the usual configuration can be written. -/
theorem exists_markerSource :
    ∃ source, markerSource {} ({} : GeneratorConfig).marker = .ok source :=
  ⟨_, rfl⟩

/-- So a first pass in the usual configuration is decided by the accepted stubs. -/
theorem Generator.exists_output_of_accepted {compilation : Compilation}
    (h : ∀ stub ∈ (({} : GeneratorConfig).settlement compilation).accepted,
      stub.checkNames = .ok ()) :
    ∃ output, ((new {}).run compilation).1 = .ok output :=
  (exists_output_iff (remembers_new {})).2 ⟨exists_markerSource, h⟩

end TypedHub
