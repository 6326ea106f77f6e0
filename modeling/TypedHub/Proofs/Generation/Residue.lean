import TypedHub.Proofs.Generation.Success

/-!
# What a failed pass leaves behind

A pass that fails does not touch the cache, but it may have learnt the source of the marker
attribute. So the passes after it give the same as if it had not taken place, except that the next
one finds the marker attribute where it would have written it. That can be seen only if the failed
pass was the first of its generator and the next one succeeds.
-/

namespace TypedHub

open CSharp (NameError)
open Metadata (Compilation)

/-- The output with the marker attribute, which comes first, as one that was kept. -/
def Output.withKeptMarker (output : Output) : Output :=
  { output with artifacts := output.artifacts.modifyHead ({ · with status := .cached }) }

namespace Generator

/-- What passes over the compilations give, one after the other. -/
def outputs (generator : Generator) : List Compilation → List (Except NameError Output)
  | [] => []
  | compilation :: rest =>
    (generator.run compilation).1 :: (generator.run compilation).2.outputs rest

variable {generator : Generator} {stubs : List Stub} {compilation : Compilation}

/-! ## The marker attribute in one pass -/

/-- If the marker attribute cannot be written, no pass succeeds or changes the generator. -/
theorem run_of_unwritable (h : generator.Remembers stubs) {e : NameError}
    (unwritable : markerSource generator.config.settings generator.config.marker = .error e)
    (compilation : Compilation) : generator.run compilation = (.error e, generator) := by
  unfold run
  rw [markerArtifact_eq h, unwritable]
  rfl

/-- To know the marker attribute from before makes no difference to a pass but for its status. -/
theorem run_withMarker (h : generator.Remembers stubs) {source : String}
    (written : markerSource generator.config.settings generator.config.marker = .ok source)
    (compilation : Compilation) :
    { generator with marker := some source : Generator }.run compilation =
      ((generator.run compilation).1.map Output.withKeptMarker, (generator.run compilation).2) := by
  unfold run
  rw [markerArtifact_eq (h.withMarker written), markerArtifact_eq h, written]
  simp only [Except.map, Option.isSome_some, if_true]
  -- Both generators go on as the same one, so the stubs make no difference.
  cases (generator.config.settlement compilation).accepted.mapM
    { generator with marker := some source : Generator }.artifact with
  | error e => rfl
  | ok artifacts => rfl

/-- An output in which the marker attribute was kept anyway. -/
theorem withKeptMarker_of_isSome (h : generator.Remembers stubs)
    (known : generator.marker.isSome = true) {output : Output}
    (ok : (generator.run compilation).1 = .ok output) : output.withKeptMarker = output := by
  obtain ⟨sources, -, rfl, -⟩ := run_of_ok h ok
  simp [Output.withKeptMarker, GeneratorConfig.output, known]

/-- An output in which the marker attribute was written. -/
theorem withKeptMarker_ne_of_isNone (h : generator.Remembers stubs)
    (unknown : generator.marker.isSome = false) {output : Output}
    (ok : (generator.run compilation).1 = .ok output) : output.withKeptMarker ≠ output := by
  obtain ⟨sources, -, rfl, -⟩ := run_of_ok h ok
  simp [Output.withKeptMarker, GeneratorConfig.output, unknown]

/-- A pass that fails at a stub leaves the generator with the marker attribute known, and otherwise
as it was. -/
theorem run_of_error_of_writable (h : generator.Remembers stubs) {source : String}
    (written : markerSource generator.config.settings generator.config.marker = .ok source)
    {e : NameError} (error : (generator.run compilation).1 = .error e) :
    (generator.run compilation).2 = { generator with marker := some source } := by
  unfold run at error ⊢
  rw [markerArtifact_eq h, written] at error ⊢
  simp only [Except.map] at error ⊢
  split at error
  · rfl
  · cases error

/-! ## The marker attribute in many passes -/

/-- After a pass the marker attribute is known if it can be written at all. -/
theorem marker_run (h : generator.Remembers stubs) (compilation : Compilation) :
    (generator.run compilation).2.marker =
      (markerSource generator.config.settings generator.config.marker).toOption := by
  cases written : markerSource generator.config.settings generator.config.marker with
  | error e =>
    rw [run_of_unwritable h written]
    cases known : generator.marker with
    | none => rfl
    | some source => exact nomatch (h.marker source known).symm.trans written
  | ok source =>
    cases result : (generator.run compilation).1 with
    | error e => rw [run_of_error_of_writable h written result]; rfl
    | ok output =>
      obtain ⟨sources, both, -, state⟩ := run_of_ok h result
      rw [GeneratorConfig.sources_eq_ok_iff, written, Except.ok.injEq] at both
      rw [state, both.1]
      rfl

/-- A generator knows the marker attribute from its first pass on. -/
theorem marker_after (h : generator.Remembers stubs) (first : Compilation)
    (rest : List Compilation) :
    (generator.after (first :: rest)).marker =
      (markerSource generator.config.settings generator.config.marker).toOption := by
  induction rest generalizing generator stubs first with
  | nil => exact marker_run h first
  | cons second rest ih =>
    rw [after_cons]
    cases result : (generator.run first).1 with
    | error e => rw [ih (run_of_error h result).1, config_run h]
    | ok output => rw [ih (remembers_run_of_ok h result), config_run h]

theorem isOk_run_eq_false (h : generator.Remembers stubs) {e : NameError}
    (unwritable : markerSource generator.config.settings generator.config.marker = .error e)
    (compilation : Compilation) : (generator.run compilation).1.isOk = false := by
  rw [run_of_unwritable h unwritable]
  rfl

/-! ## After a failed pass -/

/-- The passes after one that failed give what they would have given without it, up to the status
of the marker attribute in the first of them. -/
theorem outputs_run_of_error (h : generator.Remembers stubs) {failed : Compilation} {e : NameError}
    (error : (generator.run failed).1 = .error e) (later : List Compilation) :
    (generator.run failed).2.outputs later =
      (generator.outputs later).modifyHead (·.map Output.withKeptMarker) := by
  cases later with
  | nil => rfl
  | cons first rest =>
    cases written : markerSource generator.config.settings generator.config.marker with
    | error e =>
      rw [run_of_unwritable h written, outputs, run_of_unwritable h written]
      rfl
    | ok source =>
      rw [run_of_error_of_writable h written error, outputs, run_withMarker h written]
      rfl

/-- The first of some passes shows whether the marker attribute was known before if and only if it
was not known and the pass succeeds. -/
theorem modifyHead_outputs_eq_iff (h : generator.Remembers stubs) (later : List Compilation) :
    (generator.outputs later).modifyHead (·.map Output.withKeptMarker) = generator.outputs later ↔
      (generator.marker.isSome = false →
        ∀ first ∈ later.head?, (generator.run first).1.isOk = false) := by
  cases later with
  | nil => simp [outputs]
  | cons first rest =>
    simp only [outputs, List.modifyHead_cons, List.cons.injEq, and_true, List.head?_cons,
      Option.mem_some_iff, forall_eq']
    cases result : (generator.run first).1 with
    | error e => simp [Except.map, Except.isOk, Except.toBool]
    | ok output =>
      simp only [Except.map, Except.ok.injEq, Except.isOk, Except.toBool, Bool.true_eq_false,
        imp_false, Bool.not_eq_false]
      cases known : generator.marker.isSome with
      | true => simp [withKeptMarker_of_isSome h known result]
      | false => simp [withKeptMarker_ne_of_isNone h known result]

/-- **A pass that fails shows in later passes at most by the status of the marker attribute.** The
next pass finds the marker attribute kept; beyond that, all later passes give what they would have
given without the failed one, where passes that fail choose the name that they tell alike. This
makes a difference if and only if no pass came before the failed one and the next pass succeeds. -/
theorem outputs_after_error (config : GeneratorConfig) (passes : List Compilation)
    {failed : Compilation} {e : NameError}
    (error : (((new config).after passes).run failed).1 = .error e) (later : List Compilation) :
    let generator := (new config).after passes
    (generator.run failed).2.outputs later =
        (generator.outputs later).modifyHead (·.map Output.withKeptMarker) ∧
      ((generator.run failed).2.outputs later = generator.outputs later ↔
        (passes = [] → ∀ first ∈ later.head?, (generator.run first).1.isOk = false)) := by
  intro generator
  have remembers : generator.Remembers _ := remembers_lastAccepted config passes
  have same := outputs_run_of_error remembers error later
  refine ⟨same, ?_⟩
  rw [same, modifyHead_outputs_eq_iff remembers]
  cases passes with
  | nil => exact ⟨fun h _ => h rfl, fun h _ => h rfl⟩
  | cons first rest =>
    refine ⟨fun _ => nofun, fun _ unknown next _ => ?_⟩
    -- After a pass the marker attribute is unknown only if it cannot be written.
    have known : generator.marker = _ := marker_after (remembers_new config) first rest
    have config : generator.config = _ := config_after (remembers_new config) (first :: rest)
    rw [known, ← config] at unknown
    cases written : markerSource generator.config.settings generator.config.marker with
    | error e => exact isOk_run_eq_false remembers written next
    | ok source =>
      rw [written] at unknown
      cases unknown

/-- The class of a pass that fails: its name is no identifier. -/
def unnamed : Compilation := markedClasses ({} : GeneratorConfig).marker ["2D"]

theorem exists_error_unnamed (h : generator.Remembers stubs) (config : generator.config = {}) :
    ∃ e, (generator.run unnamed).1 = .error e := by
  refine (exists_error_iff h).2 fun ⟨_, names⟩ => ?_
  rw [config, unnamed, GeneratorConfig.settlement_markedClasses] at names
  revert names
  decide +kernel

theorem outputs_after_error_unnamed :
    let generator := (new {}).after [⟨[]⟩]
    let later := [markedClasses ({} : GeneratorConfig).marker ["Client"]]
    ∃ e, (generator.run unnamed).1 = .error e ∧
      (generator.run unnamed).2.outputs later = generator.outputs later := by
  intro generator later
  obtain ⟨e, error⟩ := exists_error_unnamed (remembers_lastAccepted {} [⟨[]⟩])
    (config_after (remembers_new {}) [⟨[]⟩])
  exact ⟨e, error, (outputs_after_error {} [⟨[]⟩] error later).2.2 nofun⟩

/-- A first pass that fails is visible in the next one: the marker attribute is not written but
kept, although no pass has given it before. -/
theorem not_outputs_after_error_first :
    ∃ e, ((new {}).run unnamed).1 = .error e ∧
      ((new {}).run unnamed).2.outputs [⟨[]⟩] ≠ (new {}).outputs [⟨[]⟩] := by
  have remembers := remembers_new {}
  obtain ⟨e, error⟩ := exists_error_unnamed remembers rfl
  refine ⟨e, error, fun same => ?_⟩
  rw [outputs_run_of_error remembers error, modifyHead_outputs_eq_iff remembers] at same
  obtain ⟨output, ok⟩ : ∃ output, ((new {}).run ⟨[]⟩).1 = .ok output :=
    exists_output_of_accepted (by decide)
  have failed := same rfl ⟨[]⟩ rfl
  rw [ok] at failed
  cases failed

end Generator

end TypedHub
