import TypedHub.Proofs.CommandLine.Generating
import TypedHub.Proofs.Generation.Order
import TypedHub.Proofs.Metadata.Rereading

/-!
# The number of refusals that is told

A `generate` whose pass has refused declarations does all its work and then fails with a message
that tells a number. It is the number of reasons, of which there may be several against one
declaration. So it is the number of declarations without an artifact if and only if no declaration
is refused for more than one clash (`refusals_counted`).
-/

namespace TypedHub

open Metadata (Compilation)

/-! ## Reasons and refusals -/

section Counting

variable {α β : Type} {list : List α} {reasons : α → List β} {refused : α → Bool}

theorem countP_le_length_flatMap (given : ∀ a ∈ list, refused a = true → reasons a ≠ []) :
    list.countP refused ≤ (list.flatMap reasons).length := by
  induction list with
  | nil => exact Nat.le_refl 0
  | cons a rest ih =>
    rw [List.forall_mem_cons] at given
    have others := ih given.2
    rw [List.flatMap_cons, List.length_append, List.countP_cons]
    split
    · next h =>
      have first := List.length_pos_iff.2 (given.1 h)
      omega
    · omega

/-- There are as many reasons as there are refusals if and only if each refusal has one. -/
theorem length_flatMap_eq_countP_iff (spared : ∀ a ∈ list, refused a = false → reasons a = [])
    (given : ∀ a ∈ list, refused a = true → reasons a ≠ []) :
    (list.flatMap reasons).length = list.countP refused ↔
      ∀ a ∈ list, refused a = true → (reasons a).length = 1 := by
  induction list with
  | nil => simp
  | cons a rest ih =>
    rw [List.forall_mem_cons] at spared given
    rw [List.flatMap_cons, List.length_append, List.countP_cons, List.forall_mem_cons,
      ← ih spared.2 given.2]
    -- the rest never has fewer reasons than refusals, so one too many here is not made up for
    have others := countP_le_length_flatMap given.2
    cases h : refused a with
    | false => simp [spared.1 h]
    | true =>
      have first := List.length_pos_iff.2 (given.1 h)
      simp only [if_true, true_implies]
      omega

end Counting

namespace Verdict

variable {config : GeneratorConfig} {earlier : List Stub} {declaration : String} {stub : Stub}
  {verdict : Verdict}

/-- The declaration has got no artifact. -/
def isRefused (verdict : Verdict) : Bool := verdict.artifact?.isNone

namespace Settles

theorem diagnostics_eq_nil (settles : verdict.Settles config earlier declaration stub)
    (accepted : verdict.isRefused = false) : verdict.diagnostics = [] :=
  settles.silent (by rwa [isRefused, Option.isNone_eq_false_iff] at accepted)

theorem isRefused_iff (settles : verdict.Settles config earlier declaration stub) :
    verdict.isRefused = true ↔
      config.IsTaken earlier stub.fileName ∨ ¬config.IsClean stub := by
  rw [isRefused, Option.isNone_iff_eq_none, ← Option.not_isSome_iff_eq_none, settles.isSome_iff]
  tauto

/-- The number of reasons against a refused declaration. -/
theorem length_diagnostics (settles : verdict.Settles config earlier declaration stub)
    (refused : verdict.isRefused = true) :
    config.IsTaken earlier stub.fileName ∧ verdict.diagnostics.length = 1 ∨
      ¬config.IsTaken earlier stub.fileName ∧ ¬config.IsClean stub ∧
        verdict.diagnostics.length = stub.clashes.length := by
  by_cases taken : config.IsTaken earlier stub.fileName
  · exact .inl ⟨taken, by rw [settles.taken taken]; rfl⟩
  · have unclean := (settles.isRefused_iff.1 refused).resolve_left taken
    exact .inr ⟨taken, unclean, by rw [settles.clashing taken unclean, List.length_map]⟩

theorem diagnostics_ne_nil (settles : verdict.Settles config earlier declaration stub)
    (refused : verdict.isRefused = true) : verdict.diagnostics ≠ [] := by
  rw [← List.length_pos_iff]
  rcases settles.length_diagnostics refused with ⟨-, one⟩ | ⟨-, unclean, many⟩
  · omega
  · rw [many, List.length_pos_iff]
    exact fun clean => unclean fun _ => clean

end Settles

theorem SettleAll.exists_settles {declared : List (String × Stub)} {verdicts : List Verdict}
    (settled : SettleAll config earlier declared verdicts) (mem : verdict ∈ verdicts) :
    ∃ i declaration stub, declared[i]? = some (declaration, stub) ∧
      verdict.Settles config (earlier ++ (declared.take i).map Prod.snd) declaration stub := by
  obtain ⟨i, bound, rfl⟩ := List.mem_iff_getElem.1 mem
  have inside : i < declared.length := settled.1 ▸ bound
  have there : declared[i]? = some (declared[i].1, declared[i].2) := List.getElem?_eq_getElem inside
  obtain ⟨verdict, same, settles⟩ := settled.2 i _ _ there
  obtain rfl : verdicts[i] = verdict :=
    Option.some.inj ((List.getElem?_eq_getElem bound).symm.trans same)
  exact ⟨i, _, _, there, settles⟩

end Verdict

namespace GeneratorConfig

/-- No declaration is refused for more than one clash. -/
def RefusesOnce (config : GeneratorConfig) (declared : List (String × Stub)) : Prop :=
  ∀ i declaration stub, declared[i]? = some (declaration, stub) →
    ¬config.IsTaken ((declared.take i).map Prod.snd) stub.fileName → ¬config.IsClean stub →
    stub.clashes.length = 1

variable {config : GeneratorConfig} {declared : List (String × Stub)} {verdicts : List Verdict}

/-- There are as many reasons as there are refused declarations if and only if no declaration is
refused for more than one clash. -/
theorem length_diagnostics_eq_iff (settled : Verdict.SettleAll config [] declared verdicts) :
    (verdicts.flatMap (·.diagnostics)).length = verdicts.countP (·.isRefused) ↔
      config.RefusesOnce declared := by
  have spared : ∀ verdict ∈ verdicts, verdict.isRefused = false → verdict.diagnostics = [] :=
    fun verdict mem accepted => by
      obtain ⟨_, _, _, -, settles⟩ := settled.exists_settles mem
      exact settles.diagnostics_eq_nil accepted
  have given : ∀ verdict ∈ verdicts, verdict.isRefused = true → verdict.diagnostics ≠ [] :=
    fun verdict mem refused => by
      obtain ⟨_, _, _, -, settles⟩ := settled.exists_settles mem
      exact settles.diagnostics_ne_nil refused
  rw [length_flatMap_eq_countP_iff spared given]
  constructor
  · intro once i declaration stub there free unclean
    obtain ⟨verdict, found, settles⟩ := settled.2 i declaration stub there
    have refused := settles.isRefused_iff.2 (.inr unclean)
    rcases settles.length_diagnostics refused with ⟨taken, -⟩ | ⟨-, -, many⟩
    · exact absurd taken free
    · rw [← many, once verdict (List.mem_of_getElem? found) refused]
  · intro once verdict mem refused
    obtain ⟨i, declaration, stub, there, settles⟩ := settled.exists_settles mem
    rcases settles.length_diagnostics refused with ⟨-, one⟩ | ⟨free, unclean, many⟩
    · exact one
    · rw [many, once i declaration stub there free unclean]

end GeneratorConfig

theorem Generator.exists_verdicts_of_ok (config : GeneratorConfig) {compilation : Compilation}
    {output : Output} (ok : ((new config).run compilation).1 = .ok output) :
    ∃ verdicts, Verdict.SettleAll config [] (declared config.marker compilation) verdicts ∧
      output.artifacts.tail = verdicts.filterMap (·.artifact?) ∧
      output.diagnostics = verdicts.flatMap (·.diagnostics) := by
  have remembers := remembers_new config
  obtain ⟨verdicts, settled, artifacts, diagnostics⟩ :=
    GeneratorConfig.exists_verdicts GeneratorConfig.tracks_nil (written_of_ok remembers ok)
  exact ⟨verdicts, settled, artifacts, (diagnostics_of_ok remembers ok).trans diagnostics⟩

namespace CommandLine

/-! ## What a pass with refusals leads to -/

/-- A directory or a file could not be written. -/
def CommandError.IsWriting : CommandError → Prop
  | .missingDirectory .. | .unwritable .. => True
  | _ => False

/-- A program that fails only where it writes. -/
def FailsAtWriting {α : Type} (program : ExceptT CommandError (StateM Sandbox) α) : Prop :=
  ∀ sandbox error, valueIn sandbox program = .error error → error.IsWriting

section Failing

variable {α β : Type}

theorem failsAtWriting_attempt {error : FileFault → CommandError}
    {action : StateM Sandbox (Except FileFault α)} (writing : ∀ fault, (error fault).IsWriting) :
    FailsAtWriting (attempt error action) := by
  intro sandbox told failed
  change Except.mapError error (action sandbox).1 = .error told at failed
  cases result : (action sandbox).1 with
  | ok a => rw [result] at failed; cases failed
  | error fault => rw [result] at failed; cases failed; exact writing fault

theorem valueIn_bind_eq (program : ExceptT CommandError (StateM Sandbox) α)
    (next : α → ExceptT CommandError (StateM Sandbox) β) (sandbox : Sandbox) :
    valueIn sandbox (program >>= next) =
      valueIn sandbox program >>= fun a => valueIn (program.run sandbox).2 (next a) := by
  rw [valueIn, valueIn, ExceptT.run_bind]
  simp only [bind, StateT.bind]
  obtain ⟨result | result, later⟩ := program.run sandbox <;> rfl

theorem FailsAtWriting.bind {program : ExceptT CommandError (StateM Sandbox) α}
    {next : α → ExceptT CommandError (StateM Sandbox) β} (first : FailsAtWriting program)
    (second : ∀ a, FailsAtWriting (next a)) : FailsAtWriting (program >>= next) := by
  intro sandbox error failed
  rw [valueIn_bind_eq] at failed
  cases value : valueIn sandbox program with
  | ok a => rw [value] at failed; exact second a _ error failed
  | error other => rw [value] at failed; cases failed; exact first sandbox _ value

theorem failsAtWriting_forM {step : α → ExceptT CommandError (StateM Sandbox) PUnit}
    (h : ∀ a, FailsAtWriting (step a)) (list : List α) : FailsAtWriting (list.forM step) := by
  induction list with
  | nil => intro sandbox error failed; cases failed
  | cons a rest ih => exact (h a).bind fun _ => ih

theorem failsAtWriting_writeArtifacts (directory : String) (output : Output) :
    FailsAtWriting (writeArtifacts directory output) := by
  unfold writeArtifacts
  refine FailsAtWriting.bind ?_ fun _ => ?_
  · exact failsAtWriting_attempt fun _ => trivial
  · refine failsAtWriting_forM (fun artifact => ?_) _
    exact failsAtWriting_attempt fun _ => trivial

end Failing

variable {options : GenerateOptions} {sandbox : Sandbox} {output : Output}

/-- A pass with refusals makes the command fail: with the refusals, unless writing has failed before
that. -/
theorem exists_error_of_refused (runs : options.noOp = false)
    (ok : options.passIn sandbox = .ok output) (refused : output.diagnostics ≠ []) :
    ∃ error, (Command.generate options).resultIn sandbox = .error error ∧
      (error = .refusals output.diagnostics ∨ options.out.isSome = true ∧ error.IsWriting) := by
  cases out : options.out with
  | none =>
    obtain ⟨compilation, loaded, passed⟩ := GenerateOptions.passIn_eq_ok_iff.1 ok
    rw [Command.resultIn, valueIn, Command.run, runs, if_neg Bool.false_ne_true,
      GenerateOptions.run, run_bind_of_ok options.inputs.looks_load loaded]
    simp only [passed, out, List.isEmpty_iff, refused]
    exact ⟨_, rfl, .inl rfl⟩
  | some directory =>
    rw [Command.resultIn, valueIn, run_of_passIn_ok runs out ok, ← valueIn, valueIn_bind_eq]
    cases value : valueIn (sandbox.told (reportText output)) (writeArtifacts directory output) with
    | ok written =>
      simp only [List.isEmpty_iff, refused]
      exact ⟨_, rfl, .inl rfl⟩
    | error fault =>
      exact ⟨fault, rfl, .inr ⟨rfl, failsAtWriting_writeArtifacts directory output _ fault value⟩⟩

/-- The message for so many refused declarations. -/
def refusedMessage (count : Nat) : String := toString count ++ " declaration(s) skipped"

theorem refusedMessage_inj {count other : Nat} :
    refusedMessage count = refusedMessage other ↔ count = other := by
  rw [refusedMessage, refusedMessage, String.append_left_inj]
  refine ⟨fun same => ?_, congrArg toString⟩
  have digits : Nat.toDigits 10 count = Nat.toDigits 10 other := by
    rw [← Nat.toList_repr, ← Nat.toList_repr]
    exact congrArg String.toList same
  have read := congrArg (Nat.ofDigitChars 10 · 0) digits
  rwa [Nat.ofDigitChars_toDigits (by decide) (by decide),
    Nat.ofDigitChars_toDigits (by decide) (by decide)] at read

/-- **The number that is told is the number of reasons.** Let the pass of a `generate` have refused
declarations. Then the command fails, with the message of the refusals unless writing has failed
before that. The artifacts behind the marker attribute are those of the declarations that have one,
and the message tells the number of the others if and only if no declaration is refused for more
than one clash. -/
theorem refusals_counted (options : GenerateOptions) (sandbox : Sandbox) {compilation : Compilation}
    {output : Output} (runs : options.noOp = false)
    (loaded : options.inputs.loadIn sandbox = .ok compilation)
    (ok : ((Generator.new options.config).run compilation).1 = .ok output)
    (refused : output.diagnostics ≠ []) :
    ∃ error verdicts, (Command.generate options).resultIn sandbox = .error error ∧
      (error = .refusals output.diagnostics ∨ options.out.isSome = true ∧ error.IsWriting) ∧
      Verdict.SettleAll options.config [] (declared options.config.marker compilation) verdicts ∧
      output.artifacts.tail = verdicts.filterMap (·.artifact?) ∧
      verdicts.countP (·.isRefused) ≤ output.diagnostics.length ∧
      ((CommandError.refusals output.diagnostics).message =
          refusedMessage (verdicts.countP (·.isRefused)) ↔
        options.config.RefusesOnce (declared options.config.marker compilation)) := by
  obtain ⟨error, failed, told⟩ :=
    exists_error_of_refused runs (GenerateOptions.passIn_eq_ok_iff.2 ⟨_, loaded, ok⟩) refused
  obtain ⟨verdicts, settled, artifacts, diagnostics⟩ :=
    Generator.exists_verdicts_of_ok options.config ok
  refine ⟨error, verdicts, failed, told, settled, artifacts, ?least, ?exact⟩
  case least =>
    rw [diagnostics]
    refine countP_le_length_flatMap fun verdict mem refused => ?_
    obtain ⟨_, _, _, -, settles⟩ := settled.exists_settles mem
    exact settles.diagnostics_ne_nil refused
  case exact =>
    rw [← GeneratorConfig.length_diagnostics_eq_iff settled, ← diagnostics, ← refusedMessage_inj]
    exact Iff.rfl

/-- Prints what `writeTwice` writes. -/
def printTwice : GenerateOptions := { writeTwice with out := none }

theorem refusals_counted_twice :
    ∃ (output : Output) (verdicts : List Verdict),
      printTwice.passIn keptSandbox = .ok output ∧
      (Command.generate printTwice).resultIn keptSandbox = .error (.refusals output.diagnostics) ∧
      (CommandError.refusals output.diagnostics).message = "1 declaration(s) skipped" ∧
      output.artifacts.tail = verdicts.filterMap (·.artifact?) ∧
      verdicts.countP (·.isRefused) = 1 := by
  have settled : ({} : GeneratorConfig).settlement
      (markedClasses ({} : GeneratorConfig).marker ["Client", "Client"]) =
        ⟨[.bare "Client"], [⟨"Client", .duplicateFile "Client.g.cs"⟩]⟩ := by
    rw [GeneratorConfig.settlement_markedClasses]
    rfl
  obtain ⟨output, ok⟩ : ∃ output, ((Generator.new {}).run
      (markedClasses ({} : GeneratorConfig).marker ["Client", "Client"])).1 = .ok output :=
    Generator.exists_output_of_accepted (by rw [settled]; decide +kernel)
  have refused : output.diagnostics = [⟨"Client", .duplicateFile "Client.g.cs"⟩] := by
    rw [Generator.diagnostics_of_ok (Generator.remembers_new {}) ok]
    change (({} : GeneratorConfig).settlement _).diagnostics = _
    rw [settled]
  have passed : printTwice.passIn keptSandbox = .ok output :=
    GenerateOptions.passIn_eq_ok_iff.2 ⟨_, loadIn_writeTwice, ok⟩
  have message : (CommandError.refusals output.diagnostics).message = refusedMessage 1 := by
    rw [refused]
    rfl
  -- no class has a method, so no two of its names clash
  have once : ({} : GeneratorConfig).RefusesOnce (declared ({} : GeneratorConfig).marker
      (markedClasses ({} : GeneratorConfig).marker ["Client", "Client"])) := by
    intro i declaration stub there _ unclean
    rw [declared, declarations_markedClasses, List.map_map] at there
    obtain ⟨name, -, same⟩ := List.mem_map.1 (List.mem_of_getElem? there)
    obtain ⟨-, rfl⟩ := Prod.mk.inj same
    rw [ofDeclaration_markedClass] at unclean
    exact absurd (fun _ => rfl) unclean
  obtain ⟨error, verdicts, failed, told, -, artifacts, -, counts⟩ :=
    refusals_counted printTwice keptSandbox rfl loadIn_writeTwice ok (by rw [refused]; decide)
  obtain rfl | ⟨⟨⟩, -⟩ := told
  exact ⟨output, verdicts, passed, failed, message, artifacts,
    (refusedMessage_inj.1 (message.symm.trans (counts.2 once))).symm⟩

/-- Where the only input is the path of a file, the compilation in it is loaded. -/
theorem loadIn_only {sandbox : Sandbox} {pointer : Option String} {path text : String}
    {compilation : Compilation} (plain : isPattern path = false)
    (read : sandbox.readText path = .ok text)
    (decoded : Compilation.ofDocument path pointer text = .ok compilation) :
    Inputs.loadIn ⟨pointer, [path]⟩ sandbox = .ok compilation := by
  have paths : pathsIn sandbox path = .ok [path] := by
    rw [pathsIn, if_neg (by rw [plain]; decide)]
    rfl
  have part : partIn sandbox pointer path = .ok compilation := by
    rw [partIn, read]
    simp only [Except.mapError, bind, Except.bind, decoded]
  rw [Inputs.loadIn_eq]
  simp only [List.mapM_cons, List.mapM_nil, paths, bind, Except.bind, pure, Except.pure,
    List.flatten_cons, List.flatten_nil, List.append_nil, part]
  simp [Compilation.merge]

/-- A class with the same two calls in both directions, and their interface. -/
def echoes : Compilation where
  types :=
    [ Generator.echo.symbol,
      { kind := .interfaceType, name := "IEcho", containingNamespace := "",
        accessibility := .isPublic, bases := [],
        methods := [⟨"Say", true, none, []⟩, ⟨"Tell", true, none, []⟩], attributes := [] } ]

/-- The stub of that class. -/
def echoingTwice : Stub :=
  let contract : Contract := ⟨"IEcho", [⟨"Say", .nothing, []⟩, ⟨"Tell", .nothing, []⟩]⟩
  ⟨"Echo", "", .isPublic, [contract], [contract]⟩

/-- A sandbox with that compilation in a file. -/
def echoSandbox : Sandbox := .new ⟨[(["echo.json"], .text (echoes.toJson.pretty 0))]⟩ []

/-- Prints the sources for that file. -/
def printEcho : GenerateOptions := ⟨⟨none, ["echo.json"]⟩, {}, none, false⟩

theorem readText_only (text : String) :
    (Sandbox.new ⟨[(["echo.json"], .text text)]⟩ []).readText "echo.json" = .ok text := by
  with_unfolding_all rfl

theorem isSettled_echoes : echoes.IsSettled where
  types := by
    refine List.forall_mem_cons.2 ⟨⟨List.forall_mem_nil _, ?_⟩, List.forall_mem_singleton.2
      ⟨?_, List.forall_mem_nil _⟩⟩
    · refine List.forall_mem_singleton.2 ⟨.object (by decide) ?_⟩
      exact List.forall_mem_cons.2 ⟨.string, List.forall_mem_singleton.2 .string⟩
    · exact List.forall_mem_cons.2 ⟨⟨List.forall_mem_nil _⟩,
        List.forall_mem_singleton.2 ⟨List.forall_mem_nil _⟩⟩

theorem numberFree_echoes : echoes.toJson.NumberFree Json.maxDepth := by
  have nested : ∀ depth, echoes.toJson.NumberFree (depth + 7) := fun depth => by
    simp [echoes, Generator.echo, Compilation.toJson, Metadata.TypeSymbol.toJson,
      Metadata.MethodSymbol.toJson, Metadata.AttributeData.toJson, markedClass, Metadata.orNull]
  have depth : Json.maxDepth = 120 + 7 := rfl
  rw [depth]
  exact nested 120

theorem loadIn_printEcho : printEcho.inputs.loadIn echoSandbox = .ok echoes :=
  loadIn_only (by decide) (readText_only _)
    (isSettled_echoes.ofDocument_pretty numberFree_echoes "echo.json")

theorem declared_echoes :
    declared ({} : GeneratorConfig).marker echoes = [("Echo", echoingTwice)] := by
  have found : declarations ({} : GeneratorConfig).marker echoes = [Generator.echo] := rfl
  have reached : Contract.reachable echoes ["IEcho"] = echoingTwice.incoming := by cbv
  have roots : ∀ role, Generator.echo.roots role = ["IEcho"] := by rintro (_ | _) <;> rfl
  have stub : Stub.ofDeclaration echoes Generator.echo = echoingTwice := by
    simp only [Stub.ofDeclaration, roots, reached]
    rfl
  rw [declared, found, List.map_singleton, stub]
  rfl

/-- One class is refused, and the message tells two. -/
theorem not_refusals_counted_echoes :
    ∃ output, printEcho.passIn echoSandbox = .ok output ∧
      (declared ({} : GeneratorConfig).marker echoes).map Prod.fst = ["Echo"] ∧
      output.artifacts.tail = [] ∧
      ∃ error, (Command.generate printEcho).resultIn echoSandbox = .error error ∧
        error.message = "2 declaration(s) skipped" := by
  have settled : ({} : GeneratorConfig).settlement echoes =
      ⟨[], [⟨"Echo", .bothRoles "Say"⟩, ⟨"Echo", .bothRoles "Tell"⟩]⟩ := by
    have objections : ({} : GeneratorConfig).objections [] echoingTwice =
        [.bothRoles "Say", .bothRoles "Tell"] := by decide +kernel
    change ({} : GeneratorConfig).settle [] (declared ({} : GeneratorConfig).marker echoes) = _
    rw [declared_echoes, GeneratorConfig.settle, objections]
    rfl
  obtain ⟨output, ok⟩ : ∃ output, ((Generator.new {}).run echoes).1 = .ok output :=
    Generator.exists_output_of_accepted (by rw [settled]; exact List.forall_mem_nil _)
  have remembers := Generator.remembers_new {}
  have refused := Generator.diagnostics_of_ok remembers ok
  change _ = (({} : GeneratorConfig).settlement echoes).diagnostics at refused
  have written := Generator.written_of_ok remembers ok
  change List.Forall₂ _ (({} : GeneratorConfig).settlement echoes).accepted _ at written
  rw [settled] at refused written
  have passed : printEcho.passIn echoSandbox = .ok output :=
    GenerateOptions.passIn_eq_ok_iff.2 ⟨_, loadIn_printEcho, ok⟩
  obtain ⟨error, failed, told⟩ := exists_error_of_refused rfl passed (by rw [refused]; decide)
  obtain rfl | ⟨⟨⟩, -⟩ := told
  refine ⟨output, passed, by rw [declared_echoes]; rfl, List.forall₂_nil_left_iff.1 written, _,
    failed, ?_⟩
  rw [refused]
  rfl

end CommandLine

end TypedHub
