import TypedHub.Proofs.CommandLine.Directories
import TypedHub.Proofs.CommandLine.Printing
import TypedHub.Proofs.Generation.SourceNames

/-!
# What `generate` writes into a directory

A `generate` with a directory to write into does its work in two parts. In the first one it
resolves, reads and decodes its inputs and makes the pass, which changes nothing
(`run_of_passIn_error`). In the second one it writes all artifacts of the pass
(`Sandbox.exists_run_writeArtifacts`), and only then it fails if declarations have been refused. So
it leaves all behind or nothing, and what it leaves behind is exactly the pass
(`generate_into_directory`).
-/

namespace TypedHub.CommandLine

open Metadata (Compilation)

/-! ## What programs give -/

section Values

variable {α β : Type} {sandbox : Sandbox}

/-- What a program gives in a sandbox. -/
def valueIn (sandbox : Sandbox) (program : ExceptT CommandError (StateM Sandbox) α) :
    Except CommandError α :=
  (program.run sandbox).1

theorem run_of_looks {program : ExceptT CommandError (StateM Sandbox) α}
    (looks : Looks program.run) : program.run sandbox = (valueIn sandbox program, sandbox) :=
  Prod.ext rfl (looks sandbox)

/-- Behind a program that only looks, the next one runs in the same sandbox. -/
theorem run_bind_of_ok {program : ExceptT CommandError (StateM Sandbox) α} {a : α}
    {next : α → ExceptT CommandError (StateM Sandbox) β} (looks : Looks program.run)
    (value : valueIn sandbox program = .ok a) :
    (program >>= next).run sandbox = (next a).run sandbox := by
  rw [ExceptT.run_bind]
  simp only [bind, StateT.bind, run_of_looks looks, value]

theorem run_bind_of_error {program : ExceptT CommandError (StateM Sandbox) α}
    {error : CommandError} {next : α → ExceptT CommandError (StateM Sandbox) β}
    (looks : Looks program.run) (value : valueIn sandbox program = .error error) :
    (program >>= next).run sandbox = (.error error, sandbox) := by
  rw [ExceptT.run_bind]
  simp only [bind, StateT.bind, run_of_looks looks, value]
  rfl

theorem valueIn_bind {program : ExceptT CommandError (StateM Sandbox) α}
    {next : α → ExceptT CommandError (StateM Sandbox) β} (looks : Looks program.run) :
    valueIn sandbox (program >>= next) =
      valueIn sandbox program >>= fun a => valueIn sandbox (next a) := by
  cases value : valueIn sandbox program with
  | ok a => rw [valueIn, run_bind_of_ok looks value]; rfl
  | error error => rw [valueIn, run_bind_of_error looks value]; rfl

theorem valueIn_mapM {step : α → ExceptT CommandError (StateM Sandbox) β}
    (looks : ∀ a, Looks (step a).run) (list : List α) :
    valueIn sandbox (list.mapM step) = list.mapM fun a => valueIn sandbox (step a) := by
  induction list with
  | nil => rfl
  | cons a rest ih =>
    rw [List.mapM_cons, List.mapM_cons, valueIn_bind (looks a)]
    refine bind_congr fun b => ?_
    rw [valueIn_bind (looks_run_mapM looks rest), ih]
    rfl

end Values

/-! ## The pass over the inputs -/

section Passes

variable {sandbox : Sandbox}

/-- The paths that an input stands for in a sandbox. -/
def pathsIn (sandbox : Sandbox) (input : String) : Except CommandError (List String) := do
  if isPattern input then
    let pattern ← (Pattern.ofText input).mapError .badPattern
    let paths := ((pattern.expand (m := StateM Sandbox)).run sandbox).1
    if paths.isEmpty then throw (.unmatchedPattern input) else return paths
  else return [input]

/-- The compilation in the file under a path. -/
def partIn (sandbox : Sandbox) (pointer : Option String) (path : String) :
    Except CommandError Compilation := do
  let text ← (sandbox.readText path).mapError (.unreadable path)
  (Compilation.ofDocument path pointer text).mapError .badDocument

/-- The pass of a fresh generator over the inputs in a sandbox. All of them are resolved, all files
are read and decoded, and the compilations are taken together in the order of the inputs. -/
def GenerateOptions.passIn (options : GenerateOptions) (sandbox : Sandbox) :
    Except CommandError Output := do
  let paths ← options.inputs.patterns.mapM (pathsIn sandbox)
  let parts ← paths.flatten.mapM (partIn sandbox options.inputs.pointer)
  ((Generator.new options.config).run (Compilation.merge parts)).1.mapError .unwritableName

theorem valueIn_resolve (input : String) :
    valueIn sandbox (resolve input) = pathsIn sandbox input := by
  unfold resolve pathsIn
  split
  · cases Pattern.ofText input with
    | error error => rfl
    | ok pattern =>
      have expanded : Looks (ExceptT.lift pattern.expand :
          ExceptT CommandError (StateM Sandbox) (List String)).run :=
        pattern.looks_expand.bind fun _ => looks_pure _
      have paths : valueIn sandbox (ExceptT.lift pattern.expand) =
          .ok ((pattern.expand (m := StateM Sandbox)).run sandbox).1 := rfl
      dsimp only
      rw [valueIn_bind expanded, paths]
      simp only [bind, Except.bind, Except.mapError]
      split <;> rfl
  · rfl

theorem valueIn_load (pointer : Option String) (path : String) :
    valueIn sandbox (load pointer path) = partIn sandbox pointer path := by
  unfold load partIn
  have read : Looks (attempt (m := StateM Sandbox) (.unreadable path)
      (Workspace.readText path)).run := (looks_readText path).bind fun _ => looks_pure _
  have text : valueIn sandbox (attempt (.unreadable path) (Workspace.readText path)) =
      (sandbox.readText path).mapError (.unreadable path) := rfl
  rw [valueIn_bind read, text]
  refine bind_congr fun text => ?_
  cases Compilation.ofDocument path pointer text <;> rfl

theorem Inputs.loadIn_eq (inputs : Inputs) (sandbox : Sandbox) :
    inputs.loadIn sandbox = do
      let paths ← inputs.patterns.mapM (pathsIn sandbox)
      let parts ← paths.flatten.mapM (partIn sandbox inputs.pointer)
      return Compilation.merge parts := by
  change valueIn sandbox inputs.load = _
  unfold Inputs.load
  rw [valueIn_bind (looks_run_mapM looks_resolve _), valueIn_mapM looks_resolve]
  simp only [valueIn_resolve]
  refine bind_congr fun paths => ?_
  rw [valueIn_bind (looks_run_mapM (CommandLine.looks_load _) _),
    valueIn_mapM (CommandLine.looks_load _)]
  simp only [valueIn_load]
  rfl

variable {options : GenerateOptions} {directory : String} {output : Output} {error : CommandError}

theorem GenerateOptions.passIn_eq (options : GenerateOptions) (sandbox : Sandbox) :
    options.passIn sandbox = options.inputs.loadIn sandbox >>= fun compilation =>
      ((Generator.new options.config).run compilation).1.mapError .unwritableName := by
  rw [passIn, Inputs.loadIn_eq, bind_assoc]
  refine bind_congr fun paths => ?_
  rw [bind_assoc]
  rfl

theorem GenerateOptions.passIn_eq_ok_iff :
    options.passIn sandbox = .ok output ↔
      ∃ compilation, options.inputs.loadIn sandbox = .ok compilation ∧
        ((Generator.new options.config).run compilation).1 = .ok output := by
  simp only [passIn_eq, bind_eq_ok_iff, mapError_eq_ok_iff]

theorem GenerateOptions.passIn_eq_error_iff :
    options.passIn sandbox = .error error ↔
      options.inputs.loadIn sandbox = .error error ∨
        ∃ compilation name, options.inputs.loadIn sandbox = .ok compilation ∧
          ((Generator.new options.config).run compilation).1 = .error name ∧
          CommandError.unwritableName name = error := by
  simp only [passIn_eq, bind_eq_error_iff, mapError_eq_error_iff, exists_and_left]

end Passes

/-! ## The two parts of the command -/

/-- What a command gives in a sandbox. -/
def Command.resultIn (command : Command) (sandbox : Sandbox) : Except CommandError Unit :=
  valueIn sandbox command.run

/-- The sandbox after a report. -/
def Sandbox.told (sandbox : Sandbox) (report : String) : Sandbox :=
  { sandbox with reported := sandbox.reported ++ report }

section Parts

variable {sandbox : Sandbox} {options : GenerateOptions} {directory : String} {output : Output}

/-- If there is no pass, nothing happens. -/
theorem run_of_passIn_error {error : CommandError} (runs : options.noOp = false)
    (failed : options.passIn sandbox = .error error) :
    ((Command.generate options).run : ExceptT CommandError (StateM Sandbox) Unit).run sandbox =
      (.error error, sandbox) := by
  rw [Command.run, runs, if_neg Bool.false_ne_true, GenerateOptions.run]
  rcases GenerateOptions.passIn_eq_error_iff.1 failed with
    unread | ⟨compilation, name, loaded, unwritten, rfl⟩
  -- either there is no compilation, or the generator fails on it before it reports anything
  · exact run_bind_of_error options.inputs.looks_load unread
  · rw [run_bind_of_ok options.inputs.looks_load loaded, unwritten]
    rfl

/-- Otherwise the pass is written, and then refusals make the command fail. -/
theorem run_of_passIn_ok (runs : options.noOp = false) (out : options.out = some directory)
    (ok : options.passIn sandbox = .ok output) :
    ((Command.generate options).run : ExceptT CommandError (StateM Sandbox) Unit).run sandbox =
      (writeArtifacts directory output >>= fun _ =>
        if output.diagnostics.isEmpty then pure () else throw (.refusals output.diagnostics) :
          ExceptT CommandError (StateM Sandbox) Unit).run (sandbox.told (reportText output)) := by
  obtain ⟨compilation, loaded, passed⟩ := GenerateOptions.passIn_eq_ok_iff.1 ok
  rw [Command.run, runs, if_neg Bool.false_ne_true, GenerateOptions.run,
    run_bind_of_ok options.inputs.looks_load loaded]
  simp only [passed, out]
  rfl

end Parts

/-! ## Writing artifacts -/

namespace Sandbox

variable {sandbox : Sandbox} {directory : String}

/-- A change of the disk that is possible is made. -/
theorem run_attempt_change {error : FileFault → CommandError}
    {action : StateM Sandbox (Except FileFault Unit)} {made : Disk}
    (changes : action sandbox = sandbox.change (.ok made)) :
    (attempt error action).run sandbox = (.ok (), { sandbox with disk := made }) := by
  change (Except.mapError error (action sandbox).1, (action sandbox).2) = _
  rw [changes]
  rfl

/-- Writes an artifact into a directory. -/
def writing (directory : String) (artifact : Artifact) :
    ExceptT CommandError (StateM Sandbox) Unit :=
  attempt (.unwritable (joinPath directory artifact.fileName))
    (Workspace.writeText (joinPath directory artifact.fileName) artifact.source)

/-- Artifacts with different names can be written one after the other if each of them can be written
on its own. Nothing changes but the places of their files, and all files are found where they were
found before. The induction is on the artifacts; what later ones need is kept by the first one. -/
theorem exists_run_writeAll {artifacts : List Artifact}
    (names : ∀ artifact ∈ artifacts, IsFileName artifact.fileName)
    (distinct : (artifacts.map (·.fileName)).Nodup)
    (takes : ∀ artifact ∈ artifacts,
      sandbox.disk.Takes sandbox.workingDirectory directory artifact.fileName) :
    ∃ disk : Disk, (artifacts.forM (writing directory)).run sandbox =
        (.ok (), { sandbox with disk := disk }) ∧
      (∀ place, (∀ artifact ∈ artifacts, sandbox.disk.fileIn sandbox.workingDirectory directory
          artifact.fileName ≠ .ok place) → disk.at? place = sandbox.disk.at? place) ∧
      ∀ name place, sandbox.disk.fileIn sandbox.workingDirectory directory name = .ok place →
        disk.fileIn sandbox.workingDirectory directory name = .ok place := by
  induction artifacts generalizing sandbox with
  | nil => exact ⟨sandbox.disk, rfl, fun _ _ => rfl, fun _ _ found => found⟩
  | cons first rest ih =>
    rw [List.forall_mem_cons] at names takes
    rw [List.map_cons, List.nodup_cons] at distinct
    obtain ⟨target, found, free⟩ := takes.1
    let middle : Sandbox := { sandbox with disk := sandbox.disk.put target (.text first.source) }
    have later : ∀ artifact ∈ rest,
        middle.disk.Takes middle.workingDirectory directory artifact.fileName := by
      intro artifact mem
      have apart : artifact.fileName ≠ first.fileName := fun same =>
        distinct.1 (same ▸ List.mem_map_of_mem mem)
      exact (takes.2 artifact mem).put names.1 (names.2 artifact mem) apart found free
    obtain ⟨disk, ran, others, kept⟩ := ih names.2 distinct.2 later
    have wrote : (writing directory first).run sandbox = (.ok (), middle) := by
      have written : sandbox.disk.writeText sandbox.workingDirectory
          (joinPath directory first.fileName) first.source = .ok middle.disk :=
        (Disk.writeText_joinPath_eq_ok_iff names.1).2 ⟨target, found, free, rfl⟩
      exact run_attempt_change (congrArg sandbox.change written)
    refine ⟨disk, ?_, fun place apart => ?_, fun name place there => ?_⟩
    · change (writing directory first >>= fun _ => rest.forM (writing directory)).run sandbox = _
      rw [ExceptT.run_bind]
      simp only [bind, StateT.bind, wrote]
      exact ran
    · rw [List.forall_mem_cons] at apart
      have other : place ≠ target := fun same => apart.1 (same ▸ found)
      rw [others place ?_, Disk.at?_put_of_ne other]
      -- the files of the later artifacts have not been moved by the first one
      intro artifact mem here
      obtain ⟨there, found', -⟩ := takes.2 artifact mem
      rw [Disk.fileIn_put free found', Except.ok.injEq] at here
      exact apart.2 artifact mem (here ▸ found')
    · exact kept name place (Disk.fileIn_put free there)

/-- Files with the names can be written into the directory, which is on the disk that is `made`. -/
structure Accepts (sandbox : Sandbox) (directory : String) (names : List String) (made : Disk) :
    Prop where
  /-- The directory is there or can be made. -/
  creatable : sandbox.disk.makeDirectories sandbox.workingDirectory directory = .ok made
  /-- The machine allows files with these names in it. -/
  writable : ∀ name ∈ names,
    checkPath (joinPath directory name) = .ok () ∧ name.utf8ByteSize ≤ maxNameSize
  /-- No name leads to a directory. -/
  free : ∀ name ∈ names, ∀ place,
    made.find sandbox.workingDirectory (joinPath directory name) ≠ .ok (place, .directory)

/-- What becomes of a sandbox when artifacts are written into a directory of it. -/
structure Receives (before : Sandbox) (directory : String) (artifacts : List Artifact)
    (after : Sandbox) : Prop where
  /-- Paths begin where they began before. -/
  workingDirectory : after.workingDirectory = before.workingDirectory
  /-- The file of each artifact holds its source. -/
  sources : ∀ artifact ∈ artifacts,
    after.readText (joinPath directory artifact.fileName) = .ok artifact.source
  /-- Where no such file is, nothing has changed, but there may be a new directory. -/
  others : ∀ place, (∀ artifact ∈ artifacts,
      after.disk.find after.workingDirectory (joinPath directory artifact.fileName) ≠
        .ok (place, .text artifact.source)) →
    after.disk.at? place = before.disk.at? place ∨
      before.disk.at? place = none ∧ after.disk.at? place = some .directory
  /-- Nothing has been printed as a result. -/
  printed : after.printed = before.printed

theorem exists_run_writeArtifacts {output : Output} {made : Disk}
    (names : ∀ artifact ∈ output.artifacts, IsFileName artifact.fileName)
    (distinct : (output.artifacts.map (·.fileName)).Nodup)
    (accepts : sandbox.Accepts directory (output.artifacts.map (·.fileName)) made) :
    ∃ after : Sandbox,
      (writeArtifacts directory output : ExceptT CommandError (StateM Sandbox) Unit).run sandbox =
        (.ok (), after) ∧ sandbox.Receives directory output.artifacts after := by
  obtain ⟨parent, walked, there⟩ := Disk.exists_parent_of_makeDirectories accepts.creatable
  let middle : Sandbox := { sandbox with disk := made }
  have takes : ∀ artifact ∈ output.artifacts,
      middle.disk.Takes middle.workingDirectory directory artifact.fileName := by
    intro artifact mem
    -- the machine allows the name, and nothing in the new directory stands in the way
    have listed : artifact.fileName ∈ output.artifacts.map (·.fileName) := List.mem_map_of_mem mem
    obtain ⟨path, short⟩ := accepts.writable _ listed
    exact Disk.takes_of_walk (names artifact mem) walked there path short (accepts.free _ listed)
  obtain ⟨disk, ran, kept, found⟩ := exists_run_writeAll names distinct takes
  let after : Sandbox := { sandbox with disk := disk }
  have sources : ∀ artifact ∈ output.artifacts,
      after.readText (joinPath directory artifact.fileName) = .ok artifact.source :=
    (readText_of_writeAll names distinct ran).1
  refine ⟨after, ?run, rfl, sources, fun place apart => ?others, rfl⟩
  case run =>
    have directories : (attempt (.missingDirectory directory)
        (Workspace.makeDirectories directory) : ExceptT CommandError (StateM Sandbox) Unit).run
          sandbox = (.ok (), middle) :=
      run_attempt_change (congrArg sandbox.change accepts.creatable)
    rw [writeArtifacts, ExceptT.run_bind]
    simp only [bind, StateT.bind, directories]
    exact ran
  case others =>
    have same : after.disk.at? place = made.at? place := by
      -- a file that leads to the place is written there, and has been read as its artifact
      refine kept place fun artifact mem here => apart artifact mem ?_
      obtain ⟨target, there, text⟩ :=
        (Disk.readText_joinPath_eq_ok_iff (names artifact mem)).1 (sources artifact mem)
      rw [Disk.find_joinPath (names artifact mem), there]
      obtain rfl : place = target := Except.ok.inj ((found _ _ here).symm.trans there)
      simp [bind, Except.bind, text, pure, Except.pure]
    rw [same]
    exact Disk.growsTo_of_makeDirectories accepts.creatable place

end Sandbox

/-- **A directory gets all of a pass and nothing else, or nothing at all.** If an input cannot be
resolved, read or decoded, or if a name cannot be written, then `generate` fails and leaves the
sandbox as it was. Otherwise the pass succeeds, and if the directory accepts its files, and these
have different names, then each file holds the source of its artifact, and no other file is there or
has changed; and the command fails if and only if declarations have been refused. -/
theorem generate_into_directory (options : GenerateOptions) (sandbox : Sandbox) {directory : String}
    (runs : options.noOp = false) (out : options.out = some directory) :
    (∀ error, options.passIn sandbox = .error error →
      (Command.generate options).resultIn sandbox = .error error ∧
        (Command.generate options).after sandbox = sandbox) ∧
    ∀ output made, options.passIn sandbox = .ok output →
      sandbox.Accepts directory (output.artifacts.map (·.fileName)) made →
      (output.artifacts.map (·.fileName)).Nodup →
      (Command.generate options).resultIn sandbox =
          (if output.diagnostics = [] then .ok () else .error (.refusals output.diagnostics)) ∧
        sandbox.Receives directory output.artifacts ((Command.generate options).after sandbox) := by
  refine ⟨fun error failed => ?_, fun output made ok accepts distinct => ?_⟩
  · rw [Command.resultIn, valueIn, Command.after, run_of_passIn_error runs failed]
    exact ⟨rfl, rfl⟩
  · obtain ⟨compilation, -, passed⟩ := GenerateOptions.passIn_eq_ok_iff.1 ok
    have names := Generator.isFileName_of_ok (Generator.remembers_new options.config) passed
    have accepts' : (sandbox.told (reportText output)).Accepts directory
        (output.artifacts.map (·.fileName)) made :=
      ⟨accepts.creatable, accepts.writable, accepts.free⟩
    obtain ⟨after, wrote, received⟩ := Sandbox.exists_run_writeArtifacts names distinct accepts'
    -- the report is no part of what the directory receives
    have received' : sandbox.Receives directory output.artifacts after :=
      ⟨received.workingDirectory, received.sources, received.others, received.printed⟩
    rw [Command.resultIn, valueIn, Command.after, run_of_passIn_ok runs out ok, ExceptT.run_bind]
    simp only [bind, StateT.bind, wrote]
    cases output.diagnostics with
    | nil => exact ⟨rfl, received'⟩
    | cons => exact ⟨rfl, received'⟩

/-- The class of `clientDocument`, and a directory with a file that is not generated. -/
def keptSandbox : Sandbox :=
  .new ⟨[(["client.json"], .text clientDocument), (["out"], .directory),
    (["out", "Notes.txt"], .text "kept")]⟩ []

/-- Writes the sources for that class, which is given twice, into a directory of the directory. -/
def writeTwice : GenerateOptions :=
  ⟨⟨none, ["client.json", "./client.json"]⟩, {}, some "out/stubs", false⟩

set_option maxRecDepth 2000 in
theorem loadIn_writeTwice : writeTwice.inputs.loadIn keptSandbox =
    .ok (markedClasses ({} : GeneratorConfig).marker ["Client", "Client"]) := by
  with_unfolding_all rfl

/-- The disk on which the directory has been made. -/
def stubsDisk : Disk := keptSandbox.disk.put ["out", "stubs"] .directory

theorem accepts_stubs : keptSandbox.Accepts "out/stubs"
    ["GenerateHubClientAttribute.g.cs", "Client.g.cs"] stubsDisk where
  creatable := by with_unfolding_all rfl
  writable := List.forall_mem_cons.2 ⟨by decide, List.forall_mem_singleton.2 (by decide)⟩
  free := by
    have missing : ∀ name ∈ ["GenerateHubClientAttribute.g.cs", "Client.g.cs"],
        stubsDisk.find [] (joinPath "out/stubs" name) = .error .notFound := by
      refine List.forall_mem_cons.2 ⟨?_, List.forall_mem_singleton.2 ?_⟩
      · with_unfolding_all rfl
      · with_unfolding_all rfl
    intro name mem place there
    cases (missing name mem).symm.trans there

theorem generate_into_directory_twice :
    ∃ output, writeTwice.passIn keptSandbox = .ok output ∧
      (Command.generate writeTwice).resultIn keptSandbox =
        .error (.refusals [⟨"Client", .duplicateFile "Client.g.cs"⟩]) ∧
      keptSandbox.Receives "out/stubs" output.artifacts
        ((Command.generate writeTwice).after keptSandbox) := by
  have settled : ({} : GeneratorConfig).settlement
      (markedClasses ({} : GeneratorConfig).marker ["Client", "Client"]) =
        ⟨[.bare "Client"], [⟨"Client", .duplicateFile "Client.g.cs"⟩]⟩ := by
    rw [GeneratorConfig.settlement_markedClasses]
    rfl
  obtain ⟨output, passed⟩ : ∃ output, ((Generator.new {}).run
      (markedClasses ({} : GeneratorConfig).marker ["Client", "Client"])).1 = .ok output :=
    Generator.exists_output_of_accepted (by rw [settled]; decide +kernel)
  have ok : writeTwice.passIn keptSandbox = .ok output :=
    GenerateOptions.passIn_eq_ok_iff.2 ⟨_, loadIn_writeTwice, passed⟩
  have names : output.artifacts.map (·.fileName) =
      ["GenerateHubClientAttribute.g.cs", "Client.g.cs"] := by
    rw [Generator.fileNames_of_ok (Generator.remembers_new {}) passed]
    change _ :: (({} : GeneratorConfig).settlement _).accepted.map _ = _
    rw [settled]
    decide
  have refused : output.diagnostics = [⟨"Client", .duplicateFile "Client.g.cs"⟩] := by
    rw [Generator.diagnostics_of_ok (Generator.remembers_new {}) passed]
    change (({} : GeneratorConfig).settlement _).diagnostics = _
    rw [settled]
  have accepts := accepts_stubs
  rw [← names] at accepts
  obtain ⟨result, received⟩ := (generate_into_directory writeTwice keptSandbox rfl rfl).2
    output stubsDisk ok accepts (by rw [names]; decide)
  rw [refused] at result
  exact ⟨output, ok, result, received⟩

end TypedHub.CommandLine
