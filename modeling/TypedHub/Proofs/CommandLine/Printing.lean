import TypedHub.Proofs.CommandLine.Listing

/-!
# What is printed by `generate`

Reading the inputs leaves the sandbox as it was (`Inputs.looks_load`). So the listing of the pass is
all that `generate` prints where it has no directory to write into, and cutting what it prints gives
the artifacts of the pass back (`sections_printed`).
-/

namespace TypedHub.CommandLine

open Metadata (Compilation)

/-! ## Programs that only look -/

/-- A program that leaves the sandbox as it was, whatever it finds there. -/
def Looks {α : Type} (program : StateM Sandbox α) : Prop :=
  ∀ sandbox, (program sandbox).2 = sandbox

section Looks

variable {α β : Type}

theorem looks_pure (a : α) : Looks (pure a) := fun _ => rfl

theorem Looks.bind {program : StateM Sandbox α} {next : α → StateM Sandbox β}
    (first : Looks program) (second : ∀ a, Looks (next a)) : Looks (program >>= next) := by
  intro sandbox
  change (next (program sandbox).1 (program sandbox).2).2 = sandbox
  rw [second, first]

/-- A program that may fail leaves the sandbox as it was if both of its parts do. -/
theorem looks_run_bind {program : ExceptT CommandError (StateM Sandbox) α}
    {next : α → ExceptT CommandError (StateM Sandbox) β} (first : Looks program.run)
    (second : ∀ a, Looks (next a).run) : Looks (program >>= next).run := by
  rw [ExceptT.run_bind]
  refine first.bind fun result => ?_
  cases result with
  | ok a => exact second a
  | error e => exact looks_pure _

theorem looks_run_mapM {step : α → ExceptT CommandError (StateM Sandbox) β}
    (h : ∀ a, Looks (step a).run) (list : List α) : Looks (list.mapM step).run := by
  induction list with
  | nil =>
    rw [List.mapM_nil]
    exact looks_pure _
  | cons a rest ih =>
    rw [List.mapM_cons]
    exact looks_run_bind (h a) fun _ => looks_run_bind ih fun _ => looks_pure _

end Looks

/-! ## Reading -/

theorem looks_kind? (path : String) : Looks (Workspace.kind? path) := by
  intro sandbox
  dsimp only [Workspace.kind?]
  split <;> rfl

theorem looks_names (directory : String) : Looks (Workspace.names directory) := fun _ => rfl

theorem looks_below (directory : String) : Looks (Workspace.below directory) := fun _ => rfl

theorem looks_readText (path : String) : Looks (Workspace.readText path) := fun _ => rfl

theorem looks_isDirectory (path : String) : Looks (isDirectory path) :=
  (looks_kind? path).bind fun _ => looks_pure _

theorem looks_stands (directory name : String) : Looks (stands directory name) := by
  unfold stands
  split
  · exact looks_isDirectory directory
  · exact (looks_kind? _).bind fun _ => looks_pure _

theorem looks_collect {results : String → StateM Sandbox (List String)}
    (h : ∀ path, Looks (results path)) (paths : List String) : Looks (collect results paths) := by
  induction paths with
  | nil => exact looks_pure _
  | cons path rest ih => exact (h path).bind fun _ => ih.bind fun _ => looks_pure _

theorem looks_found (wantsDirectory : Bool) (path : String) : Looks (found wantsDirectory path) := by
  refine (looks_isDirectory path).bind fun there => ?_
  split <;> exact looks_pure _

/-- The paths that fit components are found by looking. The induction is on the components; going
down any number of directories asks for the same components or for those behind them. -/
theorem looks_expand (wantsDirectory : Bool) (components : List Component) :
    (∀ directory, Looks (expandIn wantsDirectory components directory)) ∧
      ∀ path, Looks (expandBelow wantsDirectory components path) := by
  induction components with
  | nil =>
    refine ⟨fun directory => ?_, fun path => ?_⟩
    · rw [expandIn]
      exact looks_found _ _
    · rw [expandBelow]
      exact looks_found _ _
  | cons component rest ih =>
    obtain ⟨inside, below⟩ := ih
    refine ⟨fun directory => ?_, fun path => ?_⟩
    · cases component with
      | literal name =>
        rw [expandIn]
        refine (looks_stands directory name).bind fun there => ?_
        split
        · exact inside _
        · exact looks_pure _
      | directories =>
        rw [expandIn]
        refine (looks_isDirectory directory).bind fun there => ?_
        split
        · exact (looks_below directory).bind fun _ => looks_collect below _
        · exact looks_pure _
      | wild tokens =>
        rw [expandIn]
        refine (looks_isDirectory directory).bind fun there => ?_
        split
        · refine (looks_collect inside _).bind fun _ => (looks_names directory).bind fun _ => ?_
          exact (looks_collect inside _).bind fun _ => looks_pure _
        · exact looks_pure _
    · cases component with
      | directories =>
        rw [expandBelow]
        exact below path
      | literal _ | wild _ =>
        rw [expandBelow]
        · split
          · exact inside path
          · exact looks_pure _
        · intro same
          cases same

theorem Pattern.looks_expand (pattern : Pattern) : Looks pattern.expand :=
  (CommandLine.looks_expand _ _).1 _

theorem looks_resolve (input : String) : Looks (resolve (m := StateM Sandbox) input).run := by
  unfold resolve
  split
  · split
    · exact looks_pure _
    · next pattern _ =>
      have expanded : Looks (ExceptT.lift pattern.expand :
          ExceptT CommandError (StateM Sandbox) (List String)).run :=
        pattern.looks_expand.bind fun _ => looks_pure _
      refine looks_run_bind expanded fun paths => ?_
      split <;> exact looks_pure _
  · exact looks_pure _

theorem looks_load (pointer : Option String) (path : String) :
    Looks (load (m := StateM Sandbox) pointer path).run := by
  unfold load
  refine looks_run_bind ?_ fun text => ?_
  · exact (looks_readText path).bind fun _ => looks_pure _
  · split <;> exact looks_pure _

/-- **Reading the inputs changes nothing.** -/
theorem Inputs.looks_load (inputs : Inputs) : Looks (inputs.load (m := StateM Sandbox)).run := by
  unfold Inputs.load
  refine looks_run_bind (looks_run_mapM looks_resolve _) fun paths => ?_
  exact looks_run_bind (looks_run_mapM (CommandLine.looks_load _) _) fun _ => looks_pure _

/-! ## Printing -/

/-- The compilation that inputs give in a sandbox. -/
def Inputs.loadIn (inputs : Inputs) (sandbox : Sandbox) : Except CommandError Compilation :=
  ((inputs.load : ExceptT CommandError (StateM Sandbox) Compilation).run sandbox).1

/-- The sandbox behind a command, whether or not it has failed. -/
def Command.after (command : Command) (sandbox : Sandbox) : Sandbox :=
  ((command.run : ExceptT CommandError (StateM Sandbox) Unit).run sandbox).2

/-- Without a directory to write into, a pass is printed as its listing, also if declarations have
been refused. -/
theorem printed_generate {options : GenerateOptions} {sandbox : Sandbox} {compilation : Compilation}
    {output : Output} (runs : options.noOp = false) (out : options.out = none)
    (loaded : options.inputs.loadIn sandbox = .ok compilation)
    (ok : ((Generator.new options.config).run compilation).1 = .ok output) :
    ((Command.generate options).after sandbox).printed = sandbox.printed ++ listing output := by
  have read : (options.inputs.load : ExceptT CommandError (StateM Sandbox) Compilation).run sandbox =
      (.ok compilation, sandbox) := Prod.ext loaded (options.inputs.looks_load sandbox)
  have ran : ((options.run : ExceptT CommandError (StateM Sandbox) Unit).run sandbox).2.printed =
      sandbox.printed ++ listing output := by
    unfold GenerateOptions.run
    rw [ExceptT.run_bind]
    simp only [bind, StateT.bind, read, ok, out]
    cases output.diagnostics.isEmpty <;> rfl
  rw [Command.after, Command.run, runs]
  exact ran

/-- **What `generate` prints can be cut into the artifacts again.** If the inputs of a `generate`
without a directory give a compilation over which the pass succeeds, and no name of the transport
has a line feed, then what is printed has nothing before its first heading, and behind the headings
it has exactly the sources of the artifacts, in their order and under their file names. -/
theorem sections_printed (options : GenerateOptions) (sandbox : Sandbox)
    {compilation : Compilation} {output : Output}
    (runs : options.noOp = false) (out : options.out = none)
    (transport : ∀ name ∈ options.config.settings.transport.names, '\n' ∉ name.toList)
    (loaded : options.inputs.loadIn sandbox = .ok compilation)
    (ok : ((Generator.new options.config).run compilation).1 = .ok output) :
    ∃ printed, ((Command.generate options).after sandbox).printed = sandbox.printed ++ printed ∧
      sections printed =
        ("", output.artifacts.map fun artifact => (artifact.fileName, artifact.source)) :=
  ⟨listing output, printed_generate runs out loaded ok,
    sections_listing_of_ok (Generator.remembers_new options.config) transport ok⟩

/-- A class that carries the usual marker attribute, as a document. -/
def clientDocument : String :=
  "\x7b\"types\": [\x7b\"kind\": \"class\", \"name\": \"Client\", " ++
    "\"accessibility\": \"public\", " ++
    "\"attributes\": [\x7b\"name\": \"HubStubs.GenerateHubClientAttribute\"\x7d]\x7d]\x7d"

/-- A sandbox with that document in a file. -/
def clientSandbox : Sandbox := .new ⟨[(["client.json"], .text clientDocument)]⟩ []

/-- Prints the sources for that file. -/
def printClient : GenerateOptions := ⟨⟨none, ["client.json"]⟩, {}, none, false⟩

set_option maxRecDepth 2000 in
theorem loadIn_printClient : printClient.inputs.loadIn clientSandbox =
    .ok (markedClasses ({} : GeneratorConfig).marker ["Client"]) := by
  with_unfolding_all rfl

theorem sections_printed_client :
    ∃ output,
      ((Generator.new {}).run (markedClasses ({} : GeneratorConfig).marker ["Client"])).1 =
        .ok output ∧
      output.artifacts.map (·.fileName) = ["GenerateHubClientAttribute.g.cs", "Client.g.cs"] ∧
      sections ((Command.generate printClient).after clientSandbox).printed =
        ("", output.artifacts.map fun artifact => (artifact.fileName, artifact.source)) := by
  have accepted : (({} : GeneratorConfig).settlement
      (markedClasses ({} : GeneratorConfig).marker ["Client"])).accepted = [.bare "Client"] := by
    rw [GeneratorConfig.settlement_markedClasses]
    rfl
  obtain ⟨output, ok⟩ := Generator.exists_output_of_accepted (by rw [accepted]; decide +kernel)
  have names := Generator.fileNames_of_ok (Generator.remembers_new {}) ok
  change _ = _ :: (({} : GeneratorConfig).settlement _).accepted.map _ at names
  have transport : ∀ name ∈ printClient.config.settings.transport.names, '\n' ∉ name.toList :=
    fun name mem lineFeed => CSharp.not_structural_of_isTypeNamePart
      (Stub.isTypeNamePart_transport name mem _ lineFeed) (by decide)
  obtain ⟨printed, all, cut⟩ :=
    sections_printed printClient clientSandbox rfl rfl transport loadIn_printClient ok
  have fresh : clientSandbox.printed = "" := rfl
  rw [fresh, String.empty_append] at all
  refine ⟨output, ok, ?_, all ▸ cut⟩
  rw [names, accepted]
  decide

end TypedHub.CommandLine
