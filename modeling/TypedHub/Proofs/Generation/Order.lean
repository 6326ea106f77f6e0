import Mathlib.Data.Prod.Basic
import TypedHub.Proofs.Generation.Edits
import TypedHub.Proofs.Generation.FileNames

/-!
# The order of the types

Where no two types of a compilation have the same qualified name, their order makes no difference
but for the order of what a pass gives (`run_of_perm`): every name stands for the same type, so
every declaration has the same stub; and no two stubs have the same file name, so each of them is
settled as if it were alone (`settle_eq_settleAlone`).
-/

namespace TypedHub

open Metadata (Compilation TypeSymbol)

/-! ## Declarations with file names of their own -/

namespace GeneratorConfig

variable {config : GeneratorConfig} {taken : List String} {stub : Stub}

/-- Each declaration settled as if it were alone. -/
def settleAlone (config : GeneratorConfig) (declared : List (String × Stub)) : Settlement where
  accepted := (declared.map Prod.snd).filter fun stub => config.objections [] stub = []
  diagnostics := declared.flatMap fun (declaration, stub) =>
    (config.objections [] stub).map (⟨declaration, ·⟩)

theorem objections_of_free (free : stub.fileName ∉ taken) :
    config.objections taken stub = config.objections [] stub := by
  rw [objections, objections, if_neg free, if_neg List.not_mem_nil]

/-- Where all file names are different, none is found taken. -/
theorem settle_eq_settleAlone {declared : List (String × Stub)}
    (distinct : (taken ++ declared.map (·.2.fileName)).Nodup) :
    config.settle taken declared = config.settleAlone declared := by
  induction declared generalizing taken with
  | nil => rfl
  | cons head rest ih =>
    obtain ⟨declaration, stub⟩ := head
    rw [List.map_cons, List.nodup_middle] at distinct
    obtain ⟨free, others⟩ := List.nodup_cons.1 distinct
    have alone : config.objections taken stub = config.objections [] stub :=
      objections_of_free fun mem => free (List.mem_append_left _ mem)
    rw [settle, alone]
    split
    · next accepted =>
      rw [ih distinct]
      simp [settleAlone, accepted]
    · next clashing =>
      -- a refused stub leaves its file name free, so the rest is settled with the same names taken
      have refused : config.objections [] stub ≠ [] := clashing
      rw [ih others]
      simp [settleAlone, refused]

theorem settleAlone_perm {declared others : List (String × Stub)} (perm : declared.Perm others) :
    (config.settleAlone declared).accepted.Perm (config.settleAlone others).accepted ∧
      (config.settleAlone declared).diagnostics.Perm (config.settleAlone others).diagnostics :=
  ⟨(perm.map _).filter _, perm.flatMap_right _⟩

end GeneratorConfig

/-! ## Compilations with names of their own -/

theorem Declaration.symbol_of_ofSymbol? {marker : String} {symbol : TypeSymbol}
    {declaration : Declaration} (made : ofSymbol? marker symbol = some declaration) :
    declaration.symbol = symbol := by
  rw [ofSymbol?] at made
  split at made
  · split at made
    · cases made; rfl
    · cases made
  · cases made

/-- Each declaration is made by a type of its own. -/
theorem symbols_declarations_sublist (marker : String) (compilation : Compilation) :
    ((declarations marker compilation).map (·.symbol)).Sublist compilation.types := by
  rw [declarations]
  induction compilation.types with
  | nil => exact .slnil
  | cons type rest ih =>
    rw [List.filterMap_cons]
    split
    · exact ih.cons type
    · next declaration made =>
      rw [List.map_cons, Declaration.symbol_of_ofSymbol? made]
      exact ih.cons_cons type

/-- The declarations of a compilation with their stubs, as they are settled. -/
def declared (marker : String) (compilation : Compilation) : List (String × Stub) :=
  (declarations marker compilation).map fun declaration =>
    (declaration.symbol.qualifiedName, .ofDeclaration compilation declaration)

/-- Declarations have different names where all types have. -/
theorem nodup_qualifiedName_declarations {compilation : Compilation}
    (distinct : (compilation.types.map (·.qualifiedName)).Nodup) (marker : String) :
    ((declarations marker compilation).map (·.symbol.qualifiedName)).Nodup := by
  have names := distinct.sublist ((symbols_declarations_sublist marker compilation).map
    (·.qualifiedName))
  rwa [List.map_map] at names

theorem nodup_fileNames_declared {marker : String} {compilation : Compilation}
    (distinct : ((declarations marker compilation).map (·.symbol.qualifiedName)).Nodup) :
    ((declared marker compilation).map (·.2.fileName)).Nodup := by
  have sources : (declared marker compilation).map (·.2.fileName) =
      ((declarations marker compilation).map (·.symbol.qualifiedName)).map (· ++ ".g.cs") := by
    rw [declared, List.map_map, List.map_map]
    exact List.map_congr_left fun _ _ => Stub.fileName_eq _
  rw [sources]
  exact distinct.map fun _ _ => (String.append_left_inj _).1

theorem settlement_eq_settleAlone (config : GeneratorConfig) {compilation : Compilation}
    (distinct : ((declarations config.marker compilation).map (·.symbol.qualifiedName)).Nodup) :
    config.settlement compilation = config.settleAlone (declared config.marker compilation) :=
  GeneratorConfig.settle_eq_settleAlone (nodup_fileNames_declared distinct)

variable {first second : Compilation}

theorem find?_eq_of_perm (perm : first.types.Perm second.types)
    (distinct : (first.types.map (·.qualifiedName)).Nodup) (name : String) :
    first.find? name = second.find? name := by
  rw [Compilation.find?_eq, Compilation.find?_eq, find?_key_eq_of_perm perm distinct]

theorem declared_perm (perm : first.types.Perm second.types)
    (distinct : (first.types.map (·.qualifiedName)).Nodup) (marker : String) :
    (declared marker first).Perm (declared marker second) := by
  have stubs : Stub.ofDeclaration first = Stub.ofDeclaration second :=
    funext fun _ => Stub.ofDeclaration_congr fun name _ => find?_eq_of_perm perm distinct name
  rw [declared, declared, stubs]
  exact (perm.filterMap _).map _

theorem settlement_perm (config : GeneratorConfig) (perm : first.types.Perm second.types)
    (distinct : (first.types.map (·.qualifiedName)).Nodup) :
    (config.settlement first).accepted.Perm (config.settlement second).accepted ∧
      (config.settlement first).diagnostics.Perm (config.settlement second).diagnostics := by
  rw [settlement_eq_settleAlone config (nodup_qualifiedName_declarations distinct _),
    settlement_eq_settleAlone config
      (nodup_qualifiedName_declarations ((perm.map _).nodup_iff.1 distinct) _)]
  exact GeneratorConfig.settleAlone_perm (declared_perm perm distinct config.marker)

/-! ## Passes -/

/-- Caches that are records of the same stubs have the same entries. -/
theorem Cache.IsRecordOf.perm {cache other : Cache} {settings : Settings} {stubs others : List Stub}
    (h : cache.IsRecordOf settings stubs) (h' : other.IsRecordOf settings others)
    (perm : stubs.Perm others) : cache.entries.Perm other.entries := by
  refine (List.map_perm_map_iff ?_).1 (h.trans ((perm.map _).trans h'.symm))
  rintro ⟨fileName, stub, source⟩ ⟨fileName', stub', source'⟩ same
  cases same
  rfl

namespace Generator

/-- **The order of types with different names makes no difference.** First passes over compilations
with the same types either both succeed or both fail. If they succeed, the artifacts behind the
marker attribute and the diagnostics are the same up to their order, and the caches are the same. -/
theorem run_of_perm (config : GeneratorConfig) (perm : first.types.Perm second.types)
    (distinct : (first.types.map (·.qualifiedName)).Nodup) :
    ((∃ output, ((new config).run first).1 = .ok output) ↔
      ∃ output, ((new config).run second).1 = .ok output) ∧
    ∀ output output', ((new config).run first).1 = .ok output →
      ((new config).run second).1 = .ok output' →
      (output.artifacts.tail.map (·.content)).Perm (output'.artifacts.tail.map (·.content)) ∧
      output.diagnostics.Perm output'.diagnostics ∧
      ((new config).run first).2.cache.entries.Perm ((new config).run second).2.cache.entries ∧
      ∀ fileName, ((new config).run first).2.cache.find? fileName =
        ((new config).run second).2.cache.find? fileName := by
  have remembers := remembers_new config
  obtain ⟨accepted, diagnostics⟩ := settlement_perm (new config).config perm distinct
  constructor
  · rw [exists_output_iff remembers, exists_output_iff remembers]
    exact and_congr_right fun _ => forall_congr' fun _ => imp_congr_left accepted.mem_iff
  intro output output' ok ok'
  have records := (remembers_run_of_ok remembers ok).isRecordOf
  have records' := (remembers_run_of_ok remembers ok').isRecordOf
  rw [config_run remembers] at records records'
  have entries := records.perm records' accepted
  refine ⟨?contents, ?diagnostics, entries, ?cache⟩
  case contents =>
    -- what is written for a stub does not depend on its place, so the contents follow the stubs
    have written := accepted.map fun stub =>
      (stub.fileName, stub.emit (new config).config.settings)
    rw [← contents_behind_marker remembers ok, ← contents_behind_marker remembers ok'] at written
    refine (List.map_perm_map_iff ?injective).1 written
    exact .prodMap Function.injective_id fun _ _ => Except.ok.inj
  case diagnostics =>
    rw [diagnostics_of_ok remembers ok, diagnostics_of_ok remembers ok']
    exact diagnostics
  case cache => exact find?_key_eq_of_perm entries (Cache.distinct _)

/-- Two classes, and the interface that one of them names. -/
def pair : Compilation :=
  ⟨[caller.symbol, markedClass ({} : GeneratorConfig).marker "Client", calls]⟩

/-- The same in the opposite order. -/
def swapped : Compilation := ⟨pair.types.reverse⟩

theorem accepted_pair :
    (({} : GeneratorConfig).settlement pair).accepted = [calling, .bare "Client"] := by
  have found : declarations ({} : GeneratorConfig).marker pair =
      [caller, ⟨markedClass _ "Client", ⟨_, []⟩⟩] := rfl
  have stub : Stub.ofDeclaration pair caller = calling := ofDeclaration_caller rfl rfl
  rw [GeneratorConfig.settlement, found]
  simp only [List.map_cons, List.map_nil, stub, ofDeclaration_markedClass]
  decide

theorem run_of_perm_pair :
    ∃ output output', ((new {}).run pair).1 = .ok output ∧
      ((new {}).run swapped).1 = .ok output' ∧
      (output.artifacts.tail.map (·.content)).Perm (output'.artifacts.tail.map (·.content)) := by
  obtain ⟨output, ok⟩ : ∃ output, ((new {}).run pair).1 = .ok output :=
    exists_output_of_accepted (by rw [accepted_pair]; decide)
  have perm : pair.types.Perm swapped.types := (List.reverse_perm pair.types).symm
  have distinct : (pair.types.map (·.qualifiedName)).Nodup := by decide
  obtain ⟨both, same⟩ := run_of_perm {} perm distinct
  obtain ⟨output', ok'⟩ := both.1 ⟨output, ok⟩
  exact ⟨output, output', ok, ok', (same output output' ok ok').1⟩

end Generator

end TypedHub
