import TypedHub.Generation.Pass

/-!
# Accepted declarations have file names of their own

`GeneratorConfig.settle` threads the file names that are taken through the declarations. What a
later proof needs of it is said here once: all accepted stubs have been declared, none of them has a
file name that was taken before, and no two of them have the same one.
-/

namespace TypedHub

namespace GeneratorConfig

variable {config : GeneratorConfig} {taken : List String} {stub : Stub}

/-- A stub is accepted if its file name is free and its own names do not clash, or need not be
looked at. -/
theorem objections_eq_nil_iff :
    config.objections taken stub = [] ↔
      stub.fileName ∉ taken ∧ (config.refusesClashes = true → stub.clashes = []) := by
  unfold objections
  split
  · next h => simp [h]
  · next h => split <;> simp_all

/-! ## One declaration at a time -/

theorem settle_cons_accepted {declaration : String} {rest : List (String × Stub)}
    (h : config.objections taken stub = []) :
    (config.settle taken ((declaration, stub) :: rest)).accepted =
      stub :: (config.settle (stub.fileName :: taken) rest).accepted := by
  rw [settle, h]

theorem settle_cons_refused {declaration : String} {rest : List (String × Stub)}
    (h : config.objections taken stub ≠ []) :
    (config.settle taken ((declaration, stub) :: rest)).accepted =
      (config.settle taken rest).accepted := by
  rw [settle]
  split
  · next none => exact absurd none h
  · rfl

/-! ## All declarations -/

theorem mem_of_mem_accepted {declared : List (String × Stub)}
    (h : stub ∈ (config.settle taken declared).accepted) : stub ∈ declared.map (·.2) := by
  induction declared generalizing taken with
  | nil => simp [settle] at h
  | cons head rest ih =>
    obtain ⟨declaration, first⟩ := head
    by_cases objections : config.objections taken first = []
    · rw [settle_cons_accepted objections] at h
      rcases List.mem_cons.1 h with rfl | h
      · exact List.mem_cons_self
      · exact List.mem_cons_of_mem _ (ih h)
    · rw [settle_cons_refused objections] at h
      exact List.mem_cons_of_mem _ (ih h)

/-- Each accepted stub is that of a declaration. -/
theorem exists_declaration_of_mem_accepted {compilation : Metadata.Compilation}
    (h : stub ∈ (config.settlement compilation).accepted) :
    ∃ declaration ∈ declarations config.marker compilation,
      stub = .ofDeclaration compilation declaration := by
  obtain ⟨pair, mem, rfl⟩ := List.mem_map.1 (mem_of_mem_accepted h)
  obtain ⟨declaration, declared, rfl⟩ := List.mem_map.1 mem
  exact ⟨declaration, declared, rfl⟩

/-- No accepted stub has a file name that was taken before. -/
theorem fileName_not_mem_of_mem_accepted {declared : List (String × Stub)}
    (h : stub ∈ (config.settle taken declared).accepted) : stub.fileName ∉ taken := by
  induction declared generalizing taken with
  | nil => simp [settle] at h
  | cons head rest ih =>
    obtain ⟨declaration, first⟩ := head
    by_cases objections : config.objections taken first = []
    · rw [settle_cons_accepted objections] at h
      rcases List.mem_cons.1 h with rfl | h
      · exact (objections_eq_nil_iff.1 objections).1
      · exact fun mem => ih h (List.mem_cons_of_mem _ mem)
    · rw [settle_cons_refused objections] at h
      exact ih h

/-- No two accepted stubs have the same file name. -/
theorem nodup_fileName_accepted (config : GeneratorConfig) (taken : List String)
    (declared : List (String × Stub)) :
    ((config.settle taken declared).accepted.map (·.fileName)).Nodup := by
  induction declared generalizing taken with
  | nil => exact List.nodup_nil
  | cons head rest ih =>
    obtain ⟨declaration, first⟩ := head
    by_cases objections : config.objections taken first = []
    · rw [settle_cons_accepted objections, List.map_cons, List.nodup_cons]
      refine ⟨fun mem => ?_, ih _⟩
      -- The name of the first stub is taken for all that come after it.
      obtain ⟨other, accepted, same⟩ := List.mem_map.1 mem
      exact fileName_not_mem_of_mem_accepted accepted (same ▸ List.mem_cons_self)
    · rw [settle_cons_refused objections]
      exact ih taken

end GeneratorConfig

end TypedHub
