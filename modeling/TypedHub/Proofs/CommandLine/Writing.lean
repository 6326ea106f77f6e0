import TypedHub.CommandLine.Command
import TypedHub.CommandLine.Disk
import TypedHub.Proofs.Steps
import TypedHub.Proofs.Text.Split

/-!
# Writing files into a directory

What is read back from a disk after files have been written into one directory of it. A file that
was written is read as it was written (`readText_writeText`), and files with other names are as they
were (`readText_writeText_of_ne`). So files with different names do not overwrite each other
(`readText_writeFiles`).
-/

namespace TypedHub.CommandLine

/-- A name that leads to an entry of the directory it stands behind, and of no other. -/
structure IsFileName (name : String) : Prop where
  noSlash : '/' ∉ name.toList
  moves : staysInPlace name = false
  notParent : name ≠ ".."

namespace IsFileName

variable {name : String}

theorem ne_empty (h : IsFileName name) : name ≠ "" := by
  rintro rfl
  exact absurd h.moves (by decide)

theorem toList_ne_nil (h : IsFileName name) : name.toList ≠ [] :=
  fun nil => h.ne_empty (String.toList_eq_nil_iff.1 nil)

theorem step_eq (h : IsFileName name) (place : Place) : Disk.step place name = place ++ [name] := by
  rw [Disk.step, h.moves, if_neg Bool.false_ne_true, if_neg h.notParent]

end IsFileName

/-! ## Paths of files in a directory -/

/-- The components of paths into a directory, but the last one. -/
def directoryParts (directory : String) : List String :=
  if directory = "" then []
  else if endsWithSlash directory then (Text.parts '/' directory).dropLast
  else Text.parts '/' directory

variable {directory name : String}

theorem parts_joinPath (h : IsFileName name) (directory : String) :
    Text.parts '/' (joinPath directory name) = directoryParts directory ++ [name] := by
  have alone : Text.splitAt '/' name.toList = [name.toList] := Text.splitAt_of_not_mem h.noSlash
  unfold joinPath directoryParts Text.parts
  by_cases empty : directory = ""
  · simp [empty, alone]
  by_cases slash : endsWithSlash directory = true
  · -- The slash at the end of the directory divides it from the name.
    obtain ⟨before, ends⟩ : ∃ before, directory.toList = before ++ ['/'] :=
      List.getLast?_eq_some_iff.1 (by simpa [endsWithSlash] using slash)
    simp [empty, slash, ends, Text.splitAt_append_cons, alone, Text.splitAt]
  · simp [empty, slash, Text.splitAt_append_cons, alone]

theorem isAbsolute_joinPath (h : IsFileName name) (directory : String) :
    isAbsolute (joinPath directory name) = isAbsolute directory := by
  unfold isAbsolute joinPath
  by_cases empty : directory = ""
  · subst empty
    cases chars : name.toList with
    | nil => exact absurd chars h.toList_ne_nil
    | cons c rest =>
      have other : c ≠ '/' := fun slash => h.noSlash (by simp [chars, slash])
      simp [chars, other]
  · cases chars : directory.toList with
    | nil => exact absurd (String.toList_eq_nil_iff.1 chars) empty
    | cons c rest => split <;> simp [chars]

theorem start_joinPath (h : IsFileName name) (place : Place) (directory : String) :
    Disk.start place (joinPath directory name) = Disk.start place directory := by
  rw [Disk.start, Disk.start, isAbsolute_joinPath h]

/-- The name stands at the end of the path. -/
theorem exists_toList_joinPath (directory name : String) :
    ∃ before, (joinPath directory name).toList = before ++ name.toList := by
  unfold joinPath
  split
  · exact ⟨directory.toList, by simp⟩
  · exact ⟨directory.toList ++ ['/'], by simp⟩

theorem endsWithSlash_joinPath (h : IsFileName name) (directory : String) :
    endsWithSlash (joinPath directory name) = false := by
  obtain ⟨before, ends⟩ := exists_toList_joinPath directory name
  have last := List.getLast?_eq_some_getLast h.toList_ne_nil
  have other : name.toList.getLast h.toList_ne_nil ≠ '/' := fun slash =>
    h.noSlash (slash ▸ List.getLast_mem _)
  simp [endsWithSlash, ends, List.getLast?_append, last, other]

theorem joinPath_ne_empty (h : IsFileName name) (directory : String) :
    joinPath directory name ≠ "" := by
  intro empty
  obtain ⟨before, ends⟩ := exists_toList_joinPath directory name
  rw [empty] at ends
  exact h.toList_ne_nil (List.append_eq_nil_iff.1 ends.symm).2

namespace Disk

variable {disk written : Disk} {place target parent : Place} {names : List String} {entry : Entry}

/-! ## Walking to a file -/

theorem walk_concat {place : Place} :
    disk.walk place (names ++ [name]) = .ok target ↔
      ∃ parent, disk.walk place names = .ok parent ∧ disk.at? parent = some .directory ∧
        ¬maxNameSize < name.utf8ByteSize ∧ step parent name = target := by
  induction names generalizing place with
  | nil =>
    simp only [List.nil_append, walk, Except.ok.injEq, exists_eq_left']
    split
    · next there => split <;> simp_all
    · next other => simp_all
    · next other => simp_all
  | cons first rest ih =>
    simp only [List.cons_append, walk]
    split
    · split
      · simp
      · exact ih
    · simp
    · simp

/-- A directory stays where it is when something is put where no directory stands. -/
theorem at?_put_of_directory (there : disk.at? place = some .directory)
    (free : disk.at? target ≠ some .directory) :
    (disk.put target entry).at? place = some .directory := by
  by_cases root : place = []
  · simp [at?, root]
  · have other : place ≠ target := fun same => free (same ▸ there)
    rw [at?_put _ _ _ _ root, if_neg other, there]

/-- What is put where no directory stands is in nobody's way. -/
theorem walk_put (free : disk.at? target ≠ some .directory)
    (walked : disk.walk place names = .ok parent) :
    (disk.put target entry).walk place names = .ok parent := by
  induction names generalizing place with
  | nil => exact walked
  | cons first rest ih =>
    rw [walk] at walked ⊢
    split at walked
    · next there =>
      rw [at?_put_of_directory there free]
      split at walked
      · cases walked
      · next short =>
        simp only [if_neg short]
        exact ih walked
    · cases walked
    · cases walked

/-! ## Files in a directory -/

variable {workingDirectory : Place} {text : String}

/-- Where a file in a directory stands, if the directory is there. -/
def fileIn (disk : Disk) (workingDirectory : Place) (directory name : String) :
    Except FileFault Place := do
  checkPath (joinPath directory name)
  disk.walk (start workingDirectory directory) (directoryParts directory ++ [name])

theorem writeText_joinPath (h : IsFileName name) :
    disk.writeText workingDirectory (joinPath directory name) text = do
      let target ← disk.fileIn workingDirectory directory name
      if disk.at? target = some .directory then throw .isDirectory
      return disk.put target (.text text) := by
  unfold writeText fileIn
  rw [if_neg (joinPath_ne_empty h directory), start_joinPath h, parts_joinPath h,
    endsWithSlash_joinPath h]
  cases checkPath (joinPath directory name) <;> rfl

theorem writeText_joinPath_eq_ok_iff (h : IsFileName name) :
    disk.writeText workingDirectory (joinPath directory name) text = .ok written ↔
      ∃ target, disk.fileIn workingDirectory directory name = .ok target ∧
        disk.at? target ≠ some .directory ∧ disk.put target (.text text) = written := by
  rw [writeText_joinPath h, bind_eq_ok_iff]
  refine exists_congr fun target => and_congr_right fun _ => ?_
  by_cases there : disk.at? target = some .directory <;>
    simp [bind, Except.bind, there, pure, Except.pure, throw, throwThe, MonadExceptOf.throw]

theorem find_joinPath (h : IsFileName name) :
    disk.find workingDirectory (joinPath directory name) = (do
      let target ← disk.fileIn workingDirectory directory name
      match disk.at? target with
      | some entry => return (target, entry)
      | none => throw .notFound) := by
  unfold find fileIn
  rw [if_neg (joinPath_ne_empty h directory), start_joinPath h, parts_joinPath h]
  cases checkPath (joinPath directory name) <;> rfl

theorem readText_joinPath_eq_ok_iff (h : IsFileName name) :
    disk.readText workingDirectory (joinPath directory name) = .ok text ↔
      ∃ target, disk.fileIn workingDirectory directory name = .ok target ∧
        disk.at? target = some (.text text) := by
  rw [readText, find_joinPath h, bind_assoc, bind_eq_ok_iff]
  refine exists_congr fun target => and_congr_right fun _ => ?_
  rcases disk.at? target with _ | _ | content | bytes <;>
    simp [bind, Except.bind, pure, Except.pure, throw, throwThe, MonadExceptOf.throw]

/-- What is put where no directory stands does not move the files of a directory. -/
theorem fileIn_put (free : disk.at? target ≠ some .directory)
    (found : disk.fileIn workingDirectory directory name = .ok place) :
    (disk.put target entry).fileIn workingDirectory directory name = .ok place := by
  obtain ⟨checked, walked⟩ := check_bind_eq_ok_iff.1 found
  exact check_bind_eq_ok_iff.2 ⟨checked, walk_put free walked⟩

/-- Files of one directory stand behind it, each under its name. -/
theorem exists_parent_of_fileIn (h : IsFileName name)
    (found : disk.fileIn workingDirectory directory name = .ok target) :
    ∃ parent, disk.walk (start workingDirectory directory) (directoryParts directory) =
      .ok parent ∧ target = parent ++ [name] := by
  obtain ⟨parent, walked, -, -, rfl⟩ := walk_concat.1 (check_bind_eq_ok_iff.1 found).2
  exact ⟨parent, walked, h.step_eq parent⟩

theorem ne_of_fileIn {other : String} {place : Place} (h : IsFileName name)
    (h' : IsFileName other) (apart : other ≠ name)
    (found : disk.fileIn workingDirectory directory name = .ok target)
    (found' : disk.fileIn workingDirectory directory other = .ok place) : place ≠ target := by
  obtain ⟨parent, walked, rfl⟩ := exists_parent_of_fileIn h found
  obtain ⟨parent', walked', rfl⟩ := exists_parent_of_fileIn h' found'
  obtain rfl := Except.ok.inj (walked'.symm.trans walked)
  simpa using apart

theorem ne_root_of_fileIn (h : IsFileName name)
    (found : disk.fileIn workingDirectory directory name = .ok target) : target ≠ [] := by
  obtain ⟨parent, -, rfl⟩ := exists_parent_of_fileIn h found
  simp

/-! ## Reading what was written -/

/-- A file that was written is read as it was written. -/
theorem readText_writeText (h : IsFileName name)
    (wrote : disk.writeText workingDirectory (joinPath directory name) text = .ok written) :
    written.readText workingDirectory (joinPath directory name) = .ok text := by
  obtain ⟨target, found, free, rfl⟩ := (writeText_joinPath_eq_ok_iff h).1 wrote
  refine (readText_joinPath_eq_ok_iff h).2 ⟨target, fileIn_put free found, ?_⟩
  rw [at?_put _ _ _ _ (ne_root_of_fileIn h found), if_pos rfl]

/-- Files with other names are as they were. -/
theorem readText_writeText_of_ne {other content : String} (h : IsFileName name)
    (h' : IsFileName other) (apart : other ≠ name)
    (wrote : disk.writeText workingDirectory (joinPath directory name) text = .ok written)
    (read : disk.readText workingDirectory (joinPath directory other) = .ok content) :
    written.readText workingDirectory (joinPath directory other) = .ok content := by
  obtain ⟨target, found, free, rfl⟩ := (writeText_joinPath_eq_ok_iff h).1 wrote
  obtain ⟨place, found', there⟩ := (readText_joinPath_eq_ok_iff h').1 read
  refine (readText_joinPath_eq_ok_iff h').2 ⟨place, fileIn_put free found', ?_⟩
  rw [at?_put _ _ _ _ (ne_root_of_fileIn h' found'),
    if_neg (ne_of_fileIn h h' apart found found'), there]

end Disk

/-! ## Writing artifacts -/

namespace Sandbox

variable {sandbox final : Sandbox} {directory : String}

/-- The text of a file, by its path from the working directory. -/
def readText (sandbox : Sandbox) (path : String) : Except FileFault String :=
  sandbox.disk.readText sandbox.workingDirectory path

/-- An artifact that is written can be read, and files with other names are as they were. -/
theorem readText_of_write {artifact : Artifact} (h : IsFileName artifact.fileName)
    (wrote : (attempt (.unwritable (joinPath directory artifact.fileName))
      (Workspace.writeText (joinPath directory artifact.fileName) artifact.source) :
        ExceptT CommandError (StateM Sandbox) Unit).run sandbox = (.ok (), final)) :
    final.readText (joinPath directory artifact.fileName) = .ok artifact.source ∧
      ∀ name content, IsFileName name → name ≠ artifact.fileName →
        sandbox.readText (joinPath directory name) = .ok content →
        final.readText (joinPath directory name) = .ok content := by
  change (Except.mapError _ (sandbox.change _).1, (sandbox.change _).2) = _ at wrote
  cases result : sandbox.disk.writeText sandbox.workingDirectory
      (joinPath directory artifact.fileName) artifact.source with
  | error fault =>
    rw [result] at wrote
    cases wrote
  | ok disk =>
    rw [result] at wrote
    cases wrote
    exact ⟨Disk.readText_writeText h result, fun name content h' apart =>
      Disk.readText_writeText_of_ne h h' apart result⟩

/-- Two programs one after the other succeed only if both do, the second where the first ends. -/
theorem run_bind_eq_ok {first : ExceptT CommandError (StateM Sandbox) Unit}
    {next : Unit → ExceptT CommandError (StateM Sandbox) Unit}
    (ok : (first >>= next).run sandbox = (.ok (), final)) :
    ∃ middle, first.run sandbox = (.ok (), middle) ∧ (next ()).run middle = (.ok (), final) := by
  rw [ExceptT.run_bind] at ok
  simp only [bind, StateT.bind] at ok
  match result : first.run sandbox with
  | (.ok (), middle) =>
    rw [result] at ok
    exact ⟨middle, rfl, ok⟩
  | (.error e, middle) =>
    rw [result] at ok
    cases ok

/-- Artifacts with different file names can be read after all of them have been written, and files
with other names are as they were. The induction is on the artifacts: those that come later leave
the first one as it was written. -/
theorem readText_of_writeAll {artifacts : List Artifact}
    (names : ∀ artifact ∈ artifacts, IsFileName artifact.fileName)
    (distinct : (artifacts.map (·.fileName)).Nodup)
    (wrote : (artifacts.forM fun artifact =>
      attempt (.unwritable (joinPath directory artifact.fileName))
        (Workspace.writeText (joinPath directory artifact.fileName) artifact.source) :
          ExceptT CommandError (StateM Sandbox) Unit).run sandbox = (.ok (), final)) :
    (∀ artifact ∈ artifacts,
      final.readText (joinPath directory artifact.fileName) = .ok artifact.source) ∧
    ∀ name content, IsFileName name → name ∉ artifacts.map (·.fileName) →
      sandbox.readText (joinPath directory name) = .ok content →
      final.readText (joinPath directory name) = .ok content := by
  induction artifacts generalizing sandbox with
  | nil =>
    cases wrote
    exact ⟨by simp, fun _ _ _ _ read => read⟩
  | cons first rest ih =>
    obtain ⟨middle, wroteFirst, wroteRest⟩ := run_bind_eq_ok wrote
    rw [List.forall_mem_cons] at names
    rw [List.map_cons, List.nodup_cons] at distinct
    obtain ⟨written, kept⟩ := readText_of_write names.1 wroteFirst
    obtain ⟨later, keptLater⟩ := ih names.2 distinct.2 wroteRest
    refine ⟨List.forall_mem_cons.2 ⟨?_, later⟩, fun name content h apart read => ?_⟩
    · exact keptLater _ _ names.1 distinct.1 written
    · rw [List.map_cons, List.mem_cons, not_or] at apart
      exact keptLater _ _ h apart.2 (kept _ _ h apart.1 read)

/-- **Artifacts with different file names do not overwrite each other.** If a pass has been written
into a directory, each of its artifacts can be read from its file. -/
theorem readText_of_writeArtifacts {output : Output}
    (names : ∀ artifact ∈ output.artifacts, IsFileName artifact.fileName)
    (distinct : (output.artifacts.map (·.fileName)).Nodup)
    (wrote : (writeArtifacts directory output :
      ExceptT CommandError (StateM Sandbox) Unit).run sandbox = (.ok (), final)) :
    ∀ artifact ∈ output.artifacts,
      final.readText (joinPath directory artifact.fileName) = .ok artifact.source := by
  obtain ⟨middle, -, wroteAll⟩ := run_bind_eq_ok wrote
  exact (readText_of_writeAll names distinct wroteAll).1

end Sandbox

end TypedHub.CommandLine
