import TypedHub.Proofs.CommandLine.Writing

/-!
# Making directories

Making a directory only adds directories to a disk (`Disk.growsTo_of_makeDirectories`), and then
files can be found in it (`Disk.exists_parent_of_makeDirectories`). A file that can be written there
still can after a file with another name has been written (`Disk.Takes.put`).
-/

namespace TypedHub.CommandLine

namespace Disk

variable {disk later made : Disk} {workingDirectory place target parent : Place}
  {names : List String} {directory name : String} {entry : Entry}

/-! ## More directories -/

/-- All that is on the disk is also on the later one, which has only directories beyond that. -/
def GrowsTo (disk later : Disk) : Prop :=
  ∀ place, later.at? place = disk.at? place ∨
    disk.at? place = none ∧ later.at? place = some .directory

theorem GrowsTo.refl (disk : Disk) : disk.GrowsTo disk := fun _ => .inl rfl

theorem GrowsTo.trans (h : disk.GrowsTo later) (h' : later.GrowsTo made) : disk.GrowsTo made := by
  intro place
  rcases h place with same | ⟨free, added⟩
  · rw [← same]
    exact h' place
  · rcases h' place with same | ⟨taken, -⟩
    · exact .inr ⟨free, same.trans added⟩
    · rw [added] at taken
      cases taken

theorem at?_put_of_ne (other : place ≠ target) :
    (disk.put target entry).at? place = disk.at? place := by
  by_cases root : place = []
  · rw [root]
    rfl
  · rw [at?_put _ _ _ _ root, if_neg other]

theorem growsTo_put (free : disk.at? target = none) :
    disk.GrowsTo (disk.put target .directory) := by
  intro place
  by_cases same : place = target
  · have notRoot : target ≠ [] := by
      rintro rfl
      cases free
    subst same
    exact .inr ⟨free, by rw [at?_put _ _ _ _ notRoot, if_pos rfl]⟩
  · exact .inl (at?_put_of_ne same)

/-! ## Making them -/

/-- The directory is made, or it is there. -/
theorem makeDirectory_eq_ok_iff :
    disk.makeDirectory place names = .ok made ↔
      ∃ target, disk.walk place names = .ok target ∧
        (disk.at? target = none ∧ disk.put target .directory = made ∨
          disk.at? target = some .directory ∧ disk = made) := by
  rw [makeDirectory, bind_eq_ok_iff]
  refine exists_congr fun target => and_congr_right fun _ => ?_
  -- a file at the place, of text or not, is in the way
  rcases disk.at? target with _ | _ | content | bytes <;>
    simp [pure, Except.pure, throw, throwThe, MonadExceptOf.throw]

theorem growsTo_of_makeDirectory (ok : disk.makeDirectory place names = .ok made) :
    disk.GrowsTo made := by
  obtain ⟨target, -, ⟨free, rfl⟩ | ⟨-, rfl⟩⟩ := makeDirectory_eq_ok_iff.1 ok
  · exact growsTo_put free
  · exact .refl disk

/-- Then the names lead to it. -/
theorem walk_of_makeDirectory (ok : disk.makeDirectory place names = .ok made) :
    ∃ target, made.walk place names = .ok target ∧ made.at? target = some .directory := by
  obtain ⟨target, walked, ⟨free, rfl⟩ | ⟨there, rfl⟩⟩ := makeDirectory_eq_ok_iff.1 ok
  · have notRoot : target ≠ [] := by
      rintro rfl
      cases free
    refine ⟨target, walk_put (by rw [free]; exact nofun) walked, ?_⟩
    rw [at?_put _ _ _ _ notRoot, if_pos rfl]
  · exact ⟨target, walked, there⟩

/-- What is done first if the directory that another one stands in is missing. -/
theorem growsTo_of_makeMissing (ok : disk.makeMissing place names = .ok made) :
    disk.GrowsTo made := by
  induction names generalizing made with
  | nil =>
    cases ok
    exact .refl disk
  | cons name outer ih =>
    unfold makeMissing at ok
    split at ok
    -- what is farther out is missing too, and made first
    · obtain ⟨middle, missing, last⟩ := bind_eq_ok_iff.1 ok
      exact (ih missing).trans (growsTo_of_makeDirectory last)
    · exact growsTo_of_makeDirectory ok

/-- The components that are not empty. -/
def properParts (path : String) : List String := (Text.parts '/' path).filter (· ≠ "")

/-- However much is missing, at last the directory itself is made. -/
theorem exists_makeDirectory_of_makeDirectories
    (ok : disk.makeDirectories workingDirectory directory = .ok made) :
    ∃ middle, disk.GrowsTo middle ∧
      middle.makeDirectory (start workingDirectory directory) (properParts directory) =
        .ok made := by
  unfold makeDirectories at ok
  have ok := (check_bind_eq_ok_iff.1 ok).2
  dsimp only at ok
  split at ok
  · obtain ⟨middle, missing, last⟩ := bind_eq_ok_iff.1 ok
    exact ⟨middle, growsTo_of_makeMissing missing, last⟩
  · exact ⟨disk, .refl disk, ok⟩

theorem growsTo_of_makeDirectories
    (ok : disk.makeDirectories workingDirectory directory = .ok made) : disk.GrowsTo made := by
  obtain ⟨middle, grows, last⟩ := exists_makeDirectory_of_makeDirectories ok
  exact grows.trans (growsTo_of_makeDirectory last)

/-! ## Finding files in them -/

/-- A walk that ends in a directory begins in one. -/
theorem at?_of_walk (walked : disk.walk place names = .ok target)
    (there : disk.at? target = some .directory) : disk.at? place = some .directory := by
  cases names with
  | nil =>
    cases walked
    exact there
  | cons name rest =>
    rw [walk] at walked
    split at walked
    · assumption
    · cases walked
    · cases walked

/-- Empty components stay in the directory that is reached. -/
theorem walk_of_walk_filter (walked : disk.walk place (names.filter (· ≠ "")) = .ok target)
    (there : disk.at? target = some .directory) : disk.walk place names = .ok target := by
  induction names generalizing place with
  | nil => exact walked
  | cons name rest ih =>
    by_cases empty : name = ""
    · subst empty
      rw [List.filter_cons_of_neg (by simp)] at walked
      have short : ¬maxNameSize < "".utf8ByteSize := by decide
      have stays : step place "" = place := rfl
      simp only [walk, at?_of_walk walked there, if_neg short, stays]
      exact ih walked
    · rw [List.filter_cons_of_pos (by simpa using empty)] at walked
      rw [walk] at walked ⊢
      split at walked
      · next here =>
        split at walked
        · cases walked
        · next short =>
          simp only [if_neg short]
          exact ih walked
      · cases walked
      · cases walked

/-- The path of a file goes through the same components as that of its directory. -/
theorem filter_directoryParts (directory : String) :
    (directoryParts directory).filter (· ≠ "") = properParts directory := by
  unfold directoryParts properParts
  by_cases empty : directory = ""
  · subst empty
    rfl
  rw [if_neg empty]
  -- behind a slash at the end there is only an empty component, which names no directory
  by_cases slash : endsWithSlash directory = true
  · obtain ⟨before, ends⟩ : ∃ before, directory.toList = before ++ ['/'] :=
      List.getLast?_eq_some_iff.1 (by simpa [endsWithSlash] using slash)
    simp [slash, Text.parts, ends, Text.splitAt_append_cons, Text.splitAt]
  · rw [if_neg slash]

/-- A directory that has been made is where its files are looked for. -/
theorem exists_parent_of_makeDirectories
    (ok : disk.makeDirectories workingDirectory directory = .ok made) :
    ∃ parent, made.walk (start workingDirectory directory) (directoryParts directory) =
      .ok parent ∧ made.at? parent = some .directory := by
  obtain ⟨middle, -, last⟩ := exists_makeDirectory_of_makeDirectories ok
  obtain ⟨parent, walked, there⟩ := walk_of_makeDirectory last
  rw [← filter_directoryParts] at walked
  exact ⟨parent, walk_of_walk_filter walked there, there⟩

/-! ## Files that can be written -/

/-- A file of the directory can be written: its path leads somewhere, and to no directory. -/
def Takes (disk : Disk) (workingDirectory : Place) (directory name : String) : Prop :=
  ∃ target, disk.fileIn workingDirectory directory name = .ok target ∧
    disk.at? target ≠ some .directory

/-- In a directory, this needs a path and a name that are not too long. -/
theorem takes_of_walk (h : IsFileName name)
    (walked : disk.walk (start workingDirectory directory) (directoryParts directory) = .ok parent)
    (there : disk.at? parent = some .directory)
    (path : checkPath (joinPath directory name) = .ok ())
    (short : name.utf8ByteSize ≤ maxNameSize)
    (free : ∀ target, disk.find workingDirectory (joinPath directory name) ≠
      .ok (target, .directory)) : disk.Takes workingDirectory directory name := by
  have found : disk.fileIn workingDirectory directory name = .ok (parent ++ [name]) := by
    unfold fileIn
    rw [path]
    exact walk_concat.2 ⟨parent, walked, there, by omega, h.step_eq parent⟩
  refine ⟨_, found, fun taken => free (parent ++ [name]) ?_⟩
  rw [find_joinPath h, found]
  simp [bind, Except.bind, taken, pure, Except.pure]

/-- Writing one file keeps the others where they are. -/
theorem Takes.put {other text : String} (h : IsFileName name) (h' : IsFileName other)
    (apart : other ≠ name) (takes : disk.Takes workingDirectory directory other)
    (found : disk.fileIn workingDirectory directory name = .ok target)
    (free : disk.at? target ≠ some .directory) :
    (disk.put target (.text text)).Takes workingDirectory directory other := by
  obtain ⟨place, found', free'⟩ := takes
  refine ⟨place, fileIn_put free found', ?_⟩
  rwa [at?_put_of_ne (ne_of_fileIn h h' apart found found')]

end Disk

end TypedHub.CommandLine
