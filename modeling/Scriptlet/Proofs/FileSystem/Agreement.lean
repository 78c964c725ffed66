import Scriptlet.Proofs.FileSystem.Follow
import Scriptlet.Proofs.FileSystem.Write

/-!
Two states of the files that are the same but for one place. As long as the directories stay, a path leads
to the same place in both, or in both it leads to nothing; only the reason for that may be another one.
-/
namespace Scriptlet.FileSystem
variable {fs after : FileSystem} {location home : Location} {path directory : Path} {name : String}
variable {content : ByteArray} {place : Option Location}

theorem SameDirectories.symm (same : fs.SameDirectories after) : after.SameDirectories fs :=
  ⟨same.cwd.symm, same.refusal?.symm, fun location => (same.directory location).symm⟩

/-- The path ends where something is missing or is no directory. -/
def IsLost (reached : Except FileError Location) : Prop :=
  ∃ cause, reached = .error cause ∧ cause.isAbsence = true

private theorem isLost_follow {name : String} {names : List String}
    (noDirectory : fs.entryAt? location ≠ some .directory) : IsLost (fs.follow location (name :: names)) := by
  rw [FileSystem.follow]
  split
  next => exact ⟨_, rfl, rfl⟩
  next => exact ⟨_, rfl, rfl⟩
  next there => exact absurd there noDirectory

theorem SameDirectories.follow (same : fs.SameDirectories after) (location : Location) (names : List String) :
    after.follow location names = fs.follow location names ∨
      IsLost (fs.follow location names) ∧ IsLost (after.follow location names) := by
  induction names generalizing location with
  | nil => exact .inl rfl
  | cons name rest ih =>
    by_cases directory : fs.entryAt? location = some .directory
    · rw [FileSystem.follow, FileSystem.follow, directory, (same.directory location).mpr directory, same.refusal?]
      dsimp only
      split
      next => exact .inl rfl
      next =>
        split
        next => exact .inl rfl
        next => exact ih (location.next name)
    · exact .inr ⟨isLost_follow directory, isLost_follow (mt (same.directory location).mp directory)⟩

theorem SameDirectories.locate_cases (same : fs.SameDirectories after) (path : Path) :
    after.locate path = fs.locate path ∨ IsLost (fs.locate path) ∧ IsLost (after.locate path) := by
  rw [FileSystem.locate, FileSystem.locate, same.cwd]
  split
  next => exact .inl rfl
  next => exact same.follow _ _

private theorem IsLost.toOption {reached : Except FileError Location} (lost : IsLost reached) :
    reached.toOption = none := by
  obtain ⟨cause, rfl, _⟩ := lost
  rfl

theorem SameDirectories.toOption_locate (same : fs.SameDirectories after) (path : Path) :
    (after.locate path).toOption = (fs.locate path).toOption := by
  rcases same.locate_cases path with equal | ⟨lost, lostAfter⟩
  · rw [equal]
  · rw [lost.toOption, lostAfter.toOption]

theorem SameDirectories.isDirectoryAt (same : fs.SameDirectories after) (location : Location) :
    after.isDirectoryAt location = fs.isDirectoryAt location := by
  have decides (files : FileSystem) :
      files.isDirectoryAt location = true ↔ files.entryAt? location = some .directory := by
    unfold FileSystem.isDirectoryAt
    split
    next found => exact iff_of_true rfl found
    next other => exact iff_of_false Bool.false_ne_true other
  rw [Bool.eq_iff_iff, decides, decides]
  exact same.directory location

private theorem isDirectory_eq (fs : FileSystem) (path : Path) : fs.isDirectory path =
    if !path.parts.all isName then .ok false
    else match fs.locate path with
      | .ok location => .ok (fs.isDirectoryAt location)
      | .error cause => if cause.isAbsence then .ok false else .error cause := by
  simp only [FileSystem.isDirectory, leadsTo, find, bind, Except.bind]
  split
  next => rfl
  next =>
    cases fs.locate path with
    | error cause => rfl
    | ok location =>
      dsimp only
      rw [FileSystem.isDirectoryAt]
      cases fs.entryAt? location with
      | none => rfl
      | some entry => cases entry <;> rfl

/-- A look for a directory has the same answer for as long as the directories stay. -/
theorem SameDirectories.isDirectory (same : fs.SameDirectories after) (path : Path) :
    after.isDirectory path = fs.isDirectory path := by
  rw [isDirectory_eq, isDirectory_eq]
  rcases same.locate_cases path with equal | ⟨⟨cause, lost, absent⟩, causeAfter, lostAfter, absentAfter⟩
  · simp only [equal, same.isDirectoryAt]
  · simp only [lost, lostAfter, absent, absentAfter, if_true]

def directoryAt? (fs : FileSystem) (path : Path) : Option Location :=
  (fs.locate path).toOption.filter fs.isDirectoryAt

theorem exists_directoryAt?_of_isDirectory (found : fs.isDirectory path = .ok true) :
    ∃ home, fs.directoryAt? path = some home ∧ fs.locate path = .ok home ∧
      fs.entryAt? home = some .directory := by
  rw [isDirectory_eq] at found
  split at found
  next => cases found
  next =>
    split at found
    next home there =>
      have isDirectory := Except.ok.inj found
      refine ⟨home, ?_, there, ?_⟩
      · rw [directoryAt?, there, Except.toOption, Option.filter_some, if_pos isDirectory]
      · rw [isDirectoryAt] at isDirectory
        split at isDirectory
        next directory => exact directory
        next => cases isDirectory
    next => split at found <;> cases found

/-- In a directory that is there a name is never lost: it stands for a place, unless it is too long or the
directory may not be searched. -/
theorem locate_join (found : fs.locate directory = .ok home) (there : fs.entryAt? home = some .directory)
    (plain : name ≠ "." ∧ name ≠ "..") : fs.locate (directory.join ⟨.here, [name]⟩) =
      if 4095 < (directory.join ⟨.here, [name]⟩).toString.utf8ByteSize then .error .nameTooLong
      else match fs.refusal? home .search with
        | some cause => .error (.refused cause)
        | none => if 255 < name.utf8ByteSize then .error .nameTooLong else .ok (home ++ [name]) := by
  have origin : (directory.join ⟨.here, [name]⟩).origin fs.cwd = directory.origin fs.cwd := rfl
  have reached := follow_parts_of_steps (locate_eq_ok_iff.mp found).2
  rw [locate, Path.steps_join_name, origin, follow_append, reached, Except.bind, follow, there]
  dsimp only
  rw [Location.next_of_plain plain]
  rfl

/-- The same directories, and the same files but for one place. -/
structure AgreesBut (place : Option Location) (fs after : FileSystem) : Prop where
  same : fs.SameDirectories after
  entryAt? : ∀ location, place ≠ some location → after.entryAt? location = fs.entryAt? location

theorem AgreesBut.refl (place : Option Location) (fs : FileSystem) : AgreesBut place fs fs :=
  ⟨.refl fs, fun _ _ => rfl⟩

theorem AgreesBut.trans {last : FileSystem} (first : AgreesBut place fs after)
    (second : AgreesBut place after last) : AgreesBut place fs last :=
  ⟨first.same.trans second.same, fun location other =>
    (second.entryAt? location other).trans (first.entryAt? location other)⟩

/-- A file that is put at a place changes the files there alone. -/
theorem agreesBut_put (noDirectory : fs.entryAt? location ≠ some .directory) (content : ByteArray) :
    AgreesBut (some location) fs (fs.put location (.file content)) := by
  have written := written_put noDirectory content
  refine ⟨written.same, fun other elsewhere => ?_⟩
  rw [written.entryAt?, if_neg]
  rintro rfl
  exact elsewhere rfl

/-- A file that is put at one place of both leaves them the same but for the other place. -/
theorem AgreesBut.put (agrees : AgreesBut place fs after)
    (noDirectory : fs.entryAt? location ≠ some .directory) (content : ByteArray) :
    AgreesBut place (fs.put location (.file content)) (after.put location (.file content)) := by
  have written := written_put noDirectory content
  have writtenAfter := written_put (mt (agrees.same.directory location).mp noDirectory) content
  refine ⟨written.same.symm.trans (agrees.same.trans writtenAfter.same), fun other elsewhere => ?_⟩
  rw [written.entryAt?, writtenAfter.entryAt?, agrees.entryAt? other elsewhere]

theorem AgreesBut.writeFault? (agrees : AgreesBut place fs after) (apart : place ≠ some location) :
    after.writeFault? location = fs.writeFault? location := by
  rw [FileSystem.writeFault?, FileSystem.writeFault?, agrees.entryAt? location apart, agrees.same.refusal?]

/-- A file that both locate at one place apart is opened in both, or cannot be opened in any of them. -/
theorem AgreesBut.openEmpty (agrees : AgreesBut place fs after) (located : after.locate path = fs.locate path)
    (apart : ∀ location, fs.locate path = .ok location → place ≠ some location) :
    (∃ cause, fs.openEmpty path = .error cause ∧ after.openEmpty path = .error cause) ∨
      ∃ location, fs.entryAt? location ≠ some .directory ∧
        fs.openEmpty path = .ok (location, fs.put location (.file .empty)) ∧
        after.openEmpty path = .ok (location, after.put location (.file .empty)) := by
  cases found : fs.locate path with
  | error cause =>
    refine .inl ⟨cause, ?_, ?_⟩
    · simp [FileSystem.openEmpty, found, bind, Except.bind]
    · simp [FileSystem.openEmpty, located, found, bind, Except.bind]
  | ok location =>
    have same := agrees.writeFault? (apart location found)
    cases fault : fs.writeFault? location with
    | some cause =>
      refine .inl ⟨cause, ?_, ?_⟩
      · simp [FileSystem.openEmpty, found, fault, bind, Except.bind]
      · simp [FileSystem.openEmpty, located, found, same, fault, bind, Except.bind]
    | none =>
      refine .inr ⟨location, ne_directory_of_writeFault? fault, ?_, ?_⟩
      · exact openEmpty_eq_ok_iff.mpr ⟨location, found, fault, rfl⟩
      · exact openEmpty_eq_ok_iff.mpr ⟨location, located.trans found, same.trans fault, rfl⟩

end Scriptlet.FileSystem
