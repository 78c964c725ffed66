import Scriptlet.FileSystem

/-!
What writing a file changes. One location gets a new content, and since it was none of a directory, all
paths lead where they led before.
-/
namespace Scriptlet.FileSystem
variable {fs after : FileSystem} {location other reached : Location} {path : Path} {content : ByteArray}

private theorem lookup_without (entries : List (Location × Entry)) (differ : other ≠ location) :
    (entries.filter fun known => known.1 ≠ location).lookup other = entries.lookup other := by
  induction entries with
  | nil => rfl
  | cons known entries ih =>
    obtain ⟨place, entry⟩ := known
    by_cases same : place = location
    · subst same
      have missed : (other == place) = false := beq_eq_false_iff_ne.mpr differ
      rw [List.filter_cons_of_neg (by simp), ih, List.lookup_cons, missed]
    · rw [List.filter_cons_of_pos (by simpa using same), List.lookup_cons, List.lookup_cons, ih]

theorem entryAt?_put (fs : FileSystem) (entry : Entry) (inside : location ≠ []) (other : Location) :
    (fs.put location entry).entryAt? other = if other = location then some entry else fs.entryAt? other := by
  by_cases root : other = []
  · rw [if_neg (root ▸ inside.symm)]
    simp [entryAt?, root]
  · simp only [entryAt?, put, root, if_false]
    by_cases same : other = location
    · rw [same, List.lookup_cons_self, if_pos rfl]
    · have missed : (other == location) = false := beq_eq_false_iff_ne.mpr same
      rw [List.lookup_cons, missed, if_neg same]
      exact lookup_without fs.entries same

/-- The same directories, relative paths begin in the same one, and the same is refused. -/
structure SameDirectories (fs after : FileSystem) : Prop where
  cwd : after.cwd = fs.cwd
  refusal? : after.refusal? = fs.refusal?
  directory : ∀ location, after.entryAt? location = some .directory ↔ fs.entryAt? location = some .directory

theorem SameDirectories.refl (fs : FileSystem) : fs.SameDirectories fs := ⟨rfl, rfl, fun _ => .rfl⟩

theorem SameDirectories.trans {last : FileSystem} (first : fs.SameDirectories after)
    (second : after.SameDirectories last) : fs.SameDirectories last :=
  ⟨second.cwd.trans first.cwd, second.refusal?.trans first.refusal?, fun location =>
    (second.directory location).trans (first.directory location)⟩

structure Searches (fs : FileSystem) (location : Location) (name : String) : Prop where
  directory : fs.entryAt? location = some .directory
  allowed : fs.refusal? location .search = none
  fits : name.utf8ByteSize ≤ 255

theorem follow_cons_eq_ok_iff {name : String} {rest : List String} :
    fs.follow location (name :: rest) = .ok reached ↔
      fs.Searches location name ∧ fs.follow (location.next name) rest = .ok reached := by
  rw [follow]
  constructor
  · intro found
    split at found
    · cases found
    · cases found
    next directory =>
      split at found
      · cases found
      next allowed =>
        split at found
        · cases found
        next short => exact ⟨⟨directory, allowed, Nat.not_lt.mp short⟩, found⟩
  · rintro ⟨⟨directory, allowed, fits⟩, found⟩
    simp only [directory, allowed, if_neg (Nat.not_lt.mpr fits), found]

/-- A path that leads somewhere leads there for as long as the directories stay. -/
theorem locate_of_directories (cwd : after.cwd = fs.cwd) (refusal? : after.refusal? = fs.refusal?)
    (kept : ∀ location, fs.entryAt? location = some .directory → after.entryAt? location = some .directory)
    (found : fs.locate path = .ok location) : after.locate path = .ok location := by
  have follows (names : List String) {start : Location} (found : fs.follow start names = .ok location) :
      after.follow start names = .ok location := by
    induction names generalizing start with
    | nil => exact found
    | cons name rest ih =>
      obtain ⟨⟨directory, allowed, fits⟩, found⟩ := follow_cons_eq_ok_iff.mp found
      exact follow_cons_eq_ok_iff.mpr ⟨⟨kept start directory, refusal? ▸ allowed, fits⟩, ih found⟩
  rw [locate] at found ⊢
  split at found
  next => cases found
  next fits =>
    rw [if_neg fits, cwd]
    exact follows _ found

theorem SameDirectories.locate (same : fs.SameDirectories after) (found : fs.locate path = .ok location) :
    after.locate path = .ok location :=
  locate_of_directories same.cwd same.refusal? (fun location => (same.directory location).mpr) found

/-- A file that is written has the new content, and nothing else is different. -/
structure Written (fs after : FileSystem) (location : Location) (content : ByteArray) : Prop where
  same : fs.SameDirectories after
  entryAt? : ∀ other, after.entryAt? other =
    if other = location then some (.file content) else fs.entryAt? other

theorem written_put (noDirectory : fs.entryAt? location ≠ some .directory) (content : ByteArray) :
    fs.Written (fs.put location (.file content)) location content := by
  have inside : location ≠ [] := by
    rintro rfl
    exact noDirectory (if_pos rfl)
  have entryAt? (other : Location) := entryAt?_put fs (.file content) inside other
  refine ⟨⟨rfl, rfl, fun other => ?_⟩, entryAt?⟩
  rw [entryAt?]
  split
  next here => simp [here, noDirectory]
  next => exact .rfl

theorem openEmpty_eq_ok_iff {opened : Location × FileSystem} : fs.openEmpty path = .ok opened ↔
    ∃ location, fs.locate path = .ok location ∧ fs.writeFault? location = none ∧
      opened = (location, fs.put location (.file .empty)) := by
  rw [openEmpty]
  cases fs.locate path with
  | error cause => simp [bind, Except.bind]
  | ok location =>
    simp only [bind, Except.bind, Except.ok.injEq, exists_eq_left']
    split
    next fault => simp [fault]
    next none => simp [none, eq_comm]

theorem ne_directory_of_writeFault? (free : fs.writeFault? location = none) :
    fs.entryAt? location ≠ some .directory := by
  intro directory
  rw [writeFault?, directory] at free
  cases free

/-- A file that is opened and then written has the content that is written. -/
theorem written_of_openEmpty {opened : FileSystem} (found : fs.openEmpty path = .ok (location, opened)) :
    fs.locate path = .ok location ∧ fs.Written opened location .empty ∧
      ∀ content, fs.Written (opened.put location (.file content)) location content := by
  obtain ⟨_, located, free, ⟨⟩⟩ := openEmpty_eq_ok_iff.mp found
  have empty := written_put (ne_directory_of_writeFault? free) .empty
  refine ⟨located, empty, fun content => ?_⟩
  have noDirectory : (fs.put location (.file .empty)).entryAt? location ≠ some .directory := by
    rw [empty.entryAt?, if_pos rfl]
    nofun
  have again := written_put noDirectory content
  refine ⟨empty.same.trans again.same, fun other => ?_⟩
  rw [again.entryAt?, empty.entryAt?]
  split <;> rfl

theorem contentOf?_eq_some_iff : fs.contentOf? path = some content ↔
    ∃ location, fs.locate path = .ok location ∧ fs.entryAt? location = some (.file content) := by
  simp only [contentOf?, find, bind, Except.bind]
  cases found : fs.locate path with
  | error cause => simp
  | ok location =>
    cases there : fs.entryAt? location with
    | none => simp [there]
    | some entry => cases entry <;> simp [there]

theorem readAt_eq_ok_iff : fs.readAt location = .ok content ↔
    fs.entryAt? location = some (.file content) ∧ fs.refusal? location .read = none := by
  unfold readAt
  split <;> simp [*]

theorem readFile_eq_ok_iff : fs.readFile path = .ok content ↔
    ∃ location, fs.locate path = .ok location ∧ fs.entryAt? location = some (.file content) ∧
      fs.refusal? location .read = none := by
  rw [readFile]
  cases fs.locate path with
  | error cause => simp [bind, Except.bind]
  | ok location => simp [bind, Except.bind, readAt_eq_ok_iff]

theorem contentOf?_of_readFile (reads : fs.readFile path = .ok content) : fs.contentOf? path = some content := by
  obtain ⟨location, found, there, _⟩ := readFile_eq_ok_iff.mp reads
  exact contentOf?_eq_some_iff.mpr ⟨location, found, there⟩

end Scriptlet.FileSystem
