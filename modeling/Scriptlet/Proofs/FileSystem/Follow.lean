import Scriptlet.Proofs.FileSystem.Write

/-!
Where paths lead, name by name and from other directories. An anchored path leads to one place from
everywhere; a relative one that is read again in the directory it names may lead elsewhere.
-/
namespace Scriptlet

theorem Location.next_of_plain {location : Location} {name : String} (plain : name ≠ "." ∧ name ≠ "..") :
    location.next name = location ++ [name] := by
  rw [next, if_neg plain.1, if_neg plain.2]

namespace Path

theorem steps_eq_parts_or (path : Path) : path.steps = path.parts ∨ path.parts = [] ∧ path.steps = ["."] := by
  rcases path with ⟨_ | _ | _, _ | ⟨part, rest⟩⟩ <;> simp [steps]

theorem steps_join_name (base : Path) (name : String) : (base.join ⟨.here, [name]⟩).steps = base.parts ++ [name] := by
  rcases (base.join ⟨.here, [name]⟩).steps_eq_parts_or with same | ⟨empty, _⟩
  · exact same
  · exact absurd empty (List.append_ne_nil_of_right_ne_nil _ (List.cons_ne_nil _ _))

theorem place_join_name (base : Path) (name : String) (cwd : Location) :
    (base.join ⟨.here, [name]⟩).place cwd = (base.place cwd).next name :=
  List.foldl_append

end Path

namespace FileSystem
variable {fs : FileSystem} {location reached home : Location} {path directory : Path} {name : String}
variable {names : List String} {cause : FileError}

theorem follow_append (fs : FileSystem) (location : Location) (names more : List String) :
    fs.follow location (names ++ more) = (fs.follow location names).bind (fs.follow · more) := by
  induction names generalizing location with
  | nil => rfl
  | cons name rest ih =>
    rw [List.cons_append, follow, follow]
    split
    next => rfl
    next => rfl
    next =>
      split
      next => rfl
      next =>
        split
        next => rfl
        next => exact ih (location.next name)

/-- Nothing but its names decides where a path leads, if it leads anywhere. -/
theorem eq_foldl_of_follow (found : fs.follow location names = .ok reached) :
    reached = names.foldl Location.next location := by
  induction names generalizing location with
  | nil => exact (Except.ok.inj found).symm
  | cons name rest ih => exact ih (follow_cons_eq_ok_iff.mp found).2

theorem eq_of_follow_name (plain : name ≠ "." ∧ name ≠ "..")
    (found : fs.follow location [name] = .ok reached) : reached = location ++ [name] := by
  exact (eq_foldl_of_follow found).trans (Location.next_of_plain plain)

theorem follow_cwd (fs : FileSystem) (cwd location : Location) (names : List String) :
    FileSystem.follow { fs with cwd } location names = fs.follow location names := by
  induction names generalizing location with
  | nil => rfl
  | cons name rest ih =>
    rw [follow, follow, ih]
    rfl

theorem locate_eq_ok_iff : fs.locate path = .ok location ↔
    path.toString.utf8ByteSize ≤ 4095 ∧ fs.follow (path.origin fs.cwd) path.steps = .ok location := by
  rw [locate]
  split
  next long => simp [Nat.not_le.mpr long]
  next fits => simp [Nat.not_lt.mp fits]

theorem place_of_locate (found : fs.locate path = .ok location) : path.place fs.cwd = location := by
  rw [eq_foldl_of_follow (locate_eq_ok_iff.mp found).2, Path.place]
  rcases path.steps_eq_parts_or with same | ⟨empty, dot⟩
  · rw [same]
  · rw [empty, dot]
    rfl

theorem exists_locate_of_isDirectory (found : fs.isDirectory path = .ok true) :
    ∃ location, fs.locate path = .ok location := by
  simp only [isDirectory, leadsTo, find, bind, Except.bind] at found
  cases there : fs.locate path with
  | ok location => exact ⟨location, rfl⟩
  | error cause =>
    rw [there] at found
    split at found
    · cases found
    · dsimp only at found
      split at found <;> cases found

theorem cause_of_follow (failed : fs.follow location names = .error cause) :
    cause.isAbsence = true ∨ (cause = .nameTooLong ∧ ∃ name ∈ names, 255 < name.utf8ByteSize) ∨
      ∃ place reason, cause = .refused reason ∧ fs.refusal? place .search = some reason := by
  induction names generalizing location with
  | nil => cases failed
  | cons name rest ih =>
    rw [follow] at failed
    split at failed
    next =>
      cases failed
      exact .inl rfl
    next =>
      cases failed
      exact .inl rfl
    next =>
      split at failed
      next reason refused =>
        cases failed
        exact .inr (.inr ⟨location, reason, rfl, refused⟩)
      next =>
        split at failed
        next long =>
          cases failed
          exact .inr (.inl ⟨rfl, name, List.mem_cons_self, long⟩)
        next =>
          refine (ih failed).imp_right (Or.imp_left ?_)
          rintro ⟨same, other, member, long⟩
          exact ⟨same, other, List.mem_cons_of_mem _ member, long⟩

def IsShort (path : Path) : Prop :=
  path.toString.utf8ByteSize ≤ 4095 ∧ ∀ part ∈ path.parts, part.utf8ByteSize ≤ 255

instance : Decidable (IsShort path) := inferInstanceAs (Decidable (_ ∧ _))

/-- A look for a directory fails only for names that are too long and for directories that may not be searched:
otherwise there is one or there is none. -/
theorem cause_of_isDirectory (failed : fs.isDirectory path = .error cause) :
    (cause = .nameTooLong ∧ ¬ IsShort path) ∨
      ∃ place reason, cause = .refused reason ∧ fs.refusal? place .search = some reason := by
  have foreseen : cause.isAbsence = false ∧ fs.locate path = .error cause := by
    simp only [isDirectory, leadsTo, find, bind, Except.bind] at failed
    split at failed
    · cases failed
    · cases found : fs.locate path with
      | error reason =>
        simp only [found] at failed
        split at failed
        · cases failed
        next known =>
          cases failed
          exact ⟨Bool.not_eq_true _ ▸ known, rfl⟩
      | ok location =>
        simp only [found] at failed
        cases there : fs.entryAt? location <;> simp [there, FileError.isAbsence] at failed
  obtain ⟨present, failed⟩ := foreseen
  rw [locate] at failed
  split at failed
  next long =>
    cases failed
    exact .inl ⟨rfl, fun short => Nat.not_le.mpr long short.1⟩
  next =>
    rcases cause_of_follow failed with absent | ⟨rfl, name, member, long⟩ | refused
    · rw [present] at absent
      cases absent
    · refine .inl ⟨rfl, fun short => ?_⟩
      rcases path.steps_eq_parts_or with same | ⟨_, dot⟩
      · exact Nat.not_le.mpr long (short.2 name (same ▸ member))
      · rw [dot, List.mem_singleton] at member
        exact absurd (member ▸ long) (by decide)
    · exact .inr refused

/-- Where a path leads if it is read in a directory. -/
def locateFrom (fs : FileSystem) (directory : Option Path) (path : Path) : Except FileError Location :=
  match directory with
  | none => fs.locate path
  | some directory => do
    let home ← fs.locate directory
    FileSystem.locate { fs with cwd := home } path

/-- The path of a directory, read in this directory, leads back to it. -/
def LeadsBack (fs : FileSystem) (directory : Path) : Prop :=
  fs.locateFrom (some directory) directory = fs.locate directory

theorem locateFrom_eq_ok_iff (found : fs.locate directory = .ok home) :
    fs.locateFrom (some directory) path = .ok location ↔
      path.toString.utf8ByteSize ≤ 4095 ∧ fs.follow (path.origin home) path.steps = .ok location := by
  have same : fs.locateFrom (some directory) path = FileSystem.locate { fs with cwd := home } path := by
    simp only [locateFrom, found, bind, Except.bind]
  rw [same, locate_eq_ok_iff, follow_cwd]

theorem leadsBack_iff (found : fs.locate directory = .ok home) :
    fs.LeadsBack directory ↔ fs.follow (directory.origin home) directory.steps = .ok home := by
  rw [LeadsBack, found, locateFrom_eq_ok_iff found]
  exact and_iff_right (locate_eq_ok_iff.mp found).1

theorem leadsBack_of_anchored (found : fs.locate directory = .ok home) (anchored : directory.anchor ≠ .here) :
    fs.LeadsBack directory := by
  have origin : directory.origin home = directory.origin fs.cwd := by
    unfold Path.origin
    cases anchor : directory.anchor with
    | here => exact absurd anchor anchored
    | root => rfl
    | doubleRoot => rfl
  rw [leadsBack_iff found, origin]
  exact (locate_eq_ok_iff.mp found).2

theorem follow_parts_of_steps (found : fs.follow location path.steps = .ok reached) :
    fs.follow location path.parts = .ok reached := by
  rcases path.steps_eq_parts_or with same | ⟨empty, dot⟩
  · rwa [same] at found
  · rw [dot] at found
    rw [empty]
    exact (follow_cons_eq_ok_iff.mp found).2

/-- The dot that stands for no parts can be looked up wherever another name can. -/
theorem follow_steps_of_parts {inside : Location} (found : fs.follow location path.parts = .ok reached)
    (searched : fs.follow reached [name] = .ok inside) : fs.follow location path.steps = .ok reached := by
  rcases path.steps_eq_parts_or with same | ⟨empty, dot⟩
  · rwa [same]
  · rw [empty] at found
    cases found
    obtain ⟨searches, _⟩ := follow_cons_eq_ok_iff.mp searched
    rw [dot]
    exact follow_cons_eq_ok_iff.mpr ⟨⟨searches.directory, searches.allowed, by decide⟩, rfl⟩

/-- A file in a directory, by the path through the directory, is found from within the directory exactly
if the directory is found from there. -/
theorem locateFrom_join_iff (plain : name ≠ "." ∧ name ≠ "..") (found : fs.locate directory = .ok home)
    (file : fs.locate (directory.join ⟨.here, [name]⟩) = .ok location) :
    fs.locateFrom (some directory) (directory.join ⟨.here, [name]⟩) = .ok location ↔
      fs.LeadsBack directory := by
  obtain ⟨fits, followed⟩ := locate_eq_ok_iff.mp file
  have origin (cwd : Location) : (directory.join ⟨.here, [name]⟩).origin cwd = directory.origin cwd := rfl
  rw [Path.steps_join_name, origin] at followed
  have reached := follow_parts_of_steps (locate_eq_ok_iff.mp found).2
  have inside : fs.follow home [name] = .ok location := by
    rwa [follow_append, reached] at followed
  have place := eq_of_follow_name plain inside
  rw [locateFrom_eq_ok_iff found, and_iff_right fits, Path.steps_join_name, origin, leadsBack_iff found,
    follow_append]
  constructor
  · intro through
    cases there : fs.follow (directory.origin home) directory.parts with
    | error cause =>
      rw [there] at through
      cases through
    | ok other =>
      rw [there] at through
      have same := place.symm.trans (eq_of_follow_name plain through)
      obtain rfl := List.append_cancel_right same
      exact follow_steps_of_parts there inside
  · intro back
    rw [follow_parts_of_steps back]
    exact inside

end FileSystem
end Scriptlet
