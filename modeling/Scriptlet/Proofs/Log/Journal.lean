import Mathlib.Logic.Relation
import Scriptlet.Execution
import Scriptlet.Proofs.FileSystem.Follow

/-!
What records may do to files that matter elsewhere. A journal spares places if no record creates, changes or
removes a file there and none takes a directory away; then no path to such a place notices how much is written.
-/
namespace Scriptlet

namespace FileSystem
variable {kept : Location → Prop} {fs after last : FileSystem} {path : Path} {location : Location}
variable {content : ByteArray}

/-- At the places that are kept there are the same files, and no directory is gone. -/
structure Spares (kept : Location → Prop) (fs after : FileSystem) : Prop where
  cwd : after.cwd = fs.cwd
  refusal? : after.refusal? = fs.refusal?
  directory : ∀ location, fs.entryAt? location = some .directory → after.entryAt? location = some .directory
  file : ∀ location content, kept location →
    (after.entryAt? location = some (.file content) ↔ fs.entryAt? location = some (.file content))

namespace Spares

theorem refl (kept : Location → Prop) (fs : FileSystem) : fs.Spares kept fs :=
  ⟨rfl, rfl, fun _ => id, fun _ _ _ => .rfl⟩

theorem trans (first : fs.Spares kept after) (second : after.Spares kept last) : fs.Spares kept last where
  cwd := second.cwd.trans first.cwd
  refusal? := second.refusal?.trans first.refusal?
  directory location there := second.directory location (first.directory location there)
  file location content keeps :=
    (second.file location content keeps).trans (first.file location content keeps)

theorem locate (spares : fs.Spares kept after) (found : fs.locate path = .ok location) :
    after.locate path = .ok location :=
  locate_of_directories spares.cwd spares.refusal? spares.directory found

theorem contentOf? (spares : fs.Spares kept after) (keeps : kept (path.place fs.cwd))
    (holds : fs.contentOf? path = some content) : after.contentOf? path = some content := by
  obtain ⟨location, found, there⟩ := contentOf?_eq_some_iff.mp holds
  rw [place_of_locate found] at keeps
  exact contentOf?_eq_some_iff.mpr ⟨location, spares.locate found, (spares.file _ _ keeps).mpr there⟩

theorem readFile (spares : fs.Spares kept after) (keeps : kept (path.place fs.cwd))
    (reads : fs.readFile path = .ok content) : after.readFile path = .ok content := by
  obtain ⟨location, found, there, allowed⟩ := readFile_eq_ok_iff.mp reads
  rw [place_of_locate found] at keeps
  refine readFile_eq_ok_iff.mpr ⟨location, spares.locate found, (spares.file _ _ keeps).mpr there, ?_⟩
  rwa [spares.refusal?]

end Spares

theorem Written.spares (written : fs.Written after location content) (apart : ¬ kept location) :
    fs.Spares kept after where
  cwd := written.same.cwd
  refusal? := written.same.refusal?
  directory other := (written.same.directory other).mpr
  file other other' keeps := by
    rw [written.entryAt?, if_neg]
    rintro rfl
    exact apart keeps

end FileSystem

namespace Journal
variable {journal : Journal} {kept : Location → Prop} {files after : FileSystem}

/-- The files can become others by records alone. -/
def Reaches (journal : Journal) : FileSystem → FileSystem → Prop :=
  Relation.ReflTransGen fun files after =>
    ∃ earlier record, after = { files with entries := journal earlier record files }

theorem Reaches.refl (journal : Journal) (files : FileSystem) : journal.Reaches files files :=
  Relation.ReflTransGen.refl

theorem Reaches.trans {last : FileSystem} (first : journal.Reaches files after)
    (second : journal.Reaches after last) : journal.Reaches files last :=
  Relation.ReflTransGen.trans first second

theorem Reaches.cwd (reached : journal.Reaches files after) : after.cwd = files.cwd := by
  induction reached with
  | refl => rfl
  | tail _ step ih =>
    obtain ⟨_, _, rfl⟩ := step
    exact ih

theorem reaches_withLog (journal : Journal) (host : Host) (level : LogLevel) (message : String) :
    journal.Reaches host.files (host.withLog level message journal).files :=
  .single ⟨_, _, rfl⟩

theorem reaches_silent_iff : silent.Reaches files after ↔ after = files := by
  constructor
  · intro reached
    induction reached with
    | refl => rfl
    | tail _ step ih =>
      obtain ⟨_, _, rfl⟩ := step
      exact ih
  · rintro rfl
    exact .refl _ _

def Spares (kept : Location → Prop) (journal : Journal) : Prop :=
  ∀ earlier record (files : FileSystem),
    files.Spares kept { files with entries := journal earlier record files }

theorem spares_silent (kept : Location → Prop) : silent.Spares kept := fun _ _ => .refl kept

theorem Reaches.spares (spares : journal.Spares kept) (reached : journal.Reaches files after) :
    files.Spares kept after := by
  induction reached with
  | refl => exact .refl _ _
  | tail _ step ih =>
    obtain ⟨earlier, record, rfl⟩ := step
    exact ih.trans (spares earlier record _)

end Journal
end Scriptlet
