import Scriptlet.Log.Sink
import Scriptlet.Proofs.Log.Journal

/-!
What it takes to set up a log and to keep it. Directories and a file may be new afterwards; nothing else is different
where the library of the log keeps away.
-/
namespace Scriptlet

namespace FileSystem
variable {kept : Location → Prop} {fs : FileSystem} {location : Location}

private theorem spares_put_missing (missing : fs.entryAt? location = none) (entry : Entry)
    (apart : ∀ content, entry = .file content → ¬ kept location) : fs.Spares kept (fs.put location entry) := by
  have inside : location ≠ [] := by
    rintro rfl
    cases missing
  refine ⟨rfl, rfl, fun other there => ?_, fun other content keeps => ?_⟩
  · rw [entryAt?_put fs entry inside, if_neg]
    · exact there
    · rintro rfl
      rw [missing] at there
      cases there
  · rw [entryAt?_put fs entry inside]
    split
    next own =>
      subst own
      rw [missing, Option.some.injEq]
      exact iff_of_false (fun same => apart content same keeps) nofun
    next => exact .rfl

theorem spares_makeAll (kept : Location → Prop) (fs : FileSystem) (above : Location) (parts : List String) :
    fs.Spares kept (fs.makeAll above parts).1 := by
  -- A directory is made only where nothing is; what a name already has stays, whatever it is.
  fun_induction makeAll fs above parts with
  | case6 fs above part rest here _ _ _ missing _ ih =>
    exact (spares_put_missing missing .directory nofun).trans ih
  | case7 _ _ _ _ _ _ _ _ _ ih => exact ih
  | case9 _ _ _ _ _ _ _ _ _ _ _ ih => exact ih
  | case1 | case2 | case3 | case4 | case5 | case8 => exact .refl _ _

end FileSystem

/-- The log of some settings is kept elsewhere: its file is at none of these places, and its records change no file
there. -/
def LogLibrary.Spares (kept : Location → Prop) (library : LogLibrary) (settings : LogSettings) (cwd : Location) :
    Prop :=
  ∀ path location, settings.file = some path → library.place settings cwd path = .ok location →
    ¬ kept location ∧ (library.write settings location).Spares kept

namespace LogSink
open FileSystem

variable {kept : Location → Prop} {library : LogLibrary} {settings : LogSettings} {verbose : Bool}
variable {files : FileSystem} {location : Location}

theorem spares_openFile (apart : ¬ kept location) (files : FileSystem) :
    files.Spares kept (openFile files location).1 := by
  unfold openFile
  dsimp only
  generalize (if location.takeWhile isName = location then _ else _) = directories
  have made := spares_makeAll kept files [] directories
  generalize files.makeAll [] directories = ended at made ⊢
  rcases ended with ⟨later, _ | ⟨place, cause⟩⟩
  · dsimp only
    split
    · exact made
    · split
      · exact made
      · split
        · exact made
        · split
          · exact made
          · split
            · exact made
            next missing =>
              have missing := Option.not_isSome_iff_eq_none.mp missing
              exact made.trans (spares_put_missing missing _ fun _ _ => apart)
  · exact made

/-- To open a log changes no file elsewhere. -/
theorem spares_ofSettings (library : LogLibrary) (verbose : Bool)
    (apart : ∀ path location, settings.file = some path → library.place settings files.cwd path = .ok location →
      ¬ kept location) : files.Spares kept (ofSettings library settings verbose files).1 := by
  unfold ofSettings
  dsimp only
  split
  next => exact .refl _ _
  next path named =>
    split
    next => exact .refl _ _
    next location placed =>
      have opened := spares_openFile (apart path location named placed) files
      generalize openFile files location = ended at opened ⊢
      rcases ended with ⟨later, _ | fault⟩ <;> exact opened

theorem journal_spares {sink : LogSink} (elsewhere : library.Spares kept settings files.cwd)
    (opened : (ofSettings library settings verbose files).2 = .ok sink) : sink.journal.Spares kept := by
  have writes : sink.write.Spares kept := by
    unfold ofSettings at opened
    dsimp only at opened
    split at opened
    next =>
      cases opened
      exact Journal.spares_silent kept
    next path named =>
      split at opened
      next => cases opened
      next location placed =>
        have spares := (elsewhere path location named placed).2
        generalize openFile files location = ended at opened
        rcases ended with ⟨later, _ | fault⟩
        · cases opened
          exact spares
        · cases opened
  intro earlier record files
  unfold journal
  split
  next => exact writes earlier record files
  next => exact .refl _ _

end LogSink
end Scriptlet
