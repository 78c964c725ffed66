import Scriptlet.Config.Load
import Scriptlet.Proofs.Config.Validity

/-!
Loading of settings, stage by stage: the bytes of a file become text, the text a map of sections, and the map,
with what the variables add to it, becomes settings. Each stage has faults of its own.
-/
namespace Scriptlet.Config
variable {files : FileSystem} {env : Environment} {path : Path} {source : Option Path} {bytes : ByteArray}
variable {text : String} {entries : List (Value × Value)} {settings : Settings}

structure Readable (files : FileSystem) (path : Path) (bytes : ByteArray) : Prop where
  there : files.exists path = .ok true
  reads : files.readFile path = .ok bytes

theorem Readable.textOfFile (readable : Readable files path bytes) : textOfFile files path = textOfBytes bytes := by
  simp only [Config.textOfFile, readable.there, readable.reads]

theorem combine_eq_ok_iff {rules : VariableRules} {sections : List (Value × Value)}
    (ruled : VariableRules.ofEntries entries = some rules) :
    env.combine entries = .ok sections ↔ ∃ below, entriesFromEnvironment rules env.vars = .ok below ∧
      overlay below (canonicalSections entries) = sections := by
  simp only [Environment.combine, ruled, Except.map_eq_ok_iff, Except.mapError_eq_ok_iff]

theorem readSettings_of_settingsFrom (made : settingsFrom entries env = .ok settings) :
    ∃ sections, env.combine entries = .ok sections ∧ readSettings sections = .ok settings := by
  unfold settingsFrom at made
  split at made
  next => cases made
  next =>
    obtain ⟨sections, combined, made⟩ := Except.bind_eq_ok_iff.mp made
    exact ⟨sections, combined, Except.mapError_eq_ok_iff.mp made⟩

/-- Loaded settings are valid, wherever they come from. -/
theorem isValid_of_load (loaded : load files env source = .ok settings) : settings.IsValid := by
  obtain ⟨entries, _, made⟩ := Except.bind_eq_ok_iff.mp loaded
  obtain ⟨_, _, read⟩ := readSettings_of_settingsFrom (Except.mapError_eq_ok_iff.mp made)
  exact isValid_of_readSettings read

end Scriptlet.Config
