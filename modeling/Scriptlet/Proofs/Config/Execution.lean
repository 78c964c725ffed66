import Scriptlet.Proofs.Config.Validity
import Scriptlet.Proofs.Path.Text

/-!
What accepted settings of execution promise: the beginning of the names of temporary files makes, with
each extension, a single part of a path.
-/
namespace Scriptlet.Config
open Checked Except

variable {value : Value} {settings : ExecutionSettings} {given text : String} {fields : List (Value × Value)}

/-- A text is kept as it is, with the blanks around it, or refused. -/
theorem readTempFilePrefix_text_iff : readTempFilePrefix (.text given) = .ok text ↔ text = given ∧
    Text.isAllBlank given.toList = false ∧ ∀ c ∈ ['\x00', '/', '\\'], c ∉ given.toList := by
  constructor
  · intro read
    have same : text = given := by
      obtain ⟨_, ⟨⟩, tested⟩ := bind_eq_ok_iff.mp read
      split at tested
      · cases tested
      · split at tested <;> cases tested
        rfl
    exact ⟨same, same ▸ usable_of_readTempFilePrefix read⟩
  · rintro ⟨rfl, marked, usable⟩
    have absent : ¬ (text.toList.any ['\x00', '/', '\\'].contains) = true := by
      intro found
      obtain ⟨c, member, reserved⟩ := List.any_eq_true.mp found
      exact usable c (List.contains_iff_mem.mp reserved) member
    refine bind_eq_ok_iff.mpr ⟨text, rfl, ?_⟩
    rw [if_neg (Bool.eq_false_iff.mp marked), if_neg absent]

theorem tempFilePrefix_of_readExecution (read : readExecution (.map fields) = .ok settings)
    (written : Value.lookup? fields "temp_file_prefix" = some (.text given)) : settings.tempFilePrefix = given := by
  obtain ⟨_, ⟨⟩, named, _⟩ := readExecution_eq_ok_iff.mp read
  rw [optional, written] at named
  exact (readTempFilePrefix_text_iff.mp (under_eq_ok_iff.mp named)).1

theorem noSlash_of_readExecution (read : readExecution value = .ok settings) :
    '/' ∉ settings.tempFilePrefix.toList :=
  (isValid_of_readExecution read).usable '/' (by decide)

private theorem extension_chars (language : Language) :
    3 ≤ language.extension.length ∧ '/' ∉ language.extension.toList := by
  cases language <;> decide

/-- The name of a temporary file is a part of a path, and never leads upwards. -/
theorem isPart_tempFileName (read : readExecution value = .ok settings) (language : Language) :
    Path.IsPart (settings.tempFilePrefix ++ language.extension) ∧
      settings.tempFilePrefix ++ language.extension ≠ ".." := by
  obtain ⟨long, noSlash⟩ := extension_chars language
  have length : 3 ≤ (settings.tempFilePrefix ++ language.extension).length := by
    rw [String.length_append]
    omega
  have differs {short : String} (bound : short.length < 3) :
      settings.tempFilePrefix ++ language.extension ≠ short := by
    intro same
    rw [same] at length
    omega
  refine ⟨⟨differs (by decide), differs (by decide), ?_⟩, differs (by decide)⟩
  rw [String.toList_append, List.mem_append, not_or]
  exact ⟨noSlash_of_readExecution read, noSlash⟩

end Scriptlet.Config
