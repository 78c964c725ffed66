import Mathlib.Data.List.DropRight
import Scriptlet.Config.Sections
import Scriptlet.Proofs.Number.Order

/-!
What settings promise once they are accepted: the checks of single values say something about each of them,
the defaults meet the same demands, and a section that is read keeps them together.
-/
namespace Except
variable {ε δ α β : Type} {first : Except ε α} {a : α} {b : β}

theorem bind_eq_ok_iff {next : α → Except ε β} :
    (first >>= next) = .ok b ↔ ∃ a, first = .ok a ∧ next a = .ok b := by
  cases first <;> simp [bind, Except.bind]

theorem map_eq_ok_iff {change : α → β} : first.map change = .ok b ↔ ∃ a, first = .ok a ∧ change a = b := by
  cases first <;> simp [Except.map]

theorem mapError_eq_ok_iff {change : ε → δ} : first.mapError change = .ok a ↔ first = .ok a := by
  cases first <;> simp [Except.mapError]

theorem toOption_eq_some_iff : first.toOption = some a ↔ first = .ok a := by
  cases first <;> simp [Except.toOption]

theorem exists_ok_of_isSome (accepted : first.toOption.isSome = true) : ∃ a, first = .ok a := by
  obtain ⟨a, made⟩ := Option.isSome_iff_exists.mp accepted
  exact ⟨a, toOption_eq_some_iff.mp made⟩

end Except

namespace Scriptlet

structure DetectionSettings.IsValid (settings : DetectionSettings) : Prop where
  nonempty : settings.languages ≠ []
  nodup : settings.languages.Nodup
  lower : Binary64.zero ≤ settings.confidence.lower
  ordered : settings.confidence.lower ≤ settings.confidence.upper
  upper : settings.confidence.upper ≤ Binary64.one

structure ExecutionSettings.IsValid (settings : ExecutionSettings) : Prop where
  named : Text.isAllBlank settings.tempFilePrefix.toList = false
  usable : ∀ c ∈ ['\x00', '/', '\\'], c ∉ settings.tempFilePrefix.toList
  windowsTerminal : Text.isAllBlank settings.windowsTerminalExecutable.toList = false
  cmd : Text.isAllBlank settings.cmdExecutable.toList = false
  covered : settings.commands.map Prod.fst = Language.all
  commands : ∀ entry ∈ settings.commands, Text.isAllBlank entry.2.toList = false

structure Settings.IsValid (settings : Settings) : Prop where
  detection : settings.detection.IsValid
  execution : settings.execution.IsValid

namespace Text

private theorem all_dropWhile {α : Type} (test : α → Bool) (items : List α) :
    (items.dropWhile test).all test = items.all test := by
  induction items with
  | nil => rfl
  | cons item rest ih => by_cases passes : test item = true <;> simp_all

theorem isAllBlank_strip (text : List Char) : isAllBlank (strip text) = isAllBlank text := by
  rw [strip, isAllBlank, List.all_reverse, all_dropWhile, List.all_reverse, all_dropWhile, isAllBlank]

theorem strip_eq_rdropWhile (text : List Char) : strip text = (text.dropWhile isBlank).rdropWhile isBlank := rfl

theorem strip_strip (text : List Char) : strip (strip text) = strip text := by
  have front : (strip text).dropWhile isBlank = strip text := by
    cases stripped : strip text with
    | nil => rfl
    | cons c rest =>
      obtain ⟨blanks, whole⟩ := List.rdropWhile_prefix isBlank (text.dropWhile isBlank)
      rw [← strip_eq_rdropWhile, stripped] at whole
      have first := List.head?_dropWhile_not isBlank text
      rw [← whole] at first
      exact List.dropWhile_cons_of_neg (Bool.eq_false_iff.mp first)
  rw [strip_eq_rdropWhile (strip text), front, strip_eq_rdropWhile, List.rdropWhile_idempotent]

end Text

namespace Config

namespace Checked
open Except
variable {α β : Type} {first : Checked α} {second : Checked β} {a : α} {b : β} {step : Step}

theorem both_eq_ok_iff : Checked.both first second = .ok (a, b) ↔ first = .ok a ∧ second = .ok b := by
  cases first <;> cases second <;> simp [Checked.both]

theorem under_eq_ok_iff : first.under step = .ok a ↔ first = .ok a := by
  cases first <;> simp [Checked.under]

theorem all_eq_ok_iff {checks : List (Checked α)} {values : List α} :
    all checks = .ok values ↔ checks = values.map .ok := by
  induction checks generalizing values with
  | nil => cases values <;> simp [all]
  | cons check rest ih =>
    rw [all, map_eq_ok_iff]
    cases values with
    | nil => simp
    | cons value values =>
      simp only [Prod.exists, both_eq_ok_iff, List.cons.injEq, List.map_cons, ← ih]
      constructor
      · rintro ⟨_, _, ⟨first, later⟩, rfl, rfl⟩
        exact ⟨first, later⟩
      · rintro ⟨first, later⟩
        exact ⟨value, values, ⟨first, later⟩, rfl, rfl⟩

/-- What holds of a default and of all that a check accepts holds of an optional value. -/
theorem holds_of_optional {holds : α → Prop} {entries : List (Value × Value)} {name : String} {usual : α}
    {check : Value → Checked α} (read : optional entries name usual check = .ok a) (default : holds usual)
    (checked : ∀ value a, check value = .ok a → holds a) : holds a := by
  unfold optional at read
  split at read
  next value _ => exact checked value a (under_eq_ok_iff.mp read)
  next =>
    cases read
    exact default

end Checked
open Checked Except

variable {value : Value} {text : String}

theorem unit_of_readUnitFloat {x : Binary64} (read : readUnitFloat value = .ok x) :
    Binary64.zero ≤ x ∧ x ≤ Binary64.one := by
  obtain ⟨y, _, bounded⟩ := bind_eq_ok_iff.mp read
  split at bounded
  next => cases bounded
  next notAbove =>
    split at bounded
    next => cases bounded
    next notBelow =>
      cases bounded
      have below := not_not.mp notAbove
      exact ⟨Binary64.le_of_not_lt (Binary64.le_iff.mp below).1 (by decide) notBelow, below⟩

theorem window_of_readConfidence {range : ConfidenceRange} (read : readConfidence value = .ok range) :
    Binary64.zero ≤ range.lower ∧ range.lower ≤ range.upper ∧ range.upper ≤ Binary64.one := by
  unfold readConfidence at read
  split at read
  next entries =>
    obtain ⟨⟨lower, upper⟩, both, ordered⟩ := bind_eq_ok_iff.mp read
    obtain ⟨first, second⟩ := both_eq_ok_iff.mp both
    have low := holds_of_optional first (by decide +kernel) fun _ _ => unit_of_readUnitFloat
    have high := holds_of_optional second (by decide +kernel) fun _ _ => unit_of_readUnitFloat
    dsimp only at ordered
    split at ordered
    next => cases ordered
    next inOrder =>
      cases ordered
      have isNumber := (Binary64.le_iff.mp low.2).1
      have alsoNumber := (Binary64.le_iff.mp high.2).1
      exact ⟨low.1, Binary64.le_of_not_lt alsoNumber isNumber inOrder, high.2⟩
  next => cases read

theorem distinct_of_readLanguages {languages : List Language} (read : readLanguages value = .ok languages) :
    languages ≠ [] ∧ languages.Nodup := by
  have checked {items : List Value} (read : languagesOf items = .ok languages) :
      languages ≠ [] ∧ languages.Nodup := by
    obtain ⟨given, _, tested⟩ := bind_eq_ok_iff.mp read
    split at tested
    next => cases tested
    next nonempty =>
      split at tested
      next => cases tested
      next nodup =>
        cases tested
        exact ⟨nonempty, not_not.mp nodup⟩
  unfold readLanguages at read
  split at read
  · exact checked read
  · exact checked read
  · cases read

theorem readDetection_eq_ok_iff {settings : DetectionSettings} : readDetection value = .ok settings ↔
    ∃ entries, value = .map entries ∧
      optional entries "languages" Language.all readLanguages = .ok settings.languages ∧
      optional entries "confidence" .standard readConfidence = .ok settings.confidence := by
  constructor
  · intro read
    unfold readDetection at read
    split at read
    next entries =>
      obtain ⟨_, both, rfl⟩ := map_eq_ok_iff.mp read
      exact ⟨entries, rfl, both_eq_ok_iff.mp both⟩
    next => cases read
  · rintro ⟨entries, rfl, both⟩
    exact map_eq_ok_iff.mpr ⟨_, both_eq_ok_iff.mpr both, rfl⟩

theorem isValid_of_readDetection {settings : DetectionSettings} (read : readDetection value = .ok settings) :
    settings.IsValid := by
  obtain ⟨entries, _, languages, confidence⟩ := readDetection_eq_ok_iff.mp read
  have distinct := holds_of_optional languages (by decide) fun _ _ => distinct_of_readLanguages
  have window := holds_of_optional confidence (by decide +kernel) fun _ _ => window_of_readConfidence
  exact ⟨distinct.1, distinct.2, window.1, window.2.1, window.2.2⟩

theorem usable_of_readTempFilePrefix (read : readTempFilePrefix value = .ok text) :
    Text.isAllBlank text.toList = false ∧ ∀ c ∈ ['\x00', '/', '\\'], c ∉ text.toList := by
  obtain ⟨given, _, tested⟩ := bind_eq_ok_iff.mp read
  split at tested
  next => cases tested
  next marked =>
    split at tested
    next => cases tested
    next usable =>
      cases tested
      refine ⟨Bool.eq_false_of_not_eq_true marked, fun c reserved found => usable ?_⟩
      exact List.any_eq_true.mpr ⟨c, found, List.contains_iff_mem.mpr reserved⟩

theorem marked_of_readExecutable (read : readExecutable value = .ok text) :
    Text.isAllBlank text.toList = false := by
  obtain ⟨given, _, tested⟩ := bind_eq_ok_iff.mp read
  split at tested
  next => cases tested
  next marked =>
    cases tested
    rw [String.toList_ofList, Text.isAllBlank_strip]
    exact Bool.eq_false_of_not_eq_true marked

theorem map_fst_mergeCommands (given : List (Language × String)) :
    (mergeCommands given).map Prod.fst = Language.all := by
  rw [mergeCommands, List.map_map]
  refine (List.map_congr_left fun language _ => ?_).trans (List.map_id _)
  rw [Function.comp_apply]
  split <;> rfl

theorem marked_of_mem_mergeCommands {given : List (Language × String)}
    (marked : ∀ entry ∈ given, Text.isAllBlank entry.2.toList = false) {entry : Language × String}
    (member : entry ∈ mergeCommands given) : Text.isAllBlank entry.2.toList = false := by
  obtain ⟨language, _, rfl⟩ := List.mem_map.mp member
  split
  next command found =>
    obtain ⟨before, after, rfl, _⟩ := List.lookup_eq_some_iff.mp found
    rw [String.toList_ofList, Text.isAllBlank_strip]
    exact marked (language, command) (by simp)
  next => cases language <;> decide

theorem covered_of_readCommands {commands : List (Language × String)} (read : readCommands value = .ok commands) :
    commands.map Prod.fst = Language.all ∧ ∀ entry ∈ commands, Text.isAllBlank entry.2.toList = false := by
  unfold readCommands at read
  split at read
  next entries =>
    obtain ⟨listed, _, tested⟩ := bind_eq_ok_iff.mp read
    dsimp only at tested
    split at tested
    next => cases tested
    next noBlank =>
      cases tested
      have marked := List.find?_eq_none.mp noBlank
      refine ⟨map_fst_mergeCommands _, fun entry member => marked_of_mem_mergeCommands ?_ member⟩
      exact fun known inside => Bool.eq_false_of_not_eq_true (marked known inside)
  next => cases read

theorem readExecution_eq_ok_iff {settings : ExecutionSettings} : readExecution value = .ok settings ↔
    ∃ entries, value = .map entries ∧
      optional entries "temp_file_prefix" ExecutionSettings.standard.tempFilePrefix readTempFilePrefix =
        .ok settings.tempFilePrefix ∧
      optional entries "terminal" ExecutionSettings.standard.terminal (readMember Terminal.all Terminal.name) =
        .ok settings.terminal ∧
      optional entries "windows_terminal_executable" ExecutionSettings.standard.windowsTerminalExecutable
        readExecutable = .ok settings.windowsTerminalExecutable ∧
      optional entries "cmd_executable" ExecutionSettings.standard.cmdExecutable readExecutable =
        .ok settings.cmdExecutable ∧
      optional entries "commands" ExecutionSettings.standard.commands readCommands = .ok settings.commands := by
  constructor
  · intro read
    unfold readExecution at read
    split at read
    next entries =>
      obtain ⟨_, all, rfl⟩ := map_eq_ok_iff.mp read
      obtain ⟨first, all⟩ := both_eq_ok_iff.mp all
      obtain ⟨second, all⟩ := both_eq_ok_iff.mp all
      obtain ⟨third, all⟩ := both_eq_ok_iff.mp all
      exact ⟨entries, rfl, first, second, third, both_eq_ok_iff.mp all⟩
    next => cases read
  · rintro ⟨entries, rfl, first, second, third, rest⟩
    have all := both_eq_ok_iff.mpr ⟨third, both_eq_ok_iff.mpr rest⟩
    exact map_eq_ok_iff.mpr ⟨_, both_eq_ok_iff.mpr ⟨first, both_eq_ok_iff.mpr ⟨second, all⟩⟩, rfl⟩

theorem isValid_of_readExecution {settings : ExecutionSettings} (read : readExecution value = .ok settings) :
    settings.IsValid := by
  obtain ⟨entries, _, named, _, windowsTerminal, cmd, commands⟩ := readExecution_eq_ok_iff.mp read
  have usual : readTempFilePrefix (.text ExecutionSettings.standard.tempFilePrefix) = .ok _ := rfl
  have usable := holds_of_optional named (usable_of_readTempFilePrefix usual) fun _ _ => usable_of_readTempFilePrefix
  have inWindows := holds_of_optional windowsTerminal (by decide) fun _ _ => marked_of_readExecutable
  have inCmd := holds_of_optional cmd (by decide) fun _ _ => marked_of_readExecutable
  have covered := holds_of_optional commands (by decide) fun _ _ => covered_of_readCommands
  exact ⟨usable.1, usable.2, inWindows, inCmd, covered.1, covered.2⟩

theorem isValid_detection_standard : DetectionSettings.standard.IsValid := by
  have read : readDetection (.map []) = .ok .standard := rfl
  exact isValid_of_readDetection read

theorem isValid_execution_standard : ExecutionSettings.standard.IsValid := by
  have read : readExecution (.map []) = .ok .standard := rfl
  exact isValid_of_readExecution read

variable {entries : List (Value × Value)} {settings : Settings}

theorem readSettings_eq_ok_iff : readSettings entries = .ok settings ↔
    (∀ entry ∈ entries, entry.1 ≠ .brokenText) ∧ unknownKeys entries = [] ∧
      optional entries "detection" .standard readDetection = .ok settings.detection ∧
      optional entries "selector" .standard readSelector = .ok settings.selector ∧
      optional entries "execution" .standard readExecution = .ok settings.execution ∧
      optional entries "logging" .standard readLogging = .ok settings.logging := by
  constructor
  · intro read
    unfold readSettings at read
    split at read
    next => cases read
    next whole =>
      have whole : ∀ entry ∈ entries, entry.1 ≠ .brokenText := by
        intro entry member broken
        exact whole (List.any_eq_true.mpr ⟨entry, member, by rw [broken]⟩)
      obtain ⟨_, all, rfl⟩ := map_eq_ok_iff.mp read
      obtain ⟨first, all⟩ := both_eq_ok_iff.mp all
      obtain ⟨second, all⟩ := both_eq_ok_iff.mp all
      obtain ⟨third, all⟩ := both_eq_ok_iff.mp all
      obtain ⟨fourth, extras⟩ := both_eq_ok_iff.mp all
      split at extras
      next known => exact ⟨whole, known, first, second, third, fourth⟩
      next => cases extras
  · rintro ⟨whole, known, first, second, third, fourth⟩
    unfold readSettings
    split
    next broken =>
      obtain ⟨entry, member, broken⟩ := List.any_eq_true.mp broken
      split at broken
      next isBroken => exact absurd isBroken (whole entry member)
      next => cases broken
    rw [readSections, known]
    have last : Checked.both (optional entries "logging" .standard readLogging) (.ok ()) = .ok (settings.logging, ()) :=
      both_eq_ok_iff.mpr ⟨fourth, rfl⟩
    have rest := both_eq_ok_iff.mpr ⟨second, both_eq_ok_iff.mpr ⟨third, last⟩⟩
    exact map_eq_ok_iff.mpr ⟨_, both_eq_ok_iff.mpr ⟨first, rest⟩, rfl⟩

/-- Accepted settings are valid, whatever the entries are that they were read from. -/
theorem isValid_of_readSettings (read : readSettings entries = .ok settings) : settings.IsValid := by
  obtain ⟨_, _, detection, _, execution, _⟩ := readSettings_eq_ok_iff.mp read
  exact ⟨holds_of_optional detection isValid_detection_standard fun _ _ => isValid_of_readDetection,
    holds_of_optional execution isValid_execution_standard fun _ _ => isValid_of_readExecution⟩

end Config
end Scriptlet
