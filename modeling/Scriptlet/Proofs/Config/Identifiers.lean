import Scriptlet.Highlight.Analysis
import Scriptlet.Proofs.Config.Commands
import Scriptlet.Proofs.Execution.Call
import Scriptlet.Proofs.Text.Lowercase

/-!
Identifiers of languages. Wherever one is given, in settings, to run a text or to highlight it, the same
texts are accepted: the identifiers of the languages in any case of ASCII letters, with any blanks around
them. No character beyond ASCII stands for a letter of an identifier.
-/
namespace Scriptlet
open Config Config.Checked Except

def Language.SpelledBy (language : Language) (name : String) : Prop :=
  (Text.strip name.toList).map Char.toLower = language.id.toList

namespace Language
variable {language : Language} {name command : String}

instance : Decidable (language.SpelledBy name) :=
  inferInstanceAs (Decidable ((Text.strip name.toList).map Char.toLower = language.id.toList))

private theorem isPlain_id (language : Language) : language.id.toList.all Text.isPlain = true := by
  cases language <;> decide

theorem parse?_eq_some_iff_spelledBy : parse? name = some language ↔ language.SpelledBy name := by
  rw [parse?_eq_some_iff, canonicalValue, Value.text.injEq, canonical, ← String.toList_inj, String.toList_ofList]
  exact Text.lower_eq_iff (List.all_eq_true.mp (isPlain_id language))

theorem parse?_eq_none_iff : parse? name = none ↔ ∀ language : Language, ¬ language.SpelledBy name := by
  simp only [Option.eq_none_iff_forall_ne_some, ne_eq, parse?_eq_some_iff_spelledBy]

theorem marked_of_spelledBy (spelled : language.SpelledBy name) : Text.isAllBlank name.toList = false := by
  apply Bool.eq_false_of_not_eq_true
  intro blank
  rw [SpelledBy, Text.strip_eq_nil_iff.mpr blank] at spelled
  revert spelled
  cases language <;> decide

theorem defaultCommand_injective {other : Language} (same : language.defaultCommand = other.defaultCommand) :
    language = other := by
  revert same
  cases language <;> cases other <;> decide

end Language

namespace Config
variable {language : Language} {name command : String}

theorem readLanguage_text_iff {id : String} : readLanguage (.text id) = .ok language ↔ id = language.id := by
  constructor
  · intro read
    obtain ⟨written, isText, found⟩ := text_of_readMember read
    obtain rfl := Except.ok.inj (Option.some.inj isText)
    exact (Language.id_of_ofId? found).symm
  · intro same
    rw [same, readLanguage_id]

private theorem readLanguage_canonical_iff :
    readLanguage (canonicalValue (.text name)) = .ok language ↔ language.SpelledBy name := by
  rw [← Language.parse?_eq_some_iff_spelledBy, parse?_eq_some_iff, canonicalValue, readLanguage_text_iff,
    Value.text.injEq]

theorem readLanguages_singleton_iff {languages : List Language} :
    readLanguages (.list [.text name]) = .ok languages ↔
      ∃ language : Language, language.SpelledBy name ∧ languages = [language] := by
  rw [readLanguages, languagesOf, bind_eq_ok_iff]
  constructor
  · intro accepted
    obtain ⟨given, read, tested⟩ := accepted
    have read := all_eq_ok_iff.mp read
    obtain ⟨language, rest, rfl, first, others⟩ := List.map_eq_cons_iff.mp read.symm
    obtain rfl := List.map_eq_nil_iff.mp others
    refine ⟨language, readLanguage_canonical_iff.mp (under_eq_ok_iff.mp first.symm), ?_⟩
    simpa using tested.symm
  · intro named
    obtain ⟨language, spelled, same⟩ := named
    refine ⟨[language], all_eq_ok_iff.mpr ?_, by simp [same]⟩
    exact congrArg (· :: []) (under_eq_ok_iff.mpr (readLanguage_canonical_iff.mpr spelled))

theorem readCommand_text_iff {entry : Language × String} :
    readCommand (canonicalValue (.text name), .text command) = .ok entry ↔
      entry.1.SpelledBy name ∧ entry.2 = command := by
  rw [readCommand_eq_ok_iff, readLanguage_canonical_iff]
  apply and_congr_right
  intro _
  exact ⟨fun read => (Except.ok.inj read).symm, fun same => congrArg _ same.symm⟩

/-- One command is accepted for exactly the spellings of a language, if it is not blank. -/
theorem readCommands_singleton_iff {commands : List (Language × String)} :
    readCommands (.map [(.text name, .text command)]) = .ok commands ↔
      Text.isAllBlank command.toList = false ∧
        ∃ language : Language, language.SpelledBy name ∧ mergeCommands [(language, command)] = commands := by
  have folded : canonicalEntries [(.text name, .text command)] = [(canonicalValue (.text name), .text command)] :=
    rfl
  rw [readCommands_eq_ok_iff, folded]
  constructor
  · intro accepted
    obtain ⟨read, made, marked, merged⟩ := accepted
    obtain ⟨entry, rest, rfl, first, others⟩ := List.map_eq_cons_iff.mp made.symm
    obtain rfl := List.map_eq_nil_iff.mp others
    obtain ⟨spelled, rfl⟩ := readCommand_text_iff.mp first.symm
    exact ⟨marked entry (List.mem_singleton_self entry), entry.1, spelled, merged⟩
  · intro named
    obtain ⟨marked, language, spelled, merged⟩ := named
    refine ⟨[(language, command)], ?_, ?_, merged⟩
    · exact congrArg (· :: []) (readCommand_text_iff.mpr ⟨spelled, rfl⟩)
    · simpa [putCommand] using marked

def languageOnly (name : String) : Value := .map [(.text "languages", .list [.text name])]

def commandOnly (name command : String) : Value :=
  .map [(.text "commands", .map [(.text name, .text command)])]

private theorem optional_absent {α : Type} {key field : String} {value : Value} {usual : α}
    {read : Value → Checked α} (other : key ≠ field) :
    optional [(.text key, value)] field usual read = .ok usual := by
  simp [optional, Value.lookup?, Value.sameKey, other]

private theorem optional_present {α : Type} {field : String} {value : Value} {usual a : α}
    {read : Value → Checked α} : optional [(.text field, value)] field usual read = .ok a ↔ read value = .ok a := by
  simp only [optional, Value.lookup?, Value.sameKey, decide_true, List.find?_cons_of_pos, Option.map_some,
    under_eq_ok_iff]

theorem readDetection_languageOnly_iff {settings : DetectionSettings} :
    readDetection (languageOnly name) = .ok settings ↔
      ∃ language : Language, language.SpelledBy name ∧ settings = ⟨[language], .standard⟩ := by
  obtain ⟨languages, confidence⟩ := settings
  rw [readDetection_eq_ok_iff]
  constructor
  · intro accepted
    obtain ⟨entries, own, listed, usual⟩ := accepted
    obtain rfl := Value.map.inj own
    rw [optional_present, readLanguages_singleton_iff] at listed
    rw [optional_absent (by decide)] at usual
    obtain ⟨language, spelled, rfl⟩ := listed
    obtain rfl := Except.ok.inj usual
    exact ⟨language, spelled, rfl⟩
  · intro named
    obtain ⟨language, spelled, same⟩ := named
    obtain ⟨rfl, rfl⟩ := DetectionSettings.mk.inj same
    refine ⟨_, rfl, ?_, optional_absent (by decide)⟩
    exact optional_present.mpr (readLanguages_singleton_iff.mpr ⟨language, spelled, rfl⟩)

theorem readExecution_commandOnly_iff {settings : ExecutionSettings} :
    readExecution (commandOnly name command) = .ok settings ↔
      Text.isAllBlank command.toList = false ∧ ∃ language : Language, language.SpelledBy name ∧
        settings = { ExecutionSettings.standard with commands := mergeCommands [(language, command)] } := by
  obtain ⟨tempFilePrefix, terminal, windowsTerminal, cmd, commands⟩ := settings
  rw [readExecution_eq_ok_iff]
  constructor
  · intro accepted
    obtain ⟨entries, own, first, second, third, fourth, last⟩ := accepted
    obtain rfl := Value.map.inj own
    rw [optional_absent (by decide)] at first second third fourth
    rw [optional_present, readCommands_singleton_iff] at last
    obtain rfl := Except.ok.inj first
    obtain rfl := Except.ok.inj second
    obtain rfl := Except.ok.inj third
    obtain rfl := Except.ok.inj fourth
    obtain ⟨marked, language, spelled, rfl⟩ := last
    exact ⟨marked, language, spelled, rfl⟩
  · intro named
    obtain ⟨marked, language, spelled, same⟩ := named
    obtain ⟨rfl, rfl, rfl, rfl, rfl⟩ := ExecutionSettings.mk.inj same
    refine ⟨_, rfl, optional_absent (by decide), optional_absent (by decide), optional_absent (by decide),
      optional_absent (by decide), ?_⟩
    exact optional_present.mpr (readCommands_singleton_iff.mpr ⟨marked, language, spelled, rfl⟩)

/-- Whether settings run texts of one language by a command, without the blanks around it, and of all others
by their default commands. -/
def SetsCommand (settings : ExecutionSettings) (language : Language) (command : String) : Prop :=
  ∀ other : Language, settings.commandFor other =
    if other = language then String.ofList (Text.strip command.toList) else other.defaultCommand

theorem setsCommand_mergeCommands (language : Language) (command : String) :
    SetsCommand { ExecutionSettings.standard with commands := mergeCommands [(language, command)] } language
      command := by
  intro other
  rw [ExecutionSettings.commandFor, lookup_mergeCommands, Option.getD_some, List.lookup_cons]
  by_cases same : other = language
  · rw [if_pos same, same, beq_self_eq_true]
    rfl
  · rw [if_neg same, beq_false_of_ne same]
    rfl

/-- The command that is set tells the language, since no two languages have one default command. -/
theorem SetsCommand.unique {settings : ExecutionSettings} {other : Language}
    (sets : SetsCommand settings language command) (also : SetsCommand settings other command) :
    language = other := by
  by_contra differ
  have first := (sets language).symm.trans (also language)
  have second := (sets other).symm.trans (also other)
  rw [if_pos rfl, if_neg differ] at first
  rw [if_neg (Ne.symm differ), if_pos rfl] at second
  exact differ (Language.defaultCommand_injective (first.symm.trans second.symm))

end Config

open Highlight in
/-- For every text and every language: the text names the language for settings, for running and for
highlighting exactly if it spells the identifier of the language, and a text that spells none is accepted
nowhere. -/
theorem identifiers_agree (name : String) (language : Language) :
    (Language.parse? name = some language ↔ language.SpelledBy name) ∧
    ((readDetection (languageOnly name)).map DetectionSettings.languages = .ok [language] ↔
      language.SpelledBy name) ∧
    (∀ command : String, Text.isAllBlank command.toList = false →
      ((∃ settings, readExecution (commandOnly name command) = .ok settings ∧
        SetsCommand settings language command) ↔ language.SpelledBy name)) ∧
    (∀ settings, Executor.checkLanguage ⟨settings, Language.all⟩ name = .ok language ↔
      language.SpelledBy name) ∧
    (language.SpelledBy name → ∀ code, analyze code (some name) = analyze code (some language.id) ∧
      analyze code (some name) = analyzeAs language (code.getD "").toList) ∧
    ((∀ other : Language, ¬ other.SpelledBy name) →
      (∀ settings, readDetection (languageOnly name) ≠ .ok settings) ∧
      (∀ command settings, readExecution (commandOnly name command) ≠ .ok settings) ∧
      (∀ settings other, Executor.checkLanguage ⟨settings, Language.all⟩ name ≠ .ok other) ∧
      ∀ code, analyze code (some name) = []) := by
  have spelled_id (own : Language) : own.SpelledBy own.id := by cases own <;> decide
  have accepts (settings : ExecutionSettings) (own : Language) :
      Executor.checkLanguage ⟨settings, Language.all⟩ name = .ok own ↔ own.SpelledBy name := by
    constructor
    · intro accepted
      exact Language.parse?_eq_some_iff_spelledBy.mp (Call.parse?_of_checkLanguage accepted).1
    · intro spelled
      rw [Executor.checkLanguage, Language.marked_of_spelledBy spelled,
        Language.parse?_eq_some_iff_spelledBy.mpr spelled]
      dsimp only
      rw [List.contains_iff_mem.mpr (Language.mem_all own)]
      rfl
  have analyzed {own : Language} {spelling : String} (spelled : own.SpelledBy spelling) (code : Option String) :
      analyze code (some spelling) = analyzeAs own (code.getD "").toList := by
    simp only [analyze, Option.bind_some, Language.parse?_eq_some_iff_spelledBy.mpr spelled]
  refine ⟨Language.parse?_eq_some_iff_spelledBy, ?detection, ?execution, fun settings => accepts settings language,
    ?highlighting, ?rejected⟩
  case detection =>
    rw [map_eq_ok_iff]
    constructor
    · intro accepted
      obtain ⟨settings, read, listed⟩ := accepted
      obtain ⟨own, spelled, rfl⟩ := readDetection_languageOnly_iff.mp read
      obtain rfl := List.singleton_inj.mp listed
      exact spelled
    · intro spelled
      exact ⟨_, readDetection_languageOnly_iff.mpr ⟨language, spelled, rfl⟩, rfl⟩
  case execution =>
    intro command marked
    constructor
    · intro accepted
      obtain ⟨settings, read, sets⟩ := accepted
      obtain ⟨_, own, spelled, rfl⟩ := readExecution_commandOnly_iff.mp read
      obtain rfl := (setsCommand_mergeCommands own command).unique sets
      exact spelled
    · intro spelled
      exact ⟨_, readExecution_commandOnly_iff.mpr ⟨marked, language, spelled, rfl⟩,
        setsCommand_mergeCommands language command⟩
  case highlighting =>
    intro spelled code
    rw [analyzed spelled, analyzed (spelled_id language)]
    exact ⟨rfl, rfl⟩
  case rejected =>
    intro unspelled
    refine ⟨fun settings read => ?_, fun command settings read => ?_, fun settings own accepted => ?_, fun code => ?_⟩
    · obtain ⟨own, spelled, _⟩ := readDetection_languageOnly_iff.mp read
      exact unspelled own spelled
    · obtain ⟨_, own, spelled, _⟩ := readExecution_commandOnly_iff.mp read
      exact unspelled own spelled
    · exact unspelled own ((accepts settings own).mp accepted)
    · simp only [analyze, Option.bind_some, Language.parse?_eq_none_iff.mpr unspelled]

open Highlight in
theorem identifiers_agree_powershell :
    Language.powershell.SpelledBy "\u00a0PowerShell\t" ∧
      Language.parse? "\u00a0PowerShell\t" = some .powershell ∧
      (∀ code, analyze code (some "\u00a0PowerShell\t") = analyze code (some "powershell")) ∧
      (∀ other : Language, ¬ other.SpelledBy "VB\u017fcript") ∧
      ∀ code, analyze code (some "VB\u017fcript") = [] := by
  have spelled : Language.powershell.SpelledBy "\u00a0PowerShell\t" := by decide +kernel
  have unspelled : ∀ other : Language, ¬ other.SpelledBy "VB\u017fcript" := by
    intro other
    cases other <;> decide +kernel
  have agree := identifiers_agree "\u00a0PowerShell\t" .powershell
  have refused := identifiers_agree "VB\u017fcript" .vbscript
  exact ⟨spelled, agree.1.mpr spelled, fun code => (agree.2.2.2.2.1 spelled code).1, unspelled,
    (refused.2.2.2.2.2 unspelled).2.2.2⟩

end Scriptlet
