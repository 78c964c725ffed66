import Scriptlet.Proofs.Config.Commands
import Scriptlet.Proofs.Config.Loading
import Scriptlet.Proofs.Path.Text

/-!
Accepted settings can be given again. Each check leaves a value that it takes as it is, so the fields of a
section, written out as values, are read as the same section.
-/
namespace Scriptlet

def ConfidenceRange.toValue (range : ConfidenceRange) : Value :=
  .map [(.text "lower", .float range.lower), (.text "upper", .float range.upper)]

def DetectionSettings.toValue (settings : DetectionSettings) : Value :=
  .map [(.text "languages", .list (settings.languages.map fun language => .text language.id)),
    (.text "confidence", settings.confidence.toValue)]

def SelectorSettings.toValue (settings : SelectorSettings) : Value :=
  .map [(.text "mode", .text settings.mode.name), (.text "confirm_before_execution", .bool settings.confirm)]

namespace ExecutionSettings

def commandsValue (commands : List (Language × String)) : Value :=
  .map (commands.map fun entry => (.text entry.1.id, .text entry.2))

def toValue (settings : ExecutionSettings) : Value :=
  .map [(.text "temp_file_prefix", .text settings.tempFilePrefix), (.text "terminal", .text settings.terminal.name),
    (.text "windows_terminal_executable", .text settings.windowsTerminalExecutable),
    (.text "cmd_executable", .text settings.cmdExecutable), (.text "commands", commandsValue settings.commands)]

end ExecutionSettings

namespace LogSettings

def fileValue : Option Path → Value
  | none => .null
  | some path => .text path.toString

def toValue (settings : LogSettings) : Value :=
  .map [(.text "level", .text settings.level.name), (.text "format", .text settings.format.name),
    (.text "file", fileValue settings.file), (.text "rotation", .text settings.rotation),
    (.text "retention", .text settings.retention)]

end LogSettings

def Settings.toEntries (settings : Settings) : List (Value × Value) :=
  [(.text "detection", settings.detection.toValue), (.text "selector", settings.selector.toValue),
    (.text "execution", settings.execution.toValue), (.text "logging", settings.logging.toValue)]

namespace Config
open Checked Except

def Rereads {α : Type} (check : Value → Checked α) (toValue : α → Value) : Prop :=
  ∀ value a, check value = .ok a → check (toValue a) = .ok a

theorem Rereads.optional {α : Type} {check : Value → Checked α} {toValue : α → Value}
    {entries : List (Value × Value)} {name : String} {usual a : α} (rereads : Rereads check toValue)
    (default : check (toValue usual) = .ok usual) (read : optional entries name usual check = .ok a) :
    check (toValue a) = .ok a :=
  @holds_of_optional α a (fun a => check (toValue a) = .ok a) entries name usual check read default rereads

theorem optional_of_lookup {α : Type} {check : Value → Checked α} {entries : List (Value × Value)} {name : String}
    {usual a : α} {value : Value} (found : Value.lookup? entries name = some value) (read : check value = .ok a) :
    optional entries name usual check = .ok a := by
  rw [Config.optional, found]
  exact under_eq_ok_iff.mpr read

variable {α : Type} {members : List α} {name : α → String}

theorem rereads_readMember : Rereads (readMember members name) fun a => .text (name a) := by
  intro value a read
  obtain ⟨s, _, found⟩ := text_of_readMember read
  have named : name a = s := by simpa using List.find?_some found
  rw [readMember, textOf?, named]
  dsimp only [Except.bind]
  rw [found]
  rfl

theorem rereads_readWord : Rereads (readWord members name) fun a => .text (name a) := by
  intro value a read
  unfold readWord at read
  split at read
  next s =>
    split at read
    next member found =>
      cases read
      have named : name a = s := by simpa using List.find?_some found
      rw [readWord, named, found]
    next => cases read
  next => cases read
  next => cases read

theorem rereads_readBool : Rereads readBool .bool := fun _ _ _ => rfl

theorem rereads_readText : Rereads readText .text := fun _ _ _ => rfl

theorem rereads_readUnitFloat : Rereads readUnitFloat .float := by
  intro value x read
  obtain ⟨y, _, bounded⟩ := bind_eq_ok_iff.mp read
  split at bounded
  next => cases bounded
  next notAbove =>
    split at bounded
    next => cases bounded
    next notBelow =>
      cases bounded
      exact bind_eq_ok_iff.mpr ⟨x, rfl, by rw [if_neg notAbove, if_neg notBelow]⟩

theorem rereads_readTempFilePrefix : Rereads readTempFilePrefix .text := by
  intro value text read
  obtain ⟨given, _, tested⟩ := bind_eq_ok_iff.mp read
  have same : given = text := by
    split at tested
    · cases tested
    · split at tested <;> cases tested
      rfl
  subst same
  exact bind_eq_ok_iff.mpr ⟨given, rfl, tested⟩

theorem rereads_readExecutable : Rereads readExecutable .text := by
  intro value text read
  have marked := marked_of_readExecutable read
  obtain ⟨given, _, tested⟩ := bind_eq_ok_iff.mp read
  split at tested
  next => cases tested
  next =>
    cases tested
    refine bind_eq_ok_iff.mpr ⟨_, rfl, ?_⟩
    rw [if_neg (Bool.eq_false_iff.mp marked), String.toList_ofList, Text.strip_strip]

theorem rereads_readPath : Rereads readPath LogSettings.fileValue := by
  intro value file read
  unfold readPath at read
  split at read
  next => cases read; rfl
  next s =>
    cases read
    rw [LogSettings.fileValue, readPath, (Path.normal_ofString s).ofString_toString]
  next => cases read

theorem rereads_readConfidence : Rereads readConfidence ConfidenceRange.toValue := by
  intro value range read
  unfold readConfidence at read
  split at read
  next entries =>
    obtain ⟨⟨lower, upper⟩, both, ordered⟩ := bind_eq_ok_iff.mp read
    obtain ⟨first, second⟩ := both_eq_ok_iff.mp both
    have low := rereads_readUnitFloat.optional (by decide +kernel) first
    have high := rereads_readUnitFloat.optional (by decide +kernel) second
    have same : (⟨lower, upper⟩ : ConfidenceRange) = range := by
      dsimp only at ordered
      split at ordered <;> cases ordered
      rfl
    subst same
    refine bind_eq_ok_iff.mpr ⟨(lower, upper), both_eq_ok_iff.mpr ⟨?_, ?_⟩, ordered⟩
    · exact optional_of_lookup rfl low
    · exact optional_of_lookup rfl high
  next => cases read

theorem rereads_readLanguages :
    Rereads readLanguages fun languages => .list (languages.map fun language => .text language.id) := by
  intro value languages read
  obtain ⟨nonempty, nodup⟩ := distinct_of_readLanguages read
  have items : languages.map (fun language => Value.text language.id) =
      (languages.map fun language => Value.text language.id).map canonicalValue := by
    rw [List.map_map]
    refine List.map_congr_left fun language _ => ?_
    rw [Function.comp_apply, canonicalValue, canonical_id]
  rw [readLanguages, ← items]
  refine bind_eq_ok_iff.mpr ⟨languages, all_eq_ok_iff.mpr ?_, ?_⟩
  · rw [List.zipIdx_map, List.map_map]
    conv => rhs; rw [← List.zipIdx_map_fst 0 languages, List.map_map]
    refine List.map_congr_left fun entry _ => ?_
    exact under_eq_ok_iff.mpr (readLanguage_id entry.1)
  · rw [if_neg nonempty, if_neg (not_not.mpr nodup)]

theorem rereads_readDetection : Rereads readDetection DetectionSettings.toValue := by
  intro value settings read
  obtain ⟨entries, _, languages, confidence⟩ := readDetection_eq_ok_iff.mp read
  refine readDetection_eq_ok_iff.mpr ⟨_, rfl, optional_of_lookup rfl ?_, optional_of_lookup rfl ?_⟩
  · exact rereads_readLanguages.optional (by decide) languages
  · exact rereads_readConfidence.optional (by decide +kernel) confidence

theorem rereads_readSelector : Rereads readSelector SelectorSettings.toValue := by
  intro value settings read
  unfold readSelector at read
  split at read
  next entries =>
    obtain ⟨⟨mode, confirm⟩, both, rfl⟩ := map_eq_ok_iff.mp read
    obtain ⟨first, second⟩ := both_eq_ok_iff.mp both
    have mode := rereads_readMember.optional (by decide) first
    refine map_eq_ok_iff.mpr ⟨_, both_eq_ok_iff.mpr ⟨?_, ?_⟩, rfl⟩
    · exact optional_of_lookup rfl mode
    · exact optional_of_lookup rfl (rereads_readBool.optional rfl second)
  next => cases read

private theorem canonicalEntries_commands {commands : List (Language × String)}
    (nodup : (commands.map Prod.fst).Nodup) :
    canonicalEntries (commands.map fun entry => (.text entry.1.id, .text entry.2)) =
      commands.map fun entry => (.text entry.1.id, .text entry.2) := by
  have distinct : Value.Distinct (commands.map fun entry => (.text entry.1.id, .text entry.2)) := by
    refine List.pairwise_map.mpr ((List.pairwise_map.mp nodup).imp fun {first second} differ => ?_)
    refine Bool.eq_false_of_not_eq_true fun same => differ ?_
    have sameId := Value.text.inj (Value.sameKey_text_iff.mp same)
    exact Option.some.inj (((Language.ofId?_id _).symm.trans (congrArg _ sameId)).trans (Language.ofId?_id _))
  have keys : (commands.map fun entry => (Value.text entry.1.id, Value.text entry.2)).map
      (fun entry => (canonicalValue entry.1, entry.2)) =
      commands.map fun entry => (Value.text entry.1.id, Value.text entry.2) := by
    rw [List.map_map]
    refine List.map_congr_left fun entry _ => ?_
    rw [Function.comp_apply, canonicalValue, canonical_id]
  rw [canonicalEntries_eq_putAll, keys]
  exact Value.putAll_of_distinct distinct

theorem rereads_readCommands : Rereads readCommands ExecutionSettings.commandsValue := by
  intro value commands read
  obtain ⟨covered, marked⟩ := covered_of_readCommands read
  have nodup : (commands.map Prod.fst).Nodup := covered ▸ (by decide : Language.all.Nodup)
  have stripped : ∀ entry ∈ commands, Text.strip entry.2.toList = entry.2.toList := by
    obtain ⟨entries, rfl⟩ := map_of_readCommands read
    obtain ⟨given, _, _, rfl⟩ := readCommands_eq_ok_iff.mp read
    exact fun entry => stripped_of_mem_mergeCommands
  have kept : commands.foldl putCommand [] = commands := foldl_putCommand_of_nodup nodup
  refine readCommands_eq_ok_iff.mpr ⟨commands, ?_, by rwa [kept], ?_⟩
  · rw [canonicalEntries_commands nodup, List.map_map]
    refine List.map_congr_left fun entry _ => ?_
    rw [Function.comp_apply, readCommand, readLanguage_id]
    rfl
  · rw [kept, mergeCommands_of_covered covered stripped]

theorem rereads_readExecution : Rereads readExecution ExecutionSettings.toValue := by
  intro value settings read
  obtain ⟨entries, _, named, terminal, windowsTerminal, cmd, commands⟩ := readExecution_eq_ok_iff.mp read
  refine readExecution_eq_ok_iff.mpr ⟨_, rfl, optional_of_lookup rfl ?_, optional_of_lookup rfl ?_,
    optional_of_lookup rfl ?_, optional_of_lookup rfl ?_, optional_of_lookup rfl ?_⟩
  · exact rereads_readTempFilePrefix.optional rfl named
  · exact rereads_readMember.optional (by decide) terminal
  · exact rereads_readExecutable.optional (by decide) windowsTerminal
  · exact rereads_readExecutable.optional (by decide) cmd
  · exact rereads_readCommands.optional (by decide) commands

theorem rereads_readLogging : Rereads readLogging LogSettings.toValue := by
  intro value settings read
  unfold readLogging at read
  split at read
  next entries =>
    obtain ⟨⟨level, format, file, rotation, retention⟩, all, rfl⟩ := map_eq_ok_iff.mp read
    obtain ⟨first, all⟩ := both_eq_ok_iff.mp all
    obtain ⟨second, all⟩ := both_eq_ok_iff.mp all
    obtain ⟨third, all⟩ := both_eq_ok_iff.mp all
    obtain ⟨fourth, fifth⟩ := both_eq_ok_iff.mp all
    have atLeast := rereads_readWord.optional (by decide) first
    have written := rereads_readWord.optional (by decide) second
    have kept := rereads_readPath.optional rfl third
    refine map_eq_ok_iff.mpr ⟨(level, format, file, rotation, retention), ?_, rfl⟩
    refine both_eq_ok_iff.mpr ⟨optional_of_lookup rfl atLeast, both_eq_ok_iff.mpr ⟨?_, both_eq_ok_iff.mpr ⟨?_, ?_⟩⟩⟩
    · exact optional_of_lookup rfl written
    · exact optional_of_lookup rfl kept
    · refine both_eq_ok_iff.mpr ⟨optional_of_lookup rfl ?_, optional_of_lookup rfl ?_⟩
      · exact rereads_readText.optional rfl fourth
      · exact rereads_readText.optional rfl fifth
  next => cases read

variable {sections entries : List (Value × Value)} {settings : Settings} {env : Environment}

theorem readSettings_toEntries (read : readSettings sections = .ok settings) :
    readSettings settings.toEntries = .ok settings := by
  obtain ⟨_, _, detection, selector, execution, logging⟩ := readSettings_eq_ok_iff.mp read
  have named : ∀ entry ∈ settings.toEntries, entry.1 ≠ .brokenText := by simp [Settings.toEntries]
  refine readSettings_eq_ok_iff.mpr ⟨named, rfl, optional_of_lookup rfl ?_, optional_of_lookup rfl ?_,
    optional_of_lookup rfl ?_, optional_of_lookup rfl ?_⟩
  · exact rereads_readDetection.optional (rereads_readDetection (.map []) _ rfl) detection
  · exact rereads_readSelector.optional (rereads_readSelector (.map []) _ rfl) selector
  · exact rereads_readExecution.optional (rereads_readExecution (.map []) _ rfl) execution
  · exact rereads_readLogging.optional (rereads_readLogging (.map []) _ rfl) logging

/-- No variable has a name, in any case, with the usual lead. -/
def Bare (env : Environment) : Prop :=
  ∀ entry ∈ env.vars, ¬ "runonce_".toList <+: (lowerText entry.1).toList

private def LacksLead (vars : Variables) : Prop := ∀ entry ∈ vars, ¬ "runonce_".toList <+: entry.1.toList

private theorem lacksLead_canonical (bare : Bare env) : LacksLead (VariableRules.canonical {} env.vars) := by
  unfold VariableRules.canonical
  refine List.foldlRecOn (motive := LacksLead) _ _ nofun fun known absent added member => ?_
  have own := bare added (List.mem_filter.mp member).1
  intro entry inside
  dsimp only at inside
  split at inside
  next =>
    obtain ⟨old, there, rfl⟩ := List.mem_map.mp inside
    split
    · exact own
    · exact absent old there
  next =>
    rcases List.mem_append.mp inside with old | new
    · exact absent entry old
    · rw [List.mem_singleton.mp new]
      exact own

private theorem foldlM_of_skipped {ε α β : Type} {step : β → α → Except ε β} {items : List α}
    (skipped : ∀ item ∈ items, ∀ b, step b item = .ok b) (b : β) : items.foldlM step b = .ok b := by
  induction items with
  | nil => rfl
  | cons item rest ih =>
    rw [List.foldlM_cons, skipped item List.mem_cons_self]
    exact ih fun later member => skipped later (List.mem_cons_of_mem _ member)

private theorem mapM_of_ok {ε α β : Type} {f : α → Except ε β} {items : List α} {b : β}
    (same : ∀ item ∈ items, f item = .ok b) : items.mapM f = .ok (items.map fun _ => b) := by
  induction items with
  | nil => rfl
  | cons item rest ih =>
    rw [List.mapM_cons, same item List.mem_cons_self, ih fun later member => same later (List.mem_cons_of_mem _ member)]
    rfl

private theorem lead_sectionVariable :
    ∀ form ∈ sectionForms, "runonce_".toList <+: (VariableRules.sectionVariable {} form.1).toList := by
  decide +kernel

theorem entriesFromEnvironment_of_bare (bare : Bare env) : entriesFromEnvironment {} env.vars = .ok [] := by
  have absent := lacksLead_canonical bare
  unfold entriesFromEnvironment
  generalize VariableRules.canonical {} env.vars = known at absent ⊢
  have silent : ∀ form ∈ sectionForms, sectionFromEnvironment {} form.1 form.2 known = .ok none := by
    intro form member
    have lead := lead_sectionVariable form member
    have unset : known.lookup (VariableRules.sectionVariable {} form.1) = none := by
      refine List.lookup_eq_none_iff.mpr fun entry inside => bne_iff_ne.mpr fun same => absent entry inside ?_
      rwa [← same]
    have nested : nestedFields {} form.1 form.2 known = .ok [] := by
      unfold nestedFields
      extract_lets way
      rw [if_neg (by decide)]
      refine foldlM_of_skipped (fun entry inside entries => if_neg fun within => absent entry inside ?_) []
      refine lead.trans (List.IsPrefix.trans ?_ (List.isPrefixOf_iff_prefix.mp within))
      exact ⟨_, String.toList_append.symm⟩
    rw [sectionFromEnvironment, unset]
    dsimp only
    rw [nested]
    rfl
  refine bind_eq_ok_iff.mpr ⟨sectionForms.map fun _ => none, mapM_of_ok fun form member => ?_, rfl⟩
  dsimp only
  rw [silent form member]
  rfl

theorem settingsFrom_toEntries (bare : Bare env) (made : settingsFrom entries env = .ok settings) :
    settingsFrom settings.toEntries env = .ok settings := by
  obtain ⟨_, _, read⟩ := readSettings_of_settingsFrom made
  have rules : VariableRules.ofEntries settings.toEntries = some {} := rfl
  have reserved : (Value.lookup? settings.toEntries reservedKey).isSome = false := rfl
  have merged : overlay [] (canonicalSections settings.toEntries) = settings.toEntries := by
    have sections : canonicalSections settings.toEntries = settings.toEntries := rfl
    rw [sections]
    simp [Settings.toEntries, overlay, Value.putEntry, Value.sameKey]
  have combined : env.combine settings.toEntries = .ok settings.toEntries :=
    (combine_eq_ok_iff rules).mpr ⟨[], entriesFromEnvironment_of_bare bare, merged⟩
  rw [settingsFrom, if_neg (Bool.eq_false_iff.mp reserved)]
  exact bind_eq_ok_iff.mpr ⟨_, combined, mapError_eq_ok_iff.mpr (readSettings_toEntries read)⟩

/-- Validation is idempotent: what any of the checks accepts, written out with all of its fields, is accepted
again as the same. For whole settings this needs that no variable adds to them. -/
theorem validation_idempotent :
    Rereads readDetection DetectionSettings.toValue ∧ Rereads readSelector SelectorSettings.toValue ∧
      Rereads readExecution ExecutionSettings.toValue ∧ Rereads readLogging LogSettings.toValue ∧
      Rereads readConfidence ConfidenceRange.toValue ∧
      ∀ (entries : List (Value × Value)) (env : Environment) (settings : Settings), Bare env →
        settingsFrom entries env = .ok settings → settingsFrom settings.toEntries env = .ok settings :=
  ⟨rereads_readDetection, rereads_readSelector, rereads_readExecution, rereads_readLogging, rereads_readConfidence,
    fun _ _ _ => settingsFrom_toEntries⟩

def looseEntries : List (Value × Value) :=
  [(.text "Detection", .map [(.text "languages", .list [.text " Python ", .text "GO"]),
    (.text "confidence", .map [(.text "lower", .text " 0.25 ")])]),
    (.text "execution", .map [(.text "commands", .map [(.text "NIM", .text "x"), (.text " nim ", .text " nim c -r ")])]),
    (.text "logging", .map [(.text "file", .text "a//b/./c.log")])]

def settledSettings : Settings where
  detection := ⟨[.python, .go], ⟨.ofDecimal false 25 (-2), ConfidenceRange.standard.upper⟩⟩
  selector := .standard
  execution := { ExecutionSettings.standard with
    commands := Language.all.map fun language =>
      (language, if language = .nim then "nim c -r" else language.defaultCommand) }
  logging := { LogSettings.standard with file := some ⟨.here, ["a", "b", "c.log"]⟩ }

theorem validation_idempotent_loose_spelling :
    let env : Environment := .ofVariables [("PATH", "/bin")]
    Bare env ∧ settingsFrom looseEntries env = .ok settledSettings ∧
      settingsFrom settledSettings.toEntries env = .ok settledSettings := by
  intro env
  have bare : Bare env := by unfold Bare; decide +kernel
  have accepted : settingsFrom looseEntries env = .ok settledSettings := by decide +kernel
  exact ⟨bare, accepted, validation_idempotent.2.2.2.2.2 _ _ _ bare accepted⟩

end Config
end Scriptlet
