import Scriptlet.Config.Reading
import Scriptlet.Config.Settings
import Scriptlet.Detection.Detector
import Scriptlet.Highlight.Span

/-!
Reading of whole sections. Every field is checked, and the issues of all fields are reported in the order
of the fields; keys that are not fields are passed over, except at the top.
-/
namespace Scriptlet.Config

def canonicalValue : Value → Value
  | .text s => .text (Language.canonical s)
  | value => value

def readLanguage : Value → Checked Language := readMember Language.all Language.id

def languagesOf (items : List Value) : Checked (List Language) := do
  let languages ← Checked.all (items.zipIdx.map fun (item, index) =>
    (readLanguage item).under (.index index))
  if languages = [] then .refuse .noLanguages
  else if ¬ languages.Nodup then .refuse .duplicateLanguages
  else .ok languages

/-- Reads a list of languages; identifiers in any case or padding are accepted in a list, exact ones in a
set too. -/
def readLanguages : Value → Checked (List Language)
  | .list items => languagesOf (items.map canonicalValue)
  | .set items => languagesOf items
  | _ => .fail .notList

def readConfidence : Value → Checked ConfidenceRange
  | .map entries => do
    let (lower, upper) ← Checked.both
      (optional entries "lower" ConfidenceRange.standard.lower readUnitFloat)
      (optional entries "upper" ConfidenceRange.standard.upper readUnitFloat)
    if upper < lower then .refuse .boundsOutOfOrder else .ok ⟨lower, upper⟩
  | _ => .fail (.notModel "ConfidenceRange")

def readDetection : Value → Checked DetectionSettings
  | .map entries =>
    (Checked.both
      (optional entries "languages" Language.all readLanguages)
      (optional entries "confidence" .standard readConfidence)).map
      fun (languages, confidence) => ⟨languages, confidence⟩
  | _ => .fail (.notModel "DetectionConfig")

def readSelector : Value → Checked SelectorSettings
  | .map entries =>
    (Checked.both
      (optional entries "mode" .hideWhenHighConfidence
        (readMember SelectorMode.all SelectorMode.name))
      (optional entries "confirm_before_execution" false readBool)).map
      fun (mode, confirm) => ⟨mode, confirm⟩
  | _ => .fail (.notModel "SelectorConfig")

def readTempFilePrefix (value : Value) : Checked String := do
  let text ← readText value
  if Text.isAllBlank text.toList then .refuse .blankPrefix
  else if text.toList.any ['\x00', '/', '\\'].contains then .refuse .unusablePrefix
  else .ok text

def readExecutable (value : Value) : Checked String := do
  let text ← readText value
  if Text.isAllBlank text.toList then .refuse .blankExecutable
  else .ok (String.ofList (Text.strip text.toList))

/-- The entries of a map under canonical keys; of entries with one key the last counts, at the place of
the first. -/
def canonicalEntries (entries : List (Value × Value)) : List (Value × Value) :=
  entries.foldl (fun known (key, value) => Value.putEntry known (canonicalValue key) value) []

def readCommand (entry : Value × Value) : Checked (Language × String) :=
  (Checked.both ((readLanguage entry.1).under (.key "[key]")) (readText entry.2)).under (keyStep entry.1)

def mergeCommands (given : List (Language × String)) : List (Language × String) :=
  Language.all.map fun language =>
    match given.lookup language with
    | some command => (language, String.ofList (Text.strip command.toList))
    | none => (language, language.defaultCommand)

/-- Sets the command of a language: a new language goes to the end, a known one keeps its place. -/
def putCommand (given : List (Language × String)) (entry : Language × String) : List (Language × String) :=
  if given.any (·.1 = entry.1) then given.map fun known => if known.1 = entry.1 then entry else known
  else given ++ [entry]

def readCommands : Value → Checked (List (Language × String))
  | .map entries => do
    let read ← Checked.all ((canonicalEntries entries).map readCommand)
    let given := read.foldl putCommand []
    match given.find? fun (_, command) => Text.isAllBlank command.toList with
    | some (language, _) => .refuse (.blankCommand language)
    | none => .ok (mergeCommands given)
  | _ => .fail .notMap

def readExecution : Value → Checked ExecutionSettings
  | .map entries =>
    let standard := ExecutionSettings.standard
    (Checked.both
      (optional entries "temp_file_prefix" standard.tempFilePrefix readTempFilePrefix)
      (Checked.both
        (optional entries "terminal" standard.terminal (readMember Terminal.all Terminal.name))
        (Checked.both
          (optional entries "windows_terminal_executable" standard.windowsTerminalExecutable readExecutable)
          (Checked.both
            (optional entries "cmd_executable" standard.cmdExecutable readExecutable)
            (optional entries "commands" standard.commands readCommands))))).map
      fun (tempFilePrefix, terminal, windowsTerminal, cmd, commands) =>
        ⟨tempFilePrefix, terminal, windowsTerminal, cmd, commands⟩
  | _ => .fail (.notModel "ExecutionConfig")

def readLogging : Value → Checked LogSettings
  | .map entries =>
    let standard := LogSettings.standard
    (Checked.both
      (optional entries "level" standard.level
        (readWord LogThreshold.all LogThreshold.name))
      (Checked.both
        (optional entries "format" standard.format (readWord LogFormat.all LogFormat.name))
        (Checked.both
          (optional entries "file" standard.file readPath)
          (Checked.both
            (optional entries "rotation" standard.rotation readText)
            (optional entries "retention" standard.retention readText))))).map
      fun (level, format, file, rotation, retention) => ⟨level, format, file, rotation, retention⟩
  | _ => .fail (.notModel "LoggingConfig")

def sectionNames : List String := ["detection", "selector", "execution", "logging"]

def unknownKeys (entries : List (Value × Value)) : List Issue :=
  entries.filterMap fun (key, _) =>
    match key with
    | .text name => if sectionNames.contains name then none else some ⟨[.key name], .unknownKey⟩
    | _ => some ⟨[keyStep key], .unknownKey⟩

def readSections (entries : List (Value × Value)) : Checked Settings :=
  let extras : Checked Unit := match unknownKeys entries with
    | [] => .ok ()
    | issues => .error issues
  (Checked.both
    (optional entries "detection" .standard readDetection)
    (Checked.both
      (optional entries "selector" .standard readSelector)
      (Checked.both
        (optional entries "execution" .standard readExecution)
        (Checked.both
          (optional entries "logging" .standard readLogging)
          extras)))).map
    fun (detection, selector, execution, logging, _) => ⟨detection, selector, execution, logging⟩

/-- Reads settings. A key with half of a surrogate pair is the only issue, whatever else is wrong. -/
def readSettings (entries : List (Value × Value)) : Checked Settings :=
  if entries.any (·.1 matches .brokenText) then .fail .brokenText else readSections entries

def readResult : Value → Checked Detection
  | .map entries =>
    (Checked.both
      (required entries "language" readLanguage)
      (required entries "confidence" readUnitFloat)).map
      fun (language, confidence) => ⟨language, confidence⟩
  | _ => .fail (.notModel "DetectionResult")

def readSpan : Value → Checked Span
  | .map entries =>
    let start : Value → Checked Nat := fun value => do
      let n ← readInt value
      if n < 0 then .fail .belowZero else .ok n.toNat
    let length : Value → Checked Nat := fun value => do
      let n ← readInt value
      if n ≤ 0 then .fail .notAboveZero else .ok n.toNat
    (Checked.both
      (required entries "start" start)
      (Checked.both
        (required entries "length" length)
        (required entries "type" (readMember TokenKind.all TokenKind.name)))).map
      fun (start, length, kind) => ⟨start, length, kind⟩
  | _ => .fail (.notModel "HighlightSpan")

end Scriptlet.Config
