import Scriptlet.CommandLine.Prompt
import Scriptlet.CommandLine.Request
import Scriptlet.Config.Load
import Scriptlet.Execution
import Scriptlet.Highlight.Analysis
import Scriptlet.Log.Sink
import Scriptlet.Selection
import Scriptlet.Text.Basic

/-!
The program: what each command prints, asks, writes and starts, and how it ends.
-/
namespace Scriptlet.CommandLine

/-- Errors that a command does not report itself. -/
inductive Escaped where
  | config (error : Config.LoadError)
  | log (fault : LogFault)
  | query (error : QueryError)
  | execution (error : ExecutionError)
  | noName
  | undecodableInput

def Escaped.message : Escaped → String
  | config error => error.message
  | log fault => fault.message
  | query error => error.message
  | execution error => error.message
  | noName => UsageError.noName.message
  | undecodableInput => "The input is not valid UTF-8 text"

def Escaped.exitCode : Escaped → Nat
  | config (.library (.exit status _ _)) => status
  | _ => 1

inductive Ending where
  | refused (command : Option Command) (error : UsageError)
  | failed (message : String)
  | aborted
  | escaped (error : Escaped)

namespace Ending

def exitCode : Ending → Nat
  | refused _ _ => 2
  | failed _ | aborted => 1
  | escaped error => error.exitCode

def report : Ending → String
  | refused command error => error.report command
  | failed message => "Error: " ++ message ++ "\n"
  | aborted => "Aborted!\n"
  | escaped _ => ""

end Ending

structure Session where
  host : Host
  input : Input
  sink : Option LogSink
  printed : String
  warned : String
  /-- Whether a question found no line left. -/
  isStarved : Bool

def Session.journal (session : Session) : Journal :=
  match session.sink with
  | some sink => sink.journal
  | none => .silent

abbrev Action := ExceptT Ending (StateM Session)

namespace Action

def fail {α : Type} (message : String) : Action α := throw (.failed message)

def escape {α : Type} (error : Escaped) : Action α := throw (.escaped error)

def print (line : String) : Action Unit :=
  modify fun session => { session with printed := session.printed ++ line ++ "\n" }

def warn (line : String) : Action Unit :=
  modify fun session => { session with warned := session.warned ++ line ++ "\n" }

def log (level : LogLevel) (message : String) : Action Unit :=
  modify fun session => { session with host := session.host.withLog level message session.journal }

/-- Asks a question; it is an end if no line is left. -/
def answerTo {α : Type} (question : String) (accept : String → Except String α) : Action α := do
  let session ← get
  let asked := ask question accept session.input.lines
  set { session with
    input := { session.input with lines := asked.lines }
    printed := session.printed ++ asked.shown
    isStarved := asked.answer.isNone }
  match asked.answer with
  | some answer => return answer
  | none => if session.input.isBroken then escape .undecodableInput else throw .aborted

end Action

def isReported : Config.LoadError → Bool
  | .missing _ | .unreadable _ _ | .unnamedSection => false
  | .notYaml .malformed | .notYaml (.noValue _) => true
  | .notYaml _ | .variable .tooDeep => false
  | .library (.reported _) => true
  | .library _ => false
  | .notText _ | .notMap _ | .variable _ | .invalid _ _ => true

def settingsFor (env : Config.Environment) (library : LogLibrary) (request : Request) : Action Settings := do
  match Config.load (← get).host.files env request.config with
  | .error error =>
    if let .library (.exit _ printed warned) := error then
      modify fun session =>
        { session with printed := session.printed ++ printed, warned := session.warned ++ warned }
    if isReported error then Action.fail error.message else Action.escape (.config error)
  | .ok settings =>
    let (files, opened) :=
      LogSink.ofSettings library settings.logging request.verbose (← get).host.files
    modify fun session => { session with host := { session.host with files } }
    match opened with
    | .error fault => Action.escape (.log fault)
    | .ok sink =>
      modify fun session => { session with sink := some sink }
      Action.log .debug sink.greeting
      return settings

def languageRow (settings : ExecutionSettings) (language : Language) : String :=
  Text.padRight 12 language.id ++ " " ++ Text.padRight 6 language.extension ++ " "
    ++ settings.commandFor language

def detectionRow (range : ConfidenceRange) (result : Detection) : String :=
  Text.padRight 12 result.language.id ++ " " ++ result.confidence.fixed 2 ++ " "
    ++ (range.classify result.confidence).name

def spanRow (code : List Char) (span : Span) : String :=
  "\t".intercalate [toString span.start, toString span.length, span.kind.name,
    Text.quoted (String.ofList (span.chars code))]

def detectorFor (settings : Settings) (code : String) : Action Detector := do
  match Detector.ofLanguages settings.detection.languages with
  | .error error => Action.escape (.query error)
  | .ok detector =>
    if let some language := detector.settledLanguage? code then
      Action.log .debug ("Definitive marker resolved language: " ++ language.id)
    return detector

def runLanguages (settings : Settings) : Action Unit :=
  settings.detection.languages.forM fun language =>
    Action.print (languageRow settings.execution language)

def runDetect (settings : Settings) (code : String) (top : Option Int) : Action Unit := do
  let detector ← detectorFor settings code
  let results ← match top with
    | none => pure (detector.detect (some code))
    | some count =>
      match detector.detectTopN (some code) count with
      | .ok results => pure results
      | .error error => Action.escape (.query error)
  results.forM fun result => Action.print (detectionRow settings.detection.confidence result)

def runHighlight (settings : Settings) (code : String) (language : Option String) : Action Unit := do
  let language ← match language with
    | some language => pure language
    | none => pure ((← detectorFor settings code).detectTop (some code)).language.id
  if Highlight.supports (some language) then
    (Highlight.analyze (some code) (some language)).forM fun span =>
      Action.print (spanRow code.toList span)
  else Action.warn ("No highlighting rules for language: " ++ language)

def codeOf (file : Path) : Action String := do
  match (← get).host.files.readFile file with
  | .error cause => Action.escape (.config (.unreadable file cause))
  | .ok bytes =>
    match Text.Utf8.decode bytes with
    | .error fault => Action.fail (file.name ++ " is not valid UTF-8 text: " ++ fault.reason.message)
    | .ok text => return String.ofList (Text.unifyNewlines text.toList)

def chosenLanguage (settings : Settings) (code : String) (acceptAll : Bool) : Action String := do
  let results := (← detectorFor settings code).detect (some code)
  match chooseLanguage results settings.selector settings.detection.confidence with
  | .error error => Action.escape (.query error)
  | .ok choice =>
    if choice.showSelector && !acceptAll then
      let names := choice.candidates.map (·.id)
      let text := "Detected " ++ choice.suggested.id ++ " (" ++ choice.confidence.fixed 2 ++ "). Language"
      Action.answerTo (Choice.question text names choice.suggested.id)
        (Choice.accept names choice.suggested.id)
    else return choice.suggested.id

def languageFor (settings : Settings) (code : String) (language : Option String) (acceptAll : Bool) :
    Action String :=
  match language with
  | some language => pure language
  | none => chosenLanguage settings code acceptAll

def confirmRun (settings : Settings) (file : Path) (language : String) (directory : Path) (acceptAll : Bool) :
    Action Unit := do
  if settings.selector.confirm && !acceptAll then
    let question := "Run " ++ file.name ++ " as " ++ language ++ " in " ++ directory.toString ++ "?"
    if !(← Action.answerTo (Confirmation.question question) Confirmation.accept) then throw .aborted

def executorOf (settings : Settings) : Executor := ⟨settings.execution, settings.detection.languages⟩

def runCode (launcher : Launcher) (settings : Settings) (code language : String) (directory : Path) :
    Action Unit := do
  let session ← get
  let (result, host) := (executorOf settings).execute launcher (.text code) (some language)
    (some directory.toString) session.host session.journal
  modify fun session => { session with host }
  match result with
  | .ok () => Action.print ("Launched " ++ language ++ " script in " ++ directory.toString)
  | .error error =>
    match error with
    | .precondition _ | .write _ _ | .launch _ _ => Action.fail error.message
    | .lookup _ _ | .unwritable _ | .illFormed _ => Action.escape (.execution error)

def runFile (launcher : Launcher) (settings : Settings) (file : Path) (language : Option String)
    (directory : Option Path) (acceptAll : Bool) : Action Unit := do
  let code ← codeOf file
  let directory := directory.getD ⟨.root, (← get).host.files.cwd⟩
  let language ← languageFor settings code language acceptAll
  confirmRun settings file language directory acceptAll
  runCode launcher settings code language directory

def Source.content (library : LogLibrary) (files : FileSystem) : Source → ByteArray
  | input content => content
  | file location content => library.held location content files

/-- Bytes as text for display: what is not UTF-8 is replaced, and lines have one form of end. -/
def Source.text (library : LogLibrary) (files : FileSystem) (source : Source) : String :=
  String.ofList (Text.unifyNewlines (Text.Utf8.decodeLossy (source.content library files)).toList)

def perform (env : Config.Environment) (library : LogLibrary) (launcher : Launcher) (request : Request) :
    Action Unit := do
  let settings ← settingsFor env library request
  let files := (← get).host.files
  match request.task with
  | .languages => runLanguages settings
  | .detect source top => runDetect settings (source.text library files) top
  | .highlight source language => runHighlight settings (source.text library files) language
  | .run file language directory acceptAll =>
    runFile launcher settings file language directory acceptAll

def versionText : String := programName ++ ", version 0.1.0"

structure Program where
  words : List String
  files : FileSystem
  env : Config.Environment
  input : ByteArray
  launcher : Launcher
  library : LogLibrary

namespace Program

def invocation (program : Program) : Except (Option Command × UsageError) Invocation :=
  (Surroundings.mk program.files program.input).invocation program.words

def action (program : Program) : Action Unit :=
  match program.invocation with
  | .error (_, .noName) => Action.escape .noName
  | .error (command, error) => throw (.refused command error)
  | .ok .version => Action.print versionText
  | .ok (.help command) => Action.print (usageLine command)
  | .ok (.request _ request) => perform program.env program.library program.launcher request

def start (program : Program) : Session :=
  ⟨⟨program.files, [], []⟩, .ofBytes program.input, none, "", "", false⟩

structure Outcome where
  exitCode : Nat
  stdout : String
  stderr : String
  escaped : Option Escaped
  log : List LogRecord
  sink : Option LogSink
  host : Host
  isStarved : Bool

def closing : Except Ending Unit → Nat × String
  | .ok () => (0, "")
  | .error ending => (ending.exitCode, ending.report)

def escapeOf {α : Type} : Except Ending α → Option Escaped
  | .error (.escaped error) => some error
  | _ => none

def run (program : Program) : Outcome :=
  let (result, session) := program.action.run program.start
  let log := match session.sink with
    | some sink => sink.written session.host.log
    | none => []
  let (exitCode, report) := closing result
  { exitCode, log
    stdout := session.printed
    stderr := session.warned ++ report
    escaped := escapeOf result
    sink := session.sink
    host := session.host
    isStarved := session.isStarved }

end Program
end Scriptlet.CommandLine
