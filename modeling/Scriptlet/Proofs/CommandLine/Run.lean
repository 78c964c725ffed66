import Scriptlet.Proofs.CommandLine.Dialogue
import Scriptlet.Proofs.Log.Sink
import Scriptlet.Proofs.Text.Newline

/-!
What the command that runs a file leaves behind. The text is read with one form of line ends and written as
it was read, so carriage returns of the file are lost on the way. Between opening its log and starting its terminal
the command writes the script and records, and nothing else.
-/
namespace Scriptlet.CommandLine
open Scriptlet.CommandLine.Action

variable {before after : Session} {settings : Settings} {file : Path} {code name : String}
variable {launcher : Launcher} {given : Option String} {directory : Option Path} {acceptAll : Bool}

theorem readFile_of_codeOf (returned : (codeOf file).Returns before code after) :
    after = before ∧ ∃ text : String, before.host.files.readFile file = .ok text.toUTF8 ∧
      code = String.ofList (Text.unifyNewlines text.toList) := by
  simp only [Returns, codeOf, outcome_bind, outcome_get] at returned
  cases holds : before.host.files.readFile file with
  | error cause =>
    rw [holds] at returned
    cases returned
  | ok bytes =>
    simp only [holds] at returned
    cases read : Text.Utf8.decode bytes with
    | error fault =>
      rw [read] at returned
      cases returned
    | ok text =>
      rw [read] at returned
      cases returned
      exact ⟨rfl, text, by rw [Text.Utf8.decode_eq_ok_iff.mp read], rfl⟩

theorem isTalk_codeOf (file : Path) : (codeOf file).IsTalk acceptAll := by
  refine ⟨fun before => ?_, fun before ending ended => ?_⟩
  · simp only [codeOf, outcome_bind, outcome_get]
    split
    · exact .refl _ _
    · split <;> exact .refl _ _
  · simp only [codeOf, outcome_bind, outcome_get] at ended
    split at ended
    · cases ended
      exact Nat.one_ne_zero
    · split at ended <;> cases ended
      exact Nat.one_ne_zero

/-- How a run of a file goes: it is given up before its text is run, or its text is run in the language that is
picked, after that is agreed to. -/
inductive Course (launcher : Launcher) (settings : Settings) (file : Path) (given : Option String)
    (directory : Option Path) (acceptAll : Bool) (before : Session) : Except Ending Unit × Session → Prop
  | stopped {ending : Ending} {after : Session} (fails : ending.exitCode ≠ 0)
      (still : before.Continues acceptAll after) :
      Course launcher settings file given directory acceptAll before (.error ending, after)
  | reached {text code name : String} {left : List String} {between : Session}
      (holds : before.host.files.readFile file = .ok text.toUTF8)
      (unified : code = String.ofList (Text.unifyNewlines text.toList))
      (picks : Picks settings code acceptAll before.input.lines given name left)
      (agrees : Agrees settings acceptAll left)
      (still : before.Continues acceptAll between) :
      Course launcher settings file given directory acceptAll before
        ((runCode launcher settings code name (directory.getD ⟨.root, before.host.files.cwd⟩)).outcome between)

theorem course (valid : settings.IsValid) (launcher : Launcher) (file : Path) (given : Option String)
    (directory : Option Path) (acceptAll : Bool) (before : Session) :
    Course launcher settings file given directory acceptAll before
      ((runFile launcher settings file given directory acceptAll).outcome before) := by
  rw [runFile, outcome_bind]
  have reads : (codeOf file).IsTalk acceptAll := isTalk_codeOf file
  -- Each step ends the run without a trace, or hands on a session that looks as before.
  rcases read : (codeOf file).outcome before with ⟨ending | code, opened⟩
  · exact .stopped (reads.of_failure read) (reads.of_outcome read)
  obtain ⟨rfl, text, holds, unified⟩ := readFile_of_codeOf read
  simp only [outcome_bind, outcome_get]
  have talk : (languageFor settings code given acceptAll).IsTalk acceptAll := isTalk_languageFor settings code given
  have picks := languageFor_cases valid code given acceptAll opened
  rcases chosen : (languageFor settings code given acceptAll).outcome opened with ⟨ending | name, picked⟩
  · exact .stopped (talk.of_failure chosen) (talk.of_outcome chosen)
  rw [chosen] at picks
  obtain ⟨_, ⟨⟩, picks⟩ := picks.resolve_right (by rintro (⟨⟨⟩⟩ | ⟨⟨⟩⟩))
  have same := talk.of_outcome chosen
  generalize placed : directory.getD ⟨.root, opened.host.files.cwd⟩ = place
  dsimp only
  have confirms : (confirmRun settings file name place acceptAll).IsTalk acceptAll :=
    isTalk_confirmRun settings file name place
  rcases confirmed : (confirmRun settings file name place acceptAll).outcome picked with ⟨ending | ⟨⟨⟩⟩, between⟩
  · exact .stopped (confirms.of_failure confirmed) (same.trans (confirms.of_outcome confirmed))
  · subst placed
    exact .reached holds unified picks (agrees_of_confirmRun confirmed) (same.trans (confirms.of_outcome confirmed))

/-- What a run of a text adds to a session, by the way the call of the executor ends. -/
theorem outcome_runCode (launcher : Launcher) (settings : Settings) (code name : String) (place : Path)
    (before : Session) :
    let call : Call := ⟨executorOf settings, launcher, .text code, some name, some place.toString⟩
    let ran := call.run before.host before.journal
    let ended := (runCode launcher settings code name place).outcome before
    ended.2.host = ran.2 ∧ ended.2.sink = before.sink ∧
      ((Program.closing ended.1).1 = 0 ↔ ran.1 = .ok ()) ∧
      (ended.2.printed = before.printed ∨
        ended.2.printed = before.printed ++ ("Launched " ++ name ++ " script in " ++ place.toString) ++ "\n") := by
  simp only [runCode, outcome_bind, outcome_get, outcome_modify, Call.run]
  generalize (executorOf settings).execute launcher (.text code) (some name) (some place.toString) before.host
    before.journal = ran
  rcases ran with ⟨error | _, host⟩
  · have failed : (Except.error error, host).1 ≠ .ok () := by rintro ⟨⟩
    cases error <;> exact ⟨rfl, rfl, iff_of_false Nat.one_ne_zero failed, .inl rfl⟩
  · exact ⟨rfl, rfl, iff_of_true rfl rfl, .inr rfl⟩

theorem outcome_settingsFor_of_load {env : Config.Environment} {library : LogLibrary} {request : Request}
    (loaded : Config.load before.host.files env request.config = .ok settings) :
    (settingsFor env library request).outcome before =
      let (files, opened) := LogSink.ofSettings library settings.logging request.verbose before.host.files
      let host := { before.host with files }
      match opened with
      | .error fault => (.error (.escaped (.log fault)), { before with host })
      | .ok sink =>
        (.ok settings,
          { before with host := host.withLog .debug sink.greeting sink.journal, sink := some sink }) := by
  simp only [settingsFor, outcome_bind, outcome_get, loaded, outcome_modify]
  generalize LogSink.ofSettings library settings.logging request.verbose before.host.files = opening
  rcases opening with ⟨files, fault | sink⟩ <;> rfl

/-- The script for a language in a directory that is given, or else the working directory. -/
def scriptOf (settings : Settings) (cwd : Location) (directory : Option Path) (language : Language) : Path :=
  (executorOf settings).tempFile language (.ofString (directory.getD ⟨.root, cwd⟩).toString)

namespace Program
variable {program : Program} {config : Option Path} {verbose : Bool} {files : FileSystem} {sink : LogSink}
variable {text : String} {kept : Location → Prop}

def opened (program : Program) (files : FileSystem) (sink : LogSink) : Session :=
  { program.start with
    host := { program.start.host with files }.withLog .debug sink.greeting sink.journal
    sink := some sink }

theorem cwd_opened
    (opening : LogSink.ofSettings program.library settings.logging verbose program.files = (files, .ok sink)) :
    (program.opened files sink).host.files.cwd = program.files.cwd := by
  have spared : program.files.Spares (fun _ => False)
      (LogSink.ofSettings program.library settings.logging verbose program.files).1 :=
    LogSink.spares_ofSettings program.library verbose fun _ _ _ _ => id
  rw [opening] at spared
  exact spared.cwd

/-- A run of a file ends because its log cannot be opened, or it takes its course with the log opened. -/
theorem run_cases
    (asked : program.invocation = .ok (.request .run ⟨.run file given directory acceptAll, config, verbose⟩))
    (loaded : Config.load program.files program.env config = .ok settings) :
    let (files, log) := LogSink.ofSettings program.library settings.logging verbose program.files
    (∃ fault, log = .error fault ∧ program.action.outcome program.start =
        (.error (.escaped (.log fault)), { program.start with host := { program.start.host with files } })) ∨
      ∃ sink, log = .ok sink ∧ Course program.launcher settings file given directory acceptAll
        (program.opened files sink) (program.action.outcome program.start) := by
  have begins : (settingsFor program.env program.library ⟨.run file given directory acceptAll, config, verbose⟩).outcome
      program.start = _ := outcome_settingsFor_of_load loaded
  have known : program.start.host.files = program.files := rfl
  rw [known] at begins
  simp only [action, asked, perform, outcome_bind, begins]
  have valid := Config.isValid_of_load loaded
  generalize LogSink.ofSettings program.library settings.logging verbose program.files = opening
  rcases opening with ⟨files, fault | sink⟩
  · exact .inl ⟨fault, rfl, rfl⟩
  · exact .inr ⟨sink, rfl, course valid _ _ _ _ _ _⟩

/-- The places that are kept are apart from the log: among them are that of the file and those of all scripts that it
could be run as. -/
structure Apart (program : Program) (settings : Settings) (file : Path) (directory : Option Path)
    (kept : Location → Prop) : Prop where
  log : program.library.Spares kept settings.logging program.files.cwd
  file : kept (file.place program.files.cwd)
  script : ∀ language ∈ settings.detection.languages,
    kept ((scriptOf settings program.files.cwd directory language).place program.files.cwd)

theorem Apart.spares_ofSettings (apart : program.Apart settings file directory kept) (verbose : Bool) :
    program.files.Spares kept (LogSink.ofSettings program.library settings.logging verbose program.files).1 :=
  LogSink.spares_ofSettings program.library verbose fun path location named placed =>
    (apart.log path location named placed).1

theorem Apart.opened (apart : program.Apart settings file directory kept)
    (opening : LogSink.ofSettings program.library settings.logging verbose program.files = (files, .ok sink)) :
    program.files.Spares kept (program.opened files sink).host.files ∧
      (program.opened files sink).journal.Spares kept := by
  have spared := apart.spares_ofSettings verbose
  have journal := LogSink.journal_spares apart.log (congrArg Prod.snd opening)
  rw [opening] at spared
  exact ⟨spared.trans (journal _ _ _), journal⟩

/-- With a log kept apart, whenever a run of a file ends well, its one terminal was started with the text of the file
in the temporary script, with one form of line ends. This is the content of the file exactly if the file has no
carriage return. -/
theorem run_writes_unified
    (asked : program.invocation = .ok (.request .run ⟨.run file given directory acceptAll, config, verbose⟩))
    (holds : program.files.readFile file = .ok text.toUTF8)
    (loaded : Config.load program.files program.env config = .ok settings)
    (apart : program.Apart settings file directory kept) (ended : program.run.exitCode = 0) :
    ∃ language script, language ∈ settings.detection.languages ∧
      (∀ name ∈ given, Language.parse? name = some language) ∧
      script = scriptOf settings program.files.cwd directory language ∧
      (∃ attempt, program.run.host.launches = [attempt] ∧
        attempt.files.contentOf? script = some (String.ofList (Text.unifyNewlines text.toList)).toUTF8) ∧
      program.run.host.files.contentOf? script =
        some (String.ofList (Text.unifyNewlines text.toList)).toUTF8 ∧
      (program.run.host.files.contentOf? script = program.files.contentOf? file ↔ '\r' ∉ text.toList) := by
  have cases := run_cases asked loaded
  have host : program.run.host = (program.action.outcome program.start).2.host := rfl
  have code : program.run.exitCode = (closing (program.action.outcome program.start).1).1 := rfl
  rw [code] at ended
  rw [host]
  rcases opening : LogSink.ofSettings program.library settings.logging verbose program.files with ⟨files, log⟩
  rw [opening] at cases
  rcases cases with ⟨fault, _, failed⟩ | ⟨sink, rfl, course⟩
  · rw [failed] at ended
    cases ended
  obtain ⟨spared, journal⟩ := apart.opened opening
  generalize program.action.outcome program.start = finish at ended course ⊢
  cases course with
  | stopped fails _ => exact absurd ended fails
  | @reached content code name left between found unified picks agrees still =>
    -- Neither the log nor talk with the user has changed what the file reads.
    have unchanged := spared.readFile apart.file holds
    rw [found] at unchanged
    obtain rfl : content = text := String.toByteArray_inj.mp (Except.ok.inj unchanged)
    have toEnd := spared.trans (still.files.spares journal)
    obtain ⟨last, _, returns, _⟩ := outcome_runCode program.launcher settings code name
      (directory.getD ⟨.root, (program.opened files sink).host.files.cwd⟩) between
    rw [spared.cwd] at last returns ended ⊢
    have ran : Call.run _ between.host between.journal = (.ok (), _) := Prod.ext (returns.mp ended) last.symm
    obtain ⟨language, listed, parsed, script, attempt, attempted, atLaunch⟩ :=
      Call.script_of_run (still.journal ▸ journal) (toEnd.cwd ▸ apart.script) ran
    have noLaunch : between.host.launches = [] := still.launches
    rw [noLaunch] at attempted
    subst unified
    refine ⟨language, _, listed, ?_, rfl, ⟨attempt, attempted, atLaunch⟩, script, ?_⟩
    · rintro language ⟨⟩
      cases picks
      exact parsed
    · have before := FileSystem.contentOf?_of_readFile holds
      unfold scriptOf
      rw [script, before, Option.some.injEq]
      exact Text.toUTF8_unifyNewlines_eq_iff

/-- A file with a byte order mark, a letter beyond ASCII and a line feed arrives as it is. -/
theorem run_writes_unified_line_feed :
    let text := "\ufeffé\n"
    let files := (FileSystem.empty ["w"]).withFile ["w", "a.py"] text.toUTF8
    let program : Program :=
      ⟨["run", "a.py", "--language", "python"], files, .empty, .empty, ⟨none, none⟩, .standard⟩
    program.invocation = .ok (.request .run
      ⟨.run (.ofString "a.py") (some "python") none false, none, false⟩) ∧
    program.files.readFile (.ofString "a.py") = .ok text.toUTF8 ∧
    Config.load program.files program.env none = .ok .standard ∧
    program.Apart .standard (.ofString "a.py") none (fun _ => True) ∧ program.run.exitCode = 0 ∧
    program.run.host.files.contentOf? (.ofString "/w/__RunOnceTMP__.py") = some text.toUTF8 := by
  intro text files program
  have asked : program.invocation = .ok (.request .run
      ⟨.run (.ofString "a.py") (some "python") none false, none, false⟩) := by rfl
  have holds : program.files.readFile (.ofString "a.py") = .ok text.toUTF8 := by rfl
  have loaded : Config.load program.files program.env none = .ok .standard := by rfl
  -- Without a log file all places are apart from the log.
  have apart : program.Apart .standard (.ofString "a.py") none (fun _ => True) :=
    ⟨fun _ _ named => (by cases named), trivial, fun _ _ => trivial⟩
  have ended : program.run.exitCode = 0 := by decide +kernel
  obtain ⟨language, script, _, parsed, place, _, _, same⟩ := run_writes_unified asked holds loaded apart ended
  have python : Language.parse? "python" = some .python := by rfl
  rw [parsed "python" rfl] at python
  cases python
  have path : scriptOf .standard program.files.cwd none .python = .ofString "/w/__RunOnceTMP__.py" := by
    decide +kernel
  have arrives := same.mpr (by decide)
  rw [place.trans path, FileSystem.contentOf?_of_readFile holds] at arrives
  exact ⟨asked, holds, loaded, apart, ended, arrives⟩

/-- A file with a carriage return before a line feed and another one by itself. -/
theorem run_alters_carriage_returns :
    let text := "a\r\nb\rc"
    let files := (FileSystem.empty ["w"]).withFile ["w", "a.py"] text.toUTF8
    let program : Program :=
      ⟨["run", "a.py", "--language", "python"], files, .empty, .empty, ⟨none, none⟩, .standard⟩
    program.invocation = .ok (.request .run
      ⟨.run (.ofString "a.py") (some "python") none false, none, false⟩) ∧
    program.files.readFile (.ofString "a.py") = .ok text.toUTF8 ∧ program.run.exitCode = 0 ∧
    program.run.host.files.contentOf? (.ofString "/w/__RunOnceTMP__.py") = some "a\nb\nc".toUTF8 ∧
    "a\nb\nc".toUTF8 ≠ text.toUTF8 := by
  refine ⟨?_, ?_, ?_, ?_, ?_⟩
  · rfl
  · rfl
  · rfl
  · rfl
  · decide

end Program
end Scriptlet.CommandLine
