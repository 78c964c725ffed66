import Scriptlet.Proofs.CommandLine.Run

/-!
What a run of a file did, told by its exit code. It ends well exactly if its one terminal was started, and when
it is given up, by the user or because of its arguments, it leaves nothing behind but a log. Where the log is kept in
the file or in the script, its records are what is run.
-/
namespace Scriptlet

theorem launch_ok_iff (launcher : Launcher) (request : LaunchRequest) (host : Host) (journal : Journal) :
    (launcher.launch request host journal).1 = .ok () ↔
      (launcher.launch request host journal).2.launches ≠ host.launches ∧ launcher.fault = none := by
  have more (attempt : LaunchAttempt) : host.launches ++ [attempt] ≠ host.launches := by simp
  unfold Launcher.launch
  cases launcher.platform with
  | none => cases launcher.fault <;> simp [Host.withLaunch, more]
  | some platform =>
    cases made : request.processCall platform with
    | error error => simp [made]
    | ok process => cases launcher.fault <;> simp [made, Host.withLaunch, Host.withLog, more]

namespace Call
variable {call : Call} {before after : Host} {result : Except ExecutionError Unit} {journal : Journal}

private theorem start_ok_iff (call : Call) (job : Executor.Job) (host : Host) (journal : Journal) :
    let ended := call.executor.start call.launcher job (call.file job) host journal
    ended.1 = .ok () ↔ ended.2.launches ≠ host.launches ∧ call.launcher.fault = none := by
  have launched := launch_ok_iff call.launcher (call.request job) host journal
  rcases found : call.launcher.launch (call.request job) host journal with ⟨ended, after⟩
  rw [found] at launched
  unfold request at found
  simp only [Executor.start, found]
  rcases ended with (_ | _) | _ <;> simpa [Host.withLog] using launched

/-- A call ends well exactly if a terminal was started and its start did not fail. -/
theorem run_ok_iff (call : Call) (host : Host) (journal : Journal) :
    (call.run host journal).1 = .ok () ↔
      (call.run host journal).2.launches ≠ host.launches ∧ call.launcher.fault = none := by
  cases checked : call.executor.check host.files call.code call.language call.directory with
  | error refused =>
    rw [run, Executor.execute, checked]
    simp
  | ok job =>
    rw [run_of_check checked]
    cases host.files.openEmpty (call.file job) with
    | error cause => simp [Host.withLog]
    | ok opened =>
      cases job.code.utf8 with
      | error fault => simp
      | ok content => exact start_ok_iff call job _ journal

/-- Unless the arguments name a job, the call of a text changes no file but by records. -/
theorem Outcome.traceless_or {code : String} (outcome : call.Outcome journal before result after)
    (text : call.code = .text code) :
    (journal.Reaches before.files after.files ∧ after.launches = before.launches) ∨
      ∃ job location content files, call.Prepares before.files job location content files ∧
        (after.launches = before.launches ∨ call.Attempts journal job files before after) := by
  cases outcome with
  | refused => exact .inl ⟨.refl _ _, rfl⟩
  | lookup => exact .inl ⟨.refl _ _, rfl⟩
  | unwritten _ _ files launches => exact .inl ⟨files, launches⟩
  | unwritable opens broken =>
    rw [← opens.names.1.code, text] at broken
    cases broken
  | illFormed _ prepared launches => exact .inr ⟨_, _, _, _, prepared, launches.imp_left And.left⟩
  | launched prepared _ attempts => exact .inr ⟨_, _, _, _, prepared, .inr attempts⟩

end Call

namespace CommandLine
open Scriptlet.CommandLine.Action

variable {settings : Settings} {file : Path} {acceptAll : Bool} {given : Option String} {before : Session}
variable {launcher : Launcher} {directory : Option Path} {kept : Location → Prop}

/-- What keeps a run of a file from its text: bytes that are no text, no text at all, a given language that is
none of the settings, and lines of the input that do not answer what is asked, or say no. -/
inductive Withheld (settings : Settings) (content : ByteArray) (given : Option String) (acceptAll : Bool)
    (lines : List String) : Prop
  | undecodable {fault : Text.Utf8.Fault} (broken : Text.Utf8.decode content = .error fault)
  | empty (nothing : content = .empty)
  | unsupported {name : String} (named : given = some name)
      (unknown : ∀ language ∈ settings.detection.languages, Language.parse? name ≠ some language)
  | declined {text : String} (holds : content = text.toUTF8)
      (declines : ∀ name left,
        Picks settings (String.ofList (Text.unifyNewlines text.toList)) acceptAll lines given name left →
          ¬ Agrees settings acceptAll left)

namespace Course
variable {ended : Except Ending Unit × Session} {content : ByteArray}

theorem succeeds_iff (course : Course launcher settings file given directory acceptAll before ended) :
    (Program.closing ended.1).1 = 0 ↔ ended.2.host.launches ≠ before.host.launches ∧ launcher.fault = none := by
  cases course with
  | stopped fails still => exact iff_of_false fails fun launched => launched.1 still.launches
  | @reached text code name left between holds unified picks agrees still =>
    obtain ⟨host, _, same, _⟩ := outcome_runCode launcher settings code name _ between
    rw [same, host, ← still.launches]
    exact Call.run_ok_iff _ _ _

/-- There is one attempt at most, and with a log kept apart it finds the text of the file in the script. -/
theorem attempts (course : Course launcher settings file given directory acceptAll before ended)
    (kept : Location → Prop) (content : ByteArray) :
    ended.2.host.launches = before.host.launches ∨
      ∃ attempt, ended.2.host.launches = before.host.launches ++ [attempt] ∧
        (before.journal.Spares kept → before.host.files.readFile file = .ok content →
          (∀ language ∈ settings.detection.languages,
            kept ((scriptOf settings before.host.files.cwd directory language).place before.host.files.cwd)) →
          ∃ (text : String) (language : Language), content = text.toUTF8 ∧
            language ∈ settings.detection.languages ∧
            attempt.files.contentOf? (scriptOf settings before.host.files.cwd directory language) =
              some (String.ofList (Text.unifyNewlines text.toList)).toUTF8) := by
  cases course with
  | stopped _ still => exact .inl still.launches
  | @reached text code name left between found unified picks agrees still =>
    let place := directory.getD ⟨.root, before.host.files.cwd⟩
    let call : Call := ⟨executorOf settings, launcher, .text code, some name, some place.toString⟩
    obtain ⟨host, _⟩ := outcome_runCode launcher settings code name place between
    rw [host, ← still.launches]
    rcases (call.outcome between.host between.journal).traceless_or rfl with
      ⟨_, none⟩ | ⟨job, location, written, files, prepared, none | ⟨attempt, attempted, _, reached, _⟩⟩
    · exact .inl none
    · exact .inl none
    · refine .inr ⟨attempt, attempted, fun spares holds keeps => ?_⟩
      obtain ⟨_, ⟨⟩, rfl⟩ := prepared.code
      obtain ⟨named, _⟩ := prepared.toOpens.names
      obtain ⟨_, _, accepted⟩ := named.language
      obtain ⟨_, ⟨⟩, _, path⟩ := named.directory
      have listed := (Call.parse?_of_checkLanguage accepted).2
      rw [found] at holds
      refine ⟨text, job.language, (Except.ok.inj holds).symm, listed, ?_⟩
      have cwd : files.cwd = before.host.files.cwd :=
        prepared.written.same.cwd.trans (still.files.spares spares).cwd
      have atLaunch := prepared.contentOf?
      rw [Call.file, path, unified] at atLaunch
      exact ((still.journal ▸ reached).spares spares).contentOf? (cwd ▸ keeps _ listed) atLaunch

/-- Without any text, or in a language that is none of the settings, nothing is run. -/
theorem traceless_of_withheld (course : Course launcher settings file given directory acceptAll before ended)
    (holds : before.host.files.readFile file = .ok content)
    (withheld : Withheld settings content given acceptAll before.input.lines) :
    before.journal.Reaches before.host.files ended.2.host.files ∧
      ended.2.host.launches = before.host.launches := by
  cases course with
  | stopped _ still => exact ⟨still.files, still.launches⟩
  | @reached text code name left between found unified picks agrees still =>
    let place := directory.getD ⟨.root, before.host.files.cwd⟩
    let call : Call := ⟨executorOf settings, launcher, .text code, some name, some place.toString⟩
    obtain ⟨host, _⟩ := outcome_runCode launcher settings code name place between
    rw [found] at holds
    obtain rfl : text.toUTF8 = content := Except.ok.inj holds
    rcases (call.outcome between.host between.journal).traceless_or rfl with
      ⟨reached, launches⟩ | ⟨job, location, written, files, prepared, _⟩
    · rw [host]
      exact ⟨still.files.trans (still.journal ▸ reached), launches.trans still.launches⟩
    · obtain ⟨named, _⟩ := prepared.toOpens.names
      have same : Value.text code = job.code := named.code
      obtain ⟨_, ⟨⟩, accepted⟩ := named.language
      obtain ⟨parsed, listed⟩ := Call.parse?_of_checkLanguage accepted
      cases withheld with
      | undecodable broken =>
        rw [Text.Utf8.decode_eq_ok_iff.mpr rfl] at broken
        cases broken
      | empty nothing =>
        obtain rfl : text = "" := String.toByteArray_inj.mp nothing
        have notEmpty := named.notEmpty
        rw [← same, unified] at notEmpty
        exact absurd rfl notEmpty
      | unsupported given unknown =>
        subst given
        cases picks
        exact absurd parsed (unknown _ listed)
      | declined same declines =>
        obtain rfl := String.toByteArray_inj.mp same
        subst unified
        exact absurd agrees (declines name left picks)

theorem printed (course : Course launcher settings file given directory true before ended) :
    ended.2.printed = before.printed ∨ ∃ name, ended.2.printed = before.printed ++ ("Launched " ++ name ++
      " script in " ++ (directory.getD ⟨.root, before.host.files.cwd⟩).toString) ++ "\n" := by
  cases course with
  | stopped _ still => exact .inl (still.printed rfl)
  | @reached text code name left between found unified picks agrees still =>
    obtain ⟨_, _, _, shown⟩ := outcome_runCode launcher settings code name
      (directory.getD ⟨.root, before.host.files.cwd⟩) between
    rw [← still.printed rfl]
    exact shown.imp_right fun line => ⟨name, line⟩

end Course

namespace Program
variable {program : Program} {config : Option Path} {verbose : Bool} {content : ByteArray}

/-- A run of a file ends with 0 exactly if the launcher was called and returned. It is called once at most, and a run
that accepts everything asks nothing. Where the log is kept apart, the launcher finds the script complete, and a run
that is kept from its text calls no launcher and changes no file. -/
theorem run_accounts
    (asked : program.invocation = .ok (.request .run ⟨.run file given directory acceptAll, config, verbose⟩))
    (holds : program.files.readFile file = .ok content)
    (loaded : Config.load program.files program.env config = .ok settings) :
    (program.run.exitCode = 0 ↔ program.run.host.launches ≠ [] ∧ program.launcher.fault = none) ∧
    program.run.host.launches.length ≤ 1 ∧
    (acceptAll = true → program.run.stdout = "" ∨ ∃ name, program.run.stdout =
      "Launched " ++ name ++ " script in " ++ (directory.getD ⟨.root, program.files.cwd⟩).toString ++ "\n") ∧
    ∀ kept, program.Apart settings file directory kept →
      (∀ attempt ∈ program.run.host.launches, ∃ (text : String) (language : Language),
        content = text.toUTF8 ∧ language ∈ settings.detection.languages ∧
        attempt.files.contentOf? (scriptOf settings program.files.cwd directory language) =
          some (String.ofList (Text.unifyNewlines text.toList)).toUTF8) ∧
      (Withheld settings content given acceptAll (Input.ofBytes program.input).lines →
        program.run.host.launches = [] ∧ program.files.Spares kept program.run.host.files) := by
  have cases := run_cases asked loaded
  have host : program.run.host = (program.action.outcome program.start).2.host := rfl
  have printed : program.run.stdout = (program.action.outcome program.start).2.printed := rfl
  have code : program.run.exitCode = (closing (program.action.outcome program.start).1).1 := rfl
  rw [code, host, printed]
  rcases opening : LogSink.ofSettings program.library settings.logging verbose program.files with ⟨files, log⟩
  rw [opening] at cases
  rcases cases with ⟨fault, rfl, ended⟩ | ⟨sink, rfl, course⟩
  · rw [ended]
    refine ⟨iff_of_false nofun fun launched => launched.1 rfl, Nat.zero_le 1, fun _ => .inl rfl, fun kept apart =>
      ⟨nofun, fun _ => ⟨rfl, ?_⟩⟩⟩
    have spared := apart.spares_ofSettings verbose
    rw [opening] at spared
    exact spared
  generalize program.action.outcome program.start = ended at course ⊢
  have begins : (program.opened files sink).host.launches = [] := rfl
  refine ⟨course.succeeds_iff, ?once, ?silent, fun kept apart => ?_⟩
  case once =>
    rcases course.attempts (fun _ => True) content with none | ⟨attempt, one, _⟩
    · rw [none, begins]
      exact Nat.zero_le 1
    · rw [one, begins]
      exact Nat.le_refl 1
  case silent =>
    rintro rfl
    have unprinted : (program.opened files sink).printed = "" := rfl
    have shown := course.printed
    rw [cwd_opened opening, unprinted] at shown
    refine shown.imp_right fun ⟨name, line⟩ => ⟨name, line.trans ?_⟩
    exact congrArg (· ++ "\n") String.empty_append
  obtain ⟨spared, journal⟩ := apart.opened opening
  have reads := spared.readFile apart.file holds
  refine ⟨fun attempt member => ?_, fun withheld => ?_⟩
  · rcases course.attempts kept content with none | ⟨one, attempted, finds⟩
    · rw [none, begins] at member
      cases member
    · rw [attempted, begins, List.nil_append, List.mem_singleton] at member
      subst member
      rw [spared.cwd] at finds
      exact finds journal reads apart.script
  · obtain ⟨reached, launches⟩ := course.traceless_of_withheld reads withheld
    exact ⟨launches, spared.trans (reached.spares journal)⟩

/-- The settings want a confirmation, which is asked for again after a line that says neither yes nor no. -/
theorem run_accounts_declined :
    let files := ((FileSystem.empty ["w"]).withFile ["w", "a.py"] "x".toUTF8).withFile ["w", "c.yaml"]
      "selector: \x7bconfirm_before_execution: true\x7d".toUTF8
    let program : Program := ⟨["run", "a.py", "--language", "python", "-c", "c.yaml"], files, .empty,
      "maybe\nn\n".toUTF8, ⟨none, none⟩, .standard⟩
    ∃ settings, program.invocation = .ok (.request .run
        ⟨.run (.ofString "a.py") (some "python") none false, some (.ofString "c.yaml"), false⟩) ∧
      program.files.readFile (.ofString "a.py") = .ok "x".toUTF8 ∧
      Config.load program.files program.env (some (.ofString "c.yaml")) = .ok settings ∧
      program.Apart settings (.ofString "a.py") none (fun _ => True) ∧
      Withheld settings "x".toUTF8 (some "python") false (Input.ofBytes program.input).lines ∧
      program.run.exitCode ≠ 0 ∧ program.run.host.launches = [] ∧
      program.files.Spares (fun _ => True) program.run.host.files := by
  intro files program
  let settings : Settings := { Settings.standard with selector := ⟨.hideWhenHighConfidence, true⟩ }
  have asked : program.invocation = .ok (.request .run
      ⟨.run (.ofString "a.py") (some "python") none false, some (.ofString "c.yaml"), false⟩) := by rfl
  have holds : program.files.readFile (.ofString "a.py") = .ok "x".toUTF8 := by rfl
  have read : (Config.load program.files program.env (some (.ofString "c.yaml"))).toOption = some settings := by
    decide +kernel
  have loaded := Except.toOption_eq_some_iff.mp read
  have apart : program.Apart settings (.ofString "a.py") none (fun _ => True) :=
    ⟨fun _ _ named => (by cases named), trivial, fun _ _ => trivial⟩
  have lines : (Input.ofBytes program.input).lines = ["maybe", "n"] := by decide +kernel
  have withheld : Withheld settings "x".toUTF8 (some "python") false (Input.ofBytes program.input).lines := by
    rw [lines]
    refine .declined rfl fun name left picks agrees => ?_
    cases picks
    rcases agrees with silent | ⟨⟨⟩⟩ | ⟨left, refused, line, parts, yes, _⟩
    · cases silent
    · have answers : ∀ line ∈ ["maybe", "n"], Confirmation.accept line ≠ .ok true := by decide +kernel
      exact answers line (parts ▸ List.mem_append_right refused List.mem_cons_self) yes
  obtain ⟨exits, _, _, aside⟩ := run_accounts asked holds loaded
  obtain ⟨none, kept⟩ := (aside _ apart).2 withheld
  exact ⟨settings, asked, holds, loaded, apart, withheld, fun ended => (exits.mp ended).1 none, none, kept⟩

/-- An empty file in which the log is kept has a line by the time it is read, and this line is run. -/
theorem run_launches_log :
    let files := ((FileSystem.empty ["w"]).withFile ["w", "a.log"] .empty).withFile ["w", "c.yaml"]
      "logging: \x7bfile: a.log\x7d".toUTF8
    let program : Program := ⟨["run", "a.log", "--language", "python", "-v", "-c", "c.yaml"], files, .empty, .empty,
      ⟨none, none⟩, .standard⟩
    program.invocation = .ok (.request .run
      ⟨.run (.ofString "a.log") (some "python") none false, some (.ofString "c.yaml"), true⟩) ∧
    program.files.readFile (.ofString "a.log") = .ok .empty ∧
    program.run.exitCode = 0 ∧ program.run.host.launches.length = 1 ∧
    program.run.host.files.entryAt? ["w", "__RunOnceTMP__.py"] =
      some (.file "DEBUG    | Logging configured: level=DEBUG format=console\n".toUTF8) := by
  intro files program
  refine ⟨?_, ?_, ?_, ?_, ?_⟩
  · rfl
  · rfl
  · decide +kernel
  · decide +kernel
  · decide +kernel

end Program
end CommandLine
end Scriptlet
