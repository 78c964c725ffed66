import Scriptlet.Proofs.Log.Journal

/-!
The ways in which a call can end. Arguments are refused before anything is written, a file that cannot be
opened is the end of the call, and so is a code that is no text, which leaves its file empty. The launcher finds the
whole code; between all this the files change by records of the log alone.
-/
namespace Scriptlet

structure Call where
  executor : Executor
  launcher : Launcher
  code : Value
  language : Option String
  directory : Option String

namespace Call
open Executor (Job)

def run (call : Call) (host : Host) (journal : Journal := .silent) : Except ExecutionError Unit × Host :=
  call.executor.execute call.launcher call.code call.language call.directory host journal

def tempFile? (call : Call) : Option Path := do
  let language ← call.language.bind Language.parse?
  let directory ← call.directory
  some (call.executor.tempFile language (.ofString directory))

def file (call : Call) (job : Job) : Path := call.executor.tempFile job.language job.directory

def request (call : Call) (job : Job) : LaunchRequest :=
  Launch.request call.executor.settings (call.executor.composeCommand job.language (call.file job)) job.directory

/-- One attempt to start the terminal of a call whose file was written when the files were as given. -/
def Attempts (call : Call) (journal : Journal) (job : Job) (written : FileSystem) (before after : Host) : Prop :=
  ∃ attempt, after.launches = before.launches ++ [attempt] ∧ attempt.request = call.request job ∧
    journal.Reaches written attempt.files ∧ journal.Reaches attempt.files after.files

structure Opens (call : Call) (before : FileSystem) (job : Job) (location : Location) : Prop where
  checked : call.executor.check before call.code call.language call.directory = .ok job
  located : before.locate (call.file job) = .ok location

/-- A call gets as far as its launcher, with its temporary file written and the files then as given. -/
structure Prepares (call : Call) (before : FileSystem) (job : Job) (location : Location) (content : ByteArray)
    (files : FileSystem) : Prop extends call.Opens before job location where
  encoded : job.code.utf8 = .ok content
  written : before.Written files location content

inductive Outcome (call : Call) (journal : Journal) (before : Host) : Except ExecutionError Unit → Host → Prop
  | refused (reason : Precondition) : Outcome call journal before (.error (.precondition reason)) before
  | lookup (path : Path) (cause : FileError) : Outcome call journal before (.error (.lookup path cause)) before
  | unwritten (file : Path) (cause : FileError) {after : Host} (files : journal.Reaches before.files after.files)
      (launches : after.launches = before.launches) : Outcome call journal before (.error (.write file cause)) after
  | unwritable {job : Job} {location : Location} {fault : Value.EncodingFault} {after : Host}
      (opens : call.Opens before.files job location) (broken : job.code.utf8 = .error fault)
      (emptied : before.files.Written after.files location .empty) (launches : after.launches = before.launches) :
      Outcome call journal before (.error (.unwritable fault)) after
  | launched {job : Job} {location : Location} {content : ByteArray} {files : FileSystem}
      {result : Except ExecutionError Unit} {after : Host}
      (prepared : call.Prepares before.files job location content files)
      (ends : result = .ok () ∨ ∃ executable cause, result = .error (.launch executable cause))
      (attempts : call.Attempts journal job files before after) : Outcome call journal before result after
  | illFormed {job : Job} {location : Location} {content : ByteArray} {files : FileSystem} (message : String)
      {after : Host} (prepared : call.Prepares before.files job location content files)
      (launches : after.launches = before.launches ∧ journal.Reaches files after.files ∨
        call.Attempts journal job files before after) :
      Outcome call journal before (.error (.illFormed message)) after

/-- The place of the temporary file, unless the call ended before the file was opened. -/
def opens? (call : Call) (files : FileSystem) : Except ExecutionError Unit → Option Location
  | .error (.precondition _) | .error (.lookup _ _) | .error (.write _ _) => none
  | _ => call.tempFile?.bind fun file => (files.locate file).toOption

/-- The place of the temporary file, unless the call ended before the code was written. -/
def writes? (call : Call) (files : FileSystem) : Except ExecutionError Unit → Option Location
  | .error (.unwritable _) => none
  | result => call.opens? files result

variable {call : Call} {journal : Journal} {before after : Host} {job : Job} {location : Location}
variable {files later : FileSystem} {content : ByteArray} {result : Except ExecutionError Unit}

theorem run_of_check (checked : call.executor.check before.files call.code call.language call.directory = .ok job) :
    call.run before journal =
      match before.files.openEmpty (call.file job) with
      | .error cause =>
        (.error (.write (call.file job) cause),
          before.withLog .error ("Failed to write temporary script " ++ (call.file job).toString ++ ": "
            ++ cause.describe (call.file job).toString) journal)
      | .ok (location, files) =>
        match job.code.utf8 with
        | .error fault => (.error (.unwritable fault), { before with files })
        | .ok content =>
          let host := { before with files := files.put location (.file content) }
          call.executor.start call.launcher job (call.file job)
            (host.withLog .debug ("Wrote temporary script " ++ (call.file job).toString) journal) journal := by
  unfold run Executor.execute Executor.writeTempFile
  rw [checked]
  dsimp only [file]
  cases before.files.openEmpty (call.executor.tempFile job.language job.directory) with
  | error cause => rfl
  | ok opened => cases job.code.utf8 <;> rfl

theorem parse?_of_checkLanguage {executor : Executor} {name : String} {language : Language}
    (accepted : executor.checkLanguage name = .ok language) :
    Language.parse? name = some language ∧ language ∈ executor.languages := by
  unfold Executor.checkLanguage at accepted
  split at accepted
  next => cases accepted
  next =>
    split at accepted
    next parsed =>
      split at accepted
      next listed =>
        cases accepted
        exact ⟨parsed, by simpa using listed⟩
      next => cases accepted
    next => cases accepted

/-- Arguments that are good by themselves, with the job they name; its directory is not looked up yet. -/
structure Names (call : Call) (job : Job) : Prop where
  code : call.code = job.code
  given : job.code.isNull = false
  notEmpty : job.code.text? ≠ some ""
  language : ∃ name, call.language = some name ∧ call.executor.checkLanguage name = .ok job.language
  directory : ∃ text, call.directory = some text ∧ Text.isAllBlank text.toList = false ∧
    job.directory = .ofString text

theorem Names.check (named : call.Names job) (files : FileSystem) :
    call.executor.check files call.code call.language call.directory =
      match files.isDirectory job.directory with
      | .error cause => .error (.lookup job.directory cause)
      | .ok false => .error (.precondition (.missingDirectory job.directory))
      | .ok true => .ok job := by
  obtain ⟨name, language, accepted⟩ := named.language
  obtain ⟨text, directory, notBlank, path⟩ := named.directory
  have accepts : (Except.ok job.language).mapError ExecutionError.precondition = .ok job.language := rfl
  rw [named.code, language, directory, Executor.check]
  simp only [bind, Except.bind, named.given, named.notEmpty, accepted, accepts, notBlank, ← path]
  rfl

theorem refused_or_names (call : Call) (files : FileSystem) :
    (∃ reason, call.executor.check files call.code call.language call.directory =
      .error (.precondition reason)) ∨ ∃ job, call.Names job := by
  obtain ⟨executor, launcher, code, language, directory⟩ := call
  unfold Executor.check
  dsimp only
  split
  next => exact .inl ⟨_, rfl⟩
  next given =>
    cases language with
    | none => exact .inl ⟨_, rfl⟩
    | some name =>
      cases directory with
      | none => exact .inl ⟨_, rfl⟩
      | some text =>
        simp only [bind, Except.bind]
        split
        next => exact .inl ⟨_, rfl⟩
        next written =>
          cases accepted : executor.checkLanguage name with
          | error reason => exact .inl ⟨reason, rfl⟩
          | ok language =>
            have accepts : (Except.ok language).mapError ExecutionError.precondition = .ok language := rfl
            rw [accepts]
            dsimp only
            split
            next => exact .inl ⟨_, rfl⟩
            next notBlank =>
              refine .inr ⟨⟨code, language, .ofString text⟩, rfl, ?_, ?_, ⟨name, rfl, accepted⟩, text, rfl, ?_, rfl⟩
              · exact Bool.not_eq_true _ ▸ given
              · exact written
              · exact Bool.not_eq_true _ ▸ notBlank

theorem check_cases (call : Call) (files : FileSystem) :
    (∃ reason, call.executor.check files call.code call.language call.directory =
      .error (.precondition reason)) ∨
    ∃ job, call.Names job ∧
      ((∃ cause, files.isDirectory job.directory = .error cause ∧
          call.executor.check files call.code call.language call.directory =
            .error (.lookup job.directory cause)) ∨
        files.isDirectory job.directory = .ok true ∧
          call.executor.check files call.code call.language call.directory = .ok job) := by
  rcases call.refused_or_names files with refused | ⟨job, named⟩
  · exact .inl refused
  · have checked := named.check files
    rw [checked]
    cases found : files.isDirectory job.directory with
    | error cause => exact .inr ⟨job, named, .inl ⟨cause, found, rfl⟩⟩
    | ok isDirectory =>
      cases isDirectory with
      | false => exact .inl ⟨_, rfl⟩
      | true => exact .inr ⟨job, named, .inr ⟨found, rfl⟩⟩

theorem names_of_check (accepted : call.executor.check files call.code call.language call.directory = .ok job) :
    call.Names job ∧ files.isDirectory job.directory = .ok true := by
  rcases check_cases call files with ⟨reason, refused⟩ | ⟨made, named, ⟨cause, _, refused⟩ | ⟨found, checked⟩⟩
  · rw [accepted] at refused
    cases refused
  · rw [accepted] at refused
    cases refused
  · rw [accepted] at checked
    cases checked
    exact ⟨named, found⟩

theorem Names.tempFile? (named : call.Names job) :
    call.tempFile? = some (call.file job) := by
  obtain ⟨name, language, accepted⟩ := named.language
  obtain ⟨text, directory, _, path⟩ := named.directory
  simp [Call.tempFile?, file, language, (parse?_of_checkLanguage accepted).1, directory, path]

theorem Opens.names (opens : call.Opens files job location) :
    call.Names job ∧ files.isDirectory job.directory = .ok true :=
  names_of_check opens.checked

theorem Opens.place (opens : call.Opens files job location) :
    (call.tempFile?.bind fun file => (files.locate file).toOption) = some location := by
  rw [opens.names.1.tempFile?, Option.bind_some, opens.located]
  rfl

theorem Prepares.contentOf? (prepared : call.Prepares files job location content later) :
    later.contentOf? (call.file job) = some content := by
  refine FileSystem.contentOf?_eq_some_iff.mpr ⟨location, prepared.written.same.locate prepared.located, ?_⟩
  rw [prepared.written.entryAt?, if_pos rfl]

/-- What is written is the code of the call, and the code is text. -/
theorem Prepares.code (prepared : call.Prepares files job location content later) :
    ∃ code, call.code = .text code ∧ content = code.toUTF8 := by
  obtain ⟨code, same, encoded⟩ := Value.utf8_eq_ok_iff.mp prepared.encoded
  exact ⟨code, prepared.toOpens.names.1.code.trans same, encoded.symm⟩

/-- A launcher changes files by records alone. It makes one attempt, unless the request cannot become a process
call. -/
private theorem launch_cases (launcher : Launcher) (request : LaunchRequest) (host : Host) (journal : Journal) :
    let ended := launcher.launch request host journal
    (∃ message, ended.1 = .error (.illFormed message)) ∧ ended.2 = host ∨
      ∃ attempt, ended.2.launches = host.launches ++ [attempt] ∧ attempt.request = request ∧
        attempt.files = host.files ∧ journal.Reaches host.files ended.2.files := by
  unfold Launcher.launch
  have records := Journal.reaches_withLog journal
  cases launcher.platform with
  | none =>
    cases launcher.fault <;> exact .inr ⟨_, rfl, rfl, rfl, .refl _ _⟩
  | some platform =>
    cases made : request.processCall platform with
    | error error =>
      simp only [made]
      exact .inl ⟨⟨_, rfl⟩, trivial⟩
    | ok process =>
      simp only [made]
      cases launcher.fault with
      | none => exact .inr ⟨_, rfl, rfl, rfl, records _ _ _⟩
      | some fault => exact .inr ⟨_, rfl, rfl, rfl, .refl _ _⟩

private theorem start_cases (call : Call) (job : Job) (before : Host) (journal : Journal)
    (reached : journal.Reaches files before.files) :
    let ended := call.executor.start call.launcher job (call.file job) before journal
    (∃ message, ended.1 = .error (.illFormed message)) ∧
        (ended.2.launches = before.launches ∧ journal.Reaches files ended.2.files ∨
          call.Attempts journal job files before ended.2) ∨
      (ended.1 = .ok () ∨ ∃ executable cause, ended.1 = .error (.launch executable cause)) ∧
        call.Attempts journal job files before ended.2 := by
  have launched := launch_cases call.launcher (call.request job) before journal
  rcases found : call.launcher.launch (call.request job) before journal with ⟨ended, after⟩
  rw [found] at launched
  unfold request at found
  simp only [Executor.start, found]
  rcases launched with ⟨⟨message, rfl⟩, rfl⟩ | ⟨attempt, launches, requested, same, recorded⟩
  · exact .inl ⟨⟨message, rfl⟩, .inl ⟨rfl, reached⟩⟩
  · have attempts {last : Host} (more : last.launches = after.launches)
        (recorded : journal.Reaches after.files last.files) : call.Attempts journal job files before last := by
      refine ⟨attempt, more.trans launches, requested, same ▸ reached, ?_⟩
      rw [same]
      exact Journal.Reaches.trans ‹_› recorded
    rcases ended with fault | _
    · cases fault with
      | system cause message =>
        exact .inr ⟨.inr ⟨_, cause, rfl⟩, attempts rfl (Journal.reaches_withLog journal _ _ _)⟩
      | illFormed message => exact .inl ⟨⟨message, rfl⟩, .inr (attempts rfl (.refl _ _))⟩
    · exact .inr ⟨.inl rfl, attempts rfl (Journal.reaches_withLog journal _ _ _)⟩

theorem outcome (call : Call) (host : Host) (journal : Journal) :
    Outcome call journal host (call.run host journal).1 (call.run host journal).2 := by
  rcases check_cases call host.files with
    ⟨reason, refused⟩ | ⟨job, _, ⟨cause, _, refused⟩ | ⟨_, accepted⟩⟩
  · rw [run, Executor.execute, refused]
    exact .refused reason
  · rw [run, Executor.execute, refused]
    exact .lookup _ cause
  · rw [run_of_check accepted]
    cases opened : host.files.openEmpty (call.file job) with
    | error cause =>
      exact .unwritten _ cause (Journal.reaches_withLog journal _ _ _) rfl
    | ok there =>
      obtain ⟨location, emptied⟩ := there
      obtain ⟨located, empty, written⟩ := FileSystem.written_of_openEmpty opened
      have opens : call.Opens host.files job location := ⟨accepted, located⟩
      dsimp only
      cases encoded : job.code.utf8 with
      | error fault => exact .unwritable opens encoded empty rfl
      | ok content =>
        have prepared : call.Prepares host.files job location content _ := ⟨opens, encoded, written content⟩
        dsimp only
        -- Of the host that the launcher finds only the files and the launches matter from here on.
        generalize ready : Host.withLog _ .debug _ journal = before
        have launches : before.launches = host.launches := ready ▸ rfl
        have reached : journal.Reaches _ before.files := ready ▸ Journal.reaches_withLog journal _ _ _
        have ends := start_cases call job before journal reached
        unfold Attempts at ends
        rw [launches] at ends
        rcases ends with ⟨⟨message, failed⟩, launches⟩ | ⟨ends, attempts⟩
        · rw [failed]
          exact .illFormed message prepared launches
        · exact .launched prepared ends attempts

/-- Either a call opened no file, or it left it empty for a code that is no text, or it got as far as its
launcher. -/
theorem Outcome.opens (outcome : call.Outcome journal before result after) :
    (call.opens? before.files result = none ∧ journal.Reaches before.files after.files ∧
        after.launches = before.launches) ∨
      ∃ job location, call.opens? before.files result = some location ∧
        (call.writes? before.files result = none ∧ call.Opens before.files job location ∧
            (∃ fault, job.code.utf8 = .error fault) ∧ before.files.Written after.files location .empty ∧
            after.launches = before.launches ∨
          ∃ content files, call.writes? before.files result = some location ∧
            call.Prepares before.files job location content files ∧
            (after.launches = before.launches ∧ journal.Reaches files after.files ∨
              call.Attempts journal job files before after)) := by
  cases outcome with
  | refused => exact .inl ⟨rfl, .refl _ _, rfl⟩
  | lookup => exact .inl ⟨rfl, .refl _ _, rfl⟩
  | unwritten _ _ files launches => exact .inl ⟨rfl, files, launches⟩
  | unwritable opens broken emptied launches =>
    exact .inr ⟨_, _, opens.place, .inl ⟨rfl, opens, ⟨_, broken⟩, emptied, launches⟩⟩
  | illFormed _ prepared launches =>
    have place := prepared.toOpens.place
    exact .inr ⟨_, _, place, .inr ⟨_, _, place, prepared, launches⟩⟩
  | launched prepared ends attempts =>
    have place := prepared.toOpens.place
    rcases ends with rfl | ⟨_, _, rfl⟩
    · exact .inr ⟨_, _, place, .inr ⟨_, _, place, prepared, .inr attempts⟩⟩
    · exact .inr ⟨_, _, place, .inr ⟨_, _, place, prepared, .inr attempts⟩⟩

/-- A call that wrote its file got as far as its launcher. -/
theorem Outcome.prepares_of_writes? (outcome : call.Outcome journal before result after)
    (place : call.writes? before.files result = some location) :
    ∃ job content files, call.Prepares before.files job location content files ∧
      (after.launches = before.launches ∧ journal.Reaches files after.files ∨
        call.Attempts journal job files before after) := by
  rcases outcome.opens with ⟨closed, _⟩ | ⟨job, found, _, ⟨unwritten, _⟩ | ⟨content, files, same, prepared, launches⟩⟩
  · have unwritten : call.writes? before.files result = none := by
      unfold writes?
      split
      next => rfl
      next => exact closed
    rw [place] at unwritten
    cases unwritten
  · rw [place] at unwritten
    cases unwritten
  · rw [place] at same
    cases same
    exact ⟨job, content, files, prepared, launches⟩

/-- Without records an attempt finds the files as they stay. -/
theorem Attempts.of_silent (attempts : call.Attempts .silent job files before after) :
    ∃ attempt, after.launches = before.launches ++ [attempt] ∧ attempt.request = call.request job ∧
      attempt.files = files ∧ after.files = files := by
  obtain ⟨attempt, launches, requested, reached, left⟩ := attempts
  rw [Journal.reaches_silent_iff] at reached left
  exact ⟨attempt, launches, requested, reached, left.trans reached⟩

/-- A call that ends well has started one terminal, with the code in the script of the language, and it is there in
the end where records change no file. -/
theorem script_of_run {executor : Executor} {launcher : Launcher} {code name directory : String}
    {kept : Location → Prop} (spares : journal.Spares kept)
    (keeps : ∀ language ∈ executor.languages,
      kept ((executor.tempFile language (.ofString directory)).place before.files.cwd))
    (ran : run ⟨executor, launcher, .text code, some name, some directory⟩ before journal = (.ok (), after)) :
    ∃ language ∈ executor.languages, Language.parse? name = some language ∧
      after.files.contentOf? (executor.tempFile language (.ofString directory)) = some code.toUTF8 ∧
      ∃ attempt, after.launches = before.launches ++ [attempt] ∧
        attempt.files.contentOf? (executor.tempFile language (.ofString directory)) = some code.toUTF8 := by
  have outcome := Call.outcome ⟨executor, launcher, .text code, some name, some directory⟩ before journal
  rw [ran] at outcome
  cases outcome with
  | launched prepared _ attempts =>
    obtain ⟨_, given, rfl⟩ := prepared.code
    obtain ⟨named, _⟩ := prepared.toOpens.names
    obtain ⟨_, known, accepted⟩ := named.language
    obtain ⟨_, there, _, path⟩ := named.directory
    cases known
    cases there
    cases given
    obtain ⟨parsed, listed⟩ := parse?_of_checkLanguage accepted
    obtain ⟨attempt, attempted, _, reached, left⟩ := attempts
    have holds := prepared.contentOf?
    have cwd := prepared.written.same.cwd
    rw [file, path] at holds
    have atLaunch := (reached.spares spares).contentOf? (cwd ▸ keeps _ listed) holds
    have inTheEnd := ((reached.trans left).spares spares).contentOf? (cwd ▸ keeps _ listed) holds
    exact ⟨_, listed, parsed, inTheEnd, attempt, attempted, atLaunch⟩

end Call
end Scriptlet
