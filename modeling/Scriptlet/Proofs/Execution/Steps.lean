import Scriptlet.Proofs.Execution.ScriptPath
import Scriptlet.Proofs.FileSystem.Agreement

/-!
A call taken apart into its steps: the arguments are checked, the file is opened and empty from then on, the
text is written to it, and the terminal is started. Taken without a pause the steps are the call; and no step
sees what happens between them at other places than that of its own file.
-/
namespace Scriptlet
namespace Call
open Executor (Job)
open FileSystem (AgreesBut)

inductive Progress where
  | begun
  | checked (job : Job)
  | opened (job : Job) (location : Location)
  | written (job : Job)
  | ended (result : Except ExecutionError Unit)

/-- The next step of a call. Between opening and writing the file is empty, and it stays so if the code is no
text. -/
def step (call : Call) : Progress → Host → Progress × Host
  | .begun, host =>
    match call.executor.check host.files call.code call.language call.directory with
    | .error error => (.ended (.error error), host)
    | .ok job => (.checked job, host)
  | .checked job, host =>
    match host.files.openEmpty (call.file job) with
    | .error cause =>
      (.ended (.error (.write (call.file job) cause)),
        host.withLog .error ("Failed to write temporary script " ++ (call.file job).toString ++ ": "
          ++ cause.describe (call.file job).toString))
    | .ok (location, files) => (.opened job location, { host with files })
  | .opened job location, host =>
    match job.code.utf8 with
    | .error fault => (.ended (.error (.unwritable fault)), host)
    | .ok content =>
      let files := host.files.put location (.file content)
      (.written job,
        { host with files }.withLog .debug ("Wrote temporary script " ++ (call.file job).toString))
  | .written job, host =>
    let (result, after) := call.executor.start call.launcher job (call.file job) host
    (.ended result, after)
  | .ended result, host => (.ended result, host)

def alone (call : Call) (host : Host) : Nat → Progress × Host
  | 0 => (.begun, host)
  | count + 1 => call.step (call.alone host count).1 (call.alone host count).2

variable {call : Call} {host after shared : Host} {job : Job} {location : Location} {count : Nat}
variable {result : Except ExecutionError Unit} {progress : Progress} {files later : FileSystem}
variable {place : Option Location}

theorem alone_four (call : Call) (host : Host) :
    call.alone host 4 = (.ended (call.run host).1, (call.run host).2) := by
  simp only [alone, run, Executor.execute, Executor.writeTempFile]
  rw [step]
  cases checked : call.executor.check host.files call.code call.language call.directory with
  | error error => rfl
  | ok job =>
    dsimp only
    rw [step]
    unfold file
    cases opened : host.files.openEmpty (call.executor.tempFile job.language job.directory) with
    | error cause => rfl
    | ok there =>
      dsimp only
      rw [step]
      cases job.code.utf8 <;> rfl

theorem alone_add (call : Call) (host : Host) (ended : (call.alone host count).1 = .ended result) (more : Nat) :
    call.alone host (count + more) = call.alone host count := by
  induction more with
  | zero => rfl
  | succ more ih =>
    rw [← Nat.add_assoc, alone, ih, ended, step, ← ended]

theorem alone_of_four_le (call : Call) (host : Host) (enough : 4 ≤ count) :
    call.alone host count = (.ended (call.run host).1, (call.run host).2) := by
  obtain ⟨more, rfl⟩ := Nat.exists_eq_add_of_le enough
  have ended := congrArg Prod.fst (call.alone_four host)
  rw [call.alone_add host ended, call.alone_four host]

/-- A call that has ended has come to its result, after however many steps. -/
theorem alone_of_ended (ended : (call.alone host count).1 = .ended result) :
    call.alone host count = (.ended (call.run host).1, (call.run host).2) := by
  rw [← call.alone_add host ended 4]
  exact call.alone_of_four_le host (Nat.le_add_left 4 count)

/-- Where a call puts its file, if its arguments are good and the path leads to a place. -/
def place? (call : Call) (files : FileSystem) : Option Location := do
  let job ← (call.executor.check files call.code call.language call.directory).toOption
  (files.locate (call.file job)).toOption

def home? (call : Call) (files : FileSystem) : Option Location :=
  call.directory.bind fun text => files.directoryAt? (.ofString text)

theorem check_of_sameDirectories (same : files.SameDirectories later) :
    call.executor.check later call.code call.language call.directory =
      call.executor.check files call.code call.language call.directory := by
  simp only [Executor.check, same.isDirectory]

theorem place?_of_sameDirectories (same : files.SameDirectories later) :
    call.place? later = call.place? files := by
  simp only [place?, check_of_sameDirectories same, same.toOption_locate]

/-- What holds of a call that has come so far, with the files as they are now. -/
inductive Reached (call : Call) (files : FileSystem) : Progress → Prop
  | begun : Reached call files .begun
  | checked {job : Job}
      (accepted : call.executor.check files call.code call.language call.directory = .ok job) :
      Reached call files (.checked job)
  | opened {job : Job} {location : Location}
      (accepted : call.executor.check files call.code call.language call.directory = .ok job)
      (located : files.locate (call.file job) = .ok location)
      (noDirectory : files.entryAt? location ≠ some .directory) : Reached call files (.opened job location)
  | written {job : Job} {location : Location}
      (accepted : call.executor.check files call.code call.language call.directory = .ok job)
      (located : files.locate (call.file job) = .ok location)
      (complete : ∃ content, job.code.utf8 = .ok content ∧ files.entryAt? location = some (.file content)) :
      Reached call files (.written job)
  | ended {result : Except ExecutionError Unit} : Reached call files (.ended result)

private theorem place?_eq (accepted : call.executor.check files call.code call.language call.directory = .ok job)
    (located : files.locate (call.file job) = .ok location) : call.place? files = some location := by
  rw [place?, accepted]
  exact congrArg Except.toOption located

/-- What a call has reached is kept while files change at other places. -/
theorem Reached.of_agreesBut (reached : call.Reached files progress) (agrees : AgreesBut place files later)
    (apart : ∀ location, call.place? files = some location → place ≠ some location) :
    call.Reached later progress := by
  cases reached with
  | begun => exact .begun
  | checked accepted => exact .checked ((check_of_sameDirectories agrees.same).trans accepted)
  | opened accepted located noDirectory =>
    exact .opened ((check_of_sameDirectories agrees.same).trans accepted) (agrees.same.locate located)
      (mt (agrees.same.directory _).mp noDirectory)
  | written accepted located complete =>
    have elsewhere := apart _ (place?_eq accepted located)
    obtain ⟨content, encoded, there⟩ := complete
    exact .written ((check_of_sameDirectories agrees.same).trans accepted) (agrees.same.locate located)
      ⟨content, encoded, (agrees.entryAt? _ elsewhere).trans there⟩
  | ended => exact .ended

/-- An attempt to start a terminal that finds the whole code of a call in the file of this call. -/
def FindsCode (call : Call) (attempt : LaunchAttempt) : Prop :=
  ∃ code file, call.code = .text code ∧ call.tempFile? = some file ∧
    attempt.files.contentOf? file = some code.toUTF8

def attemptWith (files : FileSystem) (made : LaunchRequest × Option ProcessCall) : LaunchAttempt :=
  ⟨made.1, made.2, files⟩

private theorem launch_uniform (launcher : Launcher) (request : LaunchRequest) :
    ∃ (answer : Except LaunchFault Unit) (made : List (LaunchRequest × Option ProcessCall)), ∀ host,
      (launcher.launch request host).1 = answer ∧ (launcher.launch request host).2.files = host.files ∧
      (launcher.launch request host).2.launches = host.launches ++ made.map (attemptWith host.files) := by
  unfold Launcher.launch
  cases launcher.platform with
  | none => cases launcher.fault <;> exact ⟨_, [(request, none)], fun _ => ⟨rfl, rfl, rfl⟩⟩
  | some platform =>
    dsimp only
    cases request.processCall platform with
    | error error => exact ⟨_, [], fun host => ⟨rfl, rfl, (List.append_nil host.launches).symm⟩⟩
    | ok process =>
      cases launcher.fault <;> exact ⟨_, [(request, some process)], fun _ => ⟨rfl, rfl, rfl⟩⟩

private def resultOf (request : LaunchRequest) : Except LaunchFault Unit → Except ExecutionError Unit
  | .ok () => .ok ()
  | .error (.system cause _) => .error (.launch request.executable cause)
  | .error (.illFormed message) => .error (.illFormed message)

private theorem start_eq (call : Call) (job : Job) (host : Host) :
    let launched := call.launcher.launch (call.request job) host
    let ended := call.executor.start call.launcher job (call.file job) host
    ended.1 = resultOf (call.request job) launched.1 ∧ ended.2.files = launched.2.files ∧
      ended.2.launches = launched.2.launches := by
  intro launched
  rcases found : launched with ⟨answer, after⟩
  unfold launched request at found
  unfold Executor.start
  dsimp only
  rw [found]
  rcases answer with fault | _
  · cases fault <;> exact ⟨rfl, rfl, rfl⟩
  · exact ⟨rfl, rfl, rfl⟩

/-- The start of a terminal goes the same way on every host, and leaves the files alone. -/
private theorem start_uniform (call : Call) (job : Job) :
    ∃ (result : Except ExecutionError Unit) (made : List (LaunchRequest × Option ProcessCall)), ∀ host,
      let ended := call.executor.start call.launcher job (call.file job) host
      ended.1 = result ∧ ended.2.files = host.files ∧
        ended.2.launches = host.launches ++ made.map (attemptWith host.files) := by
  obtain ⟨answer, made, uniform⟩ := launch_uniform call.launcher (call.request job)
  refine ⟨resultOf (call.request job) answer, made, fun host => ?_⟩
  obtain ⟨answered, files, launches⟩ := uniform host
  obtain ⟨result, kept, added⟩ := start_eq call job host
  exact ⟨result.trans (congrArg _ answered), kept.trans files, added.trans launches⟩

theorem Reached.step (reached : call.Reached host.files progress) :
    call.Reached (call.step progress host).2.files (call.step progress host).1 ∧
      AgreesBut (call.place? host.files) host.files (call.step progress host).2.files := by
  cases reached with
  | begun =>
    rw [Call.step]
    cases accepted : call.executor.check host.files call.code call.language call.directory with
    | error error => exact ⟨.ended, .refl _ _⟩
    | ok job => exact ⟨.checked accepted, .refl _ _⟩
  | checked accepted =>
    rw [Call.step]
    cases opened : host.files.openEmpty (call.file _) with
    | error cause => exact ⟨.ended, .refl _ _⟩
    | ok there =>
      obtain ⟨location, located, free, rfl⟩ := FileSystem.openEmpty_eq_ok_iff.mp opened
      have noDirectory := FileSystem.ne_directory_of_writeFault? free
      have same := (FileSystem.written_put noDirectory .empty).same
      rw [place?_eq accepted located]
      refine ⟨?_, FileSystem.agreesBut_put noDirectory _⟩
      exact .opened ((check_of_sameDirectories same).trans accepted) (same.locate located)
        (mt (same.directory _).mp noDirectory)
  | @opened job location accepted located noDirectory =>
    rw [Call.step, place?_eq accepted located]
    cases encoded : job.code.utf8 with
    | error fault => exact ⟨.ended, .refl _ _⟩
    | ok content =>
      have written := FileSystem.written_put noDirectory content
      refine ⟨?_, FileSystem.agreesBut_put noDirectory _⟩
      refine .written ((check_of_sameDirectories written.same).trans accepted) (written.same.locate located) ?_
      exact ⟨content, encoded, (written.entryAt? _).trans (if_pos rfl)⟩
  | written =>
    obtain ⟨result, made, uniform⟩ := start_uniform call _
    rw [Call.step]
    dsimp only
    rw [(uniform host).2.1]
    exact ⟨.ended, .refl _ _⟩
  | ended => exact ⟨.ended, .refl _ _⟩

theorem reached_alone (call : Call) (host : Host) (count : Nat) :
    call.Reached (call.alone host count).2.files (call.alone host count).1 ∧
      AgreesBut (call.place? host.files) host.files (call.alone host count).2.files := by
  induction count with
  | zero => exact ⟨.begun, .refl _ _⟩
  | succ count ih =>
    obtain ⟨reached, agrees⟩ := ih
    obtain ⟨next, changes⟩ := reached.step
    rw [place?_of_sameDirectories agrees.same] at changes
    exact ⟨next, agrees.trans changes⟩

/-- The place of the file is found in a directory that is there, so it does not depend on other files. -/
private theorem locate_file (valid : ∃ given, Config.readExecution given = .ok call.executor.settings)
    (accepted : call.executor.check files call.code call.language call.directory = .ok job) :
    ∃ home, files.directoryAt? job.directory = some home ∧ ∀ later, files.SameDirectories later →
      later.locate (call.file job) = if 4095 < (call.file job).toString.utf8ByteSize then .error .nameTooLong
        else match files.refusal? home .search with
          | some cause => .error (.refused cause)
          | none =>
            if 255 < (call.executor.settings.tempFilePrefix ++ job.language.extension).utf8ByteSize then
              .error .nameTooLong
            else .ok (home ++ [call.executor.settings.tempFilePrefix ++ job.language.extension]) := by
  obtain ⟨home, place, found, there⟩ :=
    FileSystem.exists_directoryAt?_of_isDirectory (names_of_check accepted).2
  obtain ⟨given, read⟩ := valid
  obtain ⟨isPart, notUp⟩ := Config.isPart_tempFileName read job.language
  refine ⟨home, place, fun later same => ?_⟩
  rw [file, Executor.tempFile_eq ⟨given, read⟩, ← same.refusal?]
  exact FileSystem.locate_join (same.locate found) ((same.directory home).mpr there) ⟨isPart.2.1, notUp⟩

/-- The file of a call has its own name in the working directory. -/
theorem exists_home_of_place? (valid : ∃ given, Config.readExecution given = .ok call.executor.settings)
    (found : call.place? files = some location) :
    ∃ (home : Location) (language : Language), call.home? files = some home ∧
      location = home ++ [call.executor.settings.tempFilePrefix ++ language.extension] := by
  obtain ⟨job, accepted, located⟩ := Option.bind_eq_some_iff.mp found
  have accepted := Except.toOption_eq_some_iff.mp accepted
  have located := Except.toOption_eq_some_iff.mp located
  obtain ⟨home, place, locates⟩ := locate_file valid accepted
  obtain ⟨text, directory, _, path⟩ := (names_of_check accepted).1.directory
  refine ⟨home, job.language, ?_, ?_⟩
  · simp [home?, directory, ← path, place]
  · rw [locates files (.refl files)] at located
    split at located
    next => cases located
    next =>
      split at located
      next => cases located
      next =>
        split at located
        next => cases located
        next => exact (Except.ok.inj located).symm

private theorem Reached.finds (reached : call.Reached files (.written job))
    (made : LaunchRequest × Option ProcessCall) : call.FindsCode (attemptWith files made) := by
  cases reached with
  | written accepted located complete =>
    have named := (names_of_check accepted).1
    obtain ⟨content, encoded, there⟩ := complete
    obtain ⟨code, given, rfl⟩ := Value.utf8_eq_ok_iff.mp encoded
    exact ⟨code, call.file job, named.code.trans given, named.tempFile?,
      FileSystem.contentOf?_eq_some_iff.mpr ⟨_, located, there⟩⟩

/-- A step goes the same way if files at other places are different, and it attempts the same. -/
theorem Reached.step_beside (valid : ∃ given, Config.readExecution given = .ok call.executor.settings)
    (reached : call.Reached host.files progress) (agrees : AgreesBut place host.files shared.files)
    (apart : ∀ location, call.place? host.files = some location → place ≠ some location) :
    (call.step progress shared).1 = (call.step progress host).1 ∧
      AgreesBut place (call.step progress host).2.files (call.step progress shared).2.files ∧
      ∃ made : List (LaunchRequest × Option ProcessCall),
        (call.step progress host).2.launches = host.launches ++ made.map (attemptWith host.files) ∧
        (call.step progress shared).2.launches = shared.launches ++ made.map (attemptWith shared.files) ∧
        ∀ one ∈ made, call.FindsCode (attemptWith shared.files one) := by
  have nothing (here : Host) : here.launches = here.launches ++ [].map (attemptWith here.files) :=
    (List.append_nil here.launches).symm
  have reachedShared := reached.of_agreesBut agrees apart
  cases reached with
  | begun =>
    rw [Call.step, Call.step, check_of_sameDirectories agrees.same]
    cases call.executor.check host.files call.code call.language call.directory with
    | error error => exact ⟨rfl, agrees, [], nothing _, nothing _, nofun⟩
    | ok job => exact ⟨rfl, agrees, [], nothing _, nothing _, nofun⟩
  | checked accepted =>
    rw [Call.step, Call.step]
    obtain ⟨_, _, locates⟩ := locate_file valid accepted
    have located := (locates _ agrees.same).trans (locates _ (.refl _)).symm
    have elsewhere (location : Location) (found : host.files.locate (call.file _) = .ok location) :=
      apart location (place?_eq accepted found)
    rcases agrees.openEmpty located elsewhere with
      ⟨cause, failed, failedShared⟩ | ⟨location, noDirectory, opened, openedShared⟩
    · rw [failed, failedShared]
      exact ⟨rfl, agrees, [], nothing _, nothing _, nofun⟩
    · rw [opened, openedShared]
      exact ⟨rfl, agrees.put noDirectory _, [], nothing _, nothing _, nofun⟩
  | @opened job location accepted located noDirectory =>
    rw [Call.step, Call.step]
    cases job.code.utf8 with
    | error fault => exact ⟨rfl, agrees, [], nothing _, nothing _, nofun⟩
    | ok content => exact ⟨rfl, agrees.put noDirectory _, [], nothing _, nothing _, nofun⟩
  | written =>
    obtain ⟨result, made, uniform⟩ := start_uniform call _
    obtain ⟨ends, files, launches⟩ := uniform host
    obtain ⟨endsShared, filesShared, launchesShared⟩ := uniform shared
    rw [Call.step, Call.step]
    refine ⟨congrArg Progress.ended (endsShared.trans ends.symm), ?_, made, launches, launchesShared, ?_⟩
    · dsimp only
      rw [files, filesShared]
      exact agrees
    · exact fun one _ => reachedShared.finds one
  | ended => exact ⟨rfl, agrees, [], nothing _, nothing _, nofun⟩

end Call
end Scriptlet
