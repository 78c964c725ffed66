import Scriptlet.Config.Sections
import Scriptlet.Proofs.Execution.Call
import Scriptlet.Proofs.FileSystem.Follow
import Scriptlet.Proofs.Launch.Words
import Scriptlet.Proofs.Path.Text

/-!
The failures that a call promises are arguments that are refused, a file that cannot be written and a
terminal that the system does not start. Others get through: a directory that cannot be looked up, for the length of
a name or because a directory above it may not be searched, a code that is no text, and a command line that cannot be
split into words.
-/
namespace Scriptlet

def ExecutionError.isPromised : ExecutionError → Bool
  | .precondition _ | .write _ _ | .launch _ _ => true
  | .lookup _ _ | .unwritable _ | .illFormed _ => false

/-- A launcher of process calls in words, which nothing but the system itself refuses. -/
def Launcher.posix (refusal : Option (SystemFault × String)) : Launcher :=
  ⟨some .posix, refusal.map fun (cause, message) => .system cause message⟩

namespace Call
open Executor (Job)

variable {call : Call} {host : Host} {job : Job} {refusal : Option (SystemFault × String)}

private theorem run_refused {reason : Precondition}
    (refused : call.executor.check host.files call.code call.language call.directory =
      .error (.precondition reason)) : (call.run host).1 = .error (.precondition reason) := by
  rw [run, Executor.execute, refused]

private theorem run_lookup {cause : FileError} (named : call.Names job)
    (failed : host.files.isDirectory job.directory = .error cause) :
    (call.run host).1 = .error (.lookup job.directory cause) := by
  have checked := named.check host.files
  rw [failed] at checked
  rw [run, Executor.execute, checked]

private theorem run_unwritten {cause : FileError}
    (checked : call.executor.check host.files call.code call.language call.directory = .ok job)
    (failed : host.files.openEmpty (call.file job) = .error cause) :
    (call.run host).1 = .error (.write (call.file job) cause) := by
  rw [run_of_check checked, failed]

private theorem run_unwritable {fault : Value.EncodingFault} {opened : Location × FileSystem}
    (checked : call.executor.check host.files call.code call.language call.directory = .ok job)
    (found : host.files.openEmpty (call.file job) = .ok opened) (broken : job.code.utf8 = .error fault) :
    (call.run host).1 = .error (.unwritable fault) := by
  rw [run_of_check checked, found]
  simp only [broken]

private theorem run_posix {opened : Location × FileSystem} {content : ByteArray}
    (posix : call.launcher = .posix refusal)
    (checked : call.executor.check host.files call.code call.language call.directory = .ok job)
    (found : host.files.openEmpty (call.file job) = .ok opened) (encoded : job.code.utf8 = .ok content) :
    (call.run host).1 = match Launch.splitWords (call.request job).arguments with
      | .error fault => .error (.illFormed fault.message)
      | .ok _ => match refusal with
        | none => .ok ()
        | some (cause, _) => .error (.launch (call.request job).executable cause) := by
  have request : Launch.request call.executor.settings (call.executor.composeCommand job.language (call.file job))
      job.directory = call.request job := rfl
  rw [run_of_check checked, found]
  simp only [encoded, Executor.start, Launcher.launch, posix, Launcher.posix, request,
    LaunchRequest.processCall, bind, Except.bind]
  cases Launch.splitWords (call.request job).arguments with
  | error fault => rfl
  | ok words => cases refusal <;> rfl

private theorem isPlain_parts {text : String} (plain : Launch.IsPlain text.toList) :
    ∀ part ∈ (Path.ofString text).parts, Launch.IsPlain part.toList := by
  intro part found
  exact ⟨fun member => plain.1 (Path.mem_of_mem_parts found member),
    fun member => plain.2.1 (Path.mem_of_mem_parts found member),
    fun member => plain.2.2 (Path.mem_of_mem_parts found member)⟩

private theorem isPlain_toString {path : Path} (plain : ∀ part ∈ path.parts, Launch.IsPlain part.toList) :
    Launch.IsPlain path.toString.toList := by
  have inPart {c : Char} (own : c ≠ '/' ∧ c ≠ '.') (member : c ∈ path.toString.toList) :
      ∃ part ∈ path.parts, c ∈ part.toList :=
    ((Path.mem_toString member).resolve_left own.1).resolve_left own.2
  refine ⟨fun member => ?_, fun member => ?_, fun member => ?_⟩
  · obtain ⟨part, found, inside⟩ := inPart (by decide) member
    exact (plain part found).1 inside
  · obtain ⟨part, found, inside⟩ := inPart (by decide) member
    exact (plain part found).2.1 inside
  · obtain ⟨part, found, inside⟩ := inPart (by decide) member
    exact (plain part found).2.2 inside

private theorem isPlain_tempFile {executor : Executor} {directory : Path} (language : Language)
    (plain : ∀ part ∈ directory.parts, Launch.IsPlain part.toList)
    (plainPrefix : Launch.IsPlain executor.settings.tempFilePrefix.toList) :
    Launch.IsPlain (executor.tempFile language directory).toString.toList := by
  have plainName : Launch.IsPlain (executor.settings.tempFilePrefix ++ language.extension).toList := by
    have plainExtension : Launch.IsPlain language.extension.toList := by cases language <;> decide
    rw [String.toList_append]
    refine ⟨?_, Launch.isMild_append.mpr ⟨plainPrefix.2, plainExtension.2⟩⟩
    rw [List.mem_append, not_or]
    exact ⟨plainPrefix.1, plainExtension.1⟩
  apply isPlain_toString
  intro part found
  unfold Executor.tempFile Path.join at found
  split at found
  · rcases List.mem_append.mp found with inDirectory | inName
    · exact plain part inDirectory
    · exact isPlain_parts plainName part inName
  · exact isPlain_parts plainName part found

private theorem exists_words (plain : ∀ part ∈ job.directory.parts, Launch.IsPlain part.toList)
    (plainPrefix : Launch.IsPlain call.executor.settings.tempFilePrefix.toList)
    (plainCommand : Launch.IsPlain (call.executor.settings.commandFor job.language).toList) :
    ∃ words, Launch.splitWords (call.request job).arguments = .ok words := by
  have plainFile := isPlain_tempFile job.language plain plainPrefix
  have whole (file : Path) : (call.executor.composeCommand job.language file).toList =
      (call.executor.settings.commandFor job.language).toList ++ " \"".toList ++ file.toString.toList ++
        "\" & pause & del /f /q \"".toList ++ file.toString.toList ++ "\"".toList := by
    simp [Executor.composeCommand, Executor.executeCommand, Executor.cleanupCommand]
  unfold request file
  apply Launch.exists_splitWords_request
  · simp only [whole, Launch.isMild_append]
    exact ⟨⟨⟨⟨⟨plainCommand.2, by decide⟩, plainFile.2⟩, by decide⟩, plainFile.2⟩, by decide⟩
  · have first : " \"".toList.count '"' = 1 := by decide
    have middle : "\" & pause & del /f /q \"".toList.count '"' = 2 := by decide
    have last : "\"".toList.count '"' = 1 := by decide
    simp only [whole, List.count_append, List.count_eq_zero.mpr plainCommand.1,
      List.count_eq_zero.mpr plainFile.1, first, middle, last]
    decide
  · exact isPlain_toString plain

theorem escaped_iff (posix : call.launcher = .posix refusal) :
    (∃ error, (call.run host).1 = .error error ∧ error.isPromised = false) ↔
      (∃ job cause, call.Names job ∧ host.files.isDirectory job.directory = .error cause) ∨
      ∃ job opened, call.Names job ∧ host.files.isDirectory job.directory = .ok true ∧
        host.files.openEmpty (call.file job) = .ok opened ∧
        ((∃ fault, job.code.utf8 = .error fault) ∨ ∃ content fault, job.code.utf8 = .ok content ∧
          Launch.splitWords (call.request job).arguments = .error fault) := by
  constructor
  · rintro ⟨error, failed, escaped⟩
    rcases call.check_cases host.files with
      ⟨reason, refused⟩ | ⟨job, named, ⟨cause, missed, _⟩ | ⟨found, checked⟩⟩
    · rw [run_refused refused] at failed
      cases failed
      cases escaped
    · exact .inl ⟨job, cause, named, missed⟩
    · cases opened : host.files.openEmpty (call.file job) with
      | error cause =>
        rw [run_unwritten checked opened] at failed
        cases failed
        cases escaped
      | ok there =>
        refine .inr ⟨job, there, named, found, opened, ?_⟩
        cases encoded : job.code.utf8 with
        | error fault => exact .inl ⟨fault, rfl⟩
        | ok content =>
          rw [run_posix posix checked opened encoded] at failed
          cases split : Launch.splitWords (call.request job).arguments with
          | error fault => exact .inr ⟨content, fault, rfl, rfl⟩
          | ok words =>
            rw [split] at failed
            cases refusal <;> cases failed
            cases escaped
  · rintro (⟨job, cause, named, missed⟩ | ⟨job, opened, named, found, there, unfinished⟩)
    · exact ⟨_, run_lookup named missed, rfl⟩
    · have checked := named.check host.files
      rw [found] at checked
      rcases unfinished with ⟨fault, broken⟩ | ⟨content, fault, encoded, split⟩
      · exact ⟨.unwritable fault, run_unwritable checked there broken, rfl⟩
      · refine ⟨.illFormed fault.message, ?_, rfl⟩
        rw [run_posix posix checked there encoded, split]

theorem isPromised_of_plain (call : Call) (posix : call.launcher = .posix refusal)
    (encodes : ∀ fault, call.code.utf8 = .error fault → call.code = .null)
    (searchable : ∀ location, host.files.refusal? location .search = none)
    (plain : ∀ text ∈ call.directory, FileSystem.IsShort (.ofString text) ∧ Launch.IsPlain text.toList)
    (plainPrefix : Launch.IsPlain call.executor.settings.tempFilePrefix.toList)
    (plainCommand : ∀ language, Launch.IsPlain (call.executor.settings.commandFor language).toList)
    {error : ExecutionError} (failed : (call.run host).1 = .error error) : error.isPromised = true := by
  have known {job : Job} (named : call.Names job) : FileSystem.IsShort job.directory ∧
      ∀ part ∈ job.directory.parts, Launch.IsPlain part.toList := by
    obtain ⟨text, given, _, path⟩ := named.directory
    obtain ⟨short, plainText⟩ := plain text given
    rw [path]
    exact ⟨short, isPlain_parts plainText⟩
  rw [← Bool.not_eq_false]
  intro escaped
  rcases (escaped_iff posix).mp ⟨error, failed, escaped⟩ with
    ⟨job, cause, named, missed⟩ | ⟨job, _, named, _, _, ⟨fault, broken⟩ | ⟨_, fault, _, split⟩⟩
  · rcases FileSystem.cause_of_isDirectory missed with ⟨_, long⟩ | ⟨place, reason, _, refused⟩
    · exact long (known named).1
    · rw [searchable place] at refused
      cases refused
  · have null := encodes fault (named.code ▸ broken)
    have given := named.given
    rw [← named.code, null] at given
    cases given
  · obtain ⟨words, splits⟩ := exists_words (known named).2 plainPrefix (plainCommand _)
    rw [split] at splits
    cases splits

/-- On a system with process calls in words, an error other than the promised ones comes up for a text exactly if the
arguments are good but the directory cannot be looked up, or the file is written but the command line of the terminal
cannot be split. The directory cannot be looked up only if a name is too long or a directory may not be searched.
None of this happens where all directories may be searched, for names within the limits of the system and without
quotes and backslashes. -/
theorem escapes_iff (executor : Executor) (refusal : Option (SystemFault × String))
    (code language directory : Option String) (host : Host) :
    let call : Call := ⟨executor, .posix refusal, code.elim .null .text, language, directory⟩
    ((∃ error, (call.run host).1 = .error error ∧ error.isPromised = false) ↔
      (∃ job cause, call.Names job ∧ host.files.isDirectory job.directory = .error cause) ∨
      ∃ job opened fault, call.Names job ∧ host.files.isDirectory job.directory = .ok true ∧
        host.files.openEmpty (executor.tempFile job.language job.directory) = .ok opened ∧
        Launch.splitWords (call.request job).arguments = .error fault) ∧
    (∀ path cause, host.files.isDirectory path = .error cause →
      (cause = .nameTooLong ∧ ¬ FileSystem.IsShort path) ∨
        ∃ place reason, cause = .refused reason ∧ host.files.refusal? place .search = some reason) ∧
    ((∀ location, host.files.refusal? location .search = none) →
      (∀ text ∈ directory, FileSystem.IsShort (.ofString text) ∧ Launch.IsPlain text.toList) →
      Launch.IsPlain executor.settings.tempFilePrefix.toList →
      (∀ language, Launch.IsPlain (executor.settings.commandFor language).toList) →
      ∀ error, (call.run host).1 = .error error → error.isPromised = true) := by
  intro call
  have encodes (fault : Value.EncodingFault) (broken : call.code.utf8 = .error fault) : call.code = .null := by
    cases code with
    | none => rfl
    | some s => cases broken
  refine ⟨?_, fun path cause => FileSystem.cause_of_isDirectory, fun searchable plain plainPrefix plainCommand error =>
    isPromised_of_plain call rfl encodes searchable plain plainPrefix plainCommand⟩
  refine (escaped_iff rfl).trans (or_congr_right ⟨?_, ?_⟩)
  · rintro ⟨job, opened, named, found, there, ⟨fault, broken⟩ | ⟨_, fault, _, split⟩⟩
    · have given := named.given
      rw [← named.code, encodes fault (named.code ▸ broken)] at given
      cases given
    · exact ⟨job, opened, fault, named, found, there, split⟩
  · rintro ⟨job, opened, fault, named, found, there, split⟩
    refine ⟨job, opened, named, found, there, ?_⟩
    cases encoded : job.code.utf8 with
    | error broken => exact .inl ⟨broken, rfl⟩
    | ok content => exact .inr ⟨content, fault, rfl, split⟩

/-- The default settings in a directory within the limits: no matter whether the terminal starts. -/
theorem escapes_iff_standard :
    let call : Call := ⟨⟨.standard, Language.all⟩, .posix (some (.notFound, "wt.exe")), .text "x",
      some "python", some "/w/a b"⟩
    let host : Host := ⟨(FileSystem.empty ["w"]).withDirectory ["w", "a b"], [], []⟩
    FileSystem.IsShort (.ofString "/w/a b") ∧ Launch.IsPlain "/w/a b".toList ∧
      Launch.IsPlain ExecutionSettings.standard.tempFilePrefix.toList ∧
      (∀ language, Launch.IsPlain (ExecutionSettings.standard.commandFor language).toList) ∧
      ∀ error, (call.run host).1 = .error error → error.isPromised = true := by
  intro call host
  have short : FileSystem.IsShort (.ofString "/w/a b") := by decide
  have plain : Launch.IsPlain "/w/a b".toList := by decide
  have plainPrefix : Launch.IsPlain ExecutionSettings.standard.tempFilePrefix.toList := by decide
  have plainCommand (language : Language) :
      Launch.IsPlain (ExecutionSettings.standard.commandFor language).toList := by
    cases language <;> decide
  refine ⟨short, plain, plainPrefix, plainCommand, ?_⟩
  refine (escapes_iff ⟨.standard, Language.all⟩ (some (.notFound, "wt.exe")) (some "x") (some "python")
    (some "/w/a b") host).2.2 (fun _ => rfl) ?_ plainPrefix plainCommand
  rintro text ⟨⟩
  exact ⟨short, plain⟩

/-- With accepted settings, a double quote in the name of a directory leaves the command line with an open
quote. The file is written and stays, no terminal is started, and the error is none of the promised ones. -/
theorem escapes_quoted_directory :
    let call : Call := ⟨⟨.standard, Language.all⟩, .posix none, .text "x", some "python", some "q\"q"⟩
    let host : Host := ⟨(FileSystem.empty ["w"]).withDirectory ["w", "q\"q"], [], []⟩
    (∃ given, Config.readExecution given = .ok call.executor.settings) ∧
    ((call.run host).1 = .error (.illFormed "No closing quotation") ∧
      (call.run host).2.launches.length = 0 ∧
      (call.run host).2.files.entryAt? ["w", "q\"q", "__RunOnceTMP__.py"] = some (.file "x".toUTF8)) ∧
    (ExecutionError.illFormed "No closing quotation").isPromised = false := by
  refine ⟨⟨.map [], rfl⟩, ?_, rfl⟩
  decide

end Call
end Scriptlet
