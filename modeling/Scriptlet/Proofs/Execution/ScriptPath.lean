import Scriptlet.Proofs.Execution.Call
import Scriptlet.Proofs.Execution.ScriptName

/-!
The path of the script in the commands of a terminal. It is the path through the working directory, but
the terminal begins in that directory: what was a path to the file where the text was written is one there
only if the working directory is found from within itself.
-/
namespace Scriptlet.Call
open Executor (Job)

variable {call : Call} {host : Host} {location : Location} {job : Job} {files after : FileSystem}
variable {content : ByteArray}

private theorem ofString_file (opens : call.Opens files job location) :
    Path.ofString (call.file job).toString = call.file job := by
  apply Path.Normal.ofString_toString
  obtain ⟨named, _⟩ := opens.names
  obtain ⟨text, _, _, directory⟩ := named.directory
  rw [file, directory]
  exact (Path.normal_ofString text).join (Path.normal_ofString _)

private theorem locateFrom_file_iff
    (accepted : ∃ given, Config.readExecution given = .ok call.executor.settings)
    (prepared : call.Prepares files job location content after) :
    after.locateFrom (some job.directory) (.ofString (call.file job).toString) = .ok location ↔
      after.LeadsBack job.directory := by
  obtain ⟨_, isDirectory⟩ := prepared.toOpens.names
  obtain ⟨home, found⟩ := FileSystem.exists_locate_of_isDirectory isDirectory
  obtain ⟨_, read⟩ := accepted
  obtain ⟨isPart, notUp⟩ := Config.isPart_tempFileName read job.language
  have located := prepared.written.same.locate prepared.located
  have whole : call.file job = _ := Executor.tempFile_eq ⟨_, read⟩ job.language job.directory
  rw [ofString_file prepared.toOpens, whole]
  rw [whole] at located
  exact FileSystem.locateFrom_join_iff ⟨isPart.2.1, notUp⟩ (prepared.written.same.locate found) located

/-- Whenever a call with accepted settings gets as far as its launcher, the path of the script stands in
quotes in both commands. Read where the terminal begins, it leads to the file that was written exactly if
the path of the working directory leads back to it, as every anchored path does. -/
theorem terminal_finds_script_iff
    (accepted : ∃ given, Config.readExecution given = .ok call.executor.settings)
    (reached : call.writes? host.files (call.run host).1 = some location) :
    ∃ job script code, script = (call.executor.tempFile job.language job.directory).toString ∧
      call.executor.check host.files call.code call.language call.directory = .ok job ∧
      (∀ attempt ∈ (call.run host).2.launches, attempt ∈ host.launches ∨ attempt.request = call.request job) ∧
      call.request job = Launch.request call.executor.settings
        (call.executor.settings.commandFor job.language ++ " \"" ++ script ++ "\" & pause & del /f /q \"" ++
          script ++ "\"") job.directory ∧
      call.code = .text code ∧
      (call.run host).2.files.entryAt? location = some (.file code.toUTF8) ∧
      ((call.run host).2.files.locateFrom (call.request job).directory (.ofString script) = .ok location ↔
        (call.run host).2.files.LeadsBack job.directory) ∧
      (job.directory.anchor ≠ .here → (call.run host).2.files.LeadsBack job.directory) := by
  obtain ⟨job, content, files, prepared, launches⟩ := (call.outcome host .silent).prepares_of_writes? reached
  have inTheEnd : (call.run host).2.files = files := by
    rcases launches with ⟨_, kept⟩ | attempts
    · exact Journal.reaches_silent_iff.mp kept
    · obtain ⟨_, _, _, _, same⟩ := attempts.of_silent
      exact same
  obtain ⟨code, given, rfl⟩ := prepared.code
  have directory : (call.request job).directory = some job.directory := by
    unfold request Launch.request
    split <;> rfl
  rw [inTheEnd]
  refine ⟨job, _, code, rfl, prepared.checked, ?_, ?_, given, ?_, ?_, ?_⟩
  · intro attempt member
    rcases launches with ⟨same, _⟩ | ⟨new, more, requested, _⟩
    · exact .inl (same ▸ member)
    · rw [more, List.mem_append, List.mem_singleton] at member
      exact member.imp_right fun own => by rw [own, requested]
  · simp only [request, Executor.composeCommand, Executor.executeCommand, Executor.cleanupCommand,
      String.append_assoc]
    rfl
  · rw [prepared.written.entryAt?, if_pos rfl]
  · rw [directory]
    exact locateFrom_file_iff accepted prepared
  · obtain ⟨_, isDirectory⟩ := prepared.toOpens.names
    obtain ⟨home, found⟩ := FileSystem.exists_locate_of_isDirectory isDirectory
    exact FileSystem.leadsBack_of_anchored (prepared.written.same.locate found)

/-- A working directory given from the root. -/
theorem terminal_finds_script_absolute :
    let call : Call := ⟨⟨.standard, Language.all⟩, ⟨none, none⟩, .text "x", some "python", some "/w/sub"⟩
    let host : Host := ⟨(FileSystem.empty ["w"]).withDirectory ["w", "sub"], [], []⟩
    (∃ given, Config.readExecution given = .ok call.executor.settings) ∧
    call.writes? host.files (call.run host).1 = some ["w", "sub", "__RunOnceTMP__.py"] ∧
    ∃ job, (call.run host).2.files.locateFrom (call.request job).directory
        (.ofString (call.executor.tempFile job.language job.directory).toString) =
      .ok ["w", "sub", "__RunOnceTMP__.py"] := by
  intro call host
  have accepted : ∃ given, Config.readExecution given = .ok call.executor.settings := ⟨.map [], rfl⟩
  have reached : call.writes? host.files (call.run host).1 = some ["w", "sub", "__RunOnceTMP__.py"] := by
    decide
  obtain ⟨job, _, _, rfl, checked, _, _, _, _, finds, anchored⟩ := terminal_finds_script_iff accepted reached
  have known : call.executor.check host.files call.code call.language call.directory =
      .ok ⟨.text "x", .python, .ofString "/w/sub"⟩ := by rfl
  rw [known] at checked
  cases checked
  exact ⟨accepted, reached, _, finds.mpr (anchored (by decide))⟩

/-- A working directory given from another one: its commands look for the script in `sub/sub`. -/
theorem terminal_misses_script_relative :
    let call : Call := ⟨⟨.standard, Language.all⟩, ⟨none, none⟩, .text "x", some "python", some "sub"⟩
    let host : Host := ⟨(FileSystem.empty ["w"]).withDirectory ["w", "sub"], [], []⟩
    (∃ given, Config.readExecution given = .ok call.executor.settings) ∧
    call.writes? host.files (call.run host).1 = some ["w", "sub", "__RunOnceTMP__.py"] ∧
    (call.run host).2.launches.map (·.request) = [Launch.request .standard
      ("python \"sub/__RunOnceTMP__.py\" & pause & del /f /q \"sub/__RunOnceTMP__.py\"") (.ofString "sub")] ∧
    ((call.run host).2.files.locateFrom (some (.ofString "sub"))
      (.ofString "sub/__RunOnceTMP__.py")).toOption = none := by
  intro call host
  exact ⟨⟨.map [], rfl⟩, by decide, by decide +kernel, by decide⟩

end Scriptlet.Call
