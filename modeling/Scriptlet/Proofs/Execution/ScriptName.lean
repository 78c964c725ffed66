import Scriptlet.Execution
import Scriptlet.Proofs.Config.Execution
import Scriptlet.Proofs.FileSystem.Follow

/-!
The name of the script. With accepted settings it is one more part behind the path of the working directory,
whatever characters it has, so the script lies directly in that directory. The commands have the path between
double quotes, and these stay the only ones exactly if the name has none of its own.
-/
namespace Scriptlet.Executor

variable {executor : Executor} {settings : ExecutionSettings} {value : Value} {directory : Path}

theorem tempFile_eq (accepted : ∃ given, Config.readExecution given = .ok executor.settings)
    (language : Language) (directory : Path) : executor.tempFile language directory =
      directory.join ⟨.here, [executor.settings.tempFilePrefix ++ language.extension]⟩ := by
  obtain ⟨_, read⟩ := accepted
  rw [tempFile, Path.ofString_of_isPart (Config.isPart_tempFileName read language).1]

/-- The script never leaves the working directory: its path is that of the directory and one more part, which is
the given beginning and the extension as they are, and wherever the directory is found the script lies in it. -/
theorem tempFile_within (read : Config.readExecution value = .ok settings) (languages : List Language)
    (language : Language) (directory : Path) :
    let file := tempFile ⟨settings, languages⟩ language directory
    let name := settings.tempFilePrefix ++ language.extension
    file.parent = directory ∧ file.name = name ∧
    (∀ fields given, value = .map fields → Value.lookup? fields "temp_file_prefix" = some (.text given) →
      name = given ++ language.extension) ∧
    ∀ (files : FileSystem) (home location : Location), files.locate directory = .ok home →
      files.locate file = .ok location → location = home ++ [name] := by
  intro file name
  have whole : file = directory.join ⟨.here, [name]⟩ := tempFile_eq ⟨value, read⟩ language directory
  have isPart := Config.isPart_tempFileName read language
  refine ⟨?_, ?_, ?_, fun files home location found there => ?_⟩
  · rw [whole, Path.join, Path.parent, List.dropLast_concat]
  · rw [whole, Path.join, Path.name, List.getLast?_concat, Option.getD_some]
  · rintro fields given rfl written
    rw [← Config.tempFilePrefix_of_readExecution read written]
  · rw [← FileSystem.place_of_locate there, whole, Path.place_join_name, FileSystem.place_of_locate found]
    exact Location.next_of_plain ⟨isPart.1.2.1, isPart.2⟩

theorem tempFile_within_dots :
    let settings := { ExecutionSettings.standard with tempFilePrefix := ".. \u00a0" }
    let file := tempFile ⟨settings, Language.all⟩ .go (.ofString "../a")
    Config.readExecution (.map [(.text "temp_file_prefix", .text ".. \u00a0")]) = .ok settings ∧
      file.parent = .ofString "../a" ∧ file.name = ".. \u00a0.go" := by
  intro settings file
  have read : Config.readExecution (.map [(.text "temp_file_prefix", .text ".. \u00a0")]) = .ok settings := by
    rfl
  obtain ⟨parent, name, _⟩ := tempFile_within read Language.all .go (.ofString "../a")
  exact ⟨read, parent, name⟩

private theorem length_splitOn (mark : Char) (text : List Char) : (text.splitOn mark).length = text.count mark + 1 := by
  induction text with
  | nil => rfl
  | cons c rest ih =>
    rw [List.splitOn_cons_eq_if_modifyHead, List.count_cons]
    split
    · rw [List.length_cons, ih]
    · rw [List.length_modifyHead, ih, Nat.add_zero]

/-- The path stands twice between double quotes, with its own pieces. -/
theorem splitOn_composeCommand (executor : Executor) (language : Language) (file : Path)
    (plain : '"' ∉ (executor.settings.commandFor language).toList) :
    (executor.composeCommand language file).toList.splitOn '"' =
      (executor.settings.commandFor language ++ " ").toList :: file.toString.toList.splitOn '"' ++
        " & pause & del /f /q ".toList :: file.toString.toList.splitOn '"' ++ [[]] := by
  have marks : (executor.composeCommand language file).toList =
      (executor.settings.commandFor language ++ " ").toList ++ '"' :: (file.toString.toList ++ '"' ::
        (" & pause & del /f /q ".toList ++ '"' :: (file.toString.toList ++ '"' :: []))) := by
    simp [composeCommand, executeCommand, cleanupCommand, String.toList_append]
  have plainLead : '"' ∉ (executor.settings.commandFor language ++ " ").toList := by
    simpa [String.toList_append] using plain
  rw [marks, List.splitOn_append_cons_self_of_not_mem plainLead, List.splitOn_append_cons_self,
    List.splitOn_append_cons_self_of_not_mem (by decide), List.splitOn_append_cons_self, List.splitOn_nil]
  simp

theorem count_tempFile (executor : Executor) (accepted : ∃ given, Config.readExecution given = .ok executor.settings)
    (language : Language) (plain : '"' ∉ directory.toString.toList) :
    (executor.tempFile language directory).toString.toList.count '"' =
      executor.settings.tempFilePrefix.toList.count '"' := by
  obtain ⟨lead, whole, chars⟩ :=
    Path.exists_toString_join directory (executor.settings.tempFilePrefix ++ language.extension)
  have plainLead : '"' ∉ lead.toList := fun member => (chars _ member).elim (by decide) plain
  have plainExtension : '"' ∉ language.extension.toList := by cases language <;> decide
  rw [tempFile_eq accepted, whole, String.toList_append, String.toList_append, List.count_append, List.count_append,
    List.count_eq_zero.mpr plainLead, List.count_eq_zero.mpr plainExtension, Nat.zero_add, Nat.add_zero]

/-- The path of the script stays one piece between the double quotes exactly if the beginning of its name has none;
each one in there makes two pieces more, outside of the quotes that are meant. -/
theorem composeCommand_pieces_iff (read : Config.readExecution value = .ok settings) (languages : List Language)
    (language : Language) (plainCommand : '"' ∉ (settings.commandFor language).toList)
    (plainDirectory : '"' ∉ directory.toString.toList) :
    let executor : Executor := ⟨settings, languages⟩
    let file := executor.tempFile language directory
    let pieces := (executor.composeCommand language file).toList.splitOn '"'
    (pieces = [settings.commandFor language ++ " ", file.toString, " & pause & del /f /q ", file.toString, ""].map
      String.toList ↔ '"' ∉ settings.tempFilePrefix.toList) ∧
    pieces = (settings.commandFor language ++ " ").toList :: file.toString.toList.splitOn '"' ++
      " & pause & del /f /q ".toList :: file.toString.toList.splitOn '"' ++ [[]] ∧
    pieces.length = 5 + 2 * settings.tempFilePrefix.toList.count '"' := by
  intro executor file pieces
  have split := splitOn_composeCommand executor language file plainCommand
  have marks : file.toString.toList.count '"' = settings.tempFilePrefix.toList.count '"' :=
    count_tempFile executor ⟨value, read⟩ language plainDirectory
  have length : pieces.length = 5 + 2 * settings.tempFilePrefix.toList.count '"' := by
    simp only [pieces, split, List.length_append, List.length_cons, List.length_nil, length_splitOn, marks]
    omega
  refine ⟨?_, split, length⟩
  constructor
  · intro five
    rw [five, List.length_map] at length
    exact List.count_eq_zero.mp (by simp only [List.length_cons, List.length_nil] at length; omega)
  · intro plain
    have whole : file.toString.toList.splitOn '"' = [file.toString.toList] :=
      List.splitOn_eq_singleton (List.count_eq_zero.mp (marks.trans (List.count_eq_zero.mpr plain)))
    simp only [pieces, split, whole]
    rfl

theorem composeCommand_pieces_iff_apostrophe :
    let settings := { ExecutionSettings.standard with tempFilePrefix := "it's & " }
    let executor : Executor := ⟨settings, Language.all⟩
    Config.readExecution (.map [(.text "temp_file_prefix", .text "it's & ")]) = .ok settings ∧
      '"' ∉ (settings.commandFor .python).toList ∧ '"' ∉ (Path.ofString "/w x").toString.toList ∧
      (executor.composeCommand .python (executor.tempFile .python (.ofString "/w x"))).toList.splitOn '"' =
        ["python ", "/w x/it's & .py", " & pause & del /f /q ", "/w x/it's & .py", ""].map String.toList := by
  intro settings executor
  have read : Config.readExecution (.map [(.text "temp_file_prefix", .text "it's & ")]) = .ok settings := by
    rfl
  have plainCommand : '"' ∉ (settings.commandFor .python).toList := by decide
  have plainDirectory : '"' ∉ (Path.ofString "/w x").toString.toList := by decide
  have file : (executor.tempFile .python (.ofString "/w x")).toString = "/w x/it's & .py" := by decide
  have command : settings.commandFor .python ++ " " = "python " := by rfl
  have five := (composeCommand_pieces_iff read Language.all .python plainCommand plainDirectory).1.mpr (by decide)
  rw [file, command] at five
  exact ⟨read, plainCommand, plainDirectory, five⟩

/-- Double quotes are accepted at the beginning of names, and then a command of its own stands outside of quotes. -/
theorem composeCommand_runs_more :
    let settings := { ExecutionSettings.standard with tempFilePrefix := "\" & calc & \"" }
    let executor : Executor := ⟨settings, Language.all⟩
    Config.readExecution (.map [(.text "temp_file_prefix", .text "\" & calc & \"")]) = .ok settings ∧
      '"' ∉ (settings.commandFor .python).toList ∧ '"' ∉ (Path.ofString "d").toString.toList ∧
      (executor.composeCommand .python (executor.tempFile .python (.ofString "d"))).toList.splitOn '"' =
        ["python ", "d/", " & calc & ", ".py", " & pause & del /f /q ", "d/", " & calc & ", ".py", ""].map
          String.toList := by
  decide

end Scriptlet.Executor
