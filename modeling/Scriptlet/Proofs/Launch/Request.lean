import Scriptlet.Proofs.Launch.Words

/-!
What a request to the Windows terminal becomes on a system that starts processes with lists of words: the
command and the directory arrive as they were given.
-/
namespace Scriptlet.Launch
variable {settings : ExecutionSettings} {command : String} {directory : Path}

/-- Quotes, blanks and single backslashes of a command and of a directory survive being written on one line
and split into words again. The directory has no double quote, no backslash of either is followed by
another one or stands at the end, and none of the command is followed by a double quote. -/
theorem processCall_windowsTerminal (terminal : settings.terminal = .windowsTerminal)
    (noQuote : '"' ∉ directory.toString.toList)
    (singleInDirectory : ¬ ['\\', '\\'] <:+: directory.toString.toList)
    (insideDirectory : directory.toString.toList.getLast? ≠ some '\\')
    (singleInCommand : ¬ ['\\', '\\'] <:+: command.toList)
    (insideCommand : command.toList.getLast? ≠ some '\\')
    (unquoted : ¬ ['\\', '"'] <:+: command.toList) :
    (request settings command directory).processCall .posix =
      .ok (.words [settings.terminalExecutable, "-d", directory.toString, "cmd", "/k", command]
        (some directory.toString)) := by
  have words := splitWords_windowsTerminal terminal noQuote
    (.of_noQuote noQuote singleInDirectory insideDirectory) ⟨singleInCommand, unquoted, insideCommand⟩
  have executable : (request settings command directory).executable = settings.terminalExecutable := by
    simp [request, terminal]
  have place : (request settings command directory).directory = some directory := by
    simp [request, terminal]
  simp only [LaunchRequest.processCall, words, executable, place]
  rfl

/-- Blanks, an apostrophe and a backslash in the directory; both kinds of quotes, an ampersand and
backslashes in the command. -/
theorem processCall_windowsTerminal_quotes :
    let directory : Path := .ofString "/w/it's b\\c"
    let command := "py \"a\\b.py\" & echo 'x' \"\""
    ExecutionSettings.standard.terminal = .windowsTerminal ∧
      (request .standard command directory).processCall .posix =
        .ok (.words ["wt.exe", "-d", "/w/it's b\\c", "cmd", "/k", command] (some "/w/it's b\\c")) := by
  refine ⟨rfl, ?_⟩
  exact processCall_windowsTerminal rfl (by decide +kernel) (by decide +kernel) (by decide +kernel)
    (by decide +kernel) (by decide +kernel) (by decide +kernel)

end Scriptlet.Launch
