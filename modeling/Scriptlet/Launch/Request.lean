import Scriptlet.Config.Settings
import Scriptlet.Launch.Words

/-!
Requests to start a terminal, and the process call that each platform makes of one.
-/
namespace Scriptlet

structure LaunchRequest where
  executable : String
  arguments : String
  directory : Option Path
  deriving DecidableEq, Repr

inductive Platform where
  | posix
  | windows
  deriving DecidableEq, Repr

inductive ProcessCall where
  /-- A list of words, started in a session of its own. -/
  | words (words : List String) (directory : Option String)
  /-- One command line, started in a console of its own. -/
  | line (line : String) (directory : Option String)
  deriving DecidableEq, Repr

namespace Launch

/-- A command in a terminal that stays open after it. In the Windows terminal the quotes of the command
are escaped. -/
def request (settings : ExecutionSettings) (command : String) (directory : Path) : LaunchRequest :=
  match settings.terminal with
  | .cmd => ⟨settings.terminalExecutable, "/k \"" ++ command ++ "\"", some directory⟩
  | .windowsTerminal =>
    let escaped := String.ofList (command.toList.flatMap fun c => if c = '"' then ['\\', '"'] else [c])
    ⟨settings.terminalExecutable,
      "-d \"" ++ directory.toString ++ "\" cmd /k \"" ++ escaped ++ "\"", some directory⟩

end Launch

def LaunchRequest.processCall (request : LaunchRequest) : Platform → Except Launch.SplitError ProcessCall
  | .windows =>
    .ok (.line ("\"" ++ request.executable ++ "\" " ++ request.arguments)
      (request.directory.map Path.toString))
  | .posix => do
    let words ← Launch.splitWords request.arguments
    .ok (.words (request.executable :: words) (request.directory.map Path.toString))

end Scriptlet
