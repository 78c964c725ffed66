import Scriptlet.Confidence
import Scriptlet.Language
import Scriptlet.Path

/-!
Settings of detection, of the language selector, of execution and of logging, with their defaults.
-/
namespace Scriptlet

structure DetectionSettings where
  languages : List Language
  confidence : ConfidenceRange
  deriving DecidableEq, Repr

inductive SelectorMode where
  | alwaysShow
  | hideWhenHighConfidence
  | showOnlyWhenNoConfidence
  deriving DecidableEq, Repr

structure SelectorSettings where
  mode : SelectorMode
  confirm : Bool
  deriving DecidableEq, Repr

inductive Terminal where
  | windowsTerminal
  | cmd
  deriving DecidableEq, Repr

structure ExecutionSettings where
  tempFilePrefix : String
  terminal : Terminal
  windowsTerminalExecutable : String
  cmdExecutable : String
  commands : List (Language × String)
  deriving DecidableEq, Repr

inductive LogThreshold where
  | debug
  | info
  | warning
  | error
  deriving DecidableEq, Repr

inductive LogFormat where
  | console
  | json
  deriving DecidableEq, Repr

structure LogSettings where
  level : LogThreshold
  format : LogFormat
  file : Option Path
  rotation : String
  retention : String
  deriving DecidableEq, Repr

structure Settings where
  detection : DetectionSettings
  selector : SelectorSettings
  execution : ExecutionSettings
  logging : LogSettings
  deriving DecidableEq, Repr

namespace SelectorMode

def all : List SelectorMode := [alwaysShow, hideWhenHighConfidence, showOnlyWhenNoConfidence]

def name : SelectorMode → String
  | alwaysShow => "always_show"
  | hideWhenHighConfidence => "hide_when_high_confidence"
  | showOnlyWhenNoConfidence => "show_only_when_no_confidence"

end SelectorMode

namespace Terminal

def all : List Terminal := [windowsTerminal, cmd]

def name : Terminal → String
  | windowsTerminal => "windows_terminal"
  | cmd => "cmd"

end Terminal

namespace LogThreshold

def all : List LogThreshold := [debug, info, warning, error]

def name : LogThreshold → String
  | debug => "DEBUG"
  | info => "INFO"
  | warning => "WARNING"
  | error => "ERROR"

end LogThreshold

namespace LogFormat

def all : List LogFormat := [console, json]

def name : LogFormat → String
  | console => "console"
  | json => "json"

end LogFormat

def DetectionSettings.standard : DetectionSettings := ⟨Language.all, .standard⟩

def SelectorSettings.standard : SelectorSettings := ⟨.hideWhenHighConfidence, false⟩

def Language.defaultCommand : Language → String
  | .bat => "cmd /c"
  | .powershell => "powershell -ExecutionPolicy Bypass -File"
  | .pwsh => "pwsh -ExecutionPolicy Bypass -File"
  | .python => "python"
  | .lua => "lua"
  | .nim => "nim r"
  | .php => "php"
  | .javascript => "node"
  | .typescript => "npx ts-node"
  | .go => "go run"
  | .vbscript => "cscript //nologo"

namespace ExecutionSettings

def defaultCommands : List (Language × String) :=
  Language.all.map fun language => (language, language.defaultCommand)

def standard : ExecutionSettings where
  tempFilePrefix := "__RunOnceTMP__"
  terminal := .windowsTerminal
  windowsTerminalExecutable := "wt.exe"
  cmdExecutable := "cmd.exe"
  commands := defaultCommands

def commandFor (settings : ExecutionSettings) (language : Language) : String :=
  (settings.commands.lookup language).getD language.defaultCommand

def terminalExecutable (settings : ExecutionSettings) : String :=
  match settings.terminal with
  | .cmd => settings.cmdExecutable
  | .windowsTerminal => settings.windowsTerminalExecutable

end ExecutionSettings

def LogSettings.standard : LogSettings := ⟨.warning, .console, none, "10 MB", "7 days"⟩

def Settings.standard : Settings := ⟨.standard, .standard, .standard, .standard⟩

end Scriptlet
