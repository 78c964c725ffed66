import Scriptlet.Data.Value
import Scriptlet.Launch.Request
import Scriptlet.Log.Record

/-!
Running a text once: it is written to a temporary file in the working directory, and a terminal is
started that runs the file, waits, and deletes it. Nothing is written before all arguments are found
good, and the terminal is started only after the file is complete.
-/
namespace Scriptlet

inductive SystemFault where
  | general
  | notFound
  | notPermitted
  deriving DecidableEq, Repr

inductive LaunchFault where
  | system (cause : SystemFault) (message : String)
  | illFormed (message : String)
  deriving DecidableEq, Repr

def LaunchFault.message : LaunchFault → String
  | system _ message => message
  | illFormed message => message

structure Launcher where
  platform : Option Platform
  fault : Option LaunchFault
  deriving DecidableEq, Repr

structure LaunchAttempt where
  request : LaunchRequest
  call : Option ProcessCall
  files : FileSystem

structure Host where
  files : FileSystem
  log : List LogRecord
  launches : List LaunchAttempt

namespace Host

def withLog (host : Host) (level : LogLevel) (message : String) (journal : Journal := .silent) : Host :=
  { host with
    files := { host.files with entries := journal host.log ⟨level, message⟩ host.files }
    log := host.log ++ [⟨level, message⟩] }

def withLaunch (host : Host) (request : LaunchRequest) (call : Option ProcessCall) : Host :=
  { host with launches := host.launches ++ [⟨request, call, host.files⟩] }

end Host

/-- Starts the terminal of a request. A request that cannot become a process call is no launch. -/
def Launcher.launch (launcher : Launcher) (request : LaunchRequest) (host : Host)
    (journal : Journal := .silent) : Except LaunchFault Unit × Host :=
  let attempt (call : Option ProcessCall) : Except LaunchFault Unit × Host :=
    let host := host.withLaunch request call
    match launcher.fault with
    | some fault => (.error fault, host)
    | none =>
      match call with
      | some _ => (.ok (), host.withLog .info ("Started " ++ request.executable ++ " (pid=1)") journal)
      | none => (.ok (), host)
  match launcher.platform with
  | none => attempt none
  | some platform =>
    match request.processCall platform with
    | .error error => (.error (.illFormed error.message), host)
    | .ok call => attempt (some call)

inductive Precondition where
  | noCode
  | noLanguage
  | noDirectory
  | emptyCode
  | blankLanguage
  | unsupportedLanguage (name : String)
  | blankDirectory
  | missingDirectory (path : Path)
  deriving DecidableEq, Repr

namespace Precondition

def argument : Precondition → String
  | noCode | emptyCode => "code"
  | noLanguage | blankLanguage | unsupportedLanguage _ => "language"
  | noDirectory | blankDirectory | missingDirectory _ => "working_directory"

def message : Precondition → String
  | noCode => "Code must not be None"
  | noLanguage => "Language must not be None"
  | noDirectory => "Working directory must not be None"
  | emptyCode => "Code must not be empty"
  | blankLanguage => "Language must not be blank"
  | unsupportedLanguage name => "Unsupported language: " ++ name
  | blankDirectory => "Working directory must not be blank"
  | missingDirectory path => "Working directory does not exist: " ++ path.toString

end Precondition

inductive ExecutionError where
  | precondition (reason : Precondition)
  | lookup (path : Path) (cause : FileError)
  | write (file : Path) (cause : FileError)
  | unwritable (fault : Value.EncodingFault)
  | launch (executable : String) (cause : SystemFault)
  | illFormed (message : String)
  deriving DecidableEq, Repr

def ExecutionError.message : ExecutionError → String
  | precondition reason => reason.message
  | lookup path cause => cause.describe path.toString
  | write file _ => "Cannot create temporary file: " ++ file.toString
  | unwritable fault => fault.message
  | launch _ _ => "Cannot start terminal process"
  | illFormed message => message

structure Executor where
  settings : ExecutionSettings
  languages : List Language
  deriving DecidableEq, Repr

namespace Executor

def tempFile (executor : Executor) (language : Language) (directory : Path) : Path :=
  directory.join (.ofString (executor.settings.tempFilePrefix ++ language.extension))

def executeCommand (command : String) (file : Path) : String :=
  command ++ " \"" ++ file.toString ++ "\""

def cleanupCommand (file : Path) : String := "del /f /q \"" ++ file.toString ++ "\""

def composeCommand (executor : Executor) (language : Language) (file : Path) : String :=
  executeCommand (executor.settings.commandFor language) file ++ " & pause & " ++ cleanupCommand file

/-- What is to run, with everything that is needed to run it. Its code may turn out to be no text. -/
structure Job where
  code : Value
  language : Language
  directory : Path

def checkLanguage (executor : Executor) (name : String) : Except Precondition Language :=
  if Text.isAllBlank name.toList then .error .blankLanguage
  else match Language.parse? name with
    | some language =>
      if executor.languages.contains language then .ok language else .error (.unsupportedLanguage name)
    | none => .error (.unsupportedLanguage name)

/-- Checks all arguments: first that they are there, then the code, the language and the directory. -/
def check (executor : Executor) (files : FileSystem) (code : Value) (language directory : Option String) :
    Except ExecutionError Job := do
  if code.isNull then .error (.precondition .noCode)
  let some name := language | .error (.precondition .noLanguage)
  let some directory := directory | .error (.precondition .noDirectory)
  if code.text? = some "" then .error (.precondition .emptyCode)
  let language ← (executor.checkLanguage name).mapError .precondition
  if Text.isAllBlank directory.toList then .error (.precondition .blankDirectory)
  let path := Path.ofString directory
  match files.isDirectory path with
  | .error cause => .error (.lookup path cause)
  | .ok false => .error (.precondition (.missingDirectory path))
  | .ok true => .ok ⟨code, language, path⟩

/-- Writes the temporary file of a job. It is open before the code is found to be no text, and then it stays
empty. -/
def writeTempFile (executor : Executor) (job : Job) (host : Host) (journal : Journal := .silent) :
    Except ExecutionError Path × Host :=
  let file := executor.tempFile job.language job.directory
  match host.files.openEmpty file with
  | .error cause =>
    (.error (.write file cause),
      host.withLog .error ("Failed to write temporary script " ++ file.toString ++ ": "
        ++ cause.describe file.toString) journal)
  | .ok (location, files) =>
    match job.code.utf8 with
    | .error fault => (.error (.unwritable fault), { host with files })
    | .ok content =>
      let host := { host with files := files.put location (.file content) }
      (.ok file, host.withLog .debug ("Wrote temporary script " ++ file.toString) journal)

def start (executor : Executor) (launcher : Launcher) (job : Job) (file : Path) (host : Host)
    (journal : Journal := .silent) : Except ExecutionError Unit × Host :=
  let request :=
    Launch.request executor.settings (executor.composeCommand job.language file) job.directory
  match launcher.launch request host journal with
  | (.ok (), host) =>
    let message := "Launched " ++ request.executable ++ " in " ++ job.directory.toString
    (.ok (), host.withLog .info message journal)
  | (.error (.system cause message), host) =>
    (.error (.launch request.executable cause),
      host.withLog .error ("Failed to start terminal " ++ request.executable ++ ": " ++ message) journal)
  | (.error (.illFormed message), host) => (.error (.illFormed message), host)

def execute (executor : Executor) (launcher : Launcher) (code : Value) (language directory : Option String)
    (host : Host) (journal : Journal := .silent) : Except ExecutionError Unit × Host :=
  match executor.check host.files code language directory with
  | .error error => (.error error, host)
  | .ok job =>
    match executor.writeTempFile job host journal with
    | (.error error, host) => (.error error, host)
    | (.ok file, host) => executor.start launcher job file host journal

end Executor
end Scriptlet
