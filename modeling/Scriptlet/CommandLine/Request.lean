import Scriptlet.CommandLine.Switch
import Scriptlet.FileSystem
import Scriptlet.Number.Reading

/-!
What a command line asks for, after its switches and arguments are found good. They are checked in the
order in which they are given: switches first, then the file, and arguments that are too many last.
-/
namespace Scriptlet.CommandLine

/-- What a text to show is read from, once the log is open. An opened file comes with what it held then. -/
inductive Source where
  | input (content : ByteArray)
  | file (location : Location) (content : ByteArray)

inductive Task where
  | languages
  | detect (source : Source) (top : Option Int)
  | highlight (source : Source) (language : Option String)
  | run (file : Path) (language : Option String) (directory : Option Path) (acceptAll : Bool)

structure Request where
  task : Task
  config : Option Path
  verbose : Bool

inductive Invocation where
  | version
  | help (command : Option Command)
  | request (command : Command) (request : Request)

structure Surroundings where
  files : FileSystem
  input : ByteArray

namespace Surroundings

def checkEntry (around : Surroundings) (isKind : Entry → Bool) (kind other hint name : String) :
    Except UsageError Unit :=
  let refuse (reason : String) : Except UsageError Unit :=
    .error (.badValue hint (kind ++ " " ++ Text.quoted name ++ " " ++ reason))
  if !isName name then .error .noName
  else match around.files.locateWritten name with
  | .error _ => refuse "does not exist."
  | .ok location =>
    match around.files.entryAt? location with
    | none => refuse "does not exist."
    | some entry =>
      if !isKind entry then refuse ("is a " ++ other ++ ".")
      else if (around.files.refusal? location .read).isSome then refuse "is not readable."
      else .ok ()

def checkFile (around : Surroundings) : String → String → Except UsageError Unit :=
  around.checkEntry (· matches .file _) "File" "directory"

def checkDirectory (around : Surroundings) : String → String → Except UsageError Unit :=
  around.checkEntry (· matches .directory) "Directory" "file"

def readCount (hint written : String) : Except UsageError Int :=
  match Number.readWhole 10 written with
  | .error _ => .error (.badValue hint (Text.quoted written ++ " is not a valid integer range."))
  | .ok n =>
    if n < 1 then .error (.badValue hint (toString n ++ " is not in the range x>=1.")) else .ok n

def checkSwitch (around : Surroundings) (switch : Switch) (value : String) : Except UsageError Unit :=
  match switch with
  | .config => around.checkFile switch.hint value
  | .cwd => around.checkDirectory switch.hint value
  | .top => (readCount switch.hint value).map fun _ => ()
  | .language | .yes | .verbose | .version | .help => .ok ()

def checkSwitches (around : Surroundings) (words : Words) : Except UsageError Unit :=
  (words.given.map Prod.fst).eraseDups.forM fun switch =>
    around.checkSwitch switch ((words.value? switch).getD "")

def openForDisplay (around : Surroundings) (hint name : String) : Except UsageError Source :=
  if name = "-" then .ok (.input around.input)
  else if !isName name then .error .noName
  else match around.files.openWritten name with
    | .ok (location, content) => .ok (.file location content)
    | .error cause => .error (.badValue hint ("'" ++ name ++ "': " ++ cause.reason))

def task (around : Surroundings) (command : Command) (words : Words) :
    Except UsageError (Task × List String) :=
  match command, words.arguments with
  | .languages, rest => .ok (.languages, rest)
  | .detect, arguments => do
    let source ← around.openForDisplay "'[FILE]'" (arguments.headD "-")
    let top := (words.value? .top).bind fun written => (Number.readWhole 10 written).toOption
    .ok (.detect source top, arguments.drop 1)
  | .highlight, name :: rest => do
    let source ← around.openForDisplay "'FILE'" name
    .ok (.highlight source (words.value? .language), rest)
  | .run, name :: rest => do
    around.checkFile "'FILE'" name
    .ok (.run (.ofString name) (words.value? .language) ((words.value? .cwd).map .ofString)
      (words.has .yes), rest)
  | .highlight, [] | .run, [] => .error .fileMissing

def readCommand (around : Surroundings) (command : Command) (words : List String) :
    Except UsageError Invocation := do
  let words ← Words.read command.switches true none words
  if words.has .help then .ok (.help (some command))
  else
    around.checkSwitches words
    let (task, rest) ← around.task command words
    if !rest.isEmpty then .error (.tooManyArguments rest)
    else .ok (.request command
      ⟨task, (words.value? .config).map .ofString, words.has .verbose⟩)

/-- What the switches before a command ask for, if they ask for anything; the first one counts. -/
def programAnswer? (words : Words) : Option Invocation :=
  words.given.head?.map fun (switch, _) =>
    if switch = .version then .version else .help none

/-- Why a word names no command. A word that looks like a switch is read as one first. -/
def unknown (name : String) (rest : List String) : Except UsageError Invocation :=
  let unknown : UsageError :=
    .unknownCommand name (Text.Similar.suggestions name (Command.all.map Command.name))
  if name.toList.head? = some '-' then do
    let words ← Words.read programSwitches false none (name :: rest)
    match programAnswer? words with
    | some answer => .ok answer
    | none => .error unknown
  else .error unknown

/-- Reads all words. An error comes with the command whose usage line belongs to it. -/
def invocation (around : Surroundings) (words : List String) :
    Except (Option Command × UsageError) Invocation :=
  match Words.read programSwitches false none words with
  | .error error => .error (none, error)
  | .ok words =>
    match programAnswer? words, words.arguments with
    | some answer, _ => .ok answer
    | none, [] => .error (none, .noCommand)
    | none, name :: rest =>
      match Command.named? name with
      | some command => (around.readCommand command rest).mapError fun error => (some command, error)
      | none => (unknown name rest).mapError fun error => (none, error)

end Surroundings

def readsInput : List String → Bool
  | [] => false
  | name :: rest =>
    match Command.named? name with
    | some .detect => names .detect rest fun arguments => arguments.headD "-" = "-"
    | some .highlight => names .highlight rest fun arguments => arguments.head? = some "-"
    | _ => false
where
  names (command : Command) (words : List String) (test : List String → Bool) : Bool :=
    match Words.read command.switches true none words with
    | .ok words => test words.arguments
    | .error _ => false

end Scriptlet.CommandLine
