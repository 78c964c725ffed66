import Scriptlet.Text.Quoted
import Scriptlet.Text.Similar

/-!
Commands, the switches that each of them knows, and the reading of words into switches and arguments.
-/
namespace Scriptlet.CommandLine

def programName : String := "runonce"

inductive Switch where
  | top
  | language
  | cwd
  | yes
  | config
  | verbose
  | version
  | help
  deriving DecidableEq, Repr

namespace Switch

def longName : Switch → String
  | top => "--top"
  | language => "--language"
  | cwd => "--cwd"
  | yes => "--yes"
  | config => "--config"
  | verbose => "--verbose"
  | version => "--version"
  | help => "--help"

def shortName? : Switch → Option String
  | top => some "-n"
  | language => some "-l"
  | yes => some "-y"
  | config => some "-c"
  | verbose => some "-v"
  | cwd | version | help => none

def names (switch : Switch) : List String := switch.longName :: switch.shortName?.toList

def takesValue : Switch → Bool
  | top | language | cwd | config => true
  | yes | verbose | version | help => false

def hint (switch : Switch) : String := " / ".intercalate (switch.names.map Text.quoted)

end Switch

inductive Command where
  | languages
  | detect
  | highlight
  | run
  deriving DecidableEq, Repr

namespace Command

def name : Command → String
  | languages => "languages"
  | detect => "detect"
  | highlight => "highlight"
  | run => "run"

def all : List Command := [languages, detect, highlight, run]

def named? (name : String) : Option Command := all.find? (·.name = name)

def switches : Command → List Switch
  | languages => [.config, .verbose, .help]
  | detect => [.top, .config, .verbose, .help]
  | highlight => [.language, .config, .verbose, .help]
  | run => [.language, .cwd, .yes, .config, .verbose, .help]

def fileArgument? : Command → Option String
  | languages => none
  | detect => some "[FILE]"
  | highlight | run => some "FILE"

end Command

def programSwitches : List Switch := [.version, .help]

inductive UsageError where
  | noCommand
  | unknownCommand (name : String) (similar : List String)
  | unknownSwitch (name : String) (similar : List String)
  | valueMissing (name : String)
  | valueNotWanted (name : String)
  | fileMissing
  | tooManyArguments (arguments : List String)
  | badValue (hint problem : String)
  | noName
  deriving DecidableEq, Repr

namespace UsageError

def suggestion (similar : List String) : String :=
  match similar with
  | [] => ""
  | [name] => " Did you mean " ++ Text.quoted name ++ "?"
  | names =>
    " (Did you mean one of: " ++ ", ".intercalate ((names.mergeSort (· ≤ ·)).map Text.quoted) ++ "?)"

def message : UsageError → String
  | noCommand => "Missing command."
  | unknownCommand name similar => "No such command " ++ Text.quoted name ++ "." ++ suggestion similar
  | unknownSwitch name similar => "No such option " ++ Text.quoted name ++ "." ++ suggestion similar
  | valueMissing name => "Option " ++ Text.quoted name ++ " requires an argument."
  | valueNotWanted name => "Option " ++ Text.quoted name ++ " does not take a value."
  | fileMissing => "Missing argument 'FILE'."
  | tooManyArguments arguments =>
    "Got unexpected extra argument" ++ (if arguments.length = 1 then "" else "s")
      ++ " (" ++ " ".intercalate arguments ++ ")"
  | badValue hint problem => "Invalid value for " ++ hint ++ ": " ++ problem
  | noName => "embedded null byte"

def showsUsage : UsageError → Bool
  | valueMissing _ | valueNotWanted _ => false
  | _ => true

end UsageError

def usageName : Option Command → String
  | none => programName
  | some command => programName ++ " " ++ command.name

def usageLine (command : Option Command) : String :=
  "Usage: " ++ usageName command ++ " [OPTIONS]" ++
    (match command with
     | none => " COMMAND [ARGS]..."
     | some command =>
       match command.fileArgument? with
       | some argument => " " ++ argument
       | none => "") ++ "\n"

def UsageError.report (error : UsageError) (command : Option Command) : String :=
  (if error.showsUsage then
    usageLine command ++ "Try '" ++ usageName command ++ " --help' for help.\n\n"
   else "") ++ "Error: " ++ error.message ++ "\n"

structure Words where
  given : List (Switch × String)
  arguments : List String
  deriving DecidableEq, Repr

namespace Words

def giving (words : Words) (given : List (Switch × String)) : Words :=
  { words with given := given ++ words.given }

/-- The value of a switch; of several values the last one counts. -/
def value? (words : Words) (switch : Switch) : Option String := words.given.reverse.lookup switch

def has (words : Words) (switch : Switch) : Bool := (words.value? switch).isSome

abbrev Awaited := Option (Switch × String)

/-- Reads one-letter switches after a dash; the rest of the word is the value of one that takes a value. -/
def readLetters (known : List Switch) : List Char → Except UsageError (List (Switch × String) × Awaited)
  | [] => .ok ([], none)
  | letter :: rest =>
    let name := String.ofList ['-', letter]
    match known.find? (·.names.contains name) with
    | none => .error (.unknownSwitch name [])
    | some switch =>
      if switch.takesValue then
        if rest.isEmpty then .ok ([], some (switch, name))
        else .ok ([(switch, String.ofList rest)], none)
      else do
        let (given, awaited) ← readLetters known rest
        .ok ((switch, "") :: given, awaited)

def readSwitch (known : List Switch) (word : List Char) :
    Except UsageError (List (Switch × String) × Awaited) :=
  let isLong := ['-', '-'].isPrefixOf word
  let name := String.ofList (word.takeWhile (· ≠ '='))
  match if isLong then known.find? (·.names.contains name) else none with
  | some switch =>
    match switch.takesValue, word.dropWhile (· ≠ '=') with
    | true, '=' :: value => .ok ([(switch, String.ofList value)], none)
    | true, _ => .ok ([], some (switch, name))
    | false, '=' :: _ => .error (.valueNotWanted name)
    | false, _ => .ok ([(switch, "")], none)
  | none =>
    if isLong then .error (.unknownSwitch name (Text.Similar.suggestions name (known.map Switch.longName)))
    else readLetters known (word.drop 1)

/-- Reads words. Two dashes end the switches, and so does the first argument unless switches and arguments
may be mixed. -/
def read (known : List Switch) (mixed : Bool) : (awaited : Awaited) → List String → Except UsageError Words
  | none, [] => .ok ⟨[], []⟩
  | some (_, name), [] => .error (.valueMissing name)
  | some (switch, _), value :: rest => do
    .ok ((← read known mixed none rest).giving [(switch, value)])
  | none, word :: rest =>
    if word = "--" then .ok ⟨[], rest⟩
    else if word.toList.head? = some '-' && word ≠ "-" then do
      let (given, awaited) ← readSwitch known word.toList
      .ok ((← read known mixed awaited rest).giving given)
    else if mixed then do
      let words ← read known mixed none rest
      .ok { words with arguments := word :: words.arguments }
    else .ok ⟨[], word :: rest⟩

end Words
end Scriptlet.CommandLine
