import Scriptlet.Config.Environment
import Scriptlet.FileSystem
import Scriptlet.Text.Basic
import Scriptlet.Text.Utf8
import Scriptlet.Yaml.Document

/-!
Settings from a configuration file and environment variables.
-/
namespace Scriptlet.Config

inductive LoadError where
  | missing (path : Path)
  | unreadable (path : Path) (cause : FileError)
  | notText (fault : Text.Utf8.Fault)
  | notYaml (error : Yaml.Error)
  | notMap (kind : String)
  /-- A section has no text for its name, or a name that no section has. -/
  | unnamedSection
  | variable (error : VariableError)
  | library (fault : LibraryFault)
  | invalid (path : Option Path) (issues : List Issue)

/-- Where and why bytes are no text. A character that is cut off by the end is taken by itself, so that
its place is counted from its own first byte. -/
def undecodable (fault : Text.Utf8.Fault) : String :=
  let offset := if fault.reason = .unexpectedEnd then 0 else fault.offset
  "'utf-8' codec can't decode "
    ++ (if fault.size = 1 then
          "byte 0x" ++ String.ofList (Text.Quoted.hexDigits 2 fault.byte.toNat) ++ s!" in position {offset}"
        else s!"bytes in position {offset}-" ++ toString (offset + fault.size - 1))
    ++ ": " ++ fault.reason.message

def issueCount (issues : List Issue) : String :=
  toString issues.length ++ (if issues.length = 1 then " validation error" else " validation errors")
    ++ " for Config"

def LoadError.message : LoadError → String
  | missing path => "Config file not found: " ++ path.toString
  | unreadable path cause => cause.describe path.toString
  | notText fault => undecodable fault
  | notYaml .malformed => "Invalid YAML in config file"
  | notYaml error => error.message
  | notMap kind => "YAML root must be a mapping, not " ++ kind
  | unnamedSection => "section names must be text"
  | .variable error => error.message
  | library (.reported message) => message
  | library (.escaping kind) => "the settings library ended with " ++ kind
  | library (.exit status _ _) => "the settings library ended with status " ++ toString status
  | invalid none issues => issueCount issues
  | invalid (some path) issues => "Invalid configuration in " ++ path.toString ++ ": " ++ issueCount issues

def textOfBytes (bytes : ByteArray) : Except LoadError String :=
  ((Text.Utf8.decode bytes).mapError .notText).map fun text => String.ofList (Text.unifyNewlines text.toList)

def textOfFile (files : FileSystem) (path : Path) : Except LoadError String :=
  match files.exists path with
  | .error cause => .error (.unreadable path cause)
  | .ok false => .error (.missing path)
  | .ok true =>
    match files.readFile path with
    | .error cause => .error (.unreadable path cause)
    | .ok bytes => textOfBytes bytes

def entriesOfText (text : String) : Except LoadError (List (Value × Value)) :=
  match Yaml.read text with
  | .error error => .error (.notYaml error)
  | .ok .null => .ok []
  | .ok (.map entries) =>
    if entries.all (·.1.isText) then .ok entries else .error .unnamedSection
  | .ok value => .error (.notMap value.kindName)

def givenEntries (files : FileSystem) : Option Path → Except LoadError (List (Value × Value))
  | none => .ok []
  | some path => textOfFile files path >>= entriesOfText

def LoadError.ofSource (path : Option Path) : SourceError → LoadError
  | .reserved => .unnamedSection
  | .variable error => .variable error
  | .library fault => .library fault
  | .invalid issues => .invalid path issues

def load (files : FileSystem) (env : Environment) (path : Option Path) : Except LoadError Settings := do
  let entries ← givenEntries files path
  (settingsFrom entries env).mapError (.ofSource path)

end Scriptlet.Config
