import Scriptlet.Path
import Scriptlet.Text.Quoted

/-!
Files and directories as a value. Names are looked up one after the other from the working directory or
from the root, and a double dot leads to the directory above. The system may refuse to search a directory or
to read or write what is there.
-/
namespace Scriptlet

/-- The names that lead from the root to a file or directory. -/
abbrev Location := List String

/-- Where a name leads from a location: a single dot stays there, and a double dot goes up. -/
def Location.next (location : Location) (name : String) : Location :=
  if name = "." then location else if name = ".." then location.dropLast else location ++ [name]

def Path.origin (path : Path) (cwd : Location) : Location :=
  match path.anchor with
  | .here => cwd
  | _ => []

/-- The location that the parts of a path spell, whether it is there or not. -/
def Path.place (path : Path) (cwd : Location) : Location := path.parts.foldl Location.next (path.origin cwd)

inductive Entry where
  | file (content : ByteArray)
  | directory

instance : DecidableEq Entry
  | .directory, .directory => isTrue rfl
  | .file _, .directory | .directory, .file _ => isFalse nofun
  | .file ⟨a⟩, .file ⟨b⟩ =>
    if same : a = b then isTrue (same ▸ rfl)
    else isFalse fun equal => same (congrArg ByteArray.data (Entry.file.inj equal))

/-- What can be done to a file or directory. New names in a directory are written to it. -/
inductive Access where
  | search
  | read
  | write
  deriving DecidableEq, Repr

inductive Refusal where
  | permission
  | readOnly
  | device
  deriving DecidableEq, Repr

inductive FileError where
  | notFound
  | exists
  | notDirectory
  | isDirectory
  | nameTooLong
  | refused (cause : Refusal)
  deriving DecidableEq, Repr

def Refusal.number : Refusal → Nat
  | permission => 13
  | readOnly => 30
  | device => 5

def Refusal.reason : Refusal → String
  | permission => "Permission denied"
  | readOnly => "Read-only file system"
  | device => "Input/output error"

namespace FileError

def number : FileError → Nat
  | notFound => 2
  | «exists» => 17
  | notDirectory => 20
  | isDirectory => 21
  | nameTooLong => 36
  | refused cause => cause.number

def reason : FileError → String
  | notFound => "No such file or directory"
  | «exists» => "File exists"
  | notDirectory => "Not a directory"
  | isDirectory => "Is a directory"
  | nameTooLong => "File name too long"
  | refused cause => cause.reason

def isAbsence : FileError → Bool
  | notFound | notDirectory => true
  | _ => false

def describe (error : FileError) (path : String) : String :=
  s!"[Errno {error.number}] {error.reason}: " ++ Text.quoted path

end FileError

/-- Whether a name can be that of a file or directory: none of them has a null character in it. -/
def isName (name : String) : Bool := !name.toList.contains '\x00'

/-- All directories and files below the root, which is a directory itself, where relative paths begin, and
which accesses are refused. -/
structure FileSystem where
  cwd : Location
  entries : List (Location × Entry)
  refusal? : Location → Access → Option Refusal := fun _ _ => none

namespace FileSystem

def entryAt? (fs : FileSystem) (location : Location) : Option Entry :=
  if location = [] then some .directory else fs.entries.lookup location

def isDirectoryAt (fs : FileSystem) (location : Location) : Bool :=
  match fs.entryAt? location with
  | some .directory => true
  | _ => false

/-- Follows names from a location. All but the last have to be there; the last may be missing. -/
def follow (fs : FileSystem) (location : Location) : List String → Except FileError Location
  | [] => .ok location
  | name :: rest =>
    match fs.entryAt? location with
    | none => .error .notFound
    | some (.file _) => .error .notDirectory
    | some .directory =>
      match fs.refusal? location .search with
      | some cause => .error (.refused cause)
      | none =>
        if 255 < name.utf8ByteSize then .error .nameTooLong else follow fs (location.next name) rest

def locate (fs : FileSystem) (path : Path) : Except FileError Location :=
  if 4095 < path.toString.utf8ByteSize then .error .nameTooLong
  else fs.follow (path.origin fs.cwd) path.steps

def find (fs : FileSystem) (path : Path) : Except FileError Entry := do
  let location ← fs.locate path
  match fs.entryAt? location with
  | some entry => .ok entry
  | none => .error .notFound

/-- The parts of a name as it is written: single dots count, and a slash at the end is one too. -/
def writtenParts (name : String) : List String :=
  let pieces := Path.splitSlashes [] name.toList
  let last := pieces.getLast?.getD []
  (pieces.dropLast.filter (· ≠ [])).map String.ofList
    ++ [if last = [] then "." else String.ofList last]

/-- The location that a name leads to as it is written. The empty name leads nowhere, and a slash at the end
asks for a directory. -/
def locateWritten (fs : FileSystem) (name : String) : Except FileError Location :=
  if name.isEmpty then .error .notFound
  else if 4095 < name.utf8ByteSize then .error .nameTooLong
  else fs.follow ((Path.ofString name).origin fs.cwd) (writtenParts name)

def readAt (fs : FileSystem) (location : Location) : Except FileError ByteArray :=
  match fs.entryAt? location, fs.refusal? location .read with
  | none, _ => .error .notFound
  | some _, some cause => .error (.refused cause)
  | some (.file content), none => .ok content
  | some .directory, none => .error .isDirectory

def openWritten (fs : FileSystem) (name : String) : Except FileError (Location × ByteArray) := do
  let location ← fs.locateWritten name
  return (location, ← fs.readAt location)

/-- Whether a path leads to something that passes a test. A missing path and a path with a part that is no
name lead to nothing. -/
def leadsTo (fs : FileSystem) (path : Path) (test : Entry → Bool) : Except FileError Bool :=
  if !path.parts.all isName then .ok false
  else match fs.find path with
    | .ok entry => .ok (test entry)
    | .error cause => if cause.isAbsence then .ok false else .error cause

def isDirectory (fs : FileSystem) (path : Path) : Except FileError Bool :=
  fs.leadsTo path fun entry => entry matches .directory

def «exists» (fs : FileSystem) (path : Path) : Except FileError Bool := fs.leadsTo path fun _ => true

/-- The content of the file that a path leads to, whether it may be read or not. -/
def contentOf? (fs : FileSystem) (path : Path) : Option ByteArray :=
  match fs.find path with
  | .ok (.file content) => some content
  | _ => none

def readFile (fs : FileSystem) (path : Path) : Except FileError ByteArray := fs.locate path >>= fs.readAt

def put (fs : FileSystem) (location : Location) (entry : Entry) : FileSystem :=
  { fs with entries := (location, entry) :: fs.entries.filter fun known => known.1 ≠ location }

/-- Why the file at a location cannot be written. A missing one is a new name in the directory above. -/
def writeFault? (fs : FileSystem) (location : Location) : Option FileError :=
  match fs.entryAt? location with
  | some .directory => some .isDirectory
  | some (.file _) => (fs.refusal? location .write).map .refused
  | none => (fs.refusal? location.dropLast .write).map .refused

/-- Opens the file at a path for writing: it is empty afterwards, and new if it was missing. -/
def openEmpty (fs : FileSystem) (path : Path) : Except FileError (Location × FileSystem) := do
  let location ← fs.locate path
  match fs.writeFault? location with
  | some cause => .error cause
  | none => .ok (location, fs.put location (.file .empty))

def makeDirectories (fs : FileSystem) (above : Location) : List String → FileSystem
  | [] => fs
  | part :: rest =>
    let here := above ++ [part]
    let fs := if (fs.entryAt? here).isSome then fs else fs.put here .directory
    makeDirectories fs here rest

/-- Makes a directory below another one, and those between them, as far as they are missing; says which
of them cannot be made, if one cannot. -/
def makeAll (fs : FileSystem) (above : Location) :
    List String → FileSystem × Option (Location × FileError)
  | [] => (fs, none)
  | part :: rest =>
    let here := above ++ [part]
    if !fs.isDirectoryAt above then (fs, some (here, .notDirectory))
    else match fs.refusal? above .search with
      | some cause => (fs, some (here, .refused cause))
      | none =>
        if 255 < part.utf8ByteSize then (fs, some (here, .nameTooLong))
        else match fs.entryAt? here with
          | none =>
            match fs.refusal? above .write with
            | some cause => (fs, some (here, .refused cause))
            | none => makeAll (fs.put here .directory) here rest
          | some .directory => makeAll fs here rest
          | some (.file _) => if rest.isEmpty then (fs, some (here, .exists)) else makeAll fs here rest

def withDirectory (fs : FileSystem) (location : Location) : FileSystem := fs.makeDirectories [] location

def withFile (fs : FileSystem) (location : Location) (content : ByteArray) : FileSystem :=
  (fs.withDirectory location.dropLast).put location (.file content)

def empty (cwd : Location) : FileSystem := FileSystem.withDirectory { cwd, entries := [] } cwd

end FileSystem
end Scriptlet
