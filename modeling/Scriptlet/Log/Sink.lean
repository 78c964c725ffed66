import Scriptlet.Config.Settings
import Scriptlet.Data.Json
import Scriptlet.FileSystem
import Scriptlet.Log.Record
import Scriptlet.Log.Upkeep
import Scriptlet.Text.Basic
import Scriptlet.Text.Template

/-!
Where log records go: to the console, and to a file if the settings name one. How a record is laid out in the
file, and when the file gives way to a new one, is up to the library that keeps it.
-/
namespace Scriptlet

def LogThreshold.logLevel : LogThreshold → LogLevel
  | .debug => .debug
  | .info => .info
  | .warning => .warning
  | .error => .error

inductive LogFault where
  | unreachable (location : Location) (cause : FileError)
  | badName (fault : Text.Template.Fault)
  | noName
  | upkeep (fault : Upkeep.Fault)
  deriving DecidableEq, Repr

def LogFault.message : LogFault → String
  | unreachable location cause => cause.describe ("/" ++ "/".intercalate location)
  | badName fault => fault.message
  | noName => "embedded null byte"
  | upkeep fault => fault.message

/-- What keeps log files: where the file of some settings is, seen from a directory, how a record is written to it,
and what a file that was opened before still gives. If it gave way to a new one, that is what the old one held. -/
structure LogLibrary where
  place : LogSettings → Location → Path → Except LogFault Location
  write : LogSettings → Location → Journal
  held : Location → ByteArray → FileSystem → ByteArray

structure LogSink where
  threshold : LogThreshold
  format : LogFormat
  file : Option Location
  write : Journal

namespace LogSink

def accepts (sink : LogSink) (record : LogRecord) : Bool :=
  sink.threshold.logLevel.weight ≤ record.level.weight

def written (sink : LogSink) (records : List LogRecord) : List LogRecord := records.filter sink.accepts

def journal (sink : LogSink) : Journal := fun earlier record files =>
  if sink.accepts record then sink.write earlier record files else files.entries

/-- Opens a log file, after making the directories that lead to it; what is made stays even if the file
cannot be opened. A file that is there is kept. -/
def openFile (files : FileSystem) (location : Location) : FileSystem × Option LogFault :=
  let named := location.takeWhile isName
  let (files, fault) := files.makeAll [] (if named = location then location.dropLast else named)
  let refuse (cause : FileError) : FileSystem × Option LogFault := (files, some (.unreachable location cause))
  match fault with
  | some (place, cause) => (files, some (.unreachable place cause))
  | none =>
    if named ≠ location then (files, some .noName)
    else match files.refusal? location.dropLast .search with
      | some cause => refuse (.refused cause)
      | none =>
        if 255 < (location.getLast?.getD "").utf8ByteSize then refuse .nameTooLong
        else match files.writeFault? location with
          | some cause => refuse cause
          | none =>
            if (files.entryAt? location).isSome then (files, none)
            else (files.put location (.file .empty), none)

/-- The sink that settings ask for; `verbose` lowers the level to debugging. The files come back in any
case. -/
def ofSettings (library : LogLibrary) (settings : LogSettings) (verbose : Bool) (files : FileSystem) :
    FileSystem × Except LogFault LogSink :=
  let threshold := if verbose then .debug else settings.level
  match settings.file with
  | none => (files, .ok ⟨threshold, settings.format, none, .silent⟩)
  | some path =>
    match library.place settings files.cwd path with
    | .error fault => (files, .error fault)
    | .ok location =>
      match openFile files location with
      | (files, some fault) => (files, .error fault)
      | (files, none) =>
        (files, .ok ⟨threshold, settings.format, some location, library.write settings location⟩)

def greeting (sink : LogSink) : String :=
  "Logging configured: level=" ++ sink.threshold.name ++ " format=" ++ sink.format.name

end LogSink

def LogFormat.line (format : LogFormat) (record : LogRecord) : String :=
  match format with
  | .console => Text.padRight 8 record.level.name ++ " | " ++ record.message
  | .json =>
    "\x7b\"level\": " ++ Json.quoted record.level.name ++ ", \"message\": "
      ++ Json.quoted record.message ++ "\x7d"

namespace LogLibrary

/-- What the fields of the name of a log file stand for. The time is not told here, so its field stays as it
is. -/
def nameFields : List (String × String) := [("time", "\x7btime\x7d")]

def locationOf (settings : LogSettings) (cwd : Location) (path : Path) : Except LogFault Location := do
  let pieces ← (Text.Template.pieces path.toString.toList).mapError .badName
  (Upkeep.checkRotation settings.rotation).mapError .upkeep
  (Upkeep.checkRetention settings.retention).mapError .upkeep
  let name ← (Text.Template.fill nameFields pieces).mapError .badName
  .ok ((Path.ofString name).place cwd)

/-- Every record is one more line at the end of the file, which never gives way to a new one. -/
def endless (line : LogFormat → LogRecord → String) : LogLibrary where
  place := locationOf
  write := fun settings location _ record files =>
    match files.entryAt? location with
    | some (.file content) =>
      (files.put location (.file (content ++ (line settings.format record ++ "\n").toUTF8))).entries
    | _ => files.entries
  held := fun location content files =>
    match files.entryAt? location with
    | some (.file content) => content
    | _ => content

def standard : LogLibrary := endless LogFormat.line

end LogLibrary
end Scriptlet
