import Scriptlet.FileSystem

/-!
Log records: a level with a name and a weight, and a message. A log that is kept in a file changes the files with
every record.
-/
namespace Scriptlet

structure LogLevel where
  name : String
  weight : Nat
  deriving DecidableEq, Repr

namespace LogLevel

def trace : LogLevel := ⟨"TRACE", 5⟩
def debug : LogLevel := ⟨"DEBUG", 10⟩
def info : LogLevel := ⟨"INFO", 20⟩
def success : LogLevel := ⟨"SUCCESS", 25⟩
def warning : LogLevel := ⟨"WARNING", 30⟩
def error : LogLevel := ⟨"ERROR", 40⟩
def critical : LogLevel := ⟨"CRITICAL", 50⟩

def all : List LogLevel := [trace, debug, info, success, warning, error, critical]

def named? (name : String) : Option LogLevel := all.find? (·.name = name)

def unknown (name : String) : String := "Level '" ++ name ++ "' does not exist"

def weighted : List LogLevel := [debug, info, warning, error, critical]

/-- The level of a weight; a weight without a name is named by its number. -/
def ofWeight (weight : Nat) : LogLevel :=
  (weighted.find? (·.weight = weight)).getD ⟨s!"Level {weight}", weight⟩

end LogLevel

structure LogRecord where
  level : LogLevel
  message : String
  deriving DecidableEq, Repr

/-- What the files are after a record that follows others. A log file grows, or gives way to a new one. -/
abbrev Journal := List LogRecord → LogRecord → FileSystem → List (Location × Entry)

def Journal.silent : Journal := fun _ _ files => files.entries

end Scriptlet
