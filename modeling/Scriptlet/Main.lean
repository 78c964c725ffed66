import Scriptlet.CommandLine.Program

/-!
The program on a real system. What the words name is read before a run, and what the run wrote is written
after it. A command that asks for a line is run again with one more line. Terminals are not started: the
process call is shown instead.
-/
namespace Scriptlet.Main

open CommandLine

def entryOf? (name : String) : IO (Option Entry) := do
  try
    return some (.file (← IO.FS.readBinFile name))
  catch error =>
    match error with
    | .inappropriateType _ 21 _ => return some .directory
    | _ => return none

def candidates (words : List String) : List String :=
  words.flatMap fun word =>
    let value := String.ofList ((word.toList.dropWhile (· ≠ '=')).drop 1)
    [word, value, String.ofList (word.toList.drop 2)].filter (!·.isEmpty)

def snapshot (cwd : Location) (words : List String) : IO FileSystem :=
  (candidates words).foldlM (fun files name => do
    let location := (Path.ofString name).place cwd
    match ← entryOf? name with
    | some (.file content) => return files.withFile location content
    | some .directory => return files.withDirectory location
    | none => return files) (.empty cwd)

def readVariables : IO Config.Environment := do
  let names := Config.variableNames.map String.toUpper
  let found ← names.mapM fun name => do return (← IO.getEnv name).map (name, ·)
  return .ofVariables (found.filterMap id)

def nameOf (location : Location) : String := "/" ++ "/".intercalate location

/-- Writes the files and directories that a run has changed. A log file that no word names was not read before,
so what the run wrote to it is added. -/
def writeBack (before : FileSystem) (outcome : Program.Outcome) : IO Unit := do
  for (location, entry) in outcome.host.files.entries.reverse do
    if before.entryAt? location ≠ some entry then
      match entry with
      | .directory => IO.FS.createDirAll (nameOf location)
      | .file content =>
        let isAdded := outcome.sink.bind (·.file) = some location && (before.entryAt? location).isNone
        let handle ← IO.FS.Handle.mk (nameOf location) (if isAdded then .append else .write)
        handle.write content

def writeLog (outcome : Program.Outcome) : IO Unit := do
  if let some sink := outcome.sink then
    IO.eprint (String.join (outcome.log.map fun record => sink.format.line record ++ "\n"))

def showCall (call : ProcessCall) : IO Unit :=
  match call with
  | .words words _ => IO.eprintln ("start: " ++ " ".intercalate (words.map Text.quoted))
  | .line line _ => IO.eprintln ("start: " ++ line)

/-- Runs a program, with one more line of input as long as it asks for one; `shown` is the number of
characters already printed. -/
partial def runWithInput (program : Program) (shown : Nat) : IO Program.Outcome := do
  let outcome := program.run
  IO.print (String.ofList (outcome.stdout.toList.drop shown))
  (← IO.getStdout).flush
  if !outcome.isStarved then return outcome
  else
    let line ← (← IO.getStdin).getLine
    if line.isEmpty then return outcome
    else
      let shown := outcome.stdout.length + line.length
      runWithInput { program with input := program.input ++ line.toUTF8 } shown

end Scriptlet.Main

open Scriptlet Scriptlet.Main Scriptlet.CommandLine in
def main (words : List String) : IO UInt32 := do
  let cwd := (Path.ofString ((← IO.getEnv "PWD").getD "/")).parts
  let files ← snapshot cwd words
  let input ← if readsInput words then (← IO.getStdin).readBinToEnd else pure ByteArray.empty
  let program : Program := ⟨words, files, ← readVariables, input, ⟨some .posix, none⟩, .standard⟩
  let outcome ← runWithInput program 0
  writeBack files outcome
  writeLog outcome
  outcome.host.launches.forM fun launch => launch.call.forM showCall
  IO.eprint outcome.stderr
  if let some error := outcome.escaped then
    IO.eprintln ("Error: " ++ error.message)
  return outcome.exitCode.toUInt32
