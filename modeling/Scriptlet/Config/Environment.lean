import Scriptlet.Config.Sections
import Scriptlet.Config.VariableRules
import Scriptlet.Data.Json

/-!
Settings from environment variables. A variable holds a whole section as JSON, or a single field of one,
whose way is spelled out in the name; given data wins over fields, and fields win over sections.
-/
namespace Scriptlet.Config

abbrev Variables := List (String × String)

inductive FieldForm where
  | plain
  | structured
  | record (fields : List (String × FieldForm))

def sectionForms : List (String × List (String × FieldForm)) :=
  [("detection",
    [("languages", .structured), ("confidence", .record [("lower", .plain), ("upper", .plain)])]),
   ("selector", [("mode", .plain), ("confirm_before_execution", .plain)]),
   ("execution",
    [("temp_file_prefix", .plain), ("terminal", .plain), ("windows_terminal_executable", .plain),
     ("cmd_executable", .plain), ("commands", .structured)]),
   ("logging",
    [("level", .plain), ("format", .plain), ("file", .plain), ("rotation", .plain),
     ("retention", .plain)])]

def fieldWays : List (String × FieldForm) → List String
  | [] => []
  | (name, .record inner) :: rest =>
    ("__" ++ name) :: (fieldWays inner).map ("__" ++ name ++ ·) ++ fieldWays rest
  | (name, _) :: rest => ("__" ++ name) :: fieldWays rest

def variableNames : List String :=
  let rules : VariableRules := {}
  sectionForms.flatMap fun (name, fields) =>
    rules.sectionVariable name :: (fieldWays fields).map (rules.sectionVariable name ++ ·)

namespace VariableRules

/-- The variables under the names by which they are compared; of variables with one name the last
counts. -/
def canonical (rules : VariableRules) (vars : Variables) : Variables :=
  (vars.filter fun (_, value) => !(rules.ignoreEmpty && value.isEmpty)).foldl (fun known (name, value) =>
    let name := rules.spell name
    if known.any (·.1 = name) then known.map fun entry => if entry.1 = name then (name, value) else entry
    else known ++ [(name, value)]) []

end VariableRules

/-- The pieces of a name between delimiters, of which at most `splits` count; `piece` holds the characters
of the first one so far, the last one first, and `skip` characters are part of a delimiter. -/
def splitName (delimiter : List Char) (splits : Option Nat) (piece : List Char) :
    (skip : Nat) → List Char → List String
  | _, [] => [String.ofList piece.reverse]
  | skip + 1, _ :: rest => splitName delimiter splits piece skip rest
  | 0, c :: rest =>
    if splits ≠ some 0 && delimiter.isPrefixOf (c :: rest) then
      String.ofList piece.reverse
        :: splitName delimiter (splits.map (· - 1)) [] (delimiter.length - 1) rest
    else splitName delimiter splits (c :: piece) 0 rest

/-- The form of the field that a name of a way names; the name may have the lead of variables. -/
def fieldForm? (rules : VariableRules) (fields : List (String × FieldForm)) (name : String) :
    Option FieldForm :=
  (fields.find? fun (field, _) =>
    [rules.spell field, rules.spell (rules.lead ++ field)].contains (rules.spell name)).map Prod.snd

def formAt? (rules : VariableRules) : List (String × FieldForm) → List String → Option FieldForm
  | _, [] => none
  | fields, [name] => fieldForm? rules fields name
  | fields, name :: rest =>
    match fieldForm? rules fields name with
    | some (.record inner) => formAt? rules inner rest
    | _ => none

/-- Sets the value at the end of a way of keys and makes the maps on the way; a value on the way that is
no map stays as it is. -/
def putAt (entries : List (Value × Value)) : List String → Value → List (Value × Value)
  | [], _ => entries
  | [key], value => Value.putEntry entries (.text key) value
  | key :: rest, value =>
    match Value.lookup? entries key with
    | none => Value.putEntry entries (.text key) (.map (putAt [] rest value))
    | some (.map inner) => Value.putEntry entries (.text key) (.map (putAt inner rest value))
    | some _ => entries

def structuredValue (sectionName written : String) : Except VariableError Value :=
  match Json.read written with
  | .ok value => .ok value
  | .error .malformed => .error (.unreadable sectionName)
  | .error .tooDeep => .error .tooDeep

def fieldValue (rules : VariableRules) (sectionName : String) (form : Option FieldForm) (written : String) :
    Except VariableError Value :=
  let plain : Value := if rules.nullWord = some written then .null else .text written
  match form with
  | some .structured | some (.record _) =>
    if written.isEmpty then .ok plain else structuredValue sectionName written
  | _ => .ok plain

def nestedFields (rules : VariableRules) (sectionName : String) (fields : List (String × FieldForm))
    (vars : Variables) : Except VariableError (List (Value × Value)) :=
  let lead := (rules.sectionVariable sectionName ++ rules.delimiter).toList
  if rules.delimiter.isEmpty then .ok []
  else vars.foldlM (fun entries (name, written) =>
    if lead.isPrefixOf name.toList then
      let way := splitName rules.delimiter.toList rules.splits [] 0 (name.toList.drop lead.length)
      (fieldValue rules sectionName (formAt? rules fields way) written).map (putAt entries way)
    else .ok entries) []

mutual

def overlayValue (below above : Value) : Value :=
  match above with
  | .map aboveEntries =>
    match below with
    | .map belowEntries => .map (overlay belowEntries aboveEntries)
    | _ => .map aboveEntries
  | above => above

/-- The entries of the second map over those of the first. -/
def overlay (below above : List (Value × Value)) : List (Value × Value) :=
  match above with
  | [] => below
  | (key, value) :: rest =>
    match below.find? fun entry => entry.1.sameKey key with
    | some (_, known) => overlay (Value.putEntry below key (overlayValue known value)) rest
    | none => overlay (Value.putEntry below key value) rest

end

def fieldNamed? (fields : List (String × FieldForm)) : Value → Option (String × FieldForm)
  | .text name => fields.find? fun field => lowerText field.1 = lowerText name
  | _ => none

mutual

def spellFields (fields : List (String × FieldForm)) : Value → Value
  | .map entries => .map (spellEntries fields [] entries)
  | value => value

def spellEntries (fields : List (String × FieldForm)) (known : List (Value × Value)) :
    List (Value × Value) → List (Value × Value)
  | [] => known
  | (key, value) :: rest =>
    match fieldNamed? fields key with
    | some (name, .record inner) =>
      spellEntries fields (Value.putEntry known (.text name) (spellFields inner value)) rest
    | some (name, _) => spellEntries fields (Value.putEntry known (.text name) value) rest
    | none => spellEntries fields (Value.putEntry known key value) rest

end

def sectionFromEnvironment (rules : VariableRules) (sectionName : String)
    (fields : List (String × FieldForm)) (vars : Variables) : Except VariableError (Option Value) := do
  let spelled (entries : List (Value × Value)) : Value :=
    if rules.caseSensitive then .map entries else spellFields fields (.map entries)
  match vars.lookup (rules.sectionVariable sectionName) with
  | none =>
    match ← nestedFields rules sectionName fields vars with
    | [] => .ok none
    | entries => .ok (some (spelled entries))
  | some written =>
    if rules.nullWord = some written then .ok (some .null)
    else
      match ← structuredValue sectionName written with
      | .null => .ok none
      | .map entries => do
        let nested ← nestedFields rules sectionName fields vars
        .ok (some (spelled (overlay entries nested)))
      | value => .ok (some value)

def entriesFromEnvironment (rules : VariableRules) (vars : Variables) :
    Except VariableError (List (Value × Value)) := do
  let vars := rules.canonical vars
  let found ← sectionForms.mapM fun (name, fields) => do
    let value ← sectionFromEnvironment rules name fields vars
    .ok (value.map fun value => (Value.text name, value))
  .ok (found.filterMap fun entry => entry)

/-- Writes the names of sections in lower case, and leaves out the keys that name rules. Of the spellings
of one name the first counts. -/
def canonicalSections (entries : List (Value × Value)) : List (Value × Value) :=
  entries.foldl (fun known (key, value) =>
    if VariableRules.isRule key then known
    else match key with
      | .text name =>
        if !sectionNames.contains (lowerText name) then Value.putEntry known key value
        else if (Value.lookup? known (lowerText name)).isSome then known
        else Value.putEntry known (.text (lowerText name)) value
      | _ => Value.putEntry known key value) []

inductive LibraryFault where
  | reported (message : String)
  | escaping (kind : String)
  /-- It ends the program by itself, with what it has written to both outputs. -/
  | exit (status : Nat) (printed warned : String)
  deriving DecidableEq, Repr

/-- What settings are made from beside given data: variables, and whatever the library gathers from its sources if
the data gives other parameters than the rules of variables. -/
structure Environment where
  vars : Variables
  gather : List (Value × Value) → Except LibraryFault (List (Value × Value))

namespace Environment

/-- Variables under a library that refuses its other parameters. -/
def ofVariables (vars : Variables) : Environment := ⟨vars, fun _ => .error (.escaping "TypeError")⟩

def empty : Environment := ofVariables []

end Environment

/-- A key that can be given neither as a section nor as a rule. -/
def reservedKey : String := "__pydantic_self__"

inductive SourceError where
  | reserved
  | variable (error : VariableError)
  | library (fault : LibraryFault)
  | invalid (issues : List Issue)
  deriving DecidableEq, Repr

def Environment.combine (env : Environment) (entries : List (Value × Value)) :
    Except SourceError (List (Value × Value)) :=
  match VariableRules.ofEntries entries with
  | none => (env.gather entries).mapError .library
  | some rules =>
    ((entriesFromEnvironment rules env.vars).mapError .variable).map (overlay · (canonicalSections entries))

def settingsFrom (entries : List (Value × Value)) (env : Environment) : Except SourceError Settings := do
  if (Value.lookup? entries reservedKey).isSome then .error .reserved
  else
    let sections ← env.combine entries
    (readSettings sections).mapError .invalid

end Scriptlet.Config
