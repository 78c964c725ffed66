import Scriptlet.Data.Value
import Scriptlet.Text.Lowercase

/-!
How variables are named and read. Settings are given together with rules: a key with a rule's name is no
section, and its value takes the place of the usual rule.
-/
namespace Scriptlet.Config

def lowerText (text : String) : String := String.ofList (Text.lower text.toList)

inductive VariableError where
  | unreadable (sectionName : String)
  | tooDeep
  deriving DecidableEq, Repr

def VariableError.message : VariableError → String
  | unreadable name => "error parsing value for field \"" ++ name ++ "\" from source \"EnvSettingsSource\""
  | tooDeep => "values of a variable are nested too deeply"

structure VariableRules where
  lead : String := "RUNONCE_"
  /-- What stands between the names of a way; empty if only whole sections have variables. -/
  delimiter : String := "__"
  caseSensitive : Bool := false
  ignoreEmpty : Bool := false
  /-- How many delimiters of a way count, if not all of them. -/
  splits : Option Nat := none
  /-- The word for nothing, if there is one. -/
  nullWord : Option String := none
  deriving DecidableEq, Repr

namespace VariableRules

def ruleNames : List String :=
  ["_env_prefix", "_env_nested_delimiter", "_case_sensitive", "_env_ignore_empty", "_env_nested_max_split",
   "_env_parse_none_str"]

/-- The keys of other parameters of the settings library, which make it read other sources or in other ways. -/
def parameterNames : List String :=
  ["_nested_model_default_partial_update", "_env_prefix_target", "_env_file", "_env_file_encoding",
   "_env_parse_enums", "_cli_prog_name", "_cli_parse_args", "_cli_settings_source", "_cli_parse_none_str",
   "_cli_hide_none_type", "_cli_avoid_json", "_cli_enforce_required", "_cli_use_class_docs_for_groups",
   "_cli_exit_on_error", "_cli_prefix", "_cli_flag_prefix_char", "_cli_implicit_flags",
   "_cli_ignore_unknown_args", "_cli_kebab_case", "_cli_shortcuts", "_secrets_dir", "_build_sources"]

def isRule : Value → Bool
  | .text name => ruleNames.contains name
  | _ => false

def spell (rules : VariableRules) (name : String) : String :=
  if rules.caseSensitive then name else lowerText name

def sectionVariable (rules : VariableRules) (sectionName : String) : String :=
  rules.spell (rules.lead ++ sectionName)

/-- The value of a rule, if it is of the kind that the rule asks for. Null stands for the usual one. -/
def givenRule? {α : Type} (entries : List (Value × Value)) (name : String) (usual : α) (kind : Value → Option α) :
    Option α :=
  match Value.lookup? entries name with
  | none | some .null => some usual
  | some value => kind value

def splits? : Value → Option (Option Nat)
  -- Numbers beyond the sizes of the machine are refused as soon as a way is split.
  | .int n => if n.natAbs < 0x8000000000000000 then some (if 0 < n then some (n.toNat - 1) else none) else none
  | _ => none

/-- The rules that entries give, unless they also give another parameter or a rule of the wrong kind. -/
def ofEntries (entries : List (Value × Value)) : Option VariableRules := do
  if parameterNames.any fun name => (Value.lookup? entries name).isSome then none
  else
    let usual : VariableRules := {}
    some {
      lead := ← givenRule? entries "_env_prefix" usual.lead Value.text?
      delimiter := ← givenRule? entries "_env_nested_delimiter" usual.delimiter Value.text?
      caseSensitive := ← givenRule? entries "_case_sensitive" usual.caseSensitive Value.bool?
      ignoreEmpty := ← givenRule? entries "_env_ignore_empty" usual.ignoreEmpty Value.bool?
      splits := ← givenRule? entries "_env_nested_max_split" usual.splits splits?
      nullWord := ← givenRule? entries "_env_parse_none_str" usual.nullWord fun value => value.text?.map some }

end VariableRules
end Scriptlet.Config
