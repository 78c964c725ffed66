import Scriptlet.Language

/-!
What can be wrong with a value in a configuration, where, and how it is said.
-/
namespace Scriptlet.Config

inductive Step where
  | key (name : String)
  | index (n : Int)
  deriving DecidableEq, Repr

inductive Refusal where
  | noLanguages
  | duplicateLanguages
  | boundsOutOfOrder
  | blankPrefix
  | unusablePrefix
  | blankExecutable
  | blankCommand (language : Language)
  deriving DecidableEq, Repr

def Refusal.message : Refusal → String
  | noLanguages => "languages must not be empty"
  | duplicateLanguages => "languages must not contain duplicates"
  | boundsOutOfOrder => "lower bound must not be greater than upper bound"
  | blankPrefix => "temp_file_prefix must not be blank"
  | unusablePrefix => "temp_file_prefix must not contain NUL or path separators"
  | blankExecutable => "terminal executable must not be blank"
  | blankCommand language => "command for '" ++ language.id ++ "' must not be blank"

inductive Fault where
  | missing
  | notText
  | brokenText
  | notBool
  | unreadableBool
  | notInt
  | unreadableInt
  | fractionalInt
  | infiniteInt
  | hugeInt
  | notFloat
  | unreadableFloat
  | belowZero
  | notAboveZero
  | aboveOne
  | noMember (names : List String)
  | noLiteral (names : List String)
  | notList
  | notMap
  | notModel (name : String)
  | notPath
  | refused (reason : Refusal)
  | unknownKey
  deriving DecidableEq, Repr

namespace Fault

def tag : Fault → String
  | missing => "missing"
  | notText => "string_type"
  | brokenText => "string_unicode"
  | notBool => "bool_type"
  | unreadableBool => "bool_parsing"
  | notInt => "int_type"
  | unreadableInt => "int_parsing"
  | fractionalInt => "int_from_float"
  | infiniteInt => "finite_number"
  | hugeInt => "int_parsing_size"
  | notFloat => "float_type"
  | unreadableFloat => "float_parsing"
  | belowZero => "greater_than_equal"
  | notAboveZero => "greater_than"
  | aboveOne => "less_than_equal"
  | noMember _ => "enum"
  | noLiteral _ => "literal_error"
  | notList => "list_type"
  | notMap => "dict_type"
  | notModel _ => "model_type"
  | notPath => "path_type"
  | refused _ => "value_error"
  | unknownKey => "extra_forbidden"

def alternatives : List String → String
  | [] => ""
  | [name] => "'" ++ name ++ "'"
  | [first, last] => "'" ++ first ++ "' or '" ++ last ++ "'"
  | first :: rest => "'" ++ first ++ "', " ++ alternatives rest

def message : Fault → String
  | missing => "Field required"
  | notText => "Input should be a valid string"
  | brokenText => "Input should be a valid string, unable to parse raw data as a unicode string"
  | notBool => "Input should be a valid boolean"
  | unreadableBool => "Input should be a valid boolean, unable to interpret input"
  | notInt => "Input should be a valid integer"
  | unreadableInt => "Input should be a valid integer, unable to parse string as an integer"
  | fractionalInt => "Input should be a valid integer, got a number with a fractional part"
  | infiniteInt => "Input should be a finite number"
  | hugeInt => "Unable to parse input string as an integer, exceeded maximum size"
  | notFloat => "Input should be a valid number"
  | unreadableFloat => "Input should be a valid number, unable to parse string as a number"
  | belowZero => "Input should be greater than or equal to 0"
  | notAboveZero => "Input should be greater than 0"
  | aboveOne => "Input should be less than or equal to 1"
  | noMember names | noLiteral names => "Input should be " ++ alternatives names
  | notList => "Input should be a valid list"
  | notMap => "Input should be a valid dictionary"
  | notModel name => "Input should be a valid dictionary or instance of " ++ name
  | notPath => "Input is not a valid path for <class 'pathlib.Path'>"
  | refused reason => "Value error, " ++ reason.message
  | unknownKey => "Extra inputs are not permitted"

end Fault

structure Issue where
  location : List Step
  fault : Fault
  deriving DecidableEq, Repr

def Issue.under (step : Step) (issue : Issue) : Issue := { issue with location := step :: issue.location }

abbrev Checked (α : Type) := Except (List Issue) α

namespace Checked
variable {α β : Type}

def fail (fault : Fault) : Checked α := .error [⟨[], fault⟩]

def refuse (reason : Refusal) : Checked α := fail (.refused reason)

def under (step : Step) : Checked α → Checked α
  | .ok a => .ok a
  | .error issues => .error (issues.map (Issue.under step))

def both : Checked α → Checked β → Checked (α × β)
  | .ok a, .ok b => .ok (a, b)
  | .ok _, .error issues => .error issues
  | .error issues, .ok _ => .error issues
  | .error first, .error second => .error (first ++ second)

def all : List (Checked α) → Checked (List α)
  | [] => .ok []
  | first :: rest => (both first (all rest)).map fun (a, rest) => a :: rest

end Checked
end Scriptlet.Config
