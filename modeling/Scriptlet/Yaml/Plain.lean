import Scriptlet.Yaml.Moment
import Scriptlet.Yaml.Tag

/-!
The tags that plain scalars have by the way they are written. Of the decimals only those with a point
count, and an exponent needs its sign. A line end at the end of a scalar does not count.
-/
namespace Scriptlet.Yaml.Plain

def nullWords : List String := ["~", "null", "Null", "NULL"]

def truthWords : List String :=
  ["yes", "Yes", "YES", "true", "True", "TRUE", "on", "On", "ON",
   "no", "No", "NO", "false", "False", "FALSE", "off", "Off", "OFF"]

private def dropSign : List Char → List Char
  | '-' :: rest => rest
  | '+' :: rest => rest
  | rest => rest

private def isDigitOrGap (c : Char) : Bool := c.isDigit || c = '_'

private def isOneOf (test : Char → Bool) (digits : List Char) : Bool := !digits.isEmpty && digits.all test

private def colonParts (text : List Char) : List (List Char) := text.splitOn ':'

private def isSixtieth : List Char → Bool
  | [c] => c.isDigit
  | [c, d] => '0' ≤ c && c ≤ '5' && d.isDigit
  | _ => false

/-- Whether a text is digits and underscores in base two, eight, ten or sixteen, or in base sixty with
colons. -/
def isInt (text : List Char) : Bool :=
  match dropSign text with
  | ['0'] => true
  | '0' :: 'b' :: digits => isOneOf (fun c => c = '0' || c = '1' || c = '_') digits
  | '0' :: 'x' :: digits =>
    isOneOf (fun c => isDigitOrGap c || ('a' ≤ c.toLower && c.toLower ≤ 'f')) digits
  | '0' :: digits => isOneOf (fun c => c = '_' || ('0' ≤ c && c ≤ '7')) digits
  | size =>
    match colonParts size with
    | whole :: parts =>
      (whole.headD '_').isDigit && whole.all isDigitOrGap && parts.all isSixtieth
    | [] => false

private def isExponent : List Char → Bool
  | [] => true
  | e :: sign :: digits =>
    (e = 'e' || e = 'E') && (sign = '-' || sign = '+') && isOneOf Char.isDigit digits
  | _ => false

/-- Whether a text is a decimal with a point, or a name of infinity or of no number. Without digits before
the point there is no sign. -/
def isFloat (text : List Char) : Bool :=
  let size := dropSign text
  let isSigned := size.length ≠ text.length
  let word := String.ofList size
  if [".inf", ".Inf", ".INF"].contains word then true
  else if [".nan", ".NaN", ".NAN"].contains word then !isSigned
  else
    let whole := size.takeWhile (· ≠ '.')
    match size.drop whole.length with
    | '.' :: after =>
      let exponent := after.dropWhile isDigitOrGap
      match colonParts whole with
      | [[]] => !isSigned && (after.headD '_').isDigit && isExponent exponent
      | digits :: parts =>
        (digits.headD '_').isDigit && digits.all isDigitOrGap
          && (if parts.isEmpty then isExponent exponent else parts.all isSixtieth && exponent.isEmpty)
      | [] => false
    | _ => false

/-- A text without the line end at its end, if it is not that alone. -/
def withoutBreak (text : List Char) : List Char :=
  if text.getLast? = some '\n' && text.length ≠ 1 then text.dropLast else text

def tag (text : String) : Tag :=
  let chars := withoutBreak text.toList
  let word := String.ofList chars
  if word.isEmpty || nullWords.contains word then .null
  else if truthWords.contains word then .bool
  else if word = "<<" then .merge
  else if word = "=" then .equals
  else if ["!", "&", "*"].contains word then .other
  else if isFloat chars then .float
  else if isInt chars then .int
  else if Moment.isPlain chars then .moment
  else .text

end Scriptlet.Yaml.Plain
