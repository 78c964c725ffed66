import Scriptlet.Text.Base64
import Scriptlet.Text.Lowercase
import Scriptlet.Text.Quoted
import Scriptlet.Yaml.Plain

/-!
What the text of a scalar stands for under a tag. Numbers lose their underscores and one sign before they
are read, and parts between colons are digits in base sixty.
-/
namespace Scriptlet.Yaml.Meaning

private def splitSign : List Char → Bool × List Char
  | '-' :: rest => (true, rest)
  | '+' :: rest => (false, rest)
  | rest => (false, rest)

private def dropUnderscores (text : List Char) : List Char := text.filter (· ≠ '_')

/-- Reads a whole number in a base. A message shows at most 200 characters of a text. -/
def whole (base : Nat) (digits : List Char) : Except Error Int :=
  match Number.readWhole base (String.ofList digits) with
  | .ok n => .ok n
  | .error .unreadable =>
    .error (.noValue ("invalid literal for int() with base " ++ toString base ++ ": "
      ++ String.ofList ((Text.Quoted.encode digits).take 200)))
  | .error (.tooLong count) =>
    .error (.noValue ("Exceeds the limit (" ++ toString Number.maxDigits
      ++ " digits) for integer string conversion: value has " ++ toString count
      ++ " digits; use sys.set_int_max_str_digits() to increase the limit"))

/-- Reads an integer. A zero at the front asks for base eight, a letter after it for base two or sixteen. -/
def int (text : String) : Except Error Int := do
  let (negative, size) := splitSign (dropUnderscores text.toList)
  let n ← match size with
    | [] => .error .noDigits
    | ['0'] => .ok 0
    | '0' :: 'b' :: digits => whole 2 digits
    | '0' :: 'x' :: digits => whole 16 digits
    | '0' :: digits => whole 8 ('0' :: digits)
    | size => (size.splitOn ':').foldlM (fun n part => do .ok (60 * n + (← whole 10 part))) 0
  .ok (if negative then -n else n)

private def decimal (text : List Char) : Except Error Binary64 :=
  match Number.readDecimal? (String.ofList text) with
  | some x => .ok x
  | none => .error (.noValue ("could not convert string to float: " ++ Text.quoted (String.ofList text)))

private def sixtieths (digits : List Binary64) : Except Error Binary64 := do
  let (sum, _) ← digits.foldrM (fun digit (sum, base) =>
    let weight := Binary64.ofInt base
    if weight.isFinite then Except.ok (sum.add (digit.mul weight), 60 * base) else .error .tooLarge)
    (Binary64.zero, (1 : Int))
  .ok sum

def float (text : String) : Except Error Binary64 := do
  let chars := Text.lower (dropUnderscores text.toList)
  let (negative, size) := splitSign chars
  if chars.isEmpty then .error .noDigits
  else
    let x ←
      if size = ".inf".toList then .ok (.infinite false)
      else if size = ".nan".toList then .ok .nan
      else if size.contains ':' then do sixtieths (← (size.splitOn ':').mapM decimal)
      else decimal size
    .ok (if negative then x.neg else x)

def isNamedNan (text : String) : Bool :=
  (splitSign (Text.lower (dropUnderscores text.toList))).2 = ".nan".toList

def bool (text : String) : Except Error Bool :=
  let word := String.ofList (Text.lower text.toList)
  if ["yes", "true", "on"].contains word then .ok true
  else if ["no", "false", "off"].contains word then .ok false
  else .error .noTruthWord

def moment (text : String) : Except Error Value :=
  (Moment.value? (Plain.withoutBreak text.toList)).getD (.error .noMoment)

def bytes (text : String) : Except Error (List UInt8) :=
  if text.toList.all fun c => c.toNat < 0x80 then
    match Text.Base64.decode? text.toList with
    | some content => .ok content
    | none => .error .malformed
  else .error .malformed

/-- The value of a scalar; a text that is not whole holds half of a surrogate pair. -/
def value (tag : Tag) (text : String) (isWhole : Bool) : Except Error Value :=
  match tag with
  | .null => .ok .null
  | .bool => (bool text).map .bool
  | .int => (int text).map .int
  | .float => (float text).map .float
  | .moment => moment text
  | .bytes => (bytes text).map .bytes
  | .text => .ok (if isWhole then .text text else .brokenText)
  | _ => .error .malformed

end Scriptlet.Yaml.Meaning
