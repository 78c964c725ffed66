import Scriptlet.Number.Binary64
import Scriptlet.Text.Basic
import Scriptlet.Text.Digit

/-!
Numbers written as text: whole numbers in a base and decimals, with an optional sign, underscores between
digits, and blanks around them. Settings take ASCII digits only, other places digits of every script.
-/
namespace Scriptlet.Number

/-- Blanks that may stand around a number in settings. -/
def isSpace (c : Char) : Bool :=
  let n := c.toNat
  (0x09 ≤ n && n ≤ 0x0d) || n = 0x20 || n = 0x85 || n = 0xa0 || n = 0x1680
    || (0x2000 ≤ n && n ≤ 0x200a) || n = 0x2028 || n = 0x2029 || n = 0x202f || n = 0x205f || n = 0x3000

def trim (text : List Char) : List Char :=
  ((text.dropWhile isSpace).reverse.dropWhile isSpace).reverse

private def isAsciiDigit (c : Char) : Bool := '0' ≤ c && c ≤ '9'

def natOfDigits (digits : List Char) : Nat :=
  digits.foldl (fun n c => 10 * n + (c.toNat - '0'.toNat)) 0

def maxDigits : Nat := 4300

inductive WholeFault where
  | unreadable
  | tooLong (digits : Nat)
  deriving DecidableEq, Repr

/-- Removes underscores, each of which has to stand between two other characters. -/
def dropUnderscores? (text : List Char) : Option (List Char) :=
  match text with
  | [] => some []
  | '_' :: _ => none
  | _ :: _ => go text
where
  go : List Char → Option (List Char)
    | [] => some []
    | ['_'] => none
    | '_' :: '_' :: _ => none
    | c :: rest => (go rest).map fun rest => if c = '_' then rest else c :: rest

private def digits? (text : List Char) : Option Nat :=
  if !text.isEmpty && text.all isAsciiDigit then some (natOfDigits text) else none

private def splitSign : List Char → Bool × List Char
  | '-' :: rest => (true, rest)
  | '+' :: rest => (false, rest)
  | rest => (false, rest)

private def signed (negative : Bool) (n : Nat) : Int := if negative then -(n : Int) else n

/-- Drops zeros at the front, and any underscores among them, down to the first other digit, to a minus, to
the last character or to the one before a point. -/
private def dropZeros? (before : Char) : List Char → Option (List Char)
  | [] => some [before]
  | c :: rest =>
    if c = '0' || c = '_' then dropZeros? c rest
    else if c = '.' then some (before :: c :: rest)
    else if c = '-' || isAsciiDigit c then some (c :: rest)
    else none

/-- Reads an integer in its plain form: digits, none of them a zero before others, and a minus if it is
below zero. The number of its digits is limited whatever follows them. -/
private def readPlain (text : List Char) : Except WholeFault Int :=
  let (negative, size) := match text with
    | '-' :: rest => (true, rest)
    | rest => (false, rest)
  let digits := size.takeWhile isAsciiDigit
  match digits with
  | [] | '0' :: _ :: _ => .error .unreadable
  | _ =>
    if maxDigits < digits.length then .error (.tooLong digits.length)
    else if digits.length < size.length then .error .unreadable
    else .ok (signed negative (natOfDigits digits))

/-- Brings a size into its plain form, as far as it has one: without zeros in front, a point that zeros
follow, and underscores. A minus may follow the zeros. -/
private def plainSize? (size : List Char) : Option (List Char) := do
  let size ← match size with
    | [] => none
    | '0' :: rest => dropZeros? '0' rest
    | c :: rest => if isAsciiDigit c then some (c :: rest) else none
  let whole := size.takeWhile (· ≠ '.')
  let places := (size.drop whole.length).drop 1
  let size := if !places.isEmpty && places.all (· = '0') then whole else size
  some ((dropUnderscores? size).getD size)

/-- Brings an integer into its plain form, as far as it has one: without blanks around it and a plus, and
with a size in its plain form. -/
private def plainForm? (text : List Char) : Option (List Char) :=
  match trim text with
  | '-' :: size => (plainSize? size).map ('-' :: ·)
  | '+' :: size => plainSize? size
  | size => plainSize? size

/-- Reads an integer of a setting, in its plain form or in one that can be brought into it. Only the plain
form can be too long. -/
def readInt (text : String) : Except WholeFault Int :=
  match readPlain text.toList with
  | .error .unreadable =>
    match (plainForm? text.toList).map readPlain with
    | some (.ok n) => .ok n
    | _ => .error .unreadable
  | result => result

private def digitIn? (base : Nat) (c : Char) : Option Nat :=
  let lower := c.toLower
  let value? :=
    if 'a' ≤ lower && lower ≤ 'z' then some (lower.toNat - 'a'.toNat + 10) else Text.digitValue? c
  value?.filter (· < base)

/-- Reads digits with single underscores between them, after `count` digits that write `n`. -/
private def scanDigits (base n count : Nat) : List Char → Nat × Nat × List Char
  | [] => (n, count, [])
  | '_' :: c :: rest =>
    match digitIn? base c with
    | some d =>
      if count = 0 then (n, count, '_' :: c :: rest) else scanDigits base (base * n + d) (count + 1) rest
    | none => (n, count, '_' :: c :: rest)
  | c :: rest =>
    match digitIn? base c with
    | some d => scanDigits base (base * n + d) (count + 1) rest
    | none => (n, count, c :: rest)

private def baseLetter? (base : Nat) : Option Char :=
  if base = 2 then some 'b' else if base = 8 then some 'o' else if base = 16 then some 'x' else none

private def dropBaseMark (base : Nat) (text : List Char) : List Char :=
  match text with
  | '0' :: letter :: rest =>
    if some letter.toLower = baseLetter? base then
      match rest with
      | '_' :: digits => digits
      | digits => digits
    else text
  | text => text

/-- Reads a whole number in a base, in digits of any script, with a sign and with blanks of any kind
around it. Only bases that are no powers of two limit the number of digits. -/
def readWhole (base : Nat) (text : String) : Except WholeFault Int :=
  let (negative, size) := splitSign (Text.strip text.toList)
  let (n, count, rest) := scanDigits base 0 0 (dropBaseMark base size)
  if maxDigits < count && base ∉ [2, 4, 8, 16, 32] then .error (.tooLong count)
  else if count = 0 || !rest.isEmpty then .error .unreadable
  else .ok (signed negative n)

private def exponent? (text : List Char) : Option Int :=
  match text with
  | [] => some 0
  | e :: rest =>
    if e = 'e' || e = 'E' then
      let (negative, size) := splitSign rest
      (digits? size).map (signed negative)
    else none

private def decimal? (text : List Char) : Option Binary64 :=
  let (negative, size) := splitSign text
  let word := String.ofList (size.map Char.toLower)
  if word = "inf" || word = "infinity" then some (.infinite negative)
  else if word = "nan" then some .nan
  else
    let whole := size.takeWhile isAsciiDigit
    let rest := size.drop whole.length
    let (places, rest) := match rest with
      | '.' :: after => (after.takeWhile isAsciiDigit, after.dropWhile isAsciiDigit)
      | rest => ([], rest)
    if whole.isEmpty && places.isEmpty then none
    else (exponent? rest).map fun exponent =>
      .ofDecimal negative (natOfDigits (whole ++ places)) (exponent - places.length)

/-- Reads a decimal of a setting: with an optional exponent, or a name of infinity or of no number. Blanks
may stand around it or underscores in it, but not both. -/
def readFloat? (text : String) : Option Binary64 :=
  (decimal? (trim text.toList)).or ((dropUnderscores? text.toList).bind decimal?)

def readDecimal? (text : String) : Option Binary64 :=
  decimal? ((Text.strip text.toList).map fun c =>
    match Text.digitValue? c with
    | some d => Char.ofNat ('0'.toNat + d)
    | none => c)

end Scriptlet.Number
