import Scriptlet.Number.Reading
import Scriptlet.Text.Digit
import Scriptlet.Text.Lowercase

/-!
When a log file gives way to a new one, and how long old ones are kept, as settings say it: by size, by
time, by a word for a frequency, or at a time of day. Only whether such a text can be read is decided here.
-/
namespace Scriptlet.Upkeep

inductive Fault where
  | badSize (number : String)
  | badNumber (number : String)
  | badUnit (unit : String)
  | noSpan
  | tooLong
  | badDay (day : String)
  | badTime (time : String)
  | noRotation (text : String)
  | noRetention (text : String)
  deriving DecidableEq, Repr

def Fault.message : Fault → String
  | badSize number => "Invalid float value while parsing size: '" ++ number ++ "'"
  | badNumber number => "Invalid float value while parsing duration: '" ++ number ++ "'"
  | badUnit unit => "Invalid unit value while parsing duration: '" ++ unit ++ "'"
  | noSpan => "cannot convert float NaN to integer"
  | tooLong => "The span of time is too long"
  | badDay day => "Invalid day while parsing daytime: '" ++ day ++ "'"
  | badTime time => "Invalid time while parsing daytime: '" ++ time ++ "'"
  | noRotation text => "Cannot parse rotation from: '" ++ text ++ "'"
  | noRetention text => "Cannot parse retention from: '" ++ text ++ "'"

private def fold (text : List Char) : List Char := text.map Text.foldChar

private def isNumberPart (c : Char) : Bool :=
  Text.foldChar c = 'e' || ['+', '-', '.'].contains c || Text.isDecimal c

private def isLetter (c : Char) : Bool := 'a' ≤ Text.foldChar c && Text.foldChar c ≤ 'z'

/-- Whether a text is a size in bits or bytes: a number, an optional letter for its scale and the unit. -/
def size? (text : List Char) : Except Fault Bool :=
  let number := text.takeWhile isNumberPart
  let unit := fold ((text.drop number.length).dropWhile Text.isBlank)
  let unit := if "kmgtpezy".toList.contains (unit.headD ' ') then unit.drop 1 else unit
  let unit := if unit.head? = some 'i' then unit.drop 1 else unit
  if number.isEmpty || unit ≠ ['b'] then .ok false
  else if (Number.readDecimal? (String.ofList number)).isNone then .error (.badSize (String.ofList number))
  else .ok true

/-- The places in a text of numbers and units: before a number, in one, between it and its unit, in the unit,
and after it. -/
private inductive Place where
  | start
  | number
  | gap
  | unit
  | after
  deriving DecidableEq

/-- The places that a character may lead to. An `e` is part of a number as well as of a unit. -/
private def Place.next (place : Place) (c : Char) : List Place :=
  let whereIf (p : Bool) (next : Place) : List Place := if p then [next] else []
  let number := whereIf (isNumberPart c) .number
  let unit := whereIf (isLetter c) .unit
  let after := whereIf (Text.isBlank c || c = ',') .after
  match place with
  | .start => number
  | .number => number ++ unit ++ whereIf (Text.isBlank c) .gap
  | .gap => unit ++ whereIf (Text.isBlank c) .gap
  | .unit => unit ++ number ++ after
  | .after => number ++ after

def isSpans (text : List Char) : Bool :=
  let places := text.foldl (fun places c => (places.flatMap (·.next c)).eraseDups) [Place.start]
  places.contains .unit || places.contains .after

/-- Reads a number and a unit at the front of a text, and the blanks and commas after them. Where no letter
follows the number, its last `e` is the unit. -/
def span? (text : List Char) : Option (List Char × List Char × List Char) :=
  let number := text.takeWhile isNumberPart
  let after := (text.drop number.length).dropWhile Text.isBlank
  let (number, after) :=
    if after.head?.any isLetter then (number, after)
    else
      let number := ((number.reverse.dropWhile (Text.foldChar · ≠ 'e')).drop 1).reverse
      (number, text.drop number.length)
  if number.isEmpty then none
  else
    let unit := after.takeWhile isLetter
    some (number, unit, (after.drop unit.length).dropWhile fun c => Text.isBlank c || c = ',')

/-- The numbers and units of a text. What begins none is passed over; every round takes at least one
character. -/
def spans (text : List Char) : (rounds : Nat) → List (List Char × List Char)
  | 0 => []
  | rounds + 1 =>
    match span? text with
    | some (number, unit, rest) => (number, unit) :: spans rest rounds
    | none => if text.isEmpty then [] else spans (text.drop 1) rounds

def units : List (List String × Binary64) := [
  (["y", "year", "years"], .ofInt 31536000), (["month", "months"], .ofInt 2628000),
  (["w", "week", "weeks"], .ofInt 604800), (["d", "day", "days"], .ofInt 86400),
  (["h", "hour", "hours"], .ofInt 3600), (["min", "mins", "minute", "minutes"], .ofInt 60),
  (["s", "sec", "secs", "second", "seconds"], .one),
  (["ms", "millisecond", "milliseconds"], .ofDecimal false 1 (-3)),
  (["us", "microsecond", "microseconds"], .ofDecimal false 1 (-6))]

private def seconds (number unit : List Char) : Except Fault Binary64 :=
  match Number.readDecimal? (String.ofList number) with
  | none => .error (.badNumber (String.ofList number))
  | some count =>
    match units.find? fun (names, _) => names.contains (String.ofList (fold unit)) with
    | none => .error (.badUnit (String.ofList unit))
    | some (_, length) => .ok (count * length)

def maxDays : Nat := 999999999

/-- Whether a text is a span of time: numbers with units, which are together not too long. -/
def duration? (text : List Char) : Except Fault Bool :=
  if isSpans text then do
    let total ← (spans text (text.length + 1)).foldlM
      (fun total (number, unit) => (seconds number unit).map (total + ·)) Binary64.zero
    if total = .nan then .error .noSpan
    else if total < .ofInt (-(86400 * maxDays)) || .ofInt (86400 * (maxDays + 1)) ≤ total then .error .tooLong
    else .ok true
  else .ok false

def frequencies : List String := ["hourly", "daily", "weekly", "monthly", "yearly"]

def weekdays : List String :=
  ["monday", "tuesday", "wednesday", "thursday", "friday", "saturday", "sunday"]

private def stripped (text : List Char) : List Char := Text.strip text

private def lowered (text : List Char) : String := String.ofList (Text.lower (stripped text))

private def natOf (digits : List Char) : Nat :=
  digits.foldl (fun n c => 10 * n + (Text.digitValue? c).getD 0) 0

/-- Whether a text is a day of the week, by its name or by its number after a `w`; none if what follows the `w`
is digits and no such number. -/
def isDay? (text : List Char) : Option Bool :=
  let word := lowered text
  match word.toList with
  | 'w' :: digits =>
    if !digits.isEmpty && digits.all Text.isDigitSign then
      if digits.all Text.isDecimal && digits.length ≤ Number.maxDigits && natOf digits < 7 then some true
      else none
    else some (weekdays.contains word)
  | _ => some (weekdays.contains word)

/-- Whether a text is an hour of 24. Of two digits the first has to be an ASCII one. -/
private def isHour : List Char → Bool
  | [ones] => Text.isDecimal ones
  | ['2', ones] => '0' ≤ ones && ones ≤ '3'
  | [tens, ones] => (tens = '0' || tens = '1') && Text.isDecimal ones
  | _ => false

private def isHalfDayHour : List Char → Bool
  | ['1', ones] => '0' ≤ ones && ones ≤ '2'
  | [ones] | ['0', ones] => '1' ≤ ones && ones ≤ '9'
  | _ => false

/-- Whether a text is a number below sixty. Of two digits the first has to be an ASCII one. -/
private def isSixtieth : List Char → Bool
  | [ones] => Text.isDecimal ones
  | [tens, ones] => '0' ≤ tens && tens ≤ '5' && Text.isDecimal ones
  | _ => false

private def isSeconds (text : List Char) : Bool :=
  match text.splitOn '.' with
  | [whole] => isSixtieth whole
  | [whole, places] => isSixtieth whole && 0 < places.length && places.length ≤ 6 && places.all Char.isDigit
  | _ => false

/-- Whether a text is a time of day, by 24 hours, or by 12 with a mark of the half of the day; none if it is
made of the characters of one and is none. -/
def isTime? (text : List Char) : Option Bool :=
  let text := stripped text
  let digits := text.takeWhile fun c => Text.isDecimal c || c = '.' || c = ':'
  let after := text.drop digits.length
  let mark := String.ofList (fold (after.dropWhile Text.isBlank))
  if digits.isEmpty || mark ∉ ["", "am", "pm"] then some false
  else
    let isReadable :=
      if mark.isEmpty then
        match digits.splitOn ':' with
        | [hour] => isHour hour
        | [hour, minute] => isHour hour && isSixtieth minute
        | [hour, minute, second] => isHour hour && isSixtieth minute && isSeconds second
        | _ => false
      else
        after.head?.any Text.isBlank &&
          match digits.splitOn ':' with
          | [hour] => isHalfDayHour hour
          | [hour, minute, second] => isHalfDayHour hour && isSixtieth minute && isSeconds second
          | _ => false
    if isReadable then some true else none

def splitAt? (before : List Char) : List Char → Option (List Char × List Char)
  | [] => none
  | c :: rest =>
    let word := (c :: rest).dropWhile Text.isBlank
    let time := (word.drop 2).dropWhile Text.isBlank
    if Text.isBlank c && fold (word.take 2) = ['a', 't'] && time.length + 2 < word.length
        && !time.contains '\n' then
      some (before.reverse, time)
    else if c = '\n' then none
    else splitAt? (c :: before) rest

def daytime? (text : List Char) : Except Fault Bool :=
  let (isBoth, day, time) := match splitAt? [] text with
    | some (day, time) => (true, day, time)
    | none => (false, text, text)
  match isDay? day, isTime? time with
  | none, _ => .error (.badDay (String.ofList day))
  | some isDay, isTime? =>
    if isBoth && !isDay then .error (.badDay (String.ofList day))
    else match isTime? with
      | none => .error (.badTime (String.ofList time))
      | some isTime =>
        if isBoth && !isTime then .error (.badTime (String.ofList time)) else .ok (isDay || isTime)

def checkRotation (text : String) : Except Fault Unit := do
  let chars := stripped text.toList
  if ← size? chars then .ok ()
  else if ← duration? chars then .ok ()
  else if frequencies.contains (lowered chars) then .ok ()
  else if ← daytime? chars then .ok ()
  else .error (.noRotation text)

def checkRetention (text : String) : Except Fault Unit := do
  if ← duration? (stripped text.toList) then .ok () else .error (.noRetention text)

end Scriptlet.Upkeep
