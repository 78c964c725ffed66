import Scriptlet.Data.Value
import Scriptlet.Number.Reading
import Scriptlet.Yaml.Token

/-!
Dates and times of day as scalars write them, and which of them exist in the calendar.
-/
namespace Scriptlet.Yaml

structure Day where
  year : Nat
  month : Nat
  day : Nat

/-- A time of day, with its distance in minutes from universal time if that is written. -/
structure DayTime where
  hour : Nat
  minute : Nat
  second : Nat
  microsecond : Nat
  offset : Option Int

namespace Moment

def digits? (count : Nat) (text : List Char) : Option (Nat × List Char) :=
  let digits := text.take count
  if digits.length = count && digits.all Char.isDigit then
    some (Number.natOfDigits digits, text.drop count)
  else none

def oneOrTwo? (text : List Char) : Option (Nat × List Char) :=
  (digits? 2 text).or (digits? 1 text)

private def expect? (c : Char) : List Char → Option (List Char)
  | d :: rest => if d = c then some rest else none
  | [] => none

private def isBlank (c : Char) : Bool := c = ' ' || c = '\t'

def offset? (text : List Char) : Option (Option Int) :=
  match text with
  | [] => some none
  | text =>
    match text.dropWhile isBlank with
    | [] => none
    | ['Z'] => some (some 0)
    | sign :: rest => do
      if sign = '+' || sign = '-' then
        let (hours, rest) ← oneOrTwo? rest
        let minutes ← match rest with
          | [] => some 0
          | rest => do
            let (minutes, rest) ← digits? 2 (← expect? ':' rest)
            if rest.isEmpty then some minutes else none
        let distance : Int := 60 * hours + minutes
        some (some (if sign = '-' then -distance else distance))
      else none

def fraction (text : List Char) : Nat × List Char :=
  match text with
  | '.' :: rest =>
    let digits := rest.takeWhile Char.isDigit
    (Number.natOfDigits ((digits ++ List.replicate 6 '0').take 6), rest.drop digits.length)
  | rest => (0, rest)

def dayTime? (text : List Char) : Option DayTime := do
  let (hour, rest) ← oneOrTwo? text
  let (minute, rest) ← digits? 2 (← expect? ':' rest)
  let (second, rest) ← digits? 2 (← expect? ':' rest)
  let (microsecond, rest) := fraction rest
  some ⟨hour, minute, second, microsecond, ← offset? rest⟩

def read? (text : List Char) : Option (Day × Option DayTime) := do
  let (year, rest) ← digits? 4 text
  let (month, rest) ← oneOrTwo? (← expect? '-' rest)
  let (day, rest) ← oneOrTwo? (← expect? '-' rest)
  match rest with
  | [] => some (⟨year, month, day⟩, none)
  | c :: after =>
    if c = 'T' || c = 't' then some (⟨year, month, day⟩, some (← dayTime? after))
    else if isBlank c then some (⟨year, month, day⟩, some (← dayTime? (after.dropWhile isBlank)))
    else none

/-- Whether a plain scalar is a day or a day and a time. A day alone has two digits for its month and two
for its day. -/
def isPlain (text : List Char) : Bool :=
  match read? text with
  | some (_, none) => text.length = 10
  | some (_, some _) => true
  | none => false

def isLeap (year : Nat) : Bool := year % 4 = 0 && (year % 100 ≠ 0 || year % 400 = 0)

def daysInMonth (year month : Nat) : Nat :=
  if month = 2 then (if isLeap year then 29 else 28)
  else if [4, 6, 9, 11].contains month then 30
  else 31

def checkDay (d : Day) : Except Error Unit :=
  if d.year = 0 then .error (.noValue "year 0 is out of range")
  else if d.month < 1 || 12 < d.month then .error (.noValue "month must be in 1..12")
  else if d.day < 1 || daysInMonth d.year d.month < d.day then
    .error (.noValue "day is out of range for month")
  else .ok ()

private def call (name : String) (arguments : List String) : String :=
  "datetime." ++ name ++ "(" ++ ", ".intercalate arguments ++ ")"

/-- A distance in minutes as days and seconds, the seconds never negative. -/
private def spanText (minutes : Int) : String :=
  let days := minutes.fdiv 1440
  let seconds := minutes.fmod 1440 * 60
  call "timedelta" ((if days = 0 then [] else ["days=" ++ toString days])
    ++ (if seconds = 0 then [] else ["seconds=" ++ toString seconds]))

def checkOffset (minutes : Int) : Except Error Unit :=
  if minutes.natAbs < 1440 then .ok ()
  else .error (.noValue ("offset must be a timedelta strictly between -timedelta(hours=24) and "
    ++ "timedelta(hours=24), not " ++ spanText minutes ++ "."))

def checkTime (t : DayTime) : Except Error Unit :=
  if 23 < t.hour then .error (.noValue "hour must be in 0..23")
  else if 59 < t.minute then .error (.noValue "minute must be in 0..59")
  else if 59 < t.second then .error (.noValue "second must be in 0..59")
  else .ok ()

private def dayParts (d : Day) : List String := [toString d.year, toString d.month, toString d.day]

def dayText (d : Day) : String := call "date" (dayParts d)

private def offsetText (minutes : Int) : String :=
  "tzinfo=" ++ if minutes = 0 then "datetime.timezone.utc" else call "timezone" [spanText minutes]

/-- The canonical text of a day and a time; zeros at the end are left out after the minutes. -/
def momentText (d : Day) (t : DayTime) : String :=
  let seconds :=
    if t.microsecond ≠ 0 then [toString t.second, toString t.microsecond]
    else if t.second ≠ 0 then [toString t.second]
    else []
  call "datetime" (dayParts d ++ [toString t.hour, toString t.minute] ++ seconds
    ++ (t.offset.map offsetText).toList)

/-- The number of days up to a day, counted from the last one before the year 1. -/
def dayNumber (d : Day) : Nat :=
  let before := d.year - 1
  (List.range (d.month - 1)).foldl (fun days month => days + daysInMonth d.year (month + 1))
    (365 * before + before / 4 - before / 100 + before / 400 + d.day)

/-- The distance in microseconds of a moment from the day numbered zero, if it is told from universal
time. -/
def instant? (d : Day) (t : DayTime) : Option Int :=
  t.offset.map fun offset =>
    let minutes : Int := 1440 * dayNumber d + 60 * t.hour + t.minute - offset
    1000000 * (60 * minutes + t.second) + t.microsecond

def value? (text : List Char) : Option (Except Error Value) :=
  match read? text with
  | none => none
  | some (day, none) => some do
    checkDay day
    .ok (.date (dayText day))
  | some (day, some time) => some do
    (time.offset.map checkOffset).getD (.ok ())
    checkDay day
    checkTime time
    .ok (.timestamp (momentText day time) (instant? day time))

end Moment
end Scriptlet.Yaml
