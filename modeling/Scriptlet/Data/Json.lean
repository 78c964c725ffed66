import Scriptlet.Data.Value
import Scriptlet.Number.Reading
import Scriptlet.Text.Quoted

/-!
Reading JSON, and the form of its strings. Numbers with a fraction or an exponent are doubles and all
others integers; of two entries with one key the later value counts, at the place of the earlier; and the
names of the numbers that JSON cannot write are read too. The depth of a text and the digits of an integer
are limited.
-/
namespace Scriptlet.Json

inductive Fault where
  | malformed
  | tooDeep
  deriving DecidableEq, Repr

def maxDepth : Nat := 970

private def skipSpace : List Char → List Char :=
  List.dropWhile fun c => c = ' ' || c = '\t' || c = '\n' || c = '\r'

private def hexValue? (c : Char) : Option Nat :=
  if '0' ≤ c ∧ c ≤ '9' then some (c.toNat - '0'.toNat)
  else if 'a' ≤ c ∧ c ≤ 'f' then some (c.toNat - 'a'.toNat + 10)
  else if 'A' ≤ c ∧ c ≤ 'F' then some (c.toNat - 'A'.toNat + 10)
  else none

private def readHex4 : List Char → Option (Nat × List Char)
  | a :: b :: c :: d :: rest => do
    let a ← hexValue? a
    let b ← hexValue? b
    let c ← hexValue? c
    let d ← hexValue? d
    some (a * 4096 + b * 256 + c * 16 + d, rest)
  | _ => none

/-- Reads the part of an escape after its backslash. Two escapes of a surrogate pair are one character;
half of a pair is none, but may stand in a string. -/
private def readEscape : List Char → Option (Option Char × List Char)
  | 'u' :: rest => do
    let (unit, rest) ← readHex4 rest
    if 0xd800 ≤ unit ∧ unit < 0xdc00 then
      let pair := match rest with
        | '\\' :: 'u' :: more => readHex4 more
        | _ => none
      match pair with
      | some (low, more) =>
        if 0xdc00 ≤ low ∧ low < 0xe000 then
          some (Char.ofNat (0x10000 + (unit - 0xd800) * 0x400 + (low - 0xdc00)), more)
        else some (none, rest)
      | none => some (none, rest)
    else if 0xdc00 ≤ unit ∧ unit < 0xe000 then some (none, rest)
    else some (Char.ofNat unit, rest)
  | '"' :: rest => some ('"', rest)
  | '\\' :: rest => some ('\\', rest)
  | '/' :: rest => some ('/', rest)
  | 'b' :: rest => some ('\x08', rest)
  | 'f' :: rest => some ('\x0c', rest)
  | 'n' :: rest => some ('\n', rest)
  | 'r' :: rest => some ('\r', rest)
  | 't' :: rest => some ('\t', rest)
  | _ => none

/-- Reads a string after its opening quote; `read` holds the characters so far, the last one first, and
`isWhole` tells whether all of them are characters. -/
private def readString (read : List Char) (isWhole : Bool) : Nat → List Char → Option (Value × List Char)
  | 0, _ => none
  | fuel + 1, text =>
    match text with
    | [] => none
    | '"' :: rest => some (if isWhole then .text (String.ofList read.reverse) else .brokenText, rest)
    | '\\' :: rest => do
      let (c?, rest) ← readEscape rest
      match c? with
      | some c => readString (c :: read) isWhole fuel rest
      | none => readString read false fuel rest
    | c :: rest => if c.toNat < 0x20 then none else readString (c :: read) isWhole fuel rest

private def natOf (digits : List Char) : Nat :=
  digits.foldl (fun n c => 10 * n + (c.toNat - '0'.toNat)) 0

private def isDigit (c : Char) : Bool := '0' ≤ c && c ≤ '9'

private def readExponent (text : List Char) : Option Int × List Char :=
  match text with
  | e :: rest =>
    if e = 'e' || e = 'E' then
      let (negative, unsigned) := match rest with
        | '-' :: r => (true, r)
        | '+' :: r => (false, r)
        | r => (false, r)
      let digits := unsigned.takeWhile isDigit
      if digits.isEmpty then (none, text)
      else
        let size : Int := natOf digits
        (some (if negative then -size else size), unsigned.dropWhile isDigit)
    else (none, text)
  | [] => (none, [])

private def readNumber (negative : Bool) (text : List Char) : Option (Value × List Char) :=
  let whole := match text with
    | '0' :: _ => ['0']
    | _ => text.takeWhile isDigit
  if whole.isEmpty then none
  else
    let rest := text.drop whole.length
    let places := match rest with
      | '.' :: after => after.takeWhile isDigit
      | _ => []
    let rest := if places.isEmpty then rest else rest.drop (places.length + 1)
    let (exponent, rest) := readExponent rest
    if places.isEmpty && exponent.isNone then
      let n : Int := natOf whole
      if Number.maxDigits < whole.length then none else some (.int (if negative then -n else n), rest)
    else
      some (.float (.ofDecimal negative (natOf (whole ++ places)) (exponent.getD 0 - places.length)), rest)

private def wordValues : List (String × Value) :=
  [("null", .null), ("true", .bool true), ("false", .bool false), ("NaN", .float .nan),
   ("Infinity", .float (.infinite false)), ("-Infinity", .float (.infinite true))]

private def orMalformed {α : Type} : Option α → Except Fault α
  | some a => .ok a
  | none => .error .malformed

mutual

private def readValue (depth : Nat) : Nat → List Char → Except Fault (Value × List Char)
  | 0, _ => .error .malformed
  | fuel + 1, text =>
    match depth with
    | 0 => .error .tooDeep
    | depth + 1 =>
      match wordValues.find? fun (word, _) => word.toList.isPrefixOf text with
      | some (word, value) => .ok (value, text.drop word.length)
      | none =>
        match text with
        | '"' :: rest => orMalformed (readString [] true rest.length.succ rest)
        | '[' :: rest =>
          match skipSpace rest with
          | ']' :: rest => .ok (.list [], rest)
          | rest => readItems depth [] fuel rest
        | '\x7b' :: rest =>
          match skipSpace rest with
          | '\x7d' :: rest => .ok (.map [], rest)
          | rest => readEntries depth [] fuel rest
        | '-' :: rest => orMalformed (readNumber true rest)
        | rest => orMalformed (readNumber false rest)

/-- Reads the items of a list after its opening bracket; `read` holds the items so far, the last one
first. -/
private def readItems (depth : Nat) (read : List Value) :
    Nat → List Char → Except Fault (Value × List Char)
  | 0, _ => .error .malformed
  | fuel + 1, text => do
    let (item, rest) ← readValue depth fuel text
    match skipSpace rest with
    | ',' :: rest => readItems depth (item :: read) fuel (skipSpace rest)
    | ']' :: rest => .ok (.list (item :: read).reverse, rest)
    | _ => .error .malformed

private def readEntries (depth : Nat) (read : List (Value × Value)) :
    Nat → List Char → Except Fault (Value × List Char)
  | 0, _ => .error .malformed
  | fuel + 1, text =>
    match text with
    | '"' :: rest => do
      let (key, rest) ← orMalformed (readString [] true rest.length.succ rest)
      match skipSpace rest with
      | ':' :: rest =>
        let (value, rest) ← readValue depth fuel (skipSpace rest)
        let entries := Value.putEntry read key value
        match skipSpace rest with
        | ',' :: rest => readEntries depth entries fuel (skipSpace rest)
        | '\x7d' :: rest => .ok (.map entries, rest)
        | _ => .error .malformed
      | _ => .error .malformed
    | _ => .error .malformed

end

def read (text : String) : Except Fault Value := do
  let chars := skipSpace text.toList
  let (value, rest) ← readValue maxDepth (2 * chars.length + 2) chars
  if (skipSpace rest).isEmpty then .ok value else .error .malformed

private theorem isText_of_readString {read : List Char} {isWhole : Bool} {fuel : Nat} {text rest : List Char}
    {value : Value} (done : readString read isWhole fuel text = some (value, rest)) : value.isText = true := by
  induction fuel generalizing read isWhole text with
  | zero => cases done
  | succ fuel ih =>
    unfold readString at done
    split at done
    next => cases done
    next =>
      cases done
      split <;> rfl
    next =>
      obtain ⟨⟨c?, rest⟩, _, done⟩ := Option.bind_eq_some_iff.mp done
      dsimp only at done
      split at done <;> exact ih done
    next =>
      split at done
      · cases done
      · exact ih done

private theorem proper_of_isText {value : Value} (isText : value.isText = true) : value.Proper Value.isText := by
  cases value with
  | map entries => cases isText
  | _ => exact .leaf nofun

private theorem proper_of_readNumber {negative : Bool} {text rest : List Char} {value : Value}
    (done : readNumber negative text = some (value, rest)) : value.Proper Value.isText := by
  unfold readNumber at done
  extract_lets whole tail places later n at done
  split at done
  next => cases done
  next =>
    generalize readExponent later = ended at done
    dsimp only at done
    split at done
    next =>
      split at done
      · cases done
      · cases done
        exact .leaf nofun
    next =>
      cases done
      exact .leaf nofun

private theorem proper_of_word {accepts : String × Value → Bool} {entry : String × Value}
    (found : wordValues.find? accepts = some entry) : entry.2.Proper Value.isText := by
  have all : ∀ entry ∈ wordValues, entry.2.Proper Value.isText := by
    simp only [wordValues, List.forall_mem_cons, List.not_mem_nil, false_implies, implies_true, and_true]
    refine ⟨.leaf nofun, .leaf nofun, .leaf nofun, .leaf nofun, .leaf nofun, .leaf nofun⟩
  exact all entry (List.mem_of_find?_eq_some found)

private theorem orMalformed_eq_ok {α : Type} {result? : Option α} {a : α} (done : orMalformed result? = .ok a) :
    result? = some a := by
  cases result? with
  | none => cases done
  | some result =>
    cases done
    rfl

/-- What is said of the three readers that call one another, for one amount of fuel. -/
private def KeepsProper (fuel : Nat) : Prop :=
  (∀ depth text value rest, readValue depth fuel text = .ok (value, rest) → value.Proper Value.isText) ∧
  (∀ depth read text value rest, readItems depth read fuel text = .ok (value, rest) → value.Proper Value.isText) ∧
  ∀ depth read text value rest, (Value.map read).Proper Value.isText →
    readEntries depth read fuel text = .ok (value, rest) → value.Proper Value.isText

private theorem keepsProper (fuel : Nat) : KeepsProper fuel := by
  induction fuel with
  | zero => exact ⟨nofun, nofun, nofun⟩
  | succ fuel ih =>
    obtain ⟨ofValue, ofItems, ofEntries⟩ := ih
    refine ⟨fun depth text value rest done => ?_, fun depth read text value rest done => ?_,
      fun depth read text value rest sofar done => ?_⟩
    · unfold readValue at done
      split at done
      next => cases done
      next =>
        split at done
        next found =>
          cases done
          exact proper_of_word found
        next =>
          split at done
          next => exact proper_of_isText (isText_of_readString (orMalformed_eq_ok done))
          next =>
            split at done
            · cases done
              exact .leaf nofun
            · exact ofItems _ _ _ _ _ done
          next =>
            split at done
            · cases done
              exact Value.Proper.empty
            · exact ofEntries _ _ _ _ _ Value.Proper.empty done
          next => exact proper_of_readNumber (orMalformed_eq_ok done)
          next => exact proper_of_readNumber (orMalformed_eq_ok done)
    · unfold readItems at done
      cases made : readValue depth fuel text with
      | error fault => rw [made] at done; cases done
      | ok first =>
        rw [made] at done
        dsimp only [bind, Except.bind] at done
        split at done
        · exact ofItems _ _ _ _ _ done
        · cases done
          exact .leaf nofun
        · cases done
    · unfold readEntries at done
      split at done
      next opened =>
        cases named : orMalformed (readString [] true opened.length.succ opened) with
        | error fault => rw [named] at done; cases done
        | ok first =>
          rw [named] at done
          dsimp only [bind, Except.bind] at done
          split at done
          next after _ =>
            cases made : readValue depth fuel (skipSpace after) with
            | error fault => rw [made] at done; cases done
            | ok second =>
              rw [made] at done
              have isText := isText_of_readString (orMalformed_eq_ok named)
              have grown := sofar.putEntry isText (ofValue _ _ _ _ made)
              dsimp only at done
              split at done
              · exact ofEntries _ _ _ _ _ grown done
              · cases done
                exact grown
              · cases done
          next => cases done
      next => cases done

/-- Keys are strings, and of two entries with one key the later one replaces the earlier. -/
theorem proper_of_read {text : String} {value : Value} (done : read text = .ok value) : value.Proper Value.isText := by
  unfold read at done
  extract_lets chars at done
  cases made : readValue maxDepth (2 * chars.length + 2) chars with
  | error fault => rw [made] at done; cases done
  | ok first =>
    rw [made] at done
    dsimp only [bind, Except.bind] at done
    split at done
    · cases done
      exact (keepsProper _).1 _ _ _ _ made
    · cases done

private def escapeChar (c : Char) : List Char :=
  if c = '"' || c = '\\' then ['\\', c]
  else if c.toNat < 0x20 then '\\' :: 'u' :: Text.Quoted.hexDigits 4 c.toNat
  else [c]

def quoted (text : String) : String :=
  String.ofList ('"' :: text.toList.flatMap escapeChar ++ ['"'])

end Scriptlet.Json
