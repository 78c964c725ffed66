import Scriptlet.Text.Digit

/-!
Templates: text with fields in braces, to be filled in by name. A brace that is written twice stands for
itself. A field may have a conversion after an exclamation mark and a format after a colon.
-/
namespace Scriptlet.Text.Template

inductive Fault where
  | loneOpening
  | loneClosing
  | openField
  | openFormat
  | braceInName
  | noConversion
  | longConversion
  | numbered
  | tooLargeNumber
  | unknown (name : String)
  deriving DecidableEq, Repr

def Fault.message : Fault → String
  | loneOpening => "Single '\x7b' encountered in format string"
  | loneClosing => "Single '\x7d' encountered in format string"
  | openField => "expected '\x7d' before end of string"
  | openFormat => "unmatched '\x7b' in format spec"
  | braceInName => "unexpected '\x7b' in field name"
  | noConversion => "end of string while looking for conversion specifier"
  | longConversion => "expected ':' after conversion specifier"
  | numbered => "Format string contains positional fields"
  | tooLargeNumber => "Too many decimal digits in format string"
  | unknown name => "'" ++ name ++ "'"

inductive Piece where
  | text (content : List Char)
  | field (name : List Char)
  deriving DecidableEq, Repr

/-- Reads the name of a field, the character that ends it, if one does, and the rest. Within brackets no
character but the closing one counts. -/
def fieldName (inBrackets : Bool) :
    List Char → Except Fault (List Char × Option Char × List Char)
  | [] => .ok ([], none, [])
  | c :: rest =>
    if !inBrackets && c = '\x7b' then .error .braceInName
    else if !inBrackets && ['\x7d', ':', '!'].contains c then .ok ([], some c, rest)
    else
      let inBrackets := if inBrackets then c ≠ ']' else c = '['
      (fieldName inBrackets rest).map fun (name, last, rest) => (c :: name, last, rest)

/-- Passes over the format of a field, in which `depth` braces are open, and gives what follows it. -/
def afterFormat (depth : Nat) : List Char → Except Fault (List Char)
  | [] => .error .openFormat
  | c :: rest =>
    if c = '\x7b' then afterFormat (depth + 1) rest
    else if c = '\x7d' then (if depth ≤ 1 then .ok rest else afterFormat (depth - 1) rest)
    else afterFormat depth rest

def afterConversion : List Char → Except Fault (List Char)
  | [] => .error .noConversion
  | [_] => .error .openFormat
  | _ :: c :: rest =>
    if c = '\x7d' then .ok rest else if c = ':' then afterFormat 1 rest else .error .longConversion

def field (text : List Char) : Except Fault (Piece × List Char) := do
  let (name, last, rest) ← fieldName false text
  let rest ← match last with
    | none => .error .openField
    | some c => if c = ':' then afterFormat 1 rest else if c = '!' then afterConversion rest else .ok rest
  .ok (.field name, rest)

/-- Reads all pieces of a template; every round takes at least one character. -/
def piecesFrom (text : List Char) : (rounds : Nat) → Except Fault (List Piece)
  | 0 => .ok []
  | rounds + 1 => do
    let run := text.takeWhile fun c => c ≠ '\x7b' && c ≠ '\x7d'
    match text.drop run.length with
    | [] => .ok [.text run]
    | c :: rest =>
      if rest.head? = some c then .ok (.text (run ++ [c]) :: (← piecesFrom (rest.drop 1) rounds))
      else if c = '\x7d' then .error .loneClosing
      else if rest.isEmpty then .error .loneOpening
      else
        let (piece, rest) ← field rest
        .ok (.text run :: piece :: (← piecesFrom rest rounds))

def pieces (text : List Char) : Except Fault (List Piece) := piecesFrom text (text.length + 1)

/-- The text of a piece. The name of a field ends where a point or a bracket begins. -/
def Piece.fill (values : List (String × String)) : Piece → Except Fault (List Char)
  | .text content => .ok content
  | .field name =>
    let first := name.takeWhile fun c => c ≠ '.' && c ≠ '['
    if first.all isDecimal then
      let number := first.foldl (fun n c => 10 * n + (digitValue? c).getD 0) 0
      .error (if number < Nat.pow 2 63 then .numbered else .tooLargeNumber)
    else match values.lookup (String.ofList first) with
      | some value => .ok value.toList
      | none => .error (.unknown (String.ofList first))

def fill (values : List (String × String)) (pieces : List Piece) : Except Fault String :=
  (pieces.mapM (Piece.fill values)).map fun parts => String.ofList parts.flatten

end Scriptlet.Text.Template
