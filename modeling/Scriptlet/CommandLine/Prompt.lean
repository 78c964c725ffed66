import Scriptlet.Language
import Scriptlet.Text.Basic
import Scriptlet.Text.Lowercase
import Scriptlet.Text.Quoted
import Scriptlet.Text.Utf8

/-!
Questions to the user: each is asked again until the line that answers it is accepted, or until no line
is left.
-/
namespace Scriptlet.CommandLine

structure Input where
  lines : List String
  /-- Whether bytes that are not UTF-8 follow the lines. -/
  isBroken : Bool
  deriving DecidableEq, Repr

namespace Input

/-- The lines of a text, and the text after the last line end; `line` holds the characters of the first
line so far, the last one first. -/
def splitLines (line : List Char) : List Char → List String × String
  | [] => ([], String.ofList line.reverse)
  | c :: rest =>
    if c = '\n' then
      let (lines, tail) := splitLines [] rest
      (String.ofList line.reverse :: lines, tail)
    else splitLines (c :: line) rest

/-- The lines that can be read from bytes. Bytes that are not UTF-8 spoil all lines, but a character that is
cut off at the end spoils only the line it is in. -/
def ofBytes (bytes : ByteArray) : Input :=
  match Text.Utf8.decode bytes with
  | .ok text =>
    let (lines, tail) := splitLines [] (Text.unifyNewlines text.toList)
    ⟨if tail.isEmpty then lines else lines ++ [tail], false⟩
  | .error fault =>
    if fault.reason ≠ .unexpectedEnd then ⟨[], true⟩
    else match Text.Utf8.decode (bytes.extract 0 fault.offset) with
      | .ok text => ⟨(splitLines [] (Text.unifyNewlines text.toList)).1, true⟩
      | .error _ => ⟨[], true⟩

end Input

structure Asked (α : Type) where
  answer : Option α
  lines : List String
  shown : String

def ask {α : Type} (question : String) (accept : String → Except String α) : List String → Asked α
  | [] => ⟨none, [], question⟩
  | line :: rest =>
    let shown := question ++ line ++ "\n"
    match accept line with
    | .ok answer => ⟨some answer, rest, shown⟩
    | .error complaint =>
      let later := ask question accept rest
      { later with shown := shown ++ "Error: " ++ complaint ++ "\n" ++ later.shown }

namespace Choice

/-- A character without its case. Beyond ASCII the long s and the kelvin sign have an ASCII letter for their
small form. -/
def caseless (c : Char) : Char :=
  if c = '\u017f' then 's' else if c = '\u212a' then 'k' else c.toLower

def named? (choices : List String) (line : String) : Option String :=
  choices.find? fun choice => choice.toList.map caseless = line.toList.map caseless

def complaint (choices : List String) (line : String) : String :=
  Text.quoted line ++ (if choices.length = 1 then " is not " else " is not one of ")
    ++ ", ".intercalate (choices.map Text.quoted) ++ "."

def accept (choices : List String) (default line : String) : Except String String :=
  if line.isEmpty then .ok default
  else match named? choices line with
    | some choice => .ok choice
    | none => .error (complaint choices line)

def question (text : String) (choices : List String) (default : String) : String :=
  text ++ " (" ++ ", ".intercalate choices ++ ") [" ++ default ++ "]: "

end Choice

namespace Confirmation

/-- Accepts yes and no, whatever their case and the blanks around them; an empty line is no. -/
def accept (line : String) : Except String Bool :=
  let answer := String.ofList (Text.strip (Text.lower line.toList))
  if answer = "y" || answer = "yes" then .ok true
  else if answer = "n" || answer = "no" || answer = "" then .ok false
  else .error "invalid input"

def question (text : String) : String := text ++ " [y/N]: "

end Confirmation
end Scriptlet.CommandLine
