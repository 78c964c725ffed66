import Scriptlet.Config.Issue
import Scriptlet.Data.Value
import Scriptlet.Number.Decimal
import Scriptlet.Number.Reading
import Scriptlet.Path
import Scriptlet.Text.Quoted
import Scriptlet.Text.Utf8

/-!
Lenient reading of single values: a text that names a number or a truth value is accepted in its place,
and so is a number for a truth value. Bytes count as the text that they are in UTF-8.
-/
namespace Scriptlet.Config

/-- The text of a value, if it is one at all; `fault` is what is wrong with bytes that are no text. -/
def textOf? (fault : Fault) : Value → Option (Checked String)
  | .text s => some (.ok s)
  | .brokenText => some (.fail .brokenText)
  | .bytes content =>
    match Text.Utf8.decode ⟨content.toArray⟩ with
    | .ok s => some (.ok s)
    | .error _ => some (.fail fault)
  | _ => none

def readText (value : Value) : Checked String := (textOf? .brokenText value).getD (.fail .notText)

def wordBound : Nat := Nat.pow 2 63

private def boolOfInt (n : Int) : Checked Bool :=
  if n = 0 then .ok false else if n = 1 then .ok true else .fail .unreadableBool

private def boolOfText (s : String) : Checked Bool :=
  let word := String.ofList (s.toList.map Char.toLower)
  if ["0", "off", "f", "false", "n", "no"].contains word then .ok false
  else if ["1", "on", "t", "true", "y", "yes"].contains word then .ok true
  else .fail .unreadableBool

/-- Reads a truth value. Numbers beyond 64 bits are none at all. -/
def readBool : Value → Checked Bool
  | .bool b => .ok b
  | .int n => if -wordBound ≤ n && n < wordBound then boolOfInt n else .fail .notBool
  | .float x =>
    match x.toInt? with
    | some n => if n.natAbs < wordBound then boolOfInt n else .fail .notBool
    | none => .fail .notBool
  | value =>
    match textOf? .unreadableBool value with
    | some text => text.bind boolOfText
    | none => .fail .notBool

private def intOfText (s : String) : Checked Int :=
  match Number.readInt s with
  | .ok n => .ok n
  | .error .unreadable => .fail .unreadableInt
  | .error (.tooLong _) => .fail .hugeInt

/-- Reads an integer. One that is written as a decimal has to fit into 64 bits. -/
def readInt : Value → Checked Int
  | .int n => .ok n
  | .bool b => .ok (if b then 1 else 0)
  | .float x =>
    match x.toInt? with
    | some n => if n.natAbs < wordBound then .ok n else .fail .hugeInt
    | none => .fail (if x.isFinite then .fractionalInt else .infiniteInt)
  | value =>
    match textOf? .unreadableInt value with
    | some text => text.bind intOfText
    | none => .fail .notInt

private def floatOfText (s : String) : Checked Binary64 :=
  match Number.readFloat? s with
  | some x => .ok x
  | none => .fail .unreadableFloat

def readFloat : Value → Checked Binary64
  | .float x => .ok x
  | .int n => if (Binary64.ofInt n).isFinite then .ok (.ofInt n) else .fail .notFloat
  | .bool b => .ok (if b then .one else .zero)
  | value =>
    match textOf? .unreadableFloat value with
    | some text => text.bind floatOfText
    | none => .fail .notFloat

/-- Reads a number from 0 to 1. What is no number counts as above. -/
def readUnitFloat (value : Value) : Checked Binary64 := do
  let x ← readFloat value
  if ¬ x ≤ Binary64.one then .fail .aboveOne
  else if x < Binary64.zero then .fail .belowZero
  else .ok x

def readMember {α : Type} (members : List α) (name : α → String) (value : Value) : Checked α :=
  let unknown : Checked α := .fail (.noMember (members.map name))
  match textOf? (.noMember (members.map name)) value with
  | some text => text.bind fun s => ((members.find? fun member => name member = s).map .ok).getD unknown
  | none => unknown

def readWord {α : Type} (members : List α) (name : α → String) : Value → Checked α
  | .text s =>
    match members.find? fun member => name member = s with
    | some member => .ok member
    | none => .fail (.noLiteral (members.map name))
  | .brokenText => .fail .brokenText
  | _ => .fail (.noLiteral (members.map name))

def readPath : Value → Checked (Option Path)
  | .null => .ok none
  | .text s => .ok (some (.ofString s))
  | _ => .fail .notPath

/-- An integer as a key: beyond 64 bits it is written as text, if it is not too long for that. -/
def intStep (n : Int) : Step :=
  if -wordBound ≤ n && n < wordBound then .index n
  else if Number.maxDigits < (Nat.toDigits 10 n.natAbs).length then .key "<unprintable int object>"
  else .key (toString n)

def keyStep : Value → Step
  | .text s => .key s
  | .int n => intStep n
  | .bool b => .index (if b then 1 else 0)
  | .float x => .key x.text
  | .bytes content => .key (Text.quotedBytes content)
  | .date s | .timestamp s _ => .key s
  | .brokenText => .key "\ufffd"
  | .null | .list _ | .set _ | .map _ => .key "None"

def optional {α : Type} (entries : List (Value × Value)) (name : String) (default : α)
    (read : Value → Checked α) : Checked α :=
  match Value.lookup? entries name with
  | some value => (read value).under (.key name)
  | none => .ok default

def required {α : Type} (entries : List (Value × Value)) (name : String) (read : Value → Checked α) :
    Checked α :=
  match Value.lookup? entries name with
  | some value => (read value).under (.key name)
  | none => (Checked.fail .missing).under (.key name)

end Scriptlet.Config
