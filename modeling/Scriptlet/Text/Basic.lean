/-!
Texts as lists of characters: line ends, blanks, columns, what occurs in a text, and places in it.
-/
namespace Scriptlet.Text

/-- A carriage return, alone or before a line feed, reads as a line feed. -/
def unifyNewlines : List Char → List Char
  | [] => []
  | '\r' :: '\n' :: rest => '\n' :: unifyNewlines rest
  | '\r' :: rest => '\n' :: unifyNewlines rest
  | c :: rest => c :: unifyNewlines rest

def padRight (width : Nat) (text : String) : String :=
  text ++ String.ofList (List.replicate (width - text.length) ' ')

/-- The white space of every script together with the separators U+001C to U+001F. -/
def blanks : List Char :=
  ['\x09', '\x0a', '\x0b', '\x0c', '\x0d', '\x1c', '\x1d', '\x1e', '\x1f', ' ', '\u0085', '\u00a0',
   '\u1680', '\u2000', '\u2001', '\u2002', '\u2003', '\u2004', '\u2005', '\u2006', '\u2007',
   '\u2008', '\u2009', '\u200a', '\u2028', '\u2029', '\u202f', '\u205f', '\u3000']

def isBlank (c : Char) : Bool := blanks.contains c

def strip (text : List Char) : List Char :=
  ((text.dropWhile isBlank).reverse.dropWhile isBlank).reverse

def isAllBlank (text : List Char) : Bool := text.all isBlank

private theorem dropWhile_isBlank_eq_nil_iff {text : List Char} :
    text.dropWhile isBlank = [] ↔ isAllBlank text = true := by
  induction text with
  | nil => simp [isAllBlank]
  | cons c rest ih =>
    by_cases blank : isBlank c <;> simp_all [isAllBlank]

theorem strip_eq_nil_iff {text : List Char} : strip text = [] ↔ isAllBlank text = true := by
  rw [strip, List.reverse_eq_nil_iff, dropWhile_isBlank_eq_nil_iff, isAllBlank, List.all_reverse]
  constructor
  · intro rest
    cases remains : text.dropWhile isBlank with
    | nil => exact dropWhile_isBlank_eq_nil_iff.mp remains
    | cons c later =>
      have first := List.head?_dropWhile_not isBlank text
      simp_all
  · intro all
    rw [dropWhile_isBlank_eq_nil_iff.mpr all]
    rfl

def occursIn (needle : List Char) : List Char → Bool
  | [] => needle.isEmpty
  | c :: rest => needle.isPrefixOf (c :: rest) || occursIn needle rest

def indexOf? (needle : List Char) : List Char → Option Nat
  | [] => if needle.isEmpty then some 0 else none
  | c :: rest =>
    if needle.isPrefixOf (c :: rest) then some 0 else (indexOf? needle rest).map (· + 1)

def firstLine (text : List Char) : List Char := text.takeWhile (· ≠ '\n')

theorem occursIn_iff {needle text : List Char} : occursIn needle text = true ↔ needle <:+: text := by
  induction text with
  | nil => simp [occursIn]
  | cons c rest ih => simp [occursIn, ih, List.infix_cons_iff]

structure Cursor where
  offset : Nat
  before : Option Char
  rest : List Char
  deriving DecidableEq, Repr

namespace Cursor

def start (text : List Char) : Cursor := ⟨0, none, text⟩

def stop (cursor : Cursor) : Nat := cursor.offset + cursor.rest.length

end Cursor
end Scriptlet.Text
