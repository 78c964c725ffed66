import Scriptlet.Pattern.CharClass
import Scriptlet.Text.Basic

/-!
Patterns of text and how they match. A repetition takes as many characters as it can and gives back
one at a time, and an alternative is tried after the one before it has failed, so that the match of a
pattern is the first in this order of preference.
-/
namespace Scriptlet
open Text (Cursor)

inductive Pattern where
  | nothing
  | one (chars : CharClass)
  | many (chars : CharClass)
  | seq (first second : Pattern)
  | either (first second : Pattern)
  | optional (inner : Pattern)
  | lineStart
  | lineEnd
  | wordEdge
  | notBefore (chars : CharClass)
  deriving DecidableEq, Repr

namespace Pattern

instance : Append Pattern := ⟨seq⟩

def run (chars : CharClass) : Pattern := seq (one chars) (many chars)

def text (chars : String) : Pattern := chars.toList.foldr (fun c rest => one (.exactly c) ++ rest) nothing

def textAnyCase (chars : String) : Pattern :=
  chars.toList.foldr (fun c rest => one (.anyCase c) ++ rest) nothing

def oneOf (first : Pattern) (others : List Pattern) : Pattern :=
  match others with
  | [] => first
  | second :: later => either first (oneOf second later)

def oneTextOf (first : String) (others : List String) : Pattern :=
  oneOf (textAnyCase first) (others.map textAnyCase)

def atWordEdge (cursor : Cursor) : Bool :=
  cursor.before.any Text.isWordChar != cursor.rest.head?.any Text.isWordChar

variable {α : Type}

/-- Continues after each run of characters of a class from here on, the longest run first. -/
def afterMany (chars : CharClass) (next : Cursor → Option α) (offset : Nat) (before : Option Char) :
    List Char → Option α
  | [] => next ⟨offset, before, []⟩
  | c :: rest =>
    if chars.has c then
      (afterMany chars next (offset + 1) (some c) rest).or (next ⟨offset, before, c :: rest⟩)
    else next ⟨offset, before, c :: rest⟩

/-- Matches a pattern at a place and continues with `next` after it; the first way that succeeds. -/
def matchThen : Pattern → (next : Cursor → Option α) → Cursor → Option α
  | nothing, next, cursor => next cursor
  | one chars, next, ⟨offset, _, c :: rest⟩ =>
    if chars.has c then next ⟨offset + 1, some c, rest⟩ else none
  | one _, _, ⟨_, _, []⟩ => none
  | many chars, next, ⟨offset, before, rest⟩ => afterMany chars next offset before rest
  | seq first second, next, cursor => first.matchThen (second.matchThen next) cursor
  | either first second, next, cursor =>
    (first.matchThen next cursor).or (second.matchThen next cursor)
  | optional inner, next, cursor => (inner.matchThen next cursor).or (next cursor)
  | lineStart, next, cursor => if cursor.before.all (· = '\n') then next cursor else none
  | lineEnd, next, cursor => if cursor.rest.head?.all (· = '\n') then next cursor else none
  | wordEdge, next, cursor => if atWordEdge cursor then next cursor else none
  | notBefore chars, next, cursor => if cursor.rest.head?.any chars.has then none else next cursor

def matchEnd? (pattern : Pattern) (cursor : Cursor) : Option Cursor :=
  pattern.matchThen some cursor

def matchesAt (pattern : Pattern) (cursor : Cursor) : Bool := (pattern.matchEnd? cursor).isSome

def occursFrom (pattern : Pattern) (offset : Nat) (before : Option Char) : List Char → Bool
  | [] => pattern.matchesAt ⟨offset, before, []⟩
  | c :: rest =>
    pattern.matchesAt ⟨offset, before, c :: rest⟩
      || occursFrom pattern (offset + 1) (some c) rest

def occursIn (pattern : Pattern) (text : List Char) : Bool := pattern.occursFrom 0 none text

end Pattern
end Scriptlet
