import Scriptlet.Highlight.Span
import Scriptlet.IntervalSet
import Scriptlet.Text.Basic

/-!
Spans that are accepted one after the other, and the walk over a text that proposes them. A span is
accepted only if it meets no span accepted before.
-/
namespace Scriptlet
open Text (Cursor)

structure Claims where
  /-- The accepted spans, the latest first. -/
  spans : List Span
  occupied : IntervalSet
  deriving DecidableEq, Repr

namespace Claims

def empty : Claims := ⟨[], ∅⟩

def covers (claims : Claims) (offset : Nat) : Bool := claims.occupied.overlaps offset (offset + 1)

def claim? (claims : Claims) (start length : Nat) (kind : TokenKind) : Option Claims :=
  match claims.occupied.add start (start + length : Nat) with
  | .ok occupied => some ⟨⟨start, length, kind⟩ :: claims.spans, occupied⟩
  | .error _ => none

def claim (claims : Claims) (start length : Nat) (kind : TokenKind) : Claims :=
  (claims.claim? start length kind).getD claims

/-- What happens at one place of a text: the claims from here on, and how many of the characters after
the one at this place are passed over. -/
structure Step where
  claims : Claims
  skip : Nat

/-- Walks over a text, after passing over `skip` characters. -/
def walk (step : Cursor → Claims → Step) (claims : Claims) (offset : Nat) (before : Option Char) :
    (skip : Nat) → List Char → Claims
  | _, [] => claims
  | skip + 1, c :: rest => walk step claims (offset + 1) (some c) skip rest
  | 0, c :: rest =>
    let done := step ⟨offset, before, c :: rest⟩ claims
    walk step done.claims (offset + 1) (some c) done.skip rest

def walkText (step : Cursor → Claims → Step) (text : List Char) (claims : Claims) : Claims :=
  walk step claims 0 none 0 text

end Claims
end Scriptlet
