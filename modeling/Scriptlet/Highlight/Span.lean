/-!
Spans of highlighted text: a start, a length and the kind of token.
-/
namespace Scriptlet

inductive TokenKind where
  | keyword
  | string
  | comment
  | number
  deriving DecidableEq, Repr

def TokenKind.name : TokenKind → String
  | .keyword => "keyword"
  | .string => "string"
  | .comment => "comment"
  | .number => "number"

def TokenKind.all : List TokenKind := [.keyword, .string, .comment, .number]

structure Span where
  start : Nat
  length : Nat
  kind : TokenKind
  deriving DecidableEq, Repr

namespace Span

def stop (span : Span) : Nat := span.start + span.length

def overlaps (a b : Span) : Bool := a.start < b.stop && b.start < a.stop

def chars (span : Span) (code : List Char) : List Char := (code.drop span.start).take span.length

def text (span : Span) (code : String) : String := String.ofList (span.chars code.toList)

/-- Earlier starts first, and the shorter of two that start together. -/
def precedes (a b : Span) : Bool := a.start < b.start || (a.start = b.start && a.length ≤ b.length)

end Span
end Scriptlet
