import Scriptlet.Yaml.Token

/-!
The place where the scanning of a document stands, and how it moves on.
-/
namespace Scriptlet.Yaml

/-- A place where a key may have begun: it is one if a colon follows on the same line. -/
structure KeyPlace where
  tokens : Nat
  /-- Whether the text is malformed if no colon follows. -/
  required : Bool
  index : Nat
  line : Nat
  column : Nat

structure Lexer where
  rest : List Char
  index : Nat
  line : Nat
  column : Nat
  tokens : Array Token
  /-- The column of the innermost block collection, or -1. -/
  indent : Int
  /-- The columns of the block collections around it, the innermost first. -/
  outerIndents : List Int
  flowDepth : Nat
  keyAllowed : Bool
  /-- The places where a key may have begun, by depth of flow collections. -/
  keyPlaces : List (Nat × KeyPlace)
  /-- Whether all escapes of the current scalar stand for characters. -/
  isWhole : Bool

namespace Lexer

def start (text : List Char) : Lexer := ⟨text, 0, 0, 0, #[], -1, [], 0, true, [], true⟩

/-- The next character, or NUL at the end. -/
def peek (s : Lexer) : Char := s.rest.headD '\x00'

def peekAt (s : Lexer) (n : Nat) : Char := (s.rest.drop n).headD '\x00'

/-- Passes over one character. A byte order mark takes no column. -/
def next (s : Lexer) : Lexer :=
  match s.rest with
  | [] => s
  | c :: rest =>
    if c = '\n' || c = '\u0085' || c = '\u2028' || c = '\u2029' || (c = '\r' && rest.head? ≠ some '\n') then
      { s with rest, index := s.index + 1, line := s.line + 1, column := 0 }
    else
      { s with rest, index := s.index + 1, column := if c = '\ufeff' then s.column else s.column + 1 }

def forward (s : Lexer) : Nat → Lexer
  | 0 => s
  | n + 1 => s.next.forward n

def takeRun (s : Lexer) (test : Char → Bool) : List Char × Lexer :=
  let run := s.rest.takeWhile test
  (run, s.forward run.length)

def skipRun (s : Lexer) (test : Char → Bool) : Lexer := (s.takeRun test).2

def skipSpaces (s : Lexer) : Lexer := s.skipRun (· = ' ')

def skipComment (s : Lexer) : Lexer :=
  if s.peek = '#' then s.skipRun (!isBreak ·) else s

/-- Passes over the end of a line and gives the text that stands for it; nothing elsewhere. -/
def lineBreak (s : Lexer) : List Char × Lexer :=
  match s.rest with
  | '\r' :: '\n' :: _ => (['\n'], s.forward 2)
  | c :: _ =>
    if c = '\r' || c = '\n' || c = '\u0085' then (['\n'], s.next)
    else if c = '\u2028' || c = '\u2029' then ([c], s.next)
    else ([], s)
  | [] => ([], s)

def atMark (s : Lexer) (mark : String) : Bool :=
  mark.toList.isPrefixOf s.rest && isGapOrEnd (s.peekAt 3)

def atDocumentMark (s : Lexer) : Bool := s.atMark "---" || s.atMark "..."

def push (s : Lexer) (token : Token) : Lexer := { s with tokens := s.tokens.push token }

def insert (s : Lexer) (count : Nat) (token : Token) : Lexer :=
  { s with tokens := s.tokens.insertIdxIfInBounds count token }

def unwind (s : Lexer) (column : Int) : Lexer :=
  if s.flowDepth ≠ 0 then s else go s s.outerIndents.length
where
  go (s : Lexer) : Nat → Lexer
    | 0 => s
    | more + 1 =>
      if column < s.indent then
        go { s.push .blockEnd with
          indent := s.outerIndents.headD (-1), outerIndents := s.outerIndents.drop 1 } more
      else s

def indentTo (s : Lexer) (column : Nat) : Bool × Lexer :=
  if s.indent < column then
    (true, { s with indent := column, outerIndents := s.indent :: s.outerIndents })
  else (false, s)

def dropStaleKeys (s : Lexer) : Except Error Lexer :=
  let isStale (place : KeyPlace) : Bool := place.line ≠ s.line || 1024 < s.index - place.index
  if s.keyPlaces.any fun (_, place) => isStale place && place.required then .error .malformed
  else .ok { s with keyPlaces := s.keyPlaces.filter fun (_, place) => !isStale place }

def dropKey (s : Lexer) : Except Error Lexer :=
  match s.keyPlaces.lookup s.flowDepth with
  | none => .ok s
  | some place =>
    if place.required then .error .malformed
    else .ok { s with keyPlaces := s.keyPlaces.filter fun known => known.1 ≠ s.flowDepth }

def saveKey (s : Lexer) : Except Error Lexer := do
  if !s.keyAllowed then .ok s
  else
    let required := s.flowDepth = 0 && s.indent = s.column
    let s ← s.dropKey
    .ok { s with
      keyPlaces := (s.flowDepth, ⟨s.tokens.size, required, s.index, s.line, s.column⟩) :: s.keyPlaces }

def skipToToken (s : Lexer) : (lines : Nat) → Lexer
  | 0 => s
  | lines + 1 =>
    let (lineEnd, after) := s.skipSpaces.skipComment.lineBreak
    if lineEnd.isEmpty then after
    else skipToToken { after with keyAllowed := after.keyAllowed || after.flowDepth = 0 } lines

end Lexer
end Scriptlet.Yaml
