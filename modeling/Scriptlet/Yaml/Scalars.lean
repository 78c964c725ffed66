import Scriptlet.Yaml.Lexer

/-!
Scanning of scalars: plain, quoted and in blocks. Every loop has at least as many rounds as characters
are left.
-/
namespace Scriptlet.Yaml.Lexer

def plainRun (inFlow : Bool) : List Char → List Char
  | [] => []
  | c :: rest =>
    let next := rest.headD '\x00'
    let ends :=
      isGapOrEnd c
        || (c = ':' && (isGapOrEnd next || (inFlow && [',', '[', ']', '\x7b', '\x7d'].contains next)))
        || (inFlow && [',', '?', '[', ']', '\x7b', '\x7d'].contains c)
    if ends then [] else c :: plainRun inFlow rest

/-- Passes over the lines between two parts of a plain scalar and gives their breaks; nothing if a mark
of documents follows. -/
def plainBreaks (s : Lexer) (breaks : List Char) : Nat → Option (List Char) × Lexer
  | 0 => (some breaks, s)
  | rounds + 1 =>
    if s.peek = ' ' then plainBreaks s.next breaks rounds
    else if isBreak s.peek then
      let (lineEnd, s) := s.lineBreak
      if s.atDocumentMark then (none, s) else plainBreaks s (breaks ++ lineEnd) rounds
    else (some breaks, s)

def plainSpace (s : Lexer) : List Char × Lexer :=
  let (spaces, s) := s.takeRun (· = ' ')
  if isBreak s.peek then
    let (lineEnd, s) := s.lineBreak
    let s := { s with keyAllowed := true }
    if s.atDocumentMark then ([], s)
    else match plainBreaks s [] (s.rest.length + 1) with
      | (none, s) => ([], s)
      | (some breaks, s) =>
        if lineEnd ≠ ['\n'] then (lineEnd ++ breaks, s)
        else if breaks.isEmpty then ([' '], s)
        else (breaks, s)
  else (spaces, s)

def plainFrom (s : Lexer) (indent : Int) (read space : List Char) : Nat → List Char × Lexer
  | 0 => (read, s)
  | rounds + 1 =>
    if s.peek = '#' then (read, s)
    else
      let run := plainRun (s.flowDepth ≠ 0) s.rest
      if run.isEmpty then (read, s)
      else
        let s := { s.forward run.length with keyAllowed := false }
        let read := read ++ space ++ run
        let (space, s) := s.plainSpace
        if space.isEmpty || s.peek = '#' || (s.flowDepth = 0 && s.column < indent) then (read, s)
        else plainFrom s indent read space rounds

def plainScalar (s : Lexer) : Token × Lexer :=
  let (read, s) := plainFrom s (s.indent + 1) [] [] (s.rest.length + 1)
  (.scalar (String.ofList read) true true, s)

def escapes : List (Char × Char) :=
  [('0', '\x00'), ('a', '\x07'), ('b', '\x08'), ('t', '\t'), ('\t', '\t'), ('n', '\n'), ('v', '\x0b'),
   ('f', '\x0c'), ('r', '\r'), ('e', '\x1b'), (' ', ' '), ('"', '"'), ('\\', '\\'), ('/', '/'),
   ('N', '\u0085'), ('_', '\u00a0'), ('L', '\u2028'), ('P', '\u2029')]

def escapeLengths : List (Char × Nat) := [('x', 2), ('u', 4), ('U', 8)]

private def hexDigit? (c : Char) : Option Nat :=
  if '0' ≤ c ∧ c ≤ '9' then some (c.toNat - '0'.toNat)
  else if 'a' ≤ c ∧ c ≤ 'f' then some (c.toNat - 'a'.toNat + 10)
  else if 'A' ≤ c ∧ c ≤ 'F' then some (c.toNat - 'A'.toNat + 10)
  else none

def hexNumber? (digits : List Char) : Option Nat :=
  digits.foldlM (fun n c => (hexDigit? c).map (16 * n + ·)) 0

def quotedBreaks (s : Lexer) (breaks : List Char) : Nat → Except Error (List Char × Lexer)
  | 0 => .ok (breaks, s)
  | rounds + 1 =>
    if s.atDocumentMark then .error .malformed
    else
      let s := s.skipRun fun c => c = ' ' || c = '\t'
      if isBreak s.peek then
        let (lineEnd, s) := s.lineBreak
        quotedBreaks s (breaks ++ lineEnd) rounds
      else .ok (breaks, s)

def escape (s : Lexer) : Except Error (List Char × Lexer) :=
  let c := s.peek
  match escapes.lookup c with
  | some meaning => .ok ([meaning], s.next)
  | none =>
    match escapeLengths.lookup c with
    | some length =>
      let s := s.next
      let digits := s.rest.take length
      match hexNumber? digits with
      | some n =>
        let s := s.forward length
        if digits.length ≠ length then .error .malformed
        else if 0x80000000 ≤ n then .error .tooLarge
        else if 0x110000 ≤ n then .error (.noValue "chr() arg not in range(0x110000)")
        else if n.isValidChar then .ok ([Char.ofNat n], s)
        else .ok (['\ufffd'], { s with isWhole := false })
      | none => .error .malformed
    | none =>
      if isBreak c then
        let (_, s) := s.lineBreak
        quotedBreaks s [] (s.rest.length + 1)
      else .error .malformed

def quotedRun (s : Lexer) (double : Bool) (read : List Char) : Nat → Except Error (List Char × Lexer)
  | 0 => .ok (read, s)
  | rounds + 1 =>
    let (run, s) := s.takeRun fun c => !(isGapOrEnd c || c = '\'' || c = '"' || c = '\\')
    let read := read ++ run
    let c := s.peek
    if !double && c = '\'' && s.peekAt 1 = '\'' then quotedRun (s.forward 2) double (read ++ ['\'']) rounds
    else if (double && c = '\'') || (!double && (c = '"' || c = '\\')) then
      quotedRun s.next double (read ++ [c]) rounds
    else if double && c = '\\' then do
      let (text, s) ← s.next.escape
      quotedRun s double (read ++ text) rounds
    else .ok (read, s)

def quotedSpace (s : Lexer) : Except Error (List Char × Lexer) := do
  let (spaces, s) := s.takeRun fun c => c = ' ' || c = '\t'
  if s.rest.isEmpty then .error .malformed
  else if isBreak s.peek then
    let (lineEnd, s) := s.lineBreak
    let (breaks, s) ← quotedBreaks s [] (s.rest.length + 1)
    if lineEnd ≠ ['\n'] then .ok (lineEnd ++ breaks, s)
    else if breaks.isEmpty then .ok ([' '], s)
    else .ok (breaks, s)
  else .ok (spaces, s)

def quotedFrom (s : Lexer) (double : Bool) (read : List Char) : Nat → Except Error (List Char × Lexer)
  | 0 => .error .malformed
  | rounds + 1 => do
    let (run, s) ← quotedRun s double [] (s.rest.length + 1)
    if s.peek = (if double then '"' else '\'') then .ok (read ++ run, s.next)
    else
      let (space, s) ← s.quotedSpace
      quotedFrom s double (read ++ run ++ space) rounds

def quotedScalar (s : Lexer) (double : Bool) : Except Error (Token × Lexer) := do
  let (read, s) ← quotedFrom { s.next with isWhole := true } double [] (s.rest.length + 1)
  .ok (.scalar (String.ofList read) false s.isWhole, s)

inductive Chomping where
  | strip
  | clip
  | keep
  deriving DecidableEq

private def chomping? (c : Char) : Option Chomping :=
  if c = '+' then some .keep else if c = '-' then some .strip else none

def blockSigns (s : Lexer) : Except Error (Chomping × Option Nat × Lexer) := do
  let digit? (c : Char) : Option Nat := if c.isDigit then some (c.toNat - '0'.toNat) else none
  let (chomping, s) := match chomping? s.peek with
    | some chomping => (some chomping, s.next)
    | none => (none, s)
  let (increment, s) := match digit? s.peek with
    | some n => (some n, s.next)
    | none => (none, s)
  let (chomping, s) := match chomping, increment, chomping? s.peek with
    | none, some _, some chomping => (some chomping, s.next)
    | chomping, _, _ => (chomping, s)
  if increment = some 0 || !isSpaceOrEnd s.peek then .error .malformed
  else .ok (chomping.getD .clip, increment, s)

def skipLineRest (s : Lexer) : Except Error Lexer :=
  let s := s.skipSpaces.skipComment
  if isBreakOrEnd s.peek then .ok s.lineBreak.2 else .error .malformed

/-- Passes over the blank lines before a block scalar; gives their breaks and the column of the deepest
of them. -/
def blockIndentation (s : Lexer) (breaks : List Char) (deepest : Nat) : Nat → List Char × Nat × Lexer
  | 0 => (breaks, deepest, s)
  | rounds + 1 =>
    if s.peek = ' ' then
      let s := s.next
      blockIndentation s breaks (max deepest s.column) rounds
    else if isBreak s.peek then
      let (lineEnd, s) := s.lineBreak
      blockIndentation s (breaks ++ lineEnd) deepest rounds
    else (breaks, deepest, s)

def skipIndent (s : Lexer) (indent : Nat) : Lexer :=
  s.forward (min (indent - s.column) (s.rest.takeWhile (· = ' ')).length)

def blockBreaks (s : Lexer) (indent : Nat) (breaks : List Char) : Nat → List Char × Lexer
  | 0 => (breaks, s)
  | rounds + 1 =>
    let s := s.skipIndent indent
    if isBreak s.peek then
      let (lineEnd, s) := s.lineBreak
      blockBreaks s indent (breaks ++ lineEnd) rounds
    else (breaks, s)

/-- Scans the lines of a block scalar; gives the text before the last line break, that break, and the
breaks of the blank lines after it. -/
def blockLines (s : Lexer) (folded : Bool) (indent : Nat) (read breaks : List Char) :
    Nat → List Char × List Char × List Char × Lexer
  | 0 => (read, [], breaks, s)
  | rounds + 1 =>
    if s.column ≠ indent || s.rest.isEmpty then (read, [], breaks, s)
    else
      let startsText := s.peek ≠ ' ' && s.peek ≠ '\t'
      let (line, s) := s.takeRun (!isBreakOrEnd ·)
      let read := read ++ breaks ++ line
      let (lineEnd, s) := s.lineBreak
      let (breaks, s) := blockBreaks s indent [] (s.rest.length + 1)
      if s.column = indent && !s.rest.isEmpty then
        if folded && lineEnd = ['\n'] && startsText && s.peek ≠ ' ' && s.peek ≠ '\t' then
          blockLines s folded indent (if breaks.isEmpty then read ++ [' '] else read) breaks rounds
        else blockLines s folded indent (read ++ lineEnd) breaks rounds
      else (read, lineEnd, breaks, s)

def blockScalar (s : Lexer) (folded : Bool) : Except Error (Token × Lexer) := do
  let (chomping, increment, s) ← s.next.blockSigns
  let s ← s.skipLineRest
  let least := (max 1 (s.indent + 1)).toNat
  let (breaks, indent, s) := match increment with
    | none =>
      let (breaks, deepest, s) := blockIndentation s [] 0 (s.rest.length + 1)
      (breaks, max least deepest, s)
    | some increment =>
      let indent := least + increment - 1
      let (breaks, s) := blockBreaks s indent [] (s.rest.length + 1)
      (breaks, indent, s)
  let (read, lineEnd, breaks, s) := blockLines s folded indent [] breaks (s.rest.length + 1)
  let tail := match chomping with
    | .strip => []
    | .clip => lineEnd
    | .keep => lineEnd ++ breaks
  .ok (.scalar (String.ofList (read ++ tail)) false true, s)

end Scriptlet.Yaml.Lexer
