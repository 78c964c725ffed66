import Scriptlet.Number.Reading
import Scriptlet.Text.Utf8
import Scriptlet.Yaml.Scalars

/-!
The tokens of a text: marks, names and scalars as they are written, and the starts and ends of block
collections as the indentation implies them.
-/
namespace Scriptlet.Yaml
namespace Lexer

def nameHere (s : Lexer) : Except Error (String × Lexer) :=
  let (name, s) := s.takeRun isNameChar
  if name.isEmpty then .error .malformed else .ok (String.ofList name, s)

def numberHere (s : Lexer) : Except Error (Nat × Lexer) :=
  let (digits, s) := s.takeRun Char.isDigit
  if digits.isEmpty then .error .malformed else .ok (Number.natOfDigits digits, s)

def isUriChar (c : Char) : Bool :=
  c.isAlphanum || "-;/?:@&=+$,_.!~*'()[]".toList.contains c

def escapedBytes (s : Lexer) (bytes : List UInt8) : Nat → Except Error (List UInt8 × Lexer)
  | 0 => .ok (bytes, s)
  | rounds + 1 =>
    if s.peek = '%' then
      let digits := (s.rest.drop 1).take 2
      match hexNumber? digits with
      | some n =>
        if digits.length = 2 then escapedBytes (s.forward 3) (bytes ++ [n.toUInt8]) rounds
        else .error .malformed
      | none => .error .malformed
    else .ok (bytes, s)

def uriFrom (s : Lexer) (read : List Char) : Nat → Except Error (List Char × Lexer)
  | 0 => .ok (read, s)
  | rounds + 1 => do
    let (run, s) := s.takeRun isUriChar
    if s.peek = '%' then
      let (bytes, s) ← s.escapedBytes [] (s.rest.length + 1)
      match Text.Utf8.decode ⟨bytes.toArray⟩ with
      | .ok text => uriFrom s (read ++ run ++ text.toList) rounds
      | .error _ => .error .malformed
    else .ok (read ++ run, s)

def uriHere (s : Lexer) : Except Error (String × Lexer) := do
  let (read, s) ← uriFrom s [] (s.rest.length + 1)
  if read.isEmpty then .error .malformed else .ok (String.ofList read, s)

/-- Scans the handle of a tag: one exclamation mark, or a name between two. -/
def handleHere (s : Lexer) : Except Error (String × Lexer) :=
  match s.rest with
  | '!' :: rest =>
    let name := rest.takeWhile isNameChar
    if rest.head? = some ' ' then .ok ("!", s.next)
    else if (rest.drop name.length).head? = some '!' then
      .ok (String.ofList ('!' :: name ++ ['!']), s.forward (name.length + 2))
    else .error .malformed
  | _ => .error .malformed

def tagHere (s : Lexer) : Except Error (WrittenTag × Lexer) := do
  let (written, s) ←
    if s.peekAt 1 = '<' then do
      let (uri, s) ← (s.forward 2).uriHere
      if s.peek = '>' then Except.ok (⟨none, uri⟩, s.next) else .error .malformed
    else if isGapOrEnd (s.peekAt 1) then .ok (⟨none, "!"⟩, s.next)
    else do
      let word := (s.rest.drop 1).takeWhile (!isSpaceOrEnd ·)
      let (handle, s) ← if word.contains '!' then s.handleHere else .ok ("!", s.next)
      let (suffix, s) ← s.uriHere
      .ok (⟨some handle, suffix⟩, s)
  if isSpaceOrEnd s.peek then .ok (written, s) else .error .malformed

def directiveHere (s : Lexer) : Except Error (Directive × Lexer) := do
  let (name, s) ← s.next.nameHere
  if !isSpaceOrEnd s.peek then .error .malformed
  else
    let (directive, s) ←
      if name = "YAML" then do
        let (major, s) ← s.skipSpaces.numberHere
        if s.peek ≠ '.' then .error .malformed
        else
          let (_, s) ← s.next.numberHere
          Except.ok (Directive.version major, s)
      else if name = "TAG" then do
        let (handle, s) ← s.skipSpaces.handleHere
        if s.peek ≠ ' ' then .error .malformed
        else
          let (lead, s) ← s.skipSpaces.uriHere
          .ok (.tagHandle handle lead, s)
      else .ok (.unknown, s.skipRun (!isBreakOrEnd ·))
    if isSpaceOrEnd s.peek then .ok (directive, ← s.skipLineRest) else .error .malformed

def endsName (c : Char) : Bool := isGapOrEnd c || "?:,]\x7d%@\x60".toList.contains c

def anchorName (s : Lexer) : Except Error (String × Lexer) := do
  let (name, s) ← s.nameHere
  if endsName s.peek then .ok (name, s) else .error .malformed

def savedKey (s : Lexer) : Except Error Lexer := do
  let s ← s.saveKey
  .ok { s with keyAllowed := false }

def openFlow (s : Lexer) (token : Token) : Except Error Lexer := do
  let s ← s.saveKey
  .ok { s.next.push token with flowDepth := s.flowDepth + 1, keyAllowed := true }

def closeFlow (s : Lexer) (token : Token) : Except Error Lexer := do
  let s ← s.dropKey
  if s.flowDepth = 0 then .error .malformed
  else .ok { s.next.push token with flowDepth := s.flowDepth - 1, keyAllowed := false }

/-- Opens a block collection at the column of a mark, if the mark is not in a flow collection. -/
def openBlock (s : Lexer) (token : Token) : Except Error Lexer :=
  if s.flowDepth ≠ 0 then .ok s
  else if !s.keyAllowed then .error .malformed
  else
    let (isNew, s) := s.indentTo s.column
    .ok (if isNew then s.push token else s)

/-- Scans the colon after a key, and puts the mark of the key before the tokens of the key. -/
def valueMark (s : Lexer) : Except Error Lexer := do
  match s.keyPlaces.lookup s.flowDepth with
  | some place =>
    let s := { s with keyPlaces := s.keyPlaces.filter fun known => known.1 ≠ s.flowDepth }
    let s := s.insert place.tokens .key
    let (isNew, s) := if s.flowDepth = 0 then s.indentTo place.column else (false, s)
    let s := if isNew then s.insert place.tokens .blockMapStart else s
    .ok { s.next.push .value with keyAllowed := false }
  | none =>
    let s ← s.openBlock .blockMapStart
    let s ← { s with keyAllowed := s.flowDepth = 0 }.dropKey
    .ok (s.next.push .value)

def documentMark (s : Lexer) (token : Token) : Except Error Lexer := do
  let s ← (s.unwind (-1)).dropKey
  .ok { (s.forward 3).push token with keyAllowed := false }

def startsPlain (s : Lexer) : Bool :=
  let c := s.peek
  !(isGapOrEnd c || "-?:,[]\x7b\x7d#&*!|>'\"%@\x60".toList.contains c)
    || (!isGapOrEnd (s.peekAt 1) && (c = '-' || (s.flowDepth = 0 && (c = '?' || c = ':'))))

def token (s : Lexer) : Except Error Lexer := do
  let c := s.peek
  let isAlone := isGapOrEnd (s.peekAt 1)
  let inFlow := s.flowDepth ≠ 0
  if c = '%' && s.column = 0 then
    let s ← (s.unwind (-1)).dropKey
    let (directive, s) ← s.directiveHere
    .ok { s.push (.directive directive) with keyAllowed := false }
  else if s.column = 0 && s.atMark "---" then s.documentMark .documentStart
  else if s.column = 0 && s.atMark "..." then s.documentMark .documentEnd
  else if c = '[' then s.openFlow .flowListStart
  else if c = '\x7b' then s.openFlow .flowMapStart
  else if c = ']' then s.closeFlow .flowListEnd
  else if c = '\x7d' then s.closeFlow .flowMapEnd
  else if c = ',' then
    let s ← s.dropKey
    .ok { s.next.push .flowEntry with keyAllowed := true }
  else if c = '-' && isAlone then
    let s ← s.openBlock .blockListStart
    let s ← s.dropKey
    .ok { s.next.push .blockEntry with keyAllowed := true }
  else if c = '?' && (inFlow || isAlone) then
    let s ← s.openBlock .blockMapStart
    let s ← s.dropKey
    .ok { s.next.push .key with keyAllowed := !inFlow }
  else if c = ':' && (inFlow || isAlone) then s.valueMark
  else if c = '*' then
    let (name, s) ← (← s.savedKey).next.anchorName
    .ok (s.push (.alias name))
  else if c = '&' then
    let (name, s) ← (← s.savedKey).next.anchorName
    .ok (s.push (.anchor name))
  else if c = '!' then
    let (written, s) ← (← s.savedKey).tagHere
    .ok (s.push (.tag written))
  else if (c = '|' || c = '>') && !inFlow then
    let s ← { s with keyAllowed := true }.dropKey
    let (scalar, s) ← s.blockScalar (c = '>')
    .ok (s.push scalar)
  else if c = '\'' || c = '"' then
    let (scalar, s) ← (← s.savedKey).quotedScalar (c = '"')
    .ok (s.push scalar)
  else if s.startsPlain then
    let (scalar, s) := (← s.savedKey).plainScalar
    .ok (s.push scalar)
  else .error .malformed

/-- The tokens before a fault. What may be the beginning of a key is held back, since nothing tells any more
whether it is one. -/
def upToFault (s : Lexer) (error : Error) : List Token :=
  let count := s.keyPlaces.foldl (fun count (_, place) => min count place.tokens) s.tokens.size
  s.tokens.toList.take count ++ [.fault error]

/-- Scans all tokens from here on; every round takes at least one character. -/
def tokensFrom (s : Lexer) : Nat → List Token
  | 0 => s.upToFault .malformed
  | rounds + 1 =>
    let s := s.skipToToken (s.rest.length + 1)
    match s.dropStaleKeys with
    | .error error => s.upToFault error
    | .ok s =>
      let s := s.unwind s.column
      if s.rest.isEmpty then
        match (s.unwind (-1)).dropKey with
        | .error error => s.upToFault error
        | .ok s => (s.push .streamEnd).tokens.toList
      else match s.token with
        | .error error => s.upToFault error
        | .ok s => tokensFrom s rounds

end Lexer

/-- The tokens of a text up to its end or up to a fault. A byte order mark may stand at its front. -/
def tokens (text : List Char) : List Token :=
  if text.all isAllowed then
    let s := Lexer.start text
    (if s.peek = '\ufeff' then s.next else s).tokensFrom (text.length + 1)
  else [.fault .malformed]

end Scriptlet.Yaml
