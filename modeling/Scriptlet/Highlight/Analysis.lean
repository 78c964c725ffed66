import Scriptlet.Highlight.Claims
import Scriptlet.Highlight.Lexicon
import Scriptlet.Text.Basic

/-!
Highlighting of a text in four passes: comments, strings, numbers and keywords. A span proposed by a
later pass is dropped if it meets a span of an earlier one.
-/
namespace Scriptlet.Highlight
open Text (Cursor)
open Claims (Step)

def startsAnyCase : (wanted text : List Char) → Bool
  | [], _ => true
  | _ :: _, [] => false
  | w :: wanted, c :: text => Text.foldChar c = Text.foldChar w && startsAnyCase wanted text

/-- The length of the region that opens at the front of a text: up to the end of the first closing text
after the opening one, or to the end of the text. -/
def regionLength (delimiters : Delimiters) (text : List Char) : Nat :=
  let opening := delimiters.opening.length
  match Text.indexOf? delimiters.closing.toList (text.drop opening) with
  | some inside => opening + inside + delimiters.closing.length
  | none => text.length

/-- Proposes the region that opens here. Where `onlyFree` holds an opening text that is covered already
is no opening. -/
def regionStep (delimiters : Delimiters) (kind : TokenKind) (onlyFree : Bool) (here : Cursor)
    (claims : Claims) : Step :=
  if delimiters.opening.toList.isPrefixOf here.rest && !(onlyFree && claims.covers here.offset) then
    let length := regionLength delimiters here.rest
    ⟨claims.claim here.offset length kind, length - 1⟩
  else ⟨claims, 0⟩

/-- Proposes the comment from here to the end of the line. If it is refused, because it begins inside a
block comment, another one may begin later on the line. -/
def lineCommentStep (opening : List Char) (here : Cursor) (claims : Claims) : Step :=
  if startsAnyCase opening here.rest then
    let length := (here.rest.takeWhile (· ≠ '\n')).length
    match claims.claim? here.offset length .comment with
    | some more => ⟨more, length⟩
    | none => ⟨claims, 0⟩
  else ⟨claims, 0⟩

/-- The length of a string after its opening quote: up to its closing quote, or to the end of the line
unless the string is raw, or to the end of the text. -/
def stringTail (quote : Char) (escapes raw : Bool) : List Char → Nat
  | [] => 0
  | c :: rest =>
    if c = '\n' && !raw then 0
    else if escapes && c = '\\' then
      match rest with
      | [] => 1
      | _ :: later => 2 + stringTail quote escapes raw later
    else if c = quote then 1
    else 1 + stringTail quote escapes raw rest

/-- Proposes the string that a quote opens here. If it is refused, because it runs into a span accepted
before, the quote opens nothing. -/
def stringStep (quote : Char) (escapes raw : Bool) (here : Cursor) (claims : Claims) : Step :=
  match here.rest with
  | [] => ⟨claims, 0⟩
  | c :: rest =>
    if c = quote && !claims.covers here.offset then
      let tail := stringTail quote escapes raw rest
      match claims.claim? here.offset (tail + 1) .string with
      | some more => ⟨more, tail⟩
      | none => ⟨claims, 0⟩
    else ⟨claims, 0⟩

/-- Proposes the number that begins here, and goes on after it in any case. -/
def numberStep (here : Cursor) (claims : Claims) : Step :=
  match Lexicon.number.matchEnd? here with
  | some stop =>
    let length := stop.offset - here.offset
    ⟨claims.claim here.offset length .number, length - 1⟩
  | none => ⟨claims, 0⟩

def keywordStep (keyword : List Char) (anyCase : Bool) (here : Cursor) (claims : Claims) : Step :=
  let stands := if anyCase then startsAnyCase keyword here.rest else keyword.isPrefixOf here.rest
  let after := (here.rest.drop keyword.length).head?
  if stands && !here.before.any Text.isWordChar && !after.any Text.isWordChar then
    ⟨claims.claim here.offset keyword.length .keyword, 0⟩
  else ⟨claims, 0⟩

def commentPass (lexicon : Lexicon) (code : List Char) (claims : Claims) : Claims :=
  let blocks := match lexicon.blockComment with
    | some delimiters => claims.walkText (regionStep delimiters .comment false) code
    | none => claims
  lexicon.lineComments.foldl (fun claims opening =>
    claims.walkText (lineCommentStep opening.toList) code) blocks

def stringPass (lexicon : Lexicon) (code : List Char) (claims : Claims) : Claims :=
  let blocks := lexicon.blockStrings.foldl (fun claims delimiters =>
    claims.walkText (regionStep delimiters .string true) code) claims
  lexicon.quotes.foldl (fun claims quote =>
    claims.walkText (stringStep quote lexicon.escapes (lexicon.rawQuotes.contains quote)) code) blocks

def numberPass (code : List Char) (claims : Claims) : Claims := claims.walkText numberStep code

def keywordPass (lexicon : Lexicon) (code : List Char) (claims : Claims) : Claims :=
  lexicon.keywords.foldl (fun claims keyword =>
    claims.walkText (keywordStep keyword.toList lexicon.keywordsAnyCase) code) claims

def claimsOf (lexicon : Lexicon) (code : List Char) : Claims :=
  keywordPass lexicon code (numberPass code (stringPass lexicon code (commentPass lexicon code .empty)))

def analyzeAs (language : Language) (code : List Char) : List Span :=
  match Lexicon.of? language with
  | some lexicon => (claimsOf lexicon code).spans.mergeSort Span.precedes
  | none => []

def supports (language : Option String) : Bool :=
  ((language.bind Language.parse?).bind Lexicon.of?).isSome

def analyze (code language : Option String) : List Span :=
  match language.bind Language.parse? with
  | some language => analyzeAs language (code.getD "").toList
  | none => []

end Scriptlet.Highlight
