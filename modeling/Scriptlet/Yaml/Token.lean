/-!
The tokens of YAML documents, and why a text is no such document.
-/
namespace Scriptlet.Yaml

inductive Error where
  | malformed
  | noValue (message : String)
  | noTruthWord
  /-- A scalar with the tag of numbers has nothing where its digits should begin. -/
  | noDigits
  | noMoment
  /-- A map stands where a moment is read. -/
  | momentInMap
  | tooLarge
  | tooDeep
  deriving DecidableEq, Repr

def Error.message : Error → String
  | malformed => "the text is no YAML document"
  | noValue message => message
  | noTruthWord => "a scalar is no truth value"
  | noDigits => "a number has no digits"
  | noMoment => "a scalar is no date or time"
  | momentInMap => "a map is no date or time"
  | tooLarge => "a number is too large"
  | tooDeep => "the document is nested too deeply"

structure WrittenTag where
  handle : Option String
  suffix : String
  deriving DecidableEq, Repr

inductive Directive where
  | version (major : Nat)
  | tagHandle (handle lead : String)
  | unknown
  deriving DecidableEq, Repr

inductive Token where
  | directive (content : Directive)
  | documentStart
  | documentEnd
  | blockListStart
  | blockMapStart
  | blockEnd
  | flowListStart
  | flowListEnd
  | flowMapStart
  | flowMapEnd
  | key
  | value
  | blockEntry
  | flowEntry
  | alias (name : String)
  | anchor (name : String)
  | tag (written : WrittenTag)
  /-- A scalar; a text that is not whole holds half of a surrogate pair, which is written U+FFFD. -/
  | scalar (text : String) (isPlain isWhole : Bool)
  | streamEnd
  /-- The place where the text cannot be read on. -/
  | fault (error : Error)
  deriving DecidableEq, Repr

def isBreak (c : Char) : Bool :=
  c = '\n' || c = '\r' || c = '\u0085' || c = '\u2028' || c = '\u2029'

/-- The end of the text, which reads as NUL, or the end of a line. -/
def isBreakOrEnd (c : Char) : Bool := c = '\x00' || isBreak c

def isSpaceOrEnd (c : Char) : Bool := c = ' ' || isBreakOrEnd c

def isGapOrEnd (c : Char) : Bool := c = '\t' || isSpaceOrEnd c

def isAllowed (c : Char) : Bool :=
  let n := c.toNat
  n = 0x09 || n = 0x0a || n = 0x0d || (0x20 ≤ n && n ≤ 0x7e) || n = 0x85
    || (0xa0 ≤ n && n ≤ 0xfffd) || 0x10000 ≤ n

def isNameChar (c : Char) : Bool := c.isAlphanum || c = '-' || c = '_'

end Scriptlet.Yaml
