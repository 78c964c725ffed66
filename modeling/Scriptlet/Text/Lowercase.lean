import Scriptlet.Text.LowercaseTable

/-!
Lower case of whole texts. Characters change one by one except two: a dotted capital I becomes an i
and a combining dot, and a capital sigma at the end of a word becomes a final sigma.
-/
namespace Scriptlet.Text

def isCased (c : Char) : Bool :=
  if c.toNat < 0x80 then c.isAlpha else casedTree.contains c

def isCaseIgnorable (c : Char) : Bool :=
  if c.toNat < 0x80 then ['\'', '.', ':', '^', '\x60'].contains c else caseIgnorableTree.contains c

def LowercaseRule.apply (rule : LowercaseRule) (first c : Nat) : Nat :=
  match rule with
  | .shift distance => (c + distance).toNat
  | .alternate => if (c - first) % 2 = 0 then c + 1 else c

/-- The lower case of a character on its own; a capital sigma becomes a sigma that is not final. -/
def lowerChar (c : Char) : List Char :=
  if c.toNat < 0x80 then [c.toLower]
  else if c = '\u0130' then ['i', '\u0307']
  else match lowercaseTree.find? c.toNat with
    | some range => [Char.ofNat (range.value.apply range.first c.toNat)]
    | none => [c]

def startsCased (text : List Char) : Bool :=
  match text.dropWhile isCaseIgnorable with
  | [] => false
  | c :: _ => isCased c

/-- Lower case of the rest of a text; `afterCased` says whether the last character before it that is
not passed over is cased. -/
def lowerFrom (afterCased : Bool) : List Char → List Char
  | [] => []
  | c :: rest =>
    let here :=
      if c = '\u03a3' then [if afterCased && !startsCased rest then '\u03c2' else '\u03c3']
      else lowerChar c
    here ++ lowerFrom (if isCaseIgnorable c then afterCased else isCased c) rest

def lower (text : List Char) : List Char := lowerFrom false text

/-- The capital and small forms of an ASCII letter are one, and so are the letters that share a
capital or small form with it: long s, the kelvin sign, and the dotted and dotless i. -/
def foldChar (c : Char) : Char :=
  if c = '\u017f' then 's'
  else if c = '\u212a' then 'k'
  else if c = '\u0130' || c = '\u0131' then 'i'
  else c.toLower

end Scriptlet.Text
