import Scriptlet.Text.Basic
import Scriptlet.Text.Digit
import Scriptlet.Text.Lowercase
import Scriptlet.Text.Word

/-!
Classes of characters, the atoms of patterns.
-/
namespace Scriptlet

inductive CharClass where
  | exactly (c : Char)
  | anyCase (c : Char)
  | word
  | digit
  | blank
  | notBlank
  | among (chars : List Char)
  | notAmong (chars : List Char)
  deriving DecidableEq, Repr

def CharClass.has : CharClass → Char → Bool
  | exactly wanted, c => c = wanted
  | anyCase wanted, c => Text.foldChar c = Text.foldChar wanted
  | word, c => Text.isWordChar c
  | digit, c => Text.isDecimal c
  | blank, c => Text.isBlank c
  | notBlank, c => !Text.isBlank c
  | among chars, c => chars.contains c
  | notAmong chars, c => !chars.contains c

end Scriptlet
