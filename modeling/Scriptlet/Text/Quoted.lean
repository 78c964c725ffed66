import Scriptlet.Text.Printable

/-!
Quoted text on one line. The quote is a single one unless only that kind occurs in the text;
backslashes, the quote, line ends, tabs and all characters that are not printable are escaped. Bytes are
written in the same way after a `b`, all beyond ASCII as escapes.
-/
namespace Scriptlet.Text.Quoted

/-- The single quote, or the double quote for a text that has single quotes and no double ones. -/
def quoteFor (text : List Char) : Char :=
  if text.contains '\'' && !text.contains '"' then '"' else '\''

def hexDigits (width n : Nat) : List Char :=
  let digits := Nat.toDigits 16 n
  List.replicate (width - digits.length) '0' ++ digits

def escapeChar (quote c : Char) : List Char :=
  if c = quote || c = '\\' then ['\\', c]
  else if c = '\n' then ['\\', 'n']
  else if c = '\r' then ['\\', 'r']
  else if c = '\t' then ['\\', 't']
  else if isPrintable c then [c]
  else if c.toNat < 0x100 then '\\' :: 'x' :: hexDigits 2 c.toNat
  else if c.toNat < 0x10000 then '\\' :: 'u' :: hexDigits 4 c.toNat
  else '\\' :: 'U' :: hexDigits 8 c.toNat

def encode (text : List Char) : List Char :=
  let quote := quoteFor text
  quote :: text.flatMap (escapeChar quote) ++ [quote]

def escapeByte (quote : Char) (b : UInt8) : List Char :=
  if b.toNat < 0x80 then escapeChar quote (Char.ofNat b.toNat) else '\\' :: 'x' :: hexDigits 2 b.toNat

def encodeBytes (bytes : List UInt8) : List Char :=
  let quote := quoteFor (bytes.map fun b => Char.ofNat b.toNat)
  'b' :: quote :: bytes.flatMap (escapeByte quote) ++ [quote]

end Scriptlet.Text.Quoted

def Scriptlet.Text.quoted (text : String) : String :=
  String.ofList (Scriptlet.Text.Quoted.encode text.toList)

def Scriptlet.Text.quotedBytes (bytes : List UInt8) : String :=
  String.ofList (Scriptlet.Text.Quoted.encodeBytes bytes)
