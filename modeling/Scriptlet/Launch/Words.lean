/-!
Splitting of a command line into words. Blanks separate words, quotes of both kinds keep them together,
and a backslash takes the meaning from the character after it: everywhere outside quotes, before a quote
or a backslash inside double quotes, and never inside single quotes.
-/
namespace Scriptlet.Launch

inductive SplitError where
  | unclosedQuote
  | danglingEscape
  deriving DecidableEq, Repr

def SplitError.message : SplitError → String
  | .unclosedQuote => "No closing quotation"
  | .danglingEscape => "No escaped character"

inductive SplitState where
  | between
  | inWord
  | inQuotes (quote : Char)
  | escaping (quotes : Option Char)
  deriving DecidableEq, Repr

def isSeparator (c : Char) : Bool := c = ' ' || c = '\t' || c = '\r' || c = '\n'

def isQuote (c : Char) : Bool := c = '"' || c = '\''

/-- Splits the rest of a line; `word` holds the characters of the current word, the last one first. -/
def splitFrom : SplitState → (word : List Char) → List Char → Except SplitError (List (List Char))
  | .between, _, [] => .ok []
  | .inWord, word, [] => .ok [word.reverse]
  | .inQuotes _, _, [] => .error .unclosedQuote
  | .escaping _, _, [] => .error .danglingEscape
  | .between, _, c :: rest =>
    if isSeparator c then splitFrom .between [] rest
    else if isQuote c then splitFrom (.inQuotes c) [] rest
    else if c = '\\' then splitFrom (.escaping none) [] rest
    else splitFrom .inWord [c] rest
  | .inWord, word, c :: rest =>
    if isSeparator c then (splitFrom .between [] rest).map (word.reverse :: ·)
    else if isQuote c then splitFrom (.inQuotes c) word rest
    else if c = '\\' then splitFrom (.escaping none) word rest
    else splitFrom .inWord (c :: word) rest
  | .inQuotes quote, word, c :: rest =>
    if c = quote then splitFrom .inWord word rest
    else if c = '\\' && quote = '"' then splitFrom (.escaping (some quote)) word rest
    else splitFrom (.inQuotes quote) (c :: word) rest
  | .escaping none, word, c :: rest => splitFrom .inWord (c :: word) rest
  | .escaping (some quote), word, c :: rest =>
    if c = '\\' || c = quote then splitFrom (.inQuotes quote) (c :: word) rest
    else splitFrom (.inQuotes quote) (c :: '\\' :: word) rest

def splitWords (line : String) : Except SplitError (List String) :=
  (splitFrom .between [] line.toList).map fun words => words.map String.ofList

end Scriptlet.Launch
