import Scriptlet.Language
import Scriptlet.Pattern.Basic
import Scriptlet.Text.Basic

/-!
The evidence for a language: an interpreter on the first line or a marker that settles the language,
strong features that are typical of its syntax, and weak features, words that only hint at it.
-/
namespace Scriptlet.Detection
open CharClass (blank word exactly among notAmong notBlank)
open Pattern (one many run text textAnyCase oneTextOf oneOf optional lineStart lineEnd wordEdge notBefore)

/-- What stands before the interpreter on a first line: the two marks, a directory of programs, and
`env` with blanks after it, if the interpreter is named to it. -/
def shebangLead : Pattern :=
  text "#!" ++ many blank ++ text "/"
    ++ optional (textAnyCase "usr/" ++ optional (textAnyCase "local/"))
    ++ textAnyCase "bin/" ++ optional (textAnyCase "env" ++ run blank)

def wordAt? (cursor : Text.Cursor) : Option (List Char) :=
  match cursor.rest.takeWhile Text.isWordChar with
  | [] => none
  | c :: rest => some (c :: rest)

def interpreter? (code : List Char) : Option (List Char) :=
  shebangLead.matchThen wordAt? (Text.Cursor.start (Text.firstLine code))

def interpreters : List (String × Language) :=
  [("python", .python), ("python3", .python), ("python2", .python), ("lua", .lua),
   ("pwsh", .powershell), ("bash", .bat), ("sh", .bat), ("nim", .nim)]

def shebangLanguage? (code : List Char) : Option Language :=
  (interpreter? code).bind fun word => interpreters.lookup (String.ofList (Text.lower word))

def isBatch (code : List Char) : Bool :=
  let head := Text.lower (code.take 9)
  head = "@echo off".toList || head.take 4 = "rem ".toList

def mainPackage : Pattern :=
  lineStart ++ text "package" ++ run blank ++ text "main" ++ many blank ++ lineEnd

def isGoMain (code : List Char) : Bool := mainPackage.occursIn code

def isNim (code : List Char) : Bool :=
  Text.occursIn "proc ".toList code && Text.occursIn "=".toList code
    && (Text.occursIn "echo ".toList code || Text.occursIn "import ".toList code)

def markers : List (Language × (List Char → Bool)) :=
  [(.bat, isBatch), (.go, isGoMain), (.nim, isNim)]

def strongFeatures : Language → List Pattern
  | .bat =>
    [lineStart ++ textAnyCase "set" ++ run blank ++ run word ++ text "=",
     lineStart ++ textAnyCase "if" ++ run blank ++ optional (textAnyCase "not" ++ run blank)
       ++ oneTextOf "exist" ["defined", "errorlevel"],
     lineStart ++ textAnyCase "for" ++ run blank ++ text "%%" ++ run word ++ run blank
       ++ textAnyCase "in" ++ run blank ++ text "(",
     lineStart ++ textAnyCase "goto" ++ run blank ++ text ":" ++ run word,
     lineStart ++ text ":" ++ run word,
     text "%" ++ run word ++ text "%"]
  | .powershell =>
    [text "$" ++ run word ++ many blank ++ text "=",
     wordEdge ++ oneTextOf "Get" ["Set", "New", "Remove", "Add", "Import", "Export"] ++ text "-"
       ++ run word,
     wordEdge ++ textAnyCase "function" ++ run blank ++ run word,
     wordEdge ++ textAnyCase "param" ++ many blank ++ text "(",
     text "[Parameter" ++ many blank ++ text "(",
     text "|" ++ many blank ++ oneTextOf "Where-Object" ["ForEach-Object", "Select-Object"]]
  | .python =>
    [wordEdge ++ text "def" ++ run blank ++ run word ++ many blank ++ text "(" ++ many (notAmong [')'])
       ++ text ")" ++ many blank ++ text ":",
     wordEdge ++ text "class" ++ run blank ++ run word ++ many blank ++ one (among [':', '(']),
     lineStart ++ text "import" ++ run blank ++ run word,
     lineStart ++ text "from" ++ run blank ++ run word ++ run blank ++ text "import" ++ run blank,
     text "if" ++ run blank ++ text "__name__" ++ many blank ++ text "==" ++ many blank
       ++ one (among ['\'', '"']) ++ text "__main__" ++ one (among ['\'', '"']),
     lineStart ++ one blank ++ one blank ++ one blank ++ one blank ++ one notBlank]
  | .lua =>
    [wordEdge ++ text "local" ++ run blank ++ run word ++ many blank ++ text "=",
     wordEdge ++ text "function" ++ run blank ++ run word ++ many blank ++ text "("
       ++ many (notAmong [')']) ++ text ")",
     wordEdge ++ text "end" ++ wordEdge,
     wordEdge ++ text "then" ++ wordEdge,
     wordEdge ++ text "require" ++ many blank ++ text "(" ++ one (among ['\'', '"']),
     text ".." ++ notBefore (exactly '.')]
  | .nim =>
    [wordEdge ++ text "proc" ++ run blank ++ run word ++ many blank ++ text "("
       ++ many (notAmong [')']) ++ text ")",
     wordEdge ++ text "var" ++ run blank ++ run word ++ many blank ++ text ":",
     wordEdge ++ text "let" ++ run blank ++ run word ++ many blank ++ text "=",
     wordEdge ++ text "echo" ++ run blank,
     wordEdge ++ text "import" ++ run blank ++ run word,
     wordEdge ++ text "result" ++ many blank ++ text "="]
  | .go =>
    [wordEdge ++ text "func" ++ run blank ++ run word ++ many blank ++ text "("
       ++ many (notAmong [')']) ++ text ")",
     wordEdge ++ text "package" ++ run blank ++ run word,
     text ":=",
     wordEdge ++ text "import" ++ run blank ++ text "(",
     wordEdge ++ text "fmt."
       ++ oneOf (text "Print") [text "Println", text "Printf", text "Sprintf"],
     wordEdge ++ text "defer" ++ run blank]
  | _ => []

/-- Words in lower case, to be looked for in the lower case of a text. -/
def weakFeatures : Language → List String
  | .bat => ["echo", "pause", "exit", "call", "start", "copy", "move", "del", "mkdir", "rmdir"]
  | .powershell =>
    ["write-host", "write-output", "-eq", "-ne", "-gt", "-lt", "$true", "$false", "$null"]
  | .python =>
    ["print", "elif", "except", "finally", "lambda", "yield", "with", "assert", "pass", "raise"]
  | .lua => ["nil", "elseif", "repeat", "until", "pairs", "ipairs", "table", "string", "math"]
  | .nim => ["nil", "true", "false", "and", "or", "not", "div", "mod", "shl", "shr"]
  | .go => ["nil", "make", "append", "len", "cap", "range", "chan", "select", "go", "struct"]
  | _ => []

def weakMatches (language : Language) (lowered : List Char) : List String :=
  (weakFeatures language).filter fun keyword => Text.occursIn keyword.toList lowered

def strongMatches (language : Language) (code : List Char) : List Nat :=
  (strongFeatures language).zipIdx.filterMap fun (pattern, index) =>
    if pattern.occursIn code then some index else none

end Scriptlet.Detection
