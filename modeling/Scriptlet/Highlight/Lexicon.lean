import Scriptlet.Language
import Scriptlet.Pattern.Basic

/-!
What highlighting knows of a language: its keywords and how its comments and strings begin and end.
-/
namespace Scriptlet
open CharClass (word digit among exactly)
open Pattern (one many run text oneOf optional wordEdge)

structure Delimiters where
  opening : String
  closing : String
  deriving DecidableEq, Repr

structure Lexicon where
  keywords : List String
  keywordsAnyCase : Bool
  lineComments : List String
  blockComment : Option Delimiters
  quotes : List Char
  /-- The quotes whose strings may span lines. -/
  rawQuotes : List Char
  escapes : Bool
  blockStrings : List Delimiters
  deriving DecidableEq, Repr

namespace Lexicon

def bat : Lexicon where
  keywords :=
    ["call", "cd", "chdir", "cls", "cmd", "color", "copy", "del", "dir", "echo", "else",
     "endlocal", "equ", "errorlevel", "exist", "exit", "for", "geq", "goto", "gtr", "if",
     "in", "leq", "lss", "md", "mkdir", "move", "neq", "not", "nul", "path", "pause", "popd",
     "pushd", "rd", "rem", "ren", "rename", "rmdir", "set", "setlocal", "shift", "start",
     "title", "type", "ver", "verify", "vol"]
  keywordsAnyCase := true
  lineComments := ["REM ", "rem ", "::"]
  blockComment := none
  quotes := ['"']
  rawQuotes := []
  escapes := false
  blockStrings := []

def powershell : Lexicon where
  keywords :=
    ["Begin", "Break", "Catch", "Class", "Continue", "Data", "Define", "Do", "DynamicParam",
     "Else", "ElseIf", "End", "Exit", "Filter", "Finally", "For", "ForEach", "From", "Function",
     "If", "In", "Param", "Process", "Return", "Switch", "Throw", "Trap", "Try", "Until",
     "Using", "While", "Workflow"]
  keywordsAnyCase := true
  lineComments := ["#"]
  blockComment := some ⟨"<#", "#>"⟩
  quotes := ['"', '\'']
  rawQuotes := []
  escapes := false
  blockStrings := []

def python : Lexicon where
  keywords :=
    ["False", "None", "True", "and", "as", "assert", "async", "await", "break", "class",
     "continue", "def", "del", "elif", "else", "except", "finally", "for", "from", "global",
     "if", "import", "in", "is", "lambda", "nonlocal", "not", "or", "pass", "raise",
     "return", "try", "while", "with", "yield"]
  keywordsAnyCase := false
  lineComments := ["#"]
  blockComment := none
  quotes := ['"', '\'']
  rawQuotes := []
  escapes := true
  blockStrings := [⟨"\"\"\"", "\"\"\""⟩, ⟨"'''", "'''"⟩]

def lua : Lexicon where
  keywords :=
    ["and", "break", "do", "else", "elseif", "end", "false", "for", "function", "goto",
     "if", "in", "local", "nil", "not", "or", "repeat", "return", "then", "true", "until",
     "while"]
  keywordsAnyCase := false
  lineComments := ["--"]
  blockComment := some ⟨"--[[", "]]"⟩
  quotes := ['"', '\'']
  rawQuotes := []
  escapes := false
  blockStrings := [⟨"[[", "]]"⟩]

def nim : Lexicon where
  keywords :=
    ["addr", "and", "as", "asm", "bind", "block", "break", "case", "cast", "concept", "const",
     "continue", "converter", "defer", "discard", "distinct", "div", "do", "elif", "else",
     "end", "enum", "except", "export", "finally", "for", "from", "func", "if", "import", "in",
     "include", "interface", "is", "isnot", "iterator", "let", "macro", "method", "mixin",
     "mod", "nil", "not", "notin", "object", "of", "or", "out", "proc", "ptr", "raise", "ref",
     "return", "shl", "shr", "static", "template", "try", "tuple", "type", "using", "var",
     "when", "while", "xor", "yield"]
  keywordsAnyCase := false
  lineComments := ["#"]
  blockComment := some ⟨"#[", "]#"⟩
  quotes := ['"']
  rawQuotes := []
  escapes := true
  blockStrings := [⟨"\"\"\"", "\"\"\""⟩]

def go : Lexicon where
  keywords :=
    ["break", "case", "chan", "const", "continue", "default", "defer", "else", "fallthrough",
     "for", "func", "go", "goto", "if", "import", "interface", "map", "package", "range",
     "return", "select", "struct", "switch", "type", "var"]
  keywordsAnyCase := false
  lineComments := ["//"]
  blockComment := some ⟨"/*", "*/"⟩
  quotes := ['"', '\'', '\x60']
  rawQuotes := ['\x60']
  escapes := false
  blockStrings := []

def of? : Language → Option Lexicon
  | .bat => some bat
  | .powershell => some powershell
  | .python => some python
  | .lua => some lua
  | .nim => some nim
  | .go => some go
  | _ => none

def digits : Pattern := run digit

def exponent : Pattern :=
  optional (one (among ['e', 'E']) ++ optional (one (among ['+', '-'])) ++ digits)

def digitsOf (marks : List Char) (chars : String) : Pattern :=
  text "0" ++ one (among marks) ++ run (among chars.toList)

def number : Pattern :=
  wordEdge
    ++ oneOf (digitsOf ['x', 'X'] "0123456789abcdefABCDEF")
      [digitsOf ['b', 'B'] "01",
       digitsOf ['o', 'O'] "01234567",
       digits ++ optional (one (exactly '.')) ++ many digit ++ exponent,
       text "." ++ digits ++ exponent]
    ++ wordEdge

end Lexicon
end Scriptlet
