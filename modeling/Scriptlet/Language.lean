import Scriptlet.Text.Basic
import Scriptlet.Text.Lowercase

/-!
The script languages, their identifiers and the extensions of their files. The order of `Language.all`
is the order of reports that are not ranked.
-/
namespace Scriptlet

inductive Language where
  | bat
  | powershell
  | pwsh
  | python
  | lua
  | nim
  | php
  | javascript
  | typescript
  | go
  | vbscript
  deriving DecidableEq, Repr, Inhabited

namespace Language

def all : List Language :=
  [bat, powershell, pwsh, python, lua, nim, php, javascript, typescript, go, vbscript]

def id : Language → String
  | bat => "bat"
  | powershell => "powershell"
  | pwsh => "pwsh"
  | python => "python"
  | lua => "lua"
  | nim => "nim"
  | php => "php"
  | javascript => "javascript"
  | typescript => "typescript"
  | go => "go"
  | vbscript => "vbscript"

def extension : Language → String
  | bat => ".bat"
  | powershell | pwsh => ".ps1"
  | python => ".py"
  | lua => ".lua"
  | nim => ".nim"
  | php => ".php"
  | javascript => ".js"
  | typescript => ".ts"
  | go => ".go"
  | vbscript => ".vbs"

def ofId? (id : String) : Option Language := all.find? (·.id = id)

def canonical (name : String) : String := String.ofList (Text.lower (Text.strip name.toList))

def parse? (name : String) : Option Language := ofId? (canonical name)

theorem mem_all (language : Language) : language ∈ all := by cases language <;> decide

theorem ofId?_id (language : Language) : ofId? language.id = some language := by
  cases language <;> decide

theorem id_of_ofId? {id : String} {language : Language} (found : ofId? id = some language) :
    language.id = id := by
  simpa using List.find?_some found

end Language
end Scriptlet
