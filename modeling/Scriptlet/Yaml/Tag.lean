/-!
The tags of nodes: what kind of value a node stands for.
-/
namespace Scriptlet.Yaml

inductive Tag where
  | null
  | bool
  | int
  | float
  | moment
  | bytes
  | text
  | list
  | map
  | set
  | pairs
  /-- As a key: the entries of the value are taken over. -/
  | merge
  /-- As a key: the value stands for the whole map where a scalar is asked for. -/
  | equals
  | other
  deriving DecidableEq, Repr, Inhabited

namespace Tag

def lead : String := "tag:yaml.org,2002:"

def names : List (String × Tag) :=
  [("null", null), ("bool", bool), ("int", int), ("float", float), ("timestamp", moment),
   ("binary", bytes), ("str", text), ("seq", list), ("map", map), ("set", set), ("omap", pairs),
   ("pairs", pairs), ("merge", merge), ("value", equals)]

def ofName (name : String) : Tag :=
  ((names.find? fun (known, _) => lead ++ known = name).map Prod.snd).getD other

def isCollection : Tag → Bool
  | list | map | set | pairs => true
  | _ => false

end Tag
end Scriptlet.Yaml
