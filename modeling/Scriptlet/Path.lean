/-!
Paths in normal form: an anchor and the parts after it. Empty parts and single dots are dropped, double
dots are kept, and exactly two slashes at the front are an anchor of their own.
-/
namespace Scriptlet

inductive Anchor where
  | here
  | root
  | doubleRoot
  deriving DecidableEq, Repr

structure Path where
  anchor : Anchor
  parts : List String
  deriving DecidableEq, Repr

namespace Path

/-- The pieces of a text between slashes; `piece` holds the characters of the first one so far, the last
one first. -/
def splitSlashes (piece : List Char) : List Char → List (List Char)
  | [] => [piece.reverse]
  | c :: rest => if c = '/' then piece.reverse :: splitSlashes [] rest else splitSlashes (c :: piece) rest

def anchorOf : List Char → Anchor
  | '/' :: '/' :: '/' :: _ => .root
  | '/' :: '/' :: _ => .doubleRoot
  | '/' :: _ => .root
  | _ => .here

def isPart (piece : List Char) : Bool := piece ≠ [] && piece ≠ ['.']

def ofString (text : String) : Path :=
  ⟨anchorOf text.toList, ((splitSlashes [] text.toList).filter isPart).map String.ofList⟩

def anchorText : Anchor → String
  | .here => ""
  | .root => "/"
  | .doubleRoot => "//"

def toString (path : Path) : String :=
  match path.anchor, path.parts with
  | .here, [] => "."
  | anchor, parts => anchorText anchor ++ "/".intercalate parts

instance : ToString Path := ⟨toString⟩

/-- The names that are looked up one after the other; the path with no parts looks up a dot. -/
def steps (path : Path) : List String :=
  match path.anchor, path.parts with
  | .here, [] => ["."]
  | _, parts => parts

/-- The second path seen from the first; an anchored path is the same from everywhere. -/
def join (base path : Path) : Path :=
  match path.anchor with
  | .here => ⟨base.anchor, base.parts ++ path.parts⟩
  | _ => path

def name (path : Path) : String := path.parts.getLast?.getD ""

def parent (path : Path) : Path := ⟨path.anchor, path.parts.dropLast⟩

end Path
end Scriptlet
