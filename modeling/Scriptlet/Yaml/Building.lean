import Scriptlet.Yaml.Meaning
import Scriptlet.Yaml.Node

/-!
What nodes stand for. Collections are built level by level: each one waits until those that were met before
it are built, so a fault further up is met before one further down. A map takes over the entries of the maps
under its merge keys and puts its own entries after them; of entries with the same key the last one
counts.
-/
namespace Scriptlet.Yaml

/-- What a node stands for; what it holds is given by places of other nodes. -/
inductive Shape where
  | scalar (value : Value)
  | list (items : List Nat)
  | set (items : List Nat)
  | pairs (entries : List (Nat × Nat))
  | map (entries : List (Nat × Nat))
  deriving Repr, Inhabited

/-- The nodes, what they stand for as far as that is known, and the collections that are still to be
built, in order. -/
structure Building where
  nodes : Graph
  shapes : Array (Option Shape)
  waiting : Array Nat

abbrev Builder := StateT Building (Except Error)

namespace Builder

def fail {α : Type} : Builder α := throw .malformed

def node (place : Nat) : Builder Node := do return (← get).nodes[place]?.getD default

def setShape (place : Nat) (shape : Shape) : Builder Unit :=
  modify fun building => { building with shapes := building.shapes.set! place (some shape) }

def changeNode (place : Nat) (change : Node → Node) : Builder Unit :=
  modify fun building => { building with nodes := building.nodes.modify place change }

/-- The text of a scalar. A map that stands where a scalar is asked for has the text of the value under its
equals sign. -/
def scalarText (place : Nat) : (fuel : Nat) → Builder (String × Bool)
  | 0 => throw .tooDeep
  | fuel + 1 => do
    match (← node place).content with
    | .scalar text isWhole => return (text, isWhole)
    | .list _ => fail
    | .map entries =>
      match ← entries.findM? fun (key, _) => do return (← node key).tag = .equals with
      | some (_, value) => scalarText value fuel
      | none => fail

def start (place : Nat) : Builder Unit := do
  let building ← get
  if (building.shapes[place]?.join).isNone then
    let node ← node place
    if node.tag.isCollection then
      setShape place (.list [])
      modify fun building => { building with waiting := building.waiting.push place }
    else if node.tag = .merge || node.tag = .equals || node.tag = .other then fail
    else
      let (text, isWhole) ← scalarText place (building.nodes.size + 1)
      if node.tag = .moment && node.content matches .map _ then throw .momentInMap
      setShape place (.scalar (← (Meaning.value node.tag text isWhole)))

def entries? (place : Nat) : Builder (Option (List (Nat × Nat))) := do
  match (← node place).content with
  | .map entries => return some entries
  | _ => return none

mutual

/-- Puts the entries that the merge keys of a map ask for before its own entries. An equals sign among its
keys is text from then on. -/
def merge (place : Nat) : (fuel : Nat) → Builder Unit
  | 0 => throw .tooDeep
  | fuel + 1 => do
    if let some entries ← entries? place then
      let isMerge (entry : Nat × Nat) : Builder Bool := do return (← node entry.1).tag = .merge
      let asked ← entries.filterM isMerge
      let own ← entries.filterM fun entry => do return !(← isMerge entry)
      changeNode place fun node => { node with content := .map own }
      own.forM fun (key, _) => changeNode key fun node =>
        if node.tag = .equals then { node with tag := .text } else node
      let merged ← asked.mapM fun (_, value) => entriesToMerge value fuel
      if !asked.isEmpty then
        let own := (← entries? place).getD []
        changeNode place fun node => { node with content := .map (merged.flatten ++ own) }

/-- The entries of a map, or of all maps in a list, the last map first. -/
def entriesToMerge (place : Nat) : (fuel : Nat) → Builder (List (Nat × Nat))
  | 0 => throw .tooDeep
  | fuel + 1 => do
    match (← node place).content with
    | .scalar _ _ => fail
    | .map _ =>
      merge place fuel
      return (← entries? place).getD []
    | .list items =>
      let groups ← items.mapM fun item => do
        if (← entries? item).isNone then fail
        merge item fuel
        return (← entries? item).getD []
      return groups.reverse.flatten

end

def keyValue (place : Nat) : Builder Value := do
  match (← get).shapes[place]?.join with
  | some (.scalar value) => return value
  | _ => fail

def isNamedNan (place : Nat) : Builder Bool := do
  match (← node place).content with
  | .scalar text _ => return Meaning.isNamedNan text
  | _ => return false

/-- Whether two nodes are the same key. No number is a key like any other: all its names are one key. -/
def isSameKey (a b : Nat) : Builder Bool := do
  if a = b || (← keyValue a).sameKey (← keyValue b) then return true
  else return (← isNamedNan a) && (← isNamedNan b)

def putEntry (known : List (Nat × Nat)) (key value : Nat) : Builder (List (Nat × Nat)) := do
  match known with
  | [] => return [(key, value)]
  | entry :: rest =>
    if ← isSameKey entry.1 key then return (entry.1, value) :: rest
    else return entry :: (← putEntry rest key value)

def mapEntries (place : Nat) : Builder (List (Nat × Nat)) := do
  merge place ((← get).nodes.size + 2)
  match ← entries? place with
  | none => fail
  | some entries =>
    entries.foldlM (fun known (key, value) => do
      start key
      let _ ← keyValue key
      start value
      putEntry known key value) []

def pair (place : Nat) : Builder (Nat × Nat) := do
  match ← entries? place with
  | some [(key, value)] =>
    start key
    start value
    return (key, value)
  | _ => fail

def build (place : Nat) : Builder Unit := do
  let node ← node place
  match node.tag, node.content with
  | .map, _ => setShape place (.map (← mapEntries place))
  | .set, _ => setShape place (.set ((← mapEntries place).map Prod.fst))
  | .list, .list items =>
    items.forM start
    setShape place (.list items)
  | .pairs, .list items => setShape place (.pairs (← items.mapM pair))
  | _, _ => fail

def buildFrom (index : Nat) : (count : Nat) → Builder Unit
  | 0 => return ()
  | count + 1 => do
    match (← get).waiting[index]? with
    | none => return ()
    | some place =>
      build place
      buildFrom (index + 1) count

end Builder

/-- What the nodes of a document stand for. Nodes that nothing asks for count as null. -/
def Graph.shapes (graph : Graph) : Except Error (Array Shape) := do
  let building : Building := ⟨graph, Array.replicate graph.size none, #[]⟩
  let (_, built) ← (do
    Builder.start 0
    Builder.buildFrom 0 (graph.size + 1) : Builder Unit).run building
  .ok (built.shapes.map fun shape => shape.getD (.scalar .null))

end Scriptlet.Yaml
