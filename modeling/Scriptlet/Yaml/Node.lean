import Scriptlet.Yaml.Plain
import Scriptlet.Yaml.Tokens

/-!
The nodes of a document: scalars, lists and maps, each with its tag. An alias stands for a node that began
before it, so nodes are kept in one array and hold the places of others. A text holds at most one
document.
-/
namespace Scriptlet.Yaml

inductive Content where
  /-- A scalar; a text that is not whole holds half of a surrogate pair. -/
  | scalar (text : String) (isWhole : Bool)
  | list (items : List Nat)
  | map (entries : List (Nat × Nat))
  deriving Repr, Inhabited

structure Node where
  tag : Tag
  content : Content
  deriving Repr, Inhabited

/-- The nodes of a document in the order in which they begin; the first one is the whole document. -/
abbrev Graph := Array Node

namespace Node

def maxDepth : Nat := 485

/-- The tokens that are left, the places of the names known so far, the nodes read so far, and how many
more nodes may stand inside one another. -/
structure Source where
  tokens : List Token
  handles : List (String × String)
  anchors : List (String × Nat)
  nodes : Graph
  depth : Nat

abbrev Reader := StateT Source (Except Error)

namespace Reader

def fail {α : Type} : Reader α := throw .malformed

def peek : Reader Token := do
  match (← get).tokens.headD .streamEnd with
  | .fault error => throw error
  | token => return token

def skip : Reader Unit := modify fun source => { source with tokens := source.tokens.drop 1 }

def accept (token : Token) : Reader Bool := do
  if (← peek) = token then
    skip
    return true
  else return false

/-- The full name of a tag; none for a lone exclamation mark. -/
def tagName (written : WrittenTag) : Reader String := do
  match written.handle with
  | none => return written.suffix
  | some handle =>
    match (← get).handles.lookup handle with
    | some lead => return lead ++ written.suffix
    | none => fail

def properties : Reader (Option String × Option String) := do
  let anchor? : Reader (Option String) := do
    match ← peek with
    | .anchor name => skip; return some name
    | _ => return none
  let tag? : Reader (Option WrittenTag) := do
    match ← peek with
    | .tag written => skip; return some written
    | _ => return none
  let before ← anchor?
  let written ← tag?
  let anchor ← if before.isNone && written.isSome then anchor? else pure before
  return (anchor, ← written.mapM tagName)

/-- Adds a node under a name, if it has one, and gives its place. No two nodes have one name. -/
def add (anchor : Option String) (tag : Tag) (content : Content) : Reader Nat := do
  let source ← get
  let place := source.nodes.size
  let nodes := source.nodes.push ⟨tag, content⟩
  match anchor with
  | none =>
    set { source with nodes }
    return place
  | some name =>
    if (source.anchors.lookup name).isSome then fail
    else
      set { source with nodes, anchors := (name, place) :: source.anchors }
      return place

def fill (place : Nat) (content : Content) : Reader Unit :=
  modify fun source =>
    { source with nodes := source.nodes.modify place fun node => { node with content } }

/-- The place of the node with a name. A node is known from its beginning on, so it can hold itself. -/
def aliased (name : String) : Reader Nat := do
  match (← get).anchors.lookup name with
  | some place => return place
  | none => fail

def deeper {α : Type} (read : Reader α) : Reader α := do
  let depth := (← get).depth
  if depth = 0 then throw .tooDeep
  modify fun source => { source with depth := depth - 1 }
  let inside ← read
  modify fun source => { source with depth }
  return inside

def nothing : Reader Nat := add none .null (.scalar "" true)

/-- The tag of a collection; a lone exclamation mark says nothing. -/
def collectionTag (usual : Tag) : Option String → Tag
  | none => usual
  | some name => if name = "!" then usual else .ofName name

/-- The tag of a scalar; after a lone exclamation mark it is read like a plain one. -/
def scalarTag (isPlain : Bool) (text : String) : Option String → Tag
  | none => if isPlain then Plain.tag text else .text
  | some name => if name = "!" then Plain.tag text else .ofName name

mutual

/-- Reads a node. Outside flow collections `block` is set, and `loose` if a list may stand without an
indentation of its own. -/
def node (block loose : Bool) : (fuel : Nat) → Reader Nat
  | 0 => fail
  | fuel + 1 => do
    match ← peek with
    | .alias name => skip; aliased name
    | _ =>
      let (anchor, tag) ← properties
      deeper (content block loose anchor tag fuel)

def content (block loose : Bool) (anchor tag : Option String) : (fuel : Nat) → Reader Nat
  | 0 => fail
  | fuel + 1 => do
    let absent : Reader Nat :=
      if anchor.isSome || tag.isSome then add anchor (scalarTag true "" tag) (.scalar "" true) else fail
    let list (items : Reader (List Nat)) : Reader Nat := do
      let place ← add anchor (collectionTag .list tag) (.list [])
      fill place (.list (← items))
      return place
    let map (entries : Reader (List (Nat × Nat))) : Reader Nat := do
      let place ← add anchor (collectionTag .map tag) (.map [])
      fill place (.map (← entries))
      return place
    match ← peek with
    | .scalar text isPlain isWhole =>
      skip
      add anchor (scalarTag isPlain text tag) (.scalar text isWhole)
    | .flowListStart => skip; list (flowItems true fuel)
    | .flowMapStart => skip; map (flowEntries true fuel)
    | .blockListStart => if block then skip; list (blockItems fuel) else absent
    | .blockMapStart => if block then skip; map (blockEntries fuel) else absent
    | .blockEntry => if loose then list (looseItems fuel) else absent
    | _ => absent

def nodeUnless (ends : List Token) (block loose : Bool) : (fuel : Nat) → Reader Nat
  | 0 => fail
  | fuel + 1 => do
    if ends.contains (← peek) then nothing else node block loose fuel

def blockItems : (fuel : Nat) → Reader (List Nat)
  | 0 => fail
  | fuel + 1 => do
    if ← accept .blockEntry then
      let item ← nodeUnless [.blockEntry, .blockEnd] true false fuel
      return item :: (← blockItems fuel)
    else if ← accept .blockEnd then return []
    else fail

def looseItems : (fuel : Nat) → Reader (List Nat)
  | 0 => fail
  | fuel + 1 => do
    if ← accept .blockEntry then
      let item ← nodeUnless [.blockEntry, .key, .value, .blockEnd] true false fuel
      return item :: (← looseItems fuel)
    else return []

def blockEntries : (fuel : Nat) → Reader (List (Nat × Nat))
  | 0 => fail
  | fuel + 1 => do
    if ← accept .key then
      let key ← nodeUnless [.key, .value, .blockEnd] true true fuel
      let value ←
        if ← accept .value then nodeUnless [.key, .value, .blockEnd] true true fuel
        else nothing
      return (key, value) :: (← blockEntries fuel)
    else if ← accept .blockEnd then return []
    else fail

def flowPair (last : Token) : (fuel : Nat) → Reader (Nat × Nat)
  | 0 => fail
  | fuel + 1 => do
    let key ← nodeUnless [.value, .flowEntry, last] false false fuel
    let value ←
      if ← accept .value then nodeUnless [.flowEntry, last] false false fuel else nothing
    return (key, value)

def flowItems (isFirst : Bool) : (fuel : Nat) → Reader (List Nat)
  | 0 => fail
  | fuel + 1 => do
    if ← accept .flowListEnd then return []
    else
      if !isFirst then
        if !(← accept .flowEntry) then fail
      if ← accept .flowListEnd then return []
      else
        let item ←
          if ← accept .key then do
            let place ← add none .map (.map [])
            fill place (.map [← deeper (flowPair .flowListEnd fuel)])
            pure place
          else node false false fuel
        return item :: (← flowItems false fuel)

def flowEntries (isFirst : Bool) : (fuel : Nat) → Reader (List (Nat × Nat))
  | 0 => fail
  | fuel + 1 => do
    if ← accept .flowMapEnd then return []
    else
      if !isFirst then
        if !(← accept .flowEntry) then fail
      if ← accept .flowMapEnd then return []
      else
        let entry ←
          if ← accept .key then flowPair .flowMapEnd fuel
          else do
            let key ← node false false fuel
            pure (key, ← nothing)
        return entry :: (← flowEntries false fuel)

end

def standardHandles : List (String × String) := [("!", "!"), ("!!", "tag:yaml.org,2002:")]

/-- Reads the directives before a document: at most one of the version, and one for each handle. -/
def directives (hasVersion : Bool) (handles : List (String × String)) :
    (count : Nat) → Reader (List (String × String))
  | 0 => fail
  | count + 1 => do
    match ← peek with
    | .directive content =>
      skip
      match content with
      | .version major =>
        if hasVersion || major ≠ 1 then fail else directives true handles count
      | .tagHandle handle lead =>
        if (handles.lookup handle).isSome then fail
        else directives hasVersion (handles ++ [(handle, lead)]) count
      | .unknown => directives hasVersion handles count
    | _ => return handles ++ standardHandles

private def endsContent : Token → Bool
  | .directive _ | .documentStart | .documentEnd | .streamEnd => true
  | _ => false

def streamEnd : (count : Nat) → Reader Unit
  | 0 => fail
  | count + 1 => do
    if ← accept .documentEnd then streamEnd count
    else if (← peek) = .streamEnd then return ()
    else fail

def document : Reader Graph := do
  let count := (← get).tokens.length + 1
  let fuel := 4 * count
  match ← peek with
  | .streamEnd => return #[]
  | .directive _ | .documentStart =>
    let handles ← directives false [] count
    if !(← accept .documentStart) then fail
    modify fun source => { source with handles }
    let _ ← if endsContent (← peek) then nothing else node true false fuel
    streamEnd count
    return (← get).nodes
  | _ =>
    let _ ← node true false fuel
    streamEnd count
    return (← get).nodes

end Reader

end Node

def Graph.read (text : List Char) : Except Error Graph :=
  Node.Reader.document.run' ⟨tokens text, Node.Reader.standardHandles, [], #[], Node.maxDepth⟩

end Scriptlet.Yaml
