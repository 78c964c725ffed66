import Scriptlet.Yaml.Building

/-!
The value of a document. A collection may hold itself; it is followed through a limited number of levels,
below which collections are shown empty.
-/
namespace Scriptlet.Yaml

def levels : Nat := 64

def Shape.fill (valueAt : Nat → Value) : Shape → Value
  | .scalar value => value
  | .list items => .list (items.map valueAt)
  | .set items => .set (items.map valueAt)
  | .pairs entries => .list (entries.map fun (key, value) => .list [valueAt key, valueAt value])
  | .map entries => .map (entries.map fun (key, value) => (valueAt key, valueAt value))

def Shape.surface : Shape → Value
  | .scalar value => value
  | .list _ | .pairs _ => .list []
  | .set _ => .set []
  | .map _ => .map []

def unfold (shapes : Array Shape) : (levels : Nat) → Array Value
  | 0 => shapes.map Shape.surface
  | levels + 1 =>
    let inner := unfold shapes levels
    shapes.map (Shape.fill fun place => inner[place]?.getD .null)

def read (text : String) : Except Error Value := do
  let graph ← Graph.read text.toList
  if graph.isEmpty then .ok .null
  else
    let shapes ← graph.shapes
    .ok ((unfold shapes levels)[0]?.getD .null)

end Scriptlet.Yaml
