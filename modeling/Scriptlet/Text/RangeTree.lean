/-!
Search trees over ranges of code points. A tree is built from a list of ranges in ascending order
and answers, for a character, the value attached to the range that holds it.
-/
namespace Scriptlet.Text

structure CharRange (α : Type) where
  first : Nat
  last : Nat
  value : α

inductive RangeTree (α : Type) where
  | leaf
  | node (left : RangeTree α) (here : CharRange α) (right : RangeTree α)

namespace RangeTree
variable {α : Type}

def find? (c : Nat) : RangeTree α → Option (CharRange α)
  | leaf => none
  | node left here right =>
    if c < here.first then left.find? c
    else if here.last < c then right.find? c
    else some here

def contains (tree : RangeTree α) (c : Char) : Bool := (tree.find? c.toNat).isSome

def toList : RangeTree α → List (CharRange α)
  | leaf => []
  | node left here right => left.toList ++ here :: right.toList

/-- Takes up to `2 ^ depth - 1` ranges off the front of the list; also returns the others. -/
def build : Nat → List (CharRange α) → RangeTree α × List (CharRange α)
  | 0, ranges => (leaf, ranges)
  | depth + 1, ranges =>
    match build depth ranges with
    | (left, []) => (left, [])
    | (left, here :: later) =>
      let (right, rest) := build depth later
      (node left here right, rest)

/-- The tree of at most 4095 ranges given in ascending order. -/
def ofList (ranges : List (CharRange α)) : RangeTree α := (build 12 ranges).1

/-- The tree of ranges that carry no value: a set of characters. -/
def ofPairs (ranges : List (Nat × Nat)) : RangeTree Unit :=
  ofList (ranges.map fun (first, last) => ⟨first, last, ()⟩)

theorem mem_toList_of_find? {tree : RangeTree α} {c : Nat} {range : CharRange α}
    (found : tree.find? c = some range) :
    range ∈ tree.toList ∧ range.first ≤ c ∧ c ≤ range.last := by
  induction tree with
  | leaf => simp [find?] at found
  | node left here right leftIh rightIh =>
    simp only [find?] at found
    simp only [toList, List.mem_append, List.mem_cons]
    split at found
    · have := leftIh found; grind
    · split at found
      · have := rightIh found; grind
      · cases found; grind

theorem toList_build (depth : Nat) (ranges : List (CharRange α)) :
    (build depth ranges).1.toList ++ (build depth ranges).2 = ranges := by
  induction depth generalizing ranges with
  | zero => simp [build, toList]
  | succ depth ih =>
    have start := ih ranges
    rw [build]
    split
    next left split => simpa [split] using start
    next left here later split =>
      have rest := ih later
      rw [split] at start
      simp only [toList, List.append_assoc, List.cons_append, rest]
      exact start

end RangeTree
end Scriptlet.Text
