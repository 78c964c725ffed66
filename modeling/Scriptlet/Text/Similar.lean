/-!
How alike two texts are: the share of characters that lie in common blocks, where the longest common block is
taken first, and then the longest ones before it and after it.
-/
namespace Scriptlet.Text.Similar

def commonLead : List Char → List Char → Nat
  | a :: as, b :: bs => if a = b then commonLead as bs + 1 else 0
  | _, _ => 0

structure Block where
  first : Nat
  second : Nat
  size : Nat
  deriving DecidableEq, Repr

/-- The longest common block; of several ones the one that comes first in the first text, and then in the
second. -/
def longestBlock (a b : List Char) : Block :=
  (List.range a.length).foldl (fun best i =>
    (List.range b.length).foldl (fun best j =>
      let size := commonLead (a.drop i) (b.drop j)
      if best.size < size then ⟨i, j, size⟩ else best) best) ⟨0, 0, 0⟩

/-- The number of characters in common blocks; every round takes at least one character. -/
def matching (a b : List Char) : (rounds : Nat) → Nat
  | 0 => 0
  | rounds + 1 =>
    let block := longestBlock a b
    if block.size = 0 then 0
    else
      block.size + matching (a.take block.first) (b.take block.second) rounds
        + matching (a.drop (block.first + block.size)) (b.drop (block.second + block.size)) rounds

def share (a b : String) : Nat × Nat :=
  (2 * matching a.toList b.toList (a.length + 1), a.length + b.length)

/-- The order of suggestions: the closer ones first, and of equally close ones the one with the greater
name. -/
private def isBefore (a b : String × Nat × Nat) : Bool :=
  let (name, common, all) := a
  let (otherName, otherCommon, otherAll) := b
  otherCommon * all < common * otherAll || (otherCommon * all = common * otherAll && otherName ≤ name)

/-- The names that share at least three fifths with a word, the closest ones first, at most three. -/
def suggestions (word : String) (names : List String) : List String :=
  let close := (names.map fun name => (name, share name word)).filter fun (_, common, all) =>
    3 * all ≤ 5 * common
  ((close.mergeSort isBefore).take 3).map Prod.fst

end Scriptlet.Text.Similar
