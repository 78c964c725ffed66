/-!
Sets of disjoint half-open ranges of integers, kept in order, with their starts in one column and their ends
in another. Queries and insertions find their place by binary search among the starts and then look only at
the two ranges beside it.
-/
namespace Scriptlet

/-- The integers from `start` up to but not including `stop`. -/
structure Interval where
  start : Int
  stop : Int
  deriving DecidableEq, Repr

structure IntervalSet where
  starts : Array Int
  stops : Array Int
  deriving DecidableEq, Repr

inductive IntervalError where
  | empty (range : Interval)
  | overlapping (range : Interval)
  deriving DecidableEq, Repr

def IntervalError.message : IntervalError → String
  | .empty range => s!"empty interval [{range.start}, {range.stop})"
  | .overlapping range => s!"interval [{range.start}, {range.stop}) overlaps an existing interval"

namespace IntervalSet

def empty : IntervalSet := ⟨#[], #[]⟩

instance : EmptyCollection IntervalSet := ⟨empty⟩

def size (set : IntervalSet) : Nat := set.starts.size

def toList (set : IntervalSet) : List Interval :=
  List.zipWith Interval.mk set.starts.toList set.stops.toList

/-- Narrows the bounds `low` and `high` of the place where a range that starts at `start` belongs:
before it are ranges that start at or before `start`, after it ranges that start later. -/
def searchPlace (starts : Array Int) (start : Int) (low high : Nat) : Nat :=
  if low < high then
    let middle := (low + high) / 2
    match starts[middle]? with
    | some known =>
      if start < known then searchPlace starts start low middle
      else searchPlace starts start (middle + 1) high
    | none => low
  else low
termination_by high - low

/-- The number of ranges that start at or before `start`. -/
def place (set : IntervalSet) (start : Int) : Nat := searchPlace set.starts start 0 set.size

theorem searchPlace_le {starts : Array Int} {start : Int} {low high : Nat} (ordered : low ≤ high) :
    searchPlace starts start low high ≤ high := by
  fun_induction searchPlace starts start low high with
  | case1 low high below middle known _ _ ih => have := ih (by omega); omega
  | case2 low high below middle known _ _ ih => exact ih (by omega)
  | case3 => omega
  | case4 => omega

theorem place_le_size (set : IntervalSet) (start : Int) : set.place start ≤ set.size :=
  searchPlace_le (Nat.zero_le _)

/-- Whether the range before the place of `start` reaches past it or the range after it begins before
`stop`. -/
def overlaps (set : IntervalSet) (start stop : Int) : Bool :=
  let index := set.place start
  let reaches := match index with
    | 0 => false
    | last + 1 => set.stops[last]?.any (start < ·)
  reaches || set.starts[index]?.any (· < stop)

def insertAt (column : Array Int) (index : Nat) (number : Int) : Array Int :=
  column.insertIdx (min index column.size) number (Nat.min_le_right _ _)

def add (set : IntervalSet) (start stop : Int) : Except IntervalError IntervalSet :=
  if stop ≤ start then .error (.empty ⟨start, stop⟩)
  else if set.overlaps start stop then .error (.overlapping ⟨start, stop⟩)
  else
    let index := set.place start
    .ok ⟨insertAt set.starts index start, insertAt set.stops index stop⟩

def tryAdd (set : IntervalSet) (start stop : Int) : Bool × IntervalSet :=
  match set.add start stop with
  | .ok larger => (true, larger)
  | .error _ => (false, set)

end IntervalSet
end Scriptlet
