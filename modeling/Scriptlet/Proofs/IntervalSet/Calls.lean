import Scriptlet.Proofs.IntervalSet.Ordered

/-!
Calls on a set that is empty at first, in any number and with any bounds. A call that fails leaves the set as
it was, and no call takes a set out of order.
-/
namespace Scriptlet.IntervalSet

inductive Call where
  | add (start stop : Int)
  | tryAdd (start stop : Int)
  | overlaps (start stop : Int)
  deriving DecidableEq, Repr

inductive Answer where
  | done
  | failed (error : IntervalError)
  | truth (value : Bool)
  deriving DecidableEq, Repr

namespace Call

def perform (set : IntervalSet) : Call → Answer × IntervalSet
  | add start stop =>
    match set.add start stop with
    | .ok larger => (.done, larger)
    | .error error => (.failed error, set)
  | tryAdd start stop =>
    let (stored, larger) := set.tryAdd start stop
    (.truth stored, larger)
  | overlaps start stop => (.truth (set.overlaps start stop), set)

/-- The range that a call has stored, going by its answer. -/
def stored? : Call → Answer → Option Interval
  | add start stop, .done => some ⟨start, stop⟩
  | tryAdd start stop, .truth true => some ⟨start, stop⟩
  | _, _ => none

end Call

variable {set : IntervalSet}

/-- After a call the set is in order if it was before, and it has one more range if the call says so. -/
theorem Ordered.perform (ordered : set.Ordered) (call : Call) :
    (call.perform set).2.Ordered ∧
      (call.perform set).2.toList.Perm ((call.stored? (call.perform set).1).toList ++ set.toList) := by
  cases call with
  | add start stop =>
    cases added : set.add start stop with
    | ok larger =>
      simp only [Call.perform, added]
      exact ⟨ordered.add added, ordered.perm_add added⟩
    | error error =>
      simp only [Call.perform, added]
      exact ⟨ordered, .refl _⟩
  | tryAdd start stop =>
    cases added : set.add start stop with
    | ok larger =>
      simp only [Call.perform, tryAdd, added]
      exact ⟨ordered.add added, ordered.perm_add added⟩
    | error error =>
      simp only [Call.perform, tryAdd, added]
      exact ⟨ordered, .refl _⟩
  | overlaps start stop => exact ⟨ordered, .refl _⟩

def run : List Call → IntervalSet → List Answer × IntervalSet
  | [], set => ([], set)
  | call :: calls, set =>
    let (answer, next) := call.perform set
    let (answers, last) := run calls next
    (answer :: answers, last)

def storedRanges (calls : List Call) (answers : List Answer) : List Interval :=
  (calls.zip answers).filterMap fun (call, answer) => call.stored? answer

theorem Ordered.run (ordered : set.Ordered) (calls : List Call) :
    (run calls set).2.Ordered ∧
      (run calls set).2.toList.Perm (storedRanges calls (run calls set).1 ++ set.toList) := by
  induction calls generalizing set with
  | nil => exact ⟨ordered, .refl _⟩
  | cons call calls ih =>
    obtain ⟨kept, stored⟩ := ordered.perform call
    obtain ⟨last, perm⟩ := ih kept
    refine ⟨last, perm.trans ?_⟩
    have whole : storedRanges (call :: calls) (IntervalSet.run (call :: calls) set).1 =
        (call.stored? (call.perform set).1).toList ++
          storedRanges calls (IntervalSet.run calls (call.perform set).2).1 := by
      simp only [IntervalSet.run, storedRanges, List.zip_cons_cons, List.filterMap_cons]
      cases call.stored? (call.perform set).1 <;> rfl
    rw [whole]
    refine (stored.append_left _).trans ?_
    rw [← List.append_assoc]
    exact List.perm_append_comm.append_right _

/-- After every step of every sequence of calls on an empty set, the two columns are of one length and the
ranges in them are not empty, sorted and disjoint. They are those that the calls up to there have stored. -/
theorem ordered_after_calls (calls : List Call) (steps : Nat) :
    (run (calls.take steps) ∅).2.Ordered ∧
      (run (calls.take steps) ∅).2.toList.Perm
        (storedRanges (calls.take steps) (run (calls.take steps) ∅).1) := by
  have nothing : (∅ : IntervalSet).toList = [] := rfl
  have kept := ordered_empty.run (calls.take steps)
  rwa [nothing, List.append_nil] at kept

/-- Ranges may touch; a range that is empty, or reaches into another one, is refused. -/
example :
    let calls := [.add 5 7, .add 5 5, .tryAdd 7 9, .tryAdd 6 8, .overlaps 9 2, .add 1 5]
    run calls ∅ = ([.done, .failed (.empty ⟨5, 5⟩), .truth true, .truth false, .truth false, .done],
      ⟨#[1, 5, 7], #[5, 7, 9]⟩) := by
  decide +kernel

end Scriptlet.IntervalSet
