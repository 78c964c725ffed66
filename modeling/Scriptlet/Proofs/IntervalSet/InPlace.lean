import Scriptlet.Proofs.IntervalSet.Overlap

/-!
Additions to a set that is changed in place, step by step, where what is done before a fault stays done. All checks
come before the first change, so that a refused addition changes nothing, and what is checked beforehand is not
refused when it is checked again.
-/
namespace Scriptlet.IntervalSet

/-- Steps that change a set in place, until one of them fails. -/
abbrev Steps := ExceptT IntervalError (StateM IntervalSet)

def Steps.outcome {α : Type} (steps : Steps α) (set : IntervalSet) : Except IntervalError α × IntervalSet :=
  steps.run set

/-- Adds a range, first to the column of the starts and then to that of the ends. -/
def addInPlace (start stop : Int) : Steps Unit := do
  if stop ≤ start then throw (.empty ⟨start, stop⟩)
  if (← get).overlaps start stop then throw (.overlapping ⟨start, stop⟩)
  let index := (← get).place start
  modify fun set => { set with starts := insertAt set.starts index start }
  modify fun set => { set with stops := insertAt set.stops index stop }

def tryAddInPlace (start stop : Int) : Steps Bool := do
  if stop ≤ start || (← get).overlaps start stop then return false
  addInPlace start stop
  return true

def Covers (set : IntervalSet) (position : Int) : Prop := ∃ range ∈ set.toList, position ∈ range

/-- A set with one more range: its place is among the others, in both columns, and it alone covers new positions. -/
structure Extends (larger set : IntervalSet) (range : Interval) : Prop where
  ordered : larger.Ordered
  inserted : ∃ before after, set.toList = before ++ after ∧ larger.toList = before ++ range :: after
  covers : ∀ position, larger.Covers position ↔ set.Covers position ∨ position ∈ range

variable {α β : Type} {set larger : IntervalSet} {start stop : Int} {range : Interval}

private theorem outcome_get_bind (next : IntervalSet → Steps α) :
    Steps.outcome (get >>= next) set = (next set).outcome set := rfl

private theorem outcome_bind_of_ok {first : Steps α} {next : α → Steps β} {value : α}
    (done : first.outcome set = (.ok value, larger)) :
    Steps.outcome (first >>= next) set = (next value).outcome larger := by
  have step : Steps.outcome (first >>= next) set =
      (ExceptT.bindCont next (first.outcome set).1 : StateM IntervalSet _) (first.outcome set).2 := rfl
  rw [step, done]
  rfl

theorem add_of_empty (empty : stop ≤ start) : set.add start stop = .error (.empty ⟨start, stop⟩) := if_pos empty

theorem add_of_overlaps (positive : start < stop) (met : set.overlaps start stop = true) :
    set.add start stop = .error (.overlapping ⟨start, stop⟩) := by
  rw [IntervalSet.add, if_neg (Int.not_le.mpr positive), if_pos met]

theorem exists_add_of_free (positive : start < stop) (free : set.overlaps start stop = false) :
    ∃ larger, set.add start stop = .ok larger := by
  rw [IntervalSet.add, if_neg (Int.not_le.mpr positive), free]
  exact ⟨_, rfl⟩

/-- A fault leaves the set as it was. -/
theorem outcome_addInPlace (set : IntervalSet) (start stop : Int) : (addInPlace start stop).outcome set =
    match set.add start stop with
    | .ok larger => (.ok (), larger)
    | .error error => (.error error, set) := by
  unfold addInPlace IntervalSet.add
  split
  next => rfl
  next =>
    change Steps.outcome (get >>= _) set = _
    rw [outcome_get_bind]
    split
    next => rfl
    next => rfl

/-- The second check of a range never fails. -/
theorem outcome_tryAddInPlace (set : IntervalSet) (start stop : Int) :
    (tryAddInPlace start stop).outcome set = (.ok (set.tryAdd start stop).1, (set.tryAdd start stop).2) := by
  unfold tryAddInPlace
  rw [outcome_get_bind]
  rcases Int.lt_or_le start stop with positive | empty
  · cases met : set.overlaps start stop with
    | true =>
      rw [tryAdd, add_of_overlaps positive met, Bool.or_true]
      rfl
    | false =>
      obtain ⟨larger, added⟩ := exists_add_of_free positive met
      have done := outcome_addInPlace set start stop
      rw [added] at done
      rw [tryAdd, added, decide_eq_false (Int.not_le.mpr positive), Bool.or_false]
      change Steps.outcome (addInPlace start stop >>= fun _ => pure true) set = _
      rw [outcome_bind_of_ok done]
      rfl
  · rw [tryAdd, add_of_empty empty, decide_eq_true empty, Bool.true_or]
    rfl

theorem Ordered.extends (ordered : set.Ordered) (added : set.add start stop = .ok larger) :
    larger.Extends set ⟨start, stop⟩ := by
  obtain ⟨-, before, after, whole, bigger, -, -⟩ := ordered.add_splits added
  refine ⟨ordered.add added, ⟨before, after, whole, bigger⟩, fun position => ?_⟩
  simp only [Covers, (ordered.perm_add added).mem_iff, List.mem_cons, exists_eq_or_imp]
  exact or_comm

theorem Ordered.exists_add_iff_apart (ordered : set.Ordered) : (∃ larger, set.add start stop = .ok larger) ↔
    ¬ (stop ≤ start ∨ ∃ known ∈ set.toList, Interval.Meets ⟨start, stop⟩ known) := by
  rw [ordered.exists_add_iff, not_or, Int.not_le]
  refine and_congr_right fun positive => ?_
  simp only [not_exists, not_and]
  refine forall₂_congr fun known listed => ?_
  rw [Interval.meets_iff positive (ordered.positive known listed), not_and_or, Int.not_lt, Int.not_lt]

/-- After any calls an addition is refused if and only if the range is empty or has a position in common with a range
of the set, and then the set stays as it is; otherwise the set has just this range more. The addition that checks
beforehand never fails, tells whether the other one is refused, and leaves the same set. -/
theorem addition_after_calls (calls : List Call) (start stop : Int) :
    let set := (run calls ∅).2
    let range : Interval := ⟨start, stop⟩
    let refused := stop ≤ start ∨ ∃ known ∈ set.toList, range.Meets known
    let added := (addInPlace start stop).outcome set
    let tried := (tryAddInPlace start stop).outcome set
    ((∃ error, added.1 = .error error) ↔ refused) ∧
    (refused → added.2 = set ∧ tried = (.ok false, set)) ∧
    (¬ refused → added.2.Extends set range ∧ tried = (.ok true, added.2)) ∧
    set.add start stop = added.1.map (fun _ => added.2) ∧
    tried = (.ok (set.tryAdd start stop).1, (set.tryAdd start stop).2) := by
  intro set range refused added tried
  have ordered : set.Ordered := (ordered_empty.run calls).1
  have accepted : (∃ larger, set.add start stop = .ok larger) ↔ ¬ refused := ordered.exists_add_iff_apart
  have addedEq : added = _ := outcome_addInPlace set start stop
  have triedEq : tried = _ := outcome_tryAddInPlace set start stop
  rw [tryAdd] at triedEq ⊢
  cases result : set.add start stop with
  | ok larger =>
    have free : ¬ refused := accepted.mp ⟨larger, result⟩
    rw [result] at addedEq triedEq
    rw [addedEq, triedEq]
    exact ⟨by simp [free], fun met => absurd met free, fun _ => ⟨ordered.extends result, rfl⟩, rfl, rfl⟩
  | error error =>
    have met : refused := by
      by_contra free
      obtain ⟨larger, done⟩ := accepted.mpr free
      rw [result] at done
      cases done
    rw [result] at addedEq triedEq
    rw [addedEq, triedEq]
    exact ⟨by simp [met], fun _ => ⟨rfl, rfl⟩, fun free => absurd met free, rfl, rfl⟩

/-- A range that fits between two others, and one that reaches into both of them. -/
theorem addition_after_calls_between :
    let set := (run [.add 8 10, .tryAdd 2 5] ∅).2
    let reaching := (addInPlace 4 9).outcome set
    let fitting := (addInPlace 5 8).outcome set
    (∃ error, reaching.1 = .error error) ∧ reaching.2 = set ∧ (tryAddInPlace 4 9).outcome set = (.ok false, set) ∧
      fitting.2.Extends set ⟨5, 8⟩ ∧ (tryAddInPlace 5 8).outcome set = (.ok true, ⟨#[2, 5, 8], #[5, 8, 10]⟩) := by
  intro set reaching fitting
  have met : (9 : Int) ≤ 4 ∨ ∃ known ∈ set.toList, Interval.Meets ⟨4, 9⟩ known :=
    .inr ⟨⟨2, 5⟩, by decide +kernel, 4, by decide, by decide⟩
  have done : fitting = (.ok (), ⟨#[2, 5, 8], #[5, 8, 10]⟩) := by decide +kernel
  obtain ⟨refuses, stays, -⟩ := addition_after_calls [.add 8 10, .tryAdd 2 5] 4 9
  obtain ⟨refusesFitting, -, fits, -⟩ := addition_after_calls [.add 8 10, .tryAdd 2 5] 5 8
  have free := mt refusesFitting.mpr fun ⟨error, failed⟩ => by
    change fitting.1 = .error error at failed
    rw [done] at failed
    cases failed
  obtain ⟨extended, stored⟩ := fits free
  change _ = (Except.ok true, fitting.2) at stored
  rw [done] at stored
  exact ⟨refuses.mpr met, (stays met).1, (stays met).2, extended, stored⟩

end Scriptlet.IntervalSet
