import Scriptlet.Proofs.IntervalSet.InPlace

/-!
Ranges that are added in different orders. A set in order is told by the ranges in it, so that ranges which have no
position in common make the same set, whichever of them comes first.
-/
namespace Scriptlet.IntervalSet
variable {set larger : IntervalSet} {ranges first second : List Interval}

def addAll (ranges : List Interval) (set : IntervalSet) : List Answer × IntervalSet :=
  run (ranges.map fun range => .add range.start range.stop) set

theorem Ordered.pairwise_lt (ordered : set.Ordered) : set.toList.Pairwise fun a b => a.start < b.start :=
  ordered.apart.imp_of_mem fun listed _ apart => Int.lt_of_lt_of_le (ordered.positive _ listed) apart

/-- Two sets in order with the same ranges have the same columns. -/
theorem Ordered.eq_of_perm (ordered : set.Ordered) (other : larger.Ordered) (perm : set.toList.Perm larger.toList) :
    set = larger := by
  have same : set.toList = larger.toList :=
    perm.eq_of_pairwise (fun a b _ _ less more => absurd less (Int.lt_asymm more)) ordered.pairwise_lt other.pairwise_lt
  have starts : set.starts.toList = larger.starts.toList := by rw [ordered.starts_eq, other.starts_eq, same]
  have stops : set.stops.toList = larger.stops.toList := by rw [ordered.stops_eq, other.stops_eq, same]
  cases set
  cases larger
  rw [mk.injEq]
  exact ⟨Array.toList_inj.mp starts, Array.toList_inj.mp stops⟩

/-- Ranges that are not empty and meet neither each other nor a range of the set are all added. -/
theorem Ordered.addAll_done (ordered : set.Ordered) (positive : ∀ range ∈ ranges, range.start < range.stop)
    (apart : ranges.Pairwise fun a b => ¬ a.Meets b) (free : ∀ range ∈ ranges, ∀ known ∈ set.toList, ¬ range.Meets known) :
    ∃ larger, addAll ranges set = (ranges.map fun _ => .done, larger) ∧ larger.Ordered ∧
      larger.toList.Perm (ranges ++ set.toList) := by
  induction ranges generalizing set with
  | nil => exact ⟨set, rfl, ordered, .refl _⟩
  | cons range ranges ih =>
    obtain ⟨away, apart⟩ := List.pairwise_cons.mp apart
    obtain ⟨next, added⟩ : ∃ next, set.add range.start range.stop = .ok next := by
      rw [ordered.exists_add_iff_apart, not_or, Int.not_le]
      exact ⟨positive range List.mem_cons_self, fun ⟨known, listed, meets⟩ => free range List.mem_cons_self known listed meets⟩
    have stored := ordered.perm_add added
    have later (other : Interval) (listed : other ∈ ranges) (known : Interval) (held : known ∈ next.toList) :
        ¬ other.Meets known := by
      rcases List.mem_cons.mp (stored.mem_iff.mp held) with rfl | old
      · exact fun meets => away other listed meets.symm
      · exact free other (List.mem_cons_of_mem range listed) known old
    obtain ⟨larger, ran, inOrder, perm⟩ := ih (ordered.add added)
      (fun other listed => positive other (List.mem_cons_of_mem range listed)) apart later
    refine ⟨larger, ?_, inOrder, perm.trans ((stored.append_left ranges).trans List.perm_middle)⟩
    rw [addAll] at ran ⊢
    simp only [List.map_cons, IntervalSet.run, Call.perform, added, ran]

/-- Ranges that are not empty and have no position in common are all added, in any order, and the two columns at the
end do not depend on the order. -/
theorem addAll_of_perm (first second : List Interval) (perm : second.Perm first)
    (positive : ∀ range ∈ first, range.start < range.stop) (apart : first.Pairwise fun a b => ¬ a.Meets b) :
    ∃ set, addAll first ∅ = (first.map fun _ => .done, set) ∧
      addAll second ∅ = (second.map fun _ => .done, set) ∧ set.toList.Perm first := by
  have nothing : (∅ : IntervalSet).toList = [] := rfl
  have free (ranges : List Interval) : ∀ range ∈ ranges, ∀ known ∈ (∅ : IntervalSet).toList, ¬ range.Meets known := by
    simp [nothing]
  obtain ⟨set, ran, ordered, stored⟩ := ordered_empty.addAll_done positive apart (free first)
  obtain ⟨other, ranOther, orderedOther, storedOther⟩ := ordered_empty.addAll_done
    (fun range listed => positive range (perm.mem_iff.mp listed))
    ((perm.pairwise_iff fun apart meets => apart meets.symm).mpr apart) (free second)
  rw [nothing, List.append_nil] at stored storedOther
  obtain rfl := ordered.eq_of_perm orderedOther (stored.trans (perm.symm.trans storedOther.symm))
  exact ⟨set, ran, ranOther, stored⟩

/-- Three ranges, two of which touch, in two orders. -/
theorem addAll_of_perm_touching :
    let first : List Interval := [⟨7, 9⟩, ⟨-2, 3⟩, ⟨3, 7⟩]
    let second : List Interval := [⟨3, 7⟩, ⟨7, 9⟩, ⟨-2, 3⟩]
    second.Perm first ∧ (∀ range ∈ first, range.start < range.stop) ∧ (first.Pairwise fun a b => ¬ a.Meets b) ∧
      (addAll first ∅).2 = (addAll second ∅).2 ∧ addAll second ∅ = ([.done, .done, .done], ⟨#[-2, 3, 7], #[3, 7, 9]⟩) := by
  intro first second
  have perm : second.Perm first := by decide
  have positive : ∀ range ∈ first, range.start < range.stop := by decide
  have apart : first.Pairwise fun a b => ¬ a.Meets b := by decide
  obtain ⟨set, ran, ranOther, -⟩ := addAll_of_perm first second perm positive apart
  exact ⟨perm, positive, apart, by rw [ran, ranOther], by decide +kernel⟩

end Scriptlet.IntervalSet
