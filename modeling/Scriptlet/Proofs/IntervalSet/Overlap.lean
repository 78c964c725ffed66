import Scriptlet.Proofs.Highlight.Claims
import Scriptlet.Proofs.IntervalSet.Calls

/-!
Positions that ranges have in common. A query of a set that calls have made looks at two of its ranges only, and yet
it is answered as if all of them had been compared with it one by one, as spans are.
-/
namespace Scriptlet

instance : Membership Int Interval := ⟨fun range position => range.start ≤ position ∧ position < range.stop⟩

namespace Interval
variable {a b : Interval} {position : Int}

instance (range : Interval) (position : Int) : Decidable (position ∈ range) :=
  inferInstanceAs (Decidable (range.start ≤ position ∧ position < range.stop))

theorem mem_iff : position ∈ a ↔ a.start ≤ position ∧ position < a.stop := Iff.rfl

def Meets (a b : Interval) : Prop := ∃ position : Int, position ∈ a ∧ position ∈ b

theorem Meets.symm (meets : a.Meets b) : b.Meets a :=
  meets.imp fun _ both => both.symm

/-- Two ranges meet if the later one of their starts lies before the earlier one of their ends. -/
theorem meets_iff_max_lt_min : a.Meets b ↔ max a.start b.start < min a.stop b.stop := by
  constructor
  · rintro ⟨position, left, right⟩
    rw [mem_iff] at left right
    omega
  · intro room
    refine ⟨max a.start b.start, ?_, ?_⟩
    · rw [mem_iff]
      omega
    · rw [mem_iff]
      omega

instance (a b : Interval) : Decidable (a.Meets b) := decidable_of_iff _ meets_iff_max_lt_min.symm

theorem meets_iff (left : a.start < a.stop) (right : b.start < b.stop) :
    a.Meets b ↔ a.start < b.stop ∧ b.start < a.stop := by
  rw [meets_iff_max_lt_min]
  omega

end Interval

namespace Span
variable {a b span : Span}

theorem range_positive_iff : span.range.start < span.range.stop ↔ 0 < span.length := by
  simp only [range, stop]
  omega

theorem overlaps_iff_meets (left : 0 < a.length) (right : 0 < b.length) :
    a.overlaps b = true ↔ a.range.Meets b.range := by
  rw [Interval.meets_iff (range_positive_iff.mpr left) (range_positive_iff.mpr right)]
  simp [overlaps, range]

end Span

namespace IntervalSet
variable {set : IntervalSet} {start stop : Int}

theorem Ordered.overlaps_iff_exists_meets (ordered : set.Ordered) (positive : start < stop) :
    set.overlaps start stop = true ↔ ∃ known ∈ set.toList, Interval.Meets ⟨start, stop⟩ known := by
  rw [ordered.overlaps_iff_meets positive]
  refine exists_congr fun known => and_congr_right fun listed => ?_
  rw [Interval.meets_iff positive (ordered.positive known listed), and_comm]

/-- After any calls a query is true if and only if a range of the set covers its start, or one that begins after its
start begins before its end. For a query that is not empty this means that it has a position in common with a range
of the set, and for a span that it overlaps one of the spans whose ranges the set holds. -/
theorem overlaps_after_calls (calls : List Call) (start stop : Int) :
    let set := (run calls ∅).2
    (set.overlaps start stop = true ↔
      (∃ range ∈ set.toList, range.start ≤ start ∧ start < range.stop) ∨
        ∃ range ∈ set.toList, start < range.start ∧ range.start < stop) ∧
    (start < stop →
      (set.overlaps start stop = true ↔ ∃ range ∈ set.toList, Interval.Meets ⟨start, stop⟩ range)) ∧
    ∀ spans : List Span, (∀ range, range ∈ set.toList ↔ range ∈ spans.map Span.range) →
      ∀ query : Span, 0 < query.length → query.range = ⟨start, stop⟩ →
        (set.overlaps start stop = true ↔ ∃ span ∈ spans, query.overlaps span = true) := by
  intro set
  have ordered : set.Ordered := (ordered_empty.run calls).1
  refine ⟨ordered.overlaps_iff, ordered.overlaps_iff_exists_meets, ?spans⟩
  case spans =>
    intro spans held query some range
    have positive := Span.range_positive_iff.mpr some
    rw [range] at positive
    rw [ordered.overlaps_iff_exists_meets positive, ← range]
    simp only [held, List.mem_map, exists_exists_and_eq_and]
    refine exists_congr fun span => and_congr_right fun listed => ?_
    have stored := ordered.positive _ ((held span.range).mpr (List.mem_map_of_mem listed))
    exact (Span.overlaps_iff_meets some (Span.range_positive_iff.mp stored)).symm

/-- A query between two spans that touch it, and one that reaches into the second of them. -/
theorem overlaps_after_calls_touching :
    let set := (run [.add 7 9, .tryAdd 2 5] ∅).2
    let spans : List Span := [⟨2, 3, .comment⟩, ⟨7, 2, .string⟩]
    (set.overlaps 5 7 = false ∧ ∀ span ∈ spans, (⟨5, 2, .number⟩ : Span).overlaps span = false) ∧
      set.overlaps 5 8 = true ∧ (∃ span ∈ spans, (⟨5, 3, .number⟩ : Span).overlaps span = true) ∧
      ∃ range ∈ set.toList, Interval.Meets ⟨5, 8⟩ range := by
  intro set spans
  have parts : set.toList = spans.map Span.range := by decide +kernel
  have held (range : Interval) : range ∈ set.toList ↔ range ∈ spans.map Span.range := by rw [parts]
  have touching := (overlaps_after_calls [.add 7 9, .tryAdd 2 5] 5 7).2.2 spans held ⟨5, 2, .number⟩ (by decide) rfl
  have reaching := overlaps_after_calls [.add 7 9, .tryAdd 2 5] 5 8
  have free : set.overlaps 5 7 = false := by decide +kernel
  have met : set.overlaps 5 8 = true := by decide +kernel
  refine ⟨⟨free, fun span listed => Bool.eq_false_iff.mpr fun overlaps => ?_⟩, met,
    (reaching.2.2 spans held ⟨5, 3, .number⟩ (by decide) rfl).mp met, (reaching.2.1 (by decide)).mp met⟩
  exact Bool.eq_false_iff.mp free (touching.mpr ⟨span, listed, overlaps⟩)

end IntervalSet
end Scriptlet
