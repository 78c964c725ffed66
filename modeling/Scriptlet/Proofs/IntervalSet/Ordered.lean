import Scriptlet.IntervalSet
import Mathlib.Data.List.Basic

/-!
Sets of ranges in order, their two columns in step. The binary search splits an ordered set at a position, so
the two ranges beside the split answer for all of them, and what is added there keeps the order.
-/
namespace Scriptlet.IntervalSet

/-- The columns are of one length, no range is empty, and each ends before the next one begins, or where it
begins. -/
structure Ordered (set : IntervalSet) : Prop where
  level : set.stops.size = set.starts.size
  positive : ∀ range ∈ set.toList, range.start < range.stop
  apart : set.toList.Pairwise fun left right => left.stop ≤ right.start

theorem ordered_empty : Ordered ∅ := ⟨rfl, by simp [EmptyCollection.emptyCollection, empty, toList],
  by simp [EmptyCollection.emptyCollection, empty, toList]⟩

variable {set larger : IntervalSet} {start stop : Int}

theorem Ordered.starts_eq (ordered : set.Ordered) : set.starts.toList = set.toList.map Interval.start :=
  List.ext_getElem (by simp [toList, ordered.level]) fun _ _ _ => by simp [toList]

theorem Ordered.stops_eq (ordered : set.Ordered) : set.stops.toList = set.toList.map Interval.stop :=
  List.ext_getElem (by simp [toList, ordered.level]) fun _ _ _ => by simp [toList]

theorem toList_eq_of_columns {ranges : List Interval} (starts : set.starts.toList = ranges.map Interval.start)
    (stops : set.stops.toList = ranges.map Interval.stop) : set.toList = ranges := by
  rw [toList, starts, stops, List.zipWith_map, List.zipWith_self]
  exact List.map_id _

theorem Ordered.starts_le (ordered : set.Ordered) {i j : Nat} (before : i ≤ j)
    (inside : j < set.starts.size) : set.starts[i] ≤ set.starts[j] := by
  have sorted : (set.starts.toList).Pairwise (· ≤ ·) := by
    rw [ordered.starts_eq, List.pairwise_map]
    refine ordered.apart.imp_of_mem fun {left right} member _ apart => ?_
    have positive := ordered.positive left member
    omega
  rcases Nat.lt_or_eq_of_le before with less | rfl
  · have starts := List.pairwise_iff_getElem.mp sorted i j (by simp; omega) (by simpa using inside) less
    simpa only [Array.getElem_toList] using starts
  · exact Int.le_refl _

/-- The invariant of the search: below the lower bound ranges start at or before the position, from the
upper bound on they start after it. -/
private theorem searchPlace_splits (ordered : set.Ordered) {low high : Nat} (bounds : low ≤ high)
    (inside : high ≤ set.starts.size)
    (below : ∀ (i : Nat) (bound : i < set.starts.size), i < low → set.starts[i] ≤ start)
    (above : ∀ (i : Nat) (bound : i < set.starts.size), high ≤ i → start < set.starts[i])
    (i : Nat) (bound : i < set.starts.size) :
    i < searchPlace set.starts start low high ↔ set.starts[i] ≤ start := by
  fun_induction searchPlace set.starts start low high with
  | case1 low high less middle known found later ih =>
    obtain ⟨here, rfl⟩ := Array.getElem?_eq_some_iff.mp found
    refine ih (by omega) (by omega) below fun j inBounds after => ?_
    have := ordered.starts_le after inBounds
    omega
  | case2 low high less middle known found earlier ih =>
    obtain ⟨here, rfl⟩ := Array.getElem?_eq_some_iff.mp found
    refine ih (by omega) inside (fun j inBounds before => ?_) above
    have := ordered.starts_le (Nat.le_of_lt_succ before) here
    omega
  | case3 low high less middle missing =>
    have := Array.getElem?_eq_none_iff.mp missing
    omega
  | case4 low high equal =>
    have same : low = high := by omega
    subst same
    constructor
    · exact below i bound
    · intro starts
      by_contra outside
      have := above i bound (by omega)
      omega

/-- An ordered set at the place of a position: the ranges that start at or before it, and the others. -/
theorem Ordered.split (ordered : set.Ordered) (start : Int) :
    ∃ before after, set.toList = before ++ after ∧ before.length = set.place start ∧
      (∀ range ∈ before, range.start ≤ start) ∧ ∀ range ∈ after, start < range.start := by
  have length : set.toList.length = set.starts.size := by
    rw [← Array.length_toList, ordered.starts_eq, List.length_map]
  have splits (i : Nat) (bound : i < set.toList.length) :
      i < set.place start ↔ set.toList[i].start ≤ start := by
    have found : set.toList[i].start = set.starts[i] := by simp [toList]
    rw [found]
    exact searchPlace_splits ordered (Nat.zero_le _) (Nat.le_refl _) (fun _ _ outside => by omega)
      (fun _ _ outside => absurd outside (by omega)) i (by omega)
  have size : set.place start ≤ set.toList.length := by
    rw [length]
    exact set.place_le_size start
  refine ⟨set.toList.take (set.place start), set.toList.drop (set.place start),
    (List.take_append_drop _ _).symm, List.length_take_of_le size, ?_, ?_⟩
  · intro range member
    obtain ⟨i, bound, rfl⟩ := List.mem_take_iff_getElem.mp member
    exact (splits i (by omega)).mp (by omega)
  · intro range member
    obtain ⟨i, bound, rfl⟩ := List.mem_drop_iff_getElem.mp member
    have := splits (set.place start + i) (by omega)
    omega

private theorem overlaps_eq (ordered : set.Ordered) {before after : List Interval}
    (whole : set.toList = before ++ after) (size : before.length = set.place start) :
    set.overlaps start stop = (before.getLast?.any (start < ·.stop) || after.head?.any (·.start < stop)) := by
  have next : set.starts[set.place start]? = after.head?.map Interval.start := by
    rw [← Array.getElem?_toList, ordered.starts_eq, List.getElem?_map, whole, ← size,
      List.getElem?_append_right (Nat.le_refl _), Nat.sub_self, List.head?_eq_getElem?]
  simp only [overlaps]
  rw [next, Option.any_map]
  congr 1
  split
  next none =>
    have : before = [] := List.length_eq_zero_iff.mp (by omega)
    simp [this]
  next last some =>
    have found : set.stops[last]? = before.getLast?.map Interval.stop := by
      rw [← Array.getElem?_toList, ordered.stops_eq, List.getElem?_map, whole,
        List.getElem?_append_left (by omega), List.getLast?_eq_getElem?]
      congr 2
      omega
    rw [found, Option.any_map]

/-- Queries are exact: a range covers the position, or one that starts after it starts before `stop`. -/
theorem Ordered.overlaps_iff (ordered : set.Ordered) : set.overlaps start stop = true ↔
    (∃ range ∈ set.toList, range.start ≤ start ∧ start < range.stop) ∨
      ∃ range ∈ set.toList, start < range.start ∧ range.start < stop := by
  obtain ⟨before, after, whole, size, early, late⟩ := ordered.split start
  have apart := ordered.apart
  rw [whole, List.pairwise_append] at apart
  rw [overlaps_eq ordered whole size, Bool.or_eq_true, whole]
  simp only [Option.any_eq_true, decide_eq_true_eq]
  refine or_congr ⟨?_, ?_⟩ ⟨?_, ?_⟩
  · rintro ⟨last, found, reaches⟩
    have member := List.mem_of_getLast? found
    exact ⟨last, List.mem_append_left _ member, early last member, reaches⟩
  · rintro ⟨range, member, starts, reaches⟩
    rcases List.mem_append.mp member with inside | outside
    · -- A range that is not the last one ends before the last one starts.
      rcases List.eq_nil_or_concat' before with rfl | ⟨front, last, rfl⟩
      · simp at inside
      · refine ⟨last, by simp, ?_⟩
        rcases List.mem_append.mp inside with earlier | final
        · have ends := (List.pairwise_append.mp apart.1).2.2 range earlier last (by simp)
          have begins := early last (by simp)
          omega
        · rwa [← List.mem_singleton.mp final]
    · have := late range outside
      omega
  · rintro ⟨next, found, begins⟩
    have member := List.mem_of_head? found
    exact ⟨next, List.mem_append_right _ member, late next member, begins⟩
  · rintro ⟨range, member, starts, begins⟩
    rcases List.mem_append.mp member with inside | outside
    · have := early range inside
      omega
    · cases after with
      | nil => simp at outside
      | cons next rest =>
        refine ⟨next, rfl, ?_⟩
        rcases List.mem_cons.mp outside with rfl | later
        · exact begins
        · have ends := List.rel_of_pairwise_cons apart.2.1 later
          have positive := ordered.positive next (by simp [whole])
          omega

theorem Ordered.overlaps_iff_meets (ordered : set.Ordered) (positive : start < stop) :
    set.overlaps start stop = true ↔ ∃ range ∈ set.toList, range.start < stop ∧ start < range.stop := by
  rw [ordered.overlaps_iff]
  constructor
  · rintro (⟨range, member, starts, reaches⟩ | ⟨range, member, starts, begins⟩)
    · exact ⟨range, member, by omega, reaches⟩
    · have := ordered.positive range member
      exact ⟨range, member, begins, by omega⟩
  · rintro ⟨range, member, begins, reaches⟩
    rcases Int.lt_or_le start range.start with after | before
    · exact .inr ⟨range, member, after, begins⟩
    · exact .inl ⟨range, member, before, reaches⟩

/-- A range is added exactly if it is not empty and meets no range of the set. -/
theorem Ordered.exists_add_iff (ordered : set.Ordered) : (∃ larger, set.add start stop = .ok larger) ↔
    start < stop ∧ ∀ range ∈ set.toList, range.stop ≤ start ∨ stop ≤ range.start := by
  unfold IntervalSet.add
  split
  next empty => simp [Int.not_lt.mpr empty]
  next positive =>
    have meets := ordered.overlaps_iff_meets (Int.not_le.mp positive)
    split
    next overlaps =>
      obtain ⟨range, member, begins, reaches⟩ := meets.mp overlaps
      refine ⟨nofun, fun ⟨_, apart⟩ => ?_⟩
      have := apart range member
      omega
    next free =>
      simp only [Except.ok.injEq, exists_eq', true_iff]
      refine ⟨Int.not_le.mp positive, fun range member => ?_⟩
      by_contra touching
      exact free (meets.mpr ⟨range, member, by omega, by omega⟩)

private theorem insertIdx_append_length {α : Type} (before after : List α) (item : α) :
    (before ++ after).insertIdx before.length item = before ++ item :: after := by
  induction before with
  | nil => simp
  | cons first rest ih => simp [ih]

private theorem insertAt_length {column : Array Int} {before after : List Int}
    (whole : column.toList = before ++ after) (number : Int) :
    (insertAt column before.length number).toList = before ++ number :: after := by
  have inside : before.length ≤ column.size := by
    rw [← Array.length_toList, whole, List.length_append]
    omega
  simp only [insertAt, Array.toList_insertIdx, whole, Nat.min_eq_left inside]
  exact insertIdx_append_length before after number

/-- A range is added in both columns, between the ranges that start at or before it and the others. -/
theorem Ordered.add_splits (ordered : set.Ordered) (added : set.add start stop = .ok larger) :
    larger.stops.size = larger.starts.size ∧
    ∃ before after, set.toList = before ++ after ∧ larger.toList = before ++ ⟨start, stop⟩ :: after ∧
      (∀ range ∈ before, range.start ≤ start) ∧ ∀ range ∈ after, start < range.start := by
  obtain ⟨before, after, whole, size, early, late⟩ := ordered.split start
  have starts : set.starts.toList = before.map Interval.start ++ after.map Interval.start := by
    rw [ordered.starts_eq, whole, List.map_append]
  have stops : set.stops.toList = before.map Interval.stop ++ after.map Interval.stop := by
    rw [ordered.stops_eq, whole, List.map_append]
  unfold IntervalSet.add at added
  split at added
  next => cases added
  next =>
    split at added
    next => cases added
    next =>
      cases added
      have newStarts := insertAt_length starts start
      have newStops := insertAt_length stops stop
      rw [List.length_map, size] at newStarts newStops
      have level : (insertAt set.stops (set.place start) stop).size =
          (insertAt set.starts (set.place start) start).size := by
        rw [← Array.length_toList, ← Array.length_toList, newStarts, newStops]
        simp
      refine ⟨level, before, after, whole, toList_eq_of_columns ?_ ?_, early, late⟩
      · rw [newStarts, List.map_append, List.map_cons]
      · rw [newStops, List.map_append, List.map_cons]

theorem Ordered.add (ordered : set.Ordered) (added : set.add start stop = .ok larger) :
    larger.Ordered := by
  obtain ⟨level, before, after, whole, bigger, early, late⟩ := ordered.add_splits added
  obtain ⟨positive, apart⟩ := ordered.exists_add_iff.mp ⟨larger, added⟩
  have members (range : Interval) : range ∈ larger.toList ↔ range = ⟨start, stop⟩ ∨ range ∈ set.toList := by
    rw [bigger, whole]
    simp only [List.mem_append, List.mem_cons]
    tauto
  refine ⟨level, fun range member => ?_, ?_⟩
  · rcases (members range).mp member with rfl | old
    · exact positive
    · exact ordered.positive range old
  · have kept := ordered.apart
    rw [whole, List.pairwise_append] at kept
    rw [bigger, List.pairwise_append, List.pairwise_cons]
    refine ⟨kept.1, ⟨fun right member => ?_, kept.2.1⟩, fun left member right other => ?_⟩
    · have starts := late right member
      have := ordered.positive right (by simp [whole, member])
      have := apart right (by simp [whole, member])
      dsimp only
      omega
    · rcases List.mem_cons.mp other with rfl | old
      · have starts := early left member
        have := ordered.positive left (by simp [whole, member])
        have := apart left (by simp [whole, member])
        dsimp only
        omega
      · exact kept.2.2 left member right old

theorem Ordered.perm_add (ordered : set.Ordered) (added : set.add start stop = .ok larger) :
    larger.toList.Perm (⟨start, stop⟩ :: set.toList) := by
  obtain ⟨_, before, after, whole, bigger, _, _⟩ := ordered.add_splits added
  rw [bigger, whole]
  exact List.perm_middle

end Scriptlet.IntervalSet
