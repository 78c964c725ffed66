import Scriptlet.Highlight.Claims
import Scriptlet.Proofs.IntervalSet.Ordered
import Mathlib.Data.List.Pairwise

/-!
The invariant of accepted spans: they lie in the text, and the set of ranges beside them holds exactly
their ranges, in order. With it a proposal is refused only for a span that it meets.
-/
namespace Scriptlet
open Text (Cursor)

def Span.range (span : Span) : Interval := ⟨span.start, span.stop⟩

def Span.Apart (a b : Span) : Prop := a.stop ≤ b.start ∨ b.stop ≤ a.start

instance : Std.Symm Span.Apart := ⟨fun _ _ => Or.symm⟩

theorem Span.precedes_iff {a b : Span} :
    a.precedes b = true ↔ a.start < b.start ∨ a.start = b.start ∧ a.length ≤ b.length := by
  simp [precedes]

namespace Claims

/-- What holds of the spans accepted in a text of `size` characters. -/
structure Sound (claims : Claims) (size : Nat) : Prop where
  ordered : claims.occupied.Ordered
  ranges : claims.occupied.toList.Perm (claims.spans.map Span.range)
  inside : ∀ span ∈ claims.spans, span.stop ≤ size

variable {claims more : Claims} {size start length : Nat} {kind : TokenKind}

theorem sound_empty (size : Nat) : empty.Sound size :=
  ⟨IntervalSet.ordered_empty, .refl _, by simp [empty]⟩

theorem Sound.positive (sound : claims.Sound size) {span : Span} (member : span ∈ claims.spans) :
    0 < span.length := by
  have listed := sound.ranges.mem_iff.mpr (List.mem_map_of_mem member)
  have := sound.ordered.positive _ listed
  simp only [Span.range, Span.stop] at this
  omega

theorem Sound.apart (sound : claims.Sound size) : claims.spans.Pairwise Span.Apart := by
  have ordered : claims.occupied.toList.Pairwise fun a b => a.stop ≤ b.start ∨ b.stop ≤ a.start :=
    sound.ordered.apart.imp .inl
  rw [sound.ranges.pairwise_iff .symm, List.pairwise_map] at ordered
  apply ordered.imp
  intro a b apart
  simp only [Span.range, Span.Apart] at apart ⊢
  omega

/-- A span that meets all accepted ones is the only one. -/
theorem Sound.eq_singleton (sound : claims.Sound size) {span : Span} (member : span ∈ claims.spans)
    (met : ∀ other ∈ claims.spans, ¬ other.Apart span) : claims.spans = [span] := by
  obtain ⟨later, earlier, parts⟩ := List.append_of_mem member
  have apart := sound.apart
  rw [parts] at apart met ⊢
  obtain ⟨-, behind, across⟩ := List.pairwise_append.mp apart
  have noLater : later = [] := by
    rw [List.eq_nil_iff_forall_not_mem]
    intro other listed
    exact met other (List.mem_append_left _ listed) (across other listed span List.mem_cons_self)
  have noEarlier : earlier = [] := by
    rw [List.eq_nil_iff_forall_not_mem]
    intro other listed
    have apart := (List.pairwise_cons.mp behind).1 other listed
    exact met other (List.mem_append_right _ (List.mem_cons_of_mem _ listed)) apart.symm
  rw [noLater, noEarlier, List.nil_append]

theorem Sound.eq_singleton_of_whole (sound : claims.Sound size) (member : ⟨0, size, kind⟩ ∈ claims.spans) :
    claims.spans = [⟨0, size, kind⟩] := by
  apply sound.eq_singleton member
  intro other listed apart
  have positive := sound.positive listed
  have inside := sound.inside other listed
  simp only [Span.Apart, Span.stop] at apart inside
  omega

/-- A span is accepted exactly if it is not empty and meets no accepted span. -/
theorem Sound.exists_claim?_iff (sound : claims.Sound size) :
    (∃ more, claims.claim? start length kind = some more) ↔
      0 < length ∧ ∀ span ∈ claims.spans, span.Apart ⟨start, length, kind⟩ := by
  have added : (∃ more, claims.claim? start length kind = some more) ↔
      ∃ larger, claims.occupied.add start (start + length : Nat) = .ok larger := by
    unfold claim?
    cases claims.occupied.add start (start + length : Nat) <;> simp
  have members (range : Interval) : range ∈ claims.occupied.toList ↔
      ∃ span ∈ claims.spans, span.range = range := by
    rw [sound.ranges.mem_iff, List.mem_map]
  rw [added, sound.ordered.exists_add_iff]
  simp only [members, forall_exists_index, and_imp, forall_apply_eq_imp_iff₂, Span.range, Span.Apart,
    Span.stop]
  refine and_congr (by omega) (forall₂_congr fun span _ => ?_)
  omega

theorem Sound.claim? (sound : claims.Sound size) (inside : start + length ≤ size)
    (accepted : claims.claim? start length kind = some more) :
    more.spans = ⟨start, length, kind⟩ :: claims.spans ∧ more.Sound size := by
  unfold Claims.claim? at accepted
  split at accepted
  next larger added =>
    cases accepted
    refine ⟨rfl, sound.ordered.add added, ?_, ?_⟩
    · exact (sound.ordered.perm_add added).trans (sound.ranges.cons _)
    · intro span member
      rcases List.mem_cons.mp member with rfl | old
      · exact inside
      · exact sound.inside span old
  next => cases accepted

theorem Sound.covers_iff (sound : claims.Sound size) {offset : Nat} :
    claims.covers offset = true ↔ ∃ span ∈ claims.spans, span.start ≤ offset ∧ offset < span.stop := by
  rw [covers, sound.ordered.overlaps_iff_meets (by omega)]
  constructor
  · rintro ⟨range, listed, begins, reaches⟩
    obtain ⟨span, member, rfl⟩ := List.mem_map.mp (sound.ranges.mem_iff.mp listed)
    simp only [Span.range] at begins reaches
    exact ⟨span, member, by omega, by omega⟩
  · rintro ⟨span, member, begins, reaches⟩
    refine ⟨span.range, sound.ranges.mem_iff.mpr (List.mem_map_of_mem member), ?_, ?_⟩
    · simp only [Span.range]; omega
    · simp only [Span.range]; omega

/-- From left to right every span ends before the next one begins, or where it begins. -/
theorem Sound.sorted (sound : claims.Sound size) :
    (claims.spans.mergeSort Span.precedes).Pairwise fun a b => a.stop ≤ b.start := by
  have perm := List.mergeSort_perm claims.spans Span.precedes
  have apart : (claims.spans.mergeSort Span.precedes).Pairwise Span.Apart :=
    (perm.pairwise_iff Or.symm).mpr sound.apart
  have sorted : (claims.spans.mergeSort Span.precedes).Pairwise fun a b => Span.precedes a b = true := by
    apply List.pairwise_mergeSort
    · intro a b c
      simp only [Span.precedes_iff]
      omega
    · intro a b
      simp only [Bool.or_eq_true, Span.precedes_iff]
      omega
  refine (sorted.and apart).imp_of_mem ?_
  rintro a b - right ⟨precedes, apart⟩
  have positive := sound.positive (List.mem_mergeSort.mp right)
  rw [Span.precedes_iff] at precedes
  simp only [Span.Apart, Span.stop] at apart ⊢
  omega

theorem walk_induction {holds : Claims → Prop} {step : Cursor → Claims → Step}
    (keeps : ∀ here claims, here.stop = size → holds claims → holds (step here claims).claims)
    {offset skip : Nat} {before : Option Char} {text : List Char} (whole : offset + text.length = size)
    (start : holds claims) : holds (walk step claims offset before skip text) := by
  induction text generalizing claims offset skip before with
  | nil => simpa only [walk] using start
  | cons c rest ih =>
    have remains : offset + 1 + rest.length = size := by
      simp only [List.length_cons] at whole
      omega
    cases skip with
    | zero => exact ih remains (keeps ⟨offset, before, c :: rest⟩ claims whole start)
    | succ skip => exact ih remains start

end Claims
end Scriptlet
