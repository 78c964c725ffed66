import Mathlib.Data.List.Sort
import Mathlib.Data.String.Basic
import Scriptlet.Detection.Detector
import Scriptlet.Proofs.Number.Order

/-!
Rankings of languages by confidence. Every language has one place in them, and since no two languages have
the same identifier, the results alone decide their order: a smaller ranking is a part of a larger one.
-/
namespace Scriptlet.Detection
variable {languages fewer : List Language} {confidence : Language → Binary64} {a b result : Detection}

/-- The results before another one have a higher confidence, or the same one and an earlier identifier. -/
def Outranks (a b : Detection) : Prop :=
  b.confidence < a.confidence ∨ a.confidence.same b.confidence = true ∧ a.language.id < b.language.id

/-- What a result is ranked by. Results without a number for their confidence have no place of their own. -/
private def rankKey (result : Detection) : (Int ×ₗ Int)ᵒᵈ ×ₗ String :=
  toLex (OrderDual.toDual result.confidence.place, result.language.id)

private theorem precedes_iff (left : a.confidence ≠ .nan) (right : b.confidence ≠ .nan) :
    a.precedes b = true ↔ a.rankKey ≤ b.rankKey := by
  simp [precedes, rankKey, Prod.Lex.toLex_le_toLex, Binary64.lt_iff, Binary64.same_iff, left, right]

private theorem outranks_iff (left : a.confidence ≠ .nan) (right : b.confidence ≠ .nan) :
    a.Outranks b ↔ a.rankKey < b.rankKey := by
  simp [Outranks, rankKey, Prod.Lex.toLex_lt_toLex, Binary64.lt_iff, Binary64.same_iff, left, right]

private theorem id_injective : Function.Injective Language.id := by
  intro a b same
  have found := Language.ofId?_id a
  rw [same, Language.ofId?_id] at found
  exact (Option.some.inj found).symm

theorem map_language_rank (languages : List Language) (confidence : Language → Binary64) :
    ((rank languages confidence).map Detection.language).Perm languages := by
  let result (language : Language) : Detection := ⟨language, confidence language⟩
  have sorted := (List.mergeSort_perm (languages.map result) precedes).map Detection.language
  have own : Detection.language ∘ result = id := rfl
  rwa [List.map_map, own, List.map_id] at sorted

theorem mem_rank : result ∈ rank languages confidence ↔
    result.language ∈ languages ∧ result.confidence = confidence result.language := by
  simp only [rank, List.mem_mergeSort, List.mem_map]
  constructor
  · rintro ⟨language, member, rfl⟩
    exact ⟨member, rfl⟩
  · rintro ⟨member, same⟩
    exact ⟨_, member, by rw [← same]⟩

theorem rank_pairwise (nodup : languages.Nodup) (numbers : ∀ language, confidence language ≠ .nan) :
    (rank languages confidence).Pairwise Outranks := by
  have number {result : Detection} (member : result ∈ rank languages confidence) :
      result.confidence ≠ .nan := by
    rw [(mem_rank.mp member).2]
    exact numbers _
  have distinct : (rank languages confidence).Pairwise fun a b => a.language ≠ b.language :=
    List.pairwise_map.mp ((map_language_rank languages confidence).nodup_iff.mpr nodup)
  -- The comparison is total among numbers only, so the list is sorted by its keys instead.
  have byKey : rank languages confidence = (languages.map fun language => Detection.mk language
      (confidence language)).mergeSort fun a b => decide (a.rankKey ≤ b.rankKey) := by
    have same := List.map_mergeSort (f := id) (r := precedes)
      (s := fun a b => decide (a.rankKey ≤ b.rankKey))
      (l := languages.map fun language => Detection.mk language (confidence language)) ?_
    · simpa [rank] using same
    · intro a first b second
      obtain ⟨_, _, rfl⟩ := List.mem_map.mp first
      obtain ⟨_, _, rfl⟩ := List.mem_map.mp second
      rw [Bool.eq_iff_iff, decide_eq_true_eq]
      exact precedes_iff (numbers _) (numbers _)
  have sorted : (rank languages confidence).Pairwise fun a b => a.rankKey ≤ b.rankKey := by
    rw [byKey]
    refine (List.pairwise_mergeSort ?_ ?_ _).imp of_decide_eq_true
    · intro a b c first second
      rw [decide_eq_true_eq] at first second ⊢
      exact first.trans second
    · intro a b
      rw [Bool.or_eq_true, decide_eq_true_eq, decide_eq_true_eq]
      exact le_total _ _
  refine (sorted.and distinct).imp_of_mem fun {a b} first second both => ?_
  obtain ⟨ordered, differ⟩ := both
  rw [outranks_iff (number first) (number second)]
  refine lt_of_le_of_ne ordered fun same => differ (id_injective ?_)
  exact congrArg (fun key => (ofLex key).2) same

/-- The results decide the ranking: if each outranks the ones after it, it is the only one of its languages. -/
theorem eq_rank (nodup : languages.Nodup) (numbers : ∀ language, confidence language ≠ .nan)
    {results : List Detection} (ranked : results.Pairwise Outranks)
    (confident : ∀ result ∈ results, result.confidence = confidence result.language)
    (covered : (results.map Detection.language).Perm languages) : results = rank languages confidence := by
  have made : results = (results.map Detection.language).map fun language => ⟨language, confidence language⟩ := by
    rw [List.map_map]
    refine (List.map_id results).symm.trans (List.map_congr_left fun result member => ?_)
    rw [Function.comp_apply, ← confident result member]
    rfl
  have perm : results.Perm (rank languages confidence) := by
    rw [made]
    exact (covered.map _).trans (List.mergeSort_perm _ _).symm
  refine List.Perm.eq_of_pairwise ?_ ranked (rank_pairwise nodup numbers) perm
  intro a b first second before after
  have left : a.confidence ≠ .nan := confident a first ▸ numbers _
  have right : b.confidence ≠ .nan := (mem_rank.mp second).2 ▸ numbers _
  rw [outranks_iff left right] at before
  rw [outranks_iff right left] at after
  exact absurd after before.asymm

/-- A ranking of fewer languages is the ranking of all of them without the others. -/
theorem rank_eq_filter (nodup : languages.Nodup) (nodupFewer : fewer.Nodup) (among : fewer ⊆ languages)
    (numbers : ∀ language, confidence language ≠ .nan) :
    rank fewer confidence =
      (rank languages confidence).filter fun result => result.language ∈ fewer := by
  have kept := (rank_pairwise nodup numbers).filter fun result => decide (result.language ∈ fewer)
  refine (eq_rank nodupFewer numbers kept (fun result member => ?_) ?_).symm
  · exact (mem_rank.mp (List.mem_filter.mp member).1).2
  · have names := (map_language_rank languages confidence).filter fun language => decide (language ∈ fewer)
    rw [List.filter_map] at names
    refine names.trans ((List.perm_ext_iff_of_nodup (nodup.filter _) nodupFewer).mpr fun language => ?_)
    rw [List.mem_filter, decide_eq_true_eq]
    exact ⟨And.right, fun member => ⟨among member, member⟩⟩

end Scriptlet.Detection
