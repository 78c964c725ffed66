import Scriptlet.Proofs.Highlight.Sweep

/-!
Regions between an opening and a closing text. A region ends right after the first closing text behind its
opening text; one that is never closed takes the rest of the text.
-/
namespace Scriptlet
open Text (Cursor FirstFrom FoundFrom StandsAt)

namespace Delimiters

def Closes (delimiters : Delimiters) (code : List Char) (start stop : Nat) : Prop :=
  (∃ k, FirstFrom (StandsAt delimiters.closing.toList code) (start + delimiters.opening.length) k ∧
      stop = k + delimiters.closing.length) ∨
    (∀ k, start + delimiters.opening.length ≤ k → ¬ StandsAt delimiters.closing.toList code k) ∧ stop = code.length

structure RegionFrom (delimiters : Delimiters) (code : List Char) (i start stop : Nat) : Prop where
  opens : FirstFrom (StandsAt delimiters.opening.toList code) i start
  closes : delimiters.Closes code start stop

end Delimiters

namespace Highlight
variable {delimiters : Delimiters} {code : List Char} {kind : TokenKind} {onlyFree : Bool} {span : Span}
variable {i start stop : Nat}

theorem closes_iff (inside : start ≤ code.length) :
    delimiters.Closes code start stop ↔ stop = start + regionLength delimiters (code.drop start) := by
  rw [Delimiters.Closes, regionLength, List.drop_drop]
  cases found : Text.indexOf? delimiters.closing.toList (code.drop (start + delimiters.opening.length)) with
  | some k =>
    have first := Text.indexOf?_drop_eq_some_iff.mp found
    dsimp only
    constructor
    · rintro (⟨j, other, rfl⟩ | ⟨unclosed, _⟩)
      · rw [other.unique first]
        omega
      · exact absurd first.holds (unclosed _ first.le)
    · rintro rfl
      exact .inl ⟨_, first, by omega⟩
  | none =>
    have unclosed := Text.indexOf?_drop_eq_none_iff.mp found
    have rest : start + (code.drop start).length = code.length := by
      rw [List.length_drop]
      omega
    dsimp only
    rw [rest]
    constructor
    · rintro (⟨k, first, _⟩ | ⟨_, ends⟩)
      · exact absurd first.holds (unclosed k first.le)
      · exact ends
    · exact fun ends => .inr ⟨unclosed, ends⟩

/-- A region ends with its closing text or with the whole text. -/
theorem last_of_closes {c : Char} (last : delimiters.closing.toList.getLast? = some c)
    (closes : delimiters.Closes code start stop) : stop = code.length ∨ ∃ j, j + 1 = stop ∧ code[j]? = some c := by
  rcases closes with ⟨k, found, rfl⟩ | ⟨_, ends⟩
  · right
    rw [List.getLast?_eq_getElem?, String.length_toList] at last
    have positive : 0 < delimiters.closing.length := by
      rw [← String.length_toList, List.length_pos_iff]
      intro empty
      rw [empty] at last
      cases last
    refine ⟨k + (delimiters.closing.length - 1), by omega, ?_⟩
    rw [Text.getElem?_of_standsAt found.holds (by rw [String.length_toList]; omega), last]
  · exact .inl ends

theorem regionProposer_eq_some_iff {proposal : Proposal} :
    regionProposer delimiters kind onlyFree (Text.place code i) = some proposal ↔
      StandsAt delimiters.opening.toList code i ∧
        ⟨kind, regionLength delimiters (code.drop i), onlyFree, regionLength delimiters (code.drop i) - 1,
          regionLength delimiters (code.drop i) - 1⟩ = proposal := by
  rw [StandsAt, ← List.isPrefixOf_iff_prefix]
  exact Option.ite_none_right_eq_some.trans (and_congr_right' Option.some_inj)

theorem closes_of_makes (some : delimiters.opening.toList ≠ [])
    (makes : (regionProposer delimiters kind onlyFree).Makes code span) :
    span.kind = kind ∧ StandsAt delimiters.opening.toList code span.start ∧
      delimiters.Closes code span.start span.stop := by
  obtain ⟨proposal, proposed, length, own⟩ := makes
  obtain ⟨stands, rfl⟩ := regionProposer_eq_some_iff.mp proposed
  have inside := Text.lt_length_of_standsAt some stands
  refine ⟨own.symm, stands, (closes_iff (Nat.le_of_lt inside)).mpr ?_⟩
  rw [Span.stop, ← length]

theorem regionLength_pos {text : List Char} (some : delimiters.opening.toList ≠ [])
    (opens : delimiters.opening.toList <+: text) : 0 < regionLength delimiters text := by
  have bound := opens.length_le
  have positive := List.length_pos_iff.mpr some
  rw [String.length_toList] at positive bound
  dsimp only [regionLength]
  split <;> omega

theorem sweeps_regionProposer (some : delimiters.opening.toList ≠ []) :
    (regionProposer delimiters kind false).Sweeps kind := by
  intro here proposal proposed
  obtain ⟨opens, same⟩ := Option.ite_none_right_eq_some.mp proposed
  obtain rfl := Option.some.inj same
  exact ⟨regionLength_pos some (List.isPrefixOf_iff_prefix.mp opens), rfl, rfl, rfl, rfl⟩

theorem next_regionProposer_iff (some : delimiters.opening.toList ≠ []) :
    (regionProposer delimiters kind onlyFree).Next code i start stop ↔ delimiters.RegionFrom code i start stop := by
  have opens (k : Nat) : (regionProposer delimiters kind onlyFree (Text.place code k)).isSome = true ↔
      StandsAt delimiters.opening.toList code k := by
    rw [Option.isSome_iff_exists]
    simp only [regionProposer_eq_some_iff, exists_and_left, exists_eq', and_true]
  have first := FirstFrom.congr (i := i) (k := start) fun k _ _ => opens k
  have ends (stands : StandsAt delimiters.opening.toList code start) :
      (regionProposer delimiters kind onlyFree (Text.place code start)).map (start + ·.length) = Option.some stop ↔
        delimiters.Closes code start stop := by
    rw [closes_iff (Nat.le_of_lt (Text.lt_length_of_standsAt some stands)),
      regionProposer_eq_some_iff.mpr ⟨stands, rfl⟩, eq_comm (a := stop)]
    exact Option.some_inj
  constructor
  · exact fun next => ⟨first.mp next.first, (ends (first.mp next.first).holds).mp next.length⟩
  · exact fun region => ⟨first.mpr region.opens, (ends region.opens.holds).mpr region.closes⟩

theorem bounds_of_regionFrom (some : delimiters.opening.toList ≠ []) (region : delimiters.RegionFrom code i start stop) :
    i ≤ start ∧ start < stop ∧ stop ≤ code.length := by
  have next : (regionProposer delimiters .comment false).Next code i start stop := (next_regionProposer_iff some).mpr region
  exact next.bounds (bounded_regionProposer _ _ _) (sweeps_regionProposer some)

end Highlight
end Scriptlet
