import Scriptlet.Text.Lowercase

/-!
Texts whose lower case is plain. Beyond ASCII only the kelvin sign has an ASCII character as its lower case,
and what else has one takes a mark with it; so a text without a k is the lower case of its spellings in
ASCII letters and of nothing else.
-/
namespace Scriptlet.Text

/-- The ASCII characters that are the lower case of ASCII characters only. -/
def isPlain (c : Char) : Bool := c.toNat < 0x80 && c ≠ 'k'

def CharRange.image (range : CharRange LowercaseRule) : Int × Int :=
  match range.value with
  | .shift distance => (range.first + distance, range.last + distance)
  | .alternate => (range.first, range.last + 1)

/-- Whether a range is taken to characters beyond ASCII, or is the kelvin sign. -/
def CharRange.avoidsPlain (range : CharRange LowercaseRule) : Bool :=
  let (first, last) := range.image
  0x80 ≤ first && last < 0xd800 || 0xe000 ≤ first && last < 0x110000 || first = 0x6b && last = 0x6b

private theorem apply_mem_image {range : CharRange LowercaseRule} {c : Nat} (first : range.first ≤ c)
    (last : c ≤ range.last) (positive : 0 ≤ range.image.1) :
    range.image.1 ≤ range.value.apply range.first c ∧ range.value.apply range.first c ≤ range.image.2 := by
  unfold CharRange.image at positive ⊢
  cases rule : range.value with
  | shift distance =>
    simp only [rule] at positive
    simp only [LowercaseRule.apply]
    omega
  | alternate =>
    simp only [LowercaseRule.apply]
    split <;> omega

private theorem avoidsPlain_of_find? {c : Nat} {range : CharRange LowercaseRule}
    (found : lowercaseTree.find? c = some range) :
    range.avoidsPlain = true ∧ range.first ≤ c ∧ c ≤ range.last := by
  have checked : lowercaseRanges.all CharRange.avoidsPlain = true := by decide +kernel
  obtain ⟨listed, bounds⟩ := RangeTree.mem_toList_of_find? found
  refine ⟨List.all_eq_true.mp checked range ?_, bounds⟩
  rw [← RangeTree.toList_build 12 lowercaseRanges]
  exact List.mem_append_left _ listed

private theorem not_isPlain_ofNat {n : Nat} (beyond : 0x80 ≤ n ∧ n < 0xd800 ∨ 0xe000 ≤ n ∧ n < 0x110000) :
    isPlain (Char.ofNat n) = false := by
  have valid : n.isValidChar := by
    rcases beyond with low | high
    · exact .inl low.2
    · exact .inr ⟨by omega, high.2⟩
  have own : (Char.ofNat n).toNat = n := by
    rw [Char.ofNat, dif_pos valid]
    rfl
  simp only [isPlain, own, Bool.and_eq_false_iff, decide_eq_false_iff_not]
  left
  omega

private theorem exists_not_isPlain {c : Char} (beyond : 0x80 ≤ c.toNat) : ∃ d ∈ lowerChar c, isPlain d = false := by
  unfold lowerChar
  rw [if_neg (Nat.not_lt.mpr beyond)]
  split
  · exact ⟨'\u0307', by simp, by decide⟩
  · split
    next range found =>
      obtain ⟨avoids, first, last⟩ := avoidsPlain_of_find? found
      refine ⟨_, List.mem_singleton_self _, ?_⟩
      simp only [CharRange.avoidsPlain, Bool.or_eq_true, Bool.and_eq_true, decide_eq_true_eq] at avoids
      have inside := apply_mem_image first last (by omega)
      rcases avoids with avoids | kelvin
      · apply not_isPlain_ofNat
        omega
      · have small : range.value.apply range.first c.toNat = 0x6b := by omega
        rw [small]
        decide
    next =>
      refine ⟨c, List.mem_singleton_self c, ?_⟩
      simp only [isPlain, Bool.and_eq_false_iff, decide_eq_false_iff_not]
      omega

private theorem toLower_of_beyond {c : Char} (beyond : 0x80 ≤ c.toNat) : c.toLower = c := by
  apply dif_neg
  intro capital
  have bound : c.toNat ≤ 90 := capital.2
  omega

private theorem lowerFrom_eq_iff {afterCased : Bool} {text wanted : List Char}
    (plain : ∀ c ∈ wanted, isPlain c = true) :
    lowerFrom afterCased text = wanted ↔ text.map Char.toLower = wanted := by
  induction text generalizing afterCased wanted with
  | nil => exact Iff.rfl
  | cons c rest ih =>
    by_cases ascii : c.toNat < 0x80
    · have sigma : c ≠ '\u03a3' := by
        intro same
        rw [same] at ascii
        exact absurd ascii (by decide)
      simp only [lowerFrom, if_neg sigma, lowerChar, if_pos ascii, List.map_cons, List.singleton_append]
      cases wanted with
      | nil => simp
      | cons w wanted =>
        rw [List.cons.injEq, List.cons.injEq, ih fun c member => plain c (List.mem_cons_of_mem w member)]
    · -- What stands for a character beyond ASCII is on neither side a part of the plain text.
      have beyond := Nat.le_of_not_lt ascii
      apply iff_of_false
      · intro same
        have here : ∃ d ∈ lowerFrom afterCased (c :: rest), isPlain d = false := by
          simp only [lowerFrom, List.mem_append]
          split
          · refine ⟨_, .inl (List.mem_singleton_self _), ?_⟩
            split <;> decide
          · obtain ⟨d, member, other⟩ := exists_not_isPlain beyond
            exact ⟨d, .inl member, other⟩
        obtain ⟨d, member, other⟩ := here
        rw [plain d (same ▸ member)] at other
        cases other
      · intro same
        have first : c ∈ wanted := by
          rw [← same, List.map_cons, toLower_of_beyond beyond]
          exact List.mem_cons_self
        have := plain c first
        simp only [isPlain, Bool.and_eq_true, decide_eq_true_eq] at this
        exact ascii this.1

/-- A plain text is the lower case of its spellings in ASCII letters only. -/
theorem lower_eq_iff {text wanted : List Char} (plain : ∀ c ∈ wanted, isPlain c = true) :
    lower text = wanted ↔ text.map Char.toLower = wanted :=
  lowerFrom_eq_iff plain

end Scriptlet.Text
