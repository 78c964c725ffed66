import Scriptlet.Text.Digit
import Scriptlet.Text.Word
import Mathlib.Data.List.Basic

/-!
Decimal digits are word characters, in every script.
-/
namespace Scriptlet.Text
variable {c : Char}

private theorem digitTree_subset : digitTree.toList.all (fun range =>
    (List.range' range.first (range.last + 1 - range.first)).all fun n => (alnumTree.find? n).isSome) = true := by
  decide +kernel

theorem isWordChar_of_isDecimal (decimal : isDecimal c = true) : isWordChar c = true := by
  simp only [isDecimal, digitValue?] at decimal
  simp only [isWordChar, isAlnum, Bool.or_eq_true]
  right
  split at decimal
  next ascii =>
    rw [if_pos ascii, Char.isAlphanum]
    split at decimal
    next digit => rw [digit, Bool.or_true]
    next => cases decimal
  next beyond =>
    rw [if_neg beyond, RangeTree.contains]
    rw [Option.isSome_map] at decimal
    obtain ⟨range, found⟩ := Option.isSome_iff_exists.mp decimal
    obtain ⟨listed, first, last⟩ := RangeTree.mem_toList_of_find? found
    have covered := List.all_eq_true.mp (List.all_eq_true.mp digitTree_subset range listed)
    exact covered c.toNat (List.mem_range'_1.mpr ⟨first, by omega⟩)

end Scriptlet.Text
