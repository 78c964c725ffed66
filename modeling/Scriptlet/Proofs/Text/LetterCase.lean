import Scriptlet.Text.Basic
import Scriptlet.Text.Digit
import Scriptlet.Text.Lowercase
import Scriptlet.Text.Word

/-!
The case of ASCII letters. A function of characters does not see it if it treats each of the 26 capitals
as the small letter, which is a finite check.
-/
namespace Scriptlet.Text

def capitals : List Char :=
  ['A', 'B', 'C', 'D', 'E', 'F', 'G', 'H', 'I', 'J', 'K', 'L', 'M', 'N', 'O', 'P', 'Q', 'R', 'S', 'T', 'U',
   'V', 'W', 'X', 'Y', 'Z']

private theorem ofNat_mem_capitals : ∀ n ∈ List.range' 65 26, Char.ofNat n ∈ capitals := by decide

theorem mem_capitals_or_toLower_eq (c : Char) : c ∈ capitals ∨ c.toLower = c := by
  by_cases capital : 'A'.val ≤ c.val ∧ c.val ≤ 'Z'.val
  · left
    simp only [UInt32.le_iff_toNat_le] at capital
    have listed : c.toNat ∈ List.range' 65 26 := by
      rw [List.mem_range'_1]
      exact ⟨capital.1, Nat.lt_succ_of_le capital.2⟩
    simpa using ofNat_mem_capitals c.toNat listed
  · exact .inr (dif_neg capital)

variable {β : Type} [DecidableEq β]

theorem toLower_congr {f : Char → β} (same : capitals.all (fun c => f c.toLower = f c) = true) (c : Char) :
    f c.toLower = f c := by
  rcases mem_capitals_or_toLower_eq c with capital | small
  · simpa using List.all_eq_true.mp same c capital
  · rw [small]

theorem toLower_eq_iff {c wanted : Char} (plain : wanted.isAlpha = false) : c.toLower = wanted ↔ c = wanted := by
  have letters : capitals.all (fun c => c.isAlpha && c.toLower.isAlpha) = true := by decide
  have differ (d : Char) (letter : d.isAlpha = true) : d ≠ wanted := by
    intro same
    rw [same, plain] at letter
    cases letter
  suffices same : decide (c.toLower = wanted) = decide (c = wanted) by simpa using same
  apply toLower_congr (f := fun c => decide (c = wanted))
  apply List.all_eq_true.mpr
  intro c capital
  obtain ⟨large, small⟩ := Bool.and_eq_true_iff.mp (List.all_eq_true.mp letters c capital)
  simp only [differ c large, differ c.toLower small, decide_true]

@[simp]
theorem isWordChar_toLower (c : Char) : isWordChar c.toLower = isWordChar c :=
  toLower_congr (by decide +kernel) c

@[simp]
theorem foldChar_toLower (c : Char) : foldChar c.toLower = foldChar c := toLower_congr (by decide +kernel) c

@[simp]
theorem isDecimal_toLower (c : Char) : isDecimal c.toLower = isDecimal c := toLower_congr (by decide +kernel) c

/-- A function that treats every capital as the small letter, and so the other characters that are folded to
a letter, does not see folding. -/
theorem foldChar_congr {f : Char → β} (same : ∀ c, f c.toLower = f c)
    (special : ['\u017f', '\u212a', '\u0130', '\u0131'].all (fun c => f (foldChar c) = f c) = true) (c : Char) :
    f (foldChar c) = f c := by
  by_cases listed : c ∈ ['\u017f', '\u212a', '\u0130', '\u0131']
  · simpa using List.all_eq_true.mp special c listed
  · simp only [List.mem_cons, List.not_mem_nil, or_false, not_or] at listed
    simp [foldChar, listed, same]

/-- What is folded to one letter is a word character or not as that letter is. -/
theorem isWordChar_foldChar (c : Char) : isWordChar (foldChar c) = isWordChar c :=
  foldChar_congr isWordChar_toLower (by decide +kernel) c

theorem isDecimal_foldChar (c : Char) : isDecimal (foldChar c) = isDecimal c :=
  foldChar_congr isDecimal_toLower (by decide +kernel) c

/-- Nothing else is folded to a character of ASCII that is no letter. -/
theorem foldChar_eq_foldChar_iff {c wanted : Char} (ascii : wanted.toNat < 128) (plain : wanted.isAlpha = false) :
    foldChar c = foldChar wanted ↔ c = wanted := by
  have special : ['\u017f', '\u212a', '\u0130', '\u0131'].all
      (fun c => 128 ≤ c.toNat && (foldChar c).isAlpha) = true := by decide
  have fold (d : Char) : foldChar d = wanted ↔ d = wanted := by
    by_cases listed : d ∈ ['\u017f', '\u212a', '\u0130', '\u0131']
    · obtain ⟨large, letter⟩ := Bool.and_eq_true_iff.mp (List.all_eq_true.mp special d listed)
      refine iff_of_false (fun same => ?_) fun same => ?_
      · rw [same, plain] at letter
        cases letter
      · rw [same, decide_eq_true_eq] at large
        omega
    · simp only [List.mem_cons, List.not_mem_nil, or_false, not_or] at listed
      refine Iff.trans ?_ (toLower_eq_iff plain)
      simp [foldChar, listed]
  rw [(fold wanted).mpr rfl]
  exact fold c

def Cursor.toLower (here : Cursor) : Cursor :=
  ⟨here.offset, here.before.map Char.toLower, here.rest.map Char.toLower⟩

end Scriptlet.Text
