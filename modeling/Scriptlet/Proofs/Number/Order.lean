import Mathlib.Algebra.Order.Group.Int
import Mathlib.Data.Prod.Lex
import Scriptlet.Number.Binary64

/-!
The order of double-precision numbers is that of their places: among the integers, or at an end on one side.
Numbers without a minus sign keep having none under rounding, addition and multiplication.
-/
namespace Scriptlet.Binary64
variable {x y z : Binary64}

def place : Binary64 → Int ×ₗ Int
  | nan => toLex (-1, 0)
  | infinite negative => toLex (if negative then -1 else 1, 0)
  | finite negative units => toLex (0, signedUnits negative units)

theorem le_iff : x ≤ y ↔ x ≠ nan ∧ y ≠ nan ∧ x.place ≤ y.place := by
  change le x y = true ↔ _
  cases x with
  | nan => simp [le]
  | infinite a =>
    cases y with
    | nan => simp [le]
    | infinite b => cases a <;> cases b <;> simp [le, place, Prod.Lex.toLex_le_toLex]
    | finite b n => cases a <;> simp [le, place, Prod.Lex.toLex_le_toLex]
  | finite a m =>
    cases y with
    | nan => simp [le]
    | infinite b => cases b <;> simp [le, place, Prod.Lex.toLex_le_toLex]
    | finite b n => simp [le, place, Prod.Lex.toLex_le_toLex]

theorem le_self (number : x ≠ nan) : x ≤ x := le_iff.mpr ⟨number, number, le_rfl⟩

theorem le_trans (first : x ≤ y) (second : y ≤ z) : x ≤ z := by
  obtain ⟨left, _, below⟩ := le_iff.mp first
  obtain ⟨_, right, above⟩ := le_iff.mp second
  exact le_iff.mpr ⟨left, right, below.trans above⟩

/-- Numbers of which each is at most the next one. -/
theorem le_of_steps {f : Nat → Binary64} {m n : Nat} (numbers : ∀ k, f k ≠ nan) (below : m ≤ n)
    (steps : ∀ k, k < n → f k ≤ f (k + 1)) : f m ≤ f n := by
  induction n, below using Nat.le_induction with
  | base => exact le_self (numbers m)
  | succ n below ih =>
    have earlier := ih fun k less => steps k (Nat.lt_succ_of_lt less)
    exact le_trans earlier (steps n (Nat.lt_succ_self n))

private theorem lt_iff_not_le : x < y ↔ x ≠ nan ∧ y ≠ nan ∧ ¬ y ≤ x := by
  change lt x y = true ↔ _ ∧ _ ∧ ¬ le y x = true
  cases x <;> cases y <;> simp [lt, le, and_comm]

theorem lt_iff : x < y ↔ x ≠ nan ∧ y ≠ nan ∧ x.place < y.place := by
  rw [lt_iff_not_le, le_iff]
  constructor
  · rintro ⟨left, right, above⟩
    exact ⟨left, right, not_le.mp fun below => above ⟨right, left, below⟩⟩
  · rintro ⟨left, right, below⟩
    exact ⟨left, right, fun above => absurd above.2.2 (not_le.mpr below)⟩

theorem same_iff : x.same y = true ↔ x ≠ nan ∧ y ≠ nan ∧ x.place = y.place := by
  rw [same, Bool.and_eq_true, decide_eq_true_eq, decide_eq_true_eq, le_iff, le_iff]
  constructor
  · rintro ⟨⟨left, right, below⟩, _, _, above⟩
    exact ⟨left, right, le_antisymm below above⟩
  · rintro ⟨left, right, equal⟩
    exact ⟨⟨left, right, equal.le⟩, right, left, equal.ge⟩

theorem le_of_not_lt (left : x ≠ nan) (right : y ≠ nan) (above : ¬ x < y) : y ≤ x := by
  rw [lt_iff] at above
  exact le_iff.mpr ⟨right, left, not_lt.mp fun below => above ⟨left, right, below⟩⟩

theorem least_le_right (left : x ≠ nan) (right : y ≠ nan) : x.least y ≤ y := by
  unfold least
  split
  next => exact le_iff.mpr ⟨right, right, le_rfl⟩
  next above => exact le_of_not_lt right left above

/-- Whether a number has no minus sign; what is no number has no sign at all. -/
def isUnsigned : Binary64 → Bool
  | nan => false
  | infinite negative | finite negative _ => !negative

theorem zero_le_of_isUnsigned (unsigned : x.isUnsigned = true) : zero ≤ x := by
  cases x with
  | nan => cases unsigned
  | infinite negative =>
    have plain : negative = false := by simpa [isUnsigned] using unsigned
    simp [le_iff, place, zero, plain, Prod.Lex.toLex_le_toLex]
  | finite negative units =>
    have plain : negative = false := by simpa [isUnsigned] using unsigned
    simp [le_iff, place, zero, signedUnits, plain, Prod.Lex.toLex_le_toLex]

theorem ne_nan_of_isUnsigned (unsigned : x.isUnsigned = true) : x ≠ nan := by
  rintro rfl
  cases unsigned

theorem isUnsigned_least (left : x.isUnsigned = true) (right : y.isUnsigned = true) :
    (x.least y).isUnsigned = true := by
  unfold least
  split
  · exact right
  · exact left

theorem isUnsigned_ofRatio (num den : Nat) : (ofRatio false num den).isUnsigned = true := by
  unfold ofRatio
  dsimp only
  split <;> rfl

theorem isUnsigned_ofDecimal (digits : Nat) (exponent : Int) :
    (ofDecimal false digits exponent).isUnsigned = true := by
  unfold ofDecimal
  dsimp only
  split
  · rfl
  · split
    · rfl
    · split <;> exact isUnsigned_ofRatio _ _

theorem isUnsigned_add (left : x.isUnsigned = true) (right : y.isUnsigned = true) :
    (x + y).isUnsigned = true := by
  change (add x y).isUnsigned = true
  cases x with
  | nan => cases left
  | infinite a =>
    cases y with
    | nan => cases right
    | infinite b => simp_all [add, isUnsigned]
    | finite b n => exact left
  | finite a m =>
    cases y with
    | nan => cases right
    | infinite b => exact right
    | finite b n =>
      have plain : a = false ∧ b = false := by simpa [isUnsigned] using And.intro left right
      obtain ⟨rfl, rfl⟩ := plain
      have sum : ¬ signedUnits false m + signedUnits false n < 0 := by simp [signedUnits]; omega
      simp only [add, sum, decide_false]
      split
      · rfl
      · exact isUnsigned_ofRatio _ _

/-- With a factor above zero and below the infinite one, a product is always a number. -/
theorem isUnsigned_mul (left : x.isUnsigned = true) (right : y.isFinite = true) (positive : zero < y) :
    (x * y).isUnsigned = true := by
  change (mul x y).isUnsigned = true
  cases y with
  | nan => cases right
  | infinite b => cases right
  | finite b n =>
    have above : 0 < signedUnits b n := by
      simpa [lt_iff, place, zero, signedUnits, Prod.Lex.toLex_lt_toLex] using positive
    obtain ⟨rfl, some⟩ : b = false ∧ n ≠ 0 := by
      cases b with
      | false => exact ⟨rfl, by simpa [signedUnits, Nat.pos_iff_ne_zero] using above⟩
      | true =>
        have below : signedUnits true n ≤ 0 := by simp [signedUnits]
        omega
    cases x with
    | nan => cases left
    | infinite a => simpa [mul, some, isUnsigned] using left
    | finite a m =>
      have plain : a = false := by simpa [isUnsigned] using left
      simp only [mul, plain, bne_self_eq_false]
      exact isUnsigned_ofRatio _ _

end Scriptlet.Binary64
