import Scriptlet.Proofs.Config.Validity
import Scriptlet.Selection

/-!
Bands of confidence. An accepted window parts all numbers into three bands that lie one above the other, and the
selector is hidden from some band on upward, whatever its mode. What is no number is in no band.
-/
namespace Scriptlet

namespace ConfidenceLevel

def rank : ConfidenceLevel → Nat
  | .low => 0
  | .middle => 1
  | .high => 2

instance : LE ConfidenceLevel := ⟨fun a b => a.rank ≤ b.rank⟩

instance (a b : ConfidenceLevel) : Decidable (a ≤ b) := inferInstanceAs (Decidable (a.rank ≤ b.rank))

end ConfidenceLevel

variable {range : ConfidenceRange} {x y : Binary64}

namespace ConfidenceRange

def holds (range : ConfidenceRange) : ConfidenceLevel → Binary64 → Bool
  | .low => range.isLow
  | .middle => range.isMiddle
  | .high => range.isHigh

inductive Lies (range : ConfidenceRange) (x : Binary64) : ConfidenceLevel → Prop
  | below (less : x.place < range.lower.place) : Lies range x .low
  | inside (least : range.lower.place ≤ x.place) (most : x.place ≤ range.upper.place) : Lies range x .middle
  | above (more : range.upper.place < x.place) : Lies range x .high

theorem exists_lies (range : ConfidenceRange) (x : Binary64) : ∃ level, range.Lies x level := by
  rcases lt_or_ge x.place range.lower.place with less | least
  · exact ⟨.low, .below less⟩
  · rcases lt_or_ge range.upper.place x.place with more | most
    · exact ⟨.high, .above more⟩
    · exact ⟨.middle, .inside least most⟩

theorem holds_iff (ordered : range.lower ≤ range.upper) (number : x ≠ .nan) {level : ConfidenceLevel} :
    range.holds level x = true ↔ range.Lies x level := by
  obtain ⟨lower, upper, _⟩ := Binary64.le_iff.mp ordered
  cases level with
  | low =>
    rw [holds, isLow, decide_eq_true_eq, Binary64.lt_iff]
    exact ⟨fun less => .below less.2.2, fun | .below less => ⟨number, lower, less⟩⟩
  | middle =>
    rw [holds, isMiddle, Bool.and_eq_true, decide_eq_true_eq, decide_eq_true_eq, Binary64.le_iff, Binary64.le_iff]
    exact ⟨fun within => .inside within.1.2.2 within.2.2.2,
      fun | .inside least most => ⟨⟨lower, number, least⟩, number, upper, most⟩⟩
  | high =>
    rw [holds, isHigh, decide_eq_true_eq, Binary64.lt_iff]
    exact ⟨fun more => .above more.2.2, fun | .above more => ⟨upper, number, more⟩⟩

theorem Lies.mono (ordered : range.lower ≤ range.upper) {first second : ConfidenceLevel} (left : range.Lies x first)
    (right : range.Lies y second) (below : x.place ≤ y.place) : first ≤ second := by
  have bounds := (Binary64.le_iff.mp ordered).2.2
  cases left with
  | below => exact Nat.zero_le _
  | inside least most =>
    cases right with
    | below less => exact absurd (least.trans below) (not_le.mpr less)
    | inside | above => decide
  | above more =>
    cases right with
    | below less => exact absurd ((bounds.trans more.le).trans below) (not_le.mpr less)
    | inside least most => exact absurd (below.trans most) (not_le.mpr more)
    | above => decide

theorem Lies.unique (ordered : range.lower ≤ range.upper) {first second : ConfidenceLevel}
    (left : range.Lies x first) (right : range.Lies x second) : first = second := by
  have up := left.mono ordered right le_rfl
  have down := right.mono ordered left le_rfl
  revert up down
  cases first <;> cases second <;> decide

theorem lies_classify (ordered : range.lower ≤ range.upper) (number : x ≠ .nan) :
    range.Lies x (range.classify x) := by
  unfold classify
  split
  next middle => exact (holds_iff ordered number).mp middle
  next notMiddle =>
    split
    next low => exact (holds_iff ordered number).mp low
    next notLow =>
      obtain ⟨level, lies⟩ := range.exists_lies x
      have held := (holds_iff ordered number).mpr lies
      cases level with
      | low => exact absurd held notLow
      | middle => exact absurd held notMiddle
      | high => exact lies

theorem holds_iff_classify (ordered : range.lower ≤ range.upper) (number : x ≠ .nan) (level : ConfidenceLevel) :
    range.holds level x = true ↔ range.classify x = level := by
  have lies := lies_classify ordered number
  rw [holds_iff ordered number]
  exact ⟨fun other => lies.unique ordered other, fun same => same ▸ lies⟩

theorem classify_mono (ordered : range.lower ≤ range.upper) (below : x ≤ y) : range.classify x ≤ range.classify y := by
  obtain ⟨left, right, places⟩ := Binary64.le_iff.mp below
  exact (lies_classify ordered left).mono ordered (lies_classify ordered right) places

theorem isLow_of_le (below : x ≤ y) (low : range.isLow y = true) : range.isLow x = true := by
  obtain ⟨number, _, places⟩ := Binary64.le_iff.mp below
  obtain ⟨_, lower, less⟩ := Binary64.lt_iff.mp (of_decide_eq_true low)
  exact decide_eq_true (Binary64.lt_iff.mpr ⟨number, lower, places.trans_lt less⟩)

theorem isHigh_of_le (below : x ≤ y) (high : range.isHigh x = true) : range.isHigh y = true := by
  obtain ⟨_, number, places⟩ := Binary64.le_iff.mp below
  obtain ⟨upper, _, more⟩ := Binary64.lt_iff.mp (of_decide_eq_true high)
  exact decide_eq_true (Binary64.lt_iff.mpr ⟨upper, number, more.trans_le places⟩)

theorem not_isHigh_of_isLow (ordered : range.lower ≤ range.upper) (low : range.isLow x = true) :
    range.isHigh x = false := by
  obtain ⟨_, _, less⟩ := Binary64.lt_iff.mp (of_decide_eq_true low)
  refine decide_eq_false fun high => ?_
  have more := (Binary64.lt_iff.mp high).2.2
  have bounds := (Binary64.le_iff.mp ordered).2.2
  exact lt_asymm less (bounds.trans_lt more)

end ConfidenceRange

namespace SelectorMode

theorem shows_of_le (mode : SelectorMode) (below : x ≤ y) (shown : mode.shows range y = true) :
    mode.shows range x = true := by
  cases mode with
  | alwaysShow => rfl
  | showOnlyWhenNoConfidence => exact ConfidenceRange.isLow_of_le below shown
  | hideWhenHighConfidence =>
    rw [shows, Bool.not_eq_true', ← Bool.not_eq_true] at shown ⊢
    exact mt (ConfidenceRange.isHigh_of_le below) shown

end SelectorMode

namespace ConfidenceRange

/-- A window that was accepted puts every number into exactly one band, the one that it is classified in; greater
numbers into the same band or a higher one. No mode goes over to showing the selector as the confidence grows, and of
the three modes each one shows it wherever the one before does. -/
theorem selection_coherent {value : Value} (accepted : Config.readConfidence value = .ok range) :
    (∀ x ≠ .nan, (∃! level, range.holds level x = true) ∧ range.holds (range.classify x) x = true) ∧
    (∀ x y, x ≤ y → range.classify x ≤ range.classify y ∧
      ∀ mode : SelectorMode, mode.shows range y = true → mode.shows range x = true) ∧
    ∀ x, (SelectorMode.showOnlyWhenNoConfidence.shows range x = true →
        SelectorMode.hideWhenHighConfidence.shows range x = true) ∧
      (SelectorMode.hideWhenHighConfidence.shows range x = true → SelectorMode.alwaysShow.shows range x = true) := by
  have ordered := (Config.window_of_readConfidence accepted).2.1
  refine ⟨fun x number => ?bands, fun x y below => ?growth, fun x => ⟨fun low => ?modes, fun _ => rfl⟩⟩
  case bands =>
    have named := holds_iff_classify ordered number
    exact ⟨⟨_, (named _).mpr rfl, fun other held => ((named other).mp held).symm⟩, (named _).mpr rfl⟩
  case growth => exact ⟨classify_mono ordered below, fun mode => mode.shows_of_le below⟩
  case modes => rw [SelectorMode.shows, not_isHigh_of_isLow ordered low, Bool.not_false]

/-- A window of one number, which is in the middle, below the greatest confidence. -/
theorem selection_coherent_one_number :
    let half := Binary64.ofDecimal false 5 (-1)
    let range : ConfidenceRange := ⟨half, half⟩
    Config.readConfidence (.map [(.text "lower", .float half), (.text "upper", .text "0.5")]) = .ok range ∧
      half ≠ .nan ∧ (∃! level, range.holds level half = true) ∧ range.classify half = .middle ∧
      half ≤ .one ∧ range.classify .one = .high ∧ range.classify half ≤ range.classify .one := by
  intro half range
  have accepted : Config.readConfidence (.map [(.text "lower", .float half), (.text "upper", .text "0.5")]) =
      .ok range := by decide +kernel
  have below : half ≤ .one := by decide +kernel
  obtain ⟨bands, growth, _⟩ := selection_coherent accepted
  refine ⟨accepted, by decide +kernel, (bands half (by decide +kernel)).1, by decide +kernel, below, by decide +kernel,
    (growth half .one below).1⟩

end ConfidenceRange
end Scriptlet
