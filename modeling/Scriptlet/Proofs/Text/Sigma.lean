import Scriptlet.Proofs.Text.Lowercase
import Scriptlet.Text.Basic

/-!
The lower case of a part of a text. What stands around a character decides nothing but which of the two small sigmas
a capital sigma becomes, so what has no sigma is found in the lower case of a text if it is in that of a part.
-/
namespace Scriptlet.Text

def unifySigma (c : Char) : Char := if c = '\u03c2' then '\u03c3' else c

def hasNoSigma (text : List Char) : Bool := text.all fun c => c ≠ '\u03c2' && c ≠ '\u03c3'

variable {text wanted before behind : List Char} {afterCased : Bool}

theorem map_unifySigma_lowerFrom : (lowerFrom afterCased text).map unifySigma =
    text.flatMap fun c => (lowerChar c).map unifySigma := by
  induction text generalizing afterCased with
  | nil => rfl
  | cons c rest ih =>
    rw [lowerFrom, List.map_append, ih, List.flatMap_cons]
    congr 1
    split
    next sigma =>
      have small : (lowerChar '\u03a3').map unifySigma = ['\u03c3'] := by decide +kernel
      rw [sigma, small]
      split <;> rfl
    next => rfl

theorem map_unifySigma_lower_append (before behind : List Char) :
    (lower (before ++ behind)).map unifySigma = (lower before).map unifySigma ++ (lower behind).map unifySigma := by
  simp only [lower, map_unifySigma_lowerFrom, List.flatMap_append]

theorem map_unifySigma_eq_iff (plain : hasNoSigma wanted = true) : text.map unifySigma = wanted ↔ text = wanted := by
  induction wanted generalizing text with
  | nil => exact List.map_eq_nil_iff
  | cons w wanted ih =>
    simp only [hasNoSigma, List.all_cons, Bool.and_eq_true, decide_eq_true_eq] at plain
    cases text with
    | nil => simp
    | cons c rest =>
      have same : unifySigma c = w ↔ c = w := by
        unfold unifySigma
        split
        next final => simp [final, plain.1.1.symm, plain.1.2.symm]
        next => exact Iff.rfl
      rw [List.map_cons, List.cons.injEq, List.cons.injEq, same, ih plain.2]

private theorem map_unifySigma_self (plain : hasNoSigma wanted = true) : wanted.map unifySigma = wanted :=
  (map_unifySigma_eq_iff plain).mpr rfl

theorem prefix_map_unifySigma_iff (plain : hasNoSigma wanted = true) :
    wanted <+: text.map unifySigma ↔ wanted <+: text := by
  constructor
  · rintro ⟨back, whole⟩
    obtain ⟨first, right, rfl, same, _⟩ := List.append_eq_map_iff.mp whole
    rw [map_unifySigma_eq_iff plain] at same
    exact ⟨right, by rw [same]⟩
  · intro starts
    have mapped := starts.map unifySigma
    rwa [map_unifySigma_self plain] at mapped

theorem infix_map_unifySigma_iff (plain : hasNoSigma wanted = true) :
    wanted <:+: text.map unifySigma ↔ wanted <:+: text := by
  constructor
  · rintro ⟨front, back, whole⟩
    rw [List.append_assoc] at whole
    obtain ⟨first, rest, rfl, _, starts⟩ := List.append_eq_map_iff.mp whole
    have starts : wanted <+: rest.map unifySigma := ⟨back, starts.symm⟩
    exact ((prefix_map_unifySigma_iff plain).mp starts).isInfix.trans (List.suffix_append first rest).isInfix
  · intro inside
    have mapped := inside.map unifySigma
    rwa [map_unifySigma_self plain] at mapped

/-- What has no sigma and is in the lower case of a text is in that of every longer one. -/
theorem infix_lower_of_part (plain : hasNoSigma wanted = true) (inside : wanted <:+: lower text) :
    wanted <:+: lower (before ++ text ++ behind) := by
  rw [← infix_map_unifySigma_iff plain] at inside ⊢
  rw [map_unifySigma_lower_append, map_unifySigma_lower_append]
  exact inside.trans ⟨_, _, rfl⟩

theorem prefix_lower_of_prefix (plain : hasNoSigma wanted = true) (starts : wanted <+: lower text) :
    wanted <+: lower (text ++ behind) := by
  rw [← prefix_map_unifySigma_iff plain] at starts ⊢
  rw [map_unifySigma_lower_append]
  exact starts.trans (List.prefix_append _ _)

end Scriptlet.Text
