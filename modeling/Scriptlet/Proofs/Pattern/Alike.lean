import Scriptlet.Pattern.Basic

/-!
Places at which patterns match alike. Two places of two texts are alike for some classes if the same of them
take the next character at both, and the places after it are alike again.
-/
namespace Scriptlet
open Text (Cursor)

namespace Pattern

def all (test : CharClass → Bool) : Pattern → Bool
  | nothing | lineStart | lineEnd | wordEdge => true
  | one chars | many chars | notBefore chars => test chars
  | seq first second | either first second => first.all test && second.all test
  | optional inner => inner.all test

structure Alike (related : Cursor → Cursor → Prop) (classes : CharClass → Bool) : Prop where
  takes : ∀ {outer inner : Cursor}, related outer inner → ∀ chars, classes chars = true →
    outer.rest.head?.any chars.has = inner.rest.head?.any chars.has
  next : ∀ {o i : Nat} {b b' : Option Char} {c c' : Char} {rest rest' : List Char},
    related ⟨o, b, c :: rest⟩ ⟨i, b', c' :: rest'⟩ → related ⟨o + 1, some c, rest⟩ ⟨i + 1, some c', rest'⟩
  wordEdge : ∀ {outer inner : Cursor}, related outer inner → atWordEdge outer = atWordEdge inner
  lineStart : ∀ {outer inner : Cursor}, related outer inner →
    outer.before.all (· = '\n') = inner.before.all (· = '\n')
  lineEnd : ∀ {outer inner : Cursor}, related outer inner →
    outer.rest.head?.all (· = '\n') = inner.rest.head?.all (· = '\n')

variable {α : Type} {related : Cursor → Cursor → Prop} {classes : CharClass → Bool}
variable {next next' : Cursor → Option α} {outer inner : Cursor}

/-- A class takes a character at both places, and leads to places that are alike, or at none of them. -/
theorem Alike.step (alike : Alike related classes) (here : related outer inner) {chars : CharClass}
    (listed : classes chars = true) :
    (∃ o b c rest i b' c' rest', outer = ⟨o, b, c :: rest⟩ ∧ inner = ⟨i, b', c' :: rest'⟩ ∧
        chars.has c = true ∧ chars.has c' = true ∧ related ⟨o + 1, some c, rest⟩ ⟨i + 1, some c', rest'⟩) ∨
      outer.rest.head?.any chars.has = false ∧ inner.rest.head?.any chars.has = false := by
  have both := alike.takes here chars listed
  cases takes : outer.rest.head?.any chars.has with
  | false => exact .inr ⟨rfl, both ▸ takes⟩
  | true =>
    rw [takes] at both
    obtain ⟨o, b, rest⟩ := outer
    obtain ⟨i, b', rest'⟩ := inner
    cases rest with
    | nil => cases takes
    | cons c rest =>
      cases rest' with
      | nil => cases both
      | cons c' rest' => exact .inl ⟨o, b, c, rest, i, b', c', rest', rfl, rfl, takes, both.symm, alike.next here⟩

private theorem afterMany_of_refused {chars : CharClass} (refused : outer.rest.head?.any chars.has = false) :
    afterMany chars next outer.offset outer.before outer.rest = next outer := by
  obtain ⟨o, b, rest⟩ := outer
  cases rest with
  | nil => rfl
  | cons c rest =>
    have refused : chars.has c = false := refused
    simp only [afterMany, refused, Bool.false_eq_true, if_false]

private theorem afterMany_of_alike (alike : Alike related classes) {chars : CharClass}
    (listed : classes chars = true)
    (same : ∀ {outer inner : Cursor}, related outer inner → next outer = next' inner) {o : Nat} {b : Option Char}
    {rest : List Char} (here : related ⟨o, b, rest⟩ inner) :
    afterMany chars next o b rest = afterMany chars next' inner.offset inner.before inner.rest := by
  induction rest generalizing o b inner with
  | nil =>
    have refused := alike.takes here chars listed
    rw [afterMany_of_refused refused.symm]
    exact same here
  | cons c rest ih =>
    rcases alike.step here listed with ⟨_, _, _, _, i, b', c', rest', place, rfl, has, has', after⟩ | ⟨refused, refused'⟩
    · cases place
      simp only [afterMany, has, has', if_true, same here, ih after]
    · rw [afterMany_of_refused refused']
      exact (afterMany_of_refused refused).trans (same here)

/-- A pattern matches alike at places that are alike for its classes, if what comes after it does. -/
theorem matchThen_of_alike (alike : Alike related classes) {pattern : Pattern}
    (listed : pattern.all classes = true)
    (same : ∀ {outer inner : Cursor}, related outer inner → next outer = next' inner) (here : related outer inner) :
    pattern.matchThen next outer = pattern.matchThen next' inner := by
  induction pattern generalizing next next' outer inner with
  | nothing => exact same here
  | one chars =>
    have refuses {next : Cursor → Option α} {place : Cursor} (refused : place.rest.head?.any chars.has = false) :
        (one chars).matchThen next place = none := by
      obtain ⟨o, b, rest⟩ := place
      cases rest with
      | nil => rfl
      | cons c rest =>
        have refused : chars.has c = false := refused
        simp only [matchThen, refused, Bool.false_eq_true, if_false]
    rcases alike.step here listed with ⟨o, b, c, rest, i, b', c', rest', rfl, rfl, has, has', after⟩ | ⟨refused, refused'⟩
    · simp only [matchThen, has, has', if_true, same after]
    · rw [refuses refused, refuses refused']
  | many chars => exact afterMany_of_alike alike listed same here
  | seq first second first_ih second_ih =>
    obtain ⟨left, right⟩ := Bool.and_eq_true_iff.mp listed
    exact first_ih left (fun here => second_ih right same here) here
  | either first second first_ih second_ih =>
    obtain ⟨left, right⟩ := Bool.and_eq_true_iff.mp listed
    simp only [matchThen, first_ih left same here, second_ih right same here]
  | optional inner ih => simp only [matchThen, ih listed same here, same here]
  | lineStart => simp only [matchThen, alike.lineStart here, same here]
  | lineEnd => simp only [matchThen, alike.lineEnd here, same here]
  | wordEdge => simp only [matchThen, alike.wordEdge here, same here]
  | notBefore chars => simp only [matchThen, alike.takes here chars listed, same here]

end Pattern
end Scriptlet
