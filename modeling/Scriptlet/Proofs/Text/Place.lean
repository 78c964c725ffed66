import Scriptlet.Text.Basic
import Scriptlet.Text.Word

/-!
Places of a text by their numbers. A place is inside a word if the characters on both sides of it are word
characters; all other places are edges.
-/
namespace Scriptlet.Text

def place (text : List Char) (i : Nat) : Cursor := ⟨i, (text.take i).getLast?, text.drop i⟩

def wordAt (text : List Char) (i : Nat) : Bool := text[i]?.any isWordChar

def EdgeAt (text : List Char) (i : Nat) : Prop := ∀ j, j + 1 = i → wordAt text j = true → wordAt text i = false

variable {text passed rest : List Char} {i o : Nat} {c : Char} {before : Option Char}

theorem stop_place (bound : i ≤ text.length) : (place text i).stop = text.length := by
  simp only [place, Cursor.stop, List.length_drop]
  omega

theorem place_append (passed rest : List Char) :
    place (passed ++ rest) passed.length = ⟨passed.length, passed.getLast?, rest⟩ := by
  simp [place]

private theorem getLast?_take_succ (bound : i < text.length) : (text.take (i + 1)).getLast? = some text[i] := by
  rw [List.getLast?_take, if_neg (Nat.succ_ne_zero i), Nat.add_sub_cancel, List.getElem?_eq_getElem bound,
    Option.some_or]

theorem place_succ (here : place text i = ⟨o, before, c :: rest⟩) :
    o = i ∧ place text (i + 1) = ⟨o + 1, some c, rest⟩ := by
  obtain ⟨rfl, -, remains⟩ := Cursor.mk.inj here
  have bound : i < text.length := by
    apply Nat.lt_of_not_le
    intro beyond
    rw [List.drop_eq_nil_of_le beyond] at remains
    cases remains
  rw [List.drop_eq_getElem_cons bound] at remains
  obtain ⟨rfl, rfl⟩ := List.cons.inj remains
  refine ⟨rfl, ?_⟩
  rw [place, getLast?_take_succ bound]

theorem lt_length_of_wordAt (word : wordAt text i = true) : i < text.length := by
  apply Nat.lt_of_not_le
  intro beyond
  rw [wordAt, List.getElem?_eq_none beyond] at word
  cases word

theorem head?_drop_any : (text.drop i).head?.any isWordChar = wordAt text i := by
  rw [List.head?_drop, wordAt]

theorem getLast?_take_any_iff (bound : i ≤ text.length) :
    (text.take i).getLast?.any isWordChar = true ↔ ∃ j, j + 1 = i ∧ wordAt text j = true := by
  cases i with
  | zero => simp
  | succ j =>
    rw [getLast?_take_succ bound]
    simp [wordAt, List.getElem?_eq_getElem bound]

theorem wordAt_before {j : Nat} (next : j + 1 = i) (word : wordAt text j = true) :
    (text.take i).getLast?.any isWordChar = true :=
  (getLast?_take_any_iff (next ▸ lt_length_of_wordAt word)).mpr ⟨j, next, word⟩

theorem edgeAt_of_sides
    (sides : ((text.take i).getLast?.any isWordChar && (text.drop i).head?.any isWordChar) = false) :
    EdgeAt text i := by
  intro j next word
  rwa [wordAt_before next word, Bool.true_and, head?_drop_any] at sides

end Scriptlet.Text
