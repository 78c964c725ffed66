import Scriptlet.Proofs.Pattern.Alike
import Scriptlet.Proofs.Pattern.Taken

/-!
Where matches lie. A match ends at a later place of the same text, and one of a pattern that matches no
line feed does not depend on what stands beyond the line feeds around it.
-/
namespace Scriptlet
open Text (Cursor)

/-- The place `inner` of a smaller text is the place `outer` of a larger one, which has `shift` characters
more before it and `tail` after it. Only line feeds meet the smaller text at its ends. -/
structure Text.Cursor.Embeds (shift : Nat) (tail : List Char) (outer inner : Cursor) : Prop where
  offset : outer.offset = inner.offset + shift
  before : outer.before = inner.before ∨ inner.before = none ∧ outer.before = some '\n'
  rest : outer.rest = inner.rest ++ tail
  tail : ∀ c ∈ tail.head?, c = '\n'

def CharClass.inLine (chars : CharClass) : Bool := !chars.has '\n'

def Pattern.inLine : Pattern → Bool
  | .nothing | .lineStart | .lineEnd | .wordEdge => true
  | .one chars | .many chars | .notBefore chars => chars.inLine
  | .seq first second | .either first second => first.inLine && second.inLine
  | .optional inner => inner.inLine

namespace Text.Cursor
variable {shift : Nat} {tail : List Char} {outer inner : Cursor}

theorem Embeds.next {o i : Nat} {b b' : Option Char} {c : Char} {rest rest' : List Char}
    (embeds : Embeds shift tail ⟨o, b, rest⟩ ⟨i, b', c :: rest'⟩) :
    rest = c :: (rest' ++ tail) ∧
      Embeds shift tail ⟨o + 1, some c, rest' ++ tail⟩ ⟨i + 1, some c, rest'⟩ := by
  refine ⟨embeds.rest, ?_, .inl rfl, rfl, embeds.tail⟩
  have := embeds.offset
  dsimp only at this ⊢
  omega

theorem Embeds.head? (embeds : Embeds shift tail outer inner) :
    outer.rest.head? = inner.rest.head? ∨ inner.rest.head? = none ∧ outer.rest.head? = some '\n' := by
  rw [embeds.rest]
  cases inner.rest with
  | cons c rest => exact .inl rfl
  | nil =>
    cases found : tail.head? with
    | none => exact .inl (by simp [found])
    | some c => exact .inr ⟨rfl, by simp [found, embeds.tail c found]⟩

end Text.Cursor

theorem Text.isWordChar_newline : isWordChar '\n' = false := by decide +kernel

namespace Pattern
variable {α : Type} {next next' : Cursor → Option α} {shift : Nat} {tail : List Char}
variable {outer inner cursor : Cursor}

theorem inLine_eq_all (pattern : Pattern) : pattern.inLine = pattern.all CharClass.inLine := by
  induction pattern with
  | seq _ _ first_ih second_ih | either _ _ first_ih second_ih => rw [inLine, all, first_ih, second_ih]
  | optional _ ih => exact ih
  | _ => rfl

theorem any_eq_of_newline {test : Char → Bool} (inLine : test '\n' = false) {a b : Option Char}
    (near : a = b ∨ b = none ∧ a = some '\n') : a.any test = b.any test := by
  rcases near with rfl | ⟨rfl, rfl⟩
  · rfl
  · simp [inLine]

theorem all_eq_of_newline {a b : Option Char} (near : a = b ∨ b = none ∧ a = some '\n') :
    a.all (· = '\n') = b.all (· = '\n') := by
  rcases near with rfl | ⟨rfl, rfl⟩ <;> rfl

/-- A class that does not hold the line feed cannot tell the end of the smaller text from a line feed. -/
private theorem alike_of_embeds : Alike (Cursor.Embeds shift tail) CharClass.inLine where
  takes embeds _ inLine := any_eq_of_newline (by simpa [CharClass.inLine] using inLine) embeds.head?
  next embeds := by
    obtain ⟨same, after⟩ := embeds.next
    cases same
    exact after
  wordEdge embeds := by
    rw [atWordEdge, atWordEdge, any_eq_of_newline Text.isWordChar_newline embeds.before,
      any_eq_of_newline Text.isWordChar_newline embeds.head?]
  lineStart embeds := all_eq_of_newline embeds.before
  lineEnd embeds := all_eq_of_newline embeds.head?

/-- A pattern that stays in its line matches in the same way in both texts. -/
theorem matchThen_of_embeds {pattern : Pattern} (inLine : pattern.inLine = true)
    (same : ∀ {outer inner : Cursor}, outer.Embeds shift tail inner → next outer = next' inner)
    (embeds : outer.Embeds shift tail inner) :
    pattern.matchThen next outer = pattern.matchThen next' inner :=
  matchThen_of_alike alike_of_embeds (pattern.inLine_eq_all ▸ inLine) same embeds

private theorem afterMany_map {β : Type} (f : α → β) (chars : CharClass) (offset : Nat)
    (before : Option Char) (rest : List Char) :
    afterMany chars (fun cursor => (next cursor).map f) offset before rest =
      (afterMany chars next offset before rest).map f := by
  induction rest generalizing offset before with
  | nil => rfl
  | cons c rest ih =>
    simp only [afterMany, ih]
    split
    · exact Option.map_or.symm
    · rfl

theorem matchThen_map {β : Type} (f : α → β) (pattern : Pattern) :
    pattern.matchThen (fun cursor => (next cursor).map f) cursor = (pattern.matchThen next cursor).map f := by
  induction pattern generalizing next cursor with
  | nothing => rfl
  | one chars =>
    obtain ⟨offset, before, rest⟩ := cursor
    cases rest with
    | nil => rfl
    | cons c rest => simp only [matchThen]; split <;> rfl
  | many chars => exact afterMany_map f chars _ _ _
  | seq first second first_ih second_ih =>
    have after : second.matchThen (fun cursor => (next cursor).map f) =
        fun cursor => (second.matchThen next cursor).map f := funext fun _ => second_ih
    simp only [matchThen, after, first_ih]
  | either first second first_ih second_ih =>
    simp only [matchThen, first_ih, second_ih]
    exact Option.map_or.symm
  | optional inner ih =>
    simp only [matchThen, ih]
    exact Option.map_or.symm
  | lineStart | lineEnd | wordEdge => simp only [matchThen]; split <;> rfl
  | notBefore chars => simp only [matchThen]; split <;> rfl

theorem matchEnd?_of_embeds {pattern : Pattern} (inLine : pattern.inLine = true)
    (embeds : outer.Embeds shift tail inner) :
    (pattern.matchEnd? outer).map Cursor.offset =
      (pattern.matchEnd? inner).map fun stop => stop.offset + shift := by
  rw [matchEnd?, matchEnd?, ← matchThen_map, ← matchThen_map]
  exact matchThen_of_embeds inLine (fun embeds => congrArg some embeds.offset) embeds

/-- A match ends where it began or later, and within the text. -/
theorem matchEnd?_bounds {pattern : Pattern} {stop : Cursor} (found : pattern.matchEnd? cursor = some stop) :
    cursor.offset ≤ stop.offset ∧ stop.offset ≤ cursor.stop := by
  obtain ⟨taken, takes⟩ := takes_of_matchEnd? found
  obtain ⟨rest, offset⟩ := takes.rest
  rw [Cursor.stop, rest, List.length_append]
  omega

end Pattern
end Scriptlet
