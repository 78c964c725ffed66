import Scriptlet.Proofs.Pattern.Match

/-!
Matches that stay when lines are added. A pattern that occurs in a text occurs there in some way of taking characters,
and each such way is open to it in a longer text too, if what it only looks at cannot be a line feed.
-/
namespace Scriptlet
open Text (Cursor)

namespace Pattern

/-- Whether the classes that a pattern does not want to stand somewhere leave the line feed alone. -/
def ignoresNewline : Pattern → Bool
  | notBefore chars => chars.inLine
  | seq first second | either first second => first.ignoresNewline && second.ignoresNewline
  | optional inner => inner.ignoresNewline
  | nothing | one _ | many _ | lineStart | lineEnd | wordEdge => true

variable {α : Type} {next : Cursor → Option α} {here after outer inner : Cursor} {pattern : Pattern}
variable {taken text a b tail : List Char} {shift i : Nat}

private theorem isSome_afterMany (chars : CharClass) (succeeds : (next here).isSome = true) :
    (afterMany chars next here.offset here.before here.rest).isSome = true := by
  obtain ⟨offset, before, rest⟩ := here
  cases rest with
  | nil => exact succeeds
  | cons c rest =>
    simp only [afterMany]
    split
    · rw [Option.isSome_or, succeeds, Bool.or_true]
    · exact succeeds

theorem isSome_matchThen_of_takes (takes : pattern.Takes here taken after) (succeeds : (next after).isSome = true) :
    (pattern.matchThen next here).isSome = true := by
  induction takes generalizing next with
  | nothing => exact succeeds
  | one has => simpa only [matchThen, has, if_true] using succeeds
  | stop => exact isSome_afterMany _ succeeds
  | more has later ih =>
    have later := ih succeeds
    rw [matchThen] at later
    rw [matchThen, afterMany, if_pos has, Option.isSome_or, later, Bool.true_or]
  | seq left right left_ih right_ih => exact left_ih (right_ih succeeds)
  | left inner ih => rw [matchThen, Option.isSome_or, ih succeeds, Bool.true_or]
  | right inner ih => rw [matchThen, Option.isSome_or, ih succeeds, Bool.or_true]
  | present inner ih => rw [matchThen, Option.isSome_or, ih succeeds, Bool.true_or]
  | absent => rw [matchThen, Option.isSome_or, succeeds, Bool.or_true]
  | lineStart starts => rwa [matchThen, if_pos starts]
  | lineEnd ends => rwa [matchThen, if_pos ends]
  | wordEdge edge => rwa [matchThen, if_pos edge]
  | notBefore other => rwa [matchThen, other]

theorem matchesAt_iff : pattern.matchesAt here = true ↔ ∃ taken after, pattern.Takes here taken after := by
  constructor
  · intro found
    obtain ⟨after, found⟩ := Option.isSome_iff_exists.mp found
    obtain ⟨taken, takes⟩ := takes_of_matchEnd? found
    exact ⟨taken, after, takes⟩
  · rintro ⟨taken, after, takes⟩
    exact isSome_matchThen_of_takes takes rfl

private theorem occursFrom_iff {passed rest : List Char} (whole : text = passed ++ rest) :
    pattern.occursFrom passed.length passed.getLast? rest = true ↔
      ∃ i, passed.length ≤ i ∧ i ≤ text.length ∧ pattern.matchesAt (Text.place text i) = true := by
  have here : Text.place text passed.length = ⟨passed.length, passed.getLast?, rest⟩ := by
    rw [whole, Text.place_append]
  induction rest generalizing passed with
  | nil =>
    rw [occursFrom, ← here]
    constructor
    · exact fun found => ⟨passed.length, Nat.le_refl _, by simp [whole], found⟩
    · rintro ⟨i, after, inside, found⟩
      rw [whole, List.append_nil] at inside
      rwa [Nat.le_antisymm after inside]
  | cons c rest ih =>
    have next : text = (passed ++ [c]) ++ rest := by rw [whole, List.append_cons]
    have later := ih next (by rw [next, Text.place_append])
    rw [List.length_append, List.length_singleton, List.getLast?_concat] at later
    rw [occursFrom, ← here, Bool.or_eq_true]
    constructor
    · rintro (found | found)
      · exact ⟨passed.length, Nat.le_refl _, by simp [whole], found⟩
      · obtain ⟨i, after, inside, found⟩ := later.mp found
        exact ⟨i, Nat.le_of_succ_le after, inside, found⟩
    · rintro ⟨i, after, inside, found⟩
      rcases Nat.eq_or_lt_of_le after with rfl | behind
      · exact .inl found
      · exact .inr (later.mpr ⟨i, behind, inside, found⟩)

theorem occursIn_iff : pattern.occursIn text = true ↔
    ∃ i taken after, i ≤ text.length ∧ pattern.Takes (Text.place text i) taken after := by
  have all : pattern.occursIn text = true ↔ _ := occursFrom_iff (List.nil_append text).symm
  rw [all]
  simp only [List.length_nil, Nat.zero_le, true_and, matchesAt_iff, exists_and_left]

/-- The way in which a pattern takes characters in a text is open to it in a text with more lines around it. -/
theorem Takes.of_embeds (takes : pattern.Takes inner taken after) (ignores : pattern.ignoresNewline = true)
    (embeds : outer.Embeds shift tail inner) :
    ∃ reached, pattern.Takes outer taken reached ∧ reached.Embeds shift tail after := by
  induction takes generalizing outer with
  | nothing => exact ⟨outer, .nothing, embeds⟩
  | stop => exact ⟨outer, .stop, embeds⟩
  | absent => exact ⟨outer, .absent, embeds⟩
  | one has =>
    obtain ⟨offset, before, rest⟩ := outer
    obtain ⟨rfl, next⟩ := embeds.next
    exact ⟨_, .one has, next⟩
  | more has later ih =>
    obtain ⟨offset, before, rest⟩ := outer
    obtain ⟨rfl, next⟩ := embeds.next
    obtain ⟨reached, later, embeds⟩ := ih ignores next
    exact ⟨reached, .more has later, embeds⟩
  | seq left right left_ih right_ih =>
    obtain ⟨first, second⟩ := Bool.and_eq_true_iff.mp ignores
    obtain ⟨middle, left, embeds⟩ := left_ih first embeds
    obtain ⟨reached, right, embeds⟩ := right_ih second embeds
    exact ⟨reached, .seq left right, embeds⟩
  | left inner ih =>
    obtain ⟨reached, inner, embeds⟩ := ih (Bool.and_eq_true_iff.mp ignores).1 embeds
    exact ⟨reached, .left inner, embeds⟩
  | right inner ih =>
    obtain ⟨reached, inner, embeds⟩ := ih (Bool.and_eq_true_iff.mp ignores).2 embeds
    exact ⟨reached, .right inner, embeds⟩
  | present inner ih =>
    obtain ⟨reached, inner, embeds⟩ := ih ignores embeds
    exact ⟨reached, .present inner, embeds⟩
  | lineStart starts => exact ⟨outer, .lineStart (all_eq_of_newline embeds.before ▸ starts), embeds⟩
  | lineEnd ends => exact ⟨outer, .lineEnd (all_eq_of_newline embeds.head? ▸ ends), embeds⟩
  | wordEdge edge =>
    refine ⟨outer, .wordEdge ?_, embeds⟩
    rwa [atWordEdge, any_eq_of_newline Text.isWordChar_newline embeds.before,
      any_eq_of_newline Text.isWordChar_newline embeds.head?]
  | notBefore other =>
    refine ⟨outer, .notBefore ?_, embeds⟩
    rwa [any_eq_of_newline (by simpa [ignoresNewline, CharClass.inLine] using ignores) embeds.head?]

theorem embeds_before_line (bound : i ≤ a.length) :
    (Text.place (a ++ '\n' :: b) i).Embeds 0 ('\n' :: b) (Text.place a i) where
  offset := rfl
  before := .inl (by rw [Text.place, Text.place, List.take_append_of_le_length bound])
  rest := List.drop_append_of_le_length bound
  tail := by simp

theorem embeds_behind_line :
    (Text.place (a ++ '\n' :: b) (i + (a.length + 1))).Embeds (a.length + 1) [] (Text.place b i) where
  offset := rfl
  before := by
    have taken : (a ++ '\n' :: b).take (i + (a.length + 1)) = (a ++ ['\n']) ++ b.take i := by
      rw [List.append_cons, Nat.add_comm, ← List.length_singleton (a := '\n'), ← List.length_append,
        List.take_length_add_append]
    rw [Text.place, Text.place, taken, List.getLast?_append, List.getLast?_concat]
    cases (b.take i).getLast? with
    | none => exact .inr ⟨rfl, rfl⟩
    | some c => exact .inl rfl
  rest := by
    rw [Text.place, Text.place, List.append_cons, Nat.add_comm, ← List.length_singleton (a := '\n'),
      ← List.length_append, List.drop_length_add_append, List.append_nil]
  tail := by simp

/-- What occurs in a text still occurs if other lines are put before it or behind it. -/
theorem occursIn_append_line (ignores : pattern.ignoresNewline = true)
    (occurs : pattern.occursIn a = true ∨ pattern.occursIn b = true) : pattern.occursIn (a ++ '\n' :: b) = true := by
  apply occursIn_iff.mpr
  rcases occurs with occurs | occurs
  · obtain ⟨i, taken, after, inside, takes⟩ := occursIn_iff.mp occurs
    obtain ⟨reached, takes, _⟩ := takes.of_embeds ignores (embeds_before_line inside)
    exact ⟨i, taken, reached, by rw [List.length_append]; omega, takes⟩
  · obtain ⟨i, taken, after, inside, takes⟩ := occursIn_iff.mp occurs
    obtain ⟨reached, takes, _⟩ := takes.of_embeds ignores embeds_behind_line
    exact ⟨i + (a.length + 1), taken, reached, by rw [List.length_append, List.length_cons]; omega, takes⟩

end Pattern
end Scriptlet
