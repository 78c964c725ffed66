import Scriptlet.Proofs.Highlight.Numbers
import Scriptlet.Proofs.Pattern.Number

/-!
Numbers that stand alone. They are highlighted without the point before or behind their digits.
-/
namespace Scriptlet
open Text (Cursor FirstFrom FoundFrom)

/-- A text of which a number takes everything but points around it. -/
structure Text.IsBareNumber (text : List Char) (start stop : Nat) : Prop where
  taken : Lexicon.number.matchEnd? (place text start) = some (place text stop)
  points : ∀ k, k < text.length → k < start ∨ stop ≤ k → text[k]? = some '.'

namespace Highlight
variable {code literal : List Char} {start stop i : Nat} {span : Span} {language : Language} {lexicon : Lexicon}
variable {name : String}

/-- Where there are only characters of numbers, nothing is found to begin a comment or a string. -/
theorem not_comment_or_string_of_isNumeral (known : Lexicon.of? language = some lexicon)
    (numeral : Text.IsNumeral code 0 code.length) (member : span ∈ (claimsOf lexicon code).spans) :
    ¬ (span.kind = .comment ∨ span.kind = .string) := by
  have spares := Lexicon.sparesNumbers_of_of? known
  have sound := sound_claimsOf lexicon code
  have positive := sound.positive member
  have inside := sound.inside span member
  rw [Span.stop] at inside
  have nothing {opening : List Char} (leaves : Text.leavesNumbers opening = true)
      (stands : Text.StandsAnyCase opening code span.start) : False := by
    have outside := outside_of_stands numeral leaves stands
    omega
  have noRegion {delimiters : Delimiters} {kind : TokenKind} {onlyFree : Bool}
      (listed : delimiters ∈ lexicon.blockComment.toList ++ lexicon.blockStrings)
      (makes : (regionProposer delimiters kind onlyFree).Makes code span) : False := by
    obtain ⟨proposal, proposed, _⟩ := makes
    exact nothing (spares.opening delimiters listed) (regionProposer_eq_some_iff.mp proposed).1.anyCase
  obtain ⟨propose, listed, makes⟩ := makes_of_mem_claimsOf member
  simp only [proposers, List.mem_append, List.mem_map, List.mem_singleton] at listed
  rcases listed with ((((⟨delimiters, listed, rfl⟩ | ⟨opening, listed, rfl⟩) | ⟨delimiters, listed, rfl⟩) |
    ⟨quote, listed, rfl⟩) | rfl) | ⟨keyword, listed, rfl⟩
  · exact (noRegion (List.mem_append_left _ listed) makes).elim
  · exact (nothing (spares.line opening listed) (stands_of_makes makes).2.1).elim
  · exact (noRegion (List.mem_append_right _ listed) makes).elim
  · have other : Text.isNumeric quote = false := by simpa using List.all_eq_true.mp spares.quotes quote listed
    have outside := outside_of_not_numeric numeral (i := span.start) (by
      rw [(quoteEnds_of_makes makes).2.1, Option.any_some, other])
    omega
  · simp [kind_number makes]
  · simp [kind_keyword makes]

section
variable (bare : Text.IsBareNumber code start stop)
include bare

theorem bounds_of_isBareNumber : start < stop ∧ stop ≤ code.length := by
  obtain ⟨taken, takes⟩ := Pattern.takes_of_matchEnd? bare.taken
  have positive := (numeric_taken takes).1
  obtain ⟨rest, offset⟩ := takes.rest
  have rest : code.drop start = taken ++ code.drop stop := rest
  have offset : stop = start + taken.length := offset
  have lengths := congrArg List.length rest
  rw [List.length_append, List.length_drop, List.length_drop] at lengths
  omega

theorem isNumeral_of_isBareNumber : Text.IsNumeral code 0 code.length := by
  have numeral := isNumeral_of_matchEnd? bare.taken
  have inside {k : Nat} (last : k < code.length) (here : code[k]? ≠ some '.') : start ≤ k ∧ k < stop := by
    by_contra outside
    exact here (bare.points k last (by omega))
  constructor
  · intro i _ last
    by_cases point : code[i]? = some '.'
    · rw [point]
      decide
    · exact numeral.numeric i (inside last point).1 (inside last point).2
  · intro i _ last sign
    have own := inside last (by simp [sign])
    exact numeral.sign i own.1 own.2 sign

private theorem not_wordAt (outside : i < start ∨ stop ≤ i) : Text.wordAt code i = false := by
  by_cases inside : i < code.length
  · rw [Text.wordAt, bare.points i inside outside]
    decide
  · rw [Text.wordAt, List.getElem?_eq_none (by omega)]
    rfl

theorem mem_claimsOf_of_isBareNumber (known : Lexicon.of? language = some lexicon) :
    ⟨start, stop - start, .number⟩ ∈ (claimsOf lexicon code).spans := by
  have bounds := bounds_of_isBareNumber bare
  have found : Lexicon.number.MatchFrom code 0 start stop := by
    refine ⟨⟨Nat.zero_le start, ?_, fun k _ before matched => ?_⟩, bare.taken⟩
    · rw [Pattern.matchesAt, bare.taken]
      rfl
    · obtain ⟨after, matched⟩ := Option.isSome_iff_exists.mp matched
      obtain ⟨taken, takes⟩ := Pattern.takes_of_matchEnd? matched
      have starts := (number_taken takes).1
      rw [not_atWordEdge (by omega) (fun j next => not_wordAt bare (.inl (by omega))) (not_wordAt bare (.inl before))]
        at starts
      cases starts
  apply (mem_claimsOf_iff_foundIn rfl).mpr
  constructor
  · rw [stop_mk_sub (Nat.le_of_lt bounds.1)]
    exact .here found
  · intro other member kind
    exact absurd kind (not_comment_or_string_of_isNumeral known (isNumeral_of_isBareNumber bare) member)

/-- Among the points no number and no keyword can begin and end. -/
theorem not_apart_of_isBareNumber (known : Lexicon.of? language = some lexicon)
    (member : span ∈ (claimsOf lexicon code).spans) : ¬ span.Apart ⟨start, stop - start, .number⟩ := by
  intro apart
  have bounds := bounds_of_isBareNumber bare
  have sound := sound_claimsOf lexicon code
  have positive := sound.positive member
  have inside := sound.inside span member
  rw [Span.Apart, stop_mk_sub (Nat.le_of_lt bounds.1)] at apart
  simp only [Span.stop] at apart inside
  obtain ⟨propose, listed, makes⟩ := makes_of_mem_claimsOf member
  rcases spares_or_makes listed makes with ⟨kind, _⟩ | ⟨_, makes⟩ | ⟨keyword, listed, makes⟩
  · exact not_comment_or_string_of_isNumeral known (isNumeral_of_isBareNumber bare) member kind
  · obtain ⟨starts, ends⟩ := edges_of_makes makes
    rcases apart with before | behind
    · rw [not_atWordEdge (by omega) (fun j next => not_wordAt bare (.inl (by omega)))
        (not_wordAt bare (.inl (by omega)))] at starts
      cases starts
    · rw [Span.stop, not_atWordEdge inside (fun j next => not_wordAt bare (.inr (by omega)))
        (not_wordAt bare (.inr (by omega)))] at ends
      cases ends
  · have word := (isKeyword_of_makes known listed makes).2.word span.start (Nat.le_refl _) (by rw [Span.stop]; omega)
    rw [not_wordAt bare (by omega)] at word
    cases word

theorem spans_of_isBareNumber (known : Lexicon.of? language = some lexicon) :
    (claimsOf lexicon code).spans = [⟨start, stop - start, .number⟩] :=
  (sound_claimsOf lexicon code).eq_singleton (mem_claimsOf_of_isBareNumber bare known)
    fun _ => not_apart_of_isBareNumber bare known

end

theorem isBareNumber_of_isNumberLiteral (isLiteral : IsNumberLiteral literal) :
    Text.IsBareNumber literal (bareStart literal) (bareStop literal) := by
  refine ⟨Lexicon.matchEnd?_of_isNumberLiteral isLiteral, fun k inside outside => ?_⟩
  rcases outside with before | behind
  · unfold bareStart at before
    split at before
    next point =>
      obtain rfl : k = 0 := by omega
      rwa [← List.head?_eq_getElem?]
    next => omega
  · unfold bareStop at behind
    split at behind
    next point =>
      rw [List.getLast?_eq_getElem?] at point
      obtain rfl : k = literal.length - 1 := by omega
      exact point
    next => omega

/-- In every language that is highlighted, a number that stands alone is highlighted without the point at its front
or at its end, and so as a whole if and only if it neither begins nor ends with a point. -/
theorem analyze_number_literal (parsed : Language.parse? name = some language)
    (known : Lexicon.of? language = some lexicon) (isLiteral : IsNumberLiteral literal) :
    analyze (some (String.ofList literal)) (some name) =
        [⟨bareStart literal, bareStop literal - bareStart literal, .number⟩] ∧
      (analyze (some (String.ofList literal)) (some name) = [⟨0, literal.length, .number⟩] ↔
        literal.head? ≠ some '.' ∧ literal.getLast? ≠ some '.') := by
  have bare := isBareNumber_of_isNumberLiteral isLiteral
  have bounds := bounds_of_isBareNumber bare
  have whole : analyze (some (String.ofList literal)) (some name) =
      [⟨bareStart literal, bareStop literal - bareStart literal, .number⟩] := by
    rw [analyze_eq_singleton_iff parsed known, String.toList_ofList]
    exact spans_of_isBareNumber bare known
  have first : bareStart literal = 0 ↔ literal.head? ≠ some '.' := by
    rw [bareStart, ite_eq_right_iff]
    simp
  have last : bareStop literal = literal.length ↔ literal.getLast? ≠ some '.' := by
    rw [bareStop, ite_eq_right_iff]
    exact imp_congr_right fun _ => iff_false_intro (by omega)
  refine ⟨whole, ?_⟩
  rw [whole, ← first, ← last]
  simp only [List.cons.injEq, and_true, Span.mk.injEq]
  omega

theorem analyze_number_literal_power :
    Language.parse? "Python" = some .python ∧ Lexicon.of? .python = some .python ∧
      IsNumberLiteral ['1', '.', '5', 'e', '-', '3'] ∧
      analyze (some (String.ofList ['1', '.', '5', 'e', '-', '3'])) (some "Python") = [⟨0, 6, .number⟩] := by
  have parsed : Language.parse? "Python" = some .python := by decide +kernel
  have power : IsExponent ['e', '-', '3'] :=
    @IsExponent.some 'e' ['-'] ['3'] (by decide) (.inr ⟨'-', by decide, rfl⟩) (by decide) (by decide +kernel)
  have isLiteral : IsNumberLiteral ['1', '.', '5', 'e', '-', '3'] :=
    @IsNumberLiteral.point ['1'] ['5'] _ (by decide) (by decide +kernel) (by decide +kernel) power
  exact ⟨parsed, rfl, isLiteral, (analyze_number_literal parsed rfl isLiteral).2.mpr (by decide)⟩

/-- Neither the point of `.5` nor that of `5.` is highlighted. -/
theorem analyze_misses_point :
    Language.parse? "Python" = some .python ∧ Lexicon.of? .python = some .python ∧
      IsNumberLiteral ['.', '5'] ∧ analyze (some ".5") (some "Python") = [⟨1, 1, .number⟩] ∧
      analyze (some ".5") (some "Python") ≠ [⟨0, 2, .number⟩] ∧
      IsNumberLiteral ['5', '.'] ∧ analyze (some "5.") (some "Python") = [⟨0, 1, .number⟩] ∧
      analyze (some "5.") (some "Python") ≠ [⟨0, 2, .number⟩] := by
  have parsed : Language.parse? "Python" = some .python := by decide +kernel
  have front : analyze (some ".5") (some "Python") = [⟨1, 1, .number⟩] :=
    (analyze_eq_singleton_iff parsed rfl _).mpr (by decide +kernel)
  have back : analyze (some "5.") (some "Python") = [⟨0, 1, .number⟩] :=
    (analyze_eq_singleton_iff parsed rfl _).mpr (by decide +kernel)
  have five : IsDigits ['5'] := by decide +kernel
  have fraction : IsNumberLiteral ['.', '5'] := @IsNumberLiteral.fraction ['5'] [] (by decide) five .none
  have point : IsNumberLiteral ['5', '.'] := @IsNumberLiteral.point ['5'] [] [] (by decide) five (by decide) .none
  exact ⟨parsed, rfl, fraction, front, front ▸ by decide, point, back, back ▸ by decide⟩

end Highlight
end Scriptlet
