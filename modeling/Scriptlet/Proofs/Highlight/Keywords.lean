import Scriptlet.Proofs.Highlight.Retries
import Scriptlet.Proofs.Highlight.Words

/-!
Exactly which keywords are highlighted. A number either holds at most one letter, fewer than a keyword, or
is a word itself that begins with a digit, so numbers never meet keywords; and as nothing cuts a keyword, only
a comment or a string that contains it can take it.
-/
namespace Scriptlet
open Text (Cursor EdgeAt wordAt)

/-- Whether a class has no characters of a kind, as far as its characters are listed. -/
def CharClass.avoids (kind : Char → Bool) : CharClass → Bool
  | exactly c => !kind c
  | among chars => chars.all fun c => !kind c
  | _ => false

theorem CharClass.avoids_spec (kind : Char → Bool) (chars : CharClass) (c : Char)
    (avoids : chars.avoids kind = true) (has : chars.has c = true) : kind c = false := by
  cases chars with
  | exactly wanted =>
    simp only [CharClass.has, decide_eq_true_eq] at has
    simpa [CharClass.avoids, has] using avoids
  | among chars =>
    simp only [CharClass.avoids, List.all_eq_true] at avoids
    simpa using avoids c (by simpa [CharClass.has] using has)
  | _ => cases avoids

def CharClass.digitOrAvoids (kind : Char → Bool) (chars : CharClass) : Bool := chars = .digit || chars.avoids kind

theorem CharClass.digitOrAvoids_spec {kind : Char → Bool} (digits : ∀ c, Text.isDecimal c = true → kind c = false)
    (chars : CharClass) (c : Char) (avoids : chars.digitOrAvoids kind = true) (has : chars.has c = true) :
    kind c = false := by
  simp only [CharClass.digitOrAvoids, Bool.or_eq_true, decide_eq_true_eq] at avoids
  cases avoids with
  | inl digit =>
    rw [digit] at has
    exact digits c has
  | inr avoids => exact CharClass.avoids_spec kind chars c avoids has

namespace Highlight
variable {here after : Cursor} {taken code : List Char} {span word : Span} {language : Language} {lexicon : Lexicon}

private theorem isLetterlike_of_isDecimal (c : Char) (decimal : Text.isDecimal c = true) :
    Text.isLetterlike c = false := by
  rw [Text.isLetterlike, decimal, Bool.not_true, Bool.and_false]

/-- The ways to write a number: three with a mark of their base after a zero, and two in base ten. -/
private theorem number_shape : ∃ hexadecimal binary octal decimal fraction : Pattern,
    Lexicon.number = .seq (.seq .wordEdge (.either hexadecimal (.either binary (.either octal
      (.either decimal fraction))))) .wordEdge ∧
    (∀ based ∈ [hexadecimal, binary, octal], based.first? = some (.exactly '0') ∧
      based.most? (CharClass.avoids fun c => !Text.isWordChar c) = some 0) ∧
    ∀ plain ∈ [decimal, fraction], plain.most? (CharClass.digitOrAvoids Text.isLetterlike) = some 1 :=
  ⟨_, _, _, _, _, rfl, by decide +kernel, by decide +kernel⟩

private theorem based_taken {based : Pattern} (takes : based.Takes here taken after)
    (shape : based.first? = some (.exactly '0') ∧
      based.most? (CharClass.avoids fun c => !Text.isWordChar c) = some 0) :
    (∀ c ∈ taken, Text.isWordChar c = true) ∧ '0' ∈ taken.head? := by
  refine ⟨fun c member => ?_, ?_⟩
  · have none := takes.countP_le (CharClass.avoids_spec _) shape.2
    have other := List.countP_eq_zero.mp (Nat.le_zero.mp none) c member
    simpa using other
  · obtain ⟨c, rest, rfl, has⟩ := takes.first shape.1
    simpa [CharClass.has] using has

theorem number_taken (takes : Lexicon.number.Takes here taken after) :
    Pattern.atWordEdge here = true ∧ Pattern.atWordEdge after = true ∧
      (taken.countP Text.isLetterlike ≤ 1 ∨
        (∀ c ∈ taken, Text.isWordChar c = true) ∧ '0' ∈ taken.head?) := by
  obtain ⟨hexadecimal, binary, octal, decimal, fraction, shape, based, plain⟩ := number_shape
  rw [shape] at takes
  cases takes with | seq left right =>
  cases left with | seq edge inner =>
  cases edge with | wordEdge starts =>
  cases right with | wordEdge ends =>
  rw [List.append_nil, List.nil_append]
  refine ⟨starts, ends, ?_⟩
  have count {pattern : Pattern} (listed : pattern ∈ [decimal, fraction]) {taken : List Char} {here after : Cursor}
      (takes : pattern.Takes here taken after) : taken.countP Text.isLetterlike ≤ 1 :=
    takes.countP_le (CharClass.digitOrAvoids_spec isLetterlike_of_isDecimal) (plain pattern listed)
  cases inner with
  | left takes => exact .inr (based_taken takes (based _ (by simp)))
  | right inner =>
    cases inner with
    | left takes => exact .inr (based_taken takes (based _ (by simp)))
    | right inner =>
      cases inner with
      | left takes => exact .inr (based_taken takes (based _ (by simp)))
      | right inner =>
        cases inner with
        | left takes => exact .inl (count (by simp) takes)
        | right takes => exact .inl (count (by simp) takes)

private theorem edgeAt_of_atWordEdge {i : Nat} (edge : Pattern.atWordEdge (Text.place code i) = true) :
    EdgeAt code i := by
  apply Text.edgeAt_of_sides
  rw [Pattern.atWordEdge, bne_iff_ne] at edge
  rw [Bool.and_eq_false_iff]
  by_contra both
  simp only [not_or, Bool.not_eq_false] at both
  exact edge (both.1.trans both.2.symm)

theorem length_of_readsAs {keyword word : List Char} (reads : language.ReadsAs keyword word) :
    word.length = keyword.length := by
  simpa using congrArg List.length (fold_of_readsAs reads)

theorem isLetterlike_of_mem_chars (separates : lexicon.Separates) (isKeyword : word.IsKeyword language lexicon code)
    {c : Char} (member : c ∈ word.chars code) : Text.isLetterlike c = true := by
  obtain ⟨keyword, known, reads⟩ := isKeyword.reads
  have folded : Text.foldChar c ∈ keyword.toList.map Text.foldChar :=
    fold_of_readsAs reads ▸ List.mem_map_of_mem member
  obtain ⟨w, inside, same⟩ := List.mem_map.mp folded
  have letter := List.all_eq_true.mp (separates.letters keyword known) w inside
  rw [Text.isLetterlike, ← Text.isWordChar_foldChar, ← Text.isDecimal_foldChar] at letter ⊢
  rwa [← same]

/-- The characters of a span that lies in another one are some of its characters. -/
theorem chars_sublist (start : span.start ≤ word.start) (stop : word.stop ≤ span.stop) :
    (word.chars code).Sublist (span.chars code) := by
  obtain ⟨d, shift⟩ := Nat.exists_eq_add_of_le start
  simp only [Span.stop] at stop
  have part : word.chars code = ((span.chars code).take (d + word.length)).drop d := by
    rw [Span.chars, Span.chars, List.take_take, Nat.min_eq_left (by omega), ← List.take_drop, List.drop_drop, shift]
  rw [part]
  exact (List.drop_sublist _ _).trans (List.take_sublist _ _)

private theorem mem_chars {i : Nat} {c : Char} (first : span.start ≤ i) (last : i < span.stop)
    (here : code[i]? = some c) : c ∈ span.chars code := by
  obtain ⟨k, rfl⟩ := Nat.exists_eq_add_of_le first
  rw [Span.stop] at last
  apply List.mem_of_getElem? (i := k)
  rw [Span.chars, List.getElem?_take_of_lt (by omega), List.getElem?_drop, here]

/-- A word in a span of word characters begins with the span. -/
theorem start_eq_of_allWord (isWord : word.IsWord code) (first : span.start ≤ word.start)
    (last : word.stop ≤ span.stop) (allWord : ∀ c ∈ span.chars code, Text.isWordChar c = true) :
    span.start = word.start := by
  apply Nat.le_antisymm first
  by_contra later
  have positive := isWord.positive
  have stop := isWord.stop_le
  rw [Span.stop] at last stop
  obtain ⟨j, next⟩ : ∃ j, j + 1 = word.start := ⟨word.start - 1, by omega⟩
  have here := List.getElem?_eq_getElem (l := code) (i := j) (by omega)
  have before := isWord.before j next
  rw [wordAt, here, Option.any_some, allWord _ (mem_chars (by omega) (by omega) here)] at before
  cases before

theorem edges_of_makes (makes : numberProposer.Makes code span) :
    Pattern.atWordEdge (Text.place code span.start) = true ∧ Pattern.atWordEdge (Text.place code span.stop) = true := by
  obtain ⟨proposal, proposed, length, _⟩ := makes
  obtain ⟨stop, found, rfl⟩ := Option.map_eq_some_iff.mp proposed
  obtain ⟨taken, takes⟩ := Pattern.takes_of_matchEnd? found
  obtain ⟨starts, ends, _⟩ := number_taken takes
  have forward : span.start ≤ stop.offset := (Pattern.matchEnd?_bounds found).1
  have length : stop.offset - span.start = span.length := length
  have reached : span.stop = stop.offset := by
    rw [Span.stop]
    omega
  rw [reached, Pattern.place_of_matchEnd? found]
  exact ⟨starts, ends⟩

theorem taken_of_makes (makes : numberProposer.Makes code span) :
    (span.chars code).countP Text.isLetterlike ≤ 1 ∨
      (∀ c ∈ span.chars code, Text.isWordChar c = true) ∧ '0' ∈ (span.chars code).head? := by
  obtain ⟨proposal, proposed, length, _⟩ := makes
  obtain ⟨stop, found, rfl⟩ := Option.map_eq_some_iff.mp proposed
  obtain ⟨taken, takes⟩ := Pattern.takes_of_matchEnd? found
  obtain ⟨rest, offset⟩ := takes.rest
  have rest : code.drop span.start = taken ++ stop.rest := rest
  have offset : stop.offset = span.start + taken.length := offset
  have length : stop.offset - span.start = span.length := length
  have whole : span.chars code = taken := by
    rw [Span.chars, rest, List.take_left' (by omega)]
  rw [whole]
  exact (number_taken takes).2.2

/-- No number meets a keyword. -/
theorem apart_of_number (separates : lexicon.Separates) (makes : numberProposer.Makes code span)
    (isKeyword : word.IsKeyword language lexicon code) : span.Apart word := by
  obtain ⟨starts, ends⟩ := edges_of_makes makes
  have spares : span.Spares word := by
    apply Span.spares_of_uncutAt
    · exact isKeyword.uncutAt (edgeAt_of_atWordEdge starts)
    · exact isKeyword.uncutAt (edgeAt_of_atWordEdge ends)
  rcases spares with apart | ⟨first, last⟩
  · exact apart
  -- A keyword inside the number would be two letters or more of it, or begin with its zero.
  exfalso
  have letters : ∀ c ∈ word.chars code, Text.isLetterlike c = true :=
    fun c => isLetterlike_of_mem_chars separates isKeyword
  have inside : (word.chars code).Sublist (span.chars code) := chars_sublist first last
  have positive := isKeyword.positive
  rcases taken_of_makes makes with few | ⟨allWord, zero⟩
  · obtain ⟨keyword, known, reads⟩ := isKeyword.reads
    have long := separates.long keyword known
    rw [← length_of_readsAs reads, ← List.countP_eq_length.mpr letters] at long
    have := inside.countP_le (p := Text.isLetterlike)
    omega
  · have same := start_eq_of_allWord isKeyword.toIsWord first last allWord
    have filled : span.length ≠ 0 := by
      rw [Span.stop, Span.stop] at last
      omega
    have here : code[word.start]? = some '0' := by
      rw [Span.chars, List.head?_take, if_neg filled, List.head?_drop, same] at zero
      exact zero
    have letter := letters '0' (mem_chars (Nat.le_refl _) (by rw [Span.stop]; omega) here)
    revert letter
    decide

private theorem anyCase_iff (known : Lexicon.of? language = some lexicon) :
    lexicon.keywordsAnyCase = true ↔ language = .bat ∨ language = .powershell := by
  cases language <;> cases known <;> decide

theorem stands_iff (known : Lexicon.of? language = some lexicon) (keyword text : List Char) :
    (if lexicon.keywordsAnyCase then startsAnyCase keyword text else keyword.isPrefixOf text) = true ↔
      language.ReadsAs keyword (text.take keyword.length) := by
  unfold Language.ReadsAs
  by_cases anyCase : lexicon.keywordsAnyCase = true
  · rw [if_pos anyCase, if_pos ((anyCase_iff known).mp anyCase), startsAnyCase_iff]
  · rw [if_neg anyCase, if_neg (mt (anyCase_iff known).mpr anyCase), List.isPrefixOf_iff_prefix,
      List.prefix_iff_eq_take, eq_comm]

/-- A keyword stands where a word is spelled as it. -/
theorem isKeywordAt_place_iff (known : Lexicon.of? language = some lexicon) {keyword : String}
    (listed : keyword ∈ lexicon.keywords) (length : span.length = keyword.toList.length) :
    isKeywordAt keyword.toList lexicon.keywordsAnyCase (Text.place code span.start) = true ↔
      span.IsWord code ∧ language.ReadsAs keyword.toList (span.chars code) := by
  have separates := Lexicon.separates_of_of? known
  have after : ((code.drop span.start).drop keyword.toList.length).head?.any Text.isWordChar =
      wordAt code span.stop := by
    rw [List.drop_drop, Text.head?_drop_any, Span.stop, length]
  simp only [isKeywordAt, Bool.and_eq_true, stands_iff known, Bool.not_eq_true', Text.place, after]
  rw [Span.chars, length]
  constructor
  · intro stands
    obtain ⟨⟨reads, before⟩, after⟩ := stands
    refine ⟨⟨?_, ?_, ?_, after⟩, reads⟩
    · have long := separates.long keyword listed
      omega
    · intro i first last
      obtain ⟨k, rfl⟩ := Nat.exists_eq_add_of_le first
      rw [Span.stop] at last
      have bound : k < keyword.toList.length := by omega
      rw [wordAt_of_startsAnyCase (startsAnyCase_iff.mpr (fold_of_readsAs reads)) bound, wordAt,
        List.getElem?_eq_getElem bound, Option.any_some]
      have letter := List.all_eq_true.mp (separates.letters keyword listed) _ (List.getElem_mem bound)
      exact (Bool.and_eq_true_iff.mp letter).1
    · intro j next
      by_contra word
      rw [Text.wordAt_before next (Bool.not_eq_false _ ▸ word)] at before
      cases before
  · intro written
    obtain ⟨isWord, reads⟩ := written
    refine ⟨⟨reads, ?_⟩, isWord.after⟩
    have inside := isWord.stop_le
    rw [Span.stop] at inside
    rw [← Bool.not_eq_true, Text.getLast?_take_any_iff (by omega)]
    intro preceded
    obtain ⟨j, next, word⟩ := preceded
    rw [isWord.before j next] at word
    cases word

theorem isKeyword_of_makes (known : Lexicon.of? language = some lexicon) {keyword : String}
    (listed : keyword ∈ lexicon.keywords)
    (makes : (keywordProposer keyword.toList lexicon.keywordsAnyCase).Makes code span) :
    span.kind = .keyword ∧ span.IsKeyword language lexicon code := by
  obtain ⟨proposal, proposed, length, kind⟩ := makes
  obtain ⟨stands, same⟩ := Option.ite_none_right_eq_some.mp proposed
  obtain rfl := Option.some.inj same
  obtain ⟨isWord, reads⟩ := (isKeywordAt_place_iff known listed length.symm).mp stands
  exact ⟨kind.symm, isWord, keyword, listed, reads⟩

theorem patient_keywordProposer {keyword : List Char} (some : 0 < keyword.length) (anyCase : Bool) :
    (keywordProposer keyword anyCase).Patient := by
  intro here proposal proposed
  obtain ⟨_, same⟩ := Option.ite_none_right_eq_some.mp proposed
  obtain rfl := Option.some.inj same
  exact ⟨some, rfl, rfl, rfl⟩

/-- Every keyword is highlighted or met by another span. -/
theorem exists_met_of_isKeyword (known : Lexicon.of? language = some lexicon)
    (isKeyword : word.IsKeyword language lexicon code) :
    ∃ span ∈ (claimsOf lexicon code).spans, ¬ span.Apart word := by
  obtain ⟨keyword, listed, reads⟩ := isKeyword.reads
  have length := length_of_readsAs reads
  rw [isKeyword.length_chars] at length
  have stands := (isKeywordAt_place_iff known listed length).mpr ⟨isKeyword.toIsWord, reads⟩
  have proposed : keywordProposer keyword.toList lexicon.keywordsAnyCase (Text.place code word.start) =
      some ⟨.keyword, keyword.toList.length, false, 0, 0⟩ := if_pos stands
  have member : keywordProposer keyword.toList lexicon.keywordsAnyCase ∈ proposers lexicon :=
    List.mem_append_right _ (List.mem_map_of_mem listed)
  have positive := isKeyword.positive
  have inside := isKeyword.stop_le
  rw [Span.stop] at inside
  rw [claimsOf_eq_walkAll]
  obtain ⟨span, found, met⟩ := exists_met_walkAll (fun _ => bounded_of_mem_proposers) (Claims.sound_empty code.length)
    member (patient_keywordProposer (by omega) _).retries (by omega) proposed
  refine ⟨span, found, fun apart => met ?_⟩
  simp only [Span.Apart, Span.stop] at apart ⊢
  omega

theorem makes_of_mem_claimsOf (member : span ∈ (claimsOf lexicon code).spans) :
    ∃ propose ∈ proposers lexicon, propose.Makes code span := by
  rw [claimsOf_eq_walkAll] at member
  rcases makes_of_mem_walkAll member with old | made
  · cases old
  · exact made

theorem overlaps_eq_false_iff {a b : Span} : a.overlaps b = false ↔ a.Apart b := by
  simp only [Span.overlaps, Span.Apart, Bool.and_eq_false_iff, decide_eq_false_iff_not]
  omega

/-- An accepted span that meets a keyword is the keyword, or a comment or a string that contains it. -/
theorem eq_or_contains_of_met (known : Lexicon.of? language = some lexicon)
    (member : span ∈ (claimsOf lexicon code).spans) (isKeyword : word.IsKeyword language lexicon code)
    (met : ¬ span.Apart word) :
    span.kind = .keyword ∧ span.start = word.start ∧ span.length = word.length ∨
      (span.kind = .comment ∨ span.kind = .string) ∧ span.start ≤ word.start ∧ word.stop ≤ span.stop := by
  have separates := Lexicon.separates_of_of? known
  obtain ⟨propose, listed, makes⟩ := makes_of_mem_claimsOf member
  rcases makes_cases language separates listed makes with
    ⟨kind, spares⟩ | ⟨_, makes⟩ | ⟨keyword, listed, makes⟩
  · exact .inr ⟨kind, (spares word isKeyword).resolve_left met⟩
  · exact absurd (apart_of_number separates makes isKeyword) met
  · obtain ⟨kind, own⟩ := isKeyword_of_makes known listed makes
    exact .inl ⟨kind, own.toIsWord.unique isKeyword.toIsWord met⟩

/-- In every text and every language that is highlighted, exactly the words that are spelled as keywords and
that no comment and no string meets are highlighted as keywords, and a comment or a string that meets such a
word contains all of it. -/
theorem analyze_keywords {name : String} {language : Language} {lexicon : Lexicon}
    (parsed : Language.parse? name = some language) (known : Lexicon.of? language = some lexicon) (code : String)
    (start length : Nat) :
    (⟨start, length, .keyword⟩ ∈ analyze (some code) (some name) ↔
      Span.IsKeyword ⟨start, length, .keyword⟩ language lexicon code.toList ∧
        ∀ span ∈ analyze (some code) (some name), span.kind = .comment ∨ span.kind = .string →
          span.overlaps ⟨start, length, .keyword⟩ = false) ∧
    (Span.IsKeyword ⟨start, length, .keyword⟩ language lexicon code.toList →
      ∀ span ∈ analyze (some code) (some name), span.kind = .comment ∨ span.kind = .string →
        span.overlaps ⟨start, length, .keyword⟩ = true → span.start ≤ start ∧ start + length ≤ span.stop) := by
  have sound := sound_claimsOf lexicon code.toList
  have spans (span : Span) : span ∈ analyze (some code) (some name) ↔
      span ∈ (claimsOf lexicon code.toList).spans := by
    simp only [analyze, Option.bind_some, parsed, analyzeAs, known, Option.getD_some, List.mem_mergeSort]
  simp only [spans]
  refine ⟨⟨?highlighted, ?complete⟩, ?contained⟩
  case highlighted =>
    intro member
    constructor
    · obtain ⟨propose, listed, makes⟩ := makes_of_mem_claimsOf member
      rcases makes_cases language (Lexicon.separates_of_of? known) listed makes with
        ⟨kind, _⟩ | ⟨kind, _⟩ | ⟨keyword, listed, makes⟩
      · simp at kind
      · cases kind
      · exact (isKeyword_of_makes known listed makes).2
    · intro span other kind
      apply overlaps_eq_false_iff.mpr
      apply sound.apart.forall other member
      intro same
      rw [same] at kind
      simp at kind
  case complete =>
    intro unmet
    obtain ⟨isKeyword, clear⟩ := unmet
    obtain ⟨span, member, met⟩ := exists_met_of_isKeyword known isKeyword
    rcases eq_or_contains_of_met known member isKeyword met with ⟨kind, first, long⟩ | ⟨kind, _⟩
    · obtain ⟨_, _, _⟩ := span
      cases kind
      cases first
      cases long
      exact member
    · exact absurd (overlaps_eq_false_iff.mp (clear span member kind)) met
  case contained =>
    intro isKeyword span member kind meets
    have met : ¬ span.Apart ⟨start, length, .keyword⟩ := by
      intro apart
      rw [overlaps_eq_false_iff.mpr apart] at meets
      cases meets
    rcases eq_or_contains_of_met known member isKeyword met with ⟨other, _⟩ | ⟨_, inside⟩
    · rw [other] at kind
      simp at kind
    · exact inside

private theorem isKeyword_if : Span.IsKeyword ⟨0, 2, .keyword⟩ .python .python "if x: 'in'".toList where
  positive := by decide
  word i _ last := by
    have bound : i < 2 := last
    have all : ∀ i < 2, wordAt "if x: 'in'".toList i = true := by decide
    exact all i bound
  before i next := by cases next
  after := by decide
  reads := ⟨"if", by decide, rfl⟩

theorem analyze_keywords_python :
    Language.parse? "Python" = some .python ∧ Lexicon.of? .python = some .python ∧
      Span.IsKeyword ⟨0, 2, .keyword⟩ .python .python "if x: 'in'".toList ∧
      (⟨0, 2, .keyword⟩ ∈ analyze (some "if x: 'in'") (some "Python") ↔
        ∀ span ∈ analyze (some "if x: 'in'") (some "Python"), span.kind = .comment ∨ span.kind = .string →
          span.overlaps ⟨0, 2, .keyword⟩ = false) := by
  have parsed : Language.parse? "Python" = some .python := by decide +kernel
  have exactly := (analyze_keywords parsed rfl "if x: 'in'" 0 2).1
  exact ⟨parsed, rfl, isKeyword_if, exactly.trans ⟨And.right, fun clear => ⟨isKeyword_if, clear⟩⟩⟩

end Highlight
end Scriptlet
