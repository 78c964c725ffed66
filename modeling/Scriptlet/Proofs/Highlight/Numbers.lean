import Scriptlet.Proofs.Highlight.Keywords

/-!
Exactly which numbers are highlighted. The third pass proposes the matches of one pattern from left to right. No
comment and no string begins or ends inside such a match, as none of their opening and closing texts has a part
in a number except for the minus sign, of which a number has one at most.
-/
namespace Scriptlet
open Text (Cursor FirstFrom FoundFrom StandsAt StandsAnyCase LineEndAt)

structure Pattern.MatchFrom (pattern : Pattern) (code : List Char) (i start stop : Nat) : Prop where
  first : FirstFrom (fun k => pattern.matchesAt (Text.place code k) = true) i start
  ends : pattern.matchEnd? (Text.place code start) = some (Text.place code stop)

/-- The matches of a pattern from left to right, each behind the one before. -/
def Pattern.FoundIn (pattern : Pattern) (code : List Char) (start stop : Nat) : Prop :=
  FoundFrom (pattern.MatchFrom code) 0 start stop

def Text.isNumeric (c : Char) : Bool := isDecimal c || "xXabcdefABCDEFoO.+-".toList.contains c

theorem Text.isNumeric_foldChar (c : Char) : isNumeric (foldChar c) = isNumeric c :=
  foldChar_congr (toLower_congr (by decide +kernel)) (by decide +kernel) c

/-- Whether nothing that begins with a text can begin inside a number. -/
def Text.leavesNumbers (opening : List Char) : Bool :=
  opening.head?.any (!isNumeric ·) || "--".toList.isPrefixOf opening

/-- What a lexicon has to be like for its comments and strings to leave numbers whole. -/
structure Lexicon.SparesNumbers (lexicon : Lexicon) : Prop where
  opening : ∀ delimiters ∈ lexicon.blockComment.toList ++ lexicon.blockStrings,
    Text.leavesNumbers delimiters.opening.toList = true
  closing : ∀ delimiters ∈ lexicon.blockComment.toList ++ lexicon.blockStrings,
    delimiters.closing.toList.getLast?.any (!Text.isNumeric ·) = true
  line : ∀ opening ∈ lexicon.lineComments, Text.leavesNumbers opening.toList = true
  quotes : lexicon.quotes.all (!Text.isNumeric ·) = true

theorem Lexicon.sparesNumbers_of_of? {language : Language} {lexicon : Lexicon}
    (known : Lexicon.of? language = some lexicon) : lexicon.SparesNumbers := by
  cases language <;> cases known
  all_goals
    constructor <;> decide +kernel

/-- A place with the characters of a number from `start` to `stop`, of which no minus sign is before another. -/
structure Text.IsNumeral (code : List Char) (start stop : Nat) : Prop where
  numeric : ∀ i, start ≤ i → i < stop → code[i]?.any isNumeric = true
  sign : ∀ i, start ≤ i → i < stop → code[i]? = some '-' → code[i + 1]? ≠ some '-'

namespace Highlight
variable {here after : Cursor} {taken code : List Char} {span word : Span} {language : Language} {lexicon : Lexicon}
variable {claims : Claims} {i start stop : Nat} {name : String}

private theorem number_counts : Lexicon.number.least = 1 ∧
    Lexicon.number.most? (CharClass.digitOrAvoids (!Text.isNumeric ·)) = some 0 ∧
    Lexicon.number.most? (CharClass.digitOrAvoids (· = '-')) = some 1 := by
  decide +kernel

theorem numeric_taken (takes : Lexicon.number.Takes here taken after) :
    0 < taken.length ∧ (∀ c ∈ taken, Text.isNumeric c = true) ∧ taken.countP (· = '-') ≤ 1 := by
  obtain ⟨least, others, signs⟩ := number_counts
  have numeric (c : Char) (decimal : Text.isDecimal c = true) : (!Text.isNumeric c) = false := by
    rw [Text.isNumeric, decimal]
    rfl
  have noSign (c : Char) (decimal : Text.isDecimal c = true) : decide (c = '-') = false := by
    apply decide_eq_false
    rintro rfl
    revert decimal
    decide
  refine ⟨Nat.lt_of_lt_of_le (least ▸ Nat.zero_lt_one) takes.least_le, fun c member => ?_,
    takes.countP_le (CharClass.digitOrAvoids_spec noSign) signs⟩
  have none := takes.countP_le (CharClass.digitOrAvoids_spec numeric) others
  simpa using List.countP_eq_zero.mp (Nat.le_zero.mp none) c member

theorem not_atWordEdge (bound : i ≤ code.length) (before : ∀ j, j + 1 = i → Text.wordAt code j = false)
    (here : Text.wordAt code i = false) : Pattern.atWordEdge (Text.place code i) = false := by
  have first : (code.take i).getLast?.any Text.isWordChar = false := by
    rw [Bool.eq_false_iff, ne_eq, Text.getLast?_take_any_iff bound]
    rintro ⟨j, next, word⟩
    rw [before j next] at word
    cases word
  have second : (code.drop i).head?.any Text.isWordChar = false := by rw [Text.head?_drop_any, here]
  rw [Pattern.atWordEdge, Text.place, first, second, bne_self_eq_false]

private theorem not_atWordEdge_of_signs (before : code[i]? = some '-') (next : code[i + 1]? = some '-') :
    Pattern.atWordEdge (Text.place code (i + 1)) = false := by
  have sign {j : Nat} (here : code[j]? = some '-') : Text.wordAt code j = false := by
    rw [Text.wordAt, here]
    decide
  apply not_atWordEdge (Nat.le_of_lt (List.getElem?_eq_some_iff.mp next).1) _ (sign next)
  intro j same
  obtain rfl : j = i := Nat.succ.inj same
  exact sign before

theorem isNumeral_of_matchEnd?
    (found : Lexicon.number.matchEnd? (Text.place code start) = some (Text.place code stop)) :
    Text.IsNumeral code start stop := by
  obtain ⟨taken, takes⟩ := Pattern.takes_of_matchEnd? found
  obtain ⟨-, numeric, signs⟩ := numeric_taken takes
  obtain ⟨-, ends, -⟩ := number_taken takes
  obtain ⟨rest, offset⟩ := takes.rest
  have rest : code.drop start = taken ++ code.drop stop := rest
  have offset : stop = start + taken.length := offset
  have inside (k : Nat) (bound : k < taken.length) : code[start + k]? = some taken[k] := by
    rw [← List.getElem?_drop, rest, List.getElem?_append_left bound, List.getElem?_eq_getElem bound]
  refine ⟨fun i first last => ?_, fun i first last here next => ?_⟩
  · obtain ⟨k, rfl⟩ := Nat.exists_eq_add_of_le first
    have bound : k < taken.length := by omega
    rw [inside k bound, Option.any_some, numeric _ (List.getElem_mem bound)]
  · obtain ⟨k, rfl⟩ := Nat.exists_eq_add_of_le first
    -- A second sign behind the number would leave no edge of a word there; in the number it is one too many.
    by_cases atEnd : start + k + 1 = stop
    · rw [← atEnd, not_atWordEdge_of_signs here next] at ends
      cases ends
    · have bound : k + 1 < taken.length := by omega
      rw [inside k (by omega), Option.some.injEq] at here
      rw [Nat.add_assoc, inside (k + 1) bound, Option.some.injEq] at next
      have both := (List.drop_sublist k taken).countP_le (p := (· = '-'))
      rw [List.drop_eq_getElem_cons (by omega), List.drop_eq_getElem_cons bound, here, next] at both
      simp only [List.countP_cons, decide_true, if_true] at both
      omega

section
variable (numeral : Text.IsNumeral code start stop)
include numeral

theorem outside_of_not_numeric (other : code[i]?.any Text.isNumeric = false) : i < start ∨ stop ≤ i := by
  by_contra inside
  rw [not_or, Nat.not_lt, Nat.not_le] at inside
  rw [numeral.numeric i inside.1 inside.2] at other
  cases other

/-- Nothing that leaves numbers whole begins at a place of one. -/
theorem outside_of_stands {opening : List Char} (leaves : Text.leavesNumbers opening = true)
    (stands : StandsAnyCase opening code i) : i < start ∨ stop ≤ i := by
  rcases Bool.or_eq_true_iff.mp leaves with first | minus
  · obtain ⟨w, isFirst, other⟩ := (Option.any_eq_true _ _).mp first
    obtain ⟨rest, rfl⟩ := List.head?_eq_some_iff.mp isFirst
    have here := Text.getElem?_of_standsAnyCase stands (Nat.zero_lt_succ _)
    obtain ⟨c, here, same⟩ := Option.map_eq_some_iff.mp here
    apply outside_of_not_numeric numeral
    rw [← Nat.add_zero i, here, Option.any_some, ← Text.isNumeric_foldChar, same, Text.isNumeric_foldChar]
    simpa using other
  · obtain ⟨rest, rfl⟩ := List.isPrefixOf_iff_prefix.mp minus
    have sign (k : Nat) (bound : k < 2) : code[i + k]? = some '-' := by
      have here := Text.getElem?_of_standsAnyCase (k := k) stands (by simp; omega)
      have minus : ("--".toList ++ rest)[k]? = some '-' := by
        rcases Nat.lt_succ_iff_lt_or_eq.mp bound with first | rfl
        · obtain rfl : k = 0 := by omega
          rfl
        · rfl
      rw [minus] at here
      obtain ⟨c, here, same⟩ := Option.map_eq_some_iff.mp here
      rw [here, (Text.foldChar_eq_foldChar_iff (by decide) (by decide)).mp same]
    by_contra inside
    rw [not_or, Nat.not_lt, Nat.not_le] at inside
    exact numeral.sign i inside.1 inside.2 (sign 0 (by omega)) (sign 1 (by omega))

end

variable {number : Span} (numeral : Text.IsNumeral code number.start number.stop)
include numeral

private theorem uncutAt_of_stands {opening : List Char}
    (leaves : Text.leavesNumbers opening = true) (stands : StandsAnyCase opening code i) : number.UncutAt i :=
  (outside_of_stands numeral leaves stands).imp_left Nat.le_of_lt

private theorem uncutAt_of_lineEndAt (ends : LineEndAt code i) : number.UncutAt i := by
  refine (outside_of_not_numeric numeral ?_).imp_left Nat.le_of_lt
  rcases ends with none | newline
  · rw [none]
    rfl
  · rw [newline]
    decide

private theorem uncutAt_behind {c : Char} (other : Text.isNumeric c = false) (here : code[i]? = some c) :
    number.UncutAt (i + 1) := by
  rcases outside_of_not_numeric numeral (by rw [here, Option.any_some, other]) with before | behind
  · exact .inl before
  · exact .inr (Nat.le_succ_of_le behind)

theorem keeps_of_isNumeral (known : Lexicon.of? language = some lexicon) : number.Keeps lexicon code where
  opening delimiters listed := by
    obtain ⟨blockComment, blockStrings, _⟩ := Lexicon.openings_of_inLine (Lexicon.inLine_of_of? known)
    have leaves := (Lexicon.sparesNumbers_of_of? known).opening delimiters listed
    refine ⟨?_, fun i stands => uncutAt_of_stands numeral leaves stands.anyCase⟩
    rcases List.mem_append.mp listed with comment | string
    · exact blockComment delimiters (Option.mem_toList.mp comment)
    · exact blockStrings delimiters string
  closing delimiters listed := by
    have closing := (Lexicon.sparesNumbers_of_of? known).closing delimiters listed
    obtain ⟨c, last, other⟩ := (Option.any_eq_true _ _).mp closing
    exact ⟨c, last, fun i here => uncutAt_behind numeral (by simpa using other) here⟩
  line opening listed i stands := uncutAt_of_stands numeral ((Lexicon.sparesNumbers_of_of? known).line opening listed) stands
  quote quote listed i here := by
    have other : Text.isNumeric quote = false := by
      simpa using List.all_eq_true.mp (Lexicon.sparesNumbers_of_of? known).quotes quote listed
    have outside := outside_of_not_numeric numeral (by rw [here, Option.any_some, other])
    exact ⟨outside.imp_left Nat.le_of_lt, uncutAt_behind numeral other here⟩
  lineEnd i ends := uncutAt_of_lineEndAt numeral ends

theorem spares_numeral (known : Lexicon.of? language = some lexicon) (member : span ∈ (claimsOf lexicon code).spans)
    (kind : span.kind = .comment ∨ span.kind = .string) : span.Spares number := by
  obtain ⟨propose, listed, makes⟩ := makes_of_mem_claimsOf member
  rcases spares_or_makes listed makes with ⟨_, spares⟩ | ⟨other, _⟩ | ⟨keyword, _, makes⟩
  · exact spares number (keeps_of_isNumeral numeral known)
  · simp [other] at kind
  · simp [kind_keyword makes] at kind

omit numeral

theorem sweeps_numberProposer : numberProposer.Sweeps .number := by
  intro here proposal proposed
  obtain ⟨stop, found, rfl⟩ := Option.map_eq_some_iff.mp proposed
  obtain ⟨taken, takes⟩ := Pattern.takes_of_matchEnd? found
  have positive := (numeric_taken takes).1
  have offset := takes.rest.2
  exact ⟨by dsimp only; omega, rfl, rfl, rfl, rfl⟩

theorem next_numberProposer_iff : numberProposer.Next code i start stop ↔ Lexicon.number.MatchFrom code i start stop := by
  have same (k : Nat) : (numberProposer (Text.place code k)).isSome = Lexicon.number.matchesAt (Text.place code k) :=
    Option.isSome_map
  have ends : (numberProposer (Text.place code start)).map (start + ·.length) = some stop ↔
      Lexicon.number.matchEnd? (Text.place code start) = some (Text.place code stop) := by
    cases found : Lexicon.number.matchEnd? (Text.place code start) with
    | none => simp [numberProposer, found]
    | some after =>
      obtain ⟨taken, takes⟩ := Pattern.takes_of_matchEnd? found
      have offset : after.offset = start + taken.length := takes.rest.2
      have whole : (numberProposer (Text.place code start)).map (start + ·.length) = some after.offset := by
        have reached : start + (after.offset - start) = after.offset := by omega
        simp only [numberProposer, found, Option.map_some]
        exact congrArg some reached
      rw [whole, Option.some.injEq, Option.some.injEq, ← takes.place rfl]
      exact ⟨fun same => same ▸ rfl, fun same => congrArg Cursor.offset same⟩
  constructor
  · exact fun next => ⟨(FirstFrom.congr fun k _ _ => by rw [same]).mp next.first, ends.mp next.length⟩
  · exact fun next => ⟨(FirstFrom.congr fun k _ _ => by rw [same]).mpr next.first, ends.mpr next.ends⟩

theorem mem_numberPass_iff_foundIn (sound : claims.Sound code.length) :
    span ∈ (numberPass code claims).spans ↔ span ∈ claims.spans ∨ span.kind = .number ∧
      Lexicon.number.FoundIn code span.start span.stop ∧ ∀ other ∈ claims.spans, other.Apart span := by
  have same : numberProposer.Next code = Lexicon.number.MatchFrom code := by
    funext i start stop
    exact propext next_numberProposer_iff
  simp only [numberPass_eq, walkAll, List.foldl_cons, List.foldl_nil]
  rw [Claims.walkText_eq_walkFrom, mem_walkFrom_iff bounded_numberProposer sweeps_numberProposer sound, same,
    Pattern.FoundIn]

theorem mem_claimsOf_iff_foundIn (number : span.kind = .number) :
    span ∈ (claimsOf lexicon code).spans ↔ Lexicon.number.FoundIn code span.start span.stop ∧
      ∀ other ∈ (claimsOf lexicon code).spans, other.kind = .comment ∨ other.kind = .string → other.overlaps span = false := by
  rw [mem_claimsOf_iff_of_number number, mem_numberPass_iff_foundIn (sound_stringPass lexicon code)]
  simp only [mem_stringPass_commentPass_iff, number, reduceCtorEq, or_self, and_false, false_or, true_and, and_imp,
    overlaps_eq_false_iff]

/-- In every text and every language that is highlighted, exactly the numbers that no comment and no string meets
are highlighted, and every other number lies in a comment or a string as a whole. -/
theorem analyze_numbers (parsed : Language.parse? name = some language) (known : Lexicon.of? language = some lexicon)
    (code : String) (start length : Nat) :
    (⟨start, length, .number⟩ ∈ analyze (some code) (some name) ↔
      Lexicon.number.FoundIn code.toList start (start + length) ∧
        ∀ span ∈ analyze (some code) (some name), span.kind = .comment ∨ span.kind = .string →
          span.overlaps ⟨start, length, .number⟩ = false) ∧
    (Lexicon.number.FoundIn code.toList start (start + length) →
      ⟨start, length, .number⟩ ∉ analyze (some code) (some name) →
        ∃ span ∈ analyze (some code) (some name), (span.kind = .comment ∨ span.kind = .string) ∧
          span.start ≤ start ∧ start + length ≤ span.stop) := by
  simp only [mem_analyze_iff parsed known]
  have exactly : ⟨start, length, .number⟩ ∈ (claimsOf lexicon code.toList).spans ↔ _ := mem_claimsOf_iff_foundIn rfl
  refine ⟨exactly, fun found refused => ?_⟩
  obtain ⟨_, next⟩ := found.exists_next
  have numeral := isNumeral_of_matchEnd? next.ends
  by_contra outside
  refine refused (exactly.mpr ⟨found, fun span member kind => overlaps_eq_false_iff.mpr ?_⟩)
  have spares : span.Spares ⟨start, length, .number⟩ := spares_numeral numeral known member kind
  rcases spares with apart | ⟨first, last⟩
  · exact apart
  · exact absurd ⟨span, member, kind, first, last⟩ outside

theorem analyze_numbers_in_comment :
    Language.parse? "Python" = some .python ∧ Lexicon.of? .python = some .python ∧
      Lexicon.number.FoundIn "x = 0x1F # 12".toList 4 8 ∧ Lexicon.number.FoundIn "x = 0x1F # 12".toList 11 13 ∧
      ∃ span ∈ analyze (some "x = 0x1F # 12") (some "Python"), (span.kind = .comment ∨ span.kind = .string) ∧
        span.start ≤ 11 ∧ 13 ≤ span.stop := by
  have parsed : Language.parse? "Python" = some .python := by decide +kernel
  have member : ⟨4, 4, .number⟩ ∈ analyze (some "x = 0x1F # 12") (some "Python") :=
    (mem_analyze_iff parsed rfl _).mpr (by decide +kernel)
  have refused : ⟨11, 2, .number⟩ ∉ analyze (some "x = 0x1F # 12") (some "Python") :=
    mt (mem_analyze_iff parsed rfl _).mp (by decide +kernel)
  have alone : ⟨11, 2, .number⟩ ∈ (numberPass "x = 0x1F # 12".toList .empty).spans := by decide +kernel
  have found : Lexicon.number.FoundIn "x = 0x1F # 12".toList 11 13 := by
    rcases (mem_numberPass_iff_foundIn (Claims.sound_empty _)).mp alone with old | ⟨_, found, _⟩
    · cases old
    · exact found
  exact ⟨parsed, rfl, ((analyze_numbers parsed rfl _ 4 4).1.mp member).1, found,
    (analyze_numbers parsed rfl _ 11 2).2 found refused⟩

end Highlight
end Scriptlet
