import Scriptlet.Proofs.Highlight.LineComments
import Scriptlet.Proofs.Highlight.Strings
import Scriptlet.Proofs.Pattern.Taken
import Scriptlet.Proofs.Text.LetterCase

/-!
Words in a text, and comments, strings and numbers beside them. What the earlier passes propose begins and
ends at the edges of words, except for a comment that is opened by letters; as no keyword ends with these
letters, none of the spans cuts a keyword.
-/
namespace Scriptlet
open Text (Cursor EdgeAt LineEndAt StandsAnyCase StandsAt wordAt)

structure Span.IsWord (span : Span) (code : List Char) : Prop where
  positive : 0 < span.length
  word : ∀ i, span.start ≤ i → i < span.stop → wordAt code i = true
  before : ∀ i, i + 1 = span.start → wordAt code i = false
  after : wordAt code span.stop = false

/-- A place that is not between two characters of a span. -/
def Span.UncutAt (span : Span) (i : Nat) : Prop := i ≤ span.start ∨ span.stop ≤ i

def Span.Spares (span word : Span) : Prop :=
  span.Apart word ∨ span.start ≤ word.start ∧ word.stop ≤ span.stop

theorem Span.spares_of_uncutAt {span word : Span} (start : word.UncutAt span.start) (stop : word.UncutAt span.stop) :
    span.Spares word := by
  simp only [Span.UncutAt, Span.Spares, Span.Apart] at *
  omega

/-- A part of a text inside which no comment and no string of a lexicon begins or ends. -/
structure Span.Keeps (word : Span) (lexicon : Lexicon) (code : List Char) : Prop where
  opening : ∀ delimiters ∈ lexicon.blockComment.toList ++ lexicon.blockStrings,
    delimiters.opening.toList ≠ [] ∧ ∀ i, StandsAt delimiters.opening.toList code i → word.UncutAt i
  closing : ∀ delimiters ∈ lexicon.blockComment.toList ++ lexicon.blockStrings,
    ∃ c, delimiters.closing.toList.getLast? = some c ∧ ∀ i, code[i]? = some c → word.UncutAt (i + 1)
  line : ∀ opening ∈ lexicon.lineComments, ∀ i, StandsAnyCase opening.toList code i → word.UncutAt i
  quote : ∀ quote ∈ lexicon.quotes, ∀ i, code[i]? = some quote → word.UncutAt i ∧ word.UncutAt (i + 1)
  lineEnd : ∀ i, LineEndAt code i → word.UncutAt i

namespace Span.IsWord
variable {word other : Span} {code : List Char} {i : Nat}

theorem uncutAt (isWord : word.IsWord code) (edge : EdgeAt code i) : word.UncutAt i := by
  by_contra cut
  rw [Span.UncutAt, not_or, Nat.not_le, Nat.not_le] at cut
  obtain ⟨j, next⟩ : ∃ j, j + 1 = i := ⟨i - 1, by omega⟩
  have here := isWord.word i (by omega) cut.2
  rw [edge j next (isWord.word j (by omega) (by omega))] at here
  cases here

/-- Two words with a character in common are one. -/
theorem unique (isWord : word.IsWord code) (also : other.IsWord code) (met : ¬ word.Apart other) :
    word.start = other.start ∧ word.length = other.length := by
  have edges {word : Span} (isWord : word.IsWord code) : EdgeAt code word.start ∧ EdgeAt code word.stop := by
    refine ⟨fun j next before => ?_, fun _ _ _ => isWord.after⟩
    rw [isWord.before j next] at before
    cases before
  have first := isWord.uncutAt (edges also).1
  have second := isWord.uncutAt (edges also).2
  have third := also.uncutAt (edges isWord).1
  have fourth := also.uncutAt (edges isWord).2
  simp only [Span.UncutAt, Span.Apart, Span.stop] at *
  omega

end Span.IsWord

/-- Whether a word is spelled as a keyword: in any case in batch files and in PowerShell, exactly in all other
languages. -/
def Language.ReadsAs (language : Language) (keyword word : List Char) : Prop :=
  if language = .bat ∨ language = .powershell then word.map Text.foldChar = keyword.map Text.foldChar
  else word = keyword

structure Span.IsKeyword (span : Span) (language : Language) (lexicon : Lexicon) (code : List Char) : Prop
    extends span.IsWord code where
  reads : ∃ keyword ∈ lexicon.keywords, language.ReadsAs keyword.toList (span.chars code)

def Text.isLetterlike (c : Char) : Bool := isWordChar c && !isDecimal c

def Text.stem (text : List Char) : List Char := text.takeWhile isWordChar

theorem Text.stem_prefix (text : List Char) : stem text <+: text := List.takeWhile_prefix isWordChar

theorem Text.wordAt_of_lt_stem {text : List Char} {i : Nat} (inside : i < (stem text).length) : wordAt text i = true := by
  obtain ⟨rest, whole⟩ := stem_prefix text
  have passes : isWordChar (stem text)[i] = true :=
    List.all_eq_true.mp List.all_takeWhile _ (List.getElem_mem inside)
  rw [wordAt, ← whole, List.getElem?_append_left inside, List.getElem?_eq_getElem inside, Option.any_some, passes]

structure Lexicon.Separates (lexicon : Lexicon) : Prop where
  opening : ∀ delimiters ∈ lexicon.blockComment.toList ++ lexicon.blockStrings,
    delimiters.opening.toList.head?.any (!Text.isWordChar ·) = true
  closing : ∀ delimiters ∈ lexicon.blockComment.toList ++ lexicon.blockStrings,
    delimiters.closing.toList.getLast?.any (!Text.isWordChar ·) = true
  quotes : lexicon.quotes.all (!Text.isWordChar ·) = true
  stem : ∀ opening ∈ lexicon.lineComments, (Text.stem opening.toList).length < opening.toList.length
  suffix : ∀ opening ∈ lexicon.lineComments, Text.stem opening.toList ≠ [] → ∀ keyword ∈ lexicon.keywords,
    (Text.stem opening.toList).length < keyword.toList.length →
      (keyword.toList.drop (keyword.toList.length - (Text.stem opening.toList).length)).map Text.foldChar ≠
        (Text.stem opening.toList).map Text.foldChar
  long : ∀ keyword ∈ lexicon.keywords, 2 ≤ keyword.toList.length
  letters : ∀ keyword ∈ lexicon.keywords, keyword.toList.all Text.isLetterlike = true

theorem Lexicon.separates_of_of? {language : Language} {lexicon : Lexicon}
    (found : Lexicon.of? language = some lexicon) : lexicon.Separates := by
  cases language <;> cases found
  all_goals
    constructor <;> decide +kernel

namespace Highlight
variable {code : List Char} {i k : Nat}

private theorem edgeAt_of_not_wordAt (other : wordAt code i = false) : EdgeAt code i := fun _ _ _ => other

private theorem not_wordAt_of_standsAt {needle : List Char} (stands : StandsAt needle code i)
    (first : needle.head?.any (!Text.isWordChar ·) = true) : wordAt code i = false := by
  cases needle with
  | nil => cases first
  | cons c rest =>
    have here := Text.getElem?_of_standsAt stands (Nat.zero_lt_succ _)
    rw [wordAt, ← Nat.add_zero i, here]
    simpa using first

private theorem edgeAt_behind {c : Char} (other : Text.isWordChar c = false) (here : code[i]? = some c) :
    EdgeAt code (i + 1) := by
  intro j next word
  obtain rfl : j = i := Nat.succ.inj next
  rw [wordAt, here, Option.any_some, other] at word
  cases word

private theorem any_getElem?_takeWhile (p : Char → Bool) (text : List Char) :
    text[(text.takeWhile p).length]?.any p = false := by
  induction text with
  | nil => rfl
  | cons c rest ih =>
    by_cases passes : p c = true
    · rwa [List.takeWhile_cons_of_pos passes, List.length_cons, List.getElem?_cons_succ]
    · rw [List.takeWhile_cons_of_neg passes]
      simpa using passes

private theorem not_wordAt_of_lineEndAt (ends : LineEndAt code i) : wordAt code i = false := by
  rcases ends with ends | newline
  · rw [wordAt, ends]
    rfl
  · rw [wordAt, newline]
    exact Text.isWordChar_newline

theorem wordAt_of_startsAnyCase {opening : List Char} (stands : startsAnyCase opening (code.drop i) = true)
    (bound : k < opening.length) : wordAt code (i + k) = wordAt opening k := by
  have folded (text : List Char) (j : Nat) : wordAt text j = (text.map Text.foldChar)[j]?.any Text.isWordChar := by
    rw [wordAt, List.getElem?_map, Option.any_map]
    exact congrArg (fun p => Option.any p text[j]?) (funext fun c => (Text.isWordChar_foldChar c).symm)
  rw [folded opening, ← startsAnyCase_iff.mp stands, ← folded, wordAt, wordAt, List.getElem?_take_of_lt bound,
    List.getElem?_drop]

end Highlight

namespace Span.IsWord
variable {word : Span} {code : List Char}

theorem stop_le (isWord : word.IsWord code) : word.stop ≤ code.length := by
  have positive := isWord.positive
  have last := Text.lt_length_of_wordAt (isWord.word (word.stop - 1) (by rw [Span.stop]; omega)
    (by rw [Span.stop]; omega))
  omega

theorem length_chars (isWord : word.IsWord code) : (word.chars code).length = word.length := by
  have inside := isWord.stop_le
  rw [Span.stop] at inside
  rw [Span.chars, List.length_take, List.length_drop]
  omega

end Span.IsWord

namespace Highlight
variable {code : List Char} {i : Nat} {language : Language} {lexicon : Lexicon} {word span : Span}

theorem fold_of_readsAs {keyword word : List Char} (reads : language.ReadsAs keyword word) :
    word.map Text.foldChar = keyword.map Text.foldChar := by
  unfold Language.ReadsAs at reads
  split at reads
  · exact reads
  · rw [reads]

/-- A comment that is opened by letters begins no keyword's last part, so it does not begin inside a keyword. -/
private theorem uncutAt_lineComment (separates : lexicon.Separates) {opening : String}
    (listed : opening ∈ lexicon.lineComments) (stands : startsAnyCase opening.toList (code.drop i) = true)
    (isKeyword : word.IsKeyword language lexicon code) : word.UncutAt i := by
  obtain ⟨keyword, known, reads⟩ := isKeyword.reads
  have bound := separates.stem opening listed
  have behind : wordAt code (i + (Text.stem opening.toList).length) = false := by
    rw [wordAt_of_startsAnyCase stands bound]
    exact any_getElem?_takeWhile Text.isWordChar opening.toList
  by_contra cut
  rw [Span.UncutAt, not_or, Nat.not_le, Nat.not_le] at cut
  -- The keyword goes as far as the letters of the opening text.
  have ends : word.stop = i + (Text.stem opening.toList).length := by
    apply Nat.le_antisymm
    · by_contra further
      rw [isKeyword.word _ (by omega) (Nat.lt_of_not_le further)] at behind
      cases behind
    · by_contra shorter
      have after := isKeyword.after
      obtain ⟨k, same⟩ : ∃ k, word.stop = i + k := ⟨word.stop - i, by omega⟩
      rw [same, wordAt_of_startsAnyCase stands (by omega), Text.wordAt_of_lt_stem (by omega)] at after
      cases after
  have lengths := congrArg List.length (fold_of_readsAs reads)
  rw [List.length_map, List.length_map, isKeyword.length_chars] at lengths
  rw [Span.stop] at ends cut
  have last : (word.chars code).drop (i - word.start) = (code.drop i).take (Text.stem opening.toList).length := by
    rw [Span.chars, List.drop_take, List.drop_drop]
    congr 1
    · omega
    · congr 1
      omega
  have some : Text.stem opening.toList ≠ [] := by
    apply List.length_pos_iff.mp
    omega
  apply separates.suffix opening listed some keyword known (by omega)
  calc
    (keyword.toList.drop (keyword.toList.length - (Text.stem opening.toList).length)).map Text.foldChar
      = ((word.chars code).drop (i - word.start)).map Text.foldChar := by
        have count : keyword.toList.length - (Text.stem opening.toList).length = i - word.start := by omega
        rw [count, List.map_drop, ← fold_of_readsAs reads, List.map_drop]
    _ = (((code.drop i).take opening.toList.length).map Text.foldChar).take (Text.stem opening.toList).length := by
        rw [last, ← List.map_take, List.take_take, Nat.min_eq_left (Nat.le_of_lt bound)]
    _ = (opening.toList.take (Text.stem opening.toList).length).map Text.foldChar := by
        rw [startsAnyCase_iff.mp stands, List.map_take]
    _ = (Text.stem opening.toList).map Text.foldChar := by
        rw [← List.prefix_iff_eq_take.mp (Text.stem_prefix opening.toList)]

theorem keeps_of_isKeyword (separates : lexicon.Separates) (isKeyword : word.IsKeyword language lexicon code) :
    word.Keeps lexicon code where
  opening delimiters listed := by
    have first := separates.opening delimiters listed
    refine ⟨fun empty => ?_, fun i stands => ?_⟩
    · rw [empty] at first
      cases first
    · exact isKeyword.uncutAt (edgeAt_of_not_wordAt (not_wordAt_of_standsAt stands first))
  closing delimiters listed := by
    obtain ⟨c, last, other⟩ := (Option.any_eq_true _ _).mp (separates.closing delimiters listed)
    exact ⟨c, last, fun i here => isKeyword.uncutAt (edgeAt_behind (by simpa using other) here)⟩
  line opening listed i stands := uncutAt_lineComment separates listed (startsAnyCase_iff.mpr stands) isKeyword
  quote quote listed i here := by
    have other : Text.isWordChar quote = false := by simpa using List.all_eq_true.mp separates.quotes quote listed
    have outside : wordAt code i = false := by rw [wordAt, here, Option.any_some, other]
    exact ⟨isKeyword.uncutAt (edgeAt_of_not_wordAt outside), isKeyword.uncutAt (edgeAt_behind other here)⟩
  lineEnd i ends := isKeyword.uncutAt (edgeAt_of_not_wordAt (not_wordAt_of_lineEndAt ends))

private theorem spares_region (keeps : word.Keeps lexicon code) {delimiters : Delimiters} {kind : TokenKind}
    {onlyFree : Bool} (listed : delimiters ∈ lexicon.blockComment.toList ++ lexicon.blockStrings)
    (makes : (regionProposer delimiters kind onlyFree).Makes code span) : span.Spares word := by
  obtain ⟨some, opens⟩ := keeps.opening delimiters listed
  obtain ⟨c, last, behind⟩ := keeps.closing delimiters listed
  obtain ⟨_, stands, closes⟩ := closes_of_makes some makes
  apply Span.spares_of_uncutAt (opens span.start stands)
  rcases last_of_closes last closes with ends | ⟨j, next, here⟩
  · exact keeps.lineEnd _ (Text.lineEndAt_of_length_le (Nat.le_of_eq ends.symm))
  · exact next ▸ behind j here

private theorem spares_lineComment (keeps : word.Keeps lexicon code) {opening : String}
    (listed : opening ∈ lexicon.lineComments) (makes : (lineCommentProposer opening.toList).Makes code span) :
    span.Spares word := by
  obtain ⟨_, stands, ends⟩ := stands_of_makes makes
  exact Span.spares_of_uncutAt (keeps.line opening listed _ stands)
    (ends ▸ keeps.lineEnd _ (Text.firstFrom_lineEnd code span.start).holds)

private theorem spares_string (keeps : word.Keeps lexicon code) {quote : Char} {escapes raw : Bool}
    (listed : quote ∈ lexicon.quotes) (makes : (stringProposer quote escapes raw).Makes code span) :
    span.Spares word := by
  obtain ⟨_, opens, _, last, _, _, ends⟩ := quoteEnds_of_makes makes
  apply Span.spares_of_uncutAt (keeps.quote quote listed _ opens).1
  rcases ends with ⟨closing, stop⟩ | ⟨_, newline, stop⟩ | ⟨ends, stop⟩
  · exact stop ▸ (keeps.quote quote listed _ closing).2
  · exact keeps.lineEnd _ (.inr (stop ▸ newline))
  · exact keeps.lineEnd _ (Text.lineEndAt_of_length_le (by omega))

/-- No comment and no string cuts what it cannot begin or end in; other spans are proposed as numbers or as
keywords. -/
theorem spares_or_makes {propose : Proposer} (listed : propose ∈ proposers lexicon) (makes : propose.Makes code span) :
    ((span.kind = .comment ∨ span.kind = .string) ∧
        ∀ word : Span, word.Keeps lexicon code → span.Spares word) ∨
      span.kind = .number ∧ numberProposer.Makes code span ∨
      ∃ keyword ∈ lexicon.keywords, (keywordProposer keyword.toList lexicon.keywordsAnyCase).Makes code span := by
  simp only [proposers, List.mem_append, List.mem_map, List.mem_singleton] at listed
  rcases listed with ((((⟨delimiters, listed, rfl⟩ | ⟨opening, listed, rfl⟩) | ⟨delimiters, listed, rfl⟩) |
    ⟨quote, listed, rfl⟩) | rfl) | ⟨keyword, listed, rfl⟩
  · exact .inl ⟨.inl (kind_region makes), fun word keeps => spares_region keeps (List.mem_append_left _ listed) makes⟩
  · exact .inl ⟨.inl (kind_lineComment makes), fun word keeps => spares_lineComment keeps listed makes⟩
  · exact .inl ⟨.inr (kind_region makes), fun word keeps => spares_region keeps (List.mem_append_right _ listed) makes⟩
  · exact .inl ⟨.inr (kind_string makes), fun word keeps => spares_string keeps listed makes⟩
  · exact .inr (.inl ⟨kind_number makes, makes⟩)
  · exact .inr (.inr ⟨keyword, listed, makes⟩)

/-- A comment or a string cuts no keyword; other spans are proposed as numbers or as keywords. -/
theorem makes_cases (language : Language) (separates : lexicon.Separates) {propose : Proposer}
    (listed : propose ∈ proposers lexicon) (makes : propose.Makes code span) :
    ((span.kind = .comment ∨ span.kind = .string) ∧
        ∀ word : Span, word.IsKeyword language lexicon code → span.Spares word) ∨
      span.kind = .number ∧ numberProposer.Makes code span ∨
      ∃ keyword ∈ lexicon.keywords, (keywordProposer keyword.toList lexicon.keywordsAnyCase).Makes code span := by
  refine (spares_or_makes listed makes).imp_left (And.imp_right fun spares word isKeyword => ?_)
  exact spares word (keeps_of_isKeyword separates isKeyword)

end Highlight
end Scriptlet
