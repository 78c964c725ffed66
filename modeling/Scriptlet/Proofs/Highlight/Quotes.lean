import Scriptlet.Proofs.Highlight.Keywords

/-!
What becomes of quotes. A quote is covered, or the string that it would open is met by a comment or a string
elsewhere. The quotes of a language are looked for one after the other over the whole text, so a string that holds
nothing of note but a quote that is looked for earlier is broken up.
-/
namespace Scriptlet
open Text (Cursor)

def Lexicon.quoteProposer (lexicon : Lexicon) (quote : Char) : Highlight.Proposer :=
  Highlight.stringProposer quote lexicon.escapes (lexicon.rawQuotes.contains quote)

def Lexicon.literalAt (lexicon : Lexicon) (quote : Char) (code : List Char) (i : Nat) : Span :=
  ⟨i, Highlight.stringTail quote lexicon.escapes (lexicon.rawQuotes.contains quote) (code.drop (i + 1)) + 1, .string⟩

def enclosed (quote : Char) (body : List Char) : List Char := quote :: (body ++ [quote])

/-- A text that holds nothing that ends or could escape from its quotes and none of the texts that begin comments and
block strings. -/
structure Lexicon.Encloses (lexicon : Lexicon) (quote : Char) (body : List Char) : Prop where
  noQuote : quote ∉ body
  noMark : '\\' ∉ body
  noNewline : '\n' ∉ body
  noRegion : ∀ delimiters ∈ lexicon.blockComment.toList ++ lexicon.blockStrings,
    ¬ delimiters.opening.toList <:+: enclosed quote body
  noLineComment : ∀ opening ∈ lexicon.lineComments, ¬ opening.toList <:+: enclosed quote body

namespace Highlight
variable {quote : Char} {body code : List Char} {quotes : List Char} {claims : Claims} {span : Span} {i p : Nat}
variable {language : Language} {lexicon : Lexicon} {name : String}

/-- What is accepted before quotes are looked for: comments and block strings. -/
def beforeQuotes (lexicon : Lexicon) (code : List Char) : Claims :=
  walkAll (lexicon.blockStrings.map (regionProposer · .string true)) code (commentPass lexicon code .empty)

def quoteWalks (lexicon : Lexicon) (quotes code : List Char) (claims : Claims) : Claims :=
  walkAll (quotes.map lexicon.quoteProposer) code claims

theorem stringPass_eq_quoteWalks : stringPass lexicon code (commentPass lexicon code .empty) =
    quoteWalks lexicon lexicon.quotes code (beforeQuotes lexicon code) :=
  stringPass_eq lexicon code _

theorem quoteWalks_append (earlier later : List Char) :
    quoteWalks lexicon (earlier ++ later) code claims =
      quoteWalks lexicon later code (quoteWalks lexicon earlier code claims) := by
  rw [quoteWalks, List.map_append, walkAll, List.foldl_append]
  rfl

theorem sound_beforeQuotes (lexicon : Lexicon) (code : List Char) : (beforeQuotes lexicon code).Sound code.length :=
  sound_walkAll (by simp [bounded_regionProposer]) (sound_commentPass lexicon code)

theorem bounded_of_mem_quoteProposers {propose : Proposer} (listed : propose ∈ quotes.map lexicon.quoteProposer) :
    propose.Bounded := by
  obtain ⟨quote, _, rfl⟩ := List.mem_map.mp listed
  exact bounded_stringProposer _ _ _

theorem sound_quoteWalks (lexicon : Lexicon) (quotes code : List Char) :
    (quoteWalks lexicon quotes code (beforeQuotes lexicon code)).Sound code.length :=
  sound_walkAll (fun _ => bounded_of_mem_quoteProposers) (sound_beforeQuotes lexicon code)

theorem quoteProposer_of_getElem? (here : code[i]? = some quote) :
    lexicon.quoteProposer quote (Text.place code i) =
      some ⟨.string, (lexicon.literalAt quote code i).length, true, (lexicon.literalAt quote code i).length - 1, 0⟩ := by
  obtain ⟨bound, rfl⟩ := List.getElem?_eq_some_iff.mp here
  rw [Lexicon.quoteProposer, stringProposer, Text.place, List.drop_eq_getElem_cons bound]
  exact if_pos rfl

theorem getElem?_of_mem_quoteWalks (none : claims.spans = [])
    (member : span ∈ (quoteWalks lexicon quotes code claims).spans) : ∃ quote ∈ quotes, code[span.start]? = some quote := by
  rcases makes_of_mem_walkAll member with old | ⟨_, listed, makes⟩
  · rw [none] at old
    cases old
  · obtain ⟨quote, quoted, rfl⟩ := List.mem_map.mp listed
    exact ⟨quote, quoted, (quoteEnds_of_makes makes).2.1⟩

theorem mem_claimsOf_of_mem_quoteWalks {earlier later : List Char} (listed : lexicon.quotes = earlier ++ later)
    (member : span ∈ (quoteWalks lexicon earlier code (beforeQuotes lexicon code)).spans) :
    span ∈ (claimsOf lexicon code).spans := by
  apply (mem_stringPass_commentPass_iff.mp _).1
  rw [stringPass_eq_quoteWalks, listed, quoteWalks_append]
  exact mem_walkAll_of_mem member

/-- The string that a quote would open is met by a span that is accepted before the next quote is looked for. -/
theorem exists_met_quoteWalks (listed : quote ∈ quotes) (here : code[p]? = some quote) :
    ∃ span ∈ (quoteWalks lexicon quotes code (beforeQuotes lexicon code)).spans,
      ¬ span.Apart (lexicon.literalAt quote code p) := by
  have inside := (List.getElem?_eq_some_iff.mp here).1
  exact exists_met_walkAll (fun _ => bounded_of_mem_quoteProposers) (sound_beforeQuotes lexicon code)
    (List.mem_map_of_mem listed) (retries_stringProposer _ _ _) inside (quoteProposer_of_getElem? here)

/-- In every text and every language that is highlighted, each quote lies in a comment or a string, or the string
that it would open, up to its closing quote, the end of its line or the end of the text, is met by a comment or
a string in which the quote does not lie. -/
theorem analyze_quotes (parsed : Language.parse? name = some language) (known : Lexicon.of? language = some lexicon)
    (code : String) (listed : quote ∈ lexicon.quotes) (here : code.toList[p]? = some quote) :
    IsQuoted quote lexicon.escapes (lexicon.rawQuotes.contains quote) code.toList p
        (lexicon.literalAt quote code.toList p).stop ∧
      ((∃ span ∈ analyze (some code) (some name), (span.kind = .comment ∨ span.kind = .string) ∧
          span.start ≤ p ∧ p < span.stop) ∨
        ∃ span ∈ analyze (some code) (some name), (span.kind = .comment ∨ span.kind = .string) ∧
          ¬ (span.start ≤ p ∧ p < span.stop) ∧ span.overlaps (lexicon.literalAt quote code.toList p) = true) := by
  simp only [mem_analyze_iff parsed known]
  constructor
  · have makes : (stringProposer quote lexicon.escapes (lexicon.rawQuotes.contains quote)).Makes code.toList
        (lexicon.literalAt quote code.toList p) := ⟨_, quoteProposer_of_getElem? here, rfl, rfl⟩
    exact (isQuoted_of_makes (noMark_of_mem_quotes known listed) makes).2
  · obtain ⟨span, member, met⟩ := exists_met_quoteWalks listed here
    rw [← stringPass_eq_quoteWalks] at member
    obtain ⟨member, kind⟩ := mem_stringPass_commentPass_iff.mp member
    by_cases covers : span.start ≤ p ∧ p < span.stop
    · exact .inl ⟨span, member, kind, covers⟩
    · refine .inr ⟨span, member, kind, covers, ?_⟩
      rw [← Bool.not_eq_false]
      exact mt overlaps_eq_false_iff.mp met

theorem analyze_quotes_before_comment :
    Language.parse? "Python" = some .python ∧ Lexicon.of? .python = some .python ∧ '"' ∈ Lexicon.python.quotes ∧
      "x = \"a # b\"".toList[4]? = some '"' ∧ IsQuoted '"' true false "x = \"a # b\"".toList 4 11 ∧
      ∃ span ∈ analyze (some "x = \"a # b\"") (some "Python"), (span.kind = .comment ∨ span.kind = .string) ∧
        ¬ (span.start ≤ 4 ∧ 4 < span.stop) ∧ span.overlaps (Lexicon.python.literalAt '"' "x = \"a # b\"".toList 4) = true := by
  have parsed : Language.parse? "Python" = some .python := by decide +kernel
  have listed : '"' ∈ Lexicon.python.quotes := by decide
  have here : "x = \"a # b\"".toList[4]? = some '"' := by decide +kernel
  have only : analyze (some "x = \"a # b\"") (some "Python") = [⟨7, 4, .comment⟩] :=
    (analyze_eq_singleton_iff parsed rfl _).mpr (by decide +kernel)
  have stop : (Lexicon.python.literalAt '"' "x = \"a # b\"".toList 4).stop = 11 := by decide +kernel
  obtain ⟨quoted, met⟩ := analyze_quotes parsed rfl "x = \"a # b\"" listed here
  rw [stop] at quoted
  refine ⟨parsed, rfl, listed, here, quoted, met.resolve_left ?_⟩
  rw [only]
  simp [Span.stop]

private theorem stringTail_enclosed (escapes raw : Bool) (noQuote : quote ∉ body) (noMark : '\\' ∉ body)
    (noNewline : '\n' ∉ body) (inLine : quote ≠ '\n') (unmarked : quote ≠ '\\') :
    stringTail quote escapes raw (body ++ [quote]) = body.length + 1 := by
  induction body with
  | nil =>
    rw [List.nil_append, stringTail.eq_def]
    simp [inLine, unmarked]
  | cons c rest ih =>
    simp only [List.mem_cons, not_or, ← ne_eq] at noQuote noMark noNewline
    rw [List.cons_append, stringTail.eq_def]
    simp only [noNewline.1.symm, noMark.1.symm, noQuote.1.symm, decide_false, Bool.false_and, Bool.and_false,
      Bool.false_eq_true, if_false, ih noQuote.2 noMark.2 noNewline.2, List.length_cons]
    omega

theorem literalAt_enclosed (known : Lexicon.of? language = some lexicon) (listed : quote ∈ lexicon.quotes)
    (encloses : lexicon.Encloses quote body) :
    lexicon.literalAt quote (enclosed quote body) 0 = ⟨0, body.length + 2, .string⟩ := by
  have inLine := noNewline_of_mem_quotes known listed
  have unmarked := noMark_of_mem_quotes known listed
  have tail := stringTail_enclosed lexicon.escapes (lexicon.rawQuotes.contains quote)
    encloses.noQuote encloses.noMark encloses.noNewline inLine unmarked
  rw [Lexicon.literalAt, enclosed, List.drop_succ_cons, List.drop_zero, tail]

/-- Neither comments nor block strings are found in a text in quotes, unless the text that begins a comment stands
there in another case than the listed ones. -/
theorem beforeQuotes_enclosed (known : Lexicon.of? language = some lexicon) (encloses : lexicon.Encloses quote body)
    (anyCase : ∀ opening ∈ lexicon.lineComments,
      ¬ opening.toList.map Text.foldChar <:+: (enclosed quote body).map Text.foldChar) :
    (beforeQuotes lexicon (enclosed quote body)).spans = [] := by
  obtain ⟨blockComment, blockStrings, _⟩ := Lexicon.openings_of_inLine (Lexicon.inLine_of_of? known)
  have absent {delimiters : Delimiters} {i : Nat}
      (listed : delimiters ∈ lexicon.blockComment.toList ++ lexicon.blockStrings) :
      ¬ Text.StandsAt delimiters.opening.toList (enclosed quote body) i := by
    intro stands
    exact encloses.noRegion delimiters listed (stands.isInfix.trans (List.drop_suffix i _).isInfix)
  rw [List.eq_nil_iff_forall_not_mem]
  intro span member
  rcases makes_of_mem_walkAll member with early | ⟨_, pass, makes⟩
  · rw [commentPass_eq] at early
    rcases makes_of_mem_walkAll early with early | ⟨_, pass, makes⟩
    · rcases makes_of_mem_walkAll early with early | ⟨_, pass, makes⟩
      · cases early
      · obtain ⟨delimiters, listed, rfl⟩ := List.mem_map.mp pass
        have some := blockComment delimiters (Option.mem_toList.mp listed)
        exact absent (List.mem_append_left _ listed) (closes_of_makes some makes).2.1
    · obtain ⟨opening, listed, rfl⟩ := List.mem_map.mp pass
      exact anyCase opening listed (Text.exists_standsAnyCase_iff.mp ⟨_, (stands_of_makes makes).2.1⟩)
  · obtain ⟨delimiters, listed, rfl⟩ := List.mem_map.mp pass
    exact absent (List.mem_append_right _ listed) (closes_of_makes (blockStrings delimiters listed) makes).2.1

theorem not_lineComment_of_spans (known : Lexicon.of? language = some lexicon)
    (others : ∀ span ∈ (claimsOf lexicon code).spans, span.kind ≠ .comment) :
    ∀ opening ∈ lexicon.lineComments, ¬ opening.toList.map Text.foldChar <:+: code.map Text.foldChar := by
  intro opening listed inside
  obtain ⟨i, stands⟩ := Text.exists_standsAnyCase_iff.mpr inside
  have inLine := (Lexicon.openings_of_inLine (Lexicon.inLine_of_of? known)).2.2
  have found := lineCommentWalks_ne_nil inLine (sound_blockComments lexicon code) listed stands
  rw [← commentPass_eq] at found
  obtain ⟨span, member⟩ := List.exists_mem_of_ne_nil _ found
  have comment : span.kind = .comment := by
    by_contra other
    cases (mem_commentPass_iff other).mp member
  exact others span ((mem_claimsOf_iff_of_comment comment).mpr member) comment

theorem literalAt_mem_quoteWalks (lexicon : Lexicon) (sound : claims.Sound code.length) (none : claims.spans = [])
    (here : code[0]? = some quote) :
    lexicon.literalAt quote code 0 ∈ (quoteWalks lexicon [quote] code claims).spans := by
  change _ ∈ (claims.walkText (consider (lexicon.quoteProposer quote)) code).spans
  rw [Claims.walkText_eq_walkFrom, Claims.walkFrom_of_lt (List.getElem?_eq_some_iff.mp here).1]
  apply mem_walkFrom_of_mem
  apply mem_consider_of_apart sound (quoteProposer_of_getElem? here) (Nat.zero_lt_succ _)
  simp [none]

private theorem eq_takeWhile_append (listed : quote ∈ quotes) :
    ∃ later, quotes = quotes.takeWhile (· ≠ quote) ++ quote :: later := by
  induction quotes with
  | nil => cases listed
  | cons c rest ih =>
    by_cases same : c = quote
    · exact ⟨rest, by simp [same]⟩
    · obtain ⟨later, parts⟩ := ih ((List.mem_cons.mp listed).resolve_left (Ne.symm same))
      refine ⟨later, ?_⟩
      rw [List.takeWhile_cons_of_pos (by simpa using same), List.cons_append, ← parts]

theorem mem_enclosed_iff {c : Char} (other : c ≠ quote) : c ∈ enclosed quote body ↔ c ∈ body := by
  simp [enclosed, other]

/-- A text in quotes that holds nothing else of note is highlighted as one string if and only if it holds no quote
that the language looks for earlier than for the quotes around it, and no text that begins comments in a case in
which it is not listed. -/
theorem analyze_enclosed (parsed : Language.parse? name = some language) (known : Lexicon.of? language = some lexicon)
    (listed : quote ∈ lexicon.quotes) (encloses : lexicon.Encloses quote body) :
    analyze (some (String.ofList (enclosed quote body))) (some name) = [⟨0, body.length + 2, .string⟩] ↔
      (∀ earlier ∈ lexicon.quotes.takeWhile (· ≠ quote), earlier ∉ body) ∧
        ∀ opening ∈ lexicon.lineComments,
          ¬ opening.toList.map Text.foldChar <:+: (enclosed quote body).map Text.foldChar := by
  obtain ⟨later, parts⟩ := eq_takeWhile_append listed
  have first : (enclosed quote body)[0]? = some quote := rfl
  have differ {earlier : Char} (before : earlier ∈ lexicon.quotes.takeWhile (· ≠ quote)) : earlier ≠ quote := by
    simpa using List.mem_takeWhile_imp before
  rw [analyze_eq_singleton_iff parsed known, String.toList_ofList]
  constructor
  · intro whole
    have uncommented := not_lineComment_of_spans known (fun span member => by
      rw [whole, List.mem_singleton] at member
      simp [member])
    refine ⟨fun earlier before inside => ?_, uncommented⟩
    -- An earlier quote in the body leaves a span, and the whole text is none that an earlier quote begins.
    have nothing := beforeQuotes_enclosed known encloses uncommented
    obtain ⟨p, here⟩ := List.mem_iff_getElem?.mp ((mem_enclosed_iff (differ before)).mpr inside)
    obtain ⟨span, member, _⟩ := exists_met_quoteWalks before here
    obtain ⟨other, before, begins⟩ := getElem?_of_mem_quoteWalks nothing member
    have only := mem_claimsOf_of_mem_quoteWalks parts member
    rw [whole, List.mem_singleton] at only
    rw [only, first] at begins
    exact differ before (Option.some.inj begins).symm
  · rintro ⟨clean, uncommented⟩
    have nothing := beforeQuotes_enclosed known encloses uncommented
    have none : (quoteWalks lexicon (lexicon.quotes.takeWhile (· ≠ quote)) (enclosed quote body)
        (beforeQuotes lexicon (enclosed quote body))).spans = [] := by
      rw [List.eq_nil_iff_forall_not_mem]
      intro span member
      obtain ⟨earlier, before, here⟩ := getElem?_of_mem_quoteWalks nothing member
      exact clean earlier before ((mem_enclosed_iff (differ before)).mp (List.mem_of_getElem? here))
    -- So its own quote is looked for in an empty set of spans, and the whole text leaves no room for others.
    have accepted := literalAt_mem_quoteWalks lexicon (sound_quoteWalks lexicon _ _) none first
    rw [literalAt_enclosed known listed encloses, ← quoteWalks_append] at accepted
    rw [List.append_cons] at parts
    have size : (enclosed quote body).length = body.length + 2 := by simp [enclosed]
    rw [← size] at accepted ⊢
    exact (sound_claimsOf lexicon _).eq_singleton_of_whole (mem_claimsOf_of_mem_quoteWalks parts accepted)

private theorem encloses_its : Lexicon.python.Encloses '"' "it's".toList := by
  constructor <;> decide +kernel

theorem analyze_enclosed_apostrophe :
    Language.parse? "Python" = some .python ∧ Lexicon.of? .python = some .python ∧ '"' ∈ Lexicon.python.quotes ∧
      Lexicon.python.Encloses '"' "it's".toList ∧
      analyze (some (String.ofList (enclosed '"' "it's".toList))) (some "Python") = [⟨0, 6, .string⟩] := by
  have parsed : Language.parse? "Python" = some .python := by decide +kernel
  have listed : '"' ∈ Lexicon.python.quotes := by decide
  have first : Lexicon.python.quotes.takeWhile (· ≠ '"') = [] := by decide
  have uncommented : ∀ opening ∈ Lexicon.python.lineComments,
      ¬ opening.toList.map Text.foldChar <:+: (enclosed '"' "it's".toList).map Text.foldChar := by decide +kernel
  have whole := (analyze_enclosed parsed rfl listed encloses_its).mpr ⟨first ▸ List.forall_mem_nil _, uncommented⟩
  exact ⟨parsed, rfl, listed, encloses_its, whole⟩

/-- Neither the text `'a"b'` is a string in PowerShell nor the text `"Rem x"` in batch files. -/
theorem analyze_breaks_enclosed :
    (Language.parse? "PowerShell" = some .powershell ∧ Lexicon.of? .powershell = some .powershell ∧
      '\'' ∈ Lexicon.powershell.quotes ∧ Lexicon.powershell.Encloses '\'' "a\"b".toList ∧
      analyze (some (String.ofList (enclosed '\'' "a\"b".toList))) (some "PowerShell") = [⟨2, 3, .string⟩] ∧
      analyze (some (String.ofList (enclosed '\'' "a\"b".toList))) (some "PowerShell") ≠ [⟨0, 5, .string⟩]) ∧
    Language.parse? "bat" = some .bat ∧ Lexicon.of? .bat = some .bat ∧ '"' ∈ Lexicon.bat.quotes ∧
      Lexicon.bat.Encloses '"' "Rem x".toList ∧
      analyze (some (String.ofList (enclosed '"' "Rem x".toList))) (some "bat") = [⟨1, 6, .comment⟩] ∧
      analyze (some (String.ofList (enclosed '"' "Rem x".toList))) (some "bat") ≠ [⟨0, 7, .string⟩] := by
  constructor
  · have parsed : Language.parse? "PowerShell" = some .powershell := by decide +kernel
    have encloses : Lexicon.powershell.Encloses '\'' "a\"b".toList := by constructor <;> decide +kernel
    have broken : analyze (some (String.ofList (enclosed '\'' "a\"b".toList))) (some "PowerShell") =
        [⟨2, 3, .string⟩] := (analyze_eq_singleton_iff parsed rfl _).mpr (by decide +kernel)
    exact ⟨parsed, rfl, by decide, encloses, broken, broken ▸ by decide⟩
  · have parsed : Language.parse? "bat" = some .bat := by decide +kernel
    have encloses : Lexicon.bat.Encloses '"' "Rem x".toList := by constructor <;> decide +kernel
    have broken : analyze (some (String.ofList (enclosed '"' "Rem x".toList))) (some "bat") = [⟨1, 6, .comment⟩] :=
      (analyze_eq_singleton_iff parsed rfl _).mpr (by decide +kernel)
    exact ⟨parsed, rfl, by decide, encloses, broken, broken ▸ by decide⟩

end Highlight
end Scriptlet
