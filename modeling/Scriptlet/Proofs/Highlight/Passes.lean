import Scriptlet.Proofs.Highlight.Provenance

/-!
The passes one by one. Each only adds spans of its own kind, so the spans of a kind are settled by the pass that
proposes them.
-/
namespace Scriptlet.Highlight
variable {lexicon : Lexicon} {code : List Char} {claims : Claims} {span : Span} {all : List Proposer}

theorem commentPass_eq (lexicon : Lexicon) (code : List Char) (claims : Claims) :
    commentPass lexicon code claims =
      walkAll (lexicon.lineComments.map (lineCommentProposer ·.toList)) code
        (walkAll (lexicon.blockComment.toList.map (regionProposer · .comment false)) code claims) := by
  simp only [commentPass, walkAll, List.foldl_map, regionStep_eq, lineCommentStep_eq]
  cases lexicon.blockComment <;> rfl

theorem stringPass_eq (lexicon : Lexicon) (code : List Char) (claims : Claims) :
    stringPass lexicon code claims =
      walkAll (lexicon.quotes.map fun quote => stringProposer quote lexicon.escapes (lexicon.rawQuotes.contains quote)) code
        (walkAll (lexicon.blockStrings.map (regionProposer · .string true)) code claims) := by
  simp only [stringPass, walkAll, List.foldl_map, regionStep_eq, stringStep_eq]

theorem numberPass_eq (code : List Char) (claims : Claims) :
    numberPass code claims = walkAll [numberProposer] code claims := by
  simp only [numberPass, walkAll, List.foldl_cons, List.foldl_nil, numberStep_eq]

theorem keywordPass_eq (lexicon : Lexicon) (code : List Char) (claims : Claims) :
    keywordPass lexicon code claims =
      walkAll (lexicon.keywords.map fun keyword => keywordProposer keyword.toList lexicon.keywordsAnyCase) code claims := by
  simp only [keywordPass, walkAll, List.foldl_map, keywordStep_eq]

theorem sound_blockComments (lexicon : Lexicon) (code : List Char) :
    (walkAll (lexicon.blockComment.toList.map (regionProposer · .comment false)) code .empty).Sound code.length :=
  sound_walkAll (by simp [bounded_regionProposer]) (Claims.sound_empty _)

theorem sound_commentPass (lexicon : Lexicon) (code : List Char) : (commentPass lexicon code .empty).Sound code.length := by
  rw [commentPass_eq]
  exact sound_walkAll (by simp [bounded_lineCommentProposer]) (sound_blockComments lexicon code)

theorem sound_stringPass (lexicon : Lexicon) (code : List Char) :
    (stringPass lexicon code (commentPass lexicon code .empty)).Sound code.length := by
  rw [stringPass_eq]
  refine sound_walkAll ?quotes (sound_walkAll ?strings (sound_commentPass lexicon code))
  case quotes => simp [bounded_stringProposer]
  case strings => simp [bounded_regionProposer]

theorem kind_of_makes {propose : Proposer} {kind : TokenKind} (makes : propose.Makes code span)
    (always : ∀ here proposal, propose here = some proposal → proposal.kind = kind) : span.kind = kind := by
  obtain ⟨proposal, proposed, _, own⟩ := makes
  exact own.symm.trans (always _ proposal proposed)

theorem kind_region {delimiters : Delimiters} {kind : TokenKind} {onlyFree : Bool}
    (makes : (regionProposer delimiters kind onlyFree).Makes code span) : span.kind = kind := by
  apply kind_of_makes makes
  intro here proposal proposed
  obtain ⟨_, same⟩ := Option.ite_none_right_eq_some.mp proposed
  exact (Option.some.inj same) ▸ rfl

theorem kind_lineComment {opening : List Char} (makes : (lineCommentProposer opening).Makes code span) :
    span.kind = .comment := by
  apply kind_of_makes makes
  intro here proposal proposed
  obtain ⟨_, same⟩ := Option.ite_none_right_eq_some.mp proposed
  exact (Option.some.inj same) ▸ rfl

theorem kind_string {quote : Char} {escapes raw : Bool}
    (makes : (stringProposer quote escapes raw).Makes code span) : span.kind = .string := by
  apply kind_of_makes makes
  intro here proposal proposed
  unfold stringProposer at proposed
  split at proposed
  next => cases proposed
  next =>
    obtain ⟨_, same⟩ := Option.ite_none_right_eq_some.mp proposed
    exact (Option.some.inj same) ▸ rfl

theorem kind_number (makes : numberProposer.Makes code span) : span.kind = .number := by
  apply kind_of_makes makes
  intro here proposal proposed
  obtain ⟨_, _, rfl⟩ := Option.map_eq_some_iff.mp proposed
  rfl

theorem kind_keyword {keyword : List Char} {anyCase : Bool} (makes : (keywordProposer keyword anyCase).Makes code span) :
    span.kind = .keyword := by
  apply kind_of_makes makes
  intro here proposal proposed
  obtain ⟨_, same⟩ := Option.ite_none_right_eq_some.mp proposed
  exact (Option.some.inj same) ▸ rfl

/-- Proposers of one kind do not change what is accepted of another. -/
private theorem mem_walkAll_iff (kind : TokenKind) (own : ∀ propose ∈ all, propose.Makes code span → span.kind = kind)
    (other : span.kind ≠ kind) : span ∈ (walkAll all code claims).spans ↔ span ∈ claims.spans := by
  refine ⟨fun member => (makes_of_mem_walkAll member).resolve_right ?_, mem_walkAll_of_mem⟩
  rintro ⟨propose, listed, makes⟩
  exact other (own propose listed makes)

theorem mem_commentPass_iff (other : span.kind ≠ .comment) :
    span ∈ (commentPass lexicon code claims).spans ↔ span ∈ claims.spans := by
  rw [commentPass_eq, mem_walkAll_iff .comment _ other, mem_walkAll_iff .comment _ other]
  · simp only [List.mem_map]
    rintro _ ⟨delimiters, _, rfl⟩ makes
    exact kind_region makes
  · simp only [List.mem_map]
    rintro _ ⟨opening, _, rfl⟩ makes
    exact kind_lineComment makes

theorem mem_stringPass_iff (other : span.kind ≠ .string) :
    span ∈ (stringPass lexicon code claims).spans ↔ span ∈ claims.spans := by
  rw [stringPass_eq, mem_walkAll_iff .string _ other, mem_walkAll_iff .string _ other]
  · simp only [List.mem_map]
    rintro _ ⟨delimiters, _, rfl⟩ makes
    exact kind_region makes
  · simp only [List.mem_map]
    rintro _ ⟨quote, _, rfl⟩ makes
    exact kind_string makes

theorem mem_numberPass_iff (other : span.kind ≠ .number) :
    span ∈ (numberPass code claims).spans ↔ span ∈ claims.spans := by
  rw [numberPass_eq, mem_walkAll_iff .number _ other]
  simp only [List.mem_singleton]
  rintro _ rfl makes
  exact kind_number makes

theorem mem_keywordPass_iff (other : span.kind ≠ .keyword) :
    span ∈ (keywordPass lexicon code claims).spans ↔ span ∈ claims.spans := by
  rw [keywordPass_eq, mem_walkAll_iff .keyword _ other]
  simp only [List.mem_map]
  rintro _ ⟨keyword, _, rfl⟩ makes
  exact kind_keyword makes

theorem mem_claimsOf_iff_of_comment (comment : span.kind = .comment) :
    span ∈ (claimsOf lexicon code).spans ↔ span ∈ (commentPass lexicon code .empty).spans := by
  rw [claimsOf, mem_keywordPass_iff, mem_numberPass_iff, mem_stringPass_iff]
  all_goals simp [comment]

theorem mem_claimsOf_iff_of_string (string : span.kind = .string) :
    span ∈ (claimsOf lexicon code).spans ↔
      span ∈ (stringPass lexicon code (commentPass lexicon code .empty)).spans := by
  rw [claimsOf, mem_keywordPass_iff, mem_numberPass_iff]
  all_goals simp [string]

theorem mem_claimsOf_iff_of_number (number : span.kind = .number) :
    span ∈ (claimsOf lexicon code).spans ↔
      span ∈ (numberPass code (stringPass lexicon code (commentPass lexicon code .empty))).spans := by
  rw [claimsOf, mem_keywordPass_iff]
  simp [number]

theorem mem_analyze_iff {name : String} {language : Language} (parsed : Language.parse? name = some language)
    (known : Lexicon.of? language = some lexicon) (code : String) :
    span ∈ analyze (some code) (some name) ↔ span ∈ (claimsOf lexicon code.toList).spans := by
  simp only [analyze, Option.bind_some, parsed, analyzeAs, known, Option.getD_some, List.mem_mergeSort]

theorem analyze_eq_singleton_iff {name : String} {language : Language} (parsed : Language.parse? name = some language)
    (known : Lexicon.of? language = some lexicon) (code : String) :
    analyze (some code) (some name) = [span] ↔ (claimsOf lexicon code.toList).spans = [span] := by
  have sorted := List.mergeSort_perm (claimsOf lexicon code.toList).spans Span.precedes
  simp only [analyze, Option.bind_some, parsed, analyzeAs, known, Option.getD_some]
  rw [← List.perm_singleton, sorted.congr_left, List.perm_singleton]

/-- Before the third pass there are comments and strings only. -/
theorem mem_stringPass_commentPass_iff :
    span ∈ (stringPass lexicon code (commentPass lexicon code .empty)).spans ↔
      span ∈ (claimsOf lexicon code).spans ∧ (span.kind = .comment ∨ span.kind = .string) := by
  by_cases string : span.kind = .string
  · simp only [mem_claimsOf_iff_of_string string, string, or_true, and_true]
  by_cases comment : span.kind = .comment
  · simp only [mem_stringPass_iff string, mem_claimsOf_iff_of_comment comment, comment, true_or, and_true]
  · simp [mem_stringPass_iff string, mem_commentPass_iff comment, Claims.empty, string, comment]

end Scriptlet.Highlight
