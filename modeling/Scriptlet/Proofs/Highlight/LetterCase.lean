import Scriptlet.Proofs.Highlight.Proposal
import Scriptlet.Proofs.Pattern.LetterCase

/-!
Highlighting that does not see the case of ASCII letters. Where keywords are recognised in any case and no
letter opens or closes a string or a block comment, every pass proposes the same spans in a text and in the
text in small letters, at every place. Two walks that are given the same proposals stay in step.
-/
namespace Scriptlet
open Text (Cursor)

def Text.noLetters (text : List Char) : Bool := text.all fun c => !c.isAlpha

def Lexicon.ignoresCase (lexicon : Lexicon) : Bool :=
  lexicon.keywordsAnyCase
    && (lexicon.blockComment.toList ++ lexicon.blockStrings).all (fun delimiters =>
      Text.noLetters delimiters.opening.toList && Text.noLetters delimiters.closing.toList)
    && Text.noLetters lexicon.quotes

namespace Highlight

private theorem isPrefixOf_toLower {needle : List Char} (plain : Text.noLetters needle = true)
    (text : List Char) : needle.isPrefixOf (text.map Char.toLower) = needle.isPrefixOf text := by
  induction needle generalizing text with
  | nil => simp
  | cons w needle ih =>
    simp only [Text.noLetters, List.all_cons, Bool.and_eq_true, Bool.not_eq_true'] at plain
    cases text with
    | nil => rfl
    | cons c text =>
      have first : (w == c.toLower) = (w == c) := by
        rw [Bool.eq_iff_iff, beq_iff_eq, beq_iff_eq, eq_comm, Text.toLower_eq_iff plain.1, eq_comm]
      simp only [List.map_cons, List.isPrefixOf, first, ih plain.2]

private theorem indexOf?_toLower {needle : List Char} (plain : Text.noLetters needle = true)
    (text : List Char) : Text.indexOf? needle (text.map Char.toLower) = Text.indexOf? needle text := by
  induction text with
  | nil => rfl
  | cons c rest ih =>
    have here := isPrefixOf_toLower plain (c :: rest)
    simp only [List.map_cons] at here
    simp only [List.map_cons, Text.indexOf?, here, ih]

private theorem startsAnyCase_toLower (wanted text : List Char) :
    startsAnyCase wanted (text.map Char.toLower) = startsAnyCase wanted text := by
  induction wanted generalizing text with
  | nil => simp [startsAnyCase]
  | cons w wanted ih =>
    cases text with
    | nil => rfl
    | cons c text => simp only [List.map_cons, startsAnyCase, Text.foldChar_toLower, ih]

private theorem takeWhile_line_toLower (text : List Char) :
    ((text.map Char.toLower).takeWhile (· ≠ '\n')).length = (text.takeWhile (· ≠ '\n')).length := by
  have same : (fun c : Char => decide (c ≠ '\n')) ∘ Char.toLower = fun c => decide (c ≠ '\n') := by
    funext c
    simp [Text.toLower_eq_iff]
  rw [List.takeWhile_map, same, List.length_map]

private theorem stringTail_toLower {quote : Char} (plain : quote.isAlpha = false) (escapes raw : Bool)
    (text : List Char) :
    stringTail quote escapes raw (text.map Char.toLower) = stringTail quote escapes raw text := by
  have newline (c : Char) : c.toLower = '\n' ↔ c = '\n' := Text.toLower_eq_iff (by decide)
  have backslash (c : Char) : c.toLower = '\\' ↔ c = '\\' := Text.toLower_eq_iff (by decide)
  fun_induction stringTail quote escapes raw text with
  | case1 => rfl
  | case2 c rest ends =>
    rw [List.map_cons, stringTail.eq_def]
    simp only [newline, ends, if_true]
  | case3 c stays escape =>
    rw [List.map_cons, List.map_nil, stringTail.eq_def]
    simp only [newline, backslash, stays, escape, Bool.false_eq_true, if_false, if_true]
  | case4 c stays escape d later ih =>
    rw [List.map_cons, List.map_cons, stringTail.eq_def]
    simp only [newline, backslash, stays, escape, ih, Bool.false_eq_true, if_false, if_true]
  | case5 rest stays plainQuote =>
    rw [List.map_cons, stringTail.eq_def]
    simp only [newline, backslash, Text.toLower_eq_iff plain, stays, plainQuote, Bool.false_eq_true, if_false,
      if_true]
  | case6 c rest stays plainChar opens ih =>
    rw [List.map_cons, stringTail.eq_def]
    simp only [newline, backslash, Text.toLower_eq_iff plain, stays, plainChar, opens, ih, Bool.false_eq_true,
      if_false]

/-- What is proposed is the same in a text and in the text in small letters. -/
def Proposer.IgnoresCase (propose : Proposer) : Prop := ∀ here : Cursor, propose here.toLower = propose here

private theorem ignoresCase_regionProposer {delimiters : Delimiters} (kind : TokenKind) (onlyFree : Bool)
    (opening : Text.noLetters delimiters.opening.toList = true)
    (closing : Text.noLetters delimiters.closing.toList = true) :
    Proposer.IgnoresCase (regionProposer delimiters kind onlyFree) := by
  intro here
  have length : regionLength delimiters (here.rest.map Char.toLower) = regionLength delimiters here.rest := by
    simp only [regionLength, ← List.map_drop, indexOf?_toLower closing, List.length_map]
  simp only [regionProposer, Cursor.toLower, isPrefixOf_toLower opening, length]

private theorem ignoresCase_lineCommentProposer (opening : List Char) :
    Proposer.IgnoresCase (lineCommentProposer opening) := by
  intro here
  simp only [lineCommentProposer, Cursor.toLower, startsAnyCase_toLower, takeWhile_line_toLower]

private theorem ignoresCase_stringProposer {quote : Char} (plain : quote.isAlpha = false) (escapes raw : Bool) :
    Proposer.IgnoresCase (stringProposer quote escapes raw) := by
  intro here
  obtain ⟨offset, before, rest⟩ := here
  cases rest with
  | nil => rfl
  | cons c rest =>
    simp only [stringProposer, Cursor.toLower, List.map_cons, Text.toLower_eq_iff plain,
      stringTail_toLower plain]

private theorem number_ignoresCase : Lexicon.number.ignoresCase = true := by decide +kernel

private theorem ignoresCase_numberProposer : Proposer.IgnoresCase numberProposer := by
  intro here
  have length (stop : Option Cursor) :
      stop.map (fun stop => (⟨.number, stop.offset - here.offset, false, stop.offset - here.offset - 1,
        stop.offset - here.offset - 1⟩ : Proposal)) =
      (stop.map Cursor.offset).map fun stop =>
        ⟨.number, stop - here.offset, false, stop - here.offset - 1, stop - here.offset - 1⟩ := by
    rw [Option.map_map]
    rfl
  have same := Pattern.matchEnd?_toLower number_ignoresCase here
  have offset : here.toLower.offset = here.offset := rfl
  simp only [numberProposer, offset, length, same]

private theorem ignoresCase_keywordProposer (keyword : List Char) :
    Proposer.IgnoresCase (keywordProposer keyword true) := by
  intro here
  have near (c : Option Char) : (c.map Char.toLower).any Text.isWordChar = c.any Text.isWordChar := by
    cases c <;> simp
  have stands : isKeywordAt keyword true here.toLower = isKeywordAt keyword true here := by
    simp only [isKeywordAt, Cursor.toLower, if_true, startsAnyCase_toLower, near, ← List.map_drop, List.head?_map]
  simp only [keywordProposer, stands]

theorem ignoresCase_of_mem_proposers {lexicon : Lexicon} (ignores : lexicon.ignoresCase = true)
    {propose : Proposer} (member : propose ∈ proposers lexicon) : propose.IgnoresCase := by
  simp only [Lexicon.ignoresCase, Text.noLetters, Bool.and_eq_true, List.all_append, List.all_eq_true,
    Bool.not_eq_true'] at ignores
  obtain ⟨⟨anyCase, comments, strings⟩, quotes⟩ := ignores
  simp only [proposers, List.mem_append, List.mem_map, List.mem_singleton] at member
  rcases member with ((((⟨delimiters, listed, rfl⟩ | ⟨opening, listed, rfl⟩) | ⟨delimiters, listed, rfl⟩) |
    ⟨quote, listed, rfl⟩) | rfl) | ⟨keyword, listed, rfl⟩
  · exact ignoresCase_regionProposer _ _ (by simpa [Text.noLetters] using (comments _ listed).1)
      (by simpa [Text.noLetters] using (comments _ listed).2)
  · exact ignoresCase_lineCommentProposer _
  · exact ignoresCase_regionProposer _ _ (by simpa [Text.noLetters] using (strings _ listed).1)
      (by simpa [Text.noLetters] using (strings _ listed).2)
  · exact ignoresCase_stringProposer (quotes _ listed) _ _
  · exact ignoresCase_numberProposer
  · rw [anyCase]
    exact ignoresCase_keywordProposer _

/-- Both walks see the same proposals, so they accept, refuse and skip alike. -/
private theorem walk_toLower {propose : Proposer} (ignores : propose.IgnoresCase) (claims : Claims)
    (offset skip : Nat) (before : Option Char) (text : List Char) :
    Claims.walk (consider propose) claims offset (before.map Char.toLower) skip (text.map Char.toLower) =
      Claims.walk (consider propose) claims offset before skip text := by
  induction text generalizing claims offset skip before with
  | nil => rfl
  | cons c rest ih =>
    cases skip with
    | succ skip => exact ih claims (offset + 1) skip (some c)
    | zero =>
      have here : consider propose ⟨offset, before.map Char.toLower, c.toLower :: rest.map Char.toLower⟩ claims =
          consider propose ⟨offset, before, c :: rest⟩ claims := by
        have same := ignores ⟨offset, before, c :: rest⟩
        simp only [Cursor.toLower, List.map_cons] at same
        simp only [consider, same]
      simp only [List.map_cons, Claims.walk, here]
      exact ih _ (offset + 1) _ (some c)

theorem claimsOf_toLower {lexicon : Lexicon} (ignores : lexicon.ignoresCase = true) (code : List Char) :
    claimsOf lexicon (code.map Char.toLower) = claimsOf lexicon code := by
  have pass (propose : Proposer) (member : propose ∈ proposers lexicon) (claims : Claims) :
      claims.walkText (consider propose) (code.map Char.toLower) = claims.walkText (consider propose) code :=
    walk_toLower (ignoresCase_of_mem_proposers ignores member) claims 0 0 none code
  rw [claimsOf_eq_walkAll, claimsOf_eq_walkAll, walkAll, walkAll]
  generalize Claims.empty = claims
  generalize proposers lexicon = all at pass
  induction all generalizing claims with
  | nil => rfl
  | cons propose rest ih =>
    rw [List.foldl_cons, List.foldl_cons, pass propose List.mem_cons_self]
    exact ih _ fun other member => pass other (List.mem_cons_of_mem _ member)

private theorem ignoresCase_bat : Lexicon.bat.ignoresCase = true := by decide

private theorem ignoresCase_powershell : Lexicon.powershell.ignoresCase = true := by decide

/-- In batch files and in PowerShell, two texts that differ in the case of ASCII letters only are highlighted
alike. -/
theorem analyze_letter_case {name : String}
    (named : Language.parse? name = some .bat ∨ Language.parse? name = some .powershell) {a b : String}
    (same : a.toList.map Char.toLower = b.toList.map Char.toLower) :
    analyze (some a) (some name) = analyze (some b) (some name) := by
  have known : ∃ language lexicon, Language.parse? name = some language ∧ Lexicon.of? language = some lexicon ∧
      lexicon.ignoresCase = true := by
    cases named with
    | inl parsed => exact ⟨.bat, .bat, parsed, rfl, ignoresCase_bat⟩
    | inr parsed => exact ⟨.powershell, .powershell, parsed, rfl, ignoresCase_powershell⟩
  obtain ⟨language, lexicon, parsed, found, ignores⟩ := known
  have spans (code : String) : analyze (some code) (some name) =
      (claimsOf lexicon (code.toList.map Char.toLower)).spans.mergeSort Span.precedes := by
    simp only [analyze, Option.bind_some, parsed, analyzeAs, found, Option.getD_some, claimsOf_toLower ignores]
  rw [spans, spans, same]

theorem analyze_letter_case_batch :
    Language.parse? " Bat " = some .bat ∧
      analyze (some "IF 0xFF EQU 1E3 REM Done") (some " Bat ") =
        analyze (some "if 0XfF equ 1e3 rem dONE") (some " Bat ") := by
  have parsed : Language.parse? " Bat " = some .bat := by decide +kernel
  exact ⟨parsed, analyze_letter_case (.inl parsed) (by decide)⟩

end Highlight
end Scriptlet
