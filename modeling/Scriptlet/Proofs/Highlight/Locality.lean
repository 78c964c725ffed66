import Scriptlet.Proofs.Highlight.Proposal

/-!
What is proposed at a place depends on its line alone, unless a region or a string opens there that may
span lines. All texts that the lexicons look for lie within a line.
-/
namespace Scriptlet
open Text (Cursor)

/-- Whether a text has characters and none of them reads as a line feed, in any case. -/
def Text.inLine (text : List Char) : Bool := !text.isEmpty && text.all fun c => Text.foldChar c ≠ '\n'

theorem Text.inLine_iff {text : List Char} :
    Text.inLine text = true ↔ text ≠ [] ∧ ∀ c ∈ text, Text.foldChar c ≠ '\n' := by
  simp [Text.inLine]

def Lexicon.inLine (lexicon : Lexicon) : Bool :=
  lexicon.keywords.all (Text.inLine ·.toList)
    && lexicon.lineComments.all (Text.inLine ·.toList)
    && lexicon.blockComment.all (Text.inLine ·.opening.toList)
    && lexicon.blockStrings.all (Text.inLine ·.opening.toList)
    && lexicon.quotes.all (· ≠ '\n')

theorem Lexicon.inLine_of_of? {language : Language} {lexicon : Lexicon}
    (found : Lexicon.of? language = some lexicon) : lexicon.inLine = true := by
  cases language <;> cases found <;> decide +kernel

theorem Lexicon.openings_of_inLine {lexicon : Lexicon} (inLine : lexicon.inLine = true) :
    (∀ delimiters ∈ lexicon.blockComment, delimiters.opening.toList ≠ []) ∧
      (∀ delimiters ∈ lexicon.blockStrings, delimiters.opening.toList ≠ []) ∧
      ∀ opening ∈ lexicon.lineComments, Text.inLine opening.toList = true := by
  simp only [Lexicon.inLine, Bool.and_eq_true, List.all_eq_true, Option.all_eq_true] at inLine
  obtain ⟨⟨⟨⟨_, lineComments⟩, blockComment⟩, blockStrings⟩, _⟩ := inLine
  exact ⟨fun delimiters listed => (Text.inLine_iff.mp (blockComment delimiters listed)).1,
    fun delimiters listed => (Text.inLine_iff.mp (blockStrings delimiters listed)).1, lineComments⟩

/-- No block comment, block string or raw string begins in a text, and no escape at its end. -/
structure Lexicon.Closed (lexicon : Lexicon) (text : List Char) : Prop where
  noBlockComment : ∀ delimiters ∈ lexicon.blockComment, ¬ delimiters.opening.toList <:+: text
  noBlockString : ∀ delimiters ∈ lexicon.blockStrings, ¬ delimiters.opening.toList <:+: text
  noRawQuote : ∀ quote ∈ lexicon.rawQuotes, quote ∉ text
  noEscape : lexicon.escapes = true → text.getLast? ≠ some '\\'

theorem Lexicon.Closed.tail {lexicon : Lexicon} {c : Char} {text : List Char}
    (closed : lexicon.Closed (c :: text)) : lexicon.Closed text where
  noBlockComment delimiters member inside :=
    closed.noBlockComment delimiters member (inside.trans (List.suffix_cons c text).isInfix)
  noBlockString delimiters member inside :=
    closed.noBlockString delimiters member (inside.trans (List.suffix_cons c text).isInfix)
  noRawQuote quote member inside := closed.noRawQuote quote member (List.mem_cons_of_mem c inside)
  noEscape escapes last := closed.noEscape escapes (by simp [List.getLast?_cons, last])

namespace Highlight
variable {shift : Nat} {tail : List Char} {outer inner : Cursor} {lexicon : Lexicon}

private theorem ne_newline {c : Char} (inLine : Text.foldChar c ≠ '\n') : c ≠ '\n' := by
  rintro rfl
  exact inLine (by decide)

private theorem isPrefixOf_append {needle : List Char} (rest : List Char)
    (inLine : ∀ c ∈ needle, Text.foldChar c ≠ '\n') (newline : ∀ c ∈ tail.head?, c = '\n') :
    needle.isPrefixOf (rest ++ tail) = needle.isPrefixOf rest := by
  induction needle generalizing rest with
  | nil => simp
  | cons c needle ih =>
    cases rest with
    | nil =>
      cases tail with
      | nil => rfl
      | cons d later =>
        have differ : c ≠ d := newline d rfl ▸ ne_newline (inLine c (by simp))
        simp [List.isPrefixOf, differ]
    | cons d rest =>
      simp only [List.cons_append, List.isPrefixOf,
        ih rest (fun c member => inLine c (List.mem_cons_of_mem _ member))]

private theorem startsAnyCase_append {wanted : List Char} (rest : List Char)
    (inLine : ∀ c ∈ wanted, Text.foldChar c ≠ '\n') (newline : ∀ c ∈ tail.head?, c = '\n') :
    startsAnyCase wanted (rest ++ tail) = startsAnyCase wanted rest := by
  induction wanted generalizing rest with
  | nil => simp [startsAnyCase]
  | cons c wanted ih =>
    cases rest with
    | nil =>
      cases tail with
      | nil => rfl
      | cons d later =>
        have differ : Text.foldChar d ≠ Text.foldChar c := by
          rw [newline d rfl]
          exact fun same => inLine c (by simp) (same.symm.trans (by decide))
        simp [startsAnyCase, differ]
    | cons d rest =>
      simp only [List.cons_append, startsAnyCase,
        ih rest (fun c member => inLine c (List.mem_cons_of_mem _ member))]

private theorem takeWhile_line_append {rest : List Char} (newline : ∀ c ∈ tail.head?, c = '\n') :
    (rest ++ tail).takeWhile (· ≠ '\n') = rest.takeWhile (· ≠ '\n') := by
  induction rest with
  | nil =>
    cases tail with
    | nil => rfl
    | cons d later => simp [newline d rfl]
  | cons c rest ih => simp only [List.cons_append, List.takeWhile_cons, ih]

private theorem stringTail_newline (quote : Char) (escapes : Bool) (rest : List Char) :
    stringTail quote escapes false ('\n' :: rest) = 0 := by
  rw [stringTail.eq_def]
  simp

private theorem stringTail_plain {quote c : Char} {escapes raw : Bool} {rest : List Char}
    (stays : ¬ (c = '\n' && !raw) = true) (plain : ¬ (escapes && c = '\\') = true) :
    stringTail quote escapes raw (c :: rest) =
      if c = quote then 1 else 1 + stringTail quote escapes raw rest := by
  rw [stringTail.eq_def]
  simp only [stays, plain, Bool.false_eq_true, if_false]

private theorem stringTail_append {quote : Char} {escapes : Bool} {rest : List Char}
    (noEscape : escapes = true → rest.getLast? ≠ some '\\') (newline : ∀ c ∈ tail.head?, c = '\n') :
    stringTail quote escapes false (rest ++ tail) = stringTail quote escapes false rest := by
  fun_induction stringTail quote escapes false rest with
  | case1 =>
    cases tail with
    | nil => rfl
    | cons d later => rw [newline d rfl, List.nil_append, stringTail_newline]
  | case2 c rest stops =>
    simp only [Bool.not_false, Bool.and_true, decide_eq_true_eq] at stops
    rw [stops, List.cons_append, stringTail_newline]
  | case3 c stays escape =>
    simp only [Bool.and_eq_true, decide_eq_true_eq] at escape
    exact absurd (by simp [escape.2]) (noEscape escape.1)
  | case4 c stays escape d later ih =>
    have later := ih fun escapes last => noEscape escapes (by simp [List.getLast?_cons, last])
    rw [List.cons_append, List.cons_append, stringTail.eq_def]
    simp only [stays, escape, Bool.false_eq_true, if_false, if_true, later]
  | case5 rest stays plain =>
    rw [List.cons_append, stringTail_plain stays plain, if_pos rfl]
  | case6 c rest stays plain opens ih =>
    have later := ih fun escapes last => noEscape escapes (by simp [List.getLast?_cons, last])
    rw [List.cons_append, stringTail_plain stays plain, if_neg opens, later]

/-- What is proposed does not change if the text goes on with other lines, or began with them. -/
structure Proposer.Local (propose : Proposer) (closed : List Char → Prop) : Prop where
  embeds : ∀ {shift : Nat} {tail : List Char} {outer inner : Cursor}, outer.Embeds shift tail inner →
    inner.rest ≠ [] → (tail ≠ [] → closed inner.rest) → propose outer = propose inner
  newline : ∀ {here : Cursor} {rest : List Char}, here.rest = '\n' :: rest → propose here = none

private theorem not_isPrefixOf_newline {needle : List Char} (inLine : Text.inLine needle = true)
    (rest : List Char) : needle.isPrefixOf ('\n' :: rest) = false := by
  obtain ⟨some, inLine⟩ := Text.inLine_iff.mp inLine
  have newline : ∀ c ∈ ('\n' :: rest).head?, c = '\n' := by simp
  have ends := isPrefixOf_append [] inLine newline
  rw [List.nil_append] at ends
  rw [ends]
  cases needle with
  | nil => exact absurd rfl some
  | cons c needle => rfl

private theorem not_startsAnyCase_newline {wanted : List Char} (inLine : Text.inLine wanted = true)
    (rest : List Char) : startsAnyCase wanted ('\n' :: rest) = false := by
  obtain ⟨some, inLine⟩ := Text.inLine_iff.mp inLine
  have newline : ∀ c ∈ ('\n' :: rest).head?, c = '\n' := by simp
  have ends := startsAnyCase_append [] inLine newline
  rw [List.nil_append] at ends
  rw [ends]
  cases wanted with
  | nil => exact absurd rfl some
  | cons c wanted => rfl

private theorem local_regionProposer {delimiters : Delimiters} (kind : TokenKind) (onlyFree : Bool)
    (inLine : Text.inLine delimiters.opening.toList = true) {closed : List Char → Prop}
    (absent : ∀ text, closed text → ¬ delimiters.opening.toList <:+: text) :
    Proposer.Local (regionProposer delimiters kind onlyFree) closed where
  newline whole := by simp [regionProposer, whole, not_isPrefixOf_newline inLine]
  embeds {shift tail outer inner} embeds _ closes := by
    have starts := isPrefixOf_append inner.rest (Text.inLine_iff.mp inLine).2 embeds.tail
    rw [← embeds.rest] at starts
    simp only [regionProposer, starts]
    split
    next opens =>
      -- An opening text that goes on beyond the smaller text cannot stand in a closed one.
      cases tail with
      | nil => rw [embeds.rest, List.append_nil]
      | cons c later =>
        have inside := (List.isPrefixOf_iff_prefix.mp opens).isInfix
        exact absurd inside (absent _ (closes (by simp)))
    next => rfl

private theorem local_lineCommentProposer {opening : List Char} (inLine : Text.inLine opening = true)
    (closed : List Char → Prop) : Proposer.Local (lineCommentProposer opening) closed where
  newline whole := by simp [lineCommentProposer, whole, not_startsAnyCase_newline inLine]
  embeds embeds _ _ := by
    simp only [lineCommentProposer, embeds.rest, takeWhile_line_append embeds.tail,
      startsAnyCase_append _ (Text.inLine_iff.mp inLine).2 embeds.tail]

private theorem local_stringProposer {quote : Char} {escapes raw : Bool} (inLine : quote ≠ '\n')
    {closed : List Char → Prop} (absent : raw = true → ∀ text, closed text → quote ∉ text)
    (noEscape : escapes = true → ∀ text, closed text → text.getLast? ≠ some '\\') :
    Proposer.Local (stringProposer quote escapes raw) closed where
  newline whole := by simp [stringProposer, whole, inLine.symm]
  embeds {shift tail outer inner} embeds some closes := by
    obtain ⟨c, rest, whole⟩ := List.exists_cons_of_ne_nil some
    rw [whole] at closes
    simp only [stringProposer, embeds.rest, whole, List.cons_append]
    split
    next opens =>
      have tails : stringTail quote escapes raw (rest ++ tail) = stringTail quote escapes raw rest := by
        cases tail with
        | nil => rw [List.append_nil]
        | cons d later =>
          have closed := closes (by simp)
          cases raw with
          | true => exact absurd (by simp [opens]) (absent rfl _ closed)
          | false =>
            refine stringTail_append (fun escape last => ?_) embeds.tail
            exact noEscape escape _ closed (by simp [List.getLast?_cons, last])
      rw [tails]
    next => rfl

private theorem number_inLine : Lexicon.number.inLine = true := by decide +kernel

private theorem number_at_end (offset : Nat) (before : Option Char) :
    Lexicon.number.matchEnd? ⟨offset, before, []⟩ = none := by
  change (if Pattern.atWordEdge ⟨offset, before, []⟩ then _ else none) = none
  split <;> rfl

private theorem local_numberProposer (closed : List Char → Prop) :
    Proposer.Local numberProposer closed where
  newline {here rest} whole := by
    have embeds : here.Embeds 0 ('\n' :: rest) ⟨here.offset, here.before, []⟩ :=
      ⟨rfl, .inl rfl, whole, by simp⟩
    have same := Pattern.matchEnd?_of_embeds number_inLine embeds
    rw [number_at_end, Option.map_none, Option.map_eq_none_iff] at same
    simp [numberProposer, same]
  embeds {shift tail outer inner} embeds _ _ := by
    have same := Pattern.matchEnd?_of_embeds number_inLine embeds
    unfold numberProposer
    cases found : Lexicon.number.matchEnd? inner with
    | none =>
      rw [found, Option.map_none, Option.map_eq_none_iff] at same
      simp [same]
    | some stop =>
      rw [found] at same
      obtain ⟨there, reached, offset⟩ := Option.map_eq_some_iff.mp same
      have length : there.offset - outer.offset = stop.offset - inner.offset := by
        have before := embeds.offset
        dsimp only at offset
        omega
      simp [reached, length]

private theorem head?_drop_of_embeds (embeds : outer.Embeds shift tail inner) {count : Nat}
    (bound : count ≤ inner.rest.length) :
    (outer.rest.drop count).head?.any Text.isWordChar =
      (inner.rest.drop count).head?.any Text.isWordChar := by
  rw [embeds.rest, List.drop_append_of_le_length bound]
  cases inner.rest.drop count with
  | cons c later => rfl
  | nil =>
    cases tail with
    | nil => rfl
    | cons d later => simp [embeds.tail d rfl, Text.isWordChar_newline]

private theorem before_of_embeds (embeds : outer.Embeds shift tail inner) :
    outer.before.any Text.isWordChar = inner.before.any Text.isWordChar := by
  rcases embeds.before with same | ⟨none, newline⟩
  · rw [same]
  · simp [none, newline, Text.isWordChar_newline]

private theorem isKeywordAt_of_embeds {keyword : List Char} (anyCase : Bool)
    (inLine : Text.inLine keyword = true) (embeds : outer.Embeds shift tail inner) :
    isKeywordAt keyword anyCase outer = isKeywordAt keyword anyCase inner := by
  have starts : (if anyCase then startsAnyCase keyword outer.rest else keyword.isPrefixOf outer.rest) =
      if anyCase then startsAnyCase keyword inner.rest else keyword.isPrefixOf inner.rest := by
    rw [embeds.rest, startsAnyCase_append _ (Text.inLine_iff.mp inLine).2 embeds.tail,
      isPrefixOf_append _ (Text.inLine_iff.mp inLine).2 embeds.tail]
  unfold isKeywordAt
  rw [starts, before_of_embeds embeds]
  cases stands : if anyCase then startsAnyCase keyword inner.rest else keyword.isPrefixOf inner.rest with
  | false => rfl
  | true =>
    have bound : keyword.length ≤ inner.rest.length := by
      split at stands
      · exact startsAnyCase_length_le stands
      · exact (List.isPrefixOf_iff_prefix.mp stands).length_le
    rw [head?_drop_of_embeds embeds bound]

private theorem local_keywordProposer {keyword : List Char} (anyCase : Bool)
    (inLine : Text.inLine keyword = true) (closed : List Char → Prop) :
    Proposer.Local (keywordProposer keyword anyCase) closed where
  newline whole := by
    simp [keywordProposer, isKeywordAt, whole, not_startsAnyCase_newline inLine,
      not_isPrefixOf_newline inLine]
  embeds embeds _ _ := by
    simp only [keywordProposer, isKeywordAt_of_embeds anyCase inLine embeds]

/-- No pass looks beyond the line, in a text that is closed before the line ends. -/
theorem local_of_mem_proposers {lexicon : Lexicon} (inLine : lexicon.inLine = true) {propose : Proposer}
    (member : propose ∈ proposers lexicon) : propose.Local lexicon.Closed := by
  simp only [Lexicon.inLine, Bool.and_eq_true, List.all_eq_true, Option.all_eq_true] at inLine
  obtain ⟨⟨⟨⟨keywords, lineComments⟩, blockComment⟩, blockStrings⟩, quotes⟩ := inLine
  simp only [proposers, List.mem_append, List.mem_map, List.mem_singleton] at member
  rcases member with ((((⟨delimiters, listed, rfl⟩ | ⟨opening, listed, rfl⟩) | ⟨delimiters, listed, rfl⟩) |
    ⟨quote, listed, rfl⟩) | rfl) | ⟨keyword, listed, rfl⟩
  · have listed := Option.mem_toList.mp listed
    exact local_regionProposer _ _ (blockComment _ listed) fun _ closed => closed.noBlockComment _ listed
  · exact local_lineCommentProposer (lineComments _ listed) _
  · exact local_regionProposer _ _ (blockStrings _ listed) fun _ closed => closed.noBlockString _ listed
  · refine local_stringProposer (by simpa using quotes _ listed) ?_ ?_
    · exact fun raw _ closed => closed.noRawQuote _ (by simpa using raw)
    · exact fun escapes _ closed => closed.noEscape escapes
  · exact local_numberProposer _
  · exact local_keywordProposer _ (keywords _ listed) _

end Highlight
end Scriptlet
