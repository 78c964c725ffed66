import Scriptlet.Proofs.Highlight.LineComments
import Scriptlet.Proofs.Highlight.Passes
import Scriptlet.Proofs.Highlight.Regions

/-!
The comments that are highlighted. Block comments are found one after the other. On the lines that they leave, a
comment goes from the first opening text with no block comment around it or behind it to the end of its line, so
that an opening text in front of a block comment opens nothing.
-/
namespace Scriptlet
open Text (FirstFrom FoundFrom IsLine StandsAt StandsAnyCase lineEnd)

namespace Highlight

def IsBlockComment (lexicon : Lexicon) (code : List Char) (start stop : Nat) : Prop :=
  ∃ delimiters ∈ lexicon.blockComment, FoundFrom (delimiters.RegionFrom code) 0 start stop

/-- Whether a line from `first` to `stop` has a comment from `start` on. In batch files, which have no block
comments, the second opening text counts on lines without the first one. -/
def OpensLineComment (language : Language) (lexicon : Lexicon) (code : List Char) (first stop start : Nat) : Prop :=
  if language = .bat then
    FirstFrom (StandsAnyCase "rem ".toList code) first start ∨
      (∀ i, first ≤ i → i < stop → ¬ StandsAnyCase "rem ".toList code i) ∧
        FirstFrom (StandsAt "::".toList code) first start
  else
    ∃ opening ∈ lexicon.lineComments,
      FirstFrom (fun i => StandsAt opening.toList code i ∧
        ∀ begins ends, IsBlockComment lexicon code begins ends → begins < stop → ends ≤ i) first start

def IsLineComment (language : Language) (lexicon : Lexicon) (code : List Char) (start stop : Nat) : Prop :=
  ∃ first, IsLine code first stop ∧ start < stop ∧ OpensLineComment language lexicon code first stop start

/-- Whether something behind a place keeps comments that begin there from reaching the end of the line. -/
def IsCutOff (language : Language) (lexicon : Lexicon) (code : List Char) (i : Nat) : Prop :=
  if language = .bat then
    ∃ first later, IsLine code first (lineEnd code i) ∧ FirstFrom (StandsAnyCase "rem ".toList code) first later ∧
      i < later ∧ later < lineEnd code i
  else ∃ begins ends, IsBlockComment lexicon code begins ends ∧ i < begins ∧ begins < lineEnd code i

variable {language : Language} {lexicon : Lexicon} {code : List Char} {spans : List Span} {span : Span}
variable {name opening : String} {i first start stop : Nat}

theorem isBlockComment_bounds (some : ∀ delimiters ∈ lexicon.blockComment, delimiters.opening.toList ≠ [])
    (block : IsBlockComment lexicon code start stop) :
    start < stop ∧ ∃ delimiters ∈ lexicon.blockComment,
      StandsAt delimiters.opening.toList code start ∧ delimiters.Closes code start stop := by
  obtain ⟨delimiters, listed, found⟩ := block
  obtain ⟨_, region⟩ := found.exists_next
  exact ⟨(bounds_of_regionFrom (some delimiters listed) region).2.1, delimiters, listed, region.opens.holds, region.closes⟩

theorem mem_blockComments_iff (some : ∀ delimiters ∈ lexicon.blockComment, delimiters.opening.toList ≠ []) :
    span ∈ (walkAll (lexicon.blockComment.toList.map (regionProposer · .comment false)) code .empty).spans ↔
      span.kind = .comment ∧ IsBlockComment lexicon code span.start span.stop := by
  cases listed : lexicon.blockComment with
  | none => simp [IsBlockComment, listed, walkAll, Claims.empty]
  | some delimiters =>
    have opening := some delimiters listed
    have same : (regionProposer delimiters .comment false).Next code = delimiters.RegionFrom code := by
      funext i start stop
      exact propext (next_regionProposer_iff opening)
    simp only [Option.toList_some, List.map_cons, List.map_nil, walkAll, List.foldl_cons, List.foldl_nil]
    rw [Claims.walkText_eq_walkFrom, mem_walkFrom_iff (bounded_regionProposer _ _ _)
      (sweeps_regionProposer opening) (Claims.sound_empty _), same]
    simp [Claims.empty, IsBlockComment, listed]

private theorem freeFor_blockComments_iff {needle : List Char}
    (some : ∀ delimiters ∈ lexicon.blockComment, delimiters.opening.toList ≠ [])
    (blocks : ∀ span, span ∈ spans ↔ span.kind = .comment ∧ IsBlockComment lexicon code span.start span.stop) :
    FreeFor needle spans code i ↔ StandsAnyCase needle code i ∧
      ∀ begins ends, IsBlockComment lexicon code begins ends → begins < lineEnd code i → ends ≤ i := by
  refine and_congr_right fun _ => ⟨fun free begins ends block => ?_, fun free span member => ?_⟩
  · have positive := (isBlockComment_bounds some block).1
    have whole : (⟨begins, ends - begins, .comment⟩ : Span).stop = ends := stop_mk_sub (Nat.le_of_lt positive)
    have member := (blocks ⟨begins, ends - begins, .comment⟩).mpr ⟨rfl, whole.symm ▸ block⟩
    exact whole ▸ free _ member
  · exact free span.start span.stop ((blocks span).mp member).2

private theorem lineComments_of_of? (known : Lexicon.of? language = some lexicon) (other : language ≠ .bat) :
    ∃ opening, lexicon.lineComments = [opening] ∧ Text.isCaseless opening.toList = true := by
  cases language <;> cases known
  case bat => exact absurd rfl other
  all_goals exact ⟨_, rfl, by decide⟩

private theorem no_blockComment_of_bat (known : Lexicon.of? .bat = some lexicon) :
    ¬ IsBlockComment lexicon code start stop := by
  cases known
  rintro ⟨_, none, _⟩
  cases none

private theorem standsAnyCase_rem (code : List Char) :
    StandsAnyCase "REM ".toList code = StandsAnyCase "rem ".toList code := by
  have folded : "REM ".toList.map Text.foldChar = "rem ".toList.map Text.foldChar := by decide
  funext i
  rw [StandsAnyCase, folded]
  rfl

private theorem standsAnyCase_colons (code : List Char) : StandsAnyCase "::".toList code = StandsAt "::".toList code := by
  funext i
  exact propext (Text.standsAnyCase_iff_standsAt (by decide))

private theorem lineOpens_bat_iff (known : Lexicon.of? .bat = some lexicon)
    (free : (FreeFor · spans code) = (StandsAnyCase · code)) :
    LineOpens (FreeFor · spans code) first stop lexicon.lineComments start ↔
      OpensLineComment .bat lexicon code first stop start := by
  rw [OpensLineComment, if_pos rfl]
  cases known
  simp only [free, Lexicon.bat, LineOpens, standsAnyCase_rem, standsAnyCase_colons, and_false, or_false]
  constructor
  · rintro (rem | ⟨_, rem | marked⟩)
    · exact .inl rem
    · exact .inl rem
    · exact .inr marked
  · rintro (rem | marked)
    · exact .inl rem
    · exact .inr ⟨marked.1, .inr marked⟩

private theorem lineOpens_iff (known : Lexicon.of? language = some lexicon) (line : IsLine code first stop)
    (before : start < stop)
    (blocks : ∀ span, span ∈ spans ↔ span.kind = .comment ∧ IsBlockComment lexicon code span.start span.stop) :
    LineOpens (FreeFor · spans code) first stop lexicon.lineComments start ↔
      OpensLineComment language lexicon code first stop start := by
  have some := (Lexicon.openings_of_inLine (Lexicon.inLine_of_of? known)).1
  have free (opening : List Char) (i : Nat) : FreeFor opening spans code i ↔ StandsAnyCase opening code i ∧
      ∀ begins ends, IsBlockComment lexicon code begins ends → begins < lineEnd code i → ends ≤ i :=
    freeFor_blockComments_iff some blocks
  by_cases bat : language = .bat
  · subst bat
    refine lineOpens_bat_iff known ?_
    funext opening i
    refine propext ((free opening i).trans (and_iff_left ?_))
    exact fun _ _ block => absurd block (no_blockComment_of_bat known)
  · obtain ⟨opening, only, caseless⟩ := lineComments_of_of? known bat
    simp only [OpensLineComment, if_neg bat, only, List.mem_singleton, exists_eq_left, LineOpens, and_false, or_false]
    refine FirstFrom.congr fun i after upTo => ?_
    rw [free, line.lineEnd_eq after (by omega), Text.standsAnyCase_iff_standsAt caseless]

theorem mem_commentPass_empty_iff (known : Lexicon.of? language = some lexicon) :
    span ∈ (commentPass lexicon code .empty).spans ↔ span.kind = .comment ∧
      (IsBlockComment lexicon code span.start span.stop ∨ IsLineComment language lexicon code span.start span.stop) := by
  obtain ⟨some, _, inLine⟩ := Lexicon.openings_of_inLine (Lexicon.inLine_of_of? known)
  rw [commentPass_eq, mem_lineCommentWalks_iff inLine (sound_blockComments lexicon code), mem_blockComments_iff some, ← and_or_left]
  refine and_congr_right fun _ => or_congr_right (exists_congr fun first => ?_)
  refine and_congr_right fun line => and_congr_right fun before => ?_
  exact lineOpens_iff known line before fun span => mem_blockComments_iff some

/-- In every text and every language that is highlighted, the first pass finds the comments of the result. These
are the block comments from left to right and on each line what follows the first opening text that has no block
comment around it or behind it, in batch files the first `rem ` or else the first `::`. -/
theorem analyze_comments (parsed : Language.parse? name = some language) (known : Lexicon.of? language = some lexicon)
    (code : String) :
    (∀ span, span ∈ (commentPass lexicon code.toList .empty).spans ↔
        span ∈ analyze (some code) (some name) ∧ span.kind = .comment) ∧
      ∀ start length, ⟨start, length, .comment⟩ ∈ analyze (some code) (some name) ↔
        IsBlockComment lexicon code.toList start (start + length) ∨
          IsLineComment language lexicon code.toList start (start + length) := by
  refine ⟨fun span => ?_, fun start length => ?_⟩
  · rw [mem_analyze_iff parsed known]
    constructor
    · intro member
      have comment := ((mem_commentPass_empty_iff known).mp member).1
      exact ⟨(mem_claimsOf_iff_of_comment comment).mpr member, comment⟩
    · exact fun ⟨member, comment⟩ => (mem_claimsOf_iff_of_comment comment).mp member
  · rw [mem_analyze_iff parsed known, mem_claimsOf_iff_of_comment rfl, mem_commentPass_empty_iff known]
    exact and_iff_right rfl

theorem analyze_comments_behind_block :
    Language.parse? "Lua" = some .lua ∧ Lexicon.of? .lua = some .lua ∧
      (IsBlockComment .lua "--[[x]] y -- c".toList 10 14 ∨ IsLineComment .lua .lua "--[[x]] y -- c".toList 10 14) := by
  have parsed : Language.parse? "Lua" = some .lua := by decide +kernel
  have member : ⟨10, 4, .comment⟩ ∈ analyze (some "--[[x]] y -- c") (some "Lua") :=
    (mem_analyze_iff parsed rfl "--[[x]] y -- c").mpr (by decide +kernel)
  exact ⟨parsed, rfl, ((analyze_comments parsed rfl "--[[x]] y -- c").2 10 4).mp member⟩

private theorem exists_lineComment_bat_iff (known : Lexicon.of? .bat = some lexicon) (listed : opening ∈ lexicon.lineComments)
    (stands : StandsAnyCase opening.toList code i) (line : IsLine code first (lineEnd code i)) (after : first ≤ i)
    (before : i < lineEnd code i) :
    (∃ start stop, IsLineComment .bat lexicon code start stop ∧ start ≤ i ∧ i < stop) ↔ ¬ IsCutOff .bat lexicon code i := by
  simp only [IsLineComment, OpensLineComment, IsCutOff, if_pos]
  constructor
  · rintro ⟨start, stop, ⟨own, ownLine, _, begins⟩, upTo, beyond⟩ ⟨other, later, otherLine, rem, behind, inside⟩
    have afterOwn : own ≤ start := begins.elim (·.le) (·.2.le)
    have ends := ownLine.lineEnd_eq (Nat.le_trans afterOwn upTo) (Nat.le_of_lt beyond)
    rw [ends] at otherLine inside
    obtain rfl := ownLine.unique otherLine
    rcases begins with found | ⟨none, _⟩
    · have same := found.unique rem
      omega
    · exact none later rem.le inside rem.holds
  · intro reaches
    by_cases rem : ∃ k, first ≤ k ∧ k < lineEnd code i ∧ StandsAnyCase "rem ".toList code k
    · obtain ⟨k, afterFirst, inside, found⟩ := rem
      obtain ⟨p, upTo, least⟩ := Text.exists_firstFrom afterFirst found
      -- Otherwise the first one would stand behind the place.
      have early : p ≤ i := by
        by_contra late
        exact reaches ⟨first, p, line, least, Nat.lt_of_not_le late, Nat.lt_of_le_of_lt upTo inside⟩
      exact ⟨p, lineEnd code i, ⟨first, line, Nat.lt_of_le_of_lt early before, .inl least⟩, early, before⟩
    · push Not at rem
      have colons : StandsAt "::".toList code i := by
        have none := rem i after before
        cases known
        simp only [Lexicon.bat, List.mem_cons, List.not_mem_nil, or_false] at listed
        rcases listed with rfl | rfl | rfl
        · exact absurd (standsAnyCase_rem code ▸ stands) none
        · exact absurd stands none
        · exact standsAnyCase_colons code ▸ stands
      obtain ⟨p, early, least⟩ := Text.exists_firstFrom after colons
      exact ⟨p, lineEnd code i, ⟨first, line, Nat.lt_of_le_of_lt early before, .inr ⟨rem, least⟩⟩, early, before⟩

private theorem exists_lineComment_other_iff (known : Lexicon.of? language = some lexicon) (other : language ≠ .bat)
    (listed : opening ∈ lexicon.lineComments) (stands : StandsAnyCase opening.toList code i)
    (outside : ∀ start stop, IsBlockComment lexicon code start stop → ¬ (start ≤ i ∧ i < stop))
    (line : IsLine code first (lineEnd code i)) (after : first ≤ i) (before : i < lineEnd code i) :
    (∃ start stop, IsLineComment language lexicon code start stop ∧ start ≤ i ∧ i < stop) ↔
      ¬ IsCutOff language lexicon code i := by
  have some := (Lexicon.openings_of_inLine (Lexicon.inLine_of_of? known)).1
  obtain ⟨only, single, caseless⟩ := lineComments_of_of? known other
  simp only [IsLineComment, OpensLineComment, IsCutOff, if_neg other]
  constructor
  · rintro ⟨start, stop, ⟨own, ownLine, _, _, _, found⟩, upTo, beyond⟩ ⟨begins, ends, block, behind, inside⟩
    rw [ownLine.lineEnd_eq (Nat.le_trans found.le upTo) (Nat.le_of_lt beyond)] at inside
    have bound := found.holds.2 begins ends block inside
    have positive := (isBlockComment_bounds some block).1
    omega
  · intro reaches
    generalize lineEnd code i = stop at *
    have free : StandsAt opening.toList code i ∧
        ∀ begins ends, IsBlockComment lexicon code begins ends → begins < stop → ends ≤ i := by
      obtain rfl : opening = only := by simpa [single] using listed
      refine ⟨(Text.standsAnyCase_iff_standsAt caseless).mp stands, fun begins ends block inside => ?_⟩
      by_contra beyond
      by_cases behind : i < begins
      · exact reaches ⟨begins, ends, block, behind, inside⟩
      · exact outside begins ends block ⟨Nat.le_of_not_lt behind, Nat.lt_of_not_le beyond⟩
    obtain ⟨p, early, least⟩ : ∃ p, p ≤ i ∧ FirstFrom (fun i => StandsAt opening.toList code i ∧
        ∀ begins ends, IsBlockComment lexicon code begins ends → begins < stop → ends ≤ i) first p :=
      Text.exists_firstFrom after free
    exact ⟨p, stop, ⟨first, line, Nat.lt_of_le_of_lt early before, opening, listed, least⟩, early, before⟩

theorem exists_lineComment_iff (known : Lexicon.of? language = some lexicon) (listed : opening ∈ lexicon.lineComments)
    (stands : StandsAnyCase opening.toList code i)
    (outside : ∀ start stop, IsBlockComment lexicon code start stop → ¬ (start ≤ i ∧ i < stop)) :
    (∃ start stop, IsLineComment language lexicon code start stop ∧ start ≤ i ∧ i < stop) ↔
      ¬ IsCutOff language lexicon code i := by
  have inLine := (Lexicon.openings_of_inLine (Lexicon.inLine_of_of? known)).2.2 opening listed
  have bound := Text.lt_length_of_standsAnyCase (Text.inLine_iff.mp inLine).1 stands
  have before := lt_lineEnd inLine stands
  obtain ⟨first, after, line⟩ := Text.exists_isLine (Nat.le_of_lt bound)
  by_cases bat : language = .bat
  · subst bat
    exact exists_lineComment_bat_iff known listed stands line after before
  · exact exists_lineComment_other_iff known bat listed stands outside line after before

/-- In every text and every language that is highlighted, an opening text of line comments that stands outside the
block comments is in a comment unless a block comment begins behind it on its line or, in batch files, the first
`rem ` of the line stands behind it. -/
theorem analyze_covers_opening_iff (parsed : Language.parse? name = some language)
    (known : Lexicon.of? language = some lexicon) (code : String) (listed : opening ∈ lexicon.lineComments)
    (stands : StandsAnyCase opening.toList code.toList i)
    (outside : ∀ start stop, IsBlockComment lexicon code.toList start stop → ¬ (start ≤ i ∧ i < stop)) :
    (∃ span ∈ analyze (some code) (some name), span.kind = .comment ∧ span.start ≤ i ∧ i < span.stop) ↔
      ¬ IsCutOff language lexicon code.toList i := by
  rw [← exists_lineComment_iff known listed stands outside]
  constructor
  · rintro ⟨span, member, comment, upTo, beyond⟩
    rw [mem_analyze_iff parsed known, mem_claimsOf_iff_of_comment comment, mem_commentPass_empty_iff known] at member
    rcases member.2 with block | found
    · exact absurd ⟨upTo, beyond⟩ (outside _ _ block)
    · exact ⟨_, _, found, upTo, beyond⟩
  · rintro ⟨start, stop, found, upTo, beyond⟩
    have whole : (⟨start, stop - start, .comment⟩ : Span).stop = stop := stop_mk_sub (by omega)
    refine ⟨⟨start, stop - start, .comment⟩, ?_, rfl, upTo, by rwa [whole]⟩
    rw [mem_analyze_iff parsed known, mem_claimsOf_iff_of_comment rfl, mem_commentPass_empty_iff known, whole]
    exact ⟨rfl, .inr found⟩

/-- A block comment before an opening text does not keep it from opening a comment. -/
theorem analyze_covers_opening_behind_block :
    Language.parse? "PowerShell" = some .powershell ∧ Lexicon.of? .powershell = some .powershell ∧
      StandsAnyCase "#".toList "<# a #> # b".toList 8 ∧
      (∀ start stop, IsBlockComment .powershell "<# a #> # b".toList start stop → ¬ (start ≤ 8 ∧ 8 < stop)) ∧
      ∃ span ∈ analyze (some "<# a #> # b") (some "PowerShell"),
        span.kind = .comment ∧ span.start ≤ 8 ∧ 8 < span.stop := by
  have parsed : Language.parse? "PowerShell" = some .powershell := by decide +kernel
  have stands : StandsAnyCase "#".toList "<# a #> # b".toList 8 := by decide
  have only (start stop : Nat) (block : IsBlockComment .powershell "<# a #> # b".toList start stop) : start = 0 ∧ stop = 7 := by
    obtain ⟨_, _, listed, stands, closes⟩ := isBlockComment_bounds (by simp [Lexicon.powershell]) block
    cases listed
    have bound := Text.lt_length_of_standsAt (by decide) stands
    have opens : ∀ k < 11, StandsAt "<#".toList "<# a #> # b".toList k → k = 0 := by decide
    obtain rfl := opens start bound stands
    exact ⟨rfl, (closes_iff (Nat.zero_le _)).mp closes⟩
  have outside (start stop : Nat) (block : IsBlockComment .powershell "<# a #> # b".toList start stop) :
      ¬ (start ≤ 8 ∧ 8 < stop) := by
    obtain ⟨rfl, rfl⟩ := only start stop block
    omega
  refine ⟨parsed, rfl, stands, outside, (analyze_covers_opening_iff parsed rfl _ (by decide) stands outside).mpr ?_⟩
  rintro ⟨start, stop, block, behind, _⟩
  obtain ⟨rfl, rfl⟩ := only start stop block
  omega

/-- A comment that runs into a block comment on its line is not found. -/
theorem analyze_misses_opening :
    Language.parse? "PowerShell" = some .powershell ∧ Lexicon.of? .powershell = some .powershell ∧
      "#" ∈ Lexicon.powershell.lineComments ∧ StandsAnyCase "#".toList "# a <# b #>".toList 0 ∧
      (∀ start stop, IsBlockComment .powershell "# a <# b #>".toList start stop → ¬ (start ≤ 0 ∧ 0 < stop)) ∧
      ¬ ∃ span ∈ analyze (some "# a <# b #>") (some "PowerShell"),
        span.kind = .comment ∧ span.start ≤ 0 ∧ 0 < span.stop := by
  refine ⟨by decide +kernel, rfl, by decide, by decide, fun start stop block => ?_, by decide +kernel⟩
  rintro ⟨early, _⟩
  obtain rfl : start = 0 := Nat.le_zero.mp early
  obtain ⟨_, _, listed, stands, _⟩ := isBlockComment_bounds (by simp [Lexicon.powershell]) block
  cases listed
  exact absurd stands (by decide)

end Highlight
end Scriptlet
