import Scriptlet.Detection.Feature
import Scriptlet.Proofs.Pattern.Lines
import Scriptlet.Proofs.Pattern.Spelling
import Scriptlet.Proofs.Text.Lines

/-!
The marker of Go. It is meant for a line that declares the main package, but the blanks between its two words may be
line feeds, so that a declaration may also be spread over several lines.
-/
namespace Scriptlet.Detection
open Text (lines ofLines isAllBlank WholeLines)

/-- `package`, blanks and `main`, and nothing behind them but blanks. -/
def DeclaresMain (text : List Char) : Prop :=
  ∃ gap tail, gap ≠ [] ∧ isAllBlank gap = true ∧ isAllBlank tail = true ∧
    text = "package".toList ++ gap ++ "main".toList ++ tail

/-- Some lines, the first and the last of them given, that declare the main package together: one word stands on the
first line, the other one on the last, and there is nothing else but blanks. -/
structure SpreadsMain (opening : List Char) (between : List (List Char)) (closing : List Char) : Prop where
  opens : ∃ tail, isAllBlank tail = true ∧ opening = "package".toList ++ tail
  blank : ∀ line ∈ between, isAllBlank line = true
  closes : ∃ lead tail, isAllBlank lead = true ∧ isAllBlank tail = true ∧ closing = lead ++ "main".toList ++ tail

variable {code text line rest tail opening closing : List Char} {between : List (List Char)} {here : Text.Cursor}

theorem DeclaresMain.length_le (declares : DeclaresMain text) : 12 ≤ text.length := by
  obtain ⟨gap, tail, some, _, _, rfl⟩ := declares
  have gapLength := List.length_pos_iff.mpr some
  have words : "package".toList.length = 7 ∧ "main".toList.length = 4 := by decide
  simp only [List.length_append]
  omega

theorem exists_takes_mainPackage_iff : (∃ after, mainPackage.Takes here text after) ↔
    here.before.all (· = '\n') = true ∧ DeclaresMain text ∧
      ∃ rest, here.rest = text ++ rest ∧ rest.head?.all (· = '\n') = true := by
  constructor
  · rintro ⟨after, takes⟩
    have stands := takes.rest.1
    obtain ⟨_, _, _, toTail, ending, rfl⟩ := Pattern.takes_append_iff.mp takes
    obtain ⟨ends, rfl, rfl⟩ := Pattern.takes_lineEnd_iff.mp ending
    obtain ⟨_, _, tail, toMain, blanks, rfl⟩ := Pattern.takes_append_iff.mp toTail
    obtain ⟨_, _, _, toGap, main, rfl⟩ := Pattern.takes_append_iff.mp toMain
    obtain ⟨_, _, gap, toPackage, run, rfl⟩ := Pattern.takes_append_iff.mp toGap
    obtain ⟨_, _, _, start, package, rfl⟩ := Pattern.takes_append_iff.mp toPackage
    obtain ⟨starts, rfl, rfl⟩ := Pattern.takes_lineStart_iff.mp start
    obtain rfl := Pattern.spells_text_iff.mp main.spells
    obtain rfl := Pattern.spells_text_iff.mp package.spells
    obtain ⟨some, gapBlank⟩ := Pattern.spells_run_iff.mp run.spells
    exact ⟨starts, ⟨gap, tail, some, gapBlank, blanks.spells, by simp⟩, _, stands, ends⟩
  · rintro ⟨starts, ⟨gap, tail, some, gapBlank, tailBlank, rfl⟩, rest, stands, ends⟩
    simp only [List.append_assoc] at stands
    have gapSpells : (Pattern.run .blank).Spells gap := Pattern.spells_run_iff.mpr ⟨some, gapBlank⟩
    have tailSpells : (Pattern.many .blank).Spells tail := tailBlank
    obtain ⟨_, package, stands⟩ := Pattern.exists_takes_of_spells (by decide) (Pattern.spells_text_iff.mpr rfl) stands
    obtain ⟨_, run, stands⟩ := Pattern.exists_takes_of_spells (by decide) gapSpells stands
    obtain ⟨_, main, stands⟩ := Pattern.exists_takes_of_spells (by decide) (Pattern.spells_text_iff.mpr rfl) stands
    obtain ⟨after, blanks, remains⟩ := Pattern.exists_takes_of_spells (by decide) tailSpells stands
    rw [← remains] at ends
    have takes := Pattern.Takes.seq (.seq (.seq (.seq (.seq (.lineStart starts) package) run) main) blanks) (.lineEnd ends)
    simp only [List.nil_append, List.append_nil] at takes
    exact ⟨after, takes⟩

/-- The marker is there if and only if whole lines of the text declare the main package. -/
theorem isGoMain_iff_wholeLines : isGoMain code = true ↔ ∃ text, DeclaresMain text ∧ WholeLines text code := by
  rw [isGoMain, Pattern.occursIn_iff]
  constructor
  · rintro ⟨i, text, after, inside, takes⟩
    obtain ⟨starts, declares, rest, stands, ends⟩ := exists_takes_mainPackage_iff.mp ⟨after, takes⟩
    refine ⟨text, declares, code.take i, rest, ?_, starts, ends⟩
    have stands : code.drop i = text ++ rest := stands
    rw [List.append_assoc, ← stands, List.take_append_drop]
  · rintro ⟨text, declares, before, behind, rfl, starts, ends⟩
    have place : Text.place (before ++ text ++ behind) before.length =
        ⟨before.length, before.getLast?, text ++ behind⟩ := by rw [List.append_assoc, Text.place_append]
    have takes : ∃ after, mainPackage.Takes (Text.place (before ++ text ++ behind) before.length) text after := by
      rw [place]
      exact exists_takes_mainPackage_iff.mpr ⟨starts, declares, behind, rfl, ends⟩
    obtain ⟨after, takes⟩ := takes
    exact ⟨before.length, text, after, by simp, takes⟩

/-- Of the blanks behind the second word only those on its line are needed. -/
theorem DeclaresMain.exists_short (declares : DeclaresMain text) : ∃ gap tail, gap ≠ [] ∧ isAllBlank gap = true ∧
    isAllBlank tail = true ∧ '\n' ∉ tail ∧ lines ("package".toList ++ gap ++ "main".toList ++ tail) <+: lines text := by
  obtain ⟨gap, tail, some, gapBlank, tailBlank, rfl⟩ := declares
  obtain ⟨kept, cut, rfl, inLine, ends⟩ := Text.exists_append_newline tail
  rw [isAllBlank, List.all_append, Bool.and_eq_true] at tailBlank
  refine ⟨gap, kept, some, gapBlank, tailBlank.1, inLine, ?_⟩
  rw [← List.append_assoc]
  exact Text.prefix_lines_append ends

private theorem isAllBlank_append_newline {first second : List Char} (firstBlank : isAllBlank first = true)
    (secondBlank : isAllBlank second = true) : isAllBlank (first ++ '\n' :: second) = true := by
  have newline : Text.isBlank '\n' = true := by decide
  rw [isAllBlank] at firstBlank secondBlank ⊢
  rw [List.all_append, List.all_cons, firstBlank, newline, secondBlank, Bool.and_self, Bool.and_self]

/-- Blank lines before a line that begins with blanks make more blanks in front of the rest of it. -/
theorem exists_ofLines_blank (blank : ∀ line ∈ between, isAllBlank line = true) {lead : List Char}
    (leadBlank : isAllBlank lead = true) (rest : List Char) :
    ∃ gap, isAllBlank gap = true ∧ ofLines (between ++ [lead ++ rest]) = gap ++ rest := by
  induction between with
  | nil => exact ⟨lead, leadBlank, Text.ofLines_singleton _⟩
  | cons line between ih =>
    obtain ⟨gap, gapBlank, joined⟩ := ih fun other listed => blank other (List.mem_cons_of_mem line listed)
    refine ⟨line ++ '\n' :: gap, isAllBlank_append_newline (blank line List.mem_cons_self) gapBlank, ?_⟩
    rw [List.cons_append, Text.ofLines_cons line (by simp), joined, List.append_assoc, List.cons_append]

theorem SpreadsMain.declaresMain (spreads : SpreadsMain opening between closing) :
    DeclaresMain (ofLines (opening :: (between ++ [closing]))) := by
  obtain ⟨first, firstBlank, rfl⟩ := spreads.opens
  obtain ⟨lead, tail, leadBlank, tailBlank, rfl⟩ := spreads.closes
  obtain ⟨gap, gapBlank, joined⟩ := exists_ofLines_blank spreads.blank leadBlank ("main".toList ++ tail)
  refine ⟨first ++ '\n' :: gap, tail, by simp, isAllBlank_append_newline firstBlank gapBlank, tailBlank, ?_⟩
  rw [Text.ofLines_cons _ (by simp), List.append_assoc lead, joined]
  simp

/-- A gap between the two words that has a line feed spreads the declaration. -/
theorem exists_spreadsMain {gap : List Char} (gapBlank : isAllBlank gap = true) (tailBlank : isAllBlank tail = true)
    (inLine : '\n' ∉ tail) (broken : '\n' ∈ gap) :
    ∃ opening between closing, SpreadsMain opening between closing ∧
      lines ("package".toList ++ gap ++ "main".toList ++ tail) = opening :: (between ++ [closing]) := by
  obtain ⟨first, rest, rfl, firstInLine⟩ := List.eq_append_cons_of_mem broken
  have opening : '\n' ∉ "package".toList ++ first := by simpa using firstInLine
  have ending : '\n' ∉ "main".toList ++ tail := by simpa using inLine
  obtain ⟨between, lead, parts, longer⟩ := Text.exists_lines_append rest ending
  rw [isAllBlank, List.all_append, List.all_cons, Bool.and_eq_true, Bool.and_eq_true] at gapBlank
  obtain ⟨firstBlank, -, restBlank⟩ := gapBlank
  have blank (line : List Char) (listed : line ∈ lines rest) : isAllBlank line = true :=
    List.all_eq_true.mpr fun c member => List.all_eq_true.mp restBlank c (Text.mem_of_mem_lines listed member).1
  refine ⟨"package".toList ++ first, between, lead ++ ("main".toList ++ tail), ⟨⟨first, firstBlank, rfl⟩, ?_, ?_⟩, ?_⟩
  · exact fun line listed => blank line (by simp [parts, listed])
  · exact ⟨lead, tail, blank lead (by simp [parts]), tailBlank, (List.append_assoc _ _ _).symm⟩
  · rw [← List.singleton_append (x := "package".toList ++ first), ← Text.lines_eq_singleton opening, ← longer,
      ← Text.lines_append_newline]
    simp only [List.append_assoc, List.cons_append]

/-- The marker of Go is there if and only if a line declares the main package, or else consecutive lines do together,
with one word at the start of the first line, the other on the last one, and blank lines between them. -/
theorem isGoMain_iff_lines (code : List Char) : isGoMain code = true ↔
    (∃ line ∈ lines code, DeclaresMain line) ∨
      ∃ opening between closing, opening :: (between ++ [closing]) <:+: lines code ∧
        SpreadsMain opening between closing := by
  rw [isGoMain_iff_wholeLines]
  constructor
  · rintro ⟨text, declares, whole⟩
    obtain ⟨gap, tail, some, gapBlank, tailBlank, inLine, short⟩ := declares.exists_short
    have inside := short.isInfix.trans (Text.wholeLines_iff_infix.mp whole)
    by_cases broken : '\n' ∈ gap
    · obtain ⟨opening, between, closing, spreads, parts⟩ := exists_spreadsMain gapBlank tailBlank inLine broken
      rw [parts] at inside
      exact .inr ⟨opening, between, closing, inside, spreads⟩
    · have single : '\n' ∉ "package".toList ++ gap ++ "main".toList ++ tail := by simp [broken, inLine]
      rw [Text.lines_eq_singleton single, List.singleton_infix_iff] at inside
      exact .inl ⟨_, inside, gap, tail, some, gapBlank, tailBlank, rfl⟩
  · rintro (⟨line, listed, declares⟩ | ⟨opening, between, closing, inside, spreads⟩)
    · refine ⟨line, declares, Text.wholeLines_iff_infix.mpr ?_⟩
      rwa [Text.lines_eq_singleton (Text.newline_not_mem listed), List.singleton_infix_iff]
    · refine ⟨_, spreads.declaresMain, Text.wholeLines_iff_infix.mpr ?_⟩
      rwa [Text.lines_ofLines (List.cons_ne_nil _ _) inside]

/-- A line feed between the two words is taken for a blank, and no line of the text declares the main package. -/
theorem isGoMain_broken_line :
    ¬ (isGoMain "package\nmain".toList = true ↔ ∃ line ∈ lines "package\nmain".toList, DeclaresMain line) := by
  have marked : isGoMain "package\nmain".toList = true := by decide +kernel
  have parts : lines "package\nmain".toList = ["package".toList, "main".toList] := by decide +kernel
  intro same
  obtain ⟨line, listed, declares⟩ := same.mp marked
  have long := declares.length_le
  have short : ∀ line ∈ ["package".toList, "main".toList], line.length < 12 := by decide
  rw [parts] at listed
  have := short line listed
  omega

end Scriptlet.Detection
