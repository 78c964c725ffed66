import Mathlib.Data.List.Infix
import Mathlib.Data.List.TakeWhile

/-!
The lines of a text. A line feed ends a line, so that a text has one line more than line feeds. A part of a text
that begins where a line begins and ends where a line ends has consecutive lines of the text as its own lines.
-/
namespace Scriptlet.Text

def lines (text : List Char) : List (List Char) := text.splitOn '\n'

def ofLines (block : List (List Char)) : List Char := ['\n'].intercalate block

/-- A part of a text that begins where a line begins and ends where a line ends. -/
def WholeLines (part text : List Char) : Prop :=
  ∃ before behind, text = before ++ part ++ behind ∧
    before.getLast?.all (· = '\n') = true ∧ behind.head?.all (· = '\n') = true

variable {text part line rest tail before behind : List Char} {block after : List (List Char)}

theorem lines_ne_nil (text : List Char) : lines text ≠ [] := List.splitOn_ne_nil '\n' text

@[simp] theorem ofLines_lines (text : List Char) : ofLines (lines text) = text := List.intercalate_splitOn '\n'

theorem lines_append_newline (before behind : List Char) :
    lines (before ++ '\n' :: behind) = lines before ++ lines behind :=
  List.splitOn_append_cons_self before behind

theorem lines_eq_singleton (inLine : '\n' ∉ line) : lines line = [line] := List.splitOn_eq_singleton inLine

theorem mem_of_mem_lines {c : Char} (listed : line ∈ lines text) (member : c ∈ line) : c ∈ text ∧ c ≠ '\n' := by
  induction text generalizing line with
  | nil =>
    rw [lines, List.splitOn_nil, List.mem_singleton] at listed
    simp [listed] at member
  | cons first text ih =>
    rw [lines, List.splitOn_cons_eq_if_modifyHead] at listed
    split at listed
    next =>
      rcases List.mem_cons.mp listed with rfl | later
      · simp at member
      · exact (ih later member).imp_left (List.mem_cons_of_mem first)
    next other =>
      -- The character goes to the front of the first line behind it.
      obtain ⟨head, others, parts⟩ := List.exists_cons_of_ne_nil (lines_ne_nil text)
      rw [← lines, parts, List.modifyHead_cons] at listed
      rw [parts] at ih
      rcases List.mem_cons.mp listed with rfl | later
      · rcases List.mem_cons.mp member with rfl | inside
        · exact ⟨List.mem_cons_self, by simpa using other⟩
        · exact (ih List.mem_cons_self inside).imp_left (List.mem_cons_of_mem first)
      · exact (ih (List.mem_cons_of_mem head later) member).imp_left (List.mem_cons_of_mem first)

/-- The first line of a text, and what follows it. -/
theorem exists_append_newline (text : List Char) :
    ∃ line behind, text = line ++ behind ∧ '\n' ∉ line ∧ behind.head?.all (· = '\n') = true := by
  refine ⟨text.takeWhile (· ≠ '\n'), text.dropWhile (· ≠ '\n'), List.takeWhile_append_dropWhile.symm, ?_, ?_⟩
  · intro member
    simpa using List.mem_takeWhile_imp member
  · have stops := List.head?_dropWhile_not (· ≠ '\n') text
    generalize (text.dropWhile (· ≠ '\n')).head? = next at stops ⊢
    cases next with
    | none => rfl
    | some c => simpa using stops

theorem newline_not_mem (listed : line ∈ lines text) : '\n' ∉ line :=
  fun member => (mem_of_mem_lines listed member).2 rfl

theorem lines_ofLines (some : block ≠ []) (inside : block <:+: lines text) : lines (ofLines block) = block :=
  List.splitOn_intercalate '\n' (fun _ listed => newline_not_mem (inside.subset listed)) some

theorem ofLines_singleton (line : List Char) : ofLines [line] = line := List.intercalate_singleton

theorem ofLines_cons (line : List Char) (some : block ≠ []) : ofLines (line :: block) = line ++ '\n' :: ofLines block := by
  obtain ⟨next, later, rfl⟩ := List.exists_cons_of_ne_nil some
  rw [ofLines, List.intercalate_cons_cons, List.append_assoc, List.singleton_append, ofLines]

/-- Lines in front of others end with a line feed. -/
theorem exists_ofLines_append (block : List (List Char)) (some : after ≠ []) :
    ∃ before, ofLines (block ++ after) = before ++ ofLines after ∧ before.getLast?.all (· = '\n') = true := by
  induction block with
  | nil => exact ⟨[], rfl, rfl⟩
  | cons line block ih =>
    obtain ⟨before, joined, ends⟩ := ih
    refine ⟨line ++ '\n' :: before, ?_, ?_⟩
    · rw [List.cons_append, ofLines_cons line (List.append_ne_nil_of_right_ne_nil block some), joined,
        List.append_assoc, List.cons_append]
    · rw [List.getLast?_append, List.getLast?_cons, Option.some_or]
      cases found : before.getLast? with
      | none => rfl
      | some c => simpa [found] using ends

/-- Lines behind others begin with a line feed. -/
theorem exists_ofLines_append_right (some : block ≠ []) (after : List (List Char)) :
    ∃ behind, ofLines (block ++ after) = ofLines block ++ behind ∧ behind.head?.all (· = '\n') = true := by
  cases after with
  | nil => exact ⟨[], by simp, rfl⟩
  | cons next others =>
    refine ⟨'\n' :: ofLines (next :: others), ?_, rfl⟩
    induction block with
    | nil => exact absurd rfl some
    | cons line block ih =>
      cases block with
      | nil => rw [List.singleton_append, ofLines_cons line (List.cons_ne_nil _ _), ofLines_singleton]
      | cons second block =>
        rw [List.cons_append, ofLines_cons line (by simp), ih (List.cons_ne_nil _ _),
          ofLines_cons line (List.cons_ne_nil _ _), List.append_assoc, List.cons_append]

theorem suffix_lines_append (starts : before.getLast?.all (· = '\n') = true) :
    lines part <:+ lines (before ++ part) := by
  rcases List.eq_nil_or_concat before with rfl | ⟨front, c, rfl⟩
  · exact List.suffix_rfl
  · obtain rfl : c = '\n' := by simpa using starts
    rw [List.concat_eq_append, List.append_assoc, List.singleton_append, lines_append_newline]
    exact List.suffix_append _ _

theorem prefix_lines_append (ends : behind.head?.all (· = '\n') = true) : lines part <+: lines (part ++ behind) := by
  cases behind with
  | nil => rw [List.append_nil]
  | cons c behind =>
    obtain rfl : c = '\n' := by simpa using ends
    rw [lines_append_newline]
    exact List.prefix_append _ _

theorem wholeLines_iff_infix : WholeLines part text ↔ lines part <:+: lines text := by
  constructor
  · rintro ⟨before, behind, rfl, starts, ends⟩
    rw [List.append_assoc]
    exact (prefix_lines_append ends).isInfix.trans (suffix_lines_append starts).isInfix
  · rintro ⟨before, behind, whole⟩
    have some := lines_ne_nil part
    obtain ⟨front, joined, starts⟩ := exists_ofLines_append before (List.append_ne_nil_of_left_ne_nil some behind)
    obtain ⟨rear, inner, ends⟩ := exists_ofLines_append_right some behind
    refine ⟨front, rear, ?_, starts, ends⟩
    rw [← ofLines_lines text, ← whole, List.append_assoc, joined, inner, ofLines_lines, List.append_assoc]

/-- What is put behind a text and has no line feed goes to the end of the last line. -/
theorem exists_lines_append (rest : List Char) (inLine : '\n' ∉ tail) :
    ∃ front last, lines rest = front ++ [last] ∧ lines (rest ++ tail) = front ++ [last ++ tail] := by
  induction rest with
  | nil => exact ⟨[], [], by rw [lines, List.splitOn_nil, List.nil_append], lines_eq_singleton inLine⟩
  | cons c rest ih =>
    obtain ⟨front, last, parts, longer⟩ := ih
    rw [lines] at parts longer
    rw [List.cons_append, lines, lines, List.splitOn_cons_eq_if_modifyHead, List.splitOn_cons_eq_if_modifyHead,
      parts, longer]
    split
    · exact ⟨[] :: front, last, rfl, rfl⟩
    · cases front with
      | nil => exact ⟨[], c :: last, rfl, rfl⟩
      | cons first front => exact ⟨(c :: first) :: front, last, rfl, rfl⟩

/-- A text whose lines all end with a line feed has nothing behind the last one. -/
theorem lines_flatMap (inLine : ∀ line ∈ block, '\n' ∉ line) : lines (block.flatMap (· ++ ['\n'])) = block ++ [[]] := by
  induction block with
  | nil => rfl
  | cons line block ih =>
    rw [List.forall_mem_cons] at inLine
    rw [List.flatMap_cons, List.append_assoc, List.singleton_append, lines_append_newline,
      lines_eq_singleton inLine.1, ih inLine.2, List.singleton_append, List.cons_append]

end Scriptlet.Text
