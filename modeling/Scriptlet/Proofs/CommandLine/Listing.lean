import Scriptlet.Proofs.CommandLine.Accounting
import Scriptlet.Proofs.Highlight.Passes
import Scriptlet.Proofs.Text.Lines
import Scriptlet.Proofs.Text.Literal

/-!
The listing of the highlighted parts of a text, read again. The output has one line for each part, and the fields of
a line are cut at its first tabs; the last one is a literal, in which nothing can end the line or the field.
-/
namespace Scriptlet.CommandLine
open Scriptlet.CommandLine.Action

def fieldsOf : (tabs : Nat) → (line : List Char) → List (List Char)
  | 0, line => [line]
  | tabs + 1, line =>
    match line.dropWhile (· ≠ '\t') with
    | [] => [line]
    | _ :: rest => line.takeWhile (· ≠ '\t') :: fieldsOf tabs rest

def naturalOf? (digits : List Char) : Option Nat :=
  if digits ≠ [] ∧ digits.all Char.isDigit = true then some (Nat.ofDigitChars 10 digits 0) else none

def readRow? (line : List Char) : Option (Span × String) :=
  match fieldsOf 3 line with
  | [start, length, kind, literal] => do
    let start ← naturalOf? start
    let length ← naturalOf? length
    let kind ← TokenKind.all.find? fun other => other.name.toList = kind
    let text ← Text.Quoted.decode? literal
    return (⟨start, length, kind⟩, String.ofList text)
  | _ => none

/-- The language in which a text is highlighted: the given one, or else the most likely one of the settings. -/
inductive HighlightedIn (settings : Settings) (code : String) : Option String → String → Prop
  | given (name : String) : HighlightedIn settings code (some name) name
  | likely {detector : Detector} (made : Detector.ofLanguages settings.detection.languages = .ok detector) :
      HighlightedIn settings code none (detector.detectTop (some code)).language.id

variable {field rest : List Char}

theorem fieldsOf_append (tabs : Nat) (inside : '\t' ∉ field) :
    fieldsOf (tabs + 1) (field ++ '\t' :: rest) = field :: fieldsOf tabs rest := by
  have all (c : Char) (member : c ∈ field) : decide (c ≠ '\t') = true :=
    decide_eq_true (ne_of_mem_of_not_mem member inside)
  rw [fieldsOf, List.dropWhile_append_of_pos all, List.takeWhile_append_of_pos all]
  simp

theorem toList_spanRow (code : List Char) (span : Span) : (spanRow code span).toList =
    Nat.toDigits 10 span.start ++ '\t' :: (Nat.toDigits 10 span.length ++ '\t' ::
      (span.kind.name.toList ++ '\t' :: Text.Quoted.encode (span.chars code))) := by
  rw [spanRow, Text.quoted, String.toList_intercalate]
  simp

private theorem not_mem_toDigits (n : Nat) {c : Char} (other : c.isDigit = false) : c ∉ Nat.toDigits 10 n := by
  intro member
  rw [Nat.isDigit_of_mem_toDigits (by decide) (by decide) member] at other
  cases other

private theorem not_mem_encode (code : List Char) {c : Char} (other : Text.isPrintable c = false) :
    c ∉ Text.Quoted.encode code := by
  intro member
  rw [Text.Quoted.isPrintable_of_mem_encode member] at other
  cases other

private theorem not_mem_name (kind : TokenKind) : '\t' ∉ kind.name.toList ∧ '\n' ∉ kind.name.toList := by
  cases kind <;> decide

theorem newline_not_mem_spanRow (code : List Char) (span : Span) : '\n' ∉ (spanRow code span).toList := by
  have start := not_mem_toDigits span.start (c := '\n') (by decide)
  have length := not_mem_toDigits span.length (c := '\n') (by decide)
  have literal := not_mem_encode (span.chars code) (c := '\n') (by decide)
  have name := (not_mem_name span.kind).2
  rw [toList_spanRow]
  simp [start, length, name, literal]

theorem count_tab_spanRow (code : List Char) (span : Span) : (spanRow code span).toList.count '\t' = 3 := by
  have start := not_mem_toDigits span.start (c := '\t') (by decide)
  have length := not_mem_toDigits span.length (c := '\t') (by decide)
  have literal := not_mem_encode (span.chars code) (c := '\t') (by decide)
  have name := (not_mem_name span.kind).1
  rw [toList_spanRow]
  simp only [List.count_append, List.count_cons_self, List.count_eq_zero.mpr start, List.count_eq_zero.mpr length,
    List.count_eq_zero.mpr name, List.count_eq_zero.mpr literal]

theorem naturalOf?_toDigits (n : Nat) : naturalOf? (Nat.toDigits 10 n) = some n := by
  have digits : (Nat.toDigits 10 n).all Char.isDigit = true :=
    List.all_eq_true.mpr fun c => Nat.isDigit_of_mem_toDigits (by decide) (by decide)
  rw [naturalOf?, if_pos ⟨Nat.toDigits_ne_nil, digits⟩, Nat.ofDigitChars_ten_toDigits]

theorem readRow?_spanRow (code : List Char) (span : Span) :
    readRow? (spanRow code span).toList = some (span, String.ofList (span.chars code)) := by
  have kind : TokenKind.all.find? (fun other => other.name.toList = span.kind.name.toList) = some span.kind := by
    cases span.kind <;> decide
  rw [readRow?, toList_spanRow, fieldsOf_append 2 (not_mem_toDigits _ (by decide)),
    fieldsOf_append 1 (not_mem_toDigits _ (by decide)), fieldsOf_append 0 (not_mem_name span.kind).1, fieldsOf]
  simp [naturalOf?_toDigits, kind, Text.Quoted.decode?_encode]

theorem returns_forM_print {α : Type} (items : List α) (row : α → String) (before : Session) :
    ∃ after, (items.forM fun item => print (row item)).Returns before () after ∧ after.warned = before.warned ∧
      after.printed.toList =
        before.printed.toList ++ (items.map fun item => (row item).toList).flatMap (· ++ ['\n']) := by
  induction items generalizing before with
  | nil => exact ⟨before, rfl, rfl, by simp⟩
  | cons item items ih =>
    obtain ⟨after, returned, warned, printed⟩ :=
      ih { before with printed := before.printed ++ row item ++ "\n" }
    refine ⟨after, ?_, warned, ?_⟩
    · rw [Returns, List.forM, outcome_bind, print, outcome_modify]
      exact returned
    · rw [printed]
      simp

variable {settings : Settings} {text name : String} {given : Option String}

theorem returns_runHighlight (before : Session) (highlighted : HighlightedIn settings text given name)
    (supported : Highlight.supports (some name) = true) :
    ∃ after, (runHighlight settings text given).Returns before () after ∧ after.warned = before.warned ∧
      after.printed.toList = before.printed.toList ++
        ((Highlight.analyze (some text) (some name)).map fun span => (spanRow text.toList span).toList).flatMap
          (· ++ ['\n']) := by
  have lists := returns_forM_print (Highlight.analyze (some text) (some name)) (spanRow text.toList ·)
  cases highlighted with
  | given name =>
    obtain ⟨after, returned, listed⟩ := lists before
    refine ⟨after, ?_, listed⟩
    rw [Returns, runHighlight, outcome_bind, outcome_pure]
    dsimp only
    rw [if_pos supported]
    exact returned
  | likely made =>
    have found : ((detectorFor settings text).outcome before).1 = .ok _ := detectorFor_of_ofLanguages made
    obtain ⟨host, logged⟩ := exists_host_detectorFor settings text before
    rw [runHighlight]
    simp only [Returns, outcome_bind]
    generalize (detectorFor settings text).outcome before = detected at found logged ⊢
    obtain ⟨result, between⟩ := detected
    obtain rfl := found
    obtain rfl := logged
    obtain ⟨after, returned, listed⟩ := lists { before with host }
    refine ⟨after, ?_, listed⟩
    dsimp only
    rw [outcome_pure]
    dsimp only
    rw [if_pos supported]
    exact returned

namespace Program
variable {program : Program} {config : Option Path} {verbose : Bool} {files : FileSystem} {sink : LogSink}
variable {source : Source}

theorem returns_settingsFor {task : Task}
    (loaded : Config.load program.files program.env config = .ok settings)
    (opened : LogSink.ofSettings program.library settings.logging verbose program.files = (files, .ok sink)) :
    (settingsFor program.env program.library ⟨task, config, verbose⟩).Returns program.start settings
      (program.opened files sink) := by
  have ended : (settingsFor program.env program.library ⟨task, config, verbose⟩).outcome program.start = _ :=
    outcome_settingsFor_of_load loaded
  have known : program.start.host.files = program.files := rfl
  rw [known, opened] at ended
  exact ended

theorem run_of_returns {after : Session} (returned : program.action.Returns program.start () after) :
    program.run.exitCode = 0 ∧ program.run.stdout = after.printed ∧ program.run.stderr = after.warned := by
  have finish : program.action.run program.start = (.ok (), after) := returned
  rw [run, finish]
  exact ⟨rfl, rfl, String.append_empty⟩

/-- The output of a listing has one line for each span, ended by a line feed, and each line has three tabs; its fields
are read as the span and the text in it. The listed text is what the source gives once the log is open. -/
theorem highlight_listing_decodes
    (asked : program.invocation = .ok (.request .highlight ⟨.highlight source given, config, verbose⟩))
    (loaded : Config.load program.files program.env config = .ok settings)
    (opened : LogSink.ofSettings program.library settings.logging verbose program.files = (files, .ok sink))
    (read : source.text program.library (program.opened files sink).host.files = text)
    (highlighted : HighlightedIn settings text given name) (supported : Highlight.supports (some name) = true) :
    program.run.exitCode = 0 ∧ program.run.stderr = "" ∧
      ∃ rows, Text.lines program.run.stdout.toList = rows ++ [[]] ∧ (∀ row ∈ rows, row.count '\t' = 3) ∧
        rows.map readRow? =
          (Highlight.analyze (some text) (some name)).map fun span => some (span, span.text text) := by
  obtain ⟨after, returned, warned, printed⟩ :=
    returns_runHighlight (program.opened files sink) highlighted supported
  have ran : program.action.Returns program.start () after := by
    rw [Program.action, asked]
    refine returns_bind_iff.mpr ⟨settings, _, returns_settingsFor loaded opened, ?_⟩
    refine returns_bind_iff.mpr ⟨_, _, outcome_get, ?_⟩
    dsimp only
    rw [read]
    exact returned
  obtain ⟨exitCode, stdout, stderr⟩ := run_of_returns ran
  refine ⟨exitCode, stderr.trans warned, (Highlight.analyze (some text) (some name)).map fun span =>
    (spanRow text.toList span).toList, ?lines, ?tabs, ?reads⟩
  case lines =>
    have silent : (program.opened files sink).printed.toList = [] := rfl
    rw [stdout, printed, silent, List.nil_append]
    refine Text.lines_flatMap fun row listed => ?_
    obtain ⟨span, _, rfl⟩ := List.mem_map.mp listed
    exact newline_not_mem_spanRow text.toList span
  case tabs =>
    intro row listed
    obtain ⟨span, _, rfl⟩ := List.mem_map.mp listed
    exact count_tab_spanRow text.toList span
  case reads =>
    simp only [List.map_map, Function.comp_def, readRow?_spanRow, Span.text]

/-- A string over two lines, with both quotes, a tab, a backslash and a bell in it. -/
theorem highlight_listing_decodes_string :
    let text := "'''\"'\\\t\n\x07'''"
    let files := (FileSystem.empty ["w"]).withFile ["w", "a.py"] text.toUTF8
    let program : Program := ⟨["highlight", "a.py", "-l", "python"], files, .empty, .empty, ⟨none, none⟩, .standard⟩
    program.invocation =
      .ok (.request .highlight ⟨.highlight (.file ["w", "a.py"] text.toUTF8) (some "python"), none, false⟩) ∧
    program.run.exitCode = 0 ∧ ∃ rows, Text.lines program.run.stdout.toList = rows ++ [[]] ∧
      rows.map readRow? = [some (⟨0, 12, .string⟩, text)] := by
  intro text files program
  have asked : program.invocation =
      .ok (.request .highlight ⟨.highlight (.file ["w", "a.py"] text.toUTF8) (some "python"), none, false⟩) := by
    rfl
  have loaded : Config.load program.files program.env none = .ok .standard := by rfl
  have opened : LogSink.ofSettings program.library Settings.standard.logging false program.files =
      (files, .ok ⟨.warning, .console, none, .silent⟩) := by
    rfl
  have read : Source.text program.library (program.opened files ⟨.warning, .console, none, .silent⟩).host.files
      (.file ["w", "a.py"] text.toUTF8) = text := by
    decide +kernel
  have parsed : Language.parse? "python" = some .python := by rfl
  have spans : Highlight.analyze (some text) (some "python") = [⟨0, 12, .string⟩] :=
    (Highlight.analyze_eq_singleton_iff parsed rfl _).mpr (by decide +kernel)
  obtain ⟨exitCode, _, rows, lines, _, reads⟩ :=
    highlight_listing_decodes asked loaded opened read (.given "python") (by decide)
  refine ⟨asked, exitCode, rows, lines, ?_⟩
  rw [reads, spans]
  decide

end Program
end Scriptlet.CommandLine
