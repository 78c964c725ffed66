import Scriptlet.Detection.Feature
import Scriptlet.Proofs.Pattern.Spelling
import Scriptlet.Proofs.Text.LetterCase
import Mathlib.Data.List.TakeWhile

/-!
The interpreter that a first line names. The parts of the line before it can be told apart in one way only, but `env`
is a word itself, so it is the interpreter where no word stands behind it and its blanks.
-/
namespace Scriptlet.Detection
open Text (ReadsAs isAllBlank isBlank isWordChar)

def ProgramDirectory (lead : List Char) : Prop :=
  ∃ gap above bin, lead = "#!".toList ++ gap ++ "/".toList ++ above ++ bin ∧ isAllBlank gap = true ∧
    (∃ name ∈ ["", "usr/", "usr/local/"], ReadsAs name.toList above) ∧ ReadsAs "bin/".toList bin

structure LongestWord (text word : List Char) : Prop where
  some : word ≠ []
  all : ∀ c ∈ word, isWordChar c = true
  ends : ∃ rest, text = word ++ rest ∧ ∀ c ∈ rest.head?, isWordChar c = false

def NamedToEnv (text word : List Char) : Prop :=
  ∃ env gap rest, text = env ++ gap ++ rest ∧ ReadsAs "env".toList env ∧ gap ≠ [] ∧ isAllBlank gap = true ∧
    LongestWord rest word

/-- The interpreter that is named behind the directory: the one named to `env`, if there is one. -/
def Named (text word : List Char) : Prop :=
  NamedToEnv text word ∨ (∀ other, ¬ NamedToEnv text other) ∧ LongestWord text word

def Names (line word : List Char) : Prop := ∃ lead text, line = lead ++ text ∧ ProgramDirectory lead ∧ Named text word

def directoryLead : Pattern :=
  Pattern.text "#!" ++ Pattern.many .blank ++ Pattern.text "/"
    ++ Pattern.optional (Pattern.textAnyCase "usr/" ++ Pattern.optional (Pattern.textAnyCase "local/"))
    ++ Pattern.textAnyCase "bin/"

def envLead : Pattern := Pattern.textAnyCase "env" ++ Pattern.run .blank

variable {text rest word other lead line code : List Char} {here : Text.Cursor}

private theorem takeWhile_append_of_ends {kind : Char → Bool} {run : List Char} (all : ∀ c ∈ run, kind c = true)
    (ends : ∀ c ∈ rest.head?, kind c = false) : (run ++ rest).takeWhile kind = run := by
  rw [List.takeWhile_append_of_pos all]
  cases rest with
  | nil => rw [List.takeWhile_nil, List.append_nil]
  | cons c rest => rw [List.takeWhile_cons_of_neg (by simp [ends c rfl]), List.append_nil]

private theorem append_inj_of_ends {kind : Char → Bool} {run run' rest' : List Char} (same : run ++ rest = run' ++ rest')
    (all : ∀ c ∈ run, kind c = true) (all' : ∀ c ∈ run', kind c = true) (ends : ∀ c ∈ rest.head?, kind c = false)
    (ends' : ∀ c ∈ rest'.head?, kind c = false) : run = run' ∧ rest = rest' := by
  have runs : run = run' := by
    rw [← takeWhile_append_of_ends all ends, same, takeWhile_append_of_ends all' ends']
  exact ⟨runs, List.append_cancel_left (runs ▸ same)⟩

namespace LongestWord

theorem unique (named : LongestWord text word) (also : LongestWord text other) : word = other := by
  obtain ⟨rest, stands, ends⟩ := named.ends
  obtain ⟨rest', stands', ends'⟩ := also.ends
  exact (append_inj_of_ends (stands.symm.trans stands') named.all also.all ends ends').1

theorem not_blank (named : LongestWord text word) : ∀ c ∈ text.head?, isBlank c = false := by
  obtain ⟨rest, rfl, _⟩ := named.ends
  obtain ⟨c, later, rfl⟩ := List.exists_cons_of_ne_nil named.some
  have differ : Text.blanks.all (!isWordChar ·) = true := by decide +kernel
  intro d first
  obtain rfl : c = d := by simpa using first
  rw [isBlank, ← Bool.not_eq_true, List.contains_iff_mem]
  intro blank
  have := List.all_eq_true.mp differ c blank
  simp [named.all c List.mem_cons_self] at this

end LongestWord

theorem wordAt?_eq_some_iff : wordAt? here = some word ↔ LongestWord here.rest word := by
  have whole : here.rest = here.rest.takeWhile isWordChar ++ here.rest.dropWhile isWordChar :=
    List.takeWhile_append_dropWhile.symm
  have longest (some : here.rest.takeWhile isWordChar ≠ []) :
      LongestWord here.rest (here.rest.takeWhile isWordChar) := by
    refine ⟨some, fun c member => List.all_eq_true.mp List.all_takeWhile c member, _, whole, fun c first => ?_⟩
    have := List.head?_dropWhile_not isWordChar here.rest
    simp_all
  rw [wordAt?]
  cases found : here.rest.takeWhile isWordChar with
  | nil =>
    refine iff_of_false (by simp) fun named => named.some ?_
    obtain ⟨rest, stands, ends⟩ := named.ends
    rw [← found, stands, takeWhile_append_of_ends named.all ends]
  | cons c later =>
    rw [found] at longest
    have longest := longest (List.cons_ne_nil c later)
    rw [Option.some_inj]
    exact ⟨fun same => same ▸ longest, longest.unique⟩

theorem namedToEnv_iff : NamedToEnv text word ↔ envLead.SpellsThen LongestWord text word := by
  constructor
  · rintro ⟨env, gap, rest, rfl, env_reads, some, blank, named⟩
    exact ⟨env ++ gap, rest, rfl, ⟨env, gap, Pattern.spells_textAnyCase_iff.mpr env_reads,
      Pattern.spells_run_iff.mpr ⟨some, blank⟩, rfl⟩, named⟩
  · rintro ⟨_, rest, rfl, ⟨env, gap, env_spells, gap_spells, rfl⟩, named⟩
    obtain ⟨some, blank⟩ := Pattern.spells_run_iff.mp gap_spells
    exact ⟨env, gap, rest, rfl, Pattern.spells_textAnyCase_iff.mp env_spells, some, blank, named⟩

private theorem length_of_readsAs {wanted : List Char} (reads : ReadsAs wanted text) : text.length = wanted.length := by
  simpa using congrArg List.length reads

theorem NamedToEnv.unique (named : NamedToEnv text word) (also : NamedToEnv text other) : word = other := by
  obtain ⟨env, gap, rest, stands, reads, _, blank, longest⟩ := named
  obtain ⟨env', gap', rest', stands', reads', _, blank', longest'⟩ := also
  rw [stands, List.append_assoc, List.append_assoc] at stands'
  obtain ⟨_, behind⟩ := List.append_inj stands' ((length_of_readsAs reads).trans (length_of_readsAs reads').symm)
  obtain ⟨_, rfl⟩ := append_inj_of_ends behind (List.all_eq_true.mp blank) (List.all_eq_true.mp blank')
    longest.not_blank longest'.not_blank
  exact longest.unique longest'

theorem Named.unique (named : Named text word) (also : Named text other) : word = other := by
  rcases named with named | ⟨none, named⟩ <;> rcases also with also | ⟨none', also⟩
  · exact named.unique also
  · exact absurd named (none' word)
  · exact absurd also (none other)
  · exact named.unique also

theorem matchThen_envLead_iff : envLead.matchThen wordAt? here = some word ↔ NamedToEnv here.rest word := by
  rw [namedToEnv_iff]
  refine Pattern.matchThen_eq_some_iff_of_unique (by decide) (fun _ _ => wordAt?_eq_some_iff) fun first second one two => ?_
  exact (namedToEnv_iff.mpr one).unique (namedToEnv_iff.mpr two)

/-- Behind the directory `env` is tried first, and what is named to it is taken. -/
theorem matchThen_optional_envLead_iff :
    (Pattern.optional envLead).matchThen wordAt? here = some word ↔ Named here.rest word := by
  have refused : envLead.matchThen wordAt? here = none ↔ ∀ other, ¬ NamedToEnv here.rest other := by
    simp only [Option.eq_none_iff_forall_ne_some, ne_eq, matchThen_envLead_iff]
  rw [Pattern.matchThen, Option.or_eq_some_iff, matchThen_envLead_iff, refused, wordAt?_eq_some_iff, Named]

private theorem spells_above_iff :
    (Pattern.optional (Pattern.textAnyCase "usr/" ++ Pattern.optional (Pattern.textAnyCase "local/"))).Spells text ↔
      ∃ name ∈ ["", "usr/", "usr/local/"], ReadsAs name.toList text := by
  have parts : "usr/local/".toList = "usr/".toList ++ "local/".toList := by decide
  simp only [List.mem_cons, List.not_mem_nil, or_false, exists_eq_or_imp, exists_eq_left]
  constructor
  · rintro (⟨usr, below, usr_spells, (local_spells | rfl), rfl⟩ | rfl)
    · right; right
      rw [parts, ReadsAs, List.map_append, List.map_append, Pattern.spells_textAnyCase_iff.mp usr_spells,
        Pattern.spells_textAnyCase_iff.mp local_spells]
    · right; left
      rw [List.append_nil]
      exact Pattern.spells_textAnyCase_iff.mp usr_spells
    · exact .inl rfl
  · rintro (empty | usr | both)
    · exact .inr (List.map_eq_nil_iff.mp empty)
    · exact .inl ⟨text, [], Pattern.spells_textAnyCase_iff.mpr usr, .inr rfl, (List.append_nil text).symm⟩
    · rw [parts, ReadsAs, List.map_append, List.map_eq_append_iff] at both
      obtain ⟨usr, below, rfl, usr_reads, local_reads⟩ := both
      exact .inl ⟨usr, below, Pattern.spells_textAnyCase_iff.mpr usr_reads,
        .inl (Pattern.spells_textAnyCase_iff.mpr local_reads), rfl⟩

theorem spells_directoryLead_iff : directoryLead.Spells lead ↔ ProgramDirectory lead := by
  constructor
  · rintro ⟨_, bin, ⟨_, above, ⟨_, slash, ⟨marks, gap, marks_spells, blank, rfl⟩, slash_spells, rfl⟩, above_spells, rfl⟩,
      bin_spells, rfl⟩
    obtain rfl := Pattern.spells_text_iff.mp marks_spells
    obtain rfl := Pattern.spells_text_iff.mp slash_spells
    exact ⟨gap, above, bin, rfl, blank, spells_above_iff.mp above_spells, Pattern.spells_textAnyCase_iff.mp bin_spells⟩
  · rintro ⟨gap, above, bin, rfl, blank, above_reads, bin_reads⟩
    exact ⟨_, bin, ⟨_, above, ⟨_, _, ⟨_, gap, Pattern.spells_text_iff.mpr rfl, blank, rfl⟩,
      Pattern.spells_text_iff.mpr rfl, rfl⟩, spells_above_iff.mpr above_reads, rfl⟩,
      Pattern.spells_textAnyCase_iff.mpr bin_reads, rfl⟩

private theorem directory_unique : ∀ name ∈ ["", "usr/", "usr/local/"], ∀ name' ∈ ["", "usr/", "usr/local/"],
    (name.toList ++ "bin/".toList).map Text.foldChar <+: (name'.toList ++ "bin/".toList).map Text.foldChar →
      name = name' := by
  decide

private theorem map_fold_path {above bin : List Char} {name : String} (above_reads : ReadsAs name.toList above)
    (bin_reads : ReadsAs "bin/".toList bin) :
    (above ++ bin).map Text.foldChar = (name.toList ++ "bin/".toList).map Text.foldChar := by
  rw [List.map_append, List.map_append, above_reads, bin_reads]

/-- No two directories are the beginning of one line. -/
theorem ProgramDirectory.unique {lead' rest' : List Char} (directory : ProgramDirectory lead)
    (also : ProgramDirectory lead') (same : lead ++ rest = lead' ++ rest') : lead = lead' ∧ rest = rest' := by
  obtain ⟨gap, above, bin, rfl, blank, ⟨name, listed, above_reads⟩, bin_reads⟩ := directory
  obtain ⟨gap', above', bin', rfl, blank', ⟨name', listed', above_reads'⟩, bin_reads'⟩ := also
  have slash (path : List Char) : ∀ c ∈ ("/".toList ++ path).head?, isBlank c = false := by
    rintro c ⟨⟩
    decide
  simp only [List.append_assoc] at same
  obtain ⟨rfl, behind⟩ := append_inj_of_ends (List.append_cancel_left same) (List.all_eq_true.mp blank)
    (List.all_eq_true.mp blank') (slash _) (slash _)
  have paths : (above ++ bin) ++ rest = (above' ++ bin') ++ rest' := by
    simpa only [List.append_assoc] using List.append_cancel_left behind
  have folded := map_fold_path above_reads bin_reads
  have folded' := map_fold_path above_reads' bin_reads'
  -- One path is a prefix of the other one, and so is its name.
  obtain rfl : name = name' := by
    rcases List.prefix_or_prefix_of_prefix ⟨rest, paths⟩ ⟨rest', rfl⟩ with shorter | shorter
    · exact directory_unique name listed name' listed' (folded ▸ folded' ▸ shorter.map Text.foldChar)
    · exact (directory_unique name' listed' name listed (folded ▸ folded' ▸ shorter.map Text.foldChar)).symm
  have length : (above ++ bin).length = (above' ++ bin').length := by
    simpa using congrArg List.length (folded.trans folded'.symm)
  obtain ⟨path, rfl⟩ := List.append_inj paths length
  refine ⟨?_, rfl⟩
  rw [List.append_assoc, path, ← List.append_assoc]

theorem Names.unique (names : Names line word) (also : Names line other) : word = other := by
  obtain ⟨lead, text, rfl, directory, named⟩ := names
  obtain ⟨lead', text', same, directory', named'⟩ := also
  obtain ⟨-, rfl⟩ := directory.unique directory' same
  exact named.unique named'

theorem names_iff : Names line word ↔ directoryLead.SpellsThen Named line word := by
  simp only [Names, Pattern.SpellsThen, spells_directoryLead_iff]

theorem interpreter?_eq_some_iff : interpreter? code = some word ↔ Names (Text.firstLine code) word := by
  have lead : interpreter? code = directoryLead.matchThen ((Pattern.optional envLead).matchThen wordAt?)
      (Text.Cursor.start (Text.firstLine code)) := rfl
  rw [lead, names_iff]
  refine Pattern.matchThen_eq_some_iff_of_unique (by decide) (fun _ _ => matchThen_optional_envLead_iff)
    fun first second one two => ?_
  exact (names_iff.mpr one).unique (names_iff.mpr two)

theorem firstLine_of_unbroken (unbroken : '\n' ∉ line) : Text.firstLine line = line := by
  rw [Text.firstLine, List.takeWhile_eq_self_iff]
  exact fun c member => decide_eq_true (ne_of_mem_of_not_mem member unbroken)

/-- The interpreter on a line is the word behind a directory of programs, or behind `env` and blanks there wherever a
word stands behind them; the language of a text with this first line is the one of that word. -/
theorem shebang_exact (unbroken : '\n' ∉ line) :
    (∀ word, interpreter? line = some word ↔ Names line word) ∧
    (∀ lead text word, line = lead ++ text → ProgramDirectory lead → NamedToEnv text word →
      interpreter? line = some word) ∧
    ∀ code, Text.firstLine code = line →
      (∀ word, Names line word → shebangLanguage? code = interpreters.lookup (String.ofList (Text.lower word))) ∧
      ((∀ word, ¬ Names line word) → shebangLanguage? code = none) := by
  have exact (word : List Char) : interpreter? line = some word ↔ Names line word := by
    rw [interpreter?_eq_some_iff, firstLine_of_unbroken unbroken]
  refine ⟨exact, fun lead text word stands directory named => ?_, fun code first => ⟨fun word names => ?_, fun none => ?_⟩⟩
  · exact (exact word).mpr ⟨lead, text, stands, directory, .inl named⟩
  · rw [shebangLanguage?, interpreter?_eq_some_iff.mpr (first ▸ names), Option.bind_some]
  · have missing : interpreter? code = Option.none := by
      rw [Option.eq_none_iff_forall_ne_some]
      exact fun word found => none word (first ▸ interpreter?_eq_some_iff.mp found)
    rw [shebangLanguage?, missing, Option.bind_none]

theorem shebang_exact_env :
    '\n' ∉ "#! /USR/bin/env envoy -x".toList ∧
      interpreter? "#! /USR/bin/env envoy -x".toList = some "envoy".toList ∧
      shebangLanguage? "#! /USR/bin/env envoy -x\nimport os".toList =
        interpreters.lookup (String.ofList (Text.lower "envoy".toList)) := by
  have unbroken : '\n' ∉ "#! /USR/bin/env envoy -x".toList := by decide
  have directory : ProgramDirectory "#! /USR/bin/".toList :=
    ⟨[' '], "USR/".toList, "bin/".toList, by decide, by decide, ⟨"usr/", by decide, by decide⟩, by decide⟩
  have longest : LongestWord "envoy -x".toList "envoy".toList := by
    refine ⟨by decide, List.all_eq_true.mp (by decide), " -x".toList, by decide, ?_⟩
    rintro c ⟨⟩
    decide
  have named : NamedToEnv "env envoy -x".toList "envoy".toList :=
    ⟨"env".toList, [' '], "envoy -x".toList, by decide, by decide, by decide, by decide, longest⟩
  obtain ⟨_, taken, looked⟩ := shebang_exact unbroken
  refine ⟨unbroken, taken _ _ _ (by decide) directory named, (looked _ (by decide)).1 _ ?_⟩
  exact ⟨"#! /USR/bin/".toList, "env envoy -x".toList, by decide, directory, .inl named⟩

end Scriptlet.Detection
