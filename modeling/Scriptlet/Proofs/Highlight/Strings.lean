import Scriptlet.Proofs.Highlight.Locality
import Scriptlet.Proofs.Highlight.Passes
import Scriptlet.Proofs.Highlight.Regions

/-!
The strings that are highlighted. A string is a block string, or it begins with a quote and is read unit by
unit up to the next quote that is not escaped, to the end of its line or to the end of the text.
-/
namespace Scriptlet
open Text (Cursor StandsAt)

namespace Highlight

/-- What a string is made of: characters after a backslash that takes them along, and others. -/
inductive StringUnit where
  | escaped (c : Char)
  | plain (c : Char)
  deriving DecidableEq, Repr

/-- Whether a text reads as units from one place to another. Where there are escapes only a backslash at the end
of the text stands for itself. -/
inductive UnitsBetween (code : List Char) (escapes : Bool) : Nat → List StringUnit → Nat → Prop
  | nil (i : Nat) : UnitsBetween code escapes i [] i
  | escaped {i last : Nat} {c : Char} {units : List StringUnit} (escape : escapes = true)
      (mark : code[i]? = some '\\') (next : code[i + 1]? = some c) (rest : UnitsBetween code escapes (i + 2) units last) :
      UnitsBetween code escapes i (.escaped c :: units) last
  | plain {i last : Nat} {c : Char} {units : List StringUnit} (here : code[i]? = some c)
      (unmarked : escapes = true → c = '\\' → code[i + 1]? = none) (rest : UnitsBetween code escapes (i + 1) units last) :
      UnitsBetween code escapes i (.plain c :: units) last

/-- Whether a string in quotes whose last unit ends at `last` ends at `stop`: behind its closing quote, before a
line feed or with the text. -/
def QuoteEnds (quote : Char) (raw : Bool) (code : List Char) (last stop : Nat) : Prop :=
  code[last]? = some quote ∧ stop = last + 1 ∨ raw = false ∧ code[last]? = some '\n' ∧ stop = last ∨
    last = code.length ∧ stop = last

/-- A string in quotes: no unit of it is the quote or, unless it is raw, a line feed that is not escaped. -/
def IsQuoted (quote : Char) (escapes raw : Bool) (code : List Char) (start stop : Nat) : Prop :=
  code[start]? = some quote ∧ ∃ units last, UnitsBetween code escapes (start + 1) units last ∧
    (∀ c, .plain c ∈ units → c ≠ quote ∧ (raw = false → c ≠ '\n')) ∧ QuoteEnds quote raw code last stop

def IsString (lexicon : Lexicon) (code : List Char) (start stop : Nat) : Prop :=
  (∃ delimiters ∈ lexicon.blockStrings, StandsAt delimiters.opening.toList code start ∧
      delimiters.Closes code start stop) ∨
    ∃ quote ∈ lexicon.quotes, IsQuoted quote lexicon.escapes (lexicon.rawQuotes.contains quote) code start stop

variable {quote : Char} {escapes raw : Bool} {code text : List Char} {i : Nat} {span : Span} {lexicon : Lexicon}
variable {language : Language}

theorem units_of_stringTail (quote : Char) (escapes raw : Bool) (rest : code.drop i = text) (inside : i ≤ code.length) :
    ∃ units last, UnitsBetween code escapes i units last ∧
      (quote ≠ '\\' → ∀ c, .plain c ∈ units → c ≠ quote ∧ (raw = false → c ≠ '\n')) ∧
      QuoteEnds quote raw code last (i + stringTail quote escapes raw text) := by
  have next {i : Nat} {c : Char} {later : List Char} (rest : code.drop i = c :: later) :
      code[i]? = some c ∧ code.drop (i + 1) = later ∧ i + 1 ≤ code.length := by
    have bound := congrArg List.length rest
    rw [List.length_drop, List.length_cons] at bound
    refine ⟨?_, ?_, by omega⟩
    · rw [← List.head?_drop, rest, List.head?_cons]
    · rw [← List.tail_drop, rest, List.tail_cons]
  fun_induction stringTail quote escapes raw text generalizing i with
  | case1 =>
    have ends := List.drop_eq_nil_iff.mp rest
    exact ⟨[], i, .nil i, by simp, .inr (.inr ⟨by omega, rfl⟩)⟩
  | case2 c later ends =>
    simp only [Bool.and_eq_true, decide_eq_true_eq, Bool.not_eq_true'] at ends
    obtain ⟨here, -, -⟩ := next rest
    exact ⟨[], i, .nil i, by simp, .inr (.inl ⟨ends.2, ends.1 ▸ here, rfl⟩)⟩
  | case3 c stays escape =>
    simp only [Bool.and_eq_true, decide_eq_true_eq] at escape
    obtain ⟨here, remains, bound⟩ := next rest
    have ends := List.drop_eq_nil_iff.mp remains
    refine ⟨[.plain c], i + 1, .plain here (fun _ _ => List.getElem?_eq_none ends) (.nil _), ?_,
      .inr (.inr ⟨by omega, rfl⟩)⟩
    simp only [List.mem_singleton, StringUnit.plain.injEq, forall_eq, escape.2]
    exact fun noMark => ⟨noMark.symm, fun _ => by decide⟩
  | case4 c stays escape d later ih =>
    simp only [Bool.and_eq_true, decide_eq_true_eq] at escape
    obtain ⟨here, remains, _⟩ := next rest
    obtain ⟨after, remains, bound⟩ := next remains
    obtain ⟨units, last, read, plain, ends⟩ := ih remains bound
    refine ⟨.escaped d :: units, last, .escaped escape.1 (escape.2 ▸ here) after read, by simpa using plain, ?_⟩
    rwa [← Nat.add_assoc]
  | case5 later stays unmarked =>
    obtain ⟨here, -, -⟩ := next rest
    exact ⟨[], i, .nil i, by simp, .inl ⟨here, rfl⟩⟩
  | case6 c later stays unmarked other ih =>
    obtain ⟨here, remains, bound⟩ := next rest
    obtain ⟨units, last, read, plain, ends⟩ := ih remains bound
    refine ⟨.plain c :: units, last, .plain here (fun escape mark => ?_) read, ?_, ?_⟩
    · simp [escape, mark] at unmarked
    · intro noMark d member
      rcases List.mem_cons.mp member with same | later
      · obtain rfl := StringUnit.plain.inj same
        exact ⟨other, fun ends newline => stays (by simp [ends, newline])⟩
      · exact plain noMark d later
    · rwa [← Nat.add_assoc]

theorem quoteEnds_of_makes (makes : (stringProposer quote escapes raw).Makes code span) :
    span.kind = .string ∧ code[span.start]? = some quote ∧ ∃ units last,
      UnitsBetween code escapes (span.start + 1) units last ∧
      (quote ≠ '\\' → ∀ c, .plain c ∈ units → c ≠ quote ∧ (raw = false → c ≠ '\n')) ∧
      QuoteEnds quote raw code last span.stop := by
  obtain ⟨proposal, proposed, length, own⟩ := makes
  simp only [stringProposer, Text.place] at proposed
  split at proposed
  next => cases proposed
  next c rest here =>
    obtain ⟨opens, same⟩ := Option.ite_none_right_eq_some.mp proposed
    obtain rfl := Option.some.inj same
    have bound := congrArg List.length here
    rw [List.length_drop, List.length_cons] at bound
    have behind : code.drop (span.start + 1) = rest := by rw [← List.tail_drop, here, List.tail_cons]
    refine ⟨own.symm, ?_, ?_⟩
    · rw [← List.head?_drop, here, opens, List.head?_cons]
    · have ends : span.stop = span.start + 1 + stringTail quote escapes raw rest := by
        rw [Span.stop, ← length, Nat.add_right_comm, Nat.add_assoc]
      rw [ends]
      exact units_of_stringTail quote escapes raw behind (by omega)

theorem isQuoted_of_makes (noMark : quote ≠ '\\') (makes : (stringProposer quote escapes raw).Makes code span) :
    span.kind = .string ∧ IsQuoted quote escapes raw code span.start span.stop := by
  obtain ⟨kind, opens, units, last, read, plain, ends⟩ := quoteEnds_of_makes makes
  exact ⟨kind, opens, units, last, read, plain noMark, ends⟩

theorem noMark_of_mem_quotes (known : Lexicon.of? language = some lexicon) (listed : quote ∈ lexicon.quotes) :
    quote ≠ '\\' := by
  have checked : lexicon.quotes.all (· ≠ '\\') = true := by
    cases language <;> cases known <;> decide
  simpa using List.all_eq_true.mp checked quote listed

theorem noNewline_of_mem_quotes (known : Lexicon.of? language = some lexicon) (listed : quote ∈ lexicon.quotes) :
    quote ≠ '\n' := by
  have inLine := Lexicon.inLine_of_of? known
  simp only [Lexicon.inLine, Bool.and_eq_true] at inLine
  simpa using List.all_eq_true.mp inLine.2 quote listed

theorem isString_of_mem_claimsOf (known : Lexicon.of? language = some lexicon)
    (member : span ∈ (claimsOf lexicon code).spans) (string : span.kind = .string) :
    IsString lexicon code span.start span.stop := by
  rw [mem_claimsOf_iff_of_string string, stringPass_eq] at member
  rcases makes_of_mem_walkAll member with early | ⟨propose, pass, makes⟩
  · rcases makes_of_mem_walkAll early with before | ⟨propose, pass, makes⟩
    · rw [mem_commentPass_iff (by simp [string])] at before
      cases before
    · obtain ⟨delimiters, listed, rfl⟩ := List.mem_map.mp pass
      have some := (Lexicon.openings_of_inLine (Lexicon.inLine_of_of? known)).2.1 delimiters listed
      exact .inl ⟨delimiters, listed, (closes_of_makes some makes).2⟩
  · obtain ⟨quote, listed, rfl⟩ := List.mem_map.mp pass
    exact .inr ⟨quote, listed, (isQuoted_of_makes (noMark_of_mem_quotes known listed) makes).2⟩

/-- In every text and every language that is highlighted, each string is a block string from its opening text to
the end of the first closing text behind that, or goes from a quote over units none of which is a quote or a line
feed by itself to the closing quote, the end of the line or the end of the text. -/
theorem analyze_strings {name : String} {language : Language} {lexicon : Lexicon}
    (parsed : Language.parse? name = some language) (known : Lexicon.of? language = some lexicon) (code : String)
    {span : Span} (member : span ∈ analyze (some code) (some name)) (string : span.kind = .string) :
    IsString lexicon code.toList span.start span.stop := by
  exact isString_of_mem_claimsOf known ((mem_analyze_iff parsed known code).mp member) string

/-- An escaped quote closes no string, and a line feed ends one that is left open. -/
theorem analyze_strings_escaped_quote :
    Language.parse? "Python" = some .python ∧ Lexicon.of? .python = some .python ∧
      ⟨4, 6, .string⟩ ∈ analyze (some "s = 'it\\'s\nx") (some "Python") ∧
      IsString .python "s = 'it\\'s\nx".toList 4 10 := by
  have parsed : Language.parse? "Python" = some .python := by decide +kernel
  have member : ⟨4, 6, .string⟩ ∈ analyze (some "s = 'it\\'s\nx") (some "Python") := by decide +kernel
  exact ⟨parsed, rfl, member, analyze_strings parsed rfl _ member rfl⟩

end Highlight
end Scriptlet
