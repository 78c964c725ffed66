import Mathlib.Algebra.Ring.Parity
import Scriptlet.Launch.Request

/-!
Command lines that can be split into words. Inside double quotes only the next one of them and backslashes
matter, and a line without single quotes and backslashes is split if its double quotes come in pairs.
-/
namespace Scriptlet.Launch
variable {line text : List Char}

/-- Whether a text has no single quote and no backslash. -/
def IsMild (text : List Char) : Prop := '\'' ∉ text ∧ '\\' ∉ text

/-- Whether a text has no quote of either kind and no backslash. -/
def IsPlain (text : List Char) : Prop := '"' ∉ text ∧ IsMild text

instance : Decidable (IsMild text) := inferInstanceAs (Decidable (_ ∧ _))
instance : Decidable (IsPlain text) := inferInstanceAs (Decidable (_ ∧ _))

theorem isMild_append {more : List Char} : IsMild (text ++ more) ↔ IsMild text ∧ IsMild more := by
  simp only [IsMild, List.mem_append, not_or]
  tauto

theorem isMild_cons {c : Char} : IsMild (c :: text) ↔ (c ≠ '\'' ∧ c ≠ '\\') ∧ IsMild text := by
  simp only [IsMild, List.mem_cons, not_or, ne_comm]
  tauto

theorem exists_splitFrom_of_paired (mild : IsMild line) (word : List Char) :
    (Even (line.count '"') → ∃ words, splitFrom .between word line = .ok words) ∧
    (Even (line.count '"') → ∃ words, splitFrom .inWord word line = .ok words) ∧
    (Odd (line.count '"') → ∃ words, splitFrom (.inQuotes '"') word line = .ok words) := by
  induction line generalizing word with
  | nil => exact ⟨fun _ => ⟨_, rfl⟩, fun _ => ⟨_, rfl⟩, fun odd => by simp at odd⟩
  | cons c rest ih =>
    obtain ⟨⟨notSingle, notBackslash⟩, mildRest⟩ := isMild_cons.mp mild
    have later := ih mildRest
    by_cases quote : c = '"'
    · subst quote
      have more : ('"' :: rest).count '"' = rest.count '"' + 1 := by simp
      have notSeparator : isSeparator '"' = false := by decide
      have isQuote : isQuote '"' = true := by decide
      rw [more, Nat.even_add_one, Nat.odd_add_one, Nat.not_even_iff_odd, Nat.not_odd_iff_even]
      refine ⟨fun odd => ?_, fun odd => ?_, fun even => ?_⟩
      · simpa [splitFrom, notSeparator, isQuote] using (later []).2.2 odd
      · simpa [splitFrom, notSeparator, isQuote] using (later word).2.2 odd
      · simpa [splitFrom] using (later word).2.1 even
    · have same : (c :: rest).count '"' = rest.count '"' := List.count_cons_of_ne quote
      have notQuote : isQuote c = false := by simp [isQuote, quote, notSingle]
      rw [same]
      refine ⟨fun even => ?_, fun even => ?_, fun odd => ?_⟩
      · by_cases separator : isSeparator c
        · simpa [splitFrom, separator] using (later []).1 even
        · simpa [splitFrom, separator, notQuote, notBackslash] using (later [c]).2.1 even
      · by_cases separator : isSeparator c
        · obtain ⟨words, split⟩ := (later []).1 even
          exact ⟨word.reverse :: words, by simp [splitFrom, separator, split, Except.map]⟩
        · simpa [splitFrom, separator, notQuote, notBackslash] using (later (c :: word)).2.1 even
      · simpa [splitFrom, quote, notBackslash] using (later (c :: word)).2.2 odd

def escapeQuotes (text : List Char) : List Char := text.flatMap fun c => if c = '"' then ['\\', '"'] else [c]

theorem escapeQuotes_of_not_mem (noQuote : '"' ∉ text) : escapeQuotes text = text := by
  induction text with
  | nil => rfl
  | cons c text ih =>
    simp only [List.mem_cons, not_or] at noQuote
    have later : text.flatMap _ = text := ih noQuote.2
    rw [escapeQuotes, List.flatMap_cons, if_neg (Ne.symm noQuote.1), later]
    rfl

/-- Whether the backslashes of a text stand for themselves inside double quotes: none is followed by another
one or by a double quote, and none stands at the end. -/
structure KeepsBackslashes (text : List Char) : Prop where
  single : ¬ ['\\', '\\'] <:+: text
  unquoted : ¬ ['\\', '"'] <:+: text
  inside : text.getLast? ≠ some '\\'

namespace KeepsBackslashes

theorem of_not_mem (noBackslash : '\\' ∉ text) : KeepsBackslashes text where
  single found := noBackslash (found.subset (by simp))
  unquoted found := noBackslash (found.subset (by simp))
  inside last := noBackslash (List.mem_of_getLast? last)

theorem of_noQuote (noQuote : '"' ∉ text) (single : ¬ ['\\', '\\'] <:+: text)
    (inside : text.getLast? ≠ some '\\') : KeepsBackslashes text :=
  ⟨single, fun found => noQuote (found.subset (by simp)), inside⟩

theorem tail {c : Char} (keeps : KeepsBackslashes (c :: text)) : KeepsBackslashes text where
  single found := keeps.single (List.infix_cons found)
  unquoted found := keeps.unquoted (List.infix_cons found)
  inside last := keeps.inside (by rw [List.getLast?_cons, last]; rfl)

theorem head_ne {c : Char} (keeps : KeepsBackslashes ('\\' :: c :: text)) : c ≠ '\\' ∧ c ≠ '"' := by
  refine ⟨?_, ?_⟩
  · rintro rfl
    exact keeps.single ⟨[], text, rfl⟩
  · rintro rfl
    exact keeps.unquoted ⟨[], text, rfl⟩

end KeepsBackslashes

/-- Inside double quotes a text with escaped quotes is read as it was before, up to the quote after it. -/
theorem splitFrom_escapeQuotes (keeps : KeepsBackslashes text) (word rest : List Char) :
    splitFrom (.inQuotes '"') word (escapeQuotes text ++ '"' :: rest) =
      splitFrom .inWord (text.reverse ++ word) rest := by
  -- A backslash is kept with the character after it, so the text is followed from behind one as well.
  suffices both : (KeepsBackslashes text → ∀ word, splitFrom (.inQuotes '"') word
        (escapeQuotes text ++ '"' :: rest) = splitFrom .inWord (text.reverse ++ word) rest) ∧
      (KeepsBackslashes ('\\' :: text) → ∀ word, splitFrom (.escaping (some '"')) word
        (escapeQuotes text ++ '"' :: rest) = splitFrom .inWord (text.reverse ++ '\\' :: word) rest) from
    both.1 keeps word
  clear keeps word
  induction text with
  | nil => exact ⟨fun _ word => rfl, fun keeps => absurd rfl keeps.inside⟩
  | cons c text ih =>
    have escaped : escapeQuotes (c :: text) = (if c = '"' then ['\\', '"'] else [c]) ++ escapeQuotes text := by
      simp [escapeQuotes]
    have whole (word : List Char) : (c :: text).reverse ++ word = text.reverse ++ c :: word := by simp
    refine ⟨fun keeps word => ?_, fun keeps word => ?_⟩
    · have later := ih.1 keeps.tail (c :: word)
      rw [whole, escaped]
      by_cases quote : c = '"'
      · subst quote
        simpa [splitFrom] using later
      · by_cases backslash : c = '\\'
        · subst backslash
          simpa [splitFrom] using ih.2 keeps word
        · simpa [splitFrom, quote, backslash] using later
    · obtain ⟨notBackslash, notQuote⟩ := keeps.head_ne
      have later := ih.1 keeps.tail.tail (c :: '\\' :: word)
      rw [whole, escaped]
      simpa [splitFrom, notBackslash, notQuote] using later

/-- In the Windows terminal the directory and the command are one word each, as they are. -/
theorem splitWords_windowsTerminal {settings : ExecutionSettings} {command : String} {directory : Path}
    (terminal : settings.terminal = .windowsTerminal) (noQuote : '"' ∉ directory.toString.toList)
    (keepsDirectory : KeepsBackslashes directory.toString.toList)
    (keepsCommand : KeepsBackslashes command.toList) :
    splitWords (request settings command directory).arguments =
      .ok ["-d", directory.toString, "cmd", "/k", command] := by
  have opening (rest : List Char) : splitFrom .between [] ("-d \"".toList ++ rest) =
      (splitFrom (.inQuotes '"') [] rest).map ("-d".toList :: ·) := by
    simp [splitFrom, isSeparator, isQuote]
  have middle (word rest : List Char) : splitFrom .inWord word (" cmd /k \"".toList ++ rest) =
      (splitFrom (.inQuotes '"') [] rest).map fun words =>
        word.reverse :: "cmd".toList :: "/k".toList :: words := by
    cases split : splitFrom (.inQuotes '"') [] rest <;>
      simp [splitFrom, isSeparator, isQuote, split, Except.map]
  have whole : (request settings command directory).arguments.toList = "-d \"".toList ++
      (escapeQuotes directory.toString.toList ++ '"' :: (" cmd /k \"".toList ++
        (escapeQuotes command.toList ++ '"' :: []))) := by
    rw [escapeQuotes_of_not_mem noQuote]
    simp [request, terminal, escapeQuotes]
  rw [splitWords, whole, opening, splitFrom_escapeQuotes keepsDirectory, middle,
    splitFrom_escapeQuotes keepsCommand]
  simp [splitFrom, Except.map]

/-- A request whose directory has no quotes and no backslashes becomes words. -/
theorem exists_splitWords_request (settings : ExecutionSettings) {command : String} {directory : Path}
    (mild : IsMild command.toList) (paired : Even (command.toList.count '"'))
    (plain : IsPlain directory.toString.toList) :
    ∃ words, splitWords (request settings command directory).arguments = .ok words := by
  cases terminal : settings.terminal with
  | windowsTerminal =>
    exact ⟨_, splitWords_windowsTerminal terminal plain.1 (.of_not_mem plain.2.2) (.of_not_mem mild.2)⟩
  | cmd =>
    have whole : (request settings command directory).arguments.toList =
        "/k \"".toList ++ command.toList ++ "\"".toList := by
      simp [request, terminal]
    have mildLine : IsMild ("/k \"".toList ++ command.toList ++ "\"".toList) :=
      isMild_append.mpr ⟨isMild_append.mpr ⟨by decide, mild⟩, by decide⟩
    have pairedLine : Even (("/k \"".toList ++ command.toList ++ "\"".toList).count '"') := by
      have first : "/k \"".toList.count '"' = 1 := by decide
      have last : "\"".toList.count '"' = 1 := by decide
      rw [List.count_append, List.count_append, first, last, Nat.add_right_comm]
      exact Even.add (by decide) paired
    obtain ⟨words, split⟩ := (exists_splitFrom_of_paired mildLine []).1 pairedLine
    exact ⟨_, by rw [splitWords, whole, split]; rfl⟩

end Scriptlet.Launch
