import Mathlib.Data.Set.List
import Scriptlet.Proofs.Config.Precedence

/-!
The table of commands that a single map makes. The keys are folded before anything is checked, so of several
spellings of a language only the last entry is seen: it alone decides the command, and whatever is wrong with
the entries before it goes unnoticed. Names in bytes are not folded, and stay apart from the spellings.
-/
namespace Scriptlet.Config
open Value Checked Except

variable {fields entries before behind : List (Value × Value)} {settings : ExecutionSettings} {language : Language}
variable {key value : Value} {content : List UInt8}

def languageOfKey? : Value → Option Language
  | .text name => Language.parse? name
  | _ => none

/-- The value of the last entry whose key names a language as text. -/
def lastGiven? (language : Language) (entries : List (Value × Value)) : Option Value :=
  (entries.reverse.find? fun entry => languageOfKey? entry.1 = some language).map Prod.snd

def namedLanguages (entries : List (Value × Value)) : List Language :=
  entries.filterMap fun entry => languageOfKey? entry.1

theorem languageOfKey?_eq_some_iff : languageOfKey? key = some language ↔ canonicalValue key = .text language.id := by
  cases key with
  | text name => exact parse?_eq_some_iff
  | _ => exact iff_of_false nofun nofun

theorem lastGiven?_concat (entries : List (Value × Value)) (entry : Value × Value) (language : Language) :
    lastGiven? language (entries ++ [entry]) =
      if languageOfKey? entry.1 = some language then some entry.2 else lastGiven? language entries := by
  rw [lastGiven?, List.reverse_append, List.reverse_singleton, List.singleton_append, List.find?_cons]
  split
  next named => rw [if_pos (of_decide_eq_true named), Option.map_some]
  next other => rw [if_neg (of_decide_eq_false other), lastGiven?]

theorem lastGiven?_eq_none_iff : lastGiven? language entries = none ↔ language ∉ namedLanguages entries := by
  rw [lastGiven?, Option.map_eq_none_iff, List.find?_eq_none, namedLanguages, List.mem_filterMap]
  constructor
  · rintro none ⟨entry, member, named⟩
    exact none entry (List.mem_reverse.mpr member) (decide_eq_true named)
  · intro absent entry member named
    exact absent ⟨entry, List.mem_reverse.mp member, of_decide_eq_true named⟩

theorem lookup?_canonicalEntries_eq (entries : List (Value × Value)) (language : Language) :
    lookup? (canonicalEntries entries) language.id = lastGiven? language entries := by
  rw [canonicalEntries_eq_putAll, lookup?_putAll, ← List.map_reverse, lookup?, List.find?_map, Option.map_map, lastGiven?]
  refine Option.or_none.trans (congrArg _ (List.find?_congr fun entry _ => ?_))
  rw [Bool.eq_iff_iff, decide_eq_true_iff, languageOfKey?_eq_some_iff]
  exact sameKey_text_iff

theorem canonicalEntries_concat (entries : List (Value × Value)) (entry : Value × Value) :
    canonicalEntries (entries ++ [entry]) = putEntry (canonicalEntries entries) (canonicalValue entry.1) entry.2 := by
  rw [canonicalEntries, List.foldl_append]
  rfl

theorem any_sameKey_canonicalEntries (entries : List (Value × Value)) (language : Language) :
    ((canonicalEntries entries).any fun entry => entry.1.sameKey (.text language.id)) =
      (lastGiven? language entries).isSome := by
  rw [← lookup?_canonicalEntries_eq, lookup?, Option.isSome_map, List.isSome_find?]

/-- The last entry of some kind after one more is set: a known key keeps its place, and a new one comes last. -/
theorem find?_reverse_putEntry (entries : List (Value × Value)) (key value : Value) (test : Value → Bool) :
    (putEntry entries key value).reverse.find? (fun entry => test entry.1) =
      if entries.any fun entry => entry.1.sameKey key then
        (entries.reverse.find? fun entry => test entry.1).map fun entry =>
          if entry.1.sameKey key then (entry.1, value) else entry
      else if test key then some (key, value) else entries.reverse.find? fun entry => test entry.1 := by
  unfold putEntry
  split
  next =>
    rw [← List.map_reverse, List.find?_map]
    refine congrArg _ (List.find?_congr fun entry _ => ?_)
    rw [Function.comp_apply]
    split <;> rfl
  next =>
    rw [List.reverse_append, List.reverse_singleton, List.singleton_append, List.find?_cons]
    cases test key <;> rfl

theorem eq_of_sameKey_of_readLanguage {other : Value} (read : readLanguage key = .ok language)
    (same : key.sameKey other = true) : key = other := by
  obtain ⟨_, isText, _⟩ := text_of_readMember read
  cases key with
  | text name => exact (text_sameKey_iff.mp same).symm
  | bytes content => exact (bytes_sameKey_iff.mp same).symm
  | _ => cases isText

theorem languageOfKey?_of_readLanguage {entry : Value × Value} (unpacked : Unpacked language entries)
    (member : entry ∈ entries) (read : readLanguage (canonicalValue entry.1) = .ok language) :
    languageOfKey? entry.1 = some language := by
  apply languageOfKey?_eq_some_iff.mpr
  apply eq_text_of_readLanguage read
  intro content packed
  have bytes := bytes_of_canonicalValue packed
  rw [packed, ← bytes] at read
  exact unpacked entry member content bytes read

theorem lastGiven?_append (before behind : List (Value × Value)) (language : Language) :
    lastGiven? language (before ++ behind) = (lastGiven? language behind).or (lastGiven? language before) := by
  rw [lastGiven?, List.reverse_append, List.find?_append, Option.map_or, lastGiven?, lastGiven?]

theorem lastGiven?_packed (content : List UInt8) (value : Value) (behind : List (Value × Value)) :
    lastGiven? language ((.bytes content, value) :: behind) = lastGiven? language behind := by
  rw [← List.singleton_append, lastGiven?_append]
  exact Option.or_none

theorem find?_putEntry_of_foreign (foreign : readLanguage key ≠ .ok language) :
    (putEntry entries key value).reverse.find? (fun entry => readLanguage entry.1 = .ok language) =
      entries.reverse.find? fun entry => readLanguage entry.1 = .ok language := by
  refine (find?_reverse_putEntry entries key value fun key => decide (readLanguage key = .ok language)).trans ?_
  rw [decide_eq_false foreign, if_neg Bool.false_ne_true]
  split
  next =>
    refine (Option.map_congr fun entry found => ?_).trans Option.map_id_apply
    have own : readLanguage entry.1 = .ok language := by simpa using List.find?_some found
    refine if_neg fun same => foreign ?_
    rwa [← eq_of_sameKey_of_readLanguage own same]
  next => rfl

/-- Two keys that are one in canonical form are both text, so a key in bytes is new when it is met. -/
theorem canonicalEntries_packed (distinct : Distinct (before ++ [(.bytes content, value)])) :
    canonicalEntries (before ++ [(.bytes content, value)]) = canonicalEntries before ++ [(.bytes content, value)] := by
  refine (canonicalEntries_concat before _).trans (putEntry_of_fresh (fun entry member => ?_) value)
  refine Bool.eq_false_of_not_eq_true fun same => ?_
  obtain ⟨source, there, folded⟩ := exists_key_of_mem_canonicalEntries member
  have packed : source.1 = .bytes content := bytes_of_canonicalValue (folded.trans (sameKey_bytes_iff.mp same))
  have differ := (List.pairwise_append.mp distinct).2.2 source there _ (List.mem_singleton_self _)
  rw [packed, sameKey_bytes_iff.mpr rfl] at differ
  cases differ

/-- The key of a language in bytes decides, unless a spelling of the language turns up behind it for the first time. -/
theorem find?_canonicalEntries_packed (distinct : Distinct (before ++ (.bytes content, value) :: behind))
    (own : readLanguage (.bytes content) = .ok language) (unpacked : Unpacked language behind) :
    (canonicalEntries (before ++ (.bytes content, value) :: behind)).reverse.find?
        (fun entry => readLanguage entry.1 = .ok language) =
      some (if (lastGiven? language before).isSome then (.bytes content, value)
        else ((lastGiven? language behind).map (.text language.id, ·)).getD (.bytes content, value)) := by
  -- By induction from the end: what is set later changes values, and at most puts the spellings behind the bytes.
  induction behind using List.reverseRecOn with
  | nil =>
    rw [canonicalEntries_packed distinct, List.reverse_append, List.reverse_singleton, List.singleton_append,
      List.find?_cons, own, decide_eq_true rfl]
    exact congrArg some (ite_self _).symm
  | append_singleton rest entry ih =>
    rw [← List.cons_append, ← List.append_assoc] at distinct ⊢
    have ih := ih (List.pairwise_append.mp distinct).1 fun other member => unpacked other (List.mem_append_left _ member)
    rw [canonicalEntries_concat, lastGiven?_concat]
    by_cases named : languageOfKey? entry.1 = some language
    · refine (find?_reverse_putEntry _ _ _ fun key => decide (readLanguage key = .ok language)).trans ?_
      rw [ih, languageOfKey?_eq_some_iff.mp named, if_pos named, any_sameKey_canonicalEntries, lastGiven?_append,
        lastGiven?_packed]
      have apart : (bytes content).sameKey (.text language.id) = false :=
        Bool.eq_false_of_not_eq_true (mt sameKey_text_iff.mp nofun)
      have same : (text language.id).sameKey (.text language.id) = true := sameKey_text_iff.mpr rfl
      cases lastGiven? language before with
      | some first => simp [apart]
      | none => cases lastGiven? language rest <;> simp [same, readLanguage_id]
    · have foreign : readLanguage (canonicalValue entry.1) ≠ .ok language :=
        mt (languageOfKey?_of_readLanguage unpacked (List.mem_append_right _ (List.mem_singleton_self _))) named
      rw [find?_putEntry_of_foreign foreign, if_neg named, ih]

section
variable (covered : settings.commands.map Prod.fst = Language.all)
include covered

theorem commands_of_covered :
    settings.commands = Language.all.map fun language => (language, settings.commandFor language) := by
  have nodup : (settings.commands.map Prod.fst).Nodup := covered ▸ (by decide : Language.all.Nodup)
  rw [← covered, List.map_map]
  refine (List.map_id _).symm.trans (List.map_congr_left fun entry member => ?_)
  rw [Function.comp_apply, ExecutionSettings.commandFor, lookup_of_mem nodup member]
  rfl

theorem mem_commands_of_covered (language : Language) :
    (language, settings.commandFor language) ∈ settings.commands := by
  rw [commands_of_covered covered]
  exact List.mem_map_of_mem (Language.mem_all language)

theorem filter_commands_of_covered (language : Language) :
    settings.commands.filter (fun entry => entry.1 = language) = [(language, settings.commandFor language)] := by
  have once : Language.all.filter (fun other => other = language) = [language] := by
    cases language <;> decide
  have paired := congrArg (List.map fun language => (language, settings.commandFor language)) once
  rw [commands_of_covered covered, List.filter_map]
  exact paired

end

/-- The table of accepted settings is complete, and the last spelling of a language decides its command. A key in
bytes that names the language counts for itself, and is decisive unless all the spellings come behind it. -/
theorem commands_of_readExecution (read : readExecution (.map fields) = .ok settings) :
    let entries := entriesAt fields "commands"
    settings.commands.map Prod.fst = ExecutionSettings.defaultCommands.map Prod.fst ∧
      ∀ language,
        settings.commands.filter (fun entry => entry.1 = language) = [(language, settings.commandFor language)] ∧
        Text.isAllBlank (settings.commandFor language).toList = false ∧
        Text.strip (settings.commandFor language).toList = (settings.commandFor language).toList ∧
        (Unpacked language entries → HasCommand settings language (lastGiven? language entries)) ∧
        ∀ before content value behind, Distinct entries → entries = before ++ (.bytes content, value) :: behind →
          readLanguage (.bytes content) = .ok language → Unpacked language behind →
          HasCommand settings language
            (if (lastGiven? language before).isSome then some value
              else (lastGiven? language behind).or (some value)) := by
  intro entries
  have valid := isValid_of_readExecution read
  have commands : readCommands (.map entries) = .ok settings.commands := (readCommands_of_readExecution read).2
  refine ⟨valid.covered, fun language => ?_⟩
  have member := mem_commands_of_covered valid.covered language
  have marked := valid.commands _ member
  obtain ⟨_, _, _, merged⟩ := readCommands_eq_ok_iff.mp commands
  rw [← merged] at member
  have stripped := stripped_of_mem_mergeCommands member
  refine ⟨filter_commands_of_covered valid.covered language, marked, stripped, fun unpacked => ?_, ?_⟩
  · rw [← lookup?_canonicalEntries_eq]
    exact hasCommand_of_readCommands unpacked commands
  · intro before content value behind distinct split own unpacked
    have decides := hasCommand_lastRead? language commands
    rw [split] at distinct decides
    rw [lastRead?, find?_canonicalEntries_packed distinct own unpacked] at decides
    cases given : lastGiven? language before with
    | some first => rwa [given] at decides
    | none => cases later : lastGiven? language behind <;> rwa [given, later] at decides

def spelledAround : List (Value × Value) :=
  [(.text "go", .text "a"), (.bytes [103, 111], .text "b"), (.text "Go", .text "c"), (.text " LUA ", .text " luajit ")]

theorem readLanguage_go_bytes : readLanguage (.bytes [103, 111]) = .ok .go := by
  decide +kernel

theorem commands_of_readExecution_around : ∃ settings,
    readExecution (.map [(.text "commands", .map spelledAround)]) = .ok settings ∧
      settings.commandFor .go = "b" ∧ settings.commandFor .lua = "luajit" ∧ settings.commandFor .php = "php" := by
  have accepted : (readExecution (.map [(.text "commands", .map spelledAround)])).toOption.isSome = true := by
    decide +kernel
  obtain ⟨settings, made⟩ := exists_ok_of_isSome accepted
  obtain ⟨_, table⟩ := commands_of_readExecution made
  have unpacked {language : Language} (other : language ≠ .go) : Unpacked language spelledAround := by
    intro entry member content packed
    simp only [spelledAround, List.mem_cons, List.not_mem_nil, or_false] at member
    rcases member with rfl | rfl | rfl | rfl <;> cases packed
    rw [readLanguage_go_bytes]
    exact fun same => other (Except.ok.inj same).symm
  have behind : Unpacked .go [(.text "Go", .text "c"), (.text " LUA ", .text " luajit ")] :=
    unpacked_of_texts (by simp [isText])
  have distinct : Distinct spelledAround := by
    unfold Distinct
    decide +kernel
  have inBytes := (table .go).2.2.2.2 [(.text "go", .text "a")] _ (.text "b") _ distinct rfl readLanguage_go_bytes behind
  have go : settings.commandFor .go = String.ofList (Text.strip "b".toList) := inBytes.commandFor_eq (by decide +kernel)
  have lua : settings.commandFor .lua = String.ofList (Text.strip " luajit ".toList) :=
    ((table .lua).2.2.2.1 (unpacked nofun)).commandFor_eq (by decide +kernel)
  have php := (table .php).2.2.2.1 (unpacked nofun)
  rw [lastGiven?_eq_none_iff.mpr (by decide +kernel)] at php
  exact ⟨settings, made, go.trans (by decide +kernel), lua.trans (by decide +kernel), php⟩

theorem bytes_outlast_spelling : ∃ settings,
    readExecution (.map [(.text "commands", .map spelledAround)]) = .ok settings ∧
      settings.commandFor .go = "b" ∧ ¬ HasCommand settings .go (lastGiven? .go spelledAround) := by
  have command : (readExecution (.map [(.text "commands", .map spelledAround)])).toOption.map (·.commandFor .go) =
      some "b" := by
    decide +kernel
  obtain ⟨settings, made, go⟩ := Option.map_eq_some_iff.mp command
  refine ⟨settings, toOption_eq_some_iff.mp made, go, fun last => ?_⟩
  have other : settings.commandFor .go = String.ofList (Text.strip "c".toList) :=
    last.commandFor_eq (by decide +kernel)
  rw [go] at other
  exact absurd other (by decide)

def IsCommand (value : Value) : Prop := ∃ text, readText value = .ok text ∧ Text.isAllBlank text.toList = false

def IsCommandEntry (entry : Value × Value) : Prop := (languageOfKey? entry.1).isSome = true ∧ IsCommand entry.2

/-- Settings of execution that have this map of commands beside other fields are accepted. -/
def AcceptsCommands (fields entries : List (Value × Value)) : Prop :=
  ∃ settings, readExecution (.map (fields ++ [(.text "commands", .map entries)])) = .ok settings

section
variable {usual : ExecutionSettings} {entry : Value × Value}

theorem optional_append_commands {α : Type} {name : String} {a : α} {check : Value → Checked α}
    (other : name ≠ "commands") (value : Value) :
    optional (fields ++ [(.text "commands", value)]) name a check = optional fields name a check := by
  have same : lookup? (fields ++ [(.text "commands", value)]) name = lookup? fields name := by
    have differs : ¬ (text "commands").sameKey (.text name) = true := by
      intro same
      exact other (Value.text.inj (sameKey_text_iff.mp same)).symm
    rw [lookup?_append, lookup?_cons, if_neg differs]
    exact Option.or_none
  rw [optional, same, optional]

theorem acceptsCommands_iff_readCommands (others : readExecution (.map fields) = .ok usual)
    (fresh : lookup? fields "commands" = none) :
    AcceptsCommands fields entries ↔
      ∃ settings : ExecutionSettings, readCommands (.map entries) = .ok settings.commands := by
  have own : lookup? (fields ++ [(.text "commands", .map entries)]) "commands" = some (.map entries) := by
    rw [lookup?_append, fresh, Option.none_or, lookup?_cons, if_pos (sameKey_text_iff.mpr rfl)]
  constructor
  · rintro ⟨settings, read⟩
    have read := (readCommands_of_readExecution read).2
    rw [entriesAt, own] at read
    exact ⟨settings, read⟩
  · rintro ⟨⟨_, _, _, _, commands⟩, read⟩
    obtain ⟨_, ⟨⟩, named, terminal, inWindows, inCmd, _⟩ := readExecution_eq_ok_iff.mp others
    have under : (readCommands (.map entries)).under (.key "commands") = .ok commands := under_eq_ok_iff.mpr read
    refine ⟨{ usual with commands }, readExecution_eq_ok_iff.mpr ⟨_, rfl, ?_, ?_, ?_, ?_, ?_⟩⟩
    · exact (optional_append_commands (by decide) _).trans named
    · exact (optional_append_commands (by decide) _).trans terminal
    · exact (optional_append_commands (by decide) _).trans inWindows
    · exact (optional_append_commands (by decide) _).trans inCmd
    · rwa [optional, own]

theorem readable_of_mem_canonicalEntries (named : ∀ entry ∈ entries, (languageOfKey? entry.1).isSome = true)
    (last : ∀ language value, lastGiven? language entries = some value → IsCommand value)
    (member : entry ∈ canonicalEntries entries) :
    ∃ command, readCommand entry = .ok command ∧ Text.isAllBlank command.2.toList = false := by
  obtain ⟨source, there, folded⟩ := exists_key_of_mem_canonicalEntries member
  obtain ⟨language, own⟩ := Option.isSome_iff_exists.mp (named source there)
  rw [languageOfKey?_eq_some_iff.mp own] at folded
  have given : lastGiven? language entries = some entry.2 := by
    rw [← lookup?_canonicalEntries_eq]
    apply lookup?_of_mem (distinct_canonicalEntries entries)
    rwa [folded]
  obtain ⟨text, written, marked⟩ := last language entry.2 given
  exact ⟨(language, text), readCommand_eq_ok_iff.mpr ⟨folded ▸ readLanguage_id language, written⟩, marked⟩

theorem exists_readCommands (readable : ∀ entry ∈ canonicalEntries entries,
    ∃ command, readCommand entry = .ok command ∧ Text.isAllBlank command.2.toList = false) :
    ∃ commands, readCommands (.map entries) = .ok commands := by
  have inRange : (canonicalEntries entries).map readCommand ∈ Set.range (List.map Except.ok) := by
    rw [Set.range_list_map]
    intro outcome member
    obtain ⟨entry, there, rfl⟩ := List.mem_map.mp member
    obtain ⟨command, read, _⟩ := readable entry there
    exact ⟨command, read.symm⟩
  obtain ⟨read, made⟩ := inRange
  refine ⟨_, readCommands_eq_ok_iff.mpr ⟨read, made.symm, fun command member => ?_, rfl⟩⟩
  have inRead : command ∈ read := (mem_foldl_putCommand member).resolve_left nofun
  have inMade : (.ok command : Checked (Language × String)) ∈ read.map .ok := List.mem_map_of_mem inRead
  rw [made] at inMade
  obtain ⟨entry, there, own⟩ := List.mem_map.mp inMade
  obtain ⟨known, same, marked⟩ := readable entry there
  cases own.symm.trans same
  exact marked

theorem isSome_languageOfKey? {commands : List (Language × String)} (texts : ∀ entry ∈ entries, entry.1.isText = true)
    (read : readCommands (.map entries) = .ok commands) (member : entry ∈ entries) :
    (languageOfKey? entry.1).isSome = true := by
  obtain ⟨given, made, _⟩ := readCommands_eq_ok_iff.mp read
  have kept : ∃ kept ∈ canonicalEntries entries,
      kept.1 = canonicalValue entry.1 ∨ kept.1.sameKey (canonicalValue entry.1) = true := by
    rw [canonicalEntries_eq_putAll]
    exact exists_key_putAll [] (List.mem_map_of_mem member)
  obtain ⟨kept, there, same⟩ := kept
  have passes := List.mem_map_of_mem (f := readCommand) there
  rw [made] at passes
  obtain ⟨command, _, own⟩ := List.mem_map.mp passes
  have language := (readCommand_eq_ok_iff.mp own.symm).1
  rw [same.elim id (eq_of_sameKey_of_readLanguage language)] at language
  rw [languageOfKey?_of_readLanguage (unpacked_of_texts texts) member language, Option.isSome_some]

theorem isCommand_of_readCommands {settings : ExecutionSettings} (unpacked : Unpacked language entries)
    (read : readCommands (.map entries) = .ok settings.commands) (given : lastGiven? language entries = some value) :
    IsCommand value := by
  have decides := hasCommand_of_readCommands unpacked read
  rw [lookup?_canonicalEntries_eq, given] at decides
  obtain ⟨text, written, command⟩ := decides
  obtain ⟨covered, marked⟩ := covered_of_readCommands read
  refine ⟨text, written, ?_⟩
  rw [← Text.isAllBlank_strip, ← String.toList_ofList (l := Text.strip text.toList), ← command]
  exact marked _ (mem_commands_of_covered covered language)

theorem acceptsCommands_iff_last (others : readExecution (.map fields) = .ok usual)
    (fresh : lookup? fields "commands" = none) (texts : ∀ entry ∈ entries, entry.1.isText = true) :
    AcceptsCommands fields entries ↔
      (∀ entry ∈ entries, (languageOfKey? entry.1).isSome = true) ∧
        ∀ language value, lastGiven? language entries = some value → IsCommand value := by
  rw [acceptsCommands_iff_readCommands others fresh]
  constructor
  · rintro ⟨settings, read⟩
    exact ⟨fun entry => isSome_languageOfKey? texts read,
      fun language value => isCommand_of_readCommands (unpacked_of_texts texts) read⟩
  · rintro ⟨named, last⟩
    obtain ⟨commands, read⟩ := exists_readCommands fun entry => readable_of_mem_canonicalEntries named last
    exact ⟨{ ExecutionSettings.standard with commands }, read⟩

theorem lastGiven?_of_nodup (nodup : (namedLanguages entries).Nodup) (member : entry ∈ entries)
    (named : languageOfKey? entry.1 = some language) : lastGiven? language entries = some entry.2 := by
  obtain ⟨before, behind, rfl⟩ := List.append_of_mem member
  rw [namedLanguages, List.filterMap_append, List.filterMap_cons, named] at nodup
  have silent : lastGiven? language behind = none :=
    lastGiven?_eq_none_iff.mpr (List.nodup_cons.mp (List.nodup_append.mp nodup).2.1).1
  rw [List.append_cons, lastGiven?_append, silent, Option.none_or, lastGiven?_concat, if_pos named]

theorem isCommand_of_lastGiven? (good : ∀ entry ∈ entries, IsCommandEntry entry)
    (given : lastGiven? language entries = some value) : IsCommand value := by
  obtain ⟨entry, found, rfl⟩ := Option.map_eq_some_iff.mp given
  exact (good entry (List.mem_reverse.mp (List.mem_of_find?_eq_some found))).2

/-- Commands are accepted if all entries are good, but only the last entry for each language has to be. -/
theorem acceptsCommands_iff (others : readExecution (.map fields) = .ok usual)
    (fresh : lookup? fields "commands" = none) (texts : ∀ entry ∈ entries, entry.1.isText = true) :
    (AcceptsCommands fields entries ↔
      (∀ entry ∈ entries, (languageOfKey? entry.1).isSome = true) ∧
        ∀ language value, lastGiven? language entries = some value → IsCommand value) ∧
    ((∀ entry ∈ entries, IsCommandEntry entry) → AcceptsCommands fields entries) ∧
    ((namedLanguages entries).Nodup → (AcceptsCommands fields entries ↔ ∀ entry ∈ entries, IsCommandEntry entry)) := by
  have accepts := acceptsCommands_iff_last others fresh texts
  have enough (good : ∀ entry ∈ entries, IsCommandEntry entry) : AcceptsCommands fields entries := by
    apply accepts.mpr
    exact ⟨fun entry member => (good entry member).1, fun _ _ => isCommand_of_lastGiven? good⟩
  refine ⟨accepts, enough, fun nodup => ⟨fun accepted entry member => ?_, enough⟩⟩
  obtain ⟨named, last⟩ := accepts.mp accepted
  obtain ⟨language, own⟩ := Option.isSome_iff_exists.mp (named entry member)
  exact ⟨named entry member, last language entry.2 (lastGiven?_of_nodup nodup member own)⟩

theorem acceptsCommands_iff_spellings :
    AcceptsCommands [(.text "terminal", .text "cmd")] [(.text "Python ", .text " py "), (.text "LUA", .text "luajit")] ∧
      ¬ AcceptsCommands [(.text "terminal", .text "cmd")] [(.text "python", .text "py"), (.text "Python", .text " ")] := by
  have others : readExecution (.map [(.text "terminal", .text "cmd")]) =
      .ok ⟨"__RunOnceTMP__", .cmd, "wt.exe", "cmd.exe", ExecutionSettings.defaultCommands⟩ := rfl
  constructor
  · apply (acceptsCommands_iff others rfl (by simp [isText])).2.1
    intro entry member
    rw [List.mem_cons, List.mem_singleton] at member
    rcases member with rfl | rfl
    · exact ⟨by decide +kernel, " py ", rfl, by decide⟩
    · exact ⟨by decide +kernel, "luajit", rfl, by decide⟩
  · intro accepted
    obtain ⟨text, ⟨⟩, marked⟩ := ((acceptsCommands_iff others rfl (by simp [isText])).1.mp accepted).2 .python _ rfl
    exact absurd marked (by decide)

/-- A blank command goes unnoticed in front of another spelling of its language. -/
theorem acceptsCommands_blank_replaced :
    AcceptsCommands [] [(.text "python", .text "   "), (.text "Python", .text "py")] ∧
      ¬ ∀ entry ∈ [(Value.text "python", Value.text "   "), (.text "Python", .text "py")], IsCommandEntry entry := by
  constructor
  · apply exists_ok_of_isSome
    decide +kernel
  · intro good
    obtain ⟨_, text, ⟨⟩, marked⟩ := good _ List.mem_cons_self
    exact absurd marked (by decide)

end

end Scriptlet.Config
