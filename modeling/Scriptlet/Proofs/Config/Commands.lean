import Scriptlet.Proofs.Config.Validity
import Scriptlet.Proofs.Data.Entries

/-!
Reading the commands of languages. Keys are folded to canonical form first, and of the entries that then have
one key the last counts; so a map of commands under exact identifiers is read as it stands.
-/
namespace Scriptlet.Config
open Checked Except

variable {value : Value} {language : Language} {text : String} {entries : List (Value × Value)}
variable {commands given later : List (Language × String)}

theorem canonical_id (language : Language) : Language.canonical language.id = language.id := by
  cases language <;> decide

theorem canonicalValue_eq_text_iff {key : Value} {name : String} :
    canonicalValue key = .text name ↔ ∃ spelling, key = .text spelling ∧ Language.canonical spelling = name := by
  cases key <;> simp [canonicalValue]

theorem bytes_of_canonicalValue {key : Value} {content : List UInt8} (packed : canonicalValue key = .bytes content) :
    key = .bytes content := by
  cases key with
  | text => cases packed
  | _ => exact packed

theorem parse?_eq_some_iff {name : String} :
    Language.parse? name = some language ↔ canonicalValue (.text name) = .text language.id := by
  rw [canonicalValue, Value.text.injEq, Language.parse?]
  constructor
  · exact fun found => (Language.id_of_ofId? found).symm
  · intro same
    rw [same, Language.ofId?_id]

theorem canonicalEntries_eq_putAll (entries : List (Value × Value)) :
    canonicalEntries entries = Value.putAll [] (entries.map fun entry => (canonicalValue entry.1, entry.2)) := by
  rw [Value.putAll, List.foldl_map]
  rfl

theorem text_of_readMember {α : Type} {members : List α} {name : α → String} {a : α}
    (read : readMember members name value = .ok a) :
    ∃ s, textOf? (.noMember (members.map name)) value = some (.ok s) ∧
      members.find? (fun member => name member = s) = some a := by
  unfold readMember at read
  split at read
  next written isText =>
    obtain ⟨s, rfl, found⟩ := bind_eq_ok_iff.mp read
    refine ⟨s, isText, ?_⟩
    cases search : members.find? fun member => name member = s with
    | none => rw [search] at found; cases found
    | some member => rw [search] at found; cases found; rfl
  next => cases read

theorem readLanguage_id (language : Language) : readLanguage (.text language.id) = .ok language := by
  cases language <;> rfl

private theorem lookup_cons (entry : Language × String) (rest : List (Language × String)) (language : Language) :
    (entry :: rest).lookup language = if language = entry.1 then some entry.2 else rest.lookup language := by
  rw [List.lookup_cons]
  split
  next same => rw [if_pos (eq_of_beq same)]
  next other => rw [if_neg (ne_of_beq_false other)]

private theorem lookup_replaced (given : List (Language × String)) (entry : Language × String) (language : Language) :
    (given.map fun known => if known.1 = entry.1 then entry else known).lookup language =
      if language = entry.1 then (given.lookup language).map fun _ => entry.2 else given.lookup language := by
  induction given with
  | nil => simp
  | cons known rest ih =>
    rw [List.map_cons, lookup_cons, ih, lookup_cons]
    by_cases own : known.1 = entry.1
    · rw [if_pos own, own]
      split <;> rfl
    · rw [if_neg own]
      by_cases same : language = entry.1
      · rw [if_pos same, if_pos same, same, if_neg (Ne.symm own), if_neg (Ne.symm own)]
      · rw [if_neg same, if_neg same]

theorem lookup_putCommand (given : List (Language × String)) (entry : Language × String) (language : Language) :
    (putCommand given entry).lookup language = if language = entry.1 then some entry.2 else given.lookup language := by
  unfold putCommand
  split
  next known =>
    rw [lookup_replaced]
    split
    next same =>
      obtain ⟨other, inside, own⟩ := List.any_eq_true.mp known
      have found : (given.lookup language).isSome = true :=
        List.lookup_isSome_iff.mpr ⟨other, inside, beq_iff_eq.mpr (same.trans (of_decide_eq_true own).symm)⟩
      obtain ⟨command, found⟩ := Option.isSome_iff_exists.mp found
      rw [found, Option.map_some]
    next => rfl
  next fresh =>
    rw [List.lookup_append, lookup_cons]
    split
    next same =>
      have none : given.lookup language = none := by
        refine List.lookup_eq_none_iff.mpr fun known inside => bne_iff_ne.mpr fun own => fresh ?_
        exact List.any_eq_true.mpr ⟨known, inside, decide_eq_true (own.symm.trans same)⟩
      rw [none, Option.none_or]
    next => exact Option.or_none

/-- The last of the commands of a language is the one that stays. -/
theorem lookup_foldl_putCommand (given later : List (Language × String)) (language : Language) :
    (later.foldl putCommand given).lookup language = (later.reverse.lookup language).or (given.lookup language) := by
  induction later generalizing given with
  | nil => rfl
  | cons entry rest ih =>
    rw [List.foldl_cons, ih, lookup_putCommand, List.reverse_cons, List.lookup_append, Option.or_assoc, lookup_cons]
    congr 1
    split <;> rfl

theorem foldl_putCommand_of_nodup (distinct : ((given ++ later).map Prod.fst).Nodup) :
    later.foldl putCommand given = given ++ later := by
  induction later generalizing given with
  | nil => exact (List.append_nil given).symm
  | cons entry rest ih =>
    have fresh : ¬ (given.any fun known => decide (known.1 = entry.1)) = true := by
      intro known
      obtain ⟨other, inside, same⟩ := List.any_eq_true.mp known
      rw [List.map_append] at distinct
      refine (List.nodup_append.mp distinct).2.2 other.1 (List.mem_map_of_mem inside) entry.1 ?_
        (of_decide_eq_true same)
      exact List.mem_map_of_mem List.mem_cons_self
    rw [List.foldl_cons, putCommand, if_neg fresh, ih (by rwa [← List.append_cons]), ← List.append_cons]

theorem mem_foldl_putCommand {command : Language × String} (member : command ∈ later.foldl putCommand given) :
    command ∈ given ∨ command ∈ later := by
  induction later generalizing given with
  | nil => exact .inl member
  | cons entry rest ih =>
    have one (inside : command ∈ putCommand given entry) : command ∈ given ∨ command = entry := by
      unfold putCommand at inside
      split at inside
      next =>
        obtain ⟨known, there, rfl⟩ := List.mem_map.mp inside
        split
        next => exact .inr rfl
        next => exact .inl there
      next => exact (List.mem_append.mp inside).imp_right List.mem_singleton.mp
    rw [List.mem_cons, ← or_assoc]
    exact (ih member).imp_left one

theorem readCommand_eq_ok_iff {entry : Value × Value} {command : Language × String} :
    readCommand entry = .ok command ↔ readLanguage entry.1 = .ok command.1 ∧ readText entry.2 = .ok command.2 := by
  rw [readCommand, under_eq_ok_iff, ← Prod.mk.eta (p := command), both_eq_ok_iff, under_eq_ok_iff]

/-- The command that is read for a language is the text of the entry whose key is read as the language. -/
theorem find?_of_map_readCommand {read : List (Language × String)}
    (made : entries.map readCommand = read.map .ok) (language : Language) :
    (entries.find? fun entry => readLanguage entry.1 = .ok language).map (fun entry => readText entry.2) =
      (read.lookup language).map .ok := by
  induction entries generalizing read with
  | nil =>
    rw [List.map_eq_nil_iff.mp made.symm]
    rfl
  | cons entry rest ih =>
    obtain ⟨known, others, rfl, same, made⟩ := List.map_eq_cons_iff.mp made.symm
    obtain ⟨which, written⟩ := readCommand_eq_ok_iff.mp same.symm
    rw [lookup_cons, List.find?_cons, which]
    by_cases isOwn : known.1 = language
    · rw [isOwn, if_pos rfl, decide_eq_true rfl]
      exact congrArg some written
    · have other : (Except.ok known.1 : Checked Language) ≠ .ok language := mt Except.ok.inj isOwn
      rw [if_neg (Ne.symm isOwn), decide_eq_false other]
      exact ih made.symm

theorem stripped_of_mem_mergeCommands {given : List (Language × String)} {entry : Language × String}
    (member : entry ∈ mergeCommands given) : Text.strip entry.2.toList = entry.2.toList := by
  obtain ⟨language, _, rfl⟩ := List.mem_map.mp member
  split
  next => rw [String.toList_ofList, Text.strip_strip]
  next => cases language <;> decide

theorem lookup_of_mem (nodup : (commands.map Prod.fst).Nodup) {entry : Language × String} (member : entry ∈ commands) :
    commands.lookup entry.1 = some entry.2 := by
  obtain ⟨before, after, rfl⟩ := List.append_of_mem member
  refine List.lookup_eq_some_iff.mpr ⟨before, after, rfl, fun other inside => bne_iff_ne.mpr fun same => ?_⟩
  rw [List.map_append, List.map_cons] at nodup
  exact (List.nodup_append.mp nodup).2.2 other.1 (List.mem_map_of_mem inside) entry.1 List.mem_cons_self same.symm

/-- What is complete and has no blanks around it is merged with the defaults to itself. -/
theorem mergeCommands_of_covered (covered : commands.map Prod.fst = Language.all)
    (stripped : ∀ entry ∈ commands, Text.strip entry.2.toList = entry.2.toList) : mergeCommands commands = commands := by
  have nodup : (commands.map Prod.fst).Nodup := covered ▸ (by decide : Language.all.Nodup)
  rw [mergeCommands, ← covered, List.map_map]
  refine (List.map_congr_left fun entry member => ?_).trans (List.map_id _)
  rw [Function.comp_apply, lookup_of_mem nodup member]
  dsimp only
  rw [stripped entry member, String.ofList_toList, id]

theorem lookup_mergeCommands (chosen : List (Language × String)) (language : Language) :
    (mergeCommands chosen).lookup language = some
      (((chosen.lookup language).map fun command => String.ofList (Text.strip command.toList)).getD
        language.defaultCommand) := by
  have paired : mergeCommands chosen = Language.all.map fun language => (language,
      ((chosen.lookup language).map fun command => String.ofList (Text.strip command.toList)).getD
        language.defaultCommand) := by
    refine List.map_congr_left fun language _ => ?_
    cases chosen.lookup language <;> rfl
  rw [paired]
  exact List.lookup_graph _ (Language.mem_all language)

theorem map_of_readCommands (read : readCommands value = .ok commands) : ∃ entries, value = .map entries := by
  unfold readCommands at read
  split at read
  next entries => exact ⟨entries, rfl⟩
  next => cases read

theorem readCommands_eq_ok_iff : readCommands (.map entries) = .ok commands ↔
    ∃ read : List (Language × String), (canonicalEntries entries).map readCommand = read.map .ok ∧
      (∀ entry ∈ read.foldl putCommand [], Text.isAllBlank entry.2.toList = false) ∧
        mergeCommands (read.foldl putCommand []) = commands := by
  rw [readCommands, bind_eq_ok_iff]
  refine exists_congr fun read => and_congr all_eq_ok_iff ?_
  dsimp only
  split
  next language command found =>
    refine iff_of_false nofun fun accepted => ?_
    have blank : Text.isAllBlank command.toList = true := by simpa using List.find?_some found
    rw [accepted.1 _ (List.mem_of_find?_eq_some found)] at blank
    cases blank
  next none =>
    have marked := List.find?_eq_none.mp none
    constructor
    · intro merged
      exact ⟨fun entry member => Bool.eq_false_of_not_eq_true (marked entry member), Except.ok.inj merged⟩
    · exact fun accepted => congrArg _ accepted.2

end Scriptlet.Config
