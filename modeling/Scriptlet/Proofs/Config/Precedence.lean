import Mathlib.Data.List.Find
import Scriptlet.Proofs.Config.Commands
import Scriptlet.Proofs.Config.Layers
import Scriptlet.Proofs.Config.Loading

/-!
Which source decides the command of a language. Sources are laid over one another before the keys of commands
are folded, so two spellings of one language stay apart until the last of them in the merged map replaces the
others, wherever it comes from.
-/
namespace Scriptlet.Config
open Value Checked Except

variable {entries given merged : List (Value × Value)} {language : Language} {value : Value} {text : String}
variable {commands : List (Language × String)}

/-- The spellings of a language among the keys of entries, in the order of their first appearances. -/
def spellings (language : Language) (given : List (Value × Value)) : List String :=
  (names given).eraseDups.filter fun name => Language.parse? name = some language

/-- Of entries that are given one after the other, the value that decides about a language: the last one given for
the spelling that turned up last. -/
def deciding? (language : Language) (given : List (Value × Value)) : Option Value :=
  (spellings language given).getLast?.bind (lookup? given.reverse)

def HasCommand (settings : ExecutionSettings) (language : Language) : Option Value → Prop
  | some value => ∃ text, readText value = .ok text ∧
      settings.commandFor language = String.ofList (Text.strip text.toList)
  | none => settings.commandFor language = language.defaultCommand

theorem HasCommand.commandFor_eq {settings : ExecutionSettings} {value? : Option Value}
    (has : HasCommand settings language value?) (written : value?.map readText = some (.ok text)) :
    settings.commandFor language = String.ofList (Text.strip text.toList) := by
  obtain ⟨value, rfl, same⟩ := Option.map_eq_some_iff.mp written
  obtain ⟨own, read, command⟩ := has
  cases read.symm.trans same
  exact command

theorem mem_spellings_iff {name : String} :
    name ∈ spellings language given ↔ name ∈ names given ∧ Language.parse? name = some language := by
  rw [spellings, List.mem_filter, List.mem_eraseDups, decide_eq_true_iff]

/-- Of the entries for a language the one whose spelling comes last counts. -/
theorem lookup?_canonicalEntries (distinct : Distinct entries) (language : Language) :
    lookup? (canonicalEntries entries) language.id =
      ((names entries).filter fun name => Language.parse? name = some language).getLast?.bind (lookup? entries) := by
  rw [canonicalEntries_eq_putAll, lookup?_putAll]
  refine Option.or_none.trans ?_
  -- From the end: an entry for the language decides, and any other leaves it to the entries before.
  induction entries using List.reverseRecOn with
  | nil => rfl
  | append_singleton rest entry ih =>
    obtain ⟨earlier, _, apart⟩ := List.pairwise_append.mp distinct
    rw [List.map_append, List.map_singleton, List.reverse_append, List.reverse_singleton, List.singleton_append,
      lookup?_cons, names_append, List.filter_append]
    by_cases own : canonicalValue entry.1 = .text language.id
    · obtain ⟨spelling, isText, _⟩ := canonicalValue_eq_text_iff.mp own
      rw [isText] at own
      have named : (names [entry]).filter (fun name => Language.parse? name = some language) = [spelling] := by
        simp [names, asText?, isText, parse?_eq_some_iff.mpr own]
      have fresh : lookup? rest spelling = none := by
        refine Option.map_eq_none_iff.mpr (List.find?_eq_none.mpr fun other member same => ?_)
        have differ := apart other member entry (List.mem_singleton_self entry)
        rw [isText, same] at differ
        cases differ
      rw [if_pos (sameKey_text_iff.mpr (isText ▸ own)), named, List.getLast?_concat, Option.bind_some,
        lookup?_append, fresh, Option.none_or, lookup?_cons, if_pos (sameKey_text_iff.mpr isText)]
    · have unnamed : (names [entry]).filter (fun name => Language.parse? name = some language) = [] := by
        refine List.filter_eq_nil_iff.mpr fun name member reads => own ?_
        obtain ⟨_, single, isText⟩ := mem_names_iff.mp member
        rw [List.mem_singleton.mp single] at isText
        rw [isText]
        exact parse?_eq_some_iff.mp (of_decide_eq_true reads)
      rw [if_neg (mt sameKey_text_iff.mp own), ih earlier, unnamed, List.append_nil]
      refine Option.bind_congr fun name last => ?_
      have known : name ∈ names rest := (List.mem_filter.mp (List.mem_of_getLast? last)).1
      obtain ⟨value, found⟩ := Option.isSome_iff_exists.mp (lookup?_isSome_iff.mpr known)
      rw [lookup?_append, found, Option.some_or]

/-- No key is the name of a language in bytes. Such keys are not folded. -/
def Unpacked (language : Language) (entries : List (Value × Value)) : Prop :=
  ∀ entry ∈ entries, ∀ content, entry.1 = .bytes content → readLanguage entry.1 ≠ .ok language

theorem eq_text_of_readLanguage {key : Value} (read : readLanguage key = .ok language)
    (unpacked : ∀ content, key ≠ .bytes content) : key = .text language.id := by
  obtain ⟨name, isText, found⟩ := text_of_readMember read
  have same : language.id = name := by simpa using List.find?_some found
  cases key with
  | text own =>
    cases isText
    rw [same]
  | bytes content => exact absurd rfl (unpacked content)
  | _ => cases isText

theorem exists_key_of_mem_canonicalEntries {entry : Value × Value} (member : entry ∈ canonicalEntries entries) :
    ∃ source ∈ entries, canonicalValue source.1 = entry.1 := by
  rw [canonicalEntries_eq_putAll] at member
  obtain ⟨source, there, same⟩ := (Merges.nil.putAll _).keys entry member
  obtain ⟨old, inside, rfl⟩ := List.mem_map.mp there
  exact ⟨old, inside, same⟩

theorem Unpacked.canonicalEntries (unpacked : Unpacked language entries) :
    Unpacked language (canonicalEntries entries) := by
  intro entry member content packed
  obtain ⟨old, inside, same⟩ := exists_key_of_mem_canonicalEntries member
  have bytes : old.1 = .bytes content := bytes_of_canonicalValue (same.trans packed)
  rw [packed, ← bytes]
  exact unpacked old inside content bytes

def lastRead? (language : Language) (entries : List (Value × Value)) : Option Value :=
  (entries.reverse.find? fun entry => readLanguage entry.1 = .ok language).map Prod.snd

theorem lastRead?_of_unpacked (distinct : Distinct entries) (unpacked : Unpacked language entries) :
    lastRead? language entries = lookup? entries language.id := by
  rw [← lookup?_reverse distinct, lastRead?, lookup?]
  refine congrArg (Option.map Prod.snd) (List.find?_congr fun entry member => ?_)
  rw [Bool.eq_iff_iff, decide_eq_true_iff, sameKey_text_iff]
  constructor
  · exact fun read => eq_text_of_readLanguage read (unpacked entry (List.mem_reverse.mp member) · · read)
  · intro isText
    rw [isText, readLanguage_id]

theorem hasCommand_lastRead? {settings : ExecutionSettings} (language : Language)
    (read : readCommands (.map entries) = .ok settings.commands) :
    HasCommand settings language (lastRead? language (canonicalEntries entries)) := by
  obtain ⟨commands, made, _, merged⟩ := readCommands_eq_ok_iff.mp read
  have backwards : (canonicalEntries entries).reverse.map readCommand = commands.reverse.map .ok := by
    rw [List.map_reverse, made, List.map_reverse]
  have texts := find?_of_map_readCommand backwards language
  have chosen : settings.commandFor language =
      ((commands.reverse.lookup language).map fun command => String.ofList (Text.strip command.toList)).getD
        language.defaultCommand := by
    rw [ExecutionSettings.commandFor, ← merged, lookup_mergeCommands, lookup_foldl_putCommand, Option.getD_some]
    exact congrArg (fun known => (Option.map _ known).getD _) Option.or_none
  unfold lastRead?
  cases found : (canonicalEntries entries).reverse.find? fun entry => readLanguage entry.1 = .ok language with
  | none =>
    rw [found] at texts
    rw [Option.map_eq_none_iff.mp texts.symm] at chosen
    exact chosen
  | some entry =>
    rw [found] at texts
    obtain ⟨text, written, same⟩ := Option.map_eq_some_iff.mp texts.symm
    rw [written] at chosen
    exact ⟨text, same.symm, chosen⟩

theorem distinct_canonicalEntries (entries : List (Value × Value)) : Distinct (canonicalEntries entries) := by
  rw [canonicalEntries_eq_putAll]
  exact Distinct.putAll .nil _

theorem hasCommand_of_readCommands {settings : ExecutionSettings} (unpacked : Unpacked language entries)
    (read : readCommands (.map entries) = .ok settings.commands) :
    HasCommand settings language (lookup? (canonicalEntries entries) language.id) := by
  rw [← lastRead?_of_unpacked (distinct_canonicalEntries entries) unpacked.canonicalEntries]
  exact hasCommand_lastRead? language read

theorem hasCommand_of_merges {settings : ExecutionSettings} (merges : Merges given merged) (distinct : Distinct merged)
    (unpacked : Unpacked language given) (read : readCommands (.map merged) = .ok settings.commands) :
    HasCommand settings language (deciding? language given) := by
  have kept : Unpacked language merged := by
    intro entry member content packed
    obtain ⟨source, there, same⟩ := merges.keys entry member
    exact same ▸ unpacked source there content (same.trans packed)
  have has := hasCommand_of_readCommands kept read
  rw [lookup?_canonicalEntries distinct, merges.names] at has
  unfold deciding? spellings
  cases last : ((names given).eraseDups.filter fun name => Language.parse? name = some language).getLast? with
  | none =>
    rw [last] at has
    exact has
  | some name =>
    rw [last, Option.bind_some] at has
    rw [Option.bind_some]
    have known : name ∈ names merged := by
      rw [merges.names]
      exact (List.mem_filter.mp (List.mem_of_getLast? last)).1
    obtain ⟨value, found⟩ := Option.isSome_iff_exists.mp (lookup?_isSome_iff.mpr known)
    rw [found] at has
    -- A command is a text, so it was given as it stands and not merged from maps.
    have noMap : ∀ inner, value ≠ .map inner := by
      rintro inner rfl
      obtain ⟨_, isText, _⟩ := has
      cases isText
    rw [merges.last name value found noMap]
    exact has

theorem Unpacked.append {later : List (Value × Value)} (first : Unpacked language entries)
    (second : Unpacked language later) : Unpacked language (entries ++ later) :=
  List.forall_mem_append.mpr ⟨first, second⟩

theorem unpacked_of_texts (texts : ∀ entry ∈ entries, entry.1.isText = true) : Unpacked language entries := by
  intro entry member content packed
  have isText := texts entry member
  rw [packed] at isText
  cases isText

theorem unpacked_of_proper (proper : (Value.map entries).Proper Value.isText) : Unpacked language entries :=
  unpacked_of_texts proper.keys

section
variable {below above : List (Value × Value)}

/-- If the spelling that turned up last is also the last of the later entries, these decide alone. -/
theorem deciding?_append_of_last
    (same : (spellings language (below ++ above)).getLast? = (spellings language above).getLast?) :
    deciding? language (below ++ above) = deciding? language above := by
  rw [deciding?, deciding?, same]
  refine Option.bind_congr fun name last => ?_
  have known : name ∈ names above.reverse := by
    rw [names_reverse, List.mem_reverse]
    exact (mem_spellings_iff.mp (List.mem_of_getLast? last)).1
  obtain ⟨value, found⟩ := Option.isSome_iff_exists.mp (lookup?_isSome_iff.mpr known)
  rw [List.reverse_append, lookup?_append, found, Option.some_or]

theorem deciding?_append_of_silent (silent : spellings language above = []) :
    deciding? language (below ++ above) = deciding? language below := by
  have absent {name : String} (reads : Language.parse? name = some language) : name ∉ names above := by
    intro known
    have named := mem_spellings_iff.mpr ⟨known, reads⟩
    rw [silent] at named
    cases named
  have same : spellings language (below ++ above) = spellings language below := by
    rw [spellings, names_append, List.eraseDups_append, List.filter_append, spellings]
    refine List.append_right_eq_self.mpr (List.filter_eq_nil_iff.mpr fun name later reads => ?_)
    have known := (List.mem_filter.mp (List.mem_eraseDups.mp later)).1
    exact absent (of_decide_eq_true reads) known
  rw [deciding?, deciding?, same]
  refine Option.bind_congr fun name last => ?_
  have reads := (mem_spellings_iff.mp (List.mem_of_getLast? last)).2
  have none : lookup? above.reverse name = none := by
    rw [← Option.not_isSome_iff_eq_none, lookup?_isSome_iff, names_reverse, List.mem_reverse]
    exact absent reads
  rw [List.reverse_append, lookup?_append, none, Option.none_or]

end

section
variable {settings : Settings} {below sections : List (Value × Value)} {isKey : Value → Bool}

def commandsIn (sections : List (Value × Value)) : List (Value × Value) :=
  entriesAt (entriesAt sections "execution") "commands"

theorem map_of_optional {α : Type} {name : String} {usual a : α} {check : Value → Checked α}
    (read : optional entries name usual check = .ok a)
    (isMap : ∀ value a, check value = .ok a → ∃ inner, value = .map inner) (empty : check (.map []) = .ok usual) :
    MapAt entries name ∧ check (.map (entriesAt entries name)) = .ok a := by
  unfold optional at read
  unfold MapAt entriesAt
  cases found : lookup? entries name with
  | none =>
    rw [found] at read
    cases read
    exact ⟨nofun, empty⟩
  | some value =>
    rw [found] at read
    have checked := under_eq_ok_iff.mp read
    obtain ⟨inner, rfl⟩ := isMap value a checked
    refine ⟨fun other same => ⟨inner, (Option.some.inj same).symm⟩, checked⟩

theorem readCommands_of_readExecution {fields : List (Value × Value)} {settings : ExecutionSettings}
    (read : readExecution (.map fields) = .ok settings) :
    MapAt fields "commands" ∧ readCommands (.map (entriesAt fields "commands")) = .ok settings.commands := by
  obtain ⟨_, ⟨⟩, _, _, _, _, commands⟩ := readExecution_eq_ok_iff.mp read
  exact map_of_optional commands (fun _ _ => map_of_readCommands) rfl

theorem commands_of_readSettings (read : readSettings sections = .ok settings) :
    MapAt sections "execution" ∧ MapAt (entriesAt sections "execution") "commands" ∧
      readCommands (.map (commandsIn sections)) = .ok settings.execution.commands := by
  obtain ⟨_, _, _, _, execution, _⟩ := readSettings_eq_ok_iff.mp read
  have areMaps (value : Value) (settings : ExecutionSettings) (read : readExecution value = .ok settings) :
      ∃ inner, value = .map inner := by
    obtain ⟨inner, isMap, _⟩ := readExecution_eq_ok_iff.mp read
    exact ⟨inner, isMap⟩
  obtain ⟨isMap, read⟩ := map_of_optional execution areMaps rfl
  exact ⟨isMap, readCommands_of_readExecution read⟩

/-- The decisive entry counts, the sections above being given after whatever the commands below were merged from. -/
theorem hasCommand_of_readSettings (read : readSettings (overlay below sections) = .ok settings)
    (proper : (Value.map sections).Proper isKey) (merges : Merges given (commandsIn below))
    (distinct : Distinct (commandsIn below)) (known : Unpacked language given)
    (unpacked : Unpacked language (commandsIn sections)) :
    HasCommand settings.execution language (deciding? language (given ++ commandsIn sections)) := by
  obtain ⟨sectionIsMap, isMap, read⟩ := commands_of_readSettings read
  have inner : entriesAt (overlay below sections) "execution" =
      overlay (entriesAt below "execution") (entriesAt sections "execution") :=
    entriesAt_overlay proper (sectionIsMap.of_overlay proper.distinct)
  rw [inner] at isMap
  have own := proper_entriesAt proper "execution"
  have layered : commandsIn (overlay below sections) = overlay (commandsIn below) (commandsIn sections) := by
    rw [commandsIn, inner]
    exact entriesAt_overlay own (isMap.of_overlay own.distinct)
  rw [layered] at read
  exact hasCommand_of_merges (merges_overlay merges _) (distinct_overlay distinct _) (known.append unpacked) read

end

theorem proper_canonicalSections (proper : (Value.map entries).Proper fun _ => true) :
    (Value.map (canonicalSections entries)).Proper fun _ => true := by
  refine List.foldlRecOn (motive := fun known => (Value.map known).Proper fun _ => true) entries _ .empty ?_
  intro known kept entry member
  obtain ⟨key, value⟩ := entry
  have put (key : Value) : (Value.map (putEntry known key value)).Proper fun _ => true :=
    kept.putEntry rfl (proper.inner _ member)
  dsimp only
  split
  · exact kept
  · split
    · split
      · exact put _
      · split
        · exact kept
        · exact put _
    · exact put _

section
variable {settings : Settings} {rules : VariableRules} {vars : Variables} {whole fields below : List (Value × Value)}

/-- What the variables say about commands: the one for all of the execution section, if there is any, holds the
map `whole`, the ones for its fields give `fields`, and `commands` is always written in this way. -/
structure GivesCommands (rules : VariableRules) (vars : Variables) (whole fields : List (Value × Value)) : Prop where
  sectionVariable : (vars.lookup (rules.sectionVariable "execution") = none ∧ whole = []) ∨
    ∃ written, vars.lookup (rules.sectionVariable "execution") = some written ∧ rules.nullWord ≠ some written ∧
      structuredValue "execution" written = .ok (.map whole)
  nested : nestedFields rules "execution" executionFields vars = .ok fields
  spelled : ∀ name ∈ names (whole ++ fields), lowerText name = "commands" → name = "commands"
  isMap : MapAt fields "commands"

namespace GivesCommands

theorem proper_whole (gives : GivesCommands rules vars whole fields) : (Value.map whole).Proper Value.isText := by
  rcases gives.sectionVariable with ⟨_, rfl⟩ | ⟨_, _, _, read⟩
  · exact .empty
  · exact proper_of_structuredValue read

theorem proper_fields (gives : GivesCommands rules vars whole fields) : (Value.map fields).Proper Value.isText :=
  proper_of_nestedFields gives.nested

/-- The section has the fields over what its own variable holds, and maybe its keys are spelled anew. -/
theorem execution (gives : GivesCommands rules vars whole fields)
    (made : sectionFromEnvironment rules "execution" executionFields vars = .ok (lookup? below "execution")) :
    entriesAt below "execution" = overlay whole fields ∨
      entriesAt below "execution" = spellEntries executionFields [] (overlay whole fields) := by
  have spelled {entries : List (Value × Value)} (found : lookup? below "execution" = some
      (if rules.caseSensitive then .map entries else spellFields executionFields (.map entries))) :
      entriesAt below "execution" = entries ∨
        entriesAt below "execution" = spellEntries executionFields [] entries := by
    by_cases sensitive : rules.caseSensitive = true
    · rw [if_pos sensitive] at found
      exact .inl (by rw [entriesAt, found])
    · rw [if_neg sensitive, spellFields] at found
      exact .inr (by rw [entriesAt, found])
  unfold sectionFromEnvironment at made
  extract_lets spell at made
  rcases gives.sectionVariable with ⟨absent, rfl⟩ | ⟨written, there, noNull, read⟩
  · have alone : overlay [] fields = fields := overlay_of_distinct gives.proper_fields.distinct
    rw [alone]
    rw [absent, gives.nested] at made
    -- Without any field there is no section at all.
    cases empty : fields with
    | nil =>
      rw [empty] at made
      have none : lookup? below "execution" = none := (Except.ok.inj made).symm
      exact .inl (by rw [entriesAt, none])
    | cons entry rest =>
      rw [empty] at made
      exact spelled (Except.ok.inj made).symm
  · rw [there] at made
    dsimp only at made
    rw [if_neg noNull, read, gives.nested] at made
    exact spelled (Except.ok.inj made).symm

theorem lookup?_commands (gives : GivesCommands rules vars whole fields)
    (made : sectionFromEnvironment rules "execution" executionFields vars = .ok (lookup? below "execution")) :
    lookup? (entriesAt below "execution") "commands" = lookup? (overlay whole fields) "commands" := by
  rcases gives.execution made with same | spelled
  · rw [same]
  have distinct := distinct_overlay gives.proper_whole.distinct fields
  have merges := merges_overlay (Merges.of_distinct gives.proper_whole.distinct) fields
  have own : fieldNamed? executionFields (.text "commands") = some ("commands", .structured) := rfl
  have written : ∀ entry ∈ overlay whole fields, ∀ form,
      fieldNamed? executionFields entry.1 = some ("commands", form) → entry.1 = .text "commands" := by
    intro entry member form named
    obtain ⟨source, there, same⟩ := merges.keys entry member
    rw [← same] at named ⊢
    cases key : source.1 with
    | text name =>
      rw [key] at named
      have lower : lowerText "commands" = lowerText name := by simpa using List.find?_some named
      exact congrArg _ (gives.spelled name (mem_names_iff.mpr ⟨source, there, key⟩) lower.symm)
    | _ =>
      rw [key] at named
      cases named
  rw [spelled, lookup?_spellEntries own nofun written, lookup?_reverse distinct]
  exact Option.or_none

theorem commandsIn (gives : GivesCommands rules vars whole fields)
    (made : sectionFromEnvironment rules "execution" executionFields vars = .ok (lookup? below "execution")) :
    commandsIn below = overlay (entriesAt whole "commands") (entriesAt fields "commands") := by
  have merged : entriesAt (overlay whole fields) "commands" =
      overlay (entriesAt whole "commands") (entriesAt fields "commands") :=
    entriesAt_overlay gives.proper_fields gives.isMap
  rw [← merged, Config.commandsIn, entriesAt, gives.lookup?_commands made, entriesAt]

end GivesCommands

theorem formAt?_commands : formAt? {} executionFields ["commands"] = some .structured := by
  have forms : executionFields = [("temp_file_prefix", .plain), ("terminal", .plain),
    ("windows_terminal_executable", .plain), ("cmd_executable", .plain), ("commands", .structured)] := rfl
  rw [formAt?, fieldForm?, forms, List.find?_cons_of_neg (by decide +kernel), List.find?_cons_of_neg (by decide +kernel),
    List.find?_cons_of_neg (by decide +kernel), List.find?_cons_of_neg (by decide +kernel),
    List.find?_cons_of_pos (by decide +kernel), Option.map_some]

/-- Two variables, one for the section and one for its commands, that are written as maps. -/
theorem givesCommands_of_read {written own : String} {whole inner : List (Value × Value)}
    (read : structuredValue "execution" written = .ok (.map whole))
    (nested : structuredValue "execution" own = .ok (.map inner)) (nonempty : own.isEmpty = false)
    (spelled : ∀ name ∈ names whole, lowerText name = "commands" → name = "commands") :
    GivesCommands {} [("runonce_execution", written), ("runonce_execution__commands", own)] whole
      [(.text "commands", .map inner)] := by
  have lead : VariableRules.sectionVariable {} "execution" = "runonce_execution" := by decide +kernel
  refine ⟨.inr ⟨written, by rw [lead]; rfl, nofun, read⟩, ?_, ?_, ?_⟩
  · have other : ("runonce_execution" ++ "__").toList.isPrefixOf "runonce_execution".toList = false := by decide
    have same : ("runonce_execution" ++ "__").toList.isPrefixOf "runonce_execution__commands".toList = true := by decide
    have way : splitName "__".toList none [] 0
        ("runonce_execution__commands".toList.drop ("runonce_execution" ++ "__").toList.length) = ["commands"] := by
      decide +kernel
    have value : fieldValue {} "execution" (some .structured) own = .ok (.map inner) := by
      rw [fieldValue]
      dsimp only
      rw [nonempty]
      exact nested
    simp only [nestedFields, lead, List.foldlM_cons, List.foldlM_nil, other, same, way, formAt?_commands, value, if_true]
    rfl
  · intro name member lower
    rw [names_append] at member
    rcases List.mem_append.mp member with inside | last
    · exact spelled name inside lower
    · exact List.mem_singleton.mp last
  · rintro _ ⟨⟩
    exact ⟨inner, rfl⟩

/-- The spelling of a language that turned up last decides, over all that variables and then given data say about
commands. So given data wins where that spelling is the last of its own, and so do the fields over the section
where given data says nothing. -/
theorem command_precedence {env : Environment} (made : settingsFrom entries env = .ok settings)
    (ruled : VariableRules.ofEntries entries = some rules) (proper : (Value.map entries).Proper fun _ => true)
    (unpacked : Unpacked language (commandsIn (canonicalSections entries))) :
    let file := commandsIn (canonicalSections entries)
    let decides (given : List (Value × Value)) := HasCommand settings.execution language (deciding? language given)
    ∃ below, entriesFromEnvironment rules env.vars = .ok below ∧
      decides (commandsIn below ++ file) ∧
      ((spellings language (commandsIn below ++ file)).getLast? = (spellings language file).getLast? → decides file) ∧
      ∀ whole fields, GivesCommands rules (rules.canonical env.vars) whole fields →
        let ofSection := entriesAt whole "commands"
        let ofFields := entriesAt fields "commands"
        decides (ofSection ++ ofFields ++ file) ∧
        (spellings language file = [] →
          (spellings language (ofSection ++ ofFields)).getLast? = (spellings language ofFields).getLast? →
            decides ofFields) := by
  intro file decides
  obtain ⟨_, combined, read⟩ := readSettings_of_settingsFrom made
  obtain ⟨below, found, rfl⟩ := (combine_eq_ok_iff ruled).mp combined
  have isText := proper_entriesAt (proper_entriesFromEnvironment found) "commands"
  have sections := proper_canonicalSections proper
  have layered : decides (commandsIn below ++ file) :=
    hasCommand_of_readSettings read sections (.of_distinct isText.distinct) isText.distinct
      (unpacked_of_proper isText) unpacked
  refine ⟨below, found, layered, fun same => ?_, ?_⟩
  · exact (congrArg (HasCommand _ _) (deciding?_append_of_last same)).mp layered
  intro whole fields gives ofSection ofFields
  have first := proper_entriesAt gives.proper_whole "commands"
  have second := proper_entriesAt gives.proper_fields "commands"
  have merges := merges_overlay (Merges.of_distinct first.distinct) ofFields
  rw [← gives.commandsIn (lookup?_entriesFromEnvironment found)] at merges
  have known : Unpacked language (ofSection ++ ofFields) :=
    Unpacked.append (unpacked_of_proper first) (unpacked_of_proper second)
  have layered : decides (ofSection ++ ofFields ++ file) :=
    hasCommand_of_readSettings read sections merges isText.distinct known unpacked
  refine ⟨layered, fun silent same => ?_⟩
  have alone : deciding? language (ofSection ++ ofFields ++ file) = deciding? language ofFields :=
    (deciding?_append_of_silent silent).trans (deciding?_append_of_last same)
  exact (congrArg (HasCommand _ _) alone).mp layered

def twoSpellings : Environment :=
  .ofVariables [("RUNONCE_EXECUTION", "\x7b\"commands\": \x7b\"python\": \"section\"\x7d\x7d"),
    ("RUNONCE_EXECUTION__COMMANDS", "\x7b\"Python\": \" nested \"\x7d")]

def oneCommand (name command : String) : List (Value × Value) :=
  [(.text "execution", .map [(.text "commands", .map [(.text name, .text command)])])]

theorem proper_oneCommand (name command : String) : (Value.map (oneCommand name command)).Proper fun _ => true := by
  have single {key value : Value} (inner : value.Proper fun _ => true) :
      (Value.map [(key, value)]).Proper fun _ => true := by
    refine .map (List.pairwise_singleton _ _) (fun _ _ => rfl) fun entry member => ?_
    rw [List.mem_singleton.mp member]
    exact inner
  exact single (single (single (.leaf nofun)))

theorem commandsIn_oneCommand (name command : String) :
    commandsIn (canonicalSections (oneCommand name command)) = [(.text name, .text command)] := by
  have lower : lowerText "execution" = "execution" := by decide +kernel
  have noRule : VariableRules.isRule (.text "execution") = false := by decide +kernel
  simp only [canonicalSections, oneCommand, List.foldl_cons, noRule, lower]
  rfl

theorem command_precedence_new_spelling :
    ∃ settings, settingsFrom (oneCommand "PYTHON " " file ") twoSpellings = .ok settings ∧
      settings.execution.commandFor .python = "file" := by
  have file := commandsIn_oneCommand "PYTHON " " file "
  have unpacked : Unpacked .python (commandsIn (canonicalSections (oneCommand "PYTHON " " file "))) := by
    rw [file]
    rintro _ (_ | ⟨_, ⟨⟩⟩) _ ⟨⟩
  have accepted : (settingsFrom (oneCommand "PYTHON " " file ") twoSpellings).toOption.isSome = true := by
    decide +kernel
  obtain ⟨settings, made⟩ := Option.isSome_iff_exists.mp accepted
  have made := toOption_eq_some_iff.mp made
  have usual : VariableRules.ofEntries (oneCommand "PYTHON " " file ") = some {} := by decide +kernel
  obtain ⟨_, _, _, _, layers⟩ := command_precedence made usual (proper_oneCommand _ _) unpacked
  have known : VariableRules.canonical {} twoSpellings.vars =
      [("runonce_execution", "\x7b\"commands\": \x7b\"python\": \"section\"\x7d\x7d"),
        ("runonce_execution__commands", "\x7b\"Python\": \" nested \"\x7d")] := by
    decide +kernel
  have gives : GivesCommands {} (VariableRules.canonical {} twoSpellings.vars)
      [(.text "commands", .map [(.text "python", .text "section")])]
      [(.text "commands", .map [(.text "Python", .text " nested ")])] := by
    rw [known]
    exact givesCommands_of_read (by cbv) (by cbv) (by decide) (by decide +kernel)
  have last := (layers _ _ gives).1
  rw [file] at last
  have written : (deciding? .python [(.text "python", .text "section"), (.text "Python", .text " nested "),
      (.text "PYTHON ", .text " file ")]).map readText = some (.ok " file ") := by
    decide +kernel
  refine ⟨settings, made, (HasCommand.commandFor_eq last written).trans ?_⟩
  decide +kernel

/-- The second spelling of the variables stays behind the one that given data takes over. -/
theorem command_of_variables_stays :
    (settingsFrom (oneCommand "python" "file") twoSpellings).toOption.map (·.execution.commandFor .python) =
        some "nested" ∧
      spellings .python (commandsIn (canonicalSections (oneCommand "python" "file"))) = ["python"] ∧
      (deciding? .python (commandsIn (canonicalSections (oneCommand "python" "file")))).map readText =
        some (.ok "file") := by
  decide +kernel

end

end Scriptlet.Config
