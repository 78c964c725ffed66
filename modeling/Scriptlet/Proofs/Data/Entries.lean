import Scriptlet.Config.Environment

/-!
Maps as lists of entries. A key that is set anew keeps its place, so what is set one after the other in an
empty map gives each key its last value, in the order of the first appearances.
-/
namespace Scriptlet.Value
variable {known entries later : List (Value × Value)} {key value : Value} {name : String}

def putAll (known entries : List (Value × Value)) : List (Value × Value) :=
  entries.foldl (fun known entry => putEntry known entry.1 entry.2) known

theorem Distinct.putAll (distinct : Distinct known) (entries : List (Value × Value)) :
    Distinct (putAll known entries) := by
  induction entries generalizing known with
  | nil => exact distinct
  | cons entry rest ih => exact ih (distinct.putEntry entry.1 entry.2)

theorem putAll_of_distinct (distinct : Distinct (known ++ later)) : putAll known later = known ++ later := by
  induction later generalizing known with
  | nil => exact (List.append_nil known).symm
  | cons entry rest ih =>
    have fresh : ∀ other ∈ known, other.1.sameKey entry.1 = false := by
      intro other member
      exact (List.pairwise_append.mp distinct).2.2 other member entry List.mem_cons_self
    rw [List.append_cons] at distinct ⊢
    rw [← ih distinct]
    exact congrArg (fun start => putAll start rest) (putEntry_of_fresh fresh entry.2)

theorem lookup?_cons (entry : Value × Value) (rest : List (Value × Value)) (name : String) :
    lookup? (entry :: rest) name = if entry.1.sameKey (.text name) then some entry.2 else lookup? rest name := by
  unfold lookup?
  rw [List.find?_cons]
  split
  next same => rw [if_pos same]; rfl
  next other => rw [if_neg (Bool.not_eq_true _ ▸ other)]

theorem lookup?_append (entries later : List (Value × Value)) (name : String) :
    lookup? (entries ++ later) name = (lookup? entries name).or (lookup? later name) := by
  unfold lookup?
  rw [List.find?_append, Option.map_or]

private theorem fst_replaced (entry : Value × Value) (key value : Value) :
    (if entry.1.sameKey key = true then (entry.1, value) else entry).1 = entry.1 := by
  split <;> rfl

private theorem mem_replaced {old : Value × Value} (inside : old ∈ entries) (key value : Value) :
    ∃ kept ∈ entries.map (fun entry => if entry.1.sameKey key then (entry.1, value) else entry), kept.1 = old.1 :=
  ⟨_, List.mem_map_of_mem inside, fst_replaced old key value⟩

theorem exists_key_of_mem {old : Value × Value} (inside : old ∈ entries) (key value : Value) :
    ∃ kept ∈ putEntry entries key value, kept.1 = old.1 := by
  unfold putEntry
  split
  next => exact mem_replaced inside key value
  next => exact ⟨old, List.mem_append_left _ inside, rfl⟩

theorem exists_key_putEntry (entries : List (Value × Value)) (key value : Value) :
    ∃ kept ∈ putEntry entries key value, kept.1 = key ∨ kept.1.sameKey key = true := by
  unfold putEntry
  split
  next known =>
    obtain ⟨old, inside, same⟩ := List.any_eq_true.mp known
    obtain ⟨kept, member, stays⟩ := mem_replaced inside key value
    exact ⟨kept, member, .inr (stays ▸ same)⟩
  next => exact ⟨(key, value), List.mem_append_right _ (List.mem_singleton_self _), .inl rfl⟩

theorem exists_key_putAll_of_mem {old : Value × Value} (inside : old ∈ known) (entries : List (Value × Value)) :
    ∃ kept ∈ putAll known entries, kept.1 = old.1 := by
  induction entries generalizing known old with
  | nil => exact ⟨old, inside, rfl⟩
  | cons entry rest ih =>
    obtain ⟨next, there, same⟩ := exists_key_of_mem inside entry.1 entry.2
    rw [← same]
    exact ih there

/-- No key is lost, though it may stay in the form in which it was met first. -/
theorem exists_key_putAll (known : List (Value × Value)) {entry : Value × Value} (member : entry ∈ entries) :
    ∃ kept ∈ putAll known entries, kept.1 = entry.1 ∨ kept.1.sameKey entry.1 = true := by
  induction entries generalizing known with
  | nil => cases member
  | cons first rest ih =>
    rcases List.mem_cons.mp member with rfl | later
    · obtain ⟨kept, there, same⟩ := exists_key_putEntry known entry.1 entry.2
      obtain ⟨last, inside, stays⟩ := exists_key_putAll_of_mem there rest
      exact ⟨last, inside, stays ▸ same⟩
    · exact ih (putEntry known first.1 first.2) later

private theorem lookup?_replaced (entries : List (Value × Value)) (key value : Value) (name : String) :
    lookup? (entries.map fun entry => if entry.1.sameKey key then (entry.1, value) else entry) name =
      (entries.find? fun entry => entry.1.sameKey (.text name)).map fun entry =>
        if entry.1.sameKey key then value else entry.2 := by
  rw [lookup?, List.find?_map, Option.map_map]
  simp only [Function.comp_def, fst_replaced, apply_ite Prod.snd]

theorem lookup?_putEntry_same (entries : List (Value × Value)) (name : String) (value : Value) :
    lookup? (putEntry entries (.text name) value) name = some value := by
  unfold putEntry
  split
  next known =>
    rw [lookup?_replaced]
    obtain ⟨entry, found⟩ := Option.isSome_iff_exists.mp (List.find?_isSome.mpr (List.any_eq_true.mp known))
    rw [found, Option.map_some, if_pos (List.find?_some found)]
  next fresh =>
    have none : entries.find? (fun entry => entry.1.sameKey (.text name)) = none :=
      List.find?_eq_none.mpr fun entry member same => fresh (List.any_eq_true.mpr ⟨entry, member, same⟩)
    rw [lookup?_append, lookup?, none, lookup?_cons, if_pos (sameKey_text_iff.mpr rfl)]
    rfl

theorem lookup?_putEntry_other (entries : List (Value × Value)) (value : Value)
    (other : key ≠ .text name) : lookup? (putEntry entries key value) name = lookup? entries name := by
  unfold putEntry
  split
  next =>
    rw [lookup?_replaced, lookup?]
    refine Option.map_congr fun entry found => ?_
    have same : entry.1.sameKey (.text name) = true := by simpa using List.find?_some found
    rw [sameKey_text_iff.mp same, if_neg (mt text_sameKey_iff.mp other)]
  next =>
    rw [lookup?_append, lookup?_cons, if_neg (mt sameKey_text_iff.mp other)]
    exact Option.or_none

theorem lookup?_putAll (known entries : List (Value × Value)) (name : String) :
    lookup? (putAll known entries) name = (lookup? entries.reverse name).or (lookup? known name) := by
  induction entries generalizing known with
  | nil => rfl
  | cons entry rest ih =>
    rw [putAll, List.foldl_cons, ← putAll, ih, List.reverse_cons, lookup?_append, Option.or_assoc, lookup?_cons]
    congr 1
    by_cases same : entry.1 = .text name
    · rw [same, lookup?_putEntry_same, if_pos (sameKey_text_iff.mpr rfl)]
      rfl
    · rw [lookup?_putEntry_other known entry.2 same, if_neg (mt sameKey_text_iff.mp same)]
      rfl

/-- With distinct keys it does not matter from which end a key is looked for. -/
theorem lookup?_reverse (distinct : Distinct entries) (name : String) :
    lookup? entries.reverse name = lookup? entries name := by
  have built : putAll [] entries = entries := putAll_of_distinct distinct
  have last := lookup?_putAll [] entries name
  rw [built] at last
  exact (last.trans Option.or_none).symm

theorem lookup?_of_mem (distinct : Distinct entries) (member : (.text name, value) ∈ entries) :
    lookup? entries name = some value := by
  obtain ⟨before, behind, rfl⟩ := List.append_of_mem member
  have fresh : lookup? before name = none := by
    refine Option.map_eq_none_iff.mpr (List.find?_eq_none.mpr fun other inside => Bool.eq_false_iff.mp ?_)
    exact (List.pairwise_append.mp distinct).2.2 other inside _ List.mem_cons_self
  rw [lookup?_append, fresh, Option.none_or, lookup?_cons, if_pos (sameKey_text_iff.mpr rfl)]

def asText? : Value → Option String
  | text name => some name
  | _ => none

theorem asText?_eq_some_iff : key.asText? = some name ↔ key = .text name := by
  cases key <;> simp [asText?]

def names (entries : List (Value × Value)) : List String := entries.filterMap (·.1.asText?)

theorem mem_names_iff : name ∈ names entries ↔ ∃ entry ∈ entries, entry.1 = .text name := by
  rw [names, List.mem_filterMap]
  exact exists_congr fun entry => and_congr_right fun _ => asText?_eq_some_iff

theorem lookup?_isSome_iff : (lookup? entries name).isSome = true ↔ name ∈ names entries := by
  rw [lookup?, Option.isSome_map, List.find?_isSome, mem_names_iff]
  exact exists_congr fun entry => and_congr_right fun _ => sameKey_text_iff

theorem names_singleton (key value : Value) : names [(key, value)] = key.asText?.toList := by
  rw [names, List.filterMap_cons]
  cases key.asText? <;> rfl

theorem names_append (entries later : List (Value × Value)) :
    names (entries ++ later) = names entries ++ names later :=
  List.filterMap_append

theorem names_reverse (entries : List (Value × Value)) : names entries.reverse = (names entries).reverse :=
  List.filterMap_reverse

private theorem names_replaced (entries : List (Value × Value)) (key value : Value) :
    names (entries.map fun entry => if entry.1.sameKey key then (entry.1, value) else entry) = names entries := by
  simp only [names, List.filterMap_map, Function.comp_def, fst_replaced]

theorem names_putEntry (entries : List (Value × Value)) (key value : Value) :
    names (putEntry entries key value) = names entries ++ (names [(key, value)]).removeAll (names entries) := by
  have own (name : String) (member : name ∈ names [(key, value)]) : key = .text name := by
    obtain ⟨entry, single, named⟩ := mem_names_iff.mp member
    rwa [List.mem_singleton.mp single] at named
  unfold putEntry
  split
  next known =>
    have none : (names [(key, value)]).removeAll (names entries) = [] := by
      refine List.filter_eq_nil_iff.mpr fun name member => ?_
      obtain ⟨entry, inside, same⟩ := List.any_eq_true.mp known
      rw [own name member, sameKey_text_iff] at same
      simpa using mem_names_iff.mpr ⟨entry, inside, same⟩
    rw [names_replaced, none, List.append_nil]
  next fresh =>
    have all : (names [(key, value)]).removeAll (names entries) = names [(key, value)] := by
      refine List.filter_eq_self.mpr fun name member => ?_
      have absent : name ∉ names entries := by
        intro known
        obtain ⟨entry, inside, named⟩ := mem_names_iff.mp known
        refine fresh (List.any_eq_true.mpr ⟨entry, inside, ?_⟩)
        rw [own name member]
        exact sameKey_text_iff.mpr named
      simpa using absent
    rw [names_append, all]

/-- A map as it stands after values were given to keys one after the other: the names in the order of their
first appearances, and each value the last that was given, unless it is a map, which may have been merged. -/
structure Merges (given merged : List (Value × Value)) : Prop where
  keys : ∀ entry ∈ merged, ∃ source ∈ given, source.1 = entry.1
  names : names merged = (names given).eraseDups
  last : ∀ name value, lookup? merged name = some value → (∀ inner, value ≠ .map inner) →
    lookup? given.reverse name = some value

namespace Merges
variable {given merged : List (Value × Value)}

theorem nil : Merges [] [] := ⟨nofun, rfl, nofun⟩

theorem put (merges : Merges given merged) (key : Value) {value kept : Value}
    (same : kept = value ∨ ∃ inner, kept = .map inner) : Merges (given ++ [(key, value)]) (putEntry merged key kept) := by
  refine ⟨fun entry member => ?_, ?_, ?_⟩
  · have before (old : Value × Value) (inside : old ∈ merged) :
        ∃ source ∈ given ++ [(key, value)], source.1 = old.1 := by
      obtain ⟨source, there, same⟩ := merges.keys old inside
      exact ⟨source, List.mem_append_left _ there, same⟩
    rcases mem_putEntry member with inside | ⟨_, own | ⟨old, inside, own⟩⟩
    · exact before entry inside
    · exact ⟨(key, value), List.mem_append_right _ (List.mem_singleton_self _), own.symm⟩
    · exact own ▸ before old inside
  · -- A name that is new comes last on both sides, and one that is known changes neither.
    have known : (Value.names [(key, kept)]).removeAll (Value.names merged) =
        ((Value.names [(key, value)]).removeAll (Value.names given)).eraseDups := by
      rw [merges.names, names_singleton, names_singleton]
      cases key.asText? with
      | none => rfl
      | some name => by_cases before : name ∈ Value.names given <;>
          simp [List.removeAll, before, List.eraseDups_cons]
    rw [names_putEntry, names_append, List.eraseDups_append, known, merges.names]
  · intro name found there noMap
    rw [List.reverse_append, List.reverse_singleton, List.singleton_append, lookup?_cons]
    by_cases own : key = .text name
    · subst own
      rw [lookup?_putEntry_same] at there
      cases there
      rw [if_pos (sameKey_text_iff.mpr rfl)]
      exact congrArg some (same.resolve_right fun ⟨inner, isMap⟩ => noMap inner isMap).symm
    · rw [lookup?_putEntry_other merged kept own] at there
      rw [if_neg (mt sameKey_text_iff.mp own)]
      exact merges.last name found there noMap

theorem putAll (merges : Merges given merged) (entries : List (Value × Value)) :
    Merges (given ++ entries) (putAll merged entries) := by
  induction entries generalizing given merged with
  | nil => rwa [List.append_nil]
  | cons entry rest ih =>
    rw [List.append_cons]
    exact ih (merges.put entry.1 (.inl rfl))

theorem of_distinct (distinct : Distinct entries) : Merges entries entries := by
  have built : Value.putAll [] entries = entries := putAll_of_distinct distinct
  have merges := nil.putAll entries
  rwa [built] at merges

end Merges

end Scriptlet.Value
