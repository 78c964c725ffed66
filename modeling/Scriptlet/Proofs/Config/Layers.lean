import Scriptlet.Proofs.Config.Validity
import Scriptlet.Proofs.Data.Entries

/-!
Maps laid over one another. A key of the upper map keeps its place if the lower map has it too, and its value
counts, except that two maps are merged in the same way; so keys are compared as they are spelled. What
variables give has texts for keys, none of them twice.
-/
namespace Scriptlet.Config
open Value

variable {below above entries given : List (Value × Value)} {key value known : Value} {name : String}
variable {isKey : Value → Bool}

theorem overlayValue_cases (known value : Value) :
    (overlayValue known value = value) ∨
      ∃ below above, known = .map below ∧ value = .map above ∧ overlayValue known value = .map (overlay below above) := by
  cases value with
  | map above =>
    cases known with
    | map below => exact .inr ⟨below, above, rfl, rfl, by rw [overlayValue]⟩
    | _ => exact .inl (by rw [overlayValue]; nofun)
  | _ => exact .inl (by rw [overlayValue]; nofun)

def overlaid (below : List (Value × Value)) (key value : Value) : Value :=
  match below.find? fun entry => entry.1.sameKey key with
  | some (_, known) => overlayValue known value
  | none => value

theorem overlay_cons (below : List (Value × Value)) (entry : Value × Value) (rest : List (Value × Value)) :
    overlay below (entry :: rest) = overlay (putEntry below entry.1 (overlaid below entry.1 entry.2)) rest := by
  rw [overlay, overlaid]
  cases below.find? fun known => known.1.sameKey entry.1 <;> rfl

theorem overlaid_text (below : List (Value × Value)) (name : String) (value : Value) :
    overlaid below (.text name) value = ((lookup? below name).map (overlayValue · value)).getD value := by
  rw [overlaid, lookup?]
  cases below.find? fun entry => entry.1.sameKey (.text name) <;> rfl

theorem overlaid_cases (below : List (Value × Value)) (key value : Value) :
    overlaid below key value = value ∨ ∃ inner, overlaid below key value = .map inner := by
  unfold overlaid
  split
  next known _ =>
    rcases overlayValue_cases known value with same | ⟨_, _, _, _, merged⟩
    · exact .inl same
    · exact .inr ⟨_, merged⟩
  next => exact .inl rfl

theorem overlaid_of_noMap (noMap : ∀ inner, value ≠ .map inner) (below : List (Value × Value)) (key : Value) :
    overlaid below key value = value := by
  unfold overlaid
  split
  next known _ => exact (overlayValue_cases known value).resolve_right fun ⟨_, _, _, isMap, _⟩ => noMap _ isMap
  next => rfl

theorem merges_overlay (merges : Merges given below) (above : List (Value × Value)) :
    Merges (given ++ above) (overlay below above) := by
  induction above generalizing given below with
  | nil =>
    rw [overlay, List.append_nil]
    exact merges
  | cons entry rest ih =>
    rw [overlay_cons, List.append_cons]
    exact ih (merges.put entry.1 (overlaid_cases below entry.1 entry.2))

theorem distinct_overlay (distinct : Distinct below) (above : List (Value × Value)) :
    Distinct (overlay below above) := by
  induction above generalizing below with
  | nil => rwa [overlay]
  | cons entry rest ih =>
    rw [overlay_cons]
    exact ih (distinct.putEntry _ _)

theorem overlay_of_distinct (distinct : Distinct (below ++ above)) : overlay below above = below ++ above := by
  induction above generalizing below with
  | nil => rw [overlay, List.append_nil]
  | cons entry rest ih =>
    have fresh : ∀ other ∈ below, other.1.sameKey entry.1 = false := by
      intro other member
      exact (List.pairwise_append.mp distinct).2.2 other member entry List.mem_cons_self
    have absent : below.find? (fun other => other.1.sameKey entry.1) = none :=
      List.find?_eq_none.mpr fun other member => Bool.eq_false_iff.mp (fresh other member)
    have same : overlaid below entry.1 entry.2 = entry.2 := by rw [overlaid, absent]
    have whole : below ++ entry :: rest = below ++ [entry] ++ rest := List.append_cons below entry rest
    rw [whole] at distinct ⊢
    rw [overlay_cons, same, putEntry_of_fresh fresh]
    exact ih distinct

theorem lookup?_overlay (distinct : Distinct above) (below : List (Value × Value)) (name : String) :
    lookup? (overlay below above) name =
      match lookup? above name with
      | none => lookup? below name
      | some value => some (overlaid below (.text name) value) := by
  induction above generalizing below with
  | nil => rw [overlay]; rfl
  | cons entry rest ih =>
    rw [overlay_cons, ih (List.Pairwise.of_cons distinct), lookup?_cons]
    obtain ⟨first, later⟩ := List.pairwise_cons.mp distinct
    -- If this entry sets the key, no later one does, since the keys above are distinct.
    by_cases own : entry.1 = .text name
    · have absent : lookup? rest name = none := by
        refine Option.map_eq_none_iff.mpr (List.find?_eq_none.mpr fun other member same => ?_)
        have differ := first other member
        rw [own, text_sameKey_iff.mpr (sameKey_text_iff.mp same)] at differ
        cases differ
      rw [absent, own, if_pos (sameKey_text_iff.mpr rfl)]
      exact lookup?_putEntry_same _ _ _
    · rw [if_neg (mt sameKey_text_iff.mp own)]
      cases lookup? rest name with
      | none => exact lookup?_putEntry_other _ _ own
      | some value => exact congrArg some (by rw [overlaid_text, overlaid_text, lookup?_putEntry_other _ _ own])

/-- The entries of the map at a text key; none if there is no map. -/
def entriesAt (entries : List (Value × Value)) (name : String) : List (Value × Value) :=
  match lookup? entries name with
  | some (.map inner) => inner
  | _ => []

/-- Whether there is a map at a text key, if there is anything. -/
def MapAt (entries : List (Value × Value)) (name : String) : Prop :=
  ∀ value, lookup? entries name = some value → ∃ inner, value = .map inner

theorem proper_entriesAt (proper : (Value.map entries).Proper isKey) (name : String) :
    (Value.map (entriesAt entries name)).Proper isKey := by
  unfold entriesAt
  split
  next inner found =>
    obtain ⟨entry, there, same⟩ := Option.map_eq_some_iff.mp found
    rw [← same]
    exact proper.inner entry (List.mem_of_find?_eq_some there)
  next => exact .empty

/-- If there is a map in the end, there is none but a map above. -/
theorem MapAt.of_overlay (distinct : Distinct above) (isMap : MapAt (overlay below above) name) : MapAt above name := by
  intro value found
  by_contra noMap
  have merged := lookup?_overlay distinct below name
  rw [found] at merged
  dsimp only at merged
  rw [overlaid_of_noMap fun inner isMap => noMap ⟨inner, isMap⟩] at merged
  exact noMap (isMap value merged)

theorem entriesAt_overlay (proper : (Value.map above).Proper isKey) (isMap : MapAt above name) :
    entriesAt (overlay below above) name = overlay (entriesAt below name) (entriesAt above name) := by
  have own := proper_entriesAt proper name
  unfold entriesAt at own ⊢
  rw [lookup?_overlay proper.distinct below name]
  cases found : lookup? above name with
  | none =>
    dsimp only
    rw [overlay]
  | some value =>
    obtain ⟨inner, rfl⟩ := isMap value found
    rw [found] at own
    have alone : overlay [] inner = inner := overlay_of_distinct own.distinct
    dsimp only
    rw [overlaid_text]
    cases lookup? below name with
    | none => exact alone.symm
    | some known =>
      cases known with
      | map lower => rfl
      | _ => exact alone.symm

theorem proper_of_cons {entry : Value × Value} {rest : List (Value × Value)}
    (proper : (Value.map (entry :: rest)).Proper isKey) :
    isKey entry.1 = true ∧ entry.2.Proper isKey ∧ (Value.map rest).Proper isKey := by
  obtain ⟨first, keys⟩ := List.forall_mem_cons.mp proper.keys
  obtain ⟨own, inner⟩ := List.forall_mem_cons.mp proper.inner
  exact ⟨first, own, .map proper.distinct.of_cons keys inner⟩

mutual

private theorem proper_overlayValue {known value : Value} (lower : known.Proper isKey) (upper : value.Proper isKey) :
    (overlayValue known value).Proper isKey := by
  cases value with
  | map above =>
    cases known with
    | map below => exact proper_overlay lower upper
    | _ => exact upper
  | _ => exact upper
termination_by sizeOf value

/-- Maps with keys of one kind, laid over one another, have keys of this kind. -/
theorem proper_overlay {below above : List (Value × Value)} (lower : (Value.map below).Proper isKey)
    (upper : (Value.map above).Proper isKey) : (Value.map (overlay below above)).Proper isKey := by
  match above with
  | [] => exact lower
  | (key, value) :: rest =>
    obtain ⟨kind, own, later⟩ := proper_of_cons upper
    have merged : (overlaid below key value).Proper isKey := by
      unfold overlaid
      split
      next known found =>
        exact proper_overlayValue (lower.inner _ (List.mem_of_find?_eq_some found)) own
      next => exact own
    rw [overlay_cons]
    exact proper_overlay (lower.putEntry kind merged) later
termination_by sizeOf above

end

section
variable {way : List String} {rules : VariableRules} {sectionName written : String} {form : Option FieldForm}
variable {fields : List (String × FieldForm)} {vars : Variables}

theorem proper_putAt (proper : (Value.map entries).Proper isText) (own : value.Proper isText) :
    (Value.map (putAt entries way value)).Proper isText := by
  fun_induction Config.putAt entries way value with
  | case1 => exact proper
  | case2 => exact proper.putEntry rfl own
  | case3 entries key rest value _ _ ih => exact proper.putEntry rfl (ih .empty own)
  | case4 entries key rest value _ inner found ih =>
    obtain ⟨entry, there, same⟩ := Option.map_eq_some_iff.mp found
    have innerProper := proper.inner entry (List.mem_of_find?_eq_some there)
    rw [same] at innerProper
    exact proper.putEntry rfl (ih innerProper own)
  | case5 => exact proper

theorem proper_of_structuredValue (read : structuredValue sectionName written = .ok value) :
    value.Proper isText := by
  unfold structuredValue at read
  split at read
  next made =>
    cases read
    exact Json.proper_of_read made
  next => cases read
  next => cases read

theorem proper_of_fieldValue (read : fieldValue rules sectionName form written = .ok value) :
    value.Proper isText := by
  unfold fieldValue at read
  extract_lets plain at read
  have isPlain : plain.Proper isText := by
    unfold plain
    split <;> exact .leaf nofun
  clear_value plain
  have structured (read : (if written.isEmpty then .ok plain else structuredValue sectionName written) = .ok value) :
      value.Proper isText := by
    split at read
    · cases read
      exact isPlain
    · exact proper_of_structuredValue read
  split at read
  · exact structured read
  · exact structured read
  · cases read
    exact isPlain

/-- What a fold keeps step by step is kept by the whole, if no step fails. -/
theorem foldlM_keeps {ε α β : Type} {step : β → α → Except ε β} {items : List α} {first last : β} (holds : β → Prop)
    (made : items.foldlM step first = .ok last) (start : holds first)
    (keeps : ∀ before item after, step before item = .ok after → holds before → holds after) : holds last := by
  induction items generalizing first with
  | nil =>
    cases made
    exact start
  | cons item rest ih =>
    rw [List.foldlM_cons] at made
    obtain ⟨between, stepped, made⟩ := Except.bind_eq_ok_iff.mp made
    exact ih made (keeps first item between stepped start)

theorem proper_of_nestedFields (made : nestedFields rules sectionName fields vars = .ok entries) :
    (Value.map entries).Proper isText := by
  unfold nestedFields at made
  extract_lets lead at made
  split at made
  next =>
    cases made
    exact .empty
  next =>
    refine foldlM_keeps (fun entries => (Value.map entries).Proper isText) made .empty
      fun before entry after stepped proper => ?_
    dsimp only at stepped
    split at stepped
    next =>
      obtain ⟨value, read, rfl⟩ := Except.map_eq_ok_iff.mp stepped
      exact proper_putAt proper (proper_of_fieldValue read)
    next =>
      cases stepped
      exact proper

mutual

private theorem proper_spellFields {fields : List (String × FieldForm)} {value : Value} (proper : value.Proper isText) :
    (spellFields fields value).Proper isText := by
  match value with
  | .map entries => exact proper_spellEntries .empty proper
  | .null | .bool _ | .int _ | .float _ | .text _ | .brokenText | .bytes _ | .date _ | .timestamp _ _ | .list _
  | .set _ => exact proper
termination_by sizeOf value

private theorem proper_spellEntries {fields : List (String × FieldForm)} {known entries : List (Value × Value)}
    (start : (Value.map known).Proper isText) (proper : (Value.map entries).Proper isText) :
    (Value.map (spellEntries fields known entries)).Proper isText := by
  match entries with
  | [] => exact start
  | (key, value) :: rest =>
    obtain ⟨kind, own, later⟩ := proper_of_cons proper
    rw [spellEntries]
    split
    · exact proper_spellEntries (start.putEntry rfl (proper_spellFields own)) later
    · exact proper_spellEntries (start.putEntry rfl own) later
    · exact proper_spellEntries (start.putEntry kind own) later
termination_by sizeOf entries

end

theorem proper_of_sectionFromEnvironment
    (made : sectionFromEnvironment rules sectionName fields vars = .ok (some value)) : value.Proper isText := by
  have spelled {entries : List (Value × Value)} (proper : (Value.map entries).Proper isText) :
      (if rules.caseSensitive then Value.map entries else spellFields fields (.map entries)).Proper isText := by
    split
    · exact proper
    · exact proper_spellFields proper
  unfold sectionFromEnvironment at made
  extract_lets spell at made
  split at made
  next =>
    obtain ⟨nested, fromFields, made⟩ := Except.bind_eq_ok_iff.mp made
    split at made
    next => cases made
    next =>
      cases made
      exact spelled (proper_of_nestedFields fromFields)
  next written _ =>
    split at made
    next =>
      cases made
      exact .leaf nofun
    next =>
      obtain ⟨whole, read, made⟩ := Except.bind_eq_ok_iff.mp made
      have proper := proper_of_structuredValue read
      split at made
      next => cases made
      next =>
        obtain ⟨nested, fromFields, made⟩ := Except.bind_eq_ok_iff.mp made
        cases made
        exact spelled (proper_overlay proper (proper_of_nestedFields fromFields))
      next =>
        cases made
        exact proper

def executionFields : List (String × FieldForm) := (sectionForms.lookup "execution").getD []

theorem lookup?_entriesFromEnvironment (made : entriesFromEnvironment rules vars = .ok below) :
    sectionFromEnvironment rules "execution" executionFields (rules.canonical vars) =
      .ok (lookup? below "execution") := by
  obtain ⟨_, _, _, forms⟩ : ∃ detection selector logging, sectionForms =
    [("detection", detection), ("selector", selector), ("execution", executionFields), ("logging", logging)] :=
    ⟨_, _, _, rfl⟩
  unfold entriesFromEnvironment at made
  extract_lets known at made
  rw [forms] at made
  simp only [List.mapM_cons, List.mapM_nil, Except.bind_eq_ok_iff, pure, Except.pure, Except.ok.injEq] at made
  obtain ⟨_, ⟨_, ⟨detection, _, rfl⟩, _, ⟨_, ⟨selector, _, rfl⟩, _, ⟨_, ⟨execution, read, rfl⟩, _, ⟨_, ⟨logging, _, rfl⟩, _,
    rfl, rfl⟩, rfl⟩, rfl⟩, rfl⟩, rfl⟩ := made
  rw [read]
  cases detection <;> cases selector <;> cases execution <;> cases logging <;> rfl

theorem proper_entriesFromEnvironment (made : entriesFromEnvironment rules vars = .ok below) :
    (Value.map (entriesAt below "execution")).Proper isText := by
  have read := lookup?_entriesFromEnvironment made
  unfold entriesAt
  split
  next inner found =>
    rw [found] at read
    exact proper_of_sectionFromEnvironment read
  next => exact .empty

/-- A field that is written as it is spelled, and in no other case, has the value of its last key. -/
theorem lookup?_spellEntries {form : FieldForm} (own : fieldNamed? fields (.text name) = some (name, form))
    (plain : ∀ inner, form ≠ .record inner)
    (spelled : ∀ entry ∈ entries, ∀ form, fieldNamed? fields entry.1 = some (name, form) → entry.1 = .text name)
    (known : List (Value × Value)) :
    lookup? (spellEntries fields known entries) name = (lookup? entries.reverse name).or (lookup? known name) := by
  induction entries generalizing known with
  | nil => rw [spellEntries]; rfl
  | cons entry rest ih =>
    obtain ⟨key, value⟩ := entry
    obtain ⟨first, later⟩ := List.forall_mem_cons.mp spelled
    rw [List.reverse_cons, lookup?_append, Option.or_assoc, lookup?_cons]
    by_cases same : key = .text name
    · subst same
      rw [if_pos (sameKey_text_iff.mpr rfl), spellEntries, own]
      cases form with
      | record inner => exact absurd rfl (plain inner)
      | _ => exact (ih later _).trans (congrArg _ (lookup?_putEntry_same known name value))
    · rw [if_neg (mt sameKey_text_iff.mp same), spellEntries]
      have elsewhere {other : Value} (differs : other ≠ .text name) (value : Value) :
          lookup? (spellEntries fields (putEntry known other value) rest) name =
            (lookup? rest.reverse name).or (lookup? known name) :=
        (ih later _).trans (congrArg _ (lookup?_putEntry_other known value differs))
      have differs {other : String} {form : FieldForm} (named : fieldNamed? fields key = some (other, form)) :
          Value.text other ≠ .text name := by
        rintro ⟨⟩
        exact same (first form named)
      split
      next named => exact elsewhere (differs named) _
      next _ named => exact elsewhere (differs named) value
      next => exact elsewhere same value

end

end Scriptlet.Config
