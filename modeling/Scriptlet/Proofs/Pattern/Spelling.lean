import Scriptlet.Proofs.Pattern.Lines

/-!
The texts that a pattern spells, read off the pattern alone. Whatever a pattern takes it spells, and a pattern that
looks at nothing beside it takes whatever it spells, wherever that stands.
-/
namespace Scriptlet
open Text (Cursor)

def Text.ReadsAs (wanted text : List Char) : Prop := text.map foldChar = wanted.map foldChar

instance {wanted text : List Char} : Decidable (Text.ReadsAs wanted text) :=
  inferInstanceAs (Decidable (text.map Text.foldChar = wanted.map Text.foldChar))

namespace Pattern

def Spells : Pattern → List Char → Prop
  | one chars, taken => ∃ c, chars.has c = true ∧ taken = [c]
  | many chars, taken => taken.all chars.has = true
  | seq first second, taken => ∃ left right, first.Spells left ∧ second.Spells right ∧ taken = left ++ right
  | either first second, taken => first.Spells taken ∨ second.Spells taken
  | optional inner, taken => inner.Spells taken ∨ taken = []
  | nothing, taken | lineStart, taken | lineEnd, taken | wordEdge, taken | notBefore _, taken => taken = []

/-- Whether a pattern looks at no character that it does not take. -/
def looksAtNothing : Pattern → Bool
  | nothing | one _ | many _ => true
  | seq first second | either first second => first.looksAtNothing && second.looksAtNothing
  | optional inner => inner.looksAtNothing
  | lineStart | lineEnd | wordEdge | notBefore _ => false

variable {pattern first second : Pattern} {chars : CharClass} {here after : Cursor} {taken rest : List Char}

theorem takes_append_iff : (first ++ second).Takes here taken after ↔
    ∃ left middle right, first.Takes here left middle ∧ second.Takes middle right after ∧ taken = left ++ right := by
  constructor
  · intro takes
    cases takes with
    | seq left right => exact ⟨_, _, _, left, right, rfl⟩
  · rintro ⟨left, middle, right, first, second, rfl⟩
    exact .seq first second

theorem takes_lineStart_iff : lineStart.Takes here taken after ↔
    here.before.all (· = '\n') = true ∧ taken = [] ∧ after = here := by
  constructor
  · intro takes
    cases takes with
    | lineStart starts => exact ⟨starts, rfl, rfl⟩
  · rintro ⟨starts, rfl, rfl⟩
    exact .lineStart starts

theorem takes_lineEnd_iff : lineEnd.Takes here taken after ↔
    here.rest.head?.all (· = '\n') = true ∧ taken = [] ∧ after = here := by
  constructor
  · intro takes
    cases takes with
    | lineEnd ends => exact ⟨ends, rfl, rfl⟩
  · rintro ⟨ends, rfl, rfl⟩
    exact .lineEnd ends

theorem Takes.spells (takes : pattern.Takes here taken after) : pattern.Spells taken := by
  induction takes with
  | nothing | stop | lineStart | lineEnd | wordEdge | notBefore => rfl
  | one has => exact ⟨_, has, rfl⟩
  | more has later ih => exact List.all_cons.trans (by rw [has, ih, Bool.true_and])
  | seq left right left_ih right_ih => exact ⟨_, _, left_ih, right_ih, rfl⟩
  | left inner ih => exact .inl ih
  | right inner ih => exact .inr ih
  | present inner ih => exact .inl ih
  | absent => exact .inr rfl

theorem exists_takes_of_spells (plain : pattern.looksAtNothing = true) (spells : pattern.Spells taken)
    (stands : here.rest = taken ++ rest) : ∃ after, pattern.Takes here taken after ∧ after.rest = rest := by
  induction pattern generalizing here taken rest with
  | nothing =>
    obtain rfl : taken = [] := spells
    exact ⟨here, .nothing, stands⟩
  | one chars =>
    obtain ⟨c, has, rfl⟩ := spells
    obtain ⟨offset, before, _⟩ := here
    obtain rfl := stands
    exact ⟨_, .one has, rfl⟩
  | many chars =>
    induction taken generalizing here with
    | nil => exact ⟨here, .stop, stands⟩
    | cons c taken ih =>
      obtain ⟨has, later⟩ : chars.has c = true ∧ taken.all chars.has = true := by simpa [Spells] using spells
      obtain ⟨offset, before, _⟩ := here
      obtain rfl := stands
      have next : (⟨offset + 1, some c, taken ++ rest⟩ : Cursor).rest = taken ++ rest := rfl
      obtain ⟨after, takes, remains⟩ := ih later next
      exact ⟨after, .more has takes, remains⟩
  | seq first second first_ih second_ih =>
    obtain ⟨left, right, firstSpells, secondSpells, rfl⟩ := spells
    obtain ⟨firstPlain, secondPlain⟩ := Bool.and_eq_true_iff.mp plain
    rw [List.append_assoc] at stands
    obtain ⟨middle, takes, remains⟩ := first_ih firstPlain firstSpells stands
    obtain ⟨after, others, remains⟩ := second_ih secondPlain secondSpells remains
    exact ⟨after, .seq takes others, remains⟩
  | either first second first_ih second_ih =>
    obtain ⟨firstPlain, secondPlain⟩ := Bool.and_eq_true_iff.mp plain
    rcases spells with spells | spells
    · obtain ⟨after, takes, remains⟩ := first_ih firstPlain spells stands
      exact ⟨after, .left takes, remains⟩
    · obtain ⟨after, takes, remains⟩ := second_ih secondPlain spells stands
      exact ⟨after, .right takes, remains⟩
  | optional inner ih =>
    rcases spells with spells | rfl
    · obtain ⟨after, takes, remains⟩ := ih plain spells stands
      exact ⟨after, .present takes, remains⟩
    · exact ⟨here, .absent, stands⟩
  | lineStart | lineEnd | wordEdge | notBefore chars => cases plain

theorem spells_run_iff : (run chars).Spells taken ↔ taken ≠ [] ∧ taken.all chars.has = true := by
  constructor
  · rintro ⟨_, right, ⟨c, has, rfl⟩, others, rfl⟩
    refine ⟨List.cons_ne_nil c right, ?_⟩
    rw [List.singleton_append, List.all_cons, has, Bool.true_and]
    exact others
  · rintro ⟨some, all⟩
    obtain ⟨c, right, rfl⟩ := List.exists_cons_of_ne_nil some
    obtain ⟨has, others⟩ := Bool.and_eq_true_iff.mp (List.all_cons.symm.trans all)
    exact ⟨[c], right, ⟨c, has, rfl⟩, others, rfl⟩

private theorem spells_foldr_iff (wanted : List Char) :
    (wanted.foldr (fun c rest => one (.exactly c) ++ rest) nothing).Spells taken ↔ taken = wanted := by
  induction wanted generalizing taken with
  | nil => exact Iff.rfl
  | cons c wanted ih =>
    constructor
    · rintro ⟨_, right, ⟨d, same, rfl⟩, others, rfl⟩
      obtain rfl : d = c := of_decide_eq_true same
      rw [ih.mp others, List.singleton_append]
    · rintro rfl
      exact ⟨[c], wanted, ⟨c, decide_eq_true rfl, rfl⟩, ih.mpr rfl, rfl⟩

theorem spells_text_iff {wanted : String} : (text wanted).Spells taken ↔ taken = wanted.toList :=
  spells_foldr_iff wanted.toList

private theorem spells_foldr_anyCase_iff (wanted : List Char) :
    (wanted.foldr (fun c rest => one (.anyCase c) ++ rest) nothing).Spells taken ↔ Text.ReadsAs wanted taken := by
  induction wanted generalizing taken with
  | nil => exact List.map_eq_nil_iff.symm
  | cons c wanted ih =>
    rw [Text.ReadsAs, List.map_cons, List.map_eq_cons_iff]
    constructor
    · rintro ⟨_, right, ⟨d, same, rfl⟩, others, rfl⟩
      exact ⟨d, right, rfl, of_decide_eq_true same, ih.mp others⟩
    · rintro ⟨d, right, rfl, same, others⟩
      exact ⟨[d], right, ⟨d, decide_eq_true same, rfl⟩, ih.mpr others, rfl⟩

theorem spells_textAnyCase_iff {wanted : String} :
    (textAnyCase wanted).Spells taken ↔ Text.ReadsAs wanted.toList taken :=
  spells_foldr_anyCase_iff wanted.toList

section
variable {α : Type} {next : Cursor → Option α} {follows : List Char → α → Prop} {result : α}

def SpellsThen (pattern : Pattern) (follows : List Char → α → Prop) (text : List Char) (result : α) : Prop :=
  ∃ taken rest, text = taken ++ rest ∧ pattern.Spells taken ∧ follows rest result

/-- Where a text can be read in one way only, the order in which the ways are tried does not matter. -/
theorem matchThen_eq_some_iff_of_unique (plain : pattern.looksAtNothing = true)
    (next_iff : ∀ here result, next here = some result ↔ follows here.rest result)
    (unique : ∀ result other, pattern.SpellsThen follows here.rest result →
      pattern.SpellsThen follows here.rest other → result = other) :
    pattern.matchThen next here = some result ↔ pattern.SpellsThen follows here.rest result := by
  have reads {result : α} (found : pattern.matchThen next here = some result) :
      pattern.SpellsThen follows here.rest result := by
    obtain ⟨taken, after, takes, found⟩ := takes_of_matchThen found
    exact ⟨taken, after.rest, takes.rest.1, takes.spells, (next_iff after result).mp found⟩
  refine ⟨reads, fun spells => ?_⟩
  obtain ⟨taken, rest, stands, spelled, followed⟩ := spells
  obtain ⟨after, takes, remains⟩ := exists_takes_of_spells plain spelled stands
  have succeeds : (next after).isSome = true := by
    rw [(next_iff after result).mpr (remains ▸ followed)]
    rfl
  obtain ⟨other, found⟩ := Option.isSome_iff_exists.mp (isSome_matchThen_of_takes takes succeeds)
  rw [found, unique other result (reads found) ⟨taken, rest, stands, spelled, followed⟩]

end

end Pattern
end Scriptlet
