import Mathlib.Data.List.TakeWhile
import Scriptlet.Proofs.Text.LetterCase
import Scriptlet.Text.Basic

/-!
Where texts stand in a text, and its lines. A search finds the first place of its kind from some place on; one
that goes on behind what it has found finds ranges from left to right. A line goes from the start of the text,
or from a line feed, to the next line feed or the end of the text.
-/
namespace Scriptlet.Text

def StandsAt (needle text : List Char) (i : Nat) : Prop := needle <+: text.drop i

instance (needle text : List Char) (i : Nat) : Decidable (StandsAt needle text i) :=
  inferInstanceAs (Decidable (needle <+: text.drop i))

def StandsAnyCase (needle text : List Char) (i : Nat) : Prop :=
  ((text.drop i).take needle.length).map foldChar = needle.map foldChar

instance (needle text : List Char) (i : Nat) : Decidable (StandsAnyCase needle text i) :=
  inferInstanceAs (Decidable (((text.drop i).take needle.length).map foldChar = needle.map foldChar))

structure FirstFrom (wanted : Nat → Prop) (i k : Nat) : Prop where
  le : i ≤ k
  holds : wanted k
  least : ∀ j, i ≤ j → j < k → ¬ wanted j

/-- The ranges that a search from `i` on finds one after the other, where `next` is what it finds next. -/
inductive FoundFrom (next : Nat → Nat → Nat → Prop) : (i start stop : Nat) → Prop
  | here {i start stop : Nat} (found : next i start stop) : FoundFrom next i start stop
  | later {i first last start stop : Nat} (found : next i first last) (rest : FoundFrom next last start stop) :
      FoundFrom next i start stop

def LineEndAt (text : List Char) (i : Nat) : Prop := text[i]? = none ∨ text[i]? = some '\n'

structure IsLine (text : List Char) (first last : Nat) : Prop where
  starts : ∀ j, j + 1 = first → text[j]? = some '\n'
  ends : FirstFrom (LineEndAt text) first last

def lineEnd (text : List Char) (i : Nat) : Nat := i + ((text.drop i).takeWhile (· ≠ '\n')).length

variable {wanted : Nat → Prop} {next : Nat → Nat → Nat → Prop} {text needle : List Char} {c : Char}
variable {i j k l start stop first last : Nat}

namespace FirstFrom

theorem unique (left : FirstFrom wanted i k) (right : FirstFrom wanted i l) : k = l := by
  rcases Nat.lt_trichotomy k l with less | same | more
  · exact absurd left.holds (right.least k left.le less)
  · exact same
  · exact absurd right.holds (left.least l right.le more)

theorem from_later (found : FirstFrom wanted i k) (after : i ≤ j) (before : j ≤ k) : FirstFrom wanted j k :=
  ⟨before, found.holds, fun other later => found.least other (Nat.le_trans after later)⟩

theorem congr {other : Nat → Prop} (same : ∀ j, i ≤ j → j ≤ k → (wanted j ↔ other j)) :
    FirstFrom wanted i k ↔ FirstFrom other i k := by
  constructor
  · intro found
    refine ⟨found.le, (same k found.le (Nat.le_refl k)).mp found.holds, fun j after before here => ?_⟩
    exact found.least j after before ((same j after (Nat.le_of_lt before)).mpr here)
  · intro found
    refine ⟨found.le, (same k found.le (Nat.le_refl k)).mpr found.holds, fun j after before here => ?_⟩
    exact found.least j after before ((same j after (Nat.le_of_lt before)).mp here)

end FirstFrom

theorem firstFrom_iff_eq (here : wanted i) : FirstFrom wanted i k ↔ k = i := by
  have found : FirstFrom wanted i i :=
    ⟨Nat.le_refl i, here, fun j after before => absurd after (Nat.not_le.mpr before)⟩
  constructor
  · exact fun other => other.unique found
  · rintro rfl
    exact found

theorem firstFrom_succ_iff (other : ¬ wanted i) : FirstFrom wanted i k ↔ FirstFrom wanted (i + 1) k := by
  constructor
  · intro found
    have differ : i ≠ k := fun same => other (same ▸ found.holds)
    exact found.from_later (Nat.le_succ i) (Nat.lt_of_le_of_ne found.le differ)
  · intro found
    refine ⟨Nat.le_of_succ_le found.le, found.holds, fun j after before => ?_⟩
    rcases Nat.eq_or_lt_of_le after with rfl | later
    · exact other
    · exact found.least j later before

theorem firstFrom_add_iff : FirstFrom (fun k => wanted (i + k)) 0 k ↔ FirstFrom wanted i (i + k) := by
  constructor
  · intro found
    refine ⟨Nat.le_add_right i k, found.holds, fun j after before => ?_⟩
    obtain ⟨d, rfl⟩ := Nat.exists_eq_add_of_le after
    exact found.least d (Nat.zero_le d) (by omega)
  · intro found
    refine ⟨Nat.zero_le k, found.holds, fun j _ before => ?_⟩
    exact found.least (i + j) (Nat.le_add_right i j) (by omega)

theorem exists_firstFrom (after : i ≤ k) (found : wanted k) : ∃ j, j ≤ k ∧ FirstFrom wanted i j := by
  induction remains : k - i generalizing i with
  | zero =>
    obtain rfl : i = k := by omega
    exact ⟨i, Nat.le_refl i, (firstFrom_iff_eq found).mpr rfl⟩
  | succ n ih =>
    by_cases here : wanted i
    · exact ⟨i, after, (firstFrom_iff_eq here).mpr rfl⟩
    · obtain ⟨j, before, first⟩ := ih (i := i + 1) (by omega) (by omega)
      exact ⟨j, before, (firstFrom_succ_iff here).mpr first⟩

theorem foundFrom_iff :
    FoundFrom next i start stop ↔
      ∃ first last, next i first last ∧ (start = first ∧ stop = last ∨ FoundFrom next last start stop) := by
  constructor
  · intro found
    cases found with
    | here found => exact ⟨start, stop, found, .inl ⟨rfl, rfl⟩⟩
    | later found rest => exact ⟨_, _, found, .inr rest⟩
  · rintro ⟨first, last, found, ⟨rfl, rfl⟩ | rest⟩
    · exact .here found
    · exact .later found rest

theorem FoundFrom.exists_next (found : FoundFrom next i start stop) : ∃ j, next j start stop := by
  induction found with
  | here found => exact ⟨_, found⟩
  | later _ _ ih => exact ih

theorem FoundFrom.le (forward : ∀ {i first last}, next i first last → i ≤ first ∧ first ≤ last)
    (found : FoundFrom next i start stop) : i ≤ start := by
  induction found with
  | here found => exact (forward found).1
  | later found _ ih =>
    have bounds := forward found
    omega

theorem indexOf?_eq_some_iff : indexOf? needle text = some k ↔ FirstFrom (StandsAt needle text) 0 k := by
  induction text generalizing k with
  | nil =>
    cases needle with
    | nil =>
      rw [firstFrom_iff_eq (List.nil_prefix), eq_comm]
      exact Option.some_inj
    | cons c rest =>
      simp only [indexOf?, List.isEmpty_cons, Bool.false_eq_true, if_false, reduceCtorEq, false_iff]
      intro found
      have holds := found.holds
      rw [StandsAt, List.drop_nil, List.prefix_nil] at holds
      cases holds
  | cons c rest ih =>
    by_cases here : needle <+: c :: rest
    · have first : StandsAt needle (c :: rest) 0 := here
      rw [firstFrom_iff_eq first, indexOf?, if_pos (List.isPrefixOf_iff_prefix.mpr here), eq_comm]
      exact Option.some_inj
    · have other : ¬ StandsAt needle (c :: rest) 0 := here
      rw [firstFrom_succ_iff other, indexOf?, if_neg (mt List.isPrefixOf_iff_prefix.mp here), Option.map_eq_some_iff]
      constructor
      · rintro ⟨inside, later, rfl⟩
        obtain ⟨_, holds, least⟩ := ih.mp later
        refine ⟨Nat.le_add_left 1 inside, holds, fun j after before => ?_⟩
        obtain ⟨j, rfl⟩ := Nat.exists_eq_add_of_le' after
        exact least j (Nat.zero_le j) (by omega)
      · intro found
        obtain ⟨inside, rfl⟩ := Nat.exists_eq_add_of_le' found.le
        refine ⟨inside, ih.mpr ⟨Nat.zero_le inside, found.holds, fun j _ before => ?_⟩, rfl⟩
        exact found.least (j + 1) (Nat.le_add_left 1 j) (by omega)

theorem indexOf?_eq_none_iff : indexOf? needle text = none ↔ ∀ k, ¬ StandsAt needle text k := by
  rw [Option.eq_none_iff_forall_ne_some]
  constructor
  · intro none k stands
    obtain ⟨j, _, first⟩ := exists_firstFrom (Nat.zero_le k) stands
    exact none j (indexOf?_eq_some_iff.mpr first)
  · intro none k found
    exact none k (indexOf?_eq_some_iff.mp found).holds

private theorem standsAt_drop : StandsAt needle (text.drop i) k ↔ StandsAt needle text (i + k) := by
  rw [StandsAt, StandsAt, List.drop_drop]

theorem indexOf?_drop_eq_some_iff :
    indexOf? needle (text.drop i) = some k ↔ FirstFrom (StandsAt needle text) i (i + k) := by
  rw [indexOf?_eq_some_iff, ← firstFrom_add_iff]
  exact FirstFrom.congr fun _ _ _ => standsAt_drop

theorem indexOf?_drop_eq_none_iff :
    indexOf? needle (text.drop i) = none ↔ ∀ k, i ≤ k → ¬ StandsAt needle text k := by
  rw [indexOf?_eq_none_iff]
  constructor
  · intro none k after
    obtain ⟨d, rfl⟩ := Nat.exists_eq_add_of_le after
    exact mt standsAt_drop.mpr (none d)
  · exact fun none k => mt standsAt_drop.mp (none (i + k) (Nat.le_add_right i k))

theorem getElem?_of_standsAt (stands : StandsAt needle text i) (inside : k < needle.length) :
    text[i + k]? = needle[k]? := by
  obtain ⟨rest, whole⟩ := stands
  rw [← List.getElem?_drop, ← whole, List.getElem?_append_left inside]

theorem getElem?_of_standsAnyCase (stands : StandsAnyCase needle text i) (inside : k < needle.length) :
    text[i + k]?.map foldChar = needle[k]?.map foldChar := by
  rw [← List.getElem?_map, ← List.getElem?_map, ← stands, List.getElem?_map, List.getElem?_map,
    List.getElem?_take_of_lt inside, List.getElem?_drop]

theorem exists_standsAnyCase_iff : (∃ i, StandsAnyCase needle text i) ↔ needle.map foldChar <:+: text.map foldChar := by
  simp only [StandsAnyCase, List.map_take, List.map_drop]
  constructor
  · rintro ⟨i, stands⟩
    rw [← stands]
    exact (List.take_prefix _ _).isInfix.trans (List.drop_suffix i _).isInfix
  · rintro ⟨before, behind, whole⟩
    refine ⟨before.length, ?_⟩
    rw [← whole, List.append_assoc, List.drop_left, ← needle.length_map foldChar, List.take_left]

theorem StandsAt.anyCase (stands : StandsAt needle text i) : StandsAnyCase needle text i := by
  rw [StandsAnyCase, ← List.prefix_iff_eq_take.mp stands]

theorem lt_length_of_standsAt (some : needle ≠ []) (stands : StandsAt needle text i) : i < text.length := by
  have bound := stands.length_le
  have positive := List.length_pos_iff.mpr some
  rw [List.length_drop] at bound
  omega

theorem lt_length_of_standsAnyCase (some : needle ≠ []) (stands : StandsAnyCase needle text i) :
    i < text.length := by
  have lengths := congrArg List.length stands
  have positive := List.length_pos_iff.mpr some
  simp only [List.length_map, List.length_take, List.length_drop] at lengths
  omega

def isCaseless (text : List Char) : Bool := text.all fun c => c.toNat < 128 && !c.isAlpha

private theorem map_foldChar_eq_iff (caseless : isCaseless needle = true) :
    text.map foldChar = needle.map foldChar ↔ text = needle := by
  induction needle generalizing text with
  | nil => simp
  | cons c rest ih =>
    simp only [isCaseless, List.all_cons, Bool.and_eq_true, decide_eq_true_eq, Bool.not_eq_true'] at caseless
    cases text with
    | nil => simp
    | cons d later =>
      rw [List.map_cons, List.map_cons, List.cons.injEq, List.cons.injEq, ih caseless.2,
        foldChar_eq_foldChar_iff caseless.1.1 caseless.1.2]

/-- What has no letters is the same in any case. -/
theorem standsAnyCase_iff_standsAt (caseless : isCaseless needle = true) :
    StandsAnyCase needle text i ↔ StandsAt needle text i := by
  rw [StandsAnyCase, map_foldChar_eq_iff caseless, StandsAt, List.prefix_iff_eq_take, eq_comm]

theorem lineEnd_of_lineEndAt (ends : LineEndAt text i) : lineEnd text i = i := by
  rw [LineEndAt, ← List.head?_drop] at ends
  rw [lineEnd]
  cases rest : text.drop i with
  | nil => rfl
  | cons c later =>
    rw [rest] at ends
    simp only [List.head?_cons, reduceCtorEq, Option.some.injEq, false_or] at ends
    simp [ends]

theorem lineEnd_succ (inside : ¬ LineEndAt text i) : lineEnd text (i + 1) = lineEnd text i := by
  rw [LineEndAt, ← List.head?_drop] at inside
  rw [lineEnd, lineEnd, ← List.tail_drop]
  cases rest : text.drop i with
  | nil => simp [rest] at inside
  | cons c later =>
    rw [rest] at inside
    simp only [List.head?_cons, reduceCtorEq, Option.some.injEq, false_or] at inside
    rw [List.takeWhile_cons_of_pos (by simpa using inside), List.tail_cons, List.length_cons]
    omega

theorem lineEndAt_of_length_le (ends : text.length ≤ i) : LineEndAt text i := .inl (List.getElem?_eq_none ends)

theorem firstFrom_lineEnd (text : List Char) (i : Nat) : FirstFrom (LineEndAt text) i (lineEnd text i) := by
  induction remains : text.length - i generalizing i with
  | zero =>
    have ends : LineEndAt text i := lineEndAt_of_length_le (by omega)
    exact (firstFrom_iff_eq ends).mpr (lineEnd_of_lineEndAt ends)
  | succ n ih =>
    by_cases ends : LineEndAt text i
    · exact (firstFrom_iff_eq ends).mpr (lineEnd_of_lineEndAt ends)
    · rw [firstFrom_succ_iff ends, ← lineEnd_succ ends]
      exact ih (i + 1) (by omega)

theorem le_lineEnd (text : List Char) (i : Nat) : i ≤ lineEnd text i := (firstFrom_lineEnd text i).le

theorem lineEnd_eq_of_le (after : i ≤ j) (before : j ≤ lineEnd text i) : lineEnd text j = lineEnd text i :=
  (firstFrom_lineEnd text j).unique ((firstFrom_lineEnd text i).from_later after before)

namespace IsLine

theorem lineEnd_eq (line : IsLine text first last) (after : first ≤ i) (before : i ≤ last) : lineEnd text i = last :=
  (firstFrom_lineEnd text i).unique (line.ends.from_later after before)

theorem lineEnd_lt (line : IsLine text first last) (before : i < first) : lineEnd text i < first := by
  obtain ⟨j, next⟩ : ∃ j, j + 1 = first := ⟨first - 1, by omega⟩
  have after : i ≤ j := by omega
  have reached : LineEndAt text j := .inr (line.starts j next)
  obtain ⟨k, bound, ends⟩ := exists_firstFrom after reached
  rw [(firstFrom_lineEnd text i).unique ends]
  omega

theorem unique (line : IsLine text first last) (other : IsLine text i last) : first = i := by
  by_contra differ
  rcases Nat.lt_or_gt_of_ne differ with less | more
  · have before := other.lineEnd_lt less
    rw [line.lineEnd_eq (Nat.le_refl first) line.ends.le] at before
    exact Nat.not_lt.mpr other.ends.le before
  · have before := line.lineEnd_lt more
    rw [other.lineEnd_eq (Nat.le_refl i) other.ends.le] at before
    exact Nat.not_lt.mpr line.ends.le before

end IsLine

theorem exists_isLine (bound : i ≤ text.length) : ∃ first, first ≤ i ∧ IsLine text first (lineEnd text i) := by
  induction i with
  | zero => exact ⟨0, Nat.le_refl 0, nofun, firstFrom_lineEnd text 0⟩
  | succ i ih =>
    by_cases newline : text[i]? = some '\n'
    · refine ⟨i + 1, Nat.le_refl _, fun j next => ?_, firstFrom_lineEnd text (i + 1)⟩
      obtain rfl : j = i := Nat.succ.inj next
      exact newline
    · have inside : ¬ LineEndAt text i := by
        rintro (none | here)
        · have := List.getElem?_eq_none_iff.mp none
          omega
        · exact newline here
      obtain ⟨first, before, line⟩ := ih (by omega)
      exact ⟨first, by omega, lineEnd_succ inside ▸ line⟩

end Scriptlet.Text
