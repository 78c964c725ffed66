import Scriptlet.Pattern.Basic
import Scriptlet.Proofs.Text.Place

/-!
What a match takes. The matcher finds one of the ways in which a pattern can take characters, so that what
holds of every such way holds of the match: where it ends, how it begins, and how many characters of some
kind are in it.
-/
namespace Scriptlet
open Text (Cursor)

namespace Pattern

inductive Takes : Pattern → (here : Cursor) → (taken : List Char) → (after : Cursor) → Prop
  | nothing {here : Cursor} : Takes .nothing here [] here
  | one {chars : CharClass} {offset : Nat} {before : Option Char} {c : Char} {rest : List Char}
      (has : chars.has c = true) : Takes (.one chars) ⟨offset, before, c :: rest⟩ [c] ⟨offset + 1, some c, rest⟩
  | stop {chars : CharClass} {here : Cursor} : Takes (.many chars) here [] here
  | more {chars : CharClass} {offset : Nat} {before : Option Char} {c : Char} {rest taken : List Char}
      {after : Cursor} (has : chars.has c = true)
      (later : Takes (.many chars) ⟨offset + 1, some c, rest⟩ taken after) :
      Takes (.many chars) ⟨offset, before, c :: rest⟩ (c :: taken) after
  | seq {first second : Pattern} {here middle after : Cursor} {taken more : List Char}
      (left : Takes first here taken middle) (right : Takes second middle more after) :
      Takes (.seq first second) here (taken ++ more) after
  | left {first second : Pattern} {here after : Cursor} {taken : List Char} (inner : Takes first here taken after) :
      Takes (.either first second) here taken after
  | right {first second : Pattern} {here after : Cursor} {taken : List Char} (inner : Takes second here taken after) :
      Takes (.either first second) here taken after
  | present {pattern : Pattern} {here after : Cursor} {taken : List Char} (inner : Takes pattern here taken after) :
      Takes (.optional pattern) here taken after
  | absent {pattern : Pattern} {here : Cursor} : Takes (.optional pattern) here [] here
  | lineStart {here : Cursor} (starts : here.before.all (· = '\n') = true) : Takes .lineStart here [] here
  | lineEnd {here : Cursor} (ends : here.rest.head?.all (· = '\n') = true) : Takes .lineEnd here [] here
  | wordEdge {here : Cursor} (edge : atWordEdge here = true) : Takes .wordEdge here [] here
  | notBefore {chars : CharClass} {here : Cursor} (other : here.rest.head?.any chars.has = false) :
      Takes (.notBefore chars) here [] here

variable {α : Type} {next : Cursor → Option α} {here after : Cursor} {pattern : Pattern} {taken : List Char}
variable {result : α}

private theorem takes_of_afterMany {chars : CharClass} {offset : Nat} {before : Option Char} {rest : List Char}
    (found : afterMany chars next offset before rest = some result) :
    ∃ taken after, Takes (.many chars) ⟨offset, before, rest⟩ taken after ∧ next after = some result := by
  induction rest generalizing offset before with
  | nil => exact ⟨[], _, .stop, found⟩
  | cons c rest ih =>
    simp only [afterMany] at found
    split at found
    next has =>
      rcases Option.or_eq_some_iff.mp found with later | ⟨_, here⟩
      · obtain ⟨taken, after, takes, found⟩ := ih later
        exact ⟨c :: taken, after, .more has takes, found⟩
      · exact ⟨[], _, .stop, here⟩
    next => exact ⟨[], _, .stop, found⟩

/-- A match is one of the ways in which the pattern can go on. -/
theorem takes_of_matchThen (found : pattern.matchThen next here = some result) :
    ∃ taken after, pattern.Takes here taken after ∧ next after = some result := by
  induction pattern generalizing next here with
  | nothing => exact ⟨[], here, .nothing, found⟩
  | one chars =>
    obtain ⟨offset, before, rest⟩ := here
    cases rest with
    | nil => cases found
    | cons c rest =>
      simp only [matchThen] at found
      split at found
      next has => exact ⟨[c], _, .one has, found⟩
      next => cases found
  | many chars => exact takes_of_afterMany found
  | seq first second first_ih second_ih =>
    obtain ⟨taken, middle, left, found⟩ := first_ih found
    obtain ⟨more, after, right, found⟩ := second_ih found
    exact ⟨taken ++ more, after, .seq left right, found⟩
  | either first second first_ih second_ih =>
    rcases Option.or_eq_some_iff.mp found with found | ⟨_, found⟩
    · obtain ⟨taken, after, inner, found⟩ := first_ih found
      exact ⟨taken, after, .left inner, found⟩
    · obtain ⟨taken, after, inner, found⟩ := second_ih found
      exact ⟨taken, after, .right inner, found⟩
  | optional inner ih =>
    rcases Option.or_eq_some_iff.mp found with found | ⟨_, found⟩
    · obtain ⟨taken, after, inner, found⟩ := ih found
      exact ⟨taken, after, .present inner, found⟩
    · exact ⟨[], here, .absent, found⟩
  | lineStart =>
    simp only [matchThen] at found
    split at found
    next starts => exact ⟨[], here, .lineStart starts, found⟩
    next => cases found
  | lineEnd =>
    simp only [matchThen] at found
    split at found
    next ends => exact ⟨[], here, .lineEnd ends, found⟩
    next => cases found
  | wordEdge =>
    simp only [matchThen] at found
    split at found
    next edge => exact ⟨[], here, .wordEdge edge, found⟩
    next => cases found
  | notBefore chars =>
    simp only [matchThen] at found
    split at found
    next => cases found
    next other => exact ⟨[], here, .notBefore (Bool.eq_false_iff.mpr other), found⟩

theorem takes_of_matchEnd? (found : pattern.matchEnd? here = some after) :
    ∃ taken, pattern.Takes here taken after := by
  obtain ⟨taken, stop, takes, same⟩ := takes_of_matchThen found
  obtain rfl := Option.some.inj same
  exact ⟨taken, takes⟩

namespace Takes

theorem rest (takes : pattern.Takes here taken after) :
    here.rest = taken ++ after.rest ∧ after.offset = here.offset + taken.length := by
  induction takes with
  | nothing | stop | absent | lineStart | lineEnd | wordEdge | notBefore => exact ⟨rfl, rfl⟩
  | one => exact ⟨rfl, rfl⟩
  | more has later ih =>
    obtain ⟨rest, offset⟩ := ih
    refine ⟨congrArg (_ :: ·) rest, ?_⟩
    rw [offset, List.length_cons, Nat.add_right_comm, Nat.add_assoc]
  | seq left right left_ih right_ih =>
    refine ⟨?_, ?_⟩
    · rw [left_ih.1, right_ih.1, List.append_assoc]
    · rw [right_ih.2, left_ih.2, List.length_append, Nat.add_assoc]
  | left inner ih | right inner ih | present inner ih => exact ih

theorem place {text : List Char} (takes : pattern.Takes here taken after) {i : Nat}
    (start : Text.place text i = here) : Text.place text after.offset = after := by
  induction takes generalizing i with
  | nothing | stop | absent | lineStart | lineEnd | wordEdge | notBefore =>
    rw [← start]
    rfl
  | one =>
    obtain ⟨rfl, next⟩ := Text.place_succ start
    exact next
  | more has later ih => exact ih (Text.place_succ start).2
  | seq left right left_ih right_ih => exact right_ih (left_ih start)
  | left inner ih | right inner ih | present inner ih => exact ih start

end Takes

theorem place_of_matchEnd? {text : List Char} {i : Nat}
    (found : pattern.matchEnd? (Text.place text i) = some after) : Text.place text after.offset = after := by
  obtain ⟨taken, takes⟩ := takes_of_matchEnd? found
  exact takes.place rfl

/-- The class of the first character that a pattern takes, where it always takes one of one class first. -/
def first? : Pattern → Option CharClass
  | one chars => some chars
  | seq first _ => first.first?
  | _ => none

/-- How many characters of a kind a pattern takes at most, if there is a bound. The classes that `avoids`
holds of have none of the kind. -/
def most? (avoids : CharClass → Bool) : Pattern → Option Nat
  | one chars => some (if avoids chars then 0 else 1)
  | many chars => if avoids chars then some 0 else none
  | seq first second => do return (← first.most? avoids) + (← second.most? avoids)
  | either first second => do return max (← first.most? avoids) (← second.most? avoids)
  | optional inner => inner.most? avoids
  | nothing | lineStart | lineEnd | wordEdge | notBefore _ => some 0

def least : Pattern → Nat
  | one _ => 1
  | seq first second => first.least + second.least
  | either first second => min first.least second.least
  | nothing | many _ | optional _ | lineStart | lineEnd | wordEdge | notBefore _ => 0

theorem Takes.least_le (takes : pattern.Takes here taken after) : pattern.least ≤ taken.length := by
  induction takes with
  | nothing | stop | more | present | absent | lineStart | lineEnd | wordEdge | notBefore => exact Nat.zero_le _
  | one => exact Nat.le_refl 1
  | seq left right left_ih right_ih =>
    rw [List.length_append]
    exact Nat.add_le_add left_ih right_ih
  | left inner ih => exact Nat.le_trans (Nat.min_le_left _ _) ih
  | right inner ih => exact Nat.le_trans (Nat.min_le_right _ _) ih

theorem Takes.first (takes : pattern.Takes here taken after) {chars : CharClass}
    (found : pattern.first? = some chars) : ∃ c rest, taken = c :: rest ∧ chars.has c = true := by
  induction takes with
  | one has =>
    obtain rfl := Option.some.inj found
    exact ⟨_, [], rfl, has⟩
  | seq left right left_ih right_ih =>
    obtain ⟨c, rest, rfl, has⟩ := left_ih found
    exact ⟨c, _, rfl, has⟩
  | nothing | stop | more | left | right | present | absent | lineStart | lineEnd | wordEdge | notBefore =>
    cases found

theorem Takes.countP_le {kind : Char → Bool} {avoids : CharClass → Bool}
    (avoided : ∀ chars c, avoids chars = true → chars.has c = true → kind c = false)
    (takes : pattern.Takes here taken after) {n : Nat} (bound : pattern.most? avoids = some n) :
    taken.countP kind ≤ n := by
  induction takes generalizing n with
  | nothing | stop | absent | lineStart | lineEnd | wordEdge | notBefore => exact Nat.zero_le n
  | one has =>
    obtain rfl := Option.some.inj bound
    split
    next avoids => simp [avoided _ _ avoids has]
    next => exact List.countP_le_length
  | more has later ih =>
    have later := ih bound
    simp only [most?] at bound
    split at bound
    next avoids => rwa [List.countP_cons_of_neg (by simp [avoided _ _ avoids has])]
    next => cases bound
  | seq left right left_ih right_ih =>
    obtain ⟨a, first, bound⟩ := Option.bind_eq_some_iff.mp bound
    obtain ⟨b, second, bound⟩ := Option.bind_eq_some_iff.mp bound
    obtain rfl := Option.some.inj bound
    rw [List.countP_append]
    exact Nat.add_le_add (left_ih first) (right_ih second)
  | left inner ih =>
    obtain ⟨a, first, bound⟩ := Option.bind_eq_some_iff.mp bound
    obtain ⟨b, second, bound⟩ := Option.bind_eq_some_iff.mp bound
    obtain rfl := Option.some.inj bound
    exact Nat.le_trans (ih first) (Nat.le_max_left a b)
  | right inner ih =>
    obtain ⟨a, first, bound⟩ := Option.bind_eq_some_iff.mp bound
    obtain ⟨b, second, bound⟩ := Option.bind_eq_some_iff.mp bound
    obtain rfl := Option.some.inj bound
    exact Nat.le_trans (ih second) (Nat.le_max_right a b)
  | present inner ih => exact ih bound

end Pattern
end Scriptlet
