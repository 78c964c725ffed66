import Scriptlet.Proofs.Pattern.Taken

/-!
The match that is tried first. A repetition prefers the longest run, and an alternative is passed over where it can
take nothing at all; what succeeds at the first try is the match, whatever other ways there are.
-/
namespace Scriptlet
open Text (Cursor)

namespace Pattern

/-- Before `rest` a pattern takes `taken` first: if what follows succeeds behind it, the match is this one. -/
def Prefers (pattern : Pattern) (taken rest : List Char) : Prop :=
  ∀ (next : Cursor → Option Cursor) (offset : Nat) (before : Option Char) (result : Cursor),
    next ⟨offset + taken.length, taken.getLast?.or before, rest⟩ = some result →
      pattern.matchThen next ⟨offset, before, taken ++ rest⟩ = some result

/-- In front of a text a pattern takes nothing, not even the empty text. -/
def Refuses (pattern : Pattern) (text : List Char) : Prop :=
  ∀ offset before taken after, ¬ pattern.Takes ⟨offset, before, text⟩ taken after

variable {first second inner : Pattern} {chars : CharClass} {taken more rest text : List Char} {c : Char}

theorem Refuses.matchThen_eq_none (refuses : inner.Refuses text) (next : Cursor → Option Cursor) (offset : Nat)
    (before : Option Char) : inner.matchThen next ⟨offset, before, text⟩ = none := by
  rw [Option.eq_none_iff_forall_ne_some]
  intro result found
  obtain ⟨taken, after, takes, _⟩ := takes_of_matchThen found
  exact refuses offset before taken after takes

theorem refuses_of_first? (chars : CharClass) (first : inner.first? = some chars)
    (other : ∀ c ∈ text.head?, chars.has c = false) : inner.Refuses text := by
  intro offset before taken after takes
  obtain ⟨c, later, rfl, has⟩ := takes.first first
  have rest : text = c :: later ++ after.rest := takes.rest.1
  rw [other c (by simp [rest])] at has
  cases has

theorem prefers_nothing : nothing.Prefers [] rest := fun _ _ _ _ found => found

theorem prefers_one (has : chars.has c = true) : (one chars).Prefers [c] rest := by
  intro next offset before result found
  simp only [List.singleton_append, matchThen, has, if_true]
  exact found

theorem prefers_many (all : ∀ c ∈ taken, chars.has c = true) (ends : ∀ c ∈ rest.head?, chars.has c = false) :
    (many chars).Prefers taken rest := by
  intro next offset before result found
  rw [matchThen]
  induction taken generalizing offset before with
  | nil =>
    cases rest with
    | nil => exact found
    | cons c later =>
      rw [List.nil_append, afterMany, ends c rfl]
      exact found
  | cons c taken ih =>
    have last : (c :: taken).getLast?.or before = taken.getLast?.or (some c) := by
      rw [List.getLast?_cons, Option.some_or, Option.or_some]
    rw [last, List.length_cons, Nat.add_comm taken.length 1, ← Nat.add_assoc] at found
    have later := ih (fun d member => all d (List.mem_cons_of_mem c member)) (offset + 1) (some c) found
    rw [List.cons_append, afterMany, all c List.mem_cons_self, if_pos rfl, later, Option.some_or]

namespace Prefers

theorem seq (left : first.Prefers taken (more ++ rest)) (right : second.Prefers more rest) :
    (Pattern.seq first second).Prefers (taken ++ more) rest := by
  intro next offset before result found
  rw [List.append_assoc, matchThen]
  apply left
  apply right
  rwa [List.length_append, ← Nat.add_assoc, List.getLast?_append, Option.or_assoc] at found

theorem left (inner : first.Prefers taken rest) : (either first second).Prefers taken rest := by
  intro next offset before result found
  rw [matchThen, inner next offset before result found, Option.some_or]

theorem right (refuses : first.Refuses (taken ++ rest)) (inner : second.Prefers taken rest) :
    (either first second).Prefers taken rest := by
  intro next offset before result found
  rw [matchThen, refuses.matchThen_eq_none, Option.none_or, inner next offset before result found]

theorem present (inner : first.Prefers taken rest) : (optional first).Prefers taken rest := by
  intro next offset before result found
  rw [matchThen, inner next offset before result found, Option.some_or]

theorem absent (refuses : first.Refuses rest) : (optional first).Prefers [] rest := by
  intro next offset before result found
  rw [List.nil_append, matchThen, refuses.matchThen_eq_none, Option.none_or]
  exact found

end Prefers

theorem prefers_run (some : taken ≠ []) (all : ∀ c ∈ taken, chars.has c = true)
    (ends : ∀ c ∈ rest.head?, chars.has c = false) : (run chars).Prefers taken rest := by
  obtain ⟨c, later, rfl⟩ := List.exists_cons_of_ne_nil some
  rw [List.forall_mem_cons] at all
  exact (prefers_one all.1).seq (prefers_many all.2 ends)

end Pattern
end Scriptlet
