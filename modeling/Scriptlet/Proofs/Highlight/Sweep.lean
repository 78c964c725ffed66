import Scriptlet.Proofs.Highlight.Provenance
import Scriptlet.Proofs.Text.Occurrence

/-!
Walks from place to place. A pass that goes on behind everything it proposes, accepted or not, accepts of what
a search from left to right would find exactly what meets no span of the passes before.
-/
namespace Scriptlet
open Text (Cursor FirstFrom FoundFrom)

namespace Claims
variable {step : Cursor → Claims → Step} {code : List Char} {claims : Claims} {i : Nat}

def walkFrom (step : Cursor → Claims → Step) (code : List Char) (i : Nat) (claims : Claims) : Claims :=
  walk step claims i (code.take i).getLast? 0 (code.drop i)

theorem walkText_eq_walkFrom (step : Cursor → Claims → Step) (code : List Char) (claims : Claims) :
    claims.walkText step code = walkFrom step code 0 claims := rfl

theorem walkFrom_of_length_le (ends : code.length ≤ i) : walkFrom step code i claims = claims := by
  rw [walkFrom, List.drop_eq_nil_of_le ends, walk]

private theorem walk_skip (skip : Nat) :
    walk step claims i (code.take i).getLast? skip (code.drop i) = walkFrom step code (i + skip) claims := by
  induction skip generalizing i with
  | zero => rfl
  | succ skip ih =>
    cases rest : code.drop i with
    | nil =>
      have ends := List.drop_eq_nil_iff.mp rest
      rw [walk, walkFrom_of_length_le (Nat.le_trans ends (Nat.le_add_right i _))]
    | cons c later =>
      have place : Text.place code i = ⟨i, (code.take i).getLast?, c :: later⟩ := congrArg _ rest
      obtain ⟨-, next⟩ := Text.place_succ place
      obtain ⟨-, before, remains⟩ := Cursor.mk.inj next
      rw [walk, ← remains, ← before, ih, Nat.add_right_comm i 1 skip, Nat.add_assoc i skip 1]

theorem walkFrom_of_lt (inside : i < code.length) :
    walkFrom step code i claims =
      walkFrom step code (i + 1 + (step (Text.place code i) claims).skip) (step (Text.place code i) claims).claims := by
  obtain ⟨c, later, rest⟩ := List.exists_cons_of_ne_nil (mt List.drop_eq_nil_iff.mp (Nat.not_le.mpr inside))
  have place : Text.place code i = ⟨i, (code.take i).getLast?, c :: later⟩ := congrArg _ rest
  obtain ⟨-, next⟩ := Text.place_succ place
  obtain ⟨-, before, remains⟩ := Cursor.mk.inj next
  rw [walkFrom, rest, walk, place, ← walk_skip, before, remains]

end Claims

namespace Highlight
variable {propose : Proposer} {kind : TokenKind} {code : List Char} {claims : Claims} {span : Span} {here : Cursor}
variable {proposal : Proposal} {i size start stop : Nat}

theorem consider_of_none (nothing : propose here = none) : consider propose here claims = ⟨claims, 0⟩ := by
  rw [consider, nothing]

/-- Whatever meets no accepted span is accepted, also where only free places are tried. -/
theorem mem_consider_of_apart (sound : claims.Sound size) (proposed : propose here = some proposal)
    (positive : 0 < proposal.length)
    (apart : ∀ other ∈ claims.spans, other.Apart ⟨here.offset, proposal.length, proposal.kind⟩) :
    ⟨here.offset, proposal.length, proposal.kind⟩ ∈ (consider propose here claims).claims.spans := by
  obtain ⟨more, accepted⟩ := sound.exists_claim?_iff.mpr ⟨positive, apart⟩
  have free : claims.covers here.offset = false := by
    rw [← Bool.not_eq_true, sound.covers_iff]
    rintro ⟨span, member, begins, reaches⟩
    have apart := apart span member
    simp only [Span.Apart, Span.stop] at apart reaches
    omega
  simp only [consider, proposed, free, Bool.and_false, Bool.false_eq_true, if_false, accepted]
  exact Claims.spans_of_claim? accepted ▸ List.mem_cons_self

/-- What is proposed regardless of the place is accepted exactly if it meets no accepted span. -/
theorem consider_cases (sound : claims.Sound size) (proposed : propose here = some proposal)
    (positive : 0 < proposal.length) (always : proposal.onlyFree = false) :
    ((∀ other ∈ claims.spans, other.Apart ⟨here.offset, proposal.length, proposal.kind⟩) ∧
        (consider propose here claims).claims.spans =
          ⟨here.offset, proposal.length, proposal.kind⟩ :: claims.spans ∧
        (consider propose here claims).skip = proposal.skipAccepted) ∨
      (¬ ∀ other ∈ claims.spans, other.Apart ⟨here.offset, proposal.length, proposal.kind⟩) ∧
        consider propose here claims = ⟨claims, proposal.skipRefused⟩ := by
  have accepts : (∃ more, claims.claim? here.offset proposal.length proposal.kind = some more) ↔ 0 < proposal.length ∧
      ∀ other ∈ claims.spans, other.Apart ⟨here.offset, proposal.length, proposal.kind⟩ := sound.exists_claim?_iff
  simp only [consider, proposed, always, Bool.false_and, Bool.false_eq_true, if_false]
  cases accepted : claims.claim? here.offset proposal.length proposal.kind with
  | some more => exact .inl ⟨(accepts.mp ⟨more, accepted⟩).2, Claims.spans_of_claim? accepted, rfl⟩
  | none =>
    refine .inr ⟨fun apart => ?_, rfl⟩
    obtain ⟨more, found⟩ := accepts.mpr ⟨positive, apart⟩
    rw [accepted] at found
    cases found

theorem mem_consider_iff (sound : claims.Sound size) (proposed : propose here = some proposal)
    (positive : 0 < proposal.length) (always : proposal.onlyFree = false) :
    span ∈ (consider propose here claims).claims.spans ↔ span ∈ claims.spans ∨
      span = ⟨here.offset, proposal.length, proposal.kind⟩ ∧ ∀ other ∈ claims.spans, other.Apart span := by
  rcases consider_cases sound proposed positive always with ⟨apart, added, _⟩ | ⟨met, unchanged⟩
  · rw [added, List.mem_cons, or_comm]
    exact or_congr_right (iff_self_and.mpr fun same => same ▸ apart)
  · rw [unchanged]
    exact (or_iff_left fun ⟨same, apart⟩ => met (same ▸ apart)).symm

theorem stop_mk_sub {start stop : Nat} (before : start ≤ stop) : (⟨start, stop - start, kind⟩ : Span).stop = stop :=
  Nat.add_sub_cancel' before

theorem eq_of_start_stop {length : Nat} (first : span.start = start) (last : span.stop = start + length)
    (own : span.kind = kind) : span = ⟨start, length, kind⟩ := by
  have same : span.length = length := by
    rw [Span.stop, first] at last
    omega
  rw [← first, ← same, ← own]

/-- A proposer of spans of one kind, after each of which the walk goes on where the span ends. -/
def Proposer.Sweeps (propose : Proposer) (kind : TokenKind) : Prop :=
  ∀ here proposal, propose here = some proposal → 0 < proposal.length ∧ proposal.kind = kind ∧
    proposal.onlyFree = false ∧ proposal.skipAccepted = proposal.length - 1 ∧
    proposal.skipRefused = proposal.length - 1

structure Proposer.Next (propose : Proposer) (code : List Char) (i start stop : Nat) : Prop where
  first : FirstFrom (fun k => (propose (Text.place code k)).isSome = true) i start
  length : (propose (Text.place code start)).map (start + ·.length) = some stop

namespace Proposer.Next

theorem bounds (bounded : propose.Bounded) (sweeps : propose.Sweeps kind) (next : propose.Next code i start stop) :
    i ≤ start ∧ start < stop ∧ stop ≤ code.length := by
  obtain ⟨proposal, proposed, rfl⟩ := Option.map_eq_some_iff.mp next.length
  have positive := (sweeps _ _ proposed).1
  have inside : proposal.length ≤ (code.drop start).length := (bounded _ _ proposed).1
  rw [List.length_drop] at inside
  exact ⟨next.first.le, by omega, by omega⟩

theorem iff_of_none (nothing : propose (Text.place code i) = none) :
    propose.Next code i start stop ↔ propose.Next code (i + 1) start stop := by
  have other : ¬ (propose (Text.place code i)).isSome = true := by simp [nothing]
  constructor
  · exact fun next => ⟨(Text.firstFrom_succ_iff other).mp next.first, next.length⟩
  · exact fun next => ⟨(Text.firstFrom_succ_iff other).mpr next.first, next.length⟩

theorem iff_of_some (proposed : propose (Text.place code i) = some proposal) :
    propose.Next code i start stop ↔ start = i ∧ stop = i + proposal.length := by
  have here : (propose (Text.place code i)).isSome = true := by simp [proposed]
  constructor
  · intro next
    obtain rfl := (Text.firstFrom_iff_eq here).mp next.first
    have length := next.length
    rw [proposed] at length
    exact ⟨rfl, (Option.some.inj length).symm⟩
  · rintro ⟨rfl, rfl⟩
    exact ⟨(Text.firstFrom_iff_eq here).mpr rfl, by rw [proposed]; rfl⟩

end Proposer.Next

theorem foundFrom_iff_of_none (nothing : propose (Text.place code i) = none) :
    FoundFrom (propose.Next code) i start stop ↔ FoundFrom (propose.Next code) (i + 1) start stop := by
  rw [Text.foundFrom_iff, Text.foundFrom_iff (i := i + 1)]
  simp only [Proposer.Next.iff_of_none nothing]

theorem foundFrom_iff_of_some (proposed : propose (Text.place code i) = some proposal) :
    FoundFrom (propose.Next code) i start stop ↔
      start = i ∧ stop = i + proposal.length ∨ FoundFrom (propose.Next code) (i + proposal.length) start stop := by
  rw [Text.foundFrom_iff]
  simp only [Proposer.Next.iff_of_some proposed]
  constructor
  · rintro ⟨_, _, ⟨rfl, rfl⟩, found⟩
    exact found
  · exact fun found => ⟨i, i + proposal.length, ⟨rfl, rfl⟩, found⟩

theorem le_of_foundFrom (bounded : propose.Bounded) (sweeps : propose.Sweeps kind)
    (found : FoundFrom (propose.Next code) i start stop) : i ≤ start :=
  found.le fun next => (next.bounds bounded sweeps).imp_right fun ends => Nat.le_of_lt ends.1

theorem walkFrom_of_proposed (sweeps : propose.Sweeps kind) (inside : i < code.length)
    (proposed : propose (Text.place code i) = some proposal) :
    Claims.walkFrom (consider propose) code i claims = Claims.walkFrom (consider propose) code (i + proposal.length)
      (consider propose (Text.place code i) claims).claims := by
  obtain ⟨positive, _, always, skipAccepted, skipRefused⟩ := sweeps _ _ proposed
  have skip : (consider propose (Text.place code i) claims).skip = proposal.length - 1 := by
    simp only [consider, proposed, always, Bool.false_and, Bool.false_eq_true, if_false]
    split
    · exact skipAccepted
    · exact skipRefused
  have goesOn : i + 1 + (proposal.length - 1) = i + proposal.length := by omega
  rw [Claims.walkFrom_of_lt inside, skip, goesOn]

theorem mem_walkFrom_iff (bounded : propose.Bounded) (sweeps : propose.Sweeps kind) (sound : claims.Sound code.length) :
    span ∈ (Claims.walkFrom (consider propose) code i claims).spans ↔
      span ∈ claims.spans ∨ span.kind = kind ∧ FoundFrom (propose.Next code) i span.start span.stop ∧
        ∀ other ∈ claims.spans, other.Apart span := by
  induction remains : code.length - i using Nat.strongRecOn generalizing i claims with
  | ind n ih =>
  by_cases inside : i < code.length
  case neg =>
    rw [Claims.walkFrom_of_length_le (Nat.not_lt.mp inside)]
    refine (or_iff_left fun found => ?_).symm
    obtain ⟨first, last, next, _⟩ := Text.foundFrom_iff.mp found.2.1
    have bounds := next.bounds bounded sweeps
    omega
  cases proposed : propose (Text.place code i) with
  | none =>
    rw [Claims.walkFrom_of_lt inside, consider_of_none proposed, ih _ (by omega) sound rfl, Nat.add_zero,
      foundFrom_iff_of_none proposed]
  | some proposal =>
    obtain ⟨positive, own, always, _⟩ := sweeps _ _ proposed
    have whole : (Text.place code i).stop = code.length := Text.stop_place (Nat.le_of_lt inside)
    have kept := sound_consider bounded (Text.place code i) claims whole sound
    have added (span : Span) : span ∈ (consider propose (Text.place code i) claims).claims.spans ↔ _ :=
      mem_consider_iff sound proposed positive always
    rw [walkFrom_of_proposed sweeps inside proposed, ih _ (by omega) kept rfl, added, foundFrom_iff_of_some proposed]
    constructor
    · rintro ((old | ⟨rfl, apart⟩) | ⟨kind, later, clear⟩)
      · exact .inl old
      · exact .inr ⟨own, .inl ⟨rfl, rfl⟩, apart⟩
      · exact .inr ⟨kind, .inr later, fun other old => clear other ((added other).mpr (.inl old))⟩
    · rintro (old | ⟨kind, ⟨start, stop⟩ | later, clear⟩)
      · exact .inl (.inl old)
      · exact .inl (.inr ⟨eq_of_start_stop start stop (kind.trans own.symm), clear⟩)
      · -- What is found later lies behind the span that may be added here.
        refine .inr ⟨kind, later, fun other member => ?_⟩
        rcases (added other).mp member with old | ⟨rfl, _⟩
        · exact clear other old
        · exact .inl (le_of_foundFrom bounded sweeps later)

end Highlight
end Scriptlet
