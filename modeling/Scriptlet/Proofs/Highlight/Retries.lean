import Scriptlet.Proofs.Highlight.Sweep

/-!
Walks that try again. Where a refusal costs the walk one character only, and an acceptance takes it no further than
the accepted span goes, everything that is proposed anywhere is in the end accepted or met by a span that was.
-/
namespace Scriptlet
open Text (Cursor)

namespace Highlight
variable {propose : Proposer} {claims : Claims} {code : List Char} {span : Span} {here : Cursor}
variable {proposal : Proposal} {all : List Proposer} {i p size : Nat}

/-- A proposer after whose proposals the walk goes on with the next character, or inside what was accepted. -/
def Proposer.Retries (propose : Proposer) : Prop := ∀ here proposal, propose here = some proposal →
  proposal.skipAccepted < proposal.length ∧ proposal.skipRefused = 0

def Proposer.Patient (propose : Proposer) : Prop := ∀ here proposal, propose here = some proposal →
  0 < proposal.length ∧ proposal.onlyFree = false ∧ proposal.skipAccepted = 0 ∧ proposal.skipRefused = 0

theorem Proposer.Patient.retries (patient : propose.Patient) : propose.Retries := by
  intro here proposal proposed
  obtain ⟨positive, _, accepted, refused⟩ := patient here proposal proposed
  exact ⟨accepted ▸ positive, refused⟩

theorem retries_stringProposer (quote : Char) (escapes raw : Bool) : (stringProposer quote escapes raw).Retries := by
  intro here proposal proposed
  unfold stringProposer at proposed
  split at proposed
  next => cases proposed
  next =>
    obtain ⟨_, same⟩ := Option.ite_none_right_eq_some.mp proposed
    obtain rfl := Option.some.inj same
    exact ⟨Nat.lt_succ_self _, rfl⟩

theorem mem_walkFrom_of_mem (member : span ∈ claims.spans) :
    span ∈ (Claims.walkFrom (consider propose) code i claims).spans := by
  rw [Claims.walkFrom]
  have keeps (here : Cursor) (claims : Claims) (_ : here.stop = i + (code.drop i).length) :
      span ∈ claims.spans → span ∈ (consider propose here claims).claims.spans := mem_consider_of_mem propose here
  exact Claims.walk_induction keeps rfl member

private theorem exists_met_consider (retries : propose.Retries) (sound : claims.Sound size)
    (proposed : propose here = some proposal) :
    ∃ span ∈ (consider propose here claims).claims.spans,
      ¬ span.Apart ⟨here.offset, proposal.length, proposal.kind⟩ := by
  have positive : 0 < proposal.length := Nat.zero_lt_of_lt (retries here proposal proposed).1
  simp only [consider, proposed]
  split
  next covered =>
    obtain ⟨span, member, begins, reaches⟩ := sound.covers_iff.mp (Bool.and_eq_true_iff.mp covered).2
    refine ⟨span, member, ?_⟩
    simp only [Span.Apart, Span.stop] at reaches ⊢
    omega
  next =>
    split
    next more accepted =>
      refine ⟨_, Claims.spans_of_claim? accepted ▸ List.mem_cons_self, ?_⟩
      simp only [Span.Apart, Span.stop]
      omega
    next refused =>
      by_contra none
      push Not at none
      obtain ⟨more, found⟩ := sound.exists_claim?_iff.mpr ⟨positive, none⟩
      rw [refused] at found
      cases found

/-- The walk passes over nothing but what a span covers that is accepted here. -/
private theorem skip_consider (retries : propose.Retries) (here : Cursor) (claims : Claims) :
    (consider propose here claims).skip = 0 ∨ ∃ span ∈ (consider propose here claims).claims.spans,
      span.start = here.offset ∧ here.offset + (consider propose here claims).skip < span.stop := by
  unfold consider
  split
  next => exact .inl rfl
  next proposal proposed =>
    obtain ⟨inside, refused⟩ := retries here proposal proposed
    split
    next => exact .inl rfl
    next =>
      split
      next more accepted =>
        refine .inr ⟨_, Claims.spans_of_claim? accepted ▸ List.mem_cons_self, rfl, ?_⟩
        exact Nat.add_lt_add_left inside here.offset
      next => exact .inl refused

theorem exists_met_walkFrom (retries : propose.Retries) (bounded : propose.Bounded) (sound : claims.Sound code.length)
    (after : i ≤ p) (inside : p < code.length) (proposed : propose (Text.place code p) = some proposal) :
    ∃ span ∈ (Claims.walkFrom (consider propose) code i claims).spans,
      ¬ span.Apart ⟨p, proposal.length, proposal.kind⟩ := by
  -- By induction on the way to `p`: the walk comes there, unless a span is accepted that covers the place.
  induction remains : p - i using Nat.strongRecOn generalizing i claims with
  | ind n ih =>
  have whole : (Text.place code i).stop = code.length := Text.stop_place (by omega)
  have kept := sound_consider bounded (Text.place code i) claims whole sound
  rw [Claims.walkFrom_of_lt (by omega)]
  rcases Nat.eq_or_lt_of_le after with rfl | before
  · obtain ⟨span, member, met⟩ := exists_met_consider retries sound proposed
    exact ⟨span, mem_walkFrom_of_mem member, met⟩
  · by_cases reached : i + 1 + (consider propose (Text.place code i) claims).skip ≤ p
    · exact ih _ (by omega) kept reached rfl
    · have positive : 0 < proposal.length := Nat.zero_lt_of_lt (retries _ proposal proposed).1
      have skipped := skip_consider retries (Text.place code i) claims
      obtain ⟨span, member, begins, reaches⟩ := skipped.resolve_left (by omega)
      change span.start = i at begins
      change i + _ < span.stop at reaches
      refine ⟨span, mem_walkFrom_of_mem member, ?_⟩
      simp only [Span.Apart, Span.stop] at reaches ⊢
      omega

theorem exists_met_walkAll (bounded : ∀ propose ∈ all, propose.Bounded) (sound : claims.Sound code.length)
    (listed : propose ∈ all) (retries : propose.Retries) (inside : p < code.length)
    (proposed : propose (Text.place code p) = some proposal) :
    ∃ span ∈ (walkAll all code claims).spans, ¬ span.Apart ⟨p, proposal.length, proposal.kind⟩ := by
  obtain ⟨earlier, later, rfl⟩ := List.append_of_mem listed
  have soundEarlier := sound_walkAll (fun other member => bounded other (List.mem_append_left _ member)) sound
  obtain ⟨span, member, met⟩ := exists_met_walkFrom retries (bounded propose listed) soundEarlier (Nat.zero_le p)
    inside proposed
  refine ⟨span, ?_, met⟩
  rw [walkAll, List.foldl_append, List.foldl_cons]
  exact mem_walkAll_of_mem member

end Highlight
end Scriptlet
