import Scriptlet.Proofs.Highlight.Disjoint
import Scriptlet.Proofs.Text.Place

/-!
Where accepted spans come from. Every one was proposed by a pass at its own start, and none that is accepted is
taken back. Both are carried along a walk over the text, from place to place.
-/
namespace Scriptlet
open Text (Cursor)

namespace Claims
variable {step : Cursor → Claims → Step} {claims more : Claims} {code : List Char}
variable {start length : Nat} {kind : TokenKind}

/-- What a step keeps at every place of a text, a walk keeps from any place on. -/
theorem walk_places (holds : Claims → Prop)
    (keeps : ∀ i claims, i < code.length → holds claims → holds (step (Text.place code i) claims).claims)
    {text passed : List Char} (whole : code = passed ++ text) (skip : Nat) (start : holds claims) :
    holds (walk step claims passed.length passed.getLast? skip text) := by
  induction text generalizing passed skip claims with
  | nil => simpa only [walk] using start
  | cons c rest ih =>
    have appended : code = (passed ++ [c]) ++ rest := by rw [whole, List.append_cons]
    have next {skip : Nat} {claims : Claims} (start : holds claims) :
        holds (walk step claims (passed.length + 1) (some c) skip rest) := by
      have later := ih appended skip start
      rwa [List.length_append, List.getLast?_concat] at later
    cases skip with
    | succ skip => exact next start
    | zero =>
      have here := keeps passed.length claims (by simp [whole]) start
      rw [whole, Text.place_append] at here
      exact next here

theorem walkText_places (holds : Claims → Prop)
    (keeps : ∀ i claims, i < code.length → holds claims → holds (step (Text.place code i) claims).claims)
    (start : holds claims) : holds (claims.walkText step code) :=
  walk_places holds keeps (List.nil_append code).symm 0 start

theorem spans_of_claim? (accepted : claims.claim? start length kind = some more) :
    more.spans = ⟨start, length, kind⟩ :: claims.spans := by
  unfold claim? at accepted
  split at accepted
  · cases accepted
    rfl
  · cases accepted

end Claims

namespace Highlight
variable {propose : Proposer} {claims : Claims} {code : List Char} {span : Span} {here : Cursor}
variable {proposal : Proposal} {all : List Proposer}

def Proposer.Makes (propose : Proposer) (code : List Char) (span : Span) : Prop :=
  ∃ proposal, propose (Text.place code span.start) = some proposal ∧
    proposal.length = span.length ∧ proposal.kind = span.kind

private theorem spans_consider (propose : Proposer) (here : Cursor) (claims : Claims) :
    (consider propose here claims).claims.spans = claims.spans ∨
      ∃ proposal, propose here = some proposal ∧ (consider propose here claims).claims.spans =
        ⟨here.offset, proposal.length, proposal.kind⟩ :: claims.spans := by
  unfold consider
  split
  next => exact .inl rfl
  next proposal proposed =>
    split
    next => exact .inl rfl
    next =>
      split
      next more accepted => exact .inr ⟨proposal, proposed, Claims.spans_of_claim? accepted⟩
      next => exact .inl rfl

theorem mem_consider_of_mem (propose : Proposer) (here : Cursor) (member : span ∈ claims.spans) :
    span ∈ (consider propose here claims).claims.spans := by
  rcases spans_consider propose here claims with same | ⟨_, _, added⟩
  · rwa [same]
  · rw [added]
    exact List.mem_cons_of_mem _ member

theorem mem_walkAll_of_mem (member : span ∈ claims.spans) : span ∈ (walkAll all code claims).spans := by
  induction all generalizing claims with
  | nil => exact member
  | cons propose rest ih =>
    apply ih
    exact Claims.walkText_places (fun claims => span ∈ claims.spans) (fun _ _ _ => mem_consider_of_mem propose _) member

theorem makes_of_mem_walkAll (member : span ∈ (walkAll all code claims).spans) :
    span ∈ claims.spans ∨ ∃ propose ∈ all, propose.Makes code span := by
  induction all generalizing claims with
  | nil => exact .inl member
  | cons propose rest ih =>
    rcases ih member with early | ⟨later, listed, makes⟩
    · have pass : ∀ span ∈ (claims.walkText (consider propose) code).spans,
          span ∈ claims.spans ∨ propose.Makes code span := by
        apply Claims.walkText_places fun after => ∀ span ∈ after.spans, span ∈ claims.spans ∨ propose.Makes code span
        · intro i after _ known span member
          rcases spans_consider propose (Text.place code i) after with same | ⟨proposal, proposed, added⟩
          · exact known span (same ▸ member)
          · rw [added] at member
            rcases List.mem_cons.mp member with rfl | old
            · exact .inr ⟨proposal, proposed, rfl, rfl⟩
            · exact known span old
        · exact fun span member => .inl member
      rcases pass span early with old | makes
      · exact .inl old
      · exact .inr ⟨propose, List.mem_cons_self, makes⟩
    · exact .inr ⟨later, List.mem_cons_of_mem _ listed, makes⟩

end Highlight
end Scriptlet
