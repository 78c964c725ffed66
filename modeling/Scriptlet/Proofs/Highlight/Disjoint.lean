import Scriptlet.Config.Sections
import Scriptlet.Proofs.Highlight.Claims
import Scriptlet.Proofs.Highlight.Proposal

/-!
The spans of a text lie in it one after the other. Every proposal ends within the text, and none is
accepted that meets a span accepted before, so four passes in any order of proposals keep the invariant.
-/
namespace Scriptlet
open Text (Cursor)

def Span.toValue (span : Span) : Value :=
  .map [(.text "start", .int span.start), (.text "length", .int span.length),
    (.text "type", .text span.kind.name)]

private theorem readMember_kind (kind : TokenKind) :
    Config.readMember TokenKind.all TokenKind.name (.text kind.name) = .ok kind := by
  cases kind <;> rfl

theorem readSpan_toValue {span : Span} (positive : 0 < span.length) :
    Config.readSpan span.toValue = .ok span := by
  have key (name wanted : String) : (Value.text name).sameKey (.text wanted) = decide (name = wanted) := rfl
  have start : ¬ (span.start : Int) < 0 := by omega
  have length : span.length ≠ 0 := by omega
  simp [Span.toValue, Config.readSpan, Config.required, Value.lookup?, key, Config.readInt, start, length,
    readMember_kind, Config.Checked.both, Config.Checked.under, bind, Except.bind, Except.map]

namespace Highlight

theorem sound_consider {propose : Proposer} (bounded : propose.Bounded) {size : Nat} (here : Cursor)
    (claims : Claims) (whole : here.stop = size) (sound : claims.Sound size) :
    (consider propose here claims).claims.Sound size := by
  unfold consider
  split
  next => exact sound
  next proposal proposed =>
    split
    next => exact sound
    next =>
      split
      next more accepted =>
        have := (bounded here proposal proposed).1
        refine (sound.claim? ?_ accepted).2
        rw [← whole, Cursor.stop]
        omega
      next => exact sound

theorem sound_walkText {propose : Proposer} (bounded : propose.Bounded) {code : List Char} {claims : Claims}
    (sound : claims.Sound code.length) : (claims.walkText (consider propose) code).Sound code.length :=
  Claims.walk_induction (sound_consider bounded) (Nat.zero_add _) sound

theorem sound_walkAll {proposers : List Proposer} (bounded : ∀ propose ∈ proposers, propose.Bounded)
    {code : List Char} {claims : Claims} (sound : claims.Sound code.length) :
    (walkAll proposers code claims).Sound code.length := by
  induction proposers generalizing claims with
  | nil => exact sound
  | cons propose rest ih =>
    refine ih (fun other member => bounded other (List.mem_cons_of_mem _ member)) ?_
    exact sound_walkText (bounded propose (by simp)) sound

theorem sound_claimsOf (lexicon : Lexicon) (code : List Char) :
    (claimsOf lexicon code).Sound code.length := by
  rw [claimsOf_eq_walkAll]
  exact sound_walkAll (fun _ => bounded_of_mem_proposers) (Claims.sound_empty _)

theorem exists_sound_analyze (code language : Option String) :
    ∃ claims : Claims, claims.Sound (code.getD "").length ∧
      analyze code language = claims.spans.mergeSort Span.precedes := by
  have none : ∃ claims : Claims, claims.Sound (code.getD "").length ∧
      [] = claims.spans.mergeSort Span.precedes := ⟨.empty, Claims.sound_empty _, by simp [Claims.empty]⟩
  unfold analyze
  split
  next language _ =>
    unfold analyzeAs
    split
    next lexicon _ =>
      have sound := sound_claimsOf lexicon (code.getD "").toList
      rw [String.length_toList] at sound
      exact ⟨_, sound, rfl⟩
    next => exact none
  next => exact none

/-- For every text and every language, the spans found start one after the other, none is empty or ends
behind the text, no two have a character in common, and each passes the checks on spans. -/
theorem analyze_disjoint (code language : Option String) :
    (analyze code language).Pairwise (fun a b => a.start < b.start) ∧
      (∀ span ∈ analyze code language, 0 < span.length ∧ span.stop ≤ (code.getD "").length ∧
        Config.readSpan span.toValue = .ok span) ∧
      ∀ a ∈ analyze code language, ∀ b ∈ analyze code language, a ≠ b → a.overlaps b = false := by
  obtain ⟨claims, sound, spans⟩ := exists_sound_analyze code language
  have sorted := sound.sorted
  have members (span : Span) : span ∈ claims.spans.mergeSort Span.precedes ↔ span ∈ claims.spans :=
    List.mem_mergeSort
  rw [spans]
  refine ⟨?_, fun span member => ?_, fun a first b second differ => ?_⟩
  · refine sorted.imp_of_mem fun {a b} left right ends => ?_
    have positive := sound.positive ((members a).mp left)
    simp only [Span.stop] at ends
    omega
  · have positive := sound.positive ((members span).mp member)
    exact ⟨positive, sound.inside span ((members span).mp member), readSpan_toValue positive⟩
  · have apart := sound.apart.forall ((members a).mp first) ((members b).mp second) differ
    simp only [Span.overlaps, Span.Apart] at apart ⊢
    simp only [Bool.and_eq_false_iff, decide_eq_false_iff_not]
    omega

end Highlight
end Scriptlet
