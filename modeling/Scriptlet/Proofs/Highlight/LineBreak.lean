import Scriptlet.Proofs.Highlight.Disjoint
import Scriptlet.Proofs.Highlight.Locality

/-!
Highlighting of two texts with a line break between them. The walk over the whole text accepts beside each
other what the walks over its two parts accept, since a span of one part never meets one of the other.
-/
namespace Scriptlet
open Text (Cursor)

def Span.shift (count : Nat) (span : Span) : Span := { span with start := span.start + count }

namespace Highlight

/-- A part of `size` characters begins at the offset `shift` of a whole text. What is accepted in the whole
text is what is accepted in the part and other spans, which lie outside the part. -/
structure Part (shift size total : Nat) (others : List Span) (part whole : Claims) : Prop where
  soundPart : part.Sound size
  soundWhole : whole.Sound total
  spans : whole.spans.Perm (part.spans.map (Span.shift shift) ++ others)
  outside : ∀ other ∈ others, other.stop ≤ shift ∨ shift + size ≤ other.start
  inside : shift + size ≤ total

variable {shift size total start length skip : Nat} {others : List Span} {part whole : Claims}
variable {kind : TokenKind} {tail : List Char} {outer inner : Cursor} {propose : Proposer} {lexicon : Lexicon}

theorem Part.mem_iff (related : Part shift size total others part whole) {span : Span} :
    span ∈ whole.spans ↔ (∃ own ∈ part.spans, own.shift shift = span) ∨ span ∈ others := by
  rw [related.spans.mem_iff, List.mem_append, List.mem_map]

private theorem Part.apart_iff (related : Part shift size total others part whole)
    (inside : start + length ≤ size) :
    (∀ span ∈ part.spans, span.Apart ⟨start, length, kind⟩) ↔
      ∀ span ∈ whole.spans, span.Apart ⟨start + shift, length, kind⟩ := by
  constructor
  · intro apart span member
    rcases related.mem_iff.mp member with ⟨own, listed, rfl⟩ | other
    · have := apart own listed
      simp only [Span.Apart, Span.stop, Span.shift] at this ⊢
      omega
    · have := related.outside span other
      simp only [Span.Apart, Span.stop] at this ⊢
      omega
  · intro apart own listed
    have := apart (own.shift shift) (related.mem_iff.mpr (.inl ⟨own, listed, rfl⟩))
    simp only [Span.Apart, Span.stop, Span.shift] at this ⊢
    omega

/-- A span is accepted in the part and in the whole text, or in none of them. -/
theorem Part.claim? (related : Part shift size total others part whole) (kind : TokenKind)
    (inside : start + length ≤ size) :
    (∃ more larger, part.claim? start length kind = some more ∧
        whole.claim? (start + shift) length kind = some larger ∧ Part shift size total others more larger) ∨
      part.claim? start length kind = none ∧ whole.claim? (start + shift) length kind = none := by
  have accepts : (∃ more, part.claim? start length kind = some more) ↔
      ∃ larger, whole.claim? (start + shift) length kind = some larger := by
    rw [related.soundPart.exists_claim?_iff, related.soundWhole.exists_claim?_iff, related.apart_iff inside]
  cases accepted : part.claim? start length kind with
  | none =>
    refine .inr ⟨rfl, Option.eq_none_iff_forall_ne_some.mpr fun larger found => ?_⟩
    obtain ⟨more, found⟩ := accepts.mpr ⟨larger, found⟩
    rw [accepted] at found
    cases found
  | some more =>
    obtain ⟨larger, found⟩ := accepts.mp ⟨more, accepted⟩
    have bound := related.inside
    obtain ⟨added, sound⟩ := related.soundPart.claim? inside accepted
    obtain ⟨addedWhole, kept⟩ := related.soundWhole.claim? (by omega) found
    refine .inl ⟨more, larger, rfl, found, sound, kept, ?_, related.outside, related.inside⟩
    rw [added, addedWhole, List.map_cons, List.cons_append]
    exact related.spans.cons _

theorem Part.covers (related : Part shift size total others part whole) {offset : Nat}
    (inside : offset < size) : whole.covers (offset + shift) = part.covers offset := by
  rw [Bool.eq_iff_iff, related.soundWhole.covers_iff, related.soundPart.covers_iff]
  constructor
  · rintro ⟨span, member, begins, ends⟩
    rcases related.mem_iff.mp member with ⟨own, listed, rfl⟩ | other
    · simp only [Span.stop, Span.shift] at begins ends
      exact ⟨own, listed, by omega, by simp only [Span.stop]; omega⟩
    · have := related.outside span other
      omega
  · rintro ⟨own, listed, begins, ends⟩
    refine ⟨own.shift shift, related.mem_iff.mpr (.inl ⟨own, listed, rfl⟩), ?_, ?_⟩
    · simp only [Span.shift]
      omega
    · simp only [Span.stop, Span.shift] at ends ⊢
      omega

theorem consider_skip_le (bounded : propose.Bounded) (here : Cursor) (claims : Claims) :
    (consider propose here claims).skip ≤ here.rest.length := by
  unfold consider
  split
  next => exact Nat.zero_le _
  next proposal proposed =>
    have bounds := bounded here proposal proposed
    split
    next => exact Nat.zero_le _
    next =>
      split
      · exact bounds.2.1
      · exact bounds.2.2

theorem Part.consider (related : Part shift size total others part whole) (bounded : propose.Bounded)
    (offset : outer.offset = inner.offset + shift) (same : propose outer = propose inner)
    (some : inner.rest ≠ []) (ends : inner.stop = size) :
    Part shift size total others (consider propose inner part).claims (consider propose outer whole).claims ∧
      (consider propose outer whole).skip = (consider propose inner part).skip := by
  have length := List.length_pos_iff.mpr some
  rw [Cursor.stop] at ends
  unfold Highlight.consider
  rw [same, offset, related.covers (by omega)]
  cases proposed : propose inner with
  | none => exact ⟨related, rfl⟩
  | some proposal =>
    have bound := (bounded inner proposal proposed).1
    have inside : inner.offset + proposal.length ≤ size := by omega
    dsimp only
    split
    next => exact ⟨related, rfl⟩
    next =>
      rcases related.claim? proposal.kind inside with
        ⟨more, larger, accepted, acceptedWhole, after⟩ | ⟨refused, refusedWhole⟩
      · rw [accepted, acceptedWhole]
        exact ⟨after, rfl⟩
      · rw [refused, refusedWhole]
        exact ⟨related, rfl⟩

/-- The walk over the whole text goes over the part as the walk over the part alone does, and is then at
the end of the part or one character behind it. -/
theorem Part.walk (isLocal : propose.Local lexicon.Closed) (bounded : propose.Bounded)
    {offset : Nat} {before before' : Option Char} {text : List Char}
    (embeds : Cursor.Embeds shift tail ⟨offset + shift, before', text ++ tail⟩ ⟨offset, before, text⟩)
    (closed : tail ≠ [] → lexicon.Closed text) (ends : offset + text.length = size)
    (bound : skip ≤ text.length + 1) (related : Part shift size total others part whole) :
    ∃ whole' last skip',
      Claims.walk (Highlight.consider propose) whole (offset + shift) before' skip (text ++ tail) =
        Claims.walk (Highlight.consider propose) whole' (size + shift) last skip' tail ∧
      skip' ≤ 1 ∧ Part shift size total others
        (Claims.walk (Highlight.consider propose) part offset before skip text) whole' := by
  induction text generalizing offset before before' skip part whole with
  | nil =>
    have here : offset = size := by simpa using ends
    refine ⟨whole, before', skip, ?_, by simpa using bound, ?_⟩
    · rw [here, List.nil_append]
    · simpa only [Claims.walk] using related
  | cons c text ih =>
    have remains : offset + 1 + text.length = size := by
      simp only [List.length_cons] at ends
      omega
    have next := embeds.next.2
    rw [Nat.add_right_comm] at next
    have closedRest (beyond : tail ≠ []) : lexicon.Closed text := (closed beyond).tail
    cases skip with
    | succ skip =>
      simp only [List.cons_append, Claims.walk, Nat.add_right_comm offset shift 1]
      exact ih next closedRest remains (by simpa using bound) related
    | zero =>
      -- Both walks see the same proposal here, so they skip alike.
      have same := isLocal.embeds embeds (List.cons_ne_nil c text) closed
      obtain ⟨after, skips⟩ := related.consider bounded rfl same (List.cons_ne_nil c text) ends
      have skipBound := consider_skip_le bounded ⟨offset, before, c :: text⟩ part
      rw [List.cons_append] at after skips
      simp only [List.cons_append, Claims.walk, skips, Nat.add_right_comm offset shift 1]
      exact ih next closedRest remains skipBound after

/-- Two texts of `first` and `second` characters with a line break between them: what is accepted in the
whole is what is accepted in the one and in the other. -/
structure Joined (first second : Nat) (left right whole : Claims) : Prop where
  soundLeft : left.Sound first
  soundRight : right.Sound second
  soundWhole : whole.Sound (first + 1 + second)
  spans : whole.spans.Perm (left.spans ++ right.spans.map (Span.shift (first + 1)))

variable {first second : Nat} {left right : Claims}

theorem joined_empty (first second : Nat) : Joined first second .empty .empty .empty :=
  ⟨Claims.sound_empty _, Claims.sound_empty _, Claims.sound_empty _, .refl _⟩

theorem joined_iff_left : Joined first second left right whole ↔ right.Sound second ∧
    Part 0 first (first + 1 + second) (right.spans.map (Span.shift (first + 1))) left whole := by
  have same : left.spans.map (Span.shift 0) = left.spans := List.map_id _
  constructor
  · intro joined
    refine ⟨joined.soundRight, joined.soundLeft, joined.soundWhole, ?_, ?_, by omega⟩
    · rw [same]
      exact joined.spans
    · intro other member
      obtain ⟨span, _, rfl⟩ := List.mem_map.mp member
      simp only [Span.shift]
      omega
  · rintro ⟨sound, related⟩
    refine ⟨related.soundPart, sound, related.soundWhole, ?_⟩
    have spans := related.spans
    rwa [same] at spans

theorem joined_iff_right : Joined first second left right whole ↔ left.Sound first ∧
    Part (first + 1) second (first + 1 + second) left.spans right whole := by
  constructor
  · intro joined
    have spans := joined.spans.trans List.perm_append_comm
    refine ⟨joined.soundLeft, joined.soundRight, joined.soundWhole, spans, ?_, Nat.le_refl _⟩
    intro other member
    have := joined.soundLeft.inside other member
    omega
  · rintro ⟨sound, related⟩
    exact ⟨sound, related.soundPart, related.soundWhole, related.spans.trans List.perm_append_comm⟩

private theorem walk_newline (isLocal : propose.Local lexicon.Closed) {offset : Nat} {last : Option Char}
    (bound : skip ≤ 1) (text : List Char) :
    Claims.walk (consider propose) whole offset last skip ('\n' :: text) =
      Claims.walk (consider propose) whole (offset + 1) (some '\n') 0 text := by
  cases skip with
  | zero =>
    have nothing : propose ⟨offset, last, '\n' :: text⟩ = none := isLocal.newline rfl
    simp only [Claims.walk, consider, nothing]
  | succ skip =>
    obtain rfl : skip = 0 := by omega
    rfl

/-- A walk over a text with a line break is a walk over what stands before it and one over the rest. -/
theorem Joined.walkText (isLocal : propose.Local lexicon.Closed) (bounded : propose.Bounded)
    {a b : List Char} (closed : lexicon.Closed a) (joined : Joined a.length b.length left right whole) :
    Joined a.length b.length (left.walkText (consider propose) a) (right.walkText (consider propose) b)
      (whole.walkText (consider propose) (a ++ '\n' :: b)) := by
  obtain ⟨sound, related⟩ := joined_iff_left.mp joined
  have atStart : Cursor.Embeds 0 ('\n' :: b) ⟨0 + 0, none, a ++ '\n' :: b⟩ ⟨0, none, a⟩ :=
    ⟨rfl, .inl rfl, rfl, by simp⟩
  obtain ⟨whole', last, skip, walked, bound, after⟩ :=
    related.walk isLocal bounded atStart (fun _ => closed) (Nat.zero_add _) (Nat.zero_le _)
  -- Behind the line break the roles change: now the second text is the part, and the spans of the first
  -- one are those outside it.
  obtain ⟨soundLeft, related⟩ := joined_iff_right.mp (joined_iff_left.mpr ⟨sound, after⟩)
  have afterBreak : Cursor.Embeds (a.length + 1) [] ⟨0 + (a.length + 1), some '\n', b ++ []⟩ ⟨0, none, b⟩ :=
    ⟨rfl, .inr ⟨rfl, rfl⟩, rfl, by simp⟩
  obtain ⟨final, _, _, walkedRest, _, after⟩ :=
    related.walk isLocal bounded afterBreak (absurd rfl) (Nat.zero_add _) (Nat.zero_le _)
  have whole : whole.walkText (consider propose) (a ++ '\n' :: b) = final := by
    rw [walk_newline isLocal bound] at walked
    rw [List.append_nil, Nat.zero_add] at walkedRest
    exact walked.trans (walkedRest.trans (by rw [Claims.walk]))
  rw [whole]
  exact joined_iff_right.mpr ⟨soundLeft, after⟩

theorem Joined.walkAll (inLine : lexicon.inLine = true) {proposers : List Proposer}
    (listed : ∀ propose ∈ proposers, propose ∈ Highlight.proposers lexicon) {a b : List Char}
    (closed : lexicon.Closed a) (joined : Joined a.length b.length left right whole) :
    Joined a.length b.length (walkAll proposers a left) (walkAll proposers b right)
      (walkAll proposers (a ++ '\n' :: b) whole) := by
  induction proposers generalizing left right whole with
  | nil => exact joined
  | cons propose rest ih =>
    have member := listed propose (by simp)
    refine ih (fun other later => listed other (List.mem_cons_of_mem _ later)) ?_
    exact joined.walkText (local_of_mem_proposers inLine member) (bounded_of_mem_proposers member) closed

theorem Joined.sorted (joined : Joined first second left right whole) :
    whole.spans.mergeSort Span.precedes =
      left.spans.mergeSort Span.precedes ++
        (right.spans.mergeSort Span.precedes).map (Span.shift (first + 1)) := by
  have sorted : (left.spans.mergeSort Span.precedes ++
      (right.spans.mergeSort Span.precedes).map (Span.shift (first + 1))).Pairwise
        fun a b => a.stop ≤ b.start := by
    rw [List.pairwise_append, List.pairwise_map]
    refine ⟨joined.soundLeft.sorted, joined.soundRight.sorted.imp ?_, fun a leftMember b rightMember => ?_⟩
    · intro a b apart
      simp only [Span.stop, Span.shift] at apart ⊢
      omega
    · obtain ⟨span, _, rfl⟩ := List.mem_map.mp rightMember
      have := joined.soundLeft.inside a (List.mem_mergeSort.mp leftMember)
      simp only [Span.shift]
      omega
  have perm := (List.mergeSort_perm whole.spans Span.precedes).trans (joined.spans.trans
    ((List.mergeSort_perm left.spans Span.precedes).symm.append
      ((List.mergeSort_perm right.spans Span.precedes).symm.map (Span.shift (first + 1)))))
  refine perm.eq_of_pairwise (fun a b member _ ends begins => ?_) joined.soundWhole.sorted sorted
  have positive := joined.soundWhole.positive (List.mem_mergeSort.mp member)
  simp only [Span.stop] at ends begins
  omega

/-- The spans of two texts with a line break between them are those of the one and then those of the
other, in a language of a given name. -/
def JoinsAtLineBreak (name a b : String) : Prop :=
  analyze (some (a ++ "\n" ++ b)) (some name) =
    analyze (some a) (some name) ++ (analyze (some b) (some name)).map (Span.shift (a.length + 1))

private theorem joins_of_closed {name a : String} {lexicon : Lexicon}
    (found : (Language.parse? name).bind Lexicon.of? = some lexicon) (closed : lexicon.Closed a.toList)
    (b : String) : JoinsAtLineBreak name a b := by
  obtain ⟨language, parsed, known⟩ := Option.bind_eq_some_iff.mp found
  have analyzed (text : String) : analyze (some text) (some name) =
      (walkAll (proposers lexicon) text.toList .empty).spans.mergeSort Span.precedes := by
    simp only [analyze, analyzeAs, Option.bind_some, parsed, known, Option.getD_some, claimsOf_eq_walkAll]
  have joined := (joined_empty a.toList.length b.toList.length).walkAll (Lexicon.inLine_of_of? known)
    (fun _ listed => listed) closed
  have whole : (a ++ "\n" ++ b).toList = a.toList ++ '\n' :: b.toList := by simp
  rw [JoinsAtLineBreak, analyzed, analyzed, analyzed, whole, joined.sorted, String.length_toList]

private theorem closed_bat (text : List Char) : Lexicon.bat.Closed text where
  noBlockComment := by simp [Lexicon.bat]
  noBlockString := by simp [Lexicon.bat]
  noRawQuote := by simp [Lexicon.bat]
  noEscape := by simp [Lexicon.bat]

/-- Highlighting goes line by line: after a text in which nothing begins that may span lines, the rest is
highlighted as if it stood alone. In batch files that is after every text. -/
theorem analyze_append_line (name : String) :
    (∀ lexicon a b, (Language.parse? name).bind Lexicon.of? = some lexicon → lexicon.Closed a.toList →
      JoinsAtLineBreak name a b) ∧
    (Language.parse? name = some .bat → ∀ a b, JoinsAtLineBreak name a b) := by
  refine ⟨fun lexicon a b found closed => joins_of_closed found closed b, fun parsed a b => ?_⟩
  have found : (Language.parse? name).bind Lexicon.of? = some Lexicon.bat := by rw [parsed]; rfl
  exact joins_of_closed found (closed_bat _) b

/-- A string left open ends with its line, and the next line is read afresh. -/
theorem analyze_append_line_open_string :
    (Language.parse? "python").bind Lexicon.of? = some .python ∧ Language.parse? "bat" = some .bat ∧
      JoinsAtLineBreak "python" "x = 'one # two" "3 if y else \"" ∧
      JoinsAtLineBreak "bat" "echo \"" "rem \"" := by
  have python : (Language.parse? "python").bind Lexicon.of? = some .python := by decide +kernel
  have bat : Language.parse? "bat" = some .bat := by decide +kernel
  have closed : Lexicon.python.Closed "x = 'one # two".toList :=
    ⟨by simp [Lexicon.python], by simp [Lexicon.python]; decide, by simp [Lexicon.python], fun _ => by decide⟩
  exact ⟨python, bat, (analyze_append_line "python").1 _ _ _ python closed,
    (analyze_append_line "bat").2 bat _ _⟩

end Highlight
end Scriptlet
