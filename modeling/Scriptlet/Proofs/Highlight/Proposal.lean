import Scriptlet.Highlight.Analysis
import Scriptlet.Proofs.Pattern.Match

/-!
The four passes as walks that only propose. What a pass proposes at a place depends on the text alone;
whether it is accepted, and how far the walk then skips, is settled in one way for all passes.
-/
namespace Scriptlet.Highlight
open Text (Cursor)

/-- A span proposed at a place, and how many of the characters after the first one are passed over. -/
structure Proposal where
  kind : TokenKind
  length : Nat
  /-- Whether nothing is proposed where the first character is covered already. -/
  onlyFree : Bool
  skipAccepted : Nat
  skipRefused : Nat

abbrev Proposer := Cursor → Option Proposal

def regionProposer (delimiters : Delimiters) (kind : TokenKind) (onlyFree : Bool) : Proposer := fun here =>
  if delimiters.opening.toList.isPrefixOf here.rest then
    let length := regionLength delimiters here.rest
    some ⟨kind, length, onlyFree, length - 1, length - 1⟩
  else none

def lineCommentProposer (opening : List Char) : Proposer := fun here =>
  if startsAnyCase opening here.rest then
    let length := (here.rest.takeWhile (· ≠ '\n')).length
    some ⟨.comment, length, false, length, 0⟩
  else none

def stringProposer (quote : Char) (escapes raw : Bool) : Proposer := fun here =>
  match here.rest with
  | [] => none
  | c :: rest =>
    if c = quote then
      let tail := stringTail quote escapes raw rest
      some ⟨.string, tail + 1, true, tail, 0⟩
    else none

def numberProposer : Proposer := fun here =>
  (Lexicon.number.matchEnd? here).map fun stop =>
    let length := stop.offset - here.offset
    ⟨.number, length, false, length - 1, length - 1⟩

def isKeywordAt (keyword : List Char) (anyCase : Bool) (here : Cursor) : Bool :=
  (if anyCase then startsAnyCase keyword here.rest else keyword.isPrefixOf here.rest)
    && !here.before.any Text.isWordChar && !(here.rest.drop keyword.length).head?.any Text.isWordChar

def keywordProposer (keyword : List Char) (anyCase : Bool) : Proposer := fun here =>
  if isKeywordAt keyword anyCase here then some ⟨.keyword, keyword.length, false, 0, 0⟩ else none

def consider (propose : Proposer) (here : Cursor) (claims : Claims) : Claims.Step :=
  match propose here with
  | none => ⟨claims, 0⟩
  | some proposal =>
    if proposal.onlyFree && claims.covers here.offset then ⟨claims, 0⟩
    else match claims.claim? here.offset proposal.length proposal.kind with
      | some more => ⟨more, proposal.skipAccepted⟩
      | none => ⟨claims, proposal.skipRefused⟩

theorem regionStep_eq (delimiters : Delimiters) (kind : TokenKind) (onlyFree : Bool) :
    regionStep delimiters kind onlyFree = consider (regionProposer delimiters kind onlyFree) := by
  funext here claims
  simp only [regionStep, consider, regionProposer, Claims.claim]
  by_cases opens : delimiters.opening.toList.isPrefixOf here.rest = true
  · simp only [opens, Bool.true_and, if_true]
    cases onlyFree && claims.covers here.offset with
    | true => rfl
    | false => cases accepted : claims.claim? here.offset (regionLength delimiters here.rest) kind <;> simp
  · simp [opens]

theorem lineCommentStep_eq (opening : List Char) :
    lineCommentStep opening = consider (lineCommentProposer opening) := by
  funext here claims
  simp only [lineCommentStep, consider, lineCommentProposer]
  split
  next => rfl
  next => rfl

theorem stringStep_eq (quote : Char) (escapes raw : Bool) :
    stringStep quote escapes raw = consider (stringProposer quote escapes raw) := by
  funext here claims
  simp only [stringStep, consider, stringProposer]
  cases here.rest with
  | nil => rfl
  | cons c rest =>
    by_cases opens : c = quote
    · simp only [opens, decide_true, Bool.true_and, if_true]
      cases claims.covers here.offset <;> rfl
    · simp [opens]

theorem numberStep_eq : numberStep = consider numberProposer := by
  funext here claims
  simp only [numberStep, consider, numberProposer, Claims.claim]
  cases Lexicon.number.matchEnd? here with
  | none => rfl
  | some stop =>
    simp only [Option.map_some, Bool.false_and, Bool.false_eq_true, if_false]
    cases accepted : claims.claim? here.offset (stop.offset - here.offset) .number <;> simp

theorem keywordStep_eq (keyword : List Char) (anyCase : Bool) :
    keywordStep keyword anyCase = consider (keywordProposer keyword anyCase) := by
  funext here claims
  change (if isKeywordAt keyword anyCase here = true then _ else _) = _
  simp only [consider, keywordProposer, Claims.claim]
  cases isKeywordAt keyword anyCase here with
  | false => rfl
  | true =>
    simp only [if_true, Bool.false_and, Bool.false_eq_true, if_false]
    cases claims.claim? here.offset keyword.length .keyword <;> rfl

def proposers (lexicon : Lexicon) : List Proposer :=
  lexicon.blockComment.toList.map (regionProposer · .comment false)
    ++ lexicon.lineComments.map (lineCommentProposer ·.toList)
    ++ lexicon.blockStrings.map (regionProposer · .string true)
    ++ lexicon.quotes.map (fun quote => stringProposer quote lexicon.escapes (lexicon.rawQuotes.contains quote))
    ++ [numberProposer]
    ++ lexicon.keywords.map (fun keyword => keywordProposer keyword.toList lexicon.keywordsAnyCase)

def walkAll (proposers : List Proposer) (code : List Char) (claims : Claims) : Claims :=
  proposers.foldl (fun claims propose => claims.walkText (consider propose) code) claims

theorem claimsOf_eq_walkAll (lexicon : Lexicon) (code : List Char) :
    claimsOf lexicon code = walkAll (proposers lexicon) code .empty := by
  simp only [claimsOf, keywordPass, numberPass, stringPass, commentPass, walkAll, proposers,
    List.foldl_append, List.foldl_map, List.foldl_cons, List.foldl_nil, regionStep_eq,
    lineCommentStep_eq, stringStep_eq, numberStep_eq, keywordStep_eq]
  cases lexicon.blockComment <;> rfl

/-- A proposer that never proposes more than there is, nor skips more. -/
def Proposer.Bounded (propose : Proposer) : Prop :=
  ∀ here proposal, propose here = some proposal → proposal.length ≤ here.rest.length ∧
    proposal.skipAccepted ≤ here.rest.length ∧ proposal.skipRefused ≤ here.rest.length

theorem indexOf?_add_length_le {needle text : List Char} {index : Nat}
    (found : Text.indexOf? needle text = some index) : index + needle.length ≤ text.length := by
  induction text generalizing index with
  | nil =>
    simp only [Text.indexOf?] at found
    split at found
    next empty => cases found; simpa using empty
    next => cases found
  | cons c rest ih =>
    simp only [Text.indexOf?] at found
    split at found
    next stands =>
      cases found
      have := (List.isPrefixOf_iff_prefix.mp stands).length_le
      omega
    next =>
      obtain ⟨inside, later, rfl⟩ := Option.map_eq_some_iff.mp found
      have := ih later
      simp only [List.length_cons]
      omega

theorem regionLength_le {delimiters : Delimiters} {text : List Char}
    (opens : delimiters.opening.toList <+: text) : regionLength delimiters text ≤ text.length := by
  simp only [regionLength]
  split
  next inside found =>
    have bound := indexOf?_add_length_le found
    have := opens.length_le
    simp only [String.length_toList, List.length_drop] at bound this
    omega
  next => exact Nat.le_refl _

theorem stringTail_le (quote : Char) (escapes raw : Bool) (text : List Char) :
    stringTail quote escapes raw text ≤ text.length := by
  fun_induction stringTail quote escapes raw text with
  | case1 => exact Nat.le_refl _
  | case2 => exact Nat.zero_le _
  | case3 => exact Nat.le_refl _
  | case4 c _ _ next later ih => simp only [List.length_cons]; omega
  | case5 => simp
  | case6 c rest _ _ _ ih => simp only [List.length_cons]; omega

theorem startsAnyCase_length_le {wanted text : List Char} (starts : startsAnyCase wanted text = true) :
    wanted.length ≤ text.length := by
  fun_induction startsAnyCase wanted text with
  | case1 => exact Nat.zero_le _
  | case2 => cases starts
  | case3 w wanted c text ih =>
    have := ih (Bool.and_eq_true_iff.mp starts).2
    simp only [List.length_cons]
    omega

theorem bounded_regionProposer (delimiters : Delimiters) (kind : TokenKind) (onlyFree : Bool) :
    Proposer.Bounded (regionProposer delimiters kind onlyFree) := by
  intro here proposal proposed
  simp only [regionProposer] at proposed
  split at proposed
  next opens =>
    cases proposed
    have := regionLength_le (List.isPrefixOf_iff_prefix.mp opens)
    dsimp only
    omega
  next => cases proposed

theorem bounded_lineCommentProposer (opening : List Char) :
    Proposer.Bounded (lineCommentProposer opening) := by
  intro here proposal proposed
  simp only [lineCommentProposer] at proposed
  split at proposed
  next =>
    cases proposed
    have := (here.rest.takeWhile_sublist (· ≠ '\n')).length_le
    exact ⟨this, this, Nat.zero_le _⟩
  next => cases proposed

theorem bounded_stringProposer (quote : Char) (escapes raw : Bool) :
    Proposer.Bounded (stringProposer quote escapes raw) := by
  intro here proposal proposed
  simp only [stringProposer] at proposed
  split at proposed
  next => cases proposed
  next c rest whole =>
    split at proposed
    next =>
      cases proposed
      have := stringTail_le quote escapes raw rest
      simp only [whole, List.length_cons]
      omega
    next => cases proposed

theorem bounded_numberProposer : Proposer.Bounded numberProposer := by
  intro here proposal proposed
  obtain ⟨stop, found, rfl⟩ := Option.map_eq_some_iff.mp proposed
  have := Pattern.matchEnd?_bounds found
  simp only [Cursor.stop] at this
  dsimp only
  omega

theorem isKeywordAt_length_le {keyword : List Char} {anyCase : Bool} {here : Cursor}
    (stands : isKeywordAt keyword anyCase here = true) : keyword.length ≤ here.rest.length := by
  simp only [isKeywordAt, Bool.and_eq_true] at stands
  have starts := stands.1.1
  split at starts
  · exact startsAnyCase_length_le starts
  · exact (List.isPrefixOf_iff_prefix.mp starts).length_le

theorem bounded_keywordProposer (keyword : List Char) (anyCase : Bool) :
    Proposer.Bounded (keywordProposer keyword anyCase) := by
  intro here proposal proposed
  simp only [keywordProposer] at proposed
  split at proposed
  next stands =>
    cases proposed
    exact ⟨isKeywordAt_length_le stands, Nat.zero_le _, Nat.zero_le _⟩
  next => cases proposed

/-- No pass ever reaches past the end of the text. -/
theorem bounded_of_mem_proposers {lexicon : Lexicon} {propose : Proposer}
    (member : propose ∈ proposers lexicon) : propose.Bounded := by
  simp only [proposers, List.mem_append, List.mem_map, List.mem_singleton] at member
  rcases member with ((((⟨_, _, rfl⟩ | ⟨_, _, rfl⟩) | ⟨_, _, rfl⟩) | ⟨_, _, rfl⟩) | rfl) | ⟨_, _, rfl⟩
  · exact bounded_regionProposer _ _ _
  · exact bounded_lineCommentProposer _
  · exact bounded_regionProposer _ _ _
  · exact bounded_stringProposer _ _ _
  · exact bounded_numberProposer
  · exact bounded_keywordProposer _ _

end Scriptlet.Highlight
