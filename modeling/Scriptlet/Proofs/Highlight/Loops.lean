import Scriptlet.Proofs.Highlight.Locality
import Scriptlet.Proofs.Highlight.Regions

/-!
The walks of the highlighter as loops that search. Each round looks for the next place from some place on and says
where the next round is to begin. That is always further on, also where nothing is closed and where everything is
refused, so a loop has at most as many rounds as the text has characters.
-/
namespace Scriptlet
open Text (Cursor FirstFrom)

namespace Highlight

def search (wanted : List Char → Bool) (code : List Char) (i : Nat) : Option Nat :=
  (List.range' i (code.length - i)).find? fun k => wanted (code.drop k)

def stringEnd (quote : Char) (escapes raw : Bool) (code : List Char) (start : Nat) : Nat :=
  start + 1 + stringTail quote escapes raw (code.drop (start + 1))

inductive Loop where
  | region (delimiters : Delimiters) (kind : TokenKind) (onlyFree : Bool)
  | lineComment (opening : List Char)
  | string (quote : Char) (escapes raw : Bool)
  | keyword (word : List Char) (anyCase : Bool)
  deriving DecidableEq

namespace Loop

def wanted : Loop → List Char → Bool
  | region delimiters _ _ => delimiters.opening.toList.isPrefixOf
  | lineComment opening => startsAnyCase opening
  | string quote _ _ => [quote].isPrefixOf
  | keyword word anyCase => if anyCase then startsAnyCase word else word.isPrefixOf

/-- What a loop makes of a place that it has found: where the search goes on, and with which claims. -/
def found (code : List Char) (claims : Claims) (start : Nat) : Loop → Nat × Claims
  | region delimiters kind onlyFree =>
    if onlyFree && claims.covers start then (start + 1, claims)
    else
      let stop := start + regionLength delimiters (code.drop start)
      (stop, claims.claim start (stop - start) kind)
  | lineComment _ =>
    let stop := Text.lineEnd code start
    match claims.claim? start (stop - start) .comment with
    | some more => (stop + 1, more)
    | none => (start + 1, claims)
  | string quote escapes raw =>
    if claims.covers start then (start + 1, claims)
    else
      let stop := stringEnd quote escapes raw code start
      match claims.claim? start (stop - start) .string with
      | some more => (stop, more)
      | none => (start + 1, claims)
  | keyword word anyCase =>
    (start + 1, if isKeywordAt word anyCase (Text.place code start) then claims.claim start word.length .keyword else claims)

/-- One round from a place on, or nothing if the search finds nothing more. -/
def round (loop : Loop) (code : List Char) (i : Nat) (claims : Claims) : Option (Nat × Claims) :=
  (search loop.wanted code i).map (loop.found code claims ·)

def step : Loop → Cursor → Claims → Claims.Step
  | region delimiters kind onlyFree => regionStep delimiters kind onlyFree
  | lineComment opening => lineCommentStep opening
  | string quote escapes raw => stringStep quote escapes raw
  | keyword word anyCase => keywordStep word anyCase

def run (code : List Char) (claims : Claims) (loop : Loop) : Claims := claims.walkText loop.step code

end Loop

/-- From a place on, a loop over a text of `size` characters ends after so many rounds. -/
inductive Rounds (round : Nat → Claims → Option (Nat × Claims)) (size : Nat) : Nat → Claims → Nat → Claims → Prop
  | past {i : Nat} {claims : Claims} (ends : size ≤ i) : Rounds round size i claims 0 claims
  | last {i : Nat} {claims : Claims} (inside : i < size) (nothing : round i claims = none) :
      Rounds round size i claims 1 claims
  | next {i j n : Nat} {claims more after : Claims} (inside : i < size) (found : round i claims = some (j, more))
      (later : Rounds round size j more n after) : Rounds round size i claims (n + 1) after

end Highlight

namespace Lexicon
open Highlight (Loop)

def commentLoops (lexicon : Lexicon) : List Loop :=
  lexicon.blockComment.toList.map (.region · .comment false) ++ lexicon.lineComments.map (.lineComment ·.toList)

def stringLoops (lexicon : Lexicon) : List Loop :=
  lexicon.blockStrings.map (.region · .string true)
    ++ lexicon.quotes.map fun quote => .string quote lexicon.escapes (lexicon.rawQuotes.contains quote)

def keywordLoops (lexicon : Lexicon) : List Loop :=
  lexicon.keywords.map fun keyword => .keyword keyword.toList lexicon.keywordsAnyCase

def loops (lexicon : Lexicon) : List Loop := lexicon.commentLoops ++ lexicon.stringLoops ++ lexicon.keywordLoops

end Lexicon

namespace Claims
variable {step : Cursor → Claims → Step} {code : List Char} {claims : Claims} {i k : Nat}

theorem walkFrom_of_idle (after : i ≤ k) (inside : k ≤ code.length)
    (idle : ∀ j, i ≤ j → j < k → step (Text.place code j) claims = ⟨claims, 0⟩) :
    walkFrom step code i claims = walkFrom step code k claims := by
  induction k, after using Nat.le_induction with
  | base => rfl
  | succ k after ih =>
    have earlier := ih (Nat.le_of_succ_le inside) fun j from_i before => idle j from_i (Nat.lt_succ_of_lt before)
    rw [earlier, walkFrom_of_lt inside, idle k after (Nat.lt_succ_self k)]
    rfl

end Claims

namespace Highlight
variable {code : List Char} {claims more after : Claims} {i j k n : Nat} {wanted : List Char → Bool} {loop : Loop}

private theorem lt_reach_iff (after : i ≤ k) : k < i + (code.length - i) ↔ k < code.length := by omega

theorem search_eq_some_iff : search wanted code i = some k ↔
    wanted (code.drop k) = true ∧ (i ≤ k ∧ k < code.length) ∧ ∀ j, i ≤ j → j < k → wanted (code.drop j) = false := by
  rw [search, List.find?_range'_eq_some, List.mem_range'_1]
  simp only [Bool.not_eq_eq_eq_not, Bool.not_true]
  exact and_congr_right' (and_congr_left' (and_congr_right lt_reach_iff))

theorem search_eq_none_iff :
    search wanted code i = none ↔ ∀ j, i ≤ j → j < code.length → wanted (code.drop j) = false := by
  rw [search, List.find?_range'_eq_none]
  simp only [Bool.not_eq_eq_eq_not, Bool.not_true]
  exact forall₂_congr fun j after => imp_congr_left (lt_reach_iff after)

theorem stringProposer_of_quote {quote : Char} (escapes raw : Bool) {later : List Char}
    (rest : code.drop k = quote :: later) :
    stringEnd quote escapes raw code k = k + 1 + stringTail quote escapes raw later ∧
      stringProposer quote escapes raw (Text.place code k) =
        some ⟨.string, stringEnd quote escapes raw code k - k, true, stringTail quote escapes raw later, 0⟩ := by
  have stop : stringEnd quote escapes raw code k = k + 1 + stringTail quote escapes raw later := by
    rw [stringEnd, ← List.tail_drop, rest, List.tail_cons]
  have length : stringEnd quote escapes raw code k - k = stringTail quote escapes raw later + 1 := by omega
  refine ⟨stop, ?_⟩
  rw [stringProposer, Text.place, rest, length]
  exact if_pos rfl

namespace Loop

/-- Whether what a loop looks for has a first character, if it goes on behind what it proposes. -/
def Advances : Loop → Prop
  | region delimiters _ _ => delimiters.opening.toList ≠ []
  | lineComment _ | string _ _ _ | keyword _ _ => True

theorem step_of_unwanted (loop : Loop) {here : Cursor} (other : loop.wanted here.rest = false) :
    loop.step here claims = ⟨claims, 0⟩ := by
  cases loop with
  | region delimiters kind onlyFree =>
    rw [wanted] at other
    rw [step, regionStep, other, Bool.false_and, if_neg Bool.false_ne_true]
  | lineComment opening =>
    rw [wanted] at other
    rw [step, lineCommentStep, other, if_neg Bool.false_ne_true]
  | string quote escapes raw =>
    rw [wanted] at other
    rw [step, stringStep]
    cases rest : here.rest with
    | nil => rfl
    | cons c later =>
      have differ : ¬ c = quote := by
        rintro rfl
        simp [rest] at other
      simp [differ]
  | keyword word anyCase =>
    have absent : isKeywordAt word anyCase here = false := by
      rw [wanted] at other
      cases anyCase <;> simp_all [isKeywordAt]
    rw [step, keywordStep_eq, consider_of_none]
    rw [keywordProposer, absent, if_neg Bool.false_ne_true]

theorem found_eq (advances : loop.Advances) (stands : loop.wanted (code.drop k) = true) :
    loop.found code claims k =
      (k + 1 + (loop.step (Text.place code k) claims).skip, (loop.step (Text.place code k) claims).claims) := by
  cases loop with
  | region delimiters kind onlyFree =>
    rw [wanted] at stands
    have positive := regionLength_pos advances (List.isPrefixOf_iff_prefix.mp stands)
    rw [found, step, regionStep, Text.place, stands, Bool.true_and]
    dsimp only
    cases onlyFree && claims.covers k with
    | true => rfl
    | false =>
      rw [if_neg Bool.false_ne_true, Bool.not_false, if_pos rfl, Nat.add_sub_cancel_left]
      exact Prod.ext (by dsimp only; omega) rfl
  | lineComment opening =>
    rw [wanted] at stands
    rw [found, step, lineCommentStep, Text.place, stands, if_pos rfl, Text.lineEnd, Nat.add_sub_cancel_left]
    dsimp only
    cases claims.claim? k ((code.drop k).takeWhile (· ≠ '\n')).length .comment with
    | some more => exact Prod.ext (Nat.add_right_comm _ _ _) rfl
    | none => rfl
  | string quote escapes raw =>
    rw [wanted, List.isPrefixOf_iff_prefix] at stands
    obtain ⟨later, rest⟩ := stands
    obtain ⟨stop, proposed⟩ := stringProposer_of_quote escapes raw rest.symm
    rw [found, step, stringStep_eq, consider, proposed, Text.place]
    dsimp only
    rw [Bool.true_and]
    cases claims.covers k with
    | true => rfl
    | false =>
      rw [if_neg Bool.false_ne_true, if_neg Bool.false_ne_true]
      cases claims.claim? k (stringEnd quote escapes raw code k - k) .string with
      | some more => exact Prod.ext stop rfl
      | none => rfl
  | keyword word anyCase =>
    rw [found, step, keywordStep_eq, consider, keywordProposer]
    cases isKeywordAt word anyCase (Text.place code k) with
    | false => rfl
    | true =>
      rw [if_pos rfl, if_pos rfl, Claims.claim, Text.place]
      dsimp only
      rw [Bool.false_and, if_neg Bool.false_ne_true]
      cases claims.claim? k word.length .keyword <;> rfl

theorem walkFrom_of_round {next : Nat} (advances : loop.Advances) (goes : loop.round code i claims = some (next, more)) :
    i < next ∧ Claims.walkFrom loop.step code i claims = Claims.walkFrom loop.step code next more := by
  obtain ⟨k, first, reached⟩ := Option.map_eq_some_iff.mp goes
  obtain ⟨stands, ⟨after, inside⟩, before⟩ := search_eq_some_iff.mp first
  rw [found_eq advances stands] at reached
  obtain ⟨rfl, rfl⟩ := Prod.mk.inj reached
  refine ⟨by omega, ?_⟩
  rw [Claims.walkFrom_of_idle after (Nat.le_of_lt inside), Claims.walkFrom_of_lt inside]
  exact fun j from_i to_k => step_of_unwanted loop (before j from_i to_k)

theorem walkFrom_of_no_round (inside : i ≤ code.length) (ends : loop.round code i claims = none) :
    Claims.walkFrom loop.step code i claims = claims := by
  have unwanted := search_eq_none_iff.mp (Option.map_eq_none_iff.mp ends)
  rw [Claims.walkFrom_of_idle inside (Nat.le_refl _), Claims.walkFrom_of_length_le (Nat.le_refl _)]
  exact fun j from_i to_end => step_of_unwanted loop (unwanted j from_i to_end)

theorem exists_rounds (advances : loop.Advances) (i : Nat) (claims : Claims) :
    ∃ n ≤ code.length - i,
      Rounds (loop.round code) code.length i claims n (Claims.walkFrom loop.step code i claims) := by
  -- By the number of characters that remain: a round leaves fewer, and the walk does the same with them.
  induction remains : code.length - i using Nat.strongRecOn generalizing i claims with
  | ind left ih =>
  by_cases inside : i < code.length
  case neg =>
    rw [Claims.walkFrom_of_length_le (Nat.not_lt.mp inside)]
    exact ⟨0, Nat.zero_le _, .past (Nat.not_lt.mp inside)⟩
  cases goes : loop.round code i claims with
  | none =>
    rw [walkFrom_of_no_round (Nat.le_of_lt inside) goes]
    exact ⟨1, by omega, .last inside goes⟩
  | some reached =>
    obtain ⟨next, more⟩ := reached
    obtain ⟨further, same⟩ := walkFrom_of_round advances goes
    obtain ⟨n, few, rounds⟩ := ih _ (by omega) next more rfl
    rw [same]
    exact ⟨n + 1, by omega, .next inside goes rounds⟩

end Loop

theorem stringEnd_bounds {start : Nat} (quote : Char) (escapes raw : Bool) (inside : start < code.length) :
    start < stringEnd quote escapes raw code start ∧ stringEnd quote escapes raw code start ≤ code.length := by
  have tail := stringTail_le quote escapes raw (code.drop (start + 1))
  rw [List.length_drop] at tail
  rw [stringEnd]
  omega

theorem claimsOf_eq_loops (lexicon : Lexicon) (code : List Char) : claimsOf lexicon code =
    lexicon.keywordLoops.foldl (Loop.run code)
      (numberPass code ((lexicon.commentLoops ++ lexicon.stringLoops).foldl (Loop.run code) .empty)) := by
  simp only [claimsOf, keywordPass, stringPass, commentPass, Lexicon.keywordLoops, Lexicon.commentLoops,
    Lexicon.stringLoops, List.foldl_append, List.foldl_map]
  cases lexicon.blockComment <;> rfl

end Highlight

open Highlight (Loop) in
theorem Lexicon.advances_of_mem_loops {language : Language} {lexicon : Lexicon} {loop : Loop}
    (known : Lexicon.of? language = some lexicon) (listed : loop ∈ lexicon.loops) : loop.Advances := by
  obtain ⟨blockComment, blockStrings, _⟩ := openings_of_inLine (inLine_of_of? known)
  simp only [loops, commentLoops, stringLoops, keywordLoops, List.mem_append, List.mem_map, Option.mem_toList] at listed
  rcases listed with ((⟨delimiters, own, rfl⟩ | ⟨_, _, rfl⟩) | ⟨delimiters, own, rfl⟩ | ⟨_, _, rfl⟩) | ⟨_, _, rfl⟩
  · exact blockComment delimiters own
  · trivial
  · exact blockStrings delimiters own
  · trivial
  · trivial

namespace Highlight

/-- The highlighter runs its loops and looks for numbers. Each round of a loop ends further on than it began, so a loop
has at most as many rounds as the text has characters, and what it has accepted then is what its walk accepts. -/
theorem loops_progress {language : Language} {lexicon : Lexicon} (known : Lexicon.of? language = some lexicon)
    (code : List Char) :
    (∀ loop ∈ lexicon.loops, ∀ claims : Claims,
      (∀ i next more, loop.round code i claims = some (next, more) → i < next) ∧
        ∃ n ≤ code.length, Rounds (loop.round code) code.length 0 claims n (loop.run code claims)) ∧
    (∀ quote escapes raw start, start < code.length →
      start < stringEnd quote escapes raw code start ∧ stringEnd quote escapes raw code start ≤ code.length) ∧
    claimsOf lexicon code = lexicon.keywordLoops.foldl (Loop.run code)
      (numberPass code ((lexicon.commentLoops ++ lexicon.stringLoops).foldl (Loop.run code) .empty)) := by
  refine ⟨fun loop listed claims => ?_, fun quote escapes raw start => stringEnd_bounds quote escapes raw,
    claimsOf_eq_loops lexicon code⟩
  have advances := Lexicon.advances_of_mem_loops known listed
  exact ⟨fun i next more goes => (Loop.walkFrom_of_round advances goes).1, Loop.exists_rounds advances 0 claims⟩

theorem loops_progress_unclosed :
    Loop.string '"' true false ∈ Lexicon.python.loops ∧
      (Loop.string '"' true false).round ['=', '"', '\\'] 0 .empty = some (3, ⟨[⟨1, 2, .string⟩], ⟨#[1], #[3]⟩⟩) ∧
      0 < 3 ∧ 1 < stringEnd '"' true false ['=', '"', '\\'] 1 ∧
      ∃ n ≤ 3, Rounds ((Loop.string '"' true false).round ['=', '"', '\\']) 3 0 .empty n
        (Loop.run ['=', '"', '\\'] .empty (.string '"' true false)) := by
  have listed : Loop.string '"' true false ∈ Lexicon.python.loops := by decide
  have goes : (Loop.string '"' true false).round ['=', '"', '\\'] 0 .empty =
      some (3, ⟨[⟨1, 2, .string⟩], ⟨#[1], #[3]⟩⟩) := by decide +kernel
  have known : Lexicon.of? .python = some .python := rfl
  obtain ⟨loops, ends, _⟩ := loops_progress known ['=', '"', '\\']
  obtain ⟨further, rounds⟩ := loops _ listed .empty
  exact ⟨listed, goes, further _ _ _ goes, (ends '"' true false 1 (by decide)).1, rounds⟩

end Highlight
end Scriptlet
