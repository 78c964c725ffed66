import Scriptlet.Proofs.Detection.Results
import Scriptlet.Proofs.Pattern.Lines
import Scriptlet.Proofs.Text.Sigma

/-!
Evidence for a language when lines are added. No feature is lost, so the scores of a language do not fall, and the
markers of a text stay, except that a batch file is told by its first line.
-/
namespace Scriptlet.Detection
variable {language : Language} {a b code part whole before behind : List Char} {strong weak : Nat}

structure Sustains (language : Language) (part whole : List Char) : Prop where
  strong : ∀ pattern ∈ strongFeatures language, pattern.occursIn part = true → pattern.occursIn whole = true
  count : (strongMatches language part).length ≤ (strongMatches language whole).length
  strongScore : strongScore language part ≤ strongScore language whole
  featureScore : featureScore language part ≤ featureScore language whole
  go : isGoMain part = true → isGoMain whole = true
  nim : isNim part = true → isNim whole = true

theorem ignoresNewline_of_mem_strongFeatures {pattern : Pattern} (listed : pattern ∈ strongFeatures language) :
    pattern.ignoresNewline = true := by
  have all : (strongFeatures language).all Pattern.ignoresNewline = true := by
    cases language <;> decide +kernel
  exact List.all_eq_true.mp all pattern listed

theorem hasNoSigma_of_mem_weakFeatures {keyword : String} (listed : keyword ∈ weakFeatures language) :
    Text.hasNoSigma keyword.toList = true := by
  have all : (weakFeatures language).all (Text.hasNoSigma ·.toList) = true := by
    cases language <;> decide +kernel
  exact List.all_eq_true.mp all keyword listed

theorem length_features_le (language : Language) :
    (strongFeatures language).length ≤ 6 ∧ (weakFeatures language).length ≤ 10 := by
  cases language <;> decide

theorem length_strongMatches (language : Language) (code : List Char) :
    (strongMatches language code).length = (strongFeatures language).countP (·.occursIn code) := by
  have some (entry : Pattern × Nat) :
      (if entry.1.occursIn code then some entry.2 else none).isSome = entry.1.occursIn code := by
    split <;> simp_all
  have patterns := List.zipIdx_map_fst 0 (strongFeatures language)
  rw [strongMatches, List.length_filterMap_eq_countP]
  conv_rhs => rw [← patterns, List.countP_map]
  simp only [some]
  rfl

def scoreOf (strong weak : Nat) : Binary64 := (strongScoreOf strong + weakScoreOf weak).least .one

theorem featureScore_eq (language : Language) (code : List Char) : featureScore language code =
    scoreOf (strongMatches language code).length (weakMatches language (Text.lower code)).length := rfl

theorem scoreOf_ne_nan (strong weak : Nat) : scoreOf strong weak ≠ .nan := by
  have sum := Binary64.isUnsigned_add (isUnsigned_strongScoreOf strong) (isUnsigned_weakScoreOf weak)
  exact Binary64.ne_nan_of_isUnsigned (Binary64.isUnsigned_least sum rfl)

private theorem strongScoreOf_steps : ∀ strong < 6, strongScoreOf strong ≤ strongScoreOf (strong + 1) := by
  decide +kernel

private theorem scoreOf_steps_strong : ∀ strong < 6, ∀ weak < 11, scoreOf strong weak ≤ scoreOf (strong + 1) weak := by
  decide +kernel

private theorem scoreOf_steps_weak : ∀ strong < 7, ∀ weak < 10, scoreOf strong weak ≤ scoreOf strong (weak + 1) := by
  decide +kernel

theorem scoreOf_le {strong' weak' : Nat} (strongLe : strong ≤ strong') (weakLe : weak ≤ weak')
    (strongBound : strong' ≤ 6) (weakBound : weak' ≤ 10) : scoreOf strong weak ≤ scoreOf strong' weak' := by
  have first : scoreOf strong weak ≤ scoreOf strong' weak :=
    Binary64.le_of_steps (f := (scoreOf · weak)) (scoreOf_ne_nan · weak) strongLe fun k less =>
      scoreOf_steps_strong k (by omega) weak (by omega)
  have second : scoreOf strong' weak ≤ scoreOf strong' weak' :=
    Binary64.le_of_steps (scoreOf_ne_nan strong') weakLe fun k less => scoreOf_steps_weak strong' (by omega) k (by omega)
  exact Binary64.le_trans first second

/-- Where no feature is lost, the scores do not fall. -/
theorem sustains_of_features
    (strong : ∀ pattern ∈ strongFeatures language, pattern.occursIn part = true → pattern.occursIn whole = true)
    (weak : ∀ keyword ∈ weakFeatures language, Text.occursIn keyword.toList (Text.lower part) = true →
      Text.occursIn keyword.toList (Text.lower whole) = true)
    (go : isGoMain part = true → isGoMain whole = true) (nim : isNim part = true → isNim whole = true) :
    Sustains language part whole := by
  have bounds := length_features_le language
  have count : (strongMatches language part).length ≤ (strongMatches language whole).length := by
    rw [length_strongMatches, length_strongMatches]
    exact List.countP_mono_left strong
  have strongBound : (strongMatches language whole).length ≤ 6 := by
    rw [length_strongMatches]
    exact Nat.le_trans List.countP_le_length bounds.1
  have weakCount : (weakMatches language (Text.lower part)).length ≤ (weakMatches language (Text.lower whole)).length := by
    rw [weakMatches, weakMatches, ← List.countP_eq_length_filter, ← List.countP_eq_length_filter]
    exact List.countP_mono_left weak
  have weakBound : (weakMatches language (Text.lower whole)).length ≤ 10 :=
    Nat.le_trans (List.length_filter_le _ _) bounds.2
  have numbers (count : Nat) : strongScoreOf count ≠ .nan := Binary64.ne_nan_of_isUnsigned (isUnsigned_strongScoreOf count)
  have score : featureScore language part ≤ featureScore language whole := by
    rw [featureScore_eq, featureScore_eq]
    exact scoreOf_le count weakCount strongBound weakBound
  exact {
    strong := strong
    count := count
    strongScore := Binary64.le_of_steps numbers count fun k less => strongScoreOf_steps k (by omega)
    featureScore := score
    go := go
    nim := nim }

theorem isNim_of_infix (inside : part <:+: whole) (nim : isNim part = true) : isNim whole = true := by
  have kept {needle : List Char} (occurs : Text.occursIn needle part = true) : Text.occursIn needle whole = true :=
    Text.occursIn_iff.mpr ((Text.occursIn_iff.mp occurs).trans inside)
  simp only [isNim, Bool.and_eq_true, Bool.or_eq_true] at nim ⊢
  exact ⟨⟨kept nim.1.1, kept nim.1.2⟩, nim.2.imp kept kept⟩

theorem occursIn_lower_of_part {keyword : String} (listed : keyword ∈ weakFeatures language)
    (occurs : Text.occursIn keyword.toList (Text.lower code) = true) :
    Text.occursIn keyword.toList (Text.lower (before ++ code ++ behind)) = true := by
  rw [Text.occursIn_iff] at occurs ⊢
  exact Text.infix_lower_of_part (hasNoSigma_of_mem_weakFeatures listed) occurs

/-- A text keeps the evidence in a part of it if all patterns that do not look for line feeds still occur. -/
theorem sustains_of_patterns
    (strong : ∀ pattern : Pattern, pattern.ignoresNewline = true → pattern.occursIn part = true →
      pattern.occursIn (before ++ part ++ behind) = true) : Sustains language part (before ++ part ++ behind) := by
  apply sustains_of_features
  · exact fun pattern listed => strong pattern (ignoresNewline_of_mem_strongFeatures listed)
  · exact fun keyword listed => occursIn_lower_of_part listed
  · exact strong mainPackage (by decide +kernel)
  · exact isNim_of_infix ⟨before, behind, rfl⟩

theorem isBatch_append (batch : isBatch code = true) : isBatch (code ++ behind) = true := by
  have noSigma : Text.hasNoSigma "rem ".toList = true := by decide +kernel
  have plain : "@echo off".toList.all Text.isPlain = true := by decide +kernel
  simp only [isBatch, Bool.or_eq_true, decide_eq_true_eq] at batch ⊢
  rcases batch with echo | rem
  · left
    have spelled := (Text.lower_eq_iff (List.all_eq_true.mp plain)).mp echo
    have length := congrArg List.length spelled
    rw [List.length_map, List.length_take] at length
    have nine : "@echo off".toList.length = 9 := by decide +kernel
    have long : 9 ≤ code.length := by omega
    rwa [List.take_append_of_le_length long]
  · right
    have starts : "rem ".toList <+: Text.lower (code.take 9) := List.prefix_iff_eq_take.mpr rem.symm
    have longer : "rem ".toList <+: Text.lower (code.take 9 ++ behind.take (9 - code.length)) :=
      Text.prefix_lower_of_prefix noSigma starts
    rw [← List.take_append] at longer
    exact (List.prefix_iff_eq_take.mp longer).symm

/-- Lines that are put behind a text or in front of it take no evidence for any language away: every strong feature
still matches, so that their number, the strong score and the whole score do not fall, and the markers of Go and Nim
stay. The marker of batch files stays if lines are put behind, and a weak feature in any longer text. -/
theorem evidence_sustained (language : Language) (a b : List Char) :
    Sustains language a (a ++ '\n' :: b) ∧ Sustains language b (a ++ '\n' :: b) ∧
      (isBatch a = true → isBatch (a ++ '\n' :: b) = true) ∧
      ∀ before code behind : List Char, ∀ keyword ∈ weakFeatures language,
        Text.occursIn keyword.toList (Text.lower code) = true →
          Text.occursIn keyword.toList (Text.lower (before ++ code ++ behind)) = true := by
  refine ⟨?first, ?second, isBatch_append, fun _ _ _ _ listed => occursIn_lower_of_part listed⟩
  case first =>
    have whole : a ++ '\n' :: b = [] ++ a ++ '\n' :: b := rfl
    rw [whole]
    exact sustains_of_patterns fun pattern ignores occurs => Pattern.occursIn_append_line ignores (.inl occurs)
  case second =>
    have whole : a ++ '\n' :: b = (a ++ ['\n']) ++ b ++ [] := by simp
    rw [whole]
    refine sustains_of_patterns fun pattern ignores occurs => ?_
    rw [← whole]
    exact Pattern.occursIn_append_line ignores (.inr occurs)

theorem evidence_sustained_batch :
    isBatch "rem x".toList = true ∧ isBatch "rem x\nset y=1".toList = true ∧
      "pause" ∈ weakFeatures .bat ∧ Text.occursIn "pause".toList (Text.lower "Pause".toList) = true ∧
      Text.occursIn "pause".toList (Text.lower "@Pause>nul".toList) = true := by
  have batch : isBatch "rem x".toList = true := by decide +kernel
  have listed : "pause" ∈ weakFeatures .bat := by decide
  have occurs : Text.occursIn "pause".toList (Text.lower "Pause".toList) = true := by decide +kernel
  obtain ⟨_, _, marker, weak⟩ := evidence_sustained .bat "rem x".toList "set y=1".toList
  have longer := weak "@".toList "Pause".toList ">nul".toList "pause" listed occurs
  exact ⟨batch, marker batch, listed, occurs, longer⟩

end Scriptlet.Detection
