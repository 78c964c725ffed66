import Scriptlet.Config.Sections
import Scriptlet.Proofs.Detection.Ranking

/-!
What detection reports for every text. The blank text, the settled language and the features all give each
language one confidence from zero to one, which depends on no other language of the detector, except that
only a language of the detector can be settled.
-/
namespace Scriptlet.Detection
variable {languages fewer : List Language} {code : List Char} {language : Language}

/-- What the constants of the scores are, all evaluated at once. -/
private structure ScoreConstants : Prop where
  strong : ∀ place < 5, (strongScores.getD place strongScoreMax).isUnsigned = true
  strongMax : strongScoreMax.isUnsigned = true
  weak : weakScore.isFinite = true ∧ Binary64.zero < weakScore
  weakMax : weakScoreMax.isUnsigned = true
  settled : settledConfidence.isUnsigned = true ∧ settledConfidence ≤ .one
  zero : Binary64.zero ≤ .one

private theorem scoreConstants : ScoreConstants := by
  constructor <;> decide +kernel

theorem isUnsigned_strongScoreOf (count : Nat) : (strongScoreOf count).isUnsigned = true := by
  have place : min count 4 < 5 := by omega
  exact Binary64.isUnsigned_least (scoreConstants.strong _ place) scoreConstants.strongMax

theorem isUnsigned_weakScoreOf (count : Nat) : (weakScoreOf count).isUnsigned = true := by
  have many : (Binary64.ofInt count).isUnsigned = true := by
    have plain : decide ((count : Int) < 0) = false := by simp
    rw [Binary64.ofInt, plain]
    exact Binary64.isUnsigned_ofDecimal _ _
  obtain ⟨finite, positive⟩ := scoreConstants.weak
  exact Binary64.isUnsigned_least (Binary64.isUnsigned_mul many finite positive) scoreConstants.weakMax

def IsConfidence (x : Binary64) : Prop := x.isUnsigned = true ∧ x ≤ .one

theorem isConfidence_zero : IsConfidence .zero := ⟨rfl, scoreConstants.zero⟩

theorem isConfidence_settled : IsConfidence settledConfidence := scoreConstants.settled

theorem isConfidence_featureScore (language : Language) (code : List Char) :
    IsConfidence (featureScore language code) := by
  have sum := Binary64.isUnsigned_add (isUnsigned_strongScoreOf (strongMatches language code).length)
    (isUnsigned_weakScoreOf (weakMatches language (Text.lower code)).length)
  have number := Binary64.ne_nan_of_isUnsigned sum
  exact ⟨Binary64.isUnsigned_least sum rfl, Binary64.least_le_right number (by decide)⟩

def confidenceIn (settled : Option Language) (code : List Char) (language : Language) : Binary64 :=
  match settled with
  | some known => if language = known then settledConfidence else .zero
  | none => featureScore language code

theorem isConfidence_confidenceIn (settled : Option Language) (code : List Char) (language : Language) :
    IsConfidence (confidenceIn settled code language) := by
  unfold confidenceIn
  split
  · split
    · exact isConfidence_settled
    · exact isConfidence_zero
  · exact isConfidence_featureScore language code

theorem confidenceIn_ne_nan (settled : Option Language) (code : List Char) (language : Language) :
    confidenceIn settled code language ≠ .nan :=
  Binary64.ne_nan_of_isUnsigned (isConfidence_confidenceIn settled code language).1

def toValue (result : Detection) : Value :=
  .map [(.text "language", .text result.language.id), (.text "confidence", .float result.confidence)]

private theorem readLanguage_id (language : Language) :
    Config.readLanguage (.text language.id) = .ok language := by
  cases language <;> rfl

theorem readResult_toValue {result : Detection} (confidence : IsConfidence result.confidence) :
    Config.readResult result.toValue = .ok result := by
  have key (name wanted : String) : (Value.text name).sameKey (.text wanted) = decide (name = wanted) := rfl
  obtain ⟨unsigned, bounded⟩ := confidence
  have notBelow : ¬ result.confidence < .zero := by
    have above := (Binary64.le_iff.mp (Binary64.zero_le_of_isUnsigned unsigned)).2.2
    exact fun below => absurd above (not_le.mpr (Binary64.lt_iff.mp below).2.2)
  simp [toValue, Config.readResult, Config.required, Value.lookup?, key, readLanguage_id,
    Config.readUnitFloat, Config.readFloat, bounded, notBelow, Config.Checked.both, Config.Checked.under,
    bind, Except.bind, Except.map]

private theorem find?_eq_of_imp {α : Type} {items : List α} {narrow wide : α → Bool}
    (within : ∀ item, narrow item = true → wide item = true)
    (kept : ∀ item, items.find? wide = some item → narrow item = true) :
    items.find? narrow = items.find? wide := by
  induction items with
  | nil => rfl
  | cons item items ih =>
    by_cases found : wide item = true
    · have first : (item :: items).find? wide = some item := List.find?_cons_of_pos found
      rw [first, List.find?_cons_of_pos (kept item first)]
    · have missed : ¬ narrow item = true := fun narrow => found (within item narrow)
      rw [List.find?_cons_of_neg found] at kept ⊢
      rw [List.find?_cons_of_neg missed]
      exact ih kept

theorem mem_of_settled? (settled : settled? languages code = some language) : language ∈ languages := by
  rw [settled?, Option.or_eq_some_iff] at settled
  rcases settled with shebang | ⟨_, marker⟩
  · simpa using (Option.filter_eq_some_iff.mp shebang).2
  · obtain ⟨⟨found, has⟩, first, rfl⟩ := Option.map_eq_some_iff.mp marker
    have both := List.find?_some first
    simp only [Bool.and_eq_true, List.contains_iff_mem] at both
    exact both.1

/-- Without some languages the same language is settled, unless it is one of those. -/
theorem settled?_of_subset (among : fewer ⊆ languages)
    (kept : ∀ language, settled? languages code = some language → language ∈ fewer) :
    settled? fewer code = settled? languages code := by
  have wider (language : Language) : fewer.contains language = true → languages.contains language = true := by
    simpa using @among language
  unfold settled? at kept ⊢
  cases shebang : (shebangLanguage? code).filter languages.contains with
  | some language =>
    rw [shebang] at kept
    have named := (Option.filter_eq_some_iff.mp shebang).1
    have same : (shebangLanguage? code).filter fewer.contains = some language :=
      Option.filter_eq_some_iff.mpr ⟨named, by simpa using kept language rfl⟩
    rw [same, Option.some_or, Option.some_or]
  | none =>
    rw [shebang] at kept
    have same : (shebangLanguage? code).filter fewer.contains = none := by
      rw [Option.filter_eq_none_iff] at shebang ⊢
      exact fun language named listed => shebang language named (wider language listed)
    rw [same, Option.none_or, Option.none_or]
    congr 1
    apply find?_eq_of_imp
    · rintro ⟨language, has⟩ both
      simp only [Bool.and_eq_true] at both ⊢
      exact ⟨wider language both.1, both.2⟩
    · rintro ⟨language, has⟩ found
      have marked := List.find?_some found
      simp only [Bool.and_eq_true] at marked ⊢
      refine ⟨?_, marked.2⟩
      simpa using kept language (by rw [Option.none_or, found]; rfl)

end Scriptlet.Detection

namespace Scriptlet.Detector
open Detection

variable {detector larger smaller : Detector} {code : Option String} {text : String}

theorem detect_of_blank (blank : ∀ text ∈ code, Text.isAllBlank text.toList = true) :
    detector.detect code = detector.languages.map fun language => ⟨language, .zero⟩ := by
  have all : Text.isAllBlank (code.getD "").toList = true := by
    cases code with
    | none => rfl
    | some text => exact blank text rfl
  rw [detect, if_pos all]

theorem detect_of_not_blank (marked : Text.isAllBlank text.toList = false) :
    detector.detect (some text) =
      rank detector.languages (confidenceIn (settled? detector.languages text.toList) text.toList) := by
  have notBlank : ¬ Text.isAllBlank ((some text).getD "").toList = true := by simpa using marked
  rw [detect, if_neg notBlank]
  cases settled : settled? detector.languages text.toList <;> simp only [Option.getD_some, settled] <;> rfl

/-- Either the text is blank, or the results are a ranking by confidences. -/
theorem detect_cases (detector : Detector) (code : Option String) :
    ((∀ text ∈ code, Text.isAllBlank text.toList = true) ∧
        detector.detect code = detector.languages.map fun language => ⟨language, .zero⟩) ∨
      ∃ confidence, (∀ language, IsConfidence (confidence language)) ∧
        detector.detect code = rank detector.languages confidence := by
  by_cases blank : ∀ text ∈ code, Text.isAllBlank text.toList = true
  · exact .inl ⟨blank, detect_of_blank blank⟩
  · push Not at blank
    obtain ⟨text, rfl, marked⟩ := blank
    exact .inr ⟨_, isConfidence_confidenceIn _ _, detect_of_not_blank (Bool.eq_false_of_not_eq_true marked)⟩

theorem map_language_detect (detector : Detector) (code : Option String) :
    ((detector.detect code).map Detection.language).Perm detector.languages := by
  rcases detector.detect_cases code with ⟨_, blank⟩ | ⟨confidence, _, ranked⟩
  · rw [blank, List.map_map]
    exact List.Perm.of_eq (List.map_id _)
  · rw [ranked]
    exact map_language_rank _ _

theorem isConfidence_of_mem_detect {result : Detection} (member : result ∈ detector.detect code) :
    IsConfidence result.confidence := by
  rcases detector.detect_cases code with ⟨_, blank⟩ | ⟨confidence, bounded, ranked⟩
  · rw [blank] at member
    obtain ⟨_, _, rfl⟩ := List.mem_map.mp member
    exact isConfidence_zero
  · rw [ranked] at member
    rw [(mem_rank.mp member).2]
    exact bounded _

private theorem detectTopN_of_pos (detector : Detector) (code : Option String) {count : Int}
    (positive : 1 ≤ count) : ∃ top, detector.detectTopN code count = .ok top ∧
      top <+: detector.detect code ∧ (top.length : Int) = min count detector.languages.length := by
  refine ⟨_, if_pos (by omega), List.take_prefix _ _, ?_⟩
  rw [List.length_take, detect_length]
  omega

/-- A detector of any languages has one result for each of them, with a confidence that passes the check on
results. Without any text but blanks they stand in the order of the languages with no confidence at all,
and otherwise each outranks the ones after it. The first of them are the likely ones. -/
theorem detect_ranks {languages : List Language} (nonempty : languages ≠ []) (nodup : languages.Nodup)
    (code : Option String) : ∃ detector, Detector.ofLanguages languages = .ok detector ∧
      ((detector.detect code).map Detection.language).Perm languages ∧
      (∀ result ∈ detector.detect code, Binary64.zero ≤ result.confidence ∧
        result.confidence ≤ Binary64.one ∧ Config.readResult result.toValue = .ok result) ∧
      ((∀ text ∈ code, Text.isAllBlank text.toList = true) →
        detector.detect code = languages.map fun language => ⟨language, .zero⟩) ∧
      ((∃ text ∈ code, Text.isAllBlank text.toList = false) →
        (detector.detect code).Pairwise Detection.Outranks) ∧
      (∀ count : Int, 1 ≤ count → ∃ top, detector.detectTopN code count = .ok top ∧
        top <+: detector.detect code ∧ (top.length : Int) = min count languages.length) ∧
      (detector.detect code).head? = some (detector.detectTop code) := by
  let detector : Detector := ⟨languages, nonempty, nodup⟩
  have made : Detector.ofLanguages languages = .ok detector := by
    rw [ofLanguages, dif_pos nonempty, dif_pos nodup]
  refine ⟨detector, made, detector.map_language_detect code, fun result member => ?_, detect_of_blank, ?_,
    fun count => detector.detectTopN_of_pos code, List.head?_eq_some_head _⟩
  · have confidence := isConfidence_of_mem_detect member
    exact ⟨Binary64.zero_le_of_isUnsigned confidence.1, confidence.2, readResult_toValue confidence⟩
  · rintro ⟨text, rfl, marked⟩
    rw [detect_of_not_blank marked]
    exact rank_pairwise nodup (confidenceIn_ne_nan _ _)

/-- Two languages without any feature in the text go by their identifiers. -/
theorem detect_ranks_equal_confidence : [Language.php, .javascript] ≠ [] ∧ [Language.php, .javascript].Nodup ∧
    ∃ detector, Detector.ofLanguages [.php, .javascript] = .ok detector ∧
      (detector.detect (some "x")).Pairwise Detection.Outranks := by
  refine ⟨by decide, by decide, ?_⟩
  obtain ⟨detector, made, _, _, _, ranked, _⟩ :=
    @detect_ranks [.php, .javascript] (by decide) (by decide) (some "x")
  exact ⟨detector, made, ranked ⟨"x", rfl, by decide⟩⟩

/-- A detector of fewer languages reports what one of more languages reports, without the other languages,
unless the text settles one of those. The order of the languages plays no part. -/
theorem detect_eq_filter (marked : Text.isAllBlank text.toList = false)
    (among : smaller.languages ⊆ larger.languages) :
    ((∀ language ∈ larger.settledLanguage? text, language ∈ smaller.languages) →
        smaller.detect (some text) =
          (larger.detect (some text)).filter fun result => result.language ∈ smaller.languages) ∧
      (larger.languages ⊆ smaller.languages → smaller.detect (some text) = larger.detect (some text)) := by
  have settles : larger.settledLanguage? text = settled? larger.languages text.toList := by
    rw [settledLanguage?, marked]
    rfl
  rw [settles]
  have restricts (kept : ∀ language ∈ settled? larger.languages text.toList, language ∈ smaller.languages) :
      smaller.detect (some text) =
        (larger.detect (some text)).filter fun result => result.language ∈ smaller.languages := by
    rw [detect_of_not_blank marked, detect_of_not_blank marked, settled?_of_subset among kept]
    exact rank_eq_filter larger.languages_nodup smaller.languages_nodup among (confidenceIn_ne_nan _ _)
  refine ⟨restricts, fun back => ?_⟩
  rw [restricts fun language settled => back (mem_of_settled? settled), List.filter_eq_self]
  intro result member
  have listed := (larger.map_language_detect (some text)).mem_iff.mp (List.mem_map_of_mem member)
  exact decide_eq_true (back listed)

/-- The first line names an interpreter of a language that neither detector has, and `package main` settles
one that both have. -/
theorem detect_eq_filter_shebang :
    let text := "#!/bin/sh\npackage main\n"
    let larger : Detector := ⟨[.go, .python, .lua], by decide, by decide⟩
    let smaller : Detector := ⟨[.lua, .go], by decide, by decide⟩
    Text.isAllBlank text.toList = false ∧ smaller.languages ⊆ larger.languages ∧
      (∀ language ∈ larger.settledLanguage? text, language ∈ smaller.languages) ∧
      smaller.detect (some text) =
        (larger.detect (some text)).filter fun result => result.language ∈ smaller.languages := by
  intro text larger smaller
  have kept : ∀ language ∈ larger.settledLanguage? text, language ∈ smaller.languages := by
    have settled : larger.settledLanguage? text = some .go := by decide +kernel
    intro language member
    rw [settled] at member
    cases member
    decide
  exact ⟨by decide, by decide, kept, (detect_eq_filter (by decide) (by decide)).1 kept⟩

end Scriptlet.Detector
