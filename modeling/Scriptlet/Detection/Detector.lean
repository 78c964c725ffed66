import Scriptlet.Detection.Feature
import Scriptlet.Number.Decimal

/-!
Ranking of languages for a text. A settled language takes the whole ranking; otherwise a score is
added up from the strong and the weak features of each language. Ties go by identifier.
-/
namespace Scriptlet

structure Detection where
  language : Language
  confidence : Binary64
  deriving DecidableEq, Repr

inductive QueryError where
  | noLanguages
  | duplicateLanguages
  | countNotPositive (count : Int)
  | noResults
  deriving DecidableEq, Repr

def QueryError.message : QueryError → String
  | .noLanguages => "At least one language must be supported"
  | .duplicateLanguages => "Supported languages must not contain duplicates"
  | .countNotPositive count => s!"count must be greater than 0, got {count}"
  | .noResults => "Detection results must not be empty"

/-- The languages that detection chooses from, in the order of reports that are not ranked. -/
structure Detector where
  languages : List Language
  languages_ne_nil : languages ≠ []
  languages_nodup : languages.Nodup

namespace Detection

private def hundredths (n : Nat) : Binary64 := .ofDecimal false n (-2)

def settledConfidence : Binary64 := hundredths 98

/-- The score of strong features by their number; more than four count as four. -/
def strongScores : List Binary64 := [.zero, hundredths 25, hundredths 55, hundredths 85, hundredths 92]

def strongScoreMax : Binary64 := hundredths 92

def weakScore : Binary64 := hundredths 8

def weakScoreMax : Binary64 := hundredths 35

def strongScoreOf (count : Nat) : Binary64 :=
  (strongScores.getD (min count 4) strongScoreMax).least strongScoreMax

def weakScoreOf (count : Nat) : Binary64 := (Binary64.ofInt count * weakScore).least weakScoreMax

def strongScore (language : Language) (code : List Char) : Binary64 :=
  strongScoreOf (strongMatches language code).length

def weakScoreIn (language : Language) (lowered : List Char) : Binary64 :=
  weakScoreOf (weakMatches language lowered).length

def featureScore (language : Language) (code : List Char) : Binary64 :=
  (strongScore language code + weakScoreIn language (Text.lower code)).least .one

def precedes (a b : Detection) : Bool :=
  b.confidence < a.confidence
    || (a.confidence.same b.confidence && a.language.id ≤ b.language.id)

def rank (languages : List Language) (confidence : Language → Binary64) : List Detection :=
  (languages.map fun language => ⟨language, confidence language⟩).mergeSort precedes

/-- The language that the text settles, among some languages: by its first line, or else by the first
marker it has. -/
def settled? (languages : List Language) (code : List Char) : Option Language :=
  ((shebangLanguage? code).filter languages.contains).or
    ((markers.find? fun (language, has) => languages.contains language && has code).map Prod.fst)

end Detection

namespace Detector
open Detection

def ofLanguages (languages : List Language) : Except QueryError Detector :=
  if nonempty : languages ≠ [] then
    if nodup : languages.Nodup then .ok ⟨languages, nonempty, nodup⟩
    else .error .duplicateLanguages
  else .error .noLanguages

def standard : Detector := ⟨Language.all, by decide, by decide⟩

def settledLanguage? (detector : Detector) (code : String) : Option Language :=
  if Text.isAllBlank code.toList then none else settled? detector.languages code.toList

/-- One result for each language, the most likely one first. No text and blank text give every
language confidence zero, in the order of the detector. -/
def detect (detector : Detector) (code : Option String) : List Detection :=
  let text := (code.getD "").toList
  if Text.isAllBlank text then detector.languages.map fun language => ⟨language, .zero⟩
  else match settled? detector.languages text with
    | some language =>
      rank detector.languages fun other => if other = language then settledConfidence else .zero
    | none => rank detector.languages fun language => featureScore language text

theorem detect_length (detector : Detector) (code : Option String) :
    (detector.detect code).length = detector.languages.length := by
  simp only [detect]
  split
  · simp
  · split <;> simp [rank]

theorem detect_ne_nil (detector : Detector) (code : Option String) : detector.detect code ≠ [] := by
  intro none
  have length := detector.detect_length code
  have nonempty := detector.languages_ne_nil
  rw [none] at length
  exact nonempty (List.eq_nil_of_length_eq_zero length.symm)

def detectTop (detector : Detector) (code : Option String) : Detection :=
  (detector.detect code).head (detector.detect_ne_nil code)

def detectTopN (detector : Detector) (code : Option String) (count : Int) :
    Except QueryError (List Detection) :=
  if 0 < count then .ok ((detector.detect code).take count.toNat)
  else .error (.countNotPositive count)

end Detector
end Scriptlet
