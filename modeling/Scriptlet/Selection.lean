import Scriptlet.Config.Settings
import Scriptlet.Detection.Detector

/-!
What happens before a text runs: which language is suggested, and whether the user is asked for it.
-/
namespace Scriptlet

def SelectorMode.shows (mode : SelectorMode) (range : ConfidenceRange) (confidence : Binary64) : Bool :=
  match mode with
  | .alwaysShow => true
  | .showOnlyWhenNoConfidence => range.isLow confidence
  | .hideWhenHighConfidence => !range.isHigh confidence

structure LanguageChoice where
  suggested : Language
  confidence : Binary64
  showSelector : Bool
  confirm : Bool
  candidates : List Language
  deriving DecidableEq, Repr

def chooseLanguage (results : List Detection) (selector : SelectorSettings) (range : ConfidenceRange) :
    Except QueryError LanguageChoice :=
  match results with
  | [] => .error .noResults
  | top :: _ => .ok {
      suggested := top.language
      confidence := top.confidence
      showSelector := selector.mode.shows range top.confidence
      confirm := selector.confirm
      candidates := results.map (·.language) }

def Detection.describe (result : Detection) : String :=
  "DetectionResult(language='" ++ result.language.id ++ "', confidence=" ++ result.confidence.fixed 2 ++ ")"

end Scriptlet
