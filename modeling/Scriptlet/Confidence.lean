import Scriptlet.Number.Binary64

/-!
Windows of confidence. A confidence below the window is low, above it high, and inside it, the bounds
included, in the middle.
-/
namespace Scriptlet

inductive ConfidenceLevel where
  | low
  | middle
  | high
  deriving DecidableEq, Repr

def ConfidenceLevel.name : ConfidenceLevel → String
  | .low => "low"
  | .middle => "middle"
  | .high => "high"

structure ConfidenceRange where
  lower : Binary64
  upper : Binary64
  deriving DecidableEq, Repr

namespace ConfidenceRange

def standard : ConfidenceRange := ⟨.ofDecimal false 7 (-1), .ofDecimal false 95 (-2)⟩

def isLow (range : ConfidenceRange) (confidence : Binary64) : Bool := confidence < range.lower

def isHigh (range : ConfidenceRange) (confidence : Binary64) : Bool := range.upper < confidence

def isMiddle (range : ConfidenceRange) (confidence : Binary64) : Bool :=
  range.lower ≤ confidence && confidence ≤ range.upper

def classify (range : ConfidenceRange) (confidence : Binary64) : ConfidenceLevel :=
  if range.isMiddle confidence then .middle
  else if range.isLow confidence then .low
  else .high

end ConfidenceRange
end Scriptlet
