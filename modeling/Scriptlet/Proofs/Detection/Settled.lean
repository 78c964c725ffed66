import Scriptlet.Proofs.Detection.Results

/-!
Languages that a text settles. The first line comes before the markers, the markers come in their order, only
languages of the detector count, and nothing else that the text says has a part in the results.
-/
namespace Scriptlet.Detection
variable {languages : List Language} {code : List Char} {language : Language}

end Scriptlet.Detection

namespace Scriptlet.Detector
open Detection

variable {detector : Detector} {language : Language} {text : String}

end Scriptlet.Detector
