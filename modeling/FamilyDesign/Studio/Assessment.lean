import FamilyDesign.Quality.Gateway
import FamilyDesign.Script.Emission

/-!
# Assessments

The verdict on a design together with its script. The report is the one on design and script; where
no script can be written for the design, it is the one on the design alone, and nothing is ready.
-/

namespace FamilyDesign

/-- The script of a design, if one can be written, and the report. -/
structure Assessment where
  script : Option Script.Emission
  report : Quality.Report

namespace Assessment

/-- Whether a design may be executed: it has a script, and the report is favourable. -/
def isReady (a : Assessment) : Bool := a.script.isSome && a.report.ready

/-- The assessment of a design at a moment. -/
def ofDesign (gateway : Quality.Gateway) (rules : List Script.Rule) (d : Design) (now : Instant) :
    Except NumberFault Assessment := do
  let before ← gateway.validate d none now
  match Script.emit rules d now with
  | .error (.structural _) => .ok ⟨none, before⟩
  | .error (.unbounded fault) => .error fault
  | .ok script => .ok ⟨some script, ← gateway.validate d (some script.code) now⟩

end Assessment

end FamilyDesign
