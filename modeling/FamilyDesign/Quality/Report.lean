import FamilyDesign.Clock.Instant
import FamilyDesign.Json.Number
import FamilyDesign.Quality.Suggestion

/-!
# Quality reports

The verdicts of all passes on one design, in the order of the passes, and what follows from them:
whether the design is ready, its mean score and the recommendations.
-/

namespace FamilyDesign.Quality

open Numeric (Binary64)

-- Sums start from the zero of the core library, whatever algebra is imported beside this module.
attribute [local instance (1100)] Zero.ofOfNat0

/-- The verdicts on one design, each under the name of its pass. -/
structure Report where
  familyName : Text
  category : Text
  lod : Option Int
  verdicts : Entries Verdict
  ready : Bool
  score : Binary64
  recommendations : List Recommendation
  timestamp : Instant

/-- The verdicts under the names of their passes; of two passes of one name the later counts. -/
def byName (verdicts : List Verdict) : Entries Verdict :=
  Entries.ofPairs (verdicts.map fun v => (v.name, v))

/-- The verdicts of critical passes. -/
def criticalVerdicts (verdicts : Entries Verdict) : List Verdict :=
  (verdicts.map (·.2)).filter (·.critical)

/-- Whether the verdicts make a design ready: there is a critical pass, and all of them pass. -/
def areReady (verdicts : Entries Verdict) : Bool :=
  !(criticalVerdicts verdicts).isEmpty && (criticalVerdicts verdicts).all (·.passed)

/-- The mean of some scores, 0 if there are none; a mean beyond every real number is a fault. -/
def meanScore (scores : List Int) : Except NumberFault Binary64 :=
  if scores.isEmpty then .ok 0
  else
    let mean := Binary64.ofQuotient scores.sum scores.length
    if mean.isFinite then .ok mean else .error .quotientTooLarge

namespace Report

/-- How many issues there are. -/
def issueCount (r : Report) : Nat := (r.verdicts.map fun (_, v) => v.issues.length).sum

/-- How many warnings there are. -/
def warningCount (r : Report) : Nat := (r.verdicts.map fun (_, v) => v.warnings.length).sum

/-- The passes that a design fails. -/
def failedPasses (r : Report) : List Text :=
  (r.verdicts.filter fun (_, v) => !v.passed).map (·.1)

/-- The report in one line. -/
def summary (r : Report) : Text :=
  (if r.ready then "READY" else "NOT READY") ++ ": score " ++ r.score.fixed 1 ++ "/100, "
    ++ s!"{r.issueCount} issues, {r.warningCount} warnings"

/-- How much better a later report is than an earlier one. -/
def improvement (earlier later : Report) : Binary64 := later.score - earlier.score

end Report

end FamilyDesign.Quality
