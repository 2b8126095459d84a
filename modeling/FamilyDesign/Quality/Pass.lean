import FamilyDesign.Design.Basic
import FamilyDesign.Quality.Deduction
import FamilyDesign.Quality.Outcome

/-!
# Quality passes

A pass is a named check of a design and its script. Running it turns the outcome of the check into a
scored verdict: the score starts at 100, every finding takes its points and the score never falls
below zero; a check that ends early fails with no points at all.
-/

namespace FamilyDesign.Quality

/-- A named check of a design and its script, if there is one. A critical pass decides whether a
design is ready; any other only advises. -/
structure Pass where
  name : Text
  description : Text
  critical : Bool := false
  check : Design → Option Text → Outcome

/-- What has been recorded of a check. It is passed until an issue is recorded; a warning only costs
points. -/
structure Tally where
  passed : Bool := true
  score : Int := 100
  issues : List Text := []
  warnings : List Text := []

/-- The verdict of one pass. -/
structure Verdict extends Tally where
  name : Text
  critical : Bool
  details : Fields

/-- The score after a deduction. -/
def deduct (deductions : Deductions) (score : Int) (f : Finding) : Int :=
  max 0 (score - deductions.points f.key)

namespace Tally

/-- The tally after a finding. -/
def record (deductions : Deductions) (t : Tally) (f : Finding) : Tally :=
  match f.severity with
  | .issue =>
    { t with
      issues := t.issues ++ [f.message]
      passed := false
      score := deduct deductions t.score f }
  | .warning =>
    { t with
      warnings := t.warnings ++ [f.message]
      score := deduct deductions t.score f }

/-- The tally after a fault, which is an issue that costs all points. -/
def fail (t : Tally) (message : Text) : Tally :=
  { t with
    issues := t.issues ++ [message]
    passed := false
    score := 0 }

end Tally

namespace Pass

/-- The issue that a check leaves behind which a fault ended. -/
def faultIssue (p : Pass) (fault : Text) : Text :=
  Text.capitalize p.name ++ " validation error: " ++ fault

/-- What is recorded of an outcome of the pass's check, finding by finding. -/
def tally (p : Pass) (deductions : Deductions) (outcome : Outcome) : Tally :=
  let recorded := outcome.findings.foldl (Tally.record deductions) {}
  match outcome.fault with
  | none => recorded
  | some fault => recorded.fail (p.faultIssue fault)

/-- The verdict on an outcome of the pass's check. -/
def verdict (p : Pass) (deductions : Deductions) (outcome : Outcome) : Verdict :=
  { p.tally deductions outcome with
    name := p.name
    critical := p.critical
    details := outcome.details }

/-- The verdict of the pass on a design and its script. -/
def run (p : Pass) (deductions : Deductions) (d : Design) (code : Option Text) : Verdict :=
  p.verdict deductions (p.check d code)

end Pass

end FamilyDesign.Quality
