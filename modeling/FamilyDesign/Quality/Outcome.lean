import FamilyDesign.Json.Value

/-!
# Outcomes of quality checks

What one check finds in a design: issues and warnings in the order in which they were recorded,
details for the report, and the fault that ended the check early, if one did. Outcomes of parts
follow one another by `++`, and nothing follows a fault.
-/

namespace FamilyDesign.Quality

/-- How grave a finding is. -/
inductive Severity
  | issue
  | warning
deriving DecidableEq

/-- One finding: the key of its deduction, and its text. -/
structure Finding where
  severity : Severity
  key : Text
  message : Text

/-- What a check found. -/
structure Outcome where
  findings : List Finding := []
  details : Fields := []
  fault : Option Text := none

namespace Outcome

/-- Nothing found. -/
def clear : Outcome := {}

/-- An issue. -/
def issue (key message : Text) : Outcome := { findings := [⟨.issue, key, message⟩] }

/-- A warning. -/
def warning (key message : Text) : Outcome := { findings := [⟨.warning, key, message⟩] }

/-- A detail for the report. -/
def detail (key : Text) (v : Json) : Outcome := { details := [(key, v)] }

/-- The end of the check by a fault. -/
def faulty (message : Text) : Outcome := { fault := some message }

/-- One outcome after another. -/
def append (a b : Outcome) : Outcome :=
  if a.fault.isSome then a
  else ⟨a.findings ++ b.findings, a.details ++ b.details, b.fault⟩

instance : Append Outcome := ⟨append⟩

/-- Outcomes one after another. -/
def all (outcomes : List Outcome) : Outcome :=
  outcomes.foldr append clear

/-- An outcome if a condition holds. -/
def onlyIf (condition : Bool) (outcome : Outcome) : Outcome :=
  if condition then outcome else clear

/-- The outcome for the value of a computation; a fault ends the check. -/
def attempt {ε α : Type} (message : ε → Text) (computed : Except ε α) (next : α → Outcome) :
    Outcome :=
  match computed with
  | .ok v => next v
  | .error fault => faulty (message fault)

theorem append_of_fault {a : Outcome} (b : Outcome) (h : a.fault.isSome) : a ++ b = a := by
  change append a b = a
  simp [append, h]

theorem findings_append {a : Outcome} (b : Outcome) (h : a.fault = none) :
    (a ++ b).findings = a.findings ++ b.findings := by
  change (append a b).findings = _
  simp [append, h]

theorem fault_append {a : Outcome} (b : Outcome) (h : a.fault = none) :
    (a ++ b).fault = b.fault := by
  change (append a b).fault = _
  simp [append, h]

theorem clear_append (a : Outcome) : clear ++ a = a := by
  change append clear a = a
  simp [append, clear]

end Outcome

end FamilyDesign.Quality
