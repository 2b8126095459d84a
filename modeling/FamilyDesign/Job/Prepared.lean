import FamilyDesign.Job.Service

/-!
# Prepared services

A service that gives answers prepared beforehand, one for each call, and keeps a record of the
calls. When the answers to a kind of call are used up, the call fails.
-/

namespace FamilyDesign.Job

/-- An answer that a service may be prepared to give. -/
abbrev Answer (α : Type) := Except ServiceFault α

/-- The answers to come, by kind of call, and the calls received. -/
structure Prepared where
  submissions : List (Answer Submission) := []
  observations : List (Answer Observation) := []
  cancellations : List (Answer Unit) := []
  artifacts : List (Answer (List UInt8)) := []
  calls : List (Text × Json) := []

namespace Prepared

/-- The first of some answers, and the others. -/
def next {α : Type} : List (Answer α) → Answer α × List (Answer α)
  | [] => (.error (.failed "script exhausted" none), [])
  | answer :: rest => (answer, rest)

/-- The service with a call recorded. -/
def note (p : Prepared) (kind : Text) (argument : Json) : Prepared :=
  { p with calls := p.calls ++ [(kind, argument)] }

/-- Takes a job. -/
def submit (params : Json) : Call Prepared Submission := fun (outside, p) =>
  let (answer, submissions) := next p.submissions
  (answer, outside, { p.note "submit" params with submissions })

/-- Tells how a job stands. -/
def status (id : Text) : Call Prepared Observation := fun (outside, p) =>
  let (answer, observations) := next p.observations
  (answer, outside, { p.note "status" (.text id) with observations })

/-- Stops a job. -/
def cancel (id : Text) : Call Prepared Unit := fun (outside, p) =>
  let (answer, cancellations) := next p.cancellations
  (answer, outside, { p.note "cancel" (.text id) with cancellations })

/-- Hands out an artifact. -/
def fetch (id : Text) (_ : Option Locator) : Call Prepared (List UInt8) := fun (outside, p) =>
  let (answer, artifacts) := next p.artifacts
  (answer, outside, { p.note "fetch" (.text id) with artifacts })

/-- The service. -/
def service : Service Prepared := ⟨submit, status, cancel, fetch⟩

end Prepared

end FamilyDesign.Job
