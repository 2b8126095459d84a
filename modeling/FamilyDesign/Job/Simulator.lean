import FamilyDesign.Job.Placeholder
import FamilyDesign.Store

/-!
# Simulated jobs

A stand-in for a service, whose jobs move on by the clock alone: submitted for a fifth of the
duration, then in progress, and done at its end unless cancelled before.
-/

namespace FamilyDesign.Job

open Numeric (Binary64)

/-- A simulated job. -/
structure SimulatedJob where
  params : Fields
  createdAt : Instant
  cancelled : Bool := false

/-- The simulated jobs, each of which takes `duration` seconds. -/
structure Simulator where
  duration : Binary64 := 15
  jobs : Store SimulatedJob := {}

namespace Simulator

/-- The observation of a job that is not cancelled after a number of seconds. -/
def schedule (duration elapsed : Binary64) : Observation :=
  if elapsed < duration * (3 / 15) then
    { status := "submitted", message := "Job submitted to the execution backend" }
  else if elapsed < duration * (8 / 15) then
    { status := "inprogress", message := "Creating family file..." }
  else if elapsed < duration then
    { status := "inprogress", message := "Finalizing family file..." }
  else { status := "success", message := "Family creation completed successfully" }

/-- The id of the job that gets an identifier. -/
def jobId (identifier : List CodePoint) : Text :=
  Text.ofList (("sim_" : Text).toList ++ identifier.take 12)

/-- Where the artifact of a simulated job is said to lie. -/
def locator (id : Text) : Locator := ⟨"simulated", id ++ ".rfa"⟩

/-- A new job: it is accepted whenever its parameters are fields. The identifier is used up
anyway. -/
def submit (s : Simulator) (params : Json) (outside : Surroundings) :
    Checked Submission × Simulator × Surroundings :=
  let (identifier, outside) := outside.issue
  let id := jobId identifier
  match (Document.asFields params).under "params" with
  | .valid params =>
    (.valid ⟨id, "submitted", some (locator id)⟩,
      { s with jobs := s.jobs.put id { params, createdAt := outside.now } }, outside)
  | .invalid places => (.invalid places, s, outside)

/-- The job with an id. -/
def job (s : Simulator) (id : Text) : Except ServiceFault SimulatedJob :=
  match s.jobs.get? id with
  | some job => .ok job
  | none => .error (.failed ("Unknown simulated job: " ++ id) none)

/-- The seconds since a job was submitted. -/
def elapsed (s : Simulator) (id : Text) (now : Instant) : Except ServiceFault Binary64 := do
  .ok (now.since (← s.job id).createdAt)

/-- How a job stands. -/
def status (s : Simulator) (id : Text) (now : Instant) : Except ServiceFault Observation := do
  let job ← s.job id
  if job.cancelled then
    .ok { status := "cancelled", message := "Family creation was cancelled" }
  else .ok (schedule s.duration (now.since job.createdAt))

/-- The jobs with one of them cancelled. -/
def cancel (s : Simulator) (id : Text) : Except ServiceFault Simulator := do
  let job ← s.job id
  .ok { s with jobs := s.jobs.put id { job with cancelled := true } }

/-- The placeholder artifact of a job. -/
def fetch (s : Simulator) (id : Text) : Except ServiceFault (List UInt8) := do
  placeholder (← s.job id).params

end Simulator

end FamilyDesign.Job
