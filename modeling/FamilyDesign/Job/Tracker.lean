import FamilyDesign.Job.Simulator

/-!
# Tracking jobs

A tracker submits jobs to a service, if it has one, and keeps a record of each. Where the service
refuses a job, or there is no service, the job is simulated, and nothing but its mark tells. A job
is observed only when it is polled; polling a job that has come to an end changes nothing.
-/

namespace FamilyDesign.Job

open Numeric (Binary64)

/-- Why a tracker refuses. -/
inductive TrackerFault
  | unknownJob (id : Text)
  | notCancellable (id : Text) (status : Status)
  | noArtifact (id : Text) (status : Status)
  | unreachableArtifact (id : Text) (fault : ServiceFault)
  | service (fault : ServiceFault)
  | malformed (places : List Place)

/-- The wording of a tracker's fault. -/
def TrackerFault.message : TrackerFault → Text
  | unknownJob id => "Unknown job: " ++ id
  | notCancellable id status => "Cannot cancel job " ++ id ++ " in state " ++ status.name
  | noArtifact id status => "Job " ++ id ++ " is " ++ status.name ++ "; no artifact available"
  | unreachableArtifact id fault =>
    "Could not retrieve artifact for " ++ id ++ ": " ++ fault.message
  | service fault => fault.message
  | malformed places => Text.joinWith ", " (places.map (·.text))

/-- The jobs of a tracker with a service of state `σ`. -/
structure Tracker (σ : Type) where
  outside : Surroundings
  remote : σ
  simulator : Simulator := {}
  jobs : Store Record := {}

namespace Tracker

variable {σ α : Type}

/-- The seconds that a job of the service is expected to take if nothing else is said. -/
def standardSeconds : Binary64 := submittedWindow + inProgressWindow

/-- What a call of the service gives, and the tracker after it. -/
def call (t : Tracker σ) (c : Call σ α) : Except ServiceFault α × Tracker σ :=
  let (answer, outside, remote) := c.run (t.outside, t.remote)
  (answer, { t with outside, remote })

/-- The tracker with a record kept. -/
def keep (t : Tracker σ) (r : Record) : Tracker σ :=
  { t with jobs := t.jobs.put r.id r }

/-- A call that is granted. -/
def granted (x : α × Tracker σ) : Except TrackerFault α × Tracker σ := (.ok x.1, x.2)

/-- The record of a job. -/
def record (t : Tracker σ) (id : Text) : Except TrackerFault Record :=
  match t.jobs.get? id with
  | some r => .ok r
  | none => .error (.unknownJob id)

/-- The record of a job that has just been accepted, kept if what was asked for has the right
kinds. -/
def enroll (t : Tracker σ) (submission : Submission) (simulated : Bool) (params session : Json)
    (seconds : Checked Binary64) : Except TrackerFault Record × Tracker σ :=
  let record : Checked Record :=
    (fun session params seconds =>
        Record.ofSubmission submission session simulated params seconds t.outside.now)
      <$> (Document.asText session).under "session_id" <*> (Document.asFields params).under "params"
      <*> seconds.under "expected_seconds"
  match record with
  | .valid r => granted (r, t.keep r)
  | .invalid places => (.error (.malformed places), t)

/-- A job for the simulator. -/
def submitSimulated (t : Tracker σ) (params session : Json) :
    Except TrackerFault Record × Tracker σ :=
  let (answer, simulator, outside) := t.simulator.submit params t.outside
  let t := { t with simulator, outside }
  match answer with
  | .valid submission => t.enroll submission true params session (.valid simulator.duration)
  | .invalid places => (.error (.malformed places), t)

/-- The seconds that a job of the service is expected to take: as given, unless that is nothing. -/
def expectedOr (expected : Json) : Checked Binary64 :=
  if expected.isTrue then Document.asReal expected else .valid standardSeconds

/-- A new job. What is expected of it matters only once the service has taken it. -/
def submit (service : Option (Service σ)) (t : Tracker σ) (params session expected : Json) :
    Except TrackerFault Record × Tracker σ :=
  match service with
  | none => t.submitSimulated params session
  | some s =>
    match t.call (s.submit params) with
    | (.ok submission, t) => t.enroll submission false params session (expectedOr expected)
    | (.error fault, t) =>
      if fault.isRejection then t.submitSimulated params session else (.error (.service fault), t)

/-- How a job stands according to whoever runs it. -/
def observe (service : Option (Service σ)) (t : Tracker σ) (r : Record) :
    Except ServiceFault Observation × Tracker σ :=
  match service, r.simulated with
  | some s, false => t.call (s.status r.id)
  | _, _ => (t.simulator.status r.id t.outside.now, t)

/-- Asks whoever runs a job to stop it. -/
def stop (service : Option (Service σ)) (t : Tracker σ) (r : Record) :
    Except ServiceFault Unit × Tracker σ :=
  match service, r.simulated with
  | some s, false => t.call (s.cancel r.id)
  | _, _ =>
    match t.simulator.cancel r.id with
    | .ok simulator => (.ok (), { t with simulator })
    | .error fault => (.error fault, t)

/-- The artifact of a job from whoever runs it. -/
def fetchFrom (service : Option (Service σ)) (t : Tracker σ) (r : Record) :
    Except ServiceFault (List UInt8) × Tracker σ :=
  match service, r.simulated with
  | some s, false => t.call (s.fetch r.id r.locator)
  | _, _ => (t.simulator.fetch r.id, t)

/-- The report on a record that is kept from now on. -/
def keepAndReport (t : Tracker σ) (r : Record) : StatusReport × Tracker σ :=
  (r.report t.outside.now, t.keep r)

/-- Observes a job once, unless it has come to an end. A service that cannot be asked only marks the
record. -/
def poll (service : Option (Service σ)) (t : Tracker σ) (id : Text) :
    Except TrackerFault StatusReport × Tracker σ :=
  match t.record id with
  | .error fault => (.error fault, t)
  | .ok r =>
    if r.status.isTerminal then (.ok (r.report t.outside.now), t)
    else
      let now := t.outside.now
      match t.observe service r with
      | (.ok o, t) => granted (t.keepAndReport (r.observe o now))
      | (.error fault, t) =>
        if fault.isReported then granted (t.keepAndReport (r.lapse now))
        else (.error (.service fault), t)

/-- Cancels a job that has not come to an end, whether or not it can be stopped where it runs. -/
def cancel (service : Option (Service σ)) (t : Tracker σ) (id : Text) :
    Except TrackerFault StatusReport × Tracker σ :=
  match t.record id with
  | .error fault => (.error fault, t)
  | .ok r =>
    if r.status.isCancellable then
      match t.stop service r with
      | (.ok _, t) => granted (t.keepAndReport (r.cancel t.outside.now))
      | (.error fault, t) =>
        if fault.isReported then granted (t.keepAndReport (r.cancel t.outside.now))
        else (.error (.service fault), t)
    else (.error (.notCancellable id r.status), t)

/-- The artifact of a job that has succeeded. -/
def fetch (service : Option (Service σ)) (t : Tracker σ) (id : Text) :
    Except TrackerFault (List UInt8) × Tracker σ :=
  match t.record id with
  | .error fault => (.error fault, t)
  | .ok r =>
    if r.status = .success then
      match t.fetchFrom service r with
      | (.ok bytes, t) => (.ok bytes, t)
      | (.error fault, t) =>
        if fault.isReported then (.error (.unreachableArtifact id fault), t)
        else (.error (.service fault), t)
    else (.error (.noArtifact id r.status), t)

/-- The records of a session, the oldest first. -/
def ofSession (t : Tracker σ) (session : Text) : List Record :=
  (t.jobs.values.filter (·.session == session)).mergeSort
    fun a b => a.createdAt.micros ≤ b.createdAt.micros

/-- The tracker a number of seconds later. -/
def advance (t : Tracker σ) (seconds : Scalar) : Except ClockFault (Tracker σ) := do
  .ok { t with outside := ← t.outside.advance seconds }

end Tracker

end FamilyDesign.Job
