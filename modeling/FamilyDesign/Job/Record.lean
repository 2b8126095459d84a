import FamilyDesign.Clock.Instant
import FamilyDesign.Document.Field
import FamilyDesign.Job.Progress
import FamilyDesign.Json.Limit

/-!
# Records of jobs

What a tracker knows about a job, and how each event changes it: a submission makes a record, an
observation moves it along, a lapse of the service only marks it, a cancellation ends it. A report
is what a caller is told.
-/

namespace FamilyDesign.Job

open Numeric (Binary64)

/-- Where the artifact of a finished job lies. -/
structure Locator where
  bucketKey : Text
  objectKey : Text
deriving DecidableEq

/-- What a service answers to an accepted submission. -/
structure Submission where
  id : Text
  status : Text
  locator : Option Locator

/-- What a service says about a job. -/
structure Observation where
  status : Text
  progress : Option Binary64 := none
  message : Text := ""
  reportUrl : Option Text := none

/-- What a tracker knows about a job. -/
structure Record where
  id : Text
  session : Text
  status : Status
  progress : Binary64
  message : Text
  simulated : Bool
  degraded : Bool := false
  params : Fields
  locator : Option Locator
  expectedSeconds : Binary64
  rawStatus : Text
  reportUrl : Option Text := none
  createdAt : Instant
  updatedAt : Instant
  lastChecked : Option Instant := none

/-- What a caller is told about a job. -/
structure StatusReport where
  id : Text
  status : Status
  progress : Binary64
  message : Text
  secondsRemaining : Binary64
  simulated : Bool
  degraded : Bool
  locator : Option Locator
  lastChecked : Option Instant

namespace Record

/-- The record of a job that a service has just accepted. -/
def ofSubmission (s : Submission) (session : Text) (simulated : Bool) (params : Fields)
    (expectedSeconds : Binary64) (now : Instant) : Record :=
  let status := (Status.ofWord? s.status).getD .submitted
  { id := s.id
    session
    status
    progress := Job.progress status 0 0
    message := status.message
    simulated
    params
    locator := s.locator
    expectedSeconds
    rawStatus := s.status
    createdAt := now
    updatedAt := now }

/-- The status after a word of a service: a status that may not follow, or is unknown, is
ignored. -/
def nextStatus (current : Status) (raw : Text) : Status :=
  match Status.ofWord? raw with
  | some target => if current.canBecome target then target else current
  | none => current

/-- The record after the service could not be asked. -/
def lapse (r : Record) (now : Instant) : Record :=
  { r with degraded := true, lastChecked := some now }

/-- The record after an observation. -/
def observe (r : Record) (o : Observation) (now : Instant) : Record :=
  let status := nextStatus r.status o.status
  { r with
    degraded := false
    lastChecked := some now
    rawStatus := o.status
    reportUrl := (o.reportUrl.filter (!·.isEmpty)).or r.reportUrl
    status
    progress := Job.progress status (now.since r.createdAt) r.progress
    message := if o.message.isEmpty then status.message else o.message
    updatedAt := now }

/-- The record of a job that is cancelled. -/
def cancel (r : Record) (now : Instant) : Record :=
  { r with status := .cancelled, message := Status.cancelled.message, updatedAt := now }

/-- The seconds that a job is still expected to take, to one decimal place. -/
def secondsRemaining (r : Record) (now : Instant) : Binary64 :=
  if r.status.isTerminal then 0
  else ((0 : Binary64).larger (r.expectedSeconds - now.since r.createdAt)).roundTo 1

/-- The report on a job; only a success tells where its artifact lies. -/
def report (r : Record) (now : Instant) : StatusReport where
  id := r.id
  status := r.status
  progress := r.progress
  message := r.message
  secondsRemaining := r.secondsRemaining now
  simulated := r.simulated
  degraded := r.degraded
  locator := if r.status = .success then r.locator else none
  lastChecked := r.lastChecked

end Record

/-! ## Documents -/

open Document

/-- A locator from the fields of an object. -/
def Locator.load (fields : Fields) : Checked Locator :=
  Locator.mk <$> required "bucket_key" asText fields <*> required "object_key" asText fields

/-- A submission from the fields of an object. -/
def Submission.load (fields : Fields) : Checked Submission :=
  Submission.mk <$> required "job_id" asText fields
    <*> (Name.same "status").load "pending" asText fields
    <*> (Name.same "locator").load none (asOptional (asRecord Locator.load)) fields

/-- An observation from the fields of an object. -/
def Observation.load (fields : Fields) : Checked Observation :=
  Observation.mk <$> required "status" asText fields
    <*> (Name.same "progress").load none (asOptional asReal) fields
    <*> (Name.same "message").load "" asText fields
    <*> (Name.same "report_url").load none (asOptional asText) fields

/-- The fields of a locator. -/
def Locator.write (l : Locator) : Json :=
  .object [("bucket_key", .text l.bucketKey), ("object_key", .text l.objectKey)]

/-- The fields of a submission. -/
def Submission.write (s : Submission) : Fields :=
  [("job_id", .text s.id), ("status", .text s.status),
    ("locator", optional Locator.write s.locator)]

/-- The fields of an observation. -/
def Observation.write (o : Observation) : Fields :=
  [("status", .text o.status), ("progress", optional .real o.progress),
    ("message", .text o.message), ("report_url", optional .text o.reportUrl)]

/-- A moment in a document. -/
def momentText (t : Instant) : Json := .text t.withZone

/-- The fields of a record. -/
def Record.write (r : Record) : Fields :=
  [("job_id", .text r.id), ("session_id", .text r.session), ("status", .text r.status.name),
    ("progress", .real r.progress), ("message", .text r.message), ("simulated", .bool r.simulated),
    ("degraded", .bool r.degraded), ("params", .object (dictionary r.params)),
    ("locator", optional Locator.write r.locator),
    ("expected_seconds", .real r.expectedSeconds), ("backend_status", .text r.rawStatus),
    ("report_url", optional .text r.reportUrl), ("created_at", momentText r.createdAt),
    ("updated_at", momentText r.updatedAt), ("last_checked", optional momentText r.lastChecked)]

/-- The fields of a record, if the values of its parameters can be written. -/
def Record.written (r : Record) : Except Limit Fields := Json.within (valuesOf r.params) r.write

/-- The fields of a report. -/
def StatusReport.write (r : StatusReport) : Fields :=
  [("job_id", .text r.id), ("status", .text r.status.name), ("progress", .real r.progress),
    ("message", .text r.message), ("estimated_time_remaining", .real r.secondsRemaining),
    ("simulated", .bool r.simulated), ("degraded", .bool r.degraded),
    ("result_locator", optional Locator.write r.locator),
    ("last_checked", optional momentText r.lastChecked)]

end FamilyDesign.Job
