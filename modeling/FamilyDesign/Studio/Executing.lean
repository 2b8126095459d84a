import FamilyDesign.Job.Order
import FamilyDesign.Studio.Basic

/-!
# Executing in a studio

A job is started for the current design of a session, and only if the latest report on it is
favourable. From then on the tracker answers for the job.
-/

namespace FamilyDesign.Studio

variable {σ τ α : Type}

/-- What a call of the tracker gives, and the studio after it. -/
def tracked (s : Studio σ τ) (answer : Except Job.TrackerFault α × Job.Tracker τ) :
    Except StudioFault α × Studio σ τ :=
  (answer.1.mapError .tracker, { s with tracker := answer.2 })

/-- The order for the current design of a session, if its latest report is favourable. -/
def order (s : Studio σ τ) (id : Text) : Except StudioFault (Session × Job.Order) := do
  let (session, design) ← s.designed id
  if session.report.any (·.ready) then
    let order ← (Job.Order.ofDesign design).mapError .number
    .ok (session, order)
  else .error (.notReady id session.version)

/-- The seconds that the script of a session is expected to run. -/
def expectedSeconds (session : Session) : Json :=
  Document.optional (fun script => .int script.summary.estimatedSeconds) session.script

/-- Starts a job for the current design of a session. -/
def execute (tools : StudioTools σ τ) (s : Studio σ τ) (id : Text) :
    Except StudioFault Job.Record × Studio σ τ :=
  match s.order id with
  | .error fault => (.error fault, s)
  | .ok (session, order) =>
    let asked := s.tracker.submit tools.service (.object order.write) (.text id)
      (expectedSeconds session)
    match asked with
    | (.error fault, tracker) => (.error (.tracker fault), { s with tracker })
    | (.ok record, tracker) =>
      (.ok record, { desk := s.desk.keep (session.withJob record.id record.createdAt), tracker })

/-- How a job stands. -/
def status (tools : StudioTools σ τ) (s : Studio σ τ) (job : Text) :
    Except StudioFault Job.StatusReport × Studio σ τ :=
  s.tracked (s.tracker.poll tools.service job)

/-- Cancels a job. -/
def cancel (tools : StudioTools σ τ) (s : Studio σ τ) (job : Text) :
    Except StudioFault Job.StatusReport × Studio σ τ :=
  s.tracked (s.tracker.cancel tools.service job)

/-- The artifact of a job. -/
def download (tools : StudioTools σ τ) (s : Studio σ τ) (job : Text) :
    Except StudioFault (List UInt8) × Studio σ τ :=
  s.tracked (s.tracker.fetch tools.service job)

/-- The jobs of a session. -/
def jobs (s : Studio σ τ) (id : Text) : List Job.Record := s.tracker.ofSession id

end FamilyDesign.Studio
