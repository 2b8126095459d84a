import FamilyDesign.Desk.Basic
import FamilyDesign.Job.Tracker
import FamilyDesign.Studio.Assessment

/-!
# Studios

A studio takes a family from a text to an artifact: a desk makes the design, an assessment gives it
a script and a report, and a tracker runs the job.
-/

namespace FamilyDesign

/-- Why a studio refuses. -/
inductive StudioFault
  | desk (fault : DeskFault)
  | unknownSession (id : Text)
  | noDesign (id : Text)
  | notReady (id : Text) (version : Nat)
  | number (fault : NumberFault)
  | tracker (fault : Job.TrackerFault)

/-- The wording of a studio's fault. -/
def StudioFault.message : StudioFault → Text
  | desk fault => fault.message
  | unknownSession id => "Unknown session: " ++ id
  | noDesign id => "No design in session " ++ id
  | notReady id version =>
    "Session " ++ id ++ " v" ++ Numeric.intText version
      ++ " has not passed QA; refine the design before executing"
  | number fault => fault.message
  | tracker fault => fault.message

/-- What a studio works with: the desk's tools, a service if there is one, the gateway and the rules
for scripts. -/
structure StudioTools (σ τ : Type) where
  desk : DeskTools σ := {}
  service : Option (Job.Service τ) := none
  gateway : Quality.Gateway := {}
  rules : List Script.Rule := Script.Rule.standard

/-- A desk and a tracker. -/
structure Studio (σ τ : Type) where
  desk : Desk σ
  tracker : Job.Tracker τ

/-- A draft and its assessment. -/
structure AssessedDraft where
  draft : Draft
  assessment : Assessment

namespace Studio

variable {σ τ : Type}

/-- The time. -/
def now (s : Studio σ τ) : Instant := s.tracker.outside.now

/-- The studio a number of seconds later. -/
def advance (s : Studio σ τ) (seconds : Scalar) : Except ClockFault (Studio σ τ) := do
  .ok { s with tracker := ← s.tracker.advance seconds }

/-- The session with an id. -/
def session (s : Studio σ τ) (id : Text) : Except StudioFault Session :=
  match s.desk.session? id with
  | some session => .ok session
  | none => .error (.unknownSession id)

/-- The session with an id and its current design. -/
def designed (s : Studio σ τ) (id : Text) : Except StudioFault (Session × Design) := do
  let session ← s.session id
  match session.design with
  | some design => .ok (session, design)
  | none => .error (.noDesign id)

end Studio

end FamilyDesign
