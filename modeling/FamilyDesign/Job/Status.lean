import FamilyDesign.Text.Blank
import FamilyDesign.Text.Case
import FamilyDesign.Text.Search

/-!
# Statuses of jobs

A job is submitted, in progress, or at one of three ends, from which nothing leads away. Services
speak of statuses in words of their own, which are read into these.
-/

namespace FamilyDesign.Job

/-- The status of a job. -/
inductive Status
  | submitted
  | inProgress
  | success
  | failed
  | cancelled
deriving DecidableEq

namespace Status

/-- The name of a status. -/
def name : Status → Text
  | submitted => "submitted"
  | inProgress => "inprogress"
  | success => "success"
  | failed => "failed"
  | cancelled => "cancelled"

/-- All statuses. -/
def all : List Status := [submitted, inProgress, success, failed, cancelled]

/-- The status of a name. -/
def ofName? (s : Text) : Option Status :=
  all.find? (·.name == s)

/-- Whether a job at this status has come to an end. -/
def isTerminal : Status → Bool
  | submitted | inProgress => false
  | success | failed | cancelled => true

/-- Whether a job may go from one status to another. -/
def canBecome : Status → Status → Bool
  | submitted, target => target != submitted
  | inProgress, target => target.isTerminal
  | _, _ => false

/-- Whether a job at this status may be cancelled. -/
def isCancellable (s : Status) : Bool := !s.isTerminal

/-- What a job at this status is said to do. -/
def message : Status → Text
  | submitted => "Job is queued for processing..."
  | inProgress => "Family is being created..."
  | success => "Family creation completed successfully"
  | failed => "Family creation failed"
  | cancelled => "Family creation was cancelled"

/-- The words in lower case that services have for a status. -/
def words : Status → List Text
  | submitted => ["pending", "submitted", "queued"]
  | inProgress => ["inprogress", "in_progress", "running"]
  | success => ["success", "succeeded", "complete", "completed"]
  | failed => ["failed", "error"]
  | cancelled => ["cancelled", "canceled"]

/-- Whether a word in lower case stands for a status. For failure there is a word for each kind of
it, with what failed at its end. -/
def isMeantBy (s : Status) (word : Text) : Bool :=
  s.words.contains word
    || (s == failed && ("failed" : Text).toList.isPrefixOf word.toList)

/-- The status that the word of a service stands for, whatever the case and the blanks around it. -/
def ofWord? (raw : Text) : Option Status :=
  all.find? (·.isMeantBy (Text.lower (Text.strip raw)))

theorem canBecome_of_isTerminal {s : Status} (h : s.isTerminal = true) (t : Status) :
    s.canBecome t = false := by
  cases s <;> simp_all [isTerminal, canBecome]

end Status

end FamilyDesign.Job
