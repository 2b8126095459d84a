import FamilyDesign.Job.Status
import FamilyDesign.Json.Number

/-!
# Progress of jobs

Progress in per cent is derived from the status and the time that has passed: from 5 to 20 over the
first half minute, from 20 to 90 over the next two minutes, and 100 on success alone. It never falls
below what was reached before; a job that failed or was cancelled keeps what it had. What was
reached before may be any number, and an integer stays one where it decides. Where it is a real
number, as for every job that is kept, the progress is one too and nothing can go wrong
(`progressOf_real`).
-/

namespace FamilyDesign.Job

open Numeric (Binary64)

/-- The seconds over which a submitted job gains. -/
def submittedWindow : Binary64 := 30

/-- The seconds over which a job in progress gains. -/
def inProgressWindow : Binary64 := 120

/-- The progress of a job that has not succeeded, at most. -/
def progressCap : Binary64 := 90

/-- The progress by the time that has passed, where there is any. -/
def ramp? (status : Status) (elapsed : Binary64) : Option Binary64 :=
  match status with
  | .submitted =>
    let part := elapsed.smaller submittedWindow / submittedWindow
    some (5 + (20 - 5) * part)
  | .inProgress =>
    let part := ((elapsed - submittedWindow).larger 0).smaller inProgressWindow / inProgressWindow
    some (20 + (progressCap - 20) * part)
  | _ => none

/-- Progress that is never below what was reached before, nor above the cap, to one place. -/
def settle (reached last : Scalar) : Scalar :=
  ((reached.larger last).smaller (.real progressCap)).roundTo 1

/-- The progress of a job after a number of seconds, given the progress reached before. A job in
progress gains by the exact difference, which has to be in the range of real numbers. -/
def progressOf (status : Status) (elapsed last : Scalar) : Except NumberFault Scalar :=
  let since := (0 : Binary64).larger elapsed.nearest
  if status = .success then .ok (.real 100)
  else if status = .inProgress ∧ elapsed.isWhole ∧ since.isInfinite then .error .integerTooLarge
  else .ok (settle (((ramp? status since).map .real).getD last) last)

/-- The fault of progress reached before that is no number. A job that has come to an end compares
it with itself first, which texts and lists allow. -/
def lastFault (status : Status) (last : Json) : NumberFault :=
  if !status.isTerminal then .notCompared ">" last (.real 0)
  else if last.isSequence then .notCompared "<" (.real 0) last
  else .notCompared ">" last last

/-- The progress of a job where the seconds and the progress reached before may be any values. -/
def progressOfValues (status : Status) (elapsed last : Json) : Except NumberFault Scalar :=
  match elapsed.number?, last.number? with
  | none, _ => .error (.notCompared ">" elapsed (.real 0))
  | some e, some l => progressOf status e l
  | some e, none => do
    let reached ← progressOf status e (.real 0)
    if status = .success then .ok reached else .error (lastFault status last)

/-- The progress of a job after a number of seconds, given the progress reached before, to one
decimal place. -/
def progress (status : Status) (elapsed last : Binary64) : Binary64 :=
  if status = .success then 100
  else
    let reached := (ramp? status ((0 : Binary64).larger elapsed)).getD last
    ((reached.larger last).smaller progressCap).roundTo 1

/-- Among reals the progress is a real, and there always is one. -/
theorem progressOf_real (status : Status) (elapsed last : Binary64) :
    progressOf status (.real elapsed) (.real last)
      = .ok (.real (progress status elapsed last)) := by
  by_cases h : status = .success
  · simp [progressOf, progress, h]
  · cases hr : ramp? status ((0 : Binary64).larger elapsed) <;>
      simp [progressOf, progress, settle, h, hr, Scalar.nearest, Scalar.isWhole, Scalar.roundTo,
        Scalar.larger_real, Scalar.smaller_real]

end FamilyDesign.Job
