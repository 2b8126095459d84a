import FamilyDesign.Job.Record

/-!
# How a record moves

A record that is kept changes in three ways only: it is observed, it lapses, or it is cancelled.
What holds of all three is shown here once.

* **`Record.Moves`** — the relation between a record and the one that replaces it.
* **`Record.Moves.status_follows`** — the status stays or goes where `Status.canBecome` allows it.
* **`Record.Moves.id_eq`** — a record stays the record of its job.
-/

namespace FamilyDesign.Job

namespace Status

/-- A job can be cancelled just while it is submitted or in progress. -/
theorem isCancellable_iff {s : Status} :
    s.isCancellable = true ↔ s = submitted ∨ s = inProgress := by
  cases s <;> decide

/-- A job has come to an end just at a success, a failure and a cancellation. -/
theorem isTerminal_iff {s : Status} :
    s.isTerminal = true ↔ s = success ∨ s = failed ∨ s = cancelled := by
  cases s <;> decide

/-- The same job at a later time: at the same status, or at one that may follow. -/
def Follows (s t : Status) : Prop := t = s ∨ s.canBecome t = true

theorem Follows.refl (s : Status) : s.Follows s := Or.inl rfl

/-- Nothing but a cancellable status leads to a cancellation. -/
theorem canBecome_cancelled {s : Status} (h : s.isTerminal = false) :
    s.canBecome cancelled = true := by
  cases s with
  | submitted => rfl
  | inProgress => rfl
  | success => cases h
  | failed => cases h
  | cancelled => cases h

end Status

namespace Record

/-- Whatever word a service uses, the status stays or goes where it may. -/
theorem nextStatus_follows (current : Status) (raw : Text) :
    current.Follows (nextStatus current raw) := by
  unfold nextStatus
  -- an unknown word and a step that is not allowed leave the status as it is
  split
  · split
    · rename_i hcan
      exact Or.inr hcan
    · exact Or.inl rfl
  · exact Or.inl rfl

/-- The ways in which the record of a job that has not come to an end is replaced. -/
inductive Moves (r : Record) : Record → Prop
  | observed (o : Observation) (now : Instant) : Moves r (r.observe o now)
  | lapsed (now : Instant) : Moves r (r.lapse now)
  | cancelled (now : Instant) : Moves r (r.cancel now)

namespace Moves

variable {r r' : Record}

/-- A job that moves keeps its id. -/
theorem id_eq (h : r.Moves r') : r'.id = r.id := by
  cases h with
  | observed o now => rfl
  | lapsed now => rfl
  | cancelled now => rfl

/-- The status of an open job moves as statuses may. -/
theorem status_follows (h : r.Moves r') (hopen : r.status.isTerminal = false) :
    r.status.Follows r'.status := by
  cases h with
  | observed o now => exact nextStatus_follows r.status o.status
  | lapsed now => exact Status.Follows.refl r.status
  | cancelled now => exact Or.inr (Status.canBecome_cancelled hopen)

end Moves

end Record

end FamilyDesign.Job
