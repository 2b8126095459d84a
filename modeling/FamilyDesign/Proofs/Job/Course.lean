import FamilyDesign.Proofs.Job.Run

/-!
# The course of a job

A job runs its course whatever its service says, however time moves, and in whatever order a caller
submits, polls, cancels and fetches:

* **`final_run`** — once it has come to an end nothing changes its record any more.
* **`cancel_cancellable`**, **`cancel_ended`**, **`cancel_unreported`**, **`cancel_unknown`** — what
  a cancellation answers, in the four cases that there are, and **`exists_of_cancel`** — the case
  that an answer other than a fault tells of.
* **`keepsCourse`** — the headline: all of it, at every step of every run.
-/

namespace FamilyDesign.Job.Tracker

variable {σ : Type} {service : Option (Service σ)} {t : Tracker σ}

/-! ## One step -/

/-- A job is never lost, and its status stays or goes where it may. -/
theorem follows_perform (hfiled : t.Filed) {op : Operation} (hfresh : t.TakesFreshId service op)
    {id : Text} {r : Record} (hget : t.jobs.get? id = some r) :
    ∃ r', (t.perform service op).2.jobs.get? id = some r' ∧ r.status.Follows r'.status := by
  rcases (effect_perform service hfiled op).of_kept hfresh hget with
    hsame | ⟨r', hnew, hopen, hmoves⟩
  · exact ⟨r, hsame, Status.Follows.refl r.status⟩
  · exact ⟨r', hnew, hmoves.status_follows hopen⟩

/-- The record of a job that has come to an end is left alone. -/
theorem final_perform (hfiled : t.Filed) {op : Operation} (hfresh : t.TakesFreshId service op)
    {id : Text} {r : Record} (hget : t.jobs.get? id = some r) (hend : r.status.isTerminal = true) :
    (t.perform service op).2.jobs.get? id = some r := by
  rcases (effect_perform service hfiled op).of_kept hfresh hget with hsame | ⟨r', _, hopen, _⟩
  · exact hsame
  · rw [hend] at hopen
    cases hopen

/-- A call that is refused changes no record. -/
theorem refused_perform (hfiled : t.Filed) {op : Operation} {fault : TrackerFault}
    (hfault : (t.perform service op).1 = .error fault) :
    (t.perform service op).2.jobs = t.jobs := by
  have heffect := effect_perform service hfiled op
  rw [hfault] at heffect
  -- a refusal is the only effect that answers with a fault
  generalize (t.perform service op).2.jobs = jobs at heffect
  cases heffect with
  | refused => rfl

/-! ## Cancellation -/

/-- A job that may be cancelled is cancelled, if whoever runs it stops it or reports that it
cannot. -/
theorem cancel_cancellable {id : Text} {r : Record} (hget : t.jobs.get? id = some r)
    (hcan : r.status = .submitted ∨ r.status = .inProgress)
    (hstop : ∀ fault, (t.stop service r).1 = .error fault → fault.isReported = true) :
    ∃ now, (t.perform service (.cancel id)).1 = .ok (.reported ((r.cancel now).report now)) ∧
      (t.perform service (.cancel id)).2.jobs = t.jobs.put r.id (r.cancel now) := by
  have hjobs : (t.stop service r).2.jobs = t.jobs := jobs_stop r
  show ∃ now, (answering .reported (t.cancel service id)).1 = _ ∧
    (answering .reported (t.cancel service id)).2.jobs = _
  unfold cancel
  rw [record_ok_iff.mpr hget]
  dsimp only
  rw [if_pos (Status.isCancellable_iff.mpr hcan)]
  -- stopped or not, the same record is kept
  split
  · rename_i u heq
    rw [heq] at hjobs
    refine ⟨u.outside.now, rfl, ?_⟩
    rw [← hjobs]
    rfl
  · rename_i fault u heq
    rw [heq] at hjobs hstop
    rw [if_pos (hstop fault rfl)]
    refine ⟨u.outside.now, rfl, ?_⟩
    rw [← hjobs]
    rfl

/-- A job that has come to an end cannot be cancelled. -/
theorem cancel_ended {id : Text} {r : Record} (hget : t.jobs.get? id = some r)
    (hend : ¬(r.status = .submitted ∨ r.status = .inProgress)) :
    (t.perform service (.cancel id)).1 = .error (.notCancellable id r.status) := by
  show (answering .reported (t.cancel service id)).1 = _
  unfold cancel
  rw [record_ok_iff.mpr hget]
  dsimp only
  rw [if_neg ((not_congr Status.isCancellable_iff).mpr hend)]
  rfl

/-- A fault that is none of the service's own goes through to the caller. -/
theorem cancel_unreported {id : Text} {r : Record} (hget : t.jobs.get? id = some r)
    (hcan : r.status = .submitted ∨ r.status = .inProgress) {fault : ServiceFault}
    (hstop : (t.stop service r).1 = .error fault) (hfault : fault.isReported = false) :
    (t.perform service (.cancel id)).1 = .error (.service fault) := by
  show (answering .reported (t.cancel service id)).1 = _
  unfold cancel
  rw [record_ok_iff.mpr hget]
  dsimp only
  rw [if_pos (Status.isCancellable_iff.mpr hcan)]
  split
  · rename_i u heq
    rw [heq] at hstop
    cases hstop
  · rename_i fault' u heq
    rw [heq] at hstop
    cases hstop
    rw [if_neg (by simp [hfault])]
    rfl

/-- A job that is not kept cannot be cancelled. -/
theorem cancel_unknown {id : Text} (hget : t.jobs.get? id = none) :
    (t.perform service (.cancel id)).1 = .error (.unknownJob id) := by
  show (answering .reported (t.cancel service id)).1 = _
  unfold cancel record
  rw [hget]
  rfl

/-- A cancellation that is granted is one of a job that may be cancelled, and no other fault comes
in between. -/
theorem exists_of_cancel {id : Text} {response : Response}
    (h : (t.perform service (.cancel id)).1 = .ok response) :
    ∃ r, t.jobs.get? id = some r ∧ (r.status = .submitted ∨ r.status = .inProgress) ∧
      ∀ fault, (t.stop service r).1 = .error fault → fault.isReported = true := by
  cases hget : t.jobs.get? id with
  | none => cases (cancel_unknown hget).symm.trans h
  | some r =>
    have hcan : r.status = .submitted ∨ r.status = .inProgress := by
      refine not_not.mp fun hend => ?_
      cases (cancel_ended hget hend).symm.trans h
    refine ⟨r, rfl, hcan, fun fault hstop => ?_⟩
    cases hfault : fault.isReported with
    | true => rfl
    | false => cases (cancel_unreported hget hcan hstop hfault).symm.trans h

/-! ## Runs -/

/-- Once a job has come to an end its record stays as it is. Induction on the run, with one
operation that leaves the record alone at each step. -/
theorem final_run (hfiled : t.Filed) {ops : List Operation} (hfresh : t.NoIdReused service ops)
    {id : Text} {r : Record} (hget : t.jobs.get? id = some r) (hend : r.status.isTerminal = true) :
    (t.run service ops).jobs.get? id = some r := by
  induction ops generalizing t with
  | nil => exact hget
  | cons op ops ih =>
    exact ih (filed_perform service hfiled op) hfresh.2 (final_perform hfiled hfresh.1 hget hend)

/-- What an operation does to the jobs of a tracker, and what the operations after it leave. -/
structure KeepsCourse (service : Option (Service σ)) (t : Tracker σ) (op : Operation)
    (after : List Operation) : Prop where
  /-- The status of a job stays, or goes where it may. -/
  follows : ∀ id r, t.jobs.get? id = some r →
    ∃ r', (t.perform service op).2.jobs.get? id = some r' ∧
      (r'.status = r.status ∨ r.status.canBecome r'.status = true)
  /-- Nothing changes the record of a job that has come to an end. -/
  final : ∀ id r, t.jobs.get? id = some r →
    r.status = .success ∨ r.status = .failed ∨ r.status = .cancelled →
    (t.run service (op :: after)).jobs.get? id = some r
  /-- A call that is refused leaves every record as it was. -/
  refused : ∀ fault, (t.perform service op).1 = .error fault →
    (t.perform service op).2.jobs = t.jobs
  /-- A cancellation is granted just to the jobs that are submitted or in progress, whether they are
  stopped or the service reports that they cannot be. -/
  cancels : ∀ id r, op = .cancel id → t.jobs.get? id = some r →
    (∀ fault, (t.stop service r).1 = .error fault → fault.isReported = true) →
    if r.status = .submitted ∨ r.status = .inProgress then
      ∃ now, (t.perform service op).1 = .ok (.reported ((r.cancel now).report now)) ∧
        (t.perform service op).2.jobs.get? id = some (r.cancel now)
    else (t.perform service op).1 = .error (.notCancellable id r.status)
  /-- Whenever a cancellation is granted the job is cancelled: so it is reported, and so it is
  kept. -/
  cancelled : ∀ id response, op = .cancel id → (t.perform service op).1 = .ok response →
    ∃ report r, response = .reported report ∧ report.status = .cancelled ∧
      (t.perform service op).2.jobs.get? id = some r ∧ r.status = .cancelled
  /-- A fault of the stop that is none of the service's own is the only other answer. -/
  interrupted : ∀ id r fault, op = .cancel id → t.jobs.get? id = some r →
    (t.stop service r).1 = .error fault → fault.isReported = false →
    (t.perform service op).1 =
      .error (if r.status = .submitted ∨ r.status = .inProgress then .service fault
        else .notCancellable id r.status)

/-- **The course of a job.** At every step of every run, with any service and any clock, as long as
no submission is given the id of a job that is kept already. -/
theorem keepsCourse (service : Option (Service σ)) {t : Tracker σ} (hfiled : t.Filed)
    (before : List Operation) (op : Operation) (after : List Operation)
    (hfresh : t.NoIdReused service (before ++ op :: after)) :
    KeepsCourse service (t.run service before) op after := by
  have hfiled' : (t.run service before).Filed := filed_run service hfiled before
  obtain ⟨-, hrest⟩ := (noIdReused_append service t before (op :: after)).mp hfresh
  refine ⟨?follows, ?final, ?refused, ?cancels, ?cancelled, ?interrupted⟩
  case follows =>
    intro id r hget
    exact follows_perform hfiled' hrest.1 hget
  case final =>
    intro id r hget hend
    exact final_run hfiled' hrest hget (Status.isTerminal_iff.mpr hend)
  case refused =>
    intro fault hfault
    exact refused_perform hfiled' hfault
  case cancels =>
    intro id r hop hget hstop
    subst hop
    split
    · rename_i hcan
      obtain ⟨now, hanswer, hjobs⟩ := cancel_cancellable hget hcan hstop
      refine ⟨now, hanswer, ?_⟩
      rw [hjobs, hfiled' id r hget]
      exact Store.get?_put_self _ _ _
    · rename_i hend
      exact cancel_ended hget hend
  case cancelled =>
    intro id response hop hgranted
    subst hop
    obtain ⟨r, hget, hcan, hstop⟩ := exists_of_cancel hgranted
    obtain ⟨now, hanswer, hjobs⟩ := cancel_cancellable hget hcan hstop
    cases hgranted.symm.trans hanswer
    refine ⟨_, r.cancel now, rfl, rfl, ?_, rfl⟩
    rw [hjobs, hfiled' id r hget]
    exact Store.get?_put_self _ _ _
  case interrupted =>
    intro id r fault hop hget hstop hfault
    subst hop
    split
    · rename_i hcan
      exact cancel_unreported hget hcan hstop hfault
    · rename_i hend
      exact cancel_ended hget hend

/-- A simulated job that is submitted, cancelled, polled and fetched, with the clock put back. -/
theorem keepsCourse_simulated :
    vacant.NoIdReused none
        ([.submit (.object []) (.text "s") .null] ++
          .cancel "sim_000000010000" ::
            [.moveClock ⟨-1⟩, .poll "sim_000000010000", .fetch "sim_000000010000"]) ∧
      ((vacant.run none [.submit (.object []) (.text "s") .null]).jobs.get?
        "sim_000000010000").map (·.status) = some .submitted ∧
      KeepsCourse none (vacant.run none [.submit (.object []) (.text "s") .null])
        (.cancel "sim_000000010000")
        [.moveClock ⟨-1⟩, .poll "sim_000000010000", .fetch "sim_000000010000"] := by
  have hfresh : vacant.NoIdReused none
      ([.submit (.object []) (.text "s") .null] ++
        .cancel "sim_000000010000" ::
          [.moveClock ⟨-1⟩, .poll "sim_000000010000", .fetch "sim_000000010000"]) := by
    -- the submission finds no job at all, and the others are no submissions
    refine ⟨fun r _ => rfl, ?_, ?_, ?_, ?_, trivial⟩
    all_goals exact takesFreshId_of_not_submit (fun _ _ _ => Operation.noConfusion)
  exact ⟨hfresh, by decide +kernel, keepsCourse none (filed_of_empty rfl) _ _ _ hfresh⟩

end FamilyDesign.Job.Tracker
