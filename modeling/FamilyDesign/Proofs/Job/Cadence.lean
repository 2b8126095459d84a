import FamilyDesign.Proofs.Job.Schedule
import FamilyDesign.Proofs.WorkItem.Polling

/-!
# The cadence of polls

A tracker observes a job only when it is polled, and keeps what it saw. For a simulated job this
history leaves no trace: what a poll tells is fixed by the time since the submission and by the
duration, however often the job was polled before, and whatever was done to other jobs.

* **`Tracker.Undisturbed`** — the runs that this holds of: the clock never goes back, the job is not
  cancelled, and its id is given to no other job.
* **`Tracker.Keeps`** — an operation on other jobs leaves alone all that is known of this one;
  `keeps_perform` says so for every operation but a poll of the job itself.
* **`Tracker.OnCourse`** — the invariant: the record is the one that the schedule gives at some
  earlier moment.
* **`keepsCadence`** — the headline, for every run after a submission that the simulator took.
-/

namespace FamilyDesign.Job

open Numeric (Binary64)
open Numeric.Binary64

/-- A report that says of a job what the schedule does: all of it follows from the id, the duration
and the seconds since the submission. -/
structure StatusReport.OnSchedule (report : StatusReport) (id : Text)
    (duration elapsed : Binary64) : Prop where
  status : Status.ofWord? (Simulator.schedule duration elapsed).status = some report.status
  progress : report.progress = Job.progress report.status elapsed 0
  message : report.message = (Simulator.schedule duration elapsed).message
  remaining : report.secondsRemaining =
    if report.status.isTerminal then 0 else ((0 : Binary64).larger (duration - elapsed)).roundTo 1
  locator : report.locator =
    if report.status = .success then some (Simulator.locator id) else none

namespace Tracker

variable {σ : Type}

/-! ## Runs that leave a job to itself -/

/-- The id that a submission is given, if it gets as far as that. -/
def givenId (service : Option (Service σ)) (t : Tracker σ) (params : Json) : Option Text :=
  match service with
  | none => some (Simulator.jobId t.outside.issue.1)
  | some s =>
    match t.call (s.submit params) with
    | (.ok submission, _) => some submission.id
    | (.error fault, t) =>
      if fault.isRejection then some (Simulator.jobId t.outside.issue.1) else none

/-- Whether an operation neither cancels a job nor gives its id to another. -/
def Spares (service : Option (Service σ)) (t : Tracker σ) (id : Text) : Operation → Prop
  | .submit params _ _ => t.givenId service params ≠ some id
  | .cancel other => other ≠ id
  | .poll _ | .fetch _ | .moveClock _ => True

/-- Whether a run leaves a job to itself, and its clock never goes back. -/
def Undisturbed (service : Option (Service σ)) (t : Tracker σ) (id : Text) :
    List Operation → Prop
  | [] => True
  | op :: ops =>
    t.Spares service id op ∧ t.outside.now.micros ≤ (t.perform service op).2.outside.now.micros ∧
      Undisturbed service (t.perform service op).2 id ops

instance (service : Option (Service σ)) (t : Tracker σ) (id : Text) :
    (op : Operation) → Decidable (t.Spares service id op)
  | .submit params _ _ => inferInstanceAs (Decidable (t.givenId service params ≠ some id))
  | .cancel other => inferInstanceAs (Decidable (other ≠ id))
  | .poll _ | .fetch _ | .moveClock _ => inferInstanceAs (Decidable True)

instance decidableUndisturbed (service : Option (Service σ)) (id : Text) :
    (t : Tracker σ) → (ops : List Operation) → Decidable (t.Undisturbed service id ops)
  | _, [] => inferInstanceAs (Decidable True)
  | t, op :: ops =>
    have := decidableUndisturbed service id (t.perform service op).2 ops
    inferInstanceAs (Decidable (t.Spares service id op ∧
      t.outside.now.micros ≤ (t.perform service op).2.outside.now.micros ∧
      Undisturbed service (t.perform service op).2 id ops))

/-! ## What other operations leave alone -/

/-- All that is known of a job is the same in two trackers. -/
structure Keeps (t u : Tracker σ) (id : Text) : Prop where
  record : u.jobs.get? id = t.jobs.get? id
  job : u.simulator.jobs.get? id = t.simulator.jobs.get? id
  duration : u.simulator.duration = t.simulator.duration

namespace Keeps

variable {t u v : Tracker σ} {id : Text}

theorem refl (t : Tracker σ) (id : Text) : t.Keeps t id := ⟨rfl, rfl, rfl⟩

theorem trans (h : t.Keeps u id) (h' : u.Keeps v id) : t.Keeps v id :=
  ⟨h'.record.trans h.record, h'.job.trans h.job, h'.duration.trans h.duration⟩

end Keeps

variable {service : Option (Service σ)} {t : Tracker σ} {id : Text}

/-- A call to the service touches no job. -/
theorem keeps_call {α : Type} (c : Call σ α) : t.Keeps (t.call c).2 id := ⟨rfl, rfl, rfl⟩

theorem keeps_keep {r : Record} (hne : id ≠ r.id) : t.Keeps (t.keep r) id :=
  ⟨Store.get?_put_of_ne _ _ hne, rfl, rfl⟩

/-- Another job that is enrolled touches no job of this id. -/
theorem keeps_enroll {s : Submission} (hne : id ≠ s.id) (simulated : Bool) (params session : Json)
    (seconds : Checked Binary64) :
    t.Keeps (t.enroll s simulated params session seconds).2 id := by
  rcases enroll_cases t s simulated params session seconds with
    ⟨places, heq⟩ | ⟨session', params', seconds', -, -, -, heq⟩
  · rw [heq]
    exact .refl t id
  · rw [heq]
    exact keeps_keep hne

/-- The simulator puts a job under the id that it gives, whether the record is kept or not. -/
theorem keeps_submitSimulated (params session : Json)
    (hne : id ≠ Simulator.jobId t.outside.issue.1) :
    t.Keeps (t.submitSimulated params session).2 id := by
  unfold submitSimulated Simulator.submit
  dsimp only
  cases (Document.asFields params).under "params" with
  | valid fields =>
    refine Keeps.trans ?_ (keeps_enroll hne true params session _)
    exact ⟨rfl, Store.get?_put_of_ne _ _ hne, rfl⟩
  | invalid places => exact ⟨rfl, rfl, rfl⟩

/-- A submission touches only the job it is given the id of. -/
theorem keeps_submit (params session expected : Json) (hne : t.givenId service params ≠ some id) :
    t.Keeps (t.submit service params session expected).2 id := by
  unfold givenId at hne
  unfold submit
  cases service with
  | none => exact keeps_submitSimulated params session fun h => hne (congrArg some h.symm)
  | some s =>
    have hcall : t.Keeps (t.call (s.submit params)).2 id := keeps_call _
    dsimp only at hne ⊢
    split
    · next submission u heq =>
      rw [heq] at hcall hne
      exact hcall.trans (keeps_enroll (fun h => hne (congrArg some h.symm)) _ _ _ _)
    · next fault u heq =>
      rw [heq] at hcall hne
      dsimp only at hne
      split
      · -- Refused by the service, the job goes to the simulator, under an id of its own.
        next hrejection =>
        rw [if_pos hrejection] at hne
        exact hcall.trans (keeps_submitSimulated params session fun h => hne (congrArg some h.symm))
      · exact hcall

/-- An observation by itself keeps no record. -/
theorem keeps_observe (r : Record) : t.Keeps (t.observe service r).2 id := by
  unfold observe
  split
  · exact keeps_call _
  · exact .refl t id

/-- A cancellation of another job touches none of this id. -/
theorem keeps_stop {r : Record} (hne : id ≠ r.id) : t.Keeps (t.stop service r).2 id := by
  unfold stop
  split
  · exact keeps_call _
  · split
    · next simulator heq =>
      obtain ⟨job, -, hput⟩ := bind_eq_ok_iff.mp heq
      cases hput
      exact ⟨rfl, Store.get?_put_of_ne _ _ hne, rfl⟩
    · exact .refl t id

/-- A download by itself keeps no record. -/
theorem keeps_fetchFrom (r : Record) : t.Keeps (t.fetchFrom service r).2 id := by
  unfold fetchFrom
  split
  · exact keeps_call _
  · exact .refl t id

/-- A poll touches only the job that is polled. -/
theorem keeps_poll (hfiled : t.Filed) {other : Text} (hne : id ≠ other) :
    t.Keeps (t.poll service other).2 id := by
  unfold poll
  split
  · exact .refl t id
  · next r hrecord =>
    -- The record is filed under the id that was asked for, so keeping it touches that one alone.
    have hid : r.id = other := hfiled other r (record_ok_iff.mp hrecord)
    split
    · exact .refl t id
    · have hobserve : t.Keeps (t.observe service r).2 id := keeps_observe r
      dsimp only
      split
      · next o u heq =>
        rw [heq] at hobserve
        exact hobserve.trans (keeps_keep (by rwa [← hid] at hne))
      · next fault u heq =>
        rw [heq] at hobserve
        split
        · exact hobserve.trans (keeps_keep (by rwa [← hid] at hne))
        · exact hobserve

/-- A cancellation touches only the job that is cancelled. -/
theorem keeps_cancel (hfiled : t.Filed) {other : Text} (hne : id ≠ other) :
    t.Keeps (t.cancel service other).2 id := by
  unfold cancel
  split
  · exact .refl t id
  · next r hrecord =>
    have hid : r.id = other := hfiled other r (record_ok_iff.mp hrecord)
    rw [← hid] at hne
    split
    · have hstop : t.Keeps (t.stop service r).2 id := keeps_stop hne
      split
      · next u heq =>
        rw [heq] at hstop
        exact hstop.trans (keeps_keep hne)
      · next fault u heq =>
        rw [heq] at hstop
        split
        · exact hstop.trans (keeps_keep hne)
        · exact hstop
    · exact .refl t id

/-- A download touches no job. -/
theorem keeps_fetch (other : Text) : t.Keeps (t.fetch service other).2 id := by
  unfold fetch
  split
  · exact .refl t id
  · next r _ =>
    have hfetch : t.Keeps (t.fetchFrom service r).2 id := keeps_fetchFrom r
    split
    · split
      · next bytes u heq =>
        rw [heq] at hfetch
        exact hfetch
      · next fault u heq =>
        rw [heq] at hfetch
        split
        · exact hfetch
        · exact hfetch
    · exact .refl t id

/-- **Other operations leave a job alone.** -/
theorem keeps_perform (hfiled : t.Filed) {op : Operation} (hspares : t.Spares service id op)
    (hop : op ≠ .poll id) : t.Keeps (t.perform service op).2 id := by
  cases op with
  | submit params session expected => exact keeps_submit params session expected hspares
  | poll other => exact keeps_poll hfiled fun h => hop (congrArg Operation.poll h.symm)
  | cancel other => exact keeps_cancel hfiled fun h => hspares h.symm
  | fetch other => exact keeps_fetch other
  | moveClock moment => exact ⟨rfl, rfl, rfl⟩

end Tracker

/-! ## A record on its schedule -/

namespace Record

/-- The record of a job that the simulator took at a moment. -/
structure OfSimulated (r : Record) (id : Text) (start : Instant) (duration : Binary64) :
    Prop where
  id_eq : r.id = id
  simulated : r.simulated = true
  createdAt : r.createdAt = start
  expectedSeconds : r.expectedSeconds = duration
  locator : r.locator = some (Simulator.locator id)

/-- What the schedule has for a job, as it stands in its record. -/
structure StandsAt (r : Record) (duration elapsed : Binary64) : Prop where
  status : r.status = Simulator.statusAfter duration elapsed
  progress : r.progress = Job.progress r.status elapsed 0
  message : r.message = (Simulator.schedule duration elapsed).message

/-- When a job was last seen: never, or at some moment of the past. -/
inductive Seen (r : Record) (duration : Binary64) (start now : Instant) : Prop
  | never (hstatus : r.status = .submitted) (hprogress : r.progress = Job.progress .submitted 0 0)
  | atMoment (moment : Instant) (hnow : moment.micros ≤ now.micros)
      (hstands : r.StandsAt duration (moment.since start))

variable {r : Record} {id : Text} {duration : Binary64} {start now : Instant}

/-- What was seen by some moment was seen by every later one. -/
theorem Seen.mono {later : Instant} (h : r.Seen duration start now)
    (hle : now.micros ≤ later.micros) : r.Seen duration start later := by
  cases h with
  | never hstatus hprogress => exact .never hstatus hprogress
  | atMoment moment hnow hstands => exact .atMoment moment (Int.le_trans hnow hle) hstands

/-- However a job was last seen, its progress is that of an earlier moment, from which the status
may go where the schedule is now. -/
theorem Seen.earlier (h : r.Seen duration start now) (hstart : start.micros ≤ now.micros) :
    ∃ elapsed, elapsed ≤ now.since start ∧ r.progress = Job.progress r.status elapsed 0 ∧
      r.status.Follows (Simulator.statusAfter duration (now.since start)) := by
  -- A job never polled stands as at the moment it was submitted.
  cases h with
  | never hstatus hprogress =>
    refine ⟨0, ?_, ?_, ?_⟩
    · rw [← Instant.since_self start]
      exact Instant.since_le_since start hstart
    · rw [hstatus]
      exact hprogress
    · rw [hstatus]
      rcases Simulator.statusAfter_cases duration (now.since start) with
        ⟨heq, -⟩ | ⟨heq, -⟩ | ⟨heq, -⟩
      · exact Or.inl heq
      · exact Or.inr (by rw [heq]; rfl)
      · exact Or.inr (by rw [heq]; rfl)
  | atMoment moment hnow hstands =>
    have hle := Instant.since_le_since start hnow
    refine ⟨moment.since start, hle, hstands.progress, ?_⟩
    rw [hstands.status]
    exact Simulator.statusAfter_follows duration hle

/-- The word of the simulator for a new job is one for a submitted one. -/
theorem ofSubmission_submitted (locator : Option Locator) (id session : Text) (simulated : Bool)
    (params : Fields) (seconds : Binary64) (now : Instant) :
    (ofSubmission ⟨id, "submitted", locator⟩ session simulated params seconds now).status
        = .submitted ∧
      (ofSubmission ⟨id, "submitted", locator⟩ session simulated params seconds now).progress
        = Job.progress .submitted 0 0 := by
  unfold ofSubmission
  dsimp only
  rw [Simulator.ofWord?_submitted]
  exact ⟨rfl, rfl⟩

/-- A word for a status that may follow is taken up. -/
theorem nextStatus_of_follows {current target : Status} {raw : Text}
    (hraw : Status.ofWord? raw = some target) (hfollows : current.Follows target) :
    nextStatus current raw = target := by
  unfold nextStatus
  rw [hraw]
  dsimp only
  rcases hfollows with rfl | hcan
  · split
    · rfl
    · rfl
  · rw [if_pos hcan]

/-- A job that has not come to an end stands where the schedule is once it is observed, whenever it
was seen before. -/
theorem standsAt_observe (hof : r.OfSimulated id start duration)
    (hseen : r.Seen duration start now) (hstart : start.micros ≤ now.micros)
    (hopen : r.status.isTerminal = false) :
    (r.observe (Simulator.schedule duration (now.since start)) now).StandsAt duration
      (now.since start) := by
  -- The last look, if there was one, was earlier: the schedule has only gone on since.
  obtain ⟨elapsed, hle, hprogress, hfollows⟩ := hseen.earlier hstart
  have hstatus : nextStatus r.status (Simulator.schedule duration (now.since start)).status
      = Simulator.statusAfter duration (now.since start) :=
    nextStatus_of_follows (Simulator.ofWord?_schedule duration _) hfollows
  refine ⟨hstatus, ?_, ?_⟩
  · show Job.progress (nextStatus _ _) (now.since r.createdAt) r.progress = Job.progress
      (nextStatus _ _) _ 0
    rw [hstatus, hof.createdAt, hprogress]
    exact progress_carried hfollows hopen (Simulator.statusAfter_mem duration _) hle
  · show (if (Simulator.schedule duration (now.since start)).message.isEmpty then _ else _) = _
    rw [Simulator.message_schedule_ne_empty]
    rfl

/-- A job that has come to an end stands where the schedule is at every later moment. -/
theorem standsAt_of_isTerminal (hseen : r.Seen duration start now)
    (hend : r.status.isTerminal = true) : r.StandsAt duration (now.since start) := by
  cases hseen with
  | never hstatus hprogress =>
    rw [hstatus] at hend
    cases hend
  | atMoment moment hnow hstands =>
    -- The schedule itself ends only in success, and nothing follows that.
    have hsuccess : Simulator.statusAfter duration (moment.since start) = .success := by
      rcases Simulator.statusAfter_mem duration (moment.since start) with hopen | hsuccess
      · rw [hstands.status, hopen] at hend
        cases hend
      · exact hsuccess
    have hsuccess' : Simulator.statusAfter duration (now.since start) = .success := by
      have hfollows := Simulator.statusAfter_follows duration (Instant.since_le_since start hnow)
      rw [hsuccess] at hfollows
      rcases hfollows with heq | hcan
      · exact heq
      · cases hcan
    have hstatus : r.status = .success := hstands.status.trans hsuccess
    refine ⟨hstatus.trans hsuccess'.symm, ?_, ?_⟩
    · rw [hstands.progress, hstatus]
      unfold Job.progress
      rw [if_pos rfl, if_pos rfl]
    · rw [hstands.message, Simulator.message_schedule_of_success duration hsuccess,
        Simulator.message_schedule_of_success duration hsuccess']

/-- What is told of a record that stands where the schedule is. -/
theorem StandsAt.onSchedule (hof : r.OfSimulated id start duration)
    (hstands : r.StandsAt duration (now.since start)) :
    (r.report now).OnSchedule id duration (now.since start) where
  status := by
    rw [Simulator.ofWord?_schedule]
    exact congrArg some hstands.status.symm
  progress := hstands.progress
  message := hstands.message
  remaining := by
    show r.secondsRemaining now = _
    unfold secondsRemaining
    rw [hof.createdAt, hof.expectedSeconds]
    rfl
  locator := by
    show (if r.status = .success then r.locator else none) = _
    rw [hof.locator]
    rfl

end Record

/-! ## The invariant -/

namespace Tracker

variable {σ : Type} {service : Option (Service σ)} {t : Tracker σ} {id : Text} {start : Instant}
  {duration : Binary64}

/-- A job that the simulator took at a moment, and that was left to itself since. -/
structure OnCourse (t : Tracker σ) (id : Text) (start : Instant) (duration : Binary64) :
    Prop where
  lasts : t.simulator.duration = duration
  begun : start.micros ≤ t.outside.now.micros
  job : ∃ params, t.simulator.jobs.get? id = some { params, createdAt := start }
  record : ∃ r, t.jobs.get? id = some r ∧ r.OfSimulated id start duration ∧
    r.Seen duration start t.outside.now

/-- A job stays on course while it is kept and the clock does not go back. -/
theorem OnCourse.of_keeps {u : Tracker σ} (h : t.OnCourse id start duration) (hkeeps : t.Keeps u id)
    (hclock : t.outside.now.micros ≤ u.outside.now.micros) : u.OnCourse id start duration := by
  obtain ⟨r, hget, hof, hseen⟩ := h.record
  refine ⟨hkeeps.duration.trans h.lasts, Int.le_trans h.begun hclock, ?_, ?_⟩
  · rw [hkeeps.job]
    exact h.job
  · rw [hkeeps.record]
    exact ⟨r, hget, hof, hseen.mono hclock⟩

/-- A submission that the simulator takes puts its job on course. -/
theorem onCourse_submitSimulated {params session : Json} {r : Record}
    (h : (t.submitSimulated params session).1 = .ok r) :
    (t.submitSimulated params session).2.OnCourse r.id
      (t.submitSimulated params session).2.outside.now t.simulator.duration := by
  unfold submitSimulated Simulator.submit at h ⊢
  dsimp only at h ⊢
  -- Parameters that are no object are refused before a job is kept.
  cases hfields : (Document.asFields params).under "params" with
  | invalid places =>
    rw [hfields] at h
    cases h
  | valid fields =>
    rw [hfields] at h
    dsimp only at h ⊢
    rcases enroll_cases _ _ true params session (.valid t.simulator.duration) with
      ⟨places, heq⟩ | ⟨session', params', seconds, -, -, hseconds, heq⟩
    · rw [heq] at h
      cases h
    · rw [heq] at h ⊢
      cases hseconds
      cases h
      refine ⟨rfl, Int.le_refl _, ⟨fields, Store.get?_put_self _ _ _⟩, ?_⟩
      refine ⟨_, Store.get?_put_self _ _ _, ⟨rfl, rfl, rfl, rfl, rfl⟩, ?_⟩
      obtain ⟨hstatus, hprogress⟩ := Record.ofSubmission_submitted
        (some (Simulator.locator (Simulator.jobId t.outside.issue.1)))
        (Simulator.jobId t.outside.issue.1) session' true params' t.simulator.duration t.outside.now
      exact .never hstatus hprogress

/-- What the service takes is not simulated. -/
theorem simulated_of_enroll {s : Submission} {params session : Json} {simulated : Bool}
    {seconds : Checked Binary64} {r : Record}
    (h : (t.enroll s simulated params session seconds).1 = .ok r) : r.simulated = simulated := by
  rcases enroll_cases t s simulated params session seconds with
    ⟨places, heq⟩ | ⟨session', params', seconds', -, -, -, heq⟩
  · rw [heq] at h
    cases h
  · rw [heq] at h
    cases h
    rfl

/-- **A job that the simulator takes is on course**, with or without a service that refused it. -/
theorem onCourse_submit {params session expected : Json} {r : Record}
    (h : (t.submit service params session expected).1 = .ok r) (hsimulated : r.simulated = true) :
    (t.submit service params session expected).2.OnCourse r.id
      (t.submit service params session expected).2.outside.now t.simulator.duration := by
  unfold submit at h ⊢
  cases service with
  | none => exact onCourse_submitSimulated h
  | some s =>
    dsimp only at h ⊢
    have hduration : (t.call (s.submit params)).2.simulator.duration = t.simulator.duration := rfl
    cases hcall : t.call (s.submit params) with
    | mk answer u =>
      rw [hcall] at h hduration
      cases answer with
      -- What the service takes itself is not simulated.
      | ok submission =>
        rw [simulated_of_enroll h] at hsimulated
        cases hsimulated
      | error fault =>
        dsimp only at h ⊢
        split at h
        · next hrejection =>
          rw [if_pos hrejection, ← hduration]
          exact onCourse_submitSimulated h
        · cases h

/-- What is observed of a simulated job. -/
theorem observe_of_onCourse (h : t.OnCourse id start duration) {r : Record}
    (hof : r.OfSimulated id start duration) :
    t.observe service r
      = (.ok (Simulator.schedule duration (t.outside.now.since start)), t) := by
  obtain ⟨params, hjob⟩ := h.job
  have hstatus : t.simulator.status r.id t.outside.now
      = .ok (Simulator.schedule duration (t.outside.now.since start)) := by
    unfold Simulator.status Simulator.job
    rw [hof.id_eq, hjob, h.lasts]
    rfl
  unfold observe
  rw [hof.simulated, hstatus]
  cases service <;> rfl

variable (service) in
/-- A poll of a job on course tells what the schedule has, and the job stays on course. -/
theorem poll_onCourse (h : t.OnCourse id start duration) :
    ∃ report, (t.poll service id).1 = .ok report ∧
      report.OnSchedule id duration (t.outside.now.since start) ∧
      (t.poll service id).2.OnCourse id start duration := by
  obtain ⟨r, hget, hof, hseen⟩ := h.record
  cases hend : r.status.isTerminal with
  | true =>
    rw [poll_of_isTerminal hget hend]
    exact ⟨_, rfl, (Record.standsAt_of_isTerminal hseen hend).onSchedule hof, h⟩
  | false =>
    rw [poll_of_observe hget hend (observe_of_onCourse h hof)]
    have hstands := Record.standsAt_observe hof hseen h.begun hend
    -- an observation changes nothing of what the simulator gave the job
    have hof' : (r.observe (Simulator.schedule duration (t.outside.now.since start))
        t.outside.now).OfSimulated id start duration :=
      ⟨hof.id_eq, hof.simulated, hof.createdAt, hof.expectedSeconds, hof.locator⟩
    refine ⟨_, rfl, hstands.onSchedule hof', h.lasts, h.begun, h.job, _, ?_, hof',
      .atMoment t.outside.now (Int.le_refl _) hstands⟩
    show (t.jobs.put r.id _).get? id = _
    rw [hof.id_eq]
    exact Store.get?_put_self _ _ _

/-- One operation that leaves a job to itself keeps it on course. -/
theorem onCourse_perform (hfiled : t.Filed) (h : t.OnCourse id start duration) {op : Operation}
    (hspares : t.Spares service id op)
    (hclock : t.outside.now.micros ≤ (t.perform service op).2.outside.now.micros) :
    (t.perform service op).2.OnCourse id start duration := by
  by_cases hop : op = .poll id
  · subst hop
    obtain ⟨report, -, -, hcourse⟩ := poll_onCourse service h
    exact hcourse
  · exact h.of_keeps (keeps_perform hfiled hspares hop) hclock

/-- The invariant along a run. Induction on the run, with the tracker after its first operation. -/
theorem onCourse_run (hfiled : t.Filed) (h : t.OnCourse id start duration) {ops : List Operation}
    (hundisturbed : t.Undisturbed service id ops) :
    (t.run service ops).OnCourse id start duration := by
  induction ops generalizing t with
  | nil => exact h
  | cons op ops ih =>
    obtain ⟨hspares, hclock, hrest⟩ := hundisturbed
    exact ih (filed_perform service hfiled op) (onCourse_perform hfiled h hspares hclock) hrest

/-! ## Polls at two moments -/

end Tracker

namespace StatusReport.OnSchedule

variable {report report' : StatusReport} {id : Text} {duration elapsed elapsed' : Binary64}

/-- The status of a report on schedule is that of the schedule. -/
theorem status_eq (h : report.OnSchedule id duration elapsed) :
    report.status = Simulator.statusAfter duration elapsed := by
  have hstatus := h.status
  rw [Simulator.ofWord?_schedule] at hstatus
  exact (Option.some.inj hstatus).symm

/-- As time passes the status does not go back. -/
theorem follows (h : report.OnSchedule id duration elapsed)
    (h' : report'.OnSchedule id duration elapsed') (hle : elapsed ≤ elapsed') :
    report.status.Follows report'.status := by
  rw [h.status_eq, h'.status_eq]
  exact Simulator.statusAfter_follows duration hle

/-- As time passes the time that is left does not grow. -/
theorem remaining_le (h : report.OnSchedule id duration elapsed)
    (h' : report'.OnSchedule id duration elapsed') (helapsed : elapsed.Unsigned)
    (helapsed' : elapsed'.Unsigned) (hle : elapsed ≤ elapsed') :
    report'.secondsRemaining ≤ report.secondsRemaining := by
  have hunsigned : ∀ e : Binary64, (((0 : Binary64).larger (duration - e)).roundTo 1).Unsigned :=
    fun e => (zero_larger_unsigned _).roundTo 1
  rw [h.remaining, h'.remaining]
  split
  · split
    · exact (unsigned_ofNat 0).le_refl
    · exact (hunsigned elapsed).zero_le
  · next hopen' =>
    -- a job that has come to an end stays there
    have hopen : ¬report.status.isTerminal = true := by
      intro hend
      rcases h.follows h' hle with heq | hcan
      · exact hopen' (by rw [heq]; exact hend)
      · rw [Status.canBecome_of_isTerminal hend] at hcan
        cases hcan
    rw [if_neg hopen]
    exact (zero_larger_unsigned _).roundTo_le_roundTo (zero_larger_unsigned _) 1
      (remaining_le_remaining duration helapsed helapsed' hle)

end StatusReport.OnSchedule

namespace Tracker

variable {σ : Type} {service : Option (Service σ)} {t : Tracker σ}

/-- What polls tell of a job that the simulator has just taken, after any runs that leave it to
itself. -/
structure KeepsCadence (service : Option (Service σ)) (t : Tracker σ) (id : Text)
    (duration : Binary64) : Prop where
  /-- A poll tells what the schedule has after the seconds since the submission, whatever polls and
  other operations went before. -/
  scheduled : ∀ ops, t.Undisturbed service id ops →
    ∃ report, ((t.run service ops).poll service id).1 = .ok report ∧
      report.OnSchedule id duration ((t.run service ops).outside.now.since t.outside.now)
  /-- At a later moment the status is not an earlier one, and no more time is left. -/
  ordered : ∀ ops ops' report report', t.Undisturbed service id ops →
    t.Undisturbed service id ops' →
    (t.run service ops).outside.now.micros ≤ (t.run service ops').outside.now.micros →
    ((t.run service ops).poll service id).1 = .ok report →
    ((t.run service ops').poll service id).1 = .ok report' →
    report.status.Follows report'.status ∧ report'.secondsRemaining ≤ report.secondsRemaining

/-- **The cadence of polls does not matter.** With any service and any duration, of every job that
the simulator takes. -/
theorem keepsCadence (service : Option (Service σ)) (hfiled : t.Filed)
    {params session expected : Json} {r : Record}
    (hsubmit : (t.submit service params session expected).1 = .ok r)
    (hsimulated : r.simulated = true) :
    KeepsCadence service (t.submit service params session expected).2 r.id
      t.simulator.duration := by
  have hfiled' : (t.submit service params session expected).2.Filed :=
    filed_perform service hfiled (.submit params session expected)
  have hcourse := onCourse_submit hsubmit hsimulated
  refine ⟨?scheduled, ?ordered⟩
  case scheduled =>
    intro ops hundisturbed
    obtain ⟨report, hreport, hschedule, -⟩ :=
      poll_onCourse service (onCourse_run hfiled' hcourse hundisturbed)
    exact ⟨report, hreport, hschedule⟩
  -- Both reports are on the same schedule, so the order of the moments settles all.
  case ordered =>
    intro ops ops' report report' hundisturbed hundisturbed' hle hreport hreport'
    have hrun := onCourse_run hfiled' hcourse hundisturbed
    have hrun' := onCourse_run hfiled' hcourse hundisturbed'
    obtain ⟨told, htold, hschedule, -⟩ := poll_onCourse service hrun
    obtain ⟨told', htold', hschedule', -⟩ := poll_onCourse service hrun'
    rw [hreport] at htold
    cases htold
    rw [hreport'] at htold'
    cases htold'
    have helapsed := Instant.since_le_since
      (t.submit service params session expected).2.outside.now hle
    exact ⟨hschedule.follows hschedule' helapsed,
      hschedule.remaining_le hschedule' (Instant.since_unsigned hrun.begun)
        (Instant.since_unsigned hrun'.begun)
        helapsed⟩

/-- A job of fifteen seconds that is polled early, along with another one that is submitted and
cancelled. -/
theorem keepsCadence_simulated :
    ∃ r, (vacant.submit none (.object []) (.text "s") .null).1 = .ok r ∧ r.simulated = true ∧
      Undisturbed none (vacant.submit none (.object []) (.text "s") .null).2 r.id
        [.moveClock ⟨2000000⟩, .poll "sim_000000010000", .submit (.object []) (.text "s") .null,
          .cancel "sim_000000020000", .moveClock ⟨9000000⟩] ∧
      KeepsCadence none (vacant.submit none (.object []) (.text "s") .null).2 r.id
        vacant.simulator.duration := by
  refine ⟨_, rfl, rfl, ?_, keepsCadence none (filed_of_empty rfl) rfl rfl⟩
  decide +kernel

end Tracker

end FamilyDesign.Job
