import FamilyDesign.Job.Prepared
import FamilyDesign.Proofs.Job.Cadence
import FamilyDesign.Proofs.Job.Course

/-!
# Two jobs side by side

Neither who runs a job nor how often the service could not be asked about it leaves a trace in its
course. Two jobs are followed side by side, each with a tracker and a service of its own. They are
polled and cancelled together, and in between anything may be done with one of the trackers alone,
as long as nothing is learned about its job: its polls fail, other jobs are seen to, time moves.

* **`Record.SameCourse`** — what two records have in common whose jobs are in step.
* **`Followed`** — a job with its tracker and service; `Followed.Learns` is what a poll of it is
  told, and `Followed.unaffected_after` says that its course is the same where nothing is learned.
* **`Turn`**, **`Turn.Matched`** — what is done next, and the lists of turns that tell both jobs the
  same.
* **`InStep`** — the simulation relation; `inStep_take` keeps it in one turn, `inStep_run` along a
  list of them.
* **`keepsPace`** — the headline, for any two submissions that are taken alike.
-/

namespace FamilyDesign.Job

open Tracker

variable {σ τ : Type}

/-! ## Records in step -/

namespace Record

/-- Whether two records show one start, one status and one progress. -/
structure SameCourse (r r' : Record) : Prop where
  createdAt : r'.createdAt = r.createdAt
  status : r'.status = r.status
  progress : r'.progress = r.progress

namespace SameCourse

variable {r r' r'' : Record}

theorem refl (r : Record) : r.SameCourse r := ⟨rfl, rfl, rfl⟩

theorem symm (h : r.SameCourse r') : r'.SameCourse r :=
  ⟨h.createdAt.symm, h.status.symm, h.progress.symm⟩

theorem trans (h : r.SameCourse r') (h' : r'.SameCourse r'') : r.SameCourse r'' :=
  ⟨h'.createdAt.trans h.createdAt, h'.status.trans h.status, h'.progress.trans h.progress⟩

/-- A service that could not be asked is no matter. -/
theorem lapse (r : Record) (now : Instant) : r.SameCourse (r.lapse now) := ⟨rfl, rfl, rfl⟩

theorem cancel (h : r.SameCourse r') (now now' : Instant) :
    (r.cancel now).SameCourse (r'.cancel now') := ⟨h.createdAt, rfl, h.progress⟩

/-- Words that stand for one status move both records alike. -/
theorem observe (h : r.SameCourse r') {o o' : Observation}
    (hword : Status.ofWord? o.status = Status.ofWord? o'.status) (now : Instant) :
    (r.observe o now).SameCourse (r'.observe o' now) := by
  have hstatus : nextStatus r'.status o'.status = nextStatus r.status o.status := by
    unfold nextStatus
    rw [hword, h.status]
  refine ⟨h.createdAt, hstatus, ?_⟩
  show Job.progress (nextStatus r'.status o'.status) (now.since r'.createdAt) r'.progress
    = Job.progress (nextStatus r.status o.status) (now.since r.createdAt) r.progress
  rw [hstatus, h.createdAt, h.progress]

end SameCourse

/-- Jobs that are taken at one moment, under words that stand for one status, start in step. -/
theorem sameCourse_ofSubmission {s s' : Submission}
    (hword : Status.ofWord? s.status = Status.ofWord? s'.status) (session session' : Text)
    (simulated simulated' : Bool) (params params' : Fields) (seconds seconds' : Numeric.Binary64)
    (now : Instant) :
    (ofSubmission s session simulated params seconds now).SameCourse
      (ofSubmission s' session' simulated' params' seconds' now) := by
  refine ⟨rfl, ?_, ?_⟩
  · show (Status.ofWord? s'.status).getD .submitted = (Status.ofWord? s.status).getD .submitted
    rw [hword]
  · show Job.progress ((Status.ofWord? s'.status).getD .submitted) 0 0
      = Job.progress ((Status.ofWord? s.status).getD .submitted) 0 0
    rw [hword]

end Record

/-! ## One job -/

/-- A job, the tracker that keeps it, and the service behind that. -/
structure Followed (σ : Type) where
  service : Option (Service σ)
  tracker : Tracker σ
  id : Text

namespace Followed

/-- The record of the job. -/
def record? (f : Followed σ) : Option Record := f.tracker.jobs.get? f.id

/-- The same job after an operation on its tracker. -/
def after (f : Followed σ) (op : Operation) : Followed σ :=
  { f with tracker := (f.tracker.perform f.service op).2 }

/-- What whoever runs the job answers to a poll. -/
def observed (f : Followed σ) (r : Record) : Except ServiceFault Observation :=
  (f.tracker.observe f.service r).1

/-- Whether a poll of the job is told a word that stands for a status, or for none. Of a job that
has come to an end nobody is asked. -/
def Learns (f : Followed σ) (status : Option Status) : Prop :=
  ∀ r, f.record? = some r → r.status.isTerminal = false →
    ∃ o, f.observed r = .ok o ∧ Status.ofWord? o.status = status

/-- Whether whoever runs the job stops it, or reports that it cannot. -/
def Heeds (f : Followed σ) : Prop :=
  ∀ r fault, f.record? = some r → (f.tracker.stop f.service r).1 = .error fault →
    fault.isReported = true

/-- Whether a cancellation of the job succeeds. -/
def CanCancel (f : Followed σ) : Prop :=
  ∃ response, (f.tracker.perform f.service (.cancel f.id)).1 = .ok response

/-- Whether nothing is learned about the job from an operation: it is about other jobs or about
time, or it is a poll that fails or a cancellation that is refused. -/
def Unaffected (f : Followed σ) : Operation → Prop
  | .submit params _ _ => f.tracker.givenId f.service params ≠ some f.id
  | .poll id => id = f.id → ∀ r, f.record? = some r → r.status.isTerminal = false →
      ∃ fault, f.observed r = .error fault
  | .cancel id => id = f.id → ¬f.CanCancel
  | .fetch _ | .moveClock _ => True

variable {f : Followed σ} {r : Record}

theorem filed_after (hfiled : f.tracker.Filed) (op : Operation) : (f.after op).tracker.Filed :=
  filed_perform f.service hfiled op

/-- A job that has come to an end is only told of. -/
theorem record?_poll_of_isTerminal (hget : f.record? = some r) (hend : r.status.isTerminal = true) :
    (f.after (.poll f.id)).record? = some r := by
  show (f.tracker.poll f.service f.id).2.jobs.get? f.id = some r
  rw [poll_of_isTerminal hget hend]
  exact hget

/-- What is put under the id of the job is found there. -/
theorem get?_put_id (hfiled : f.tracker.Filed) (hget : f.record? = some r) (jobs : Store Record)
    (r' : Record) : (jobs.put r.id r').get? f.id = some r' := by
  rw [hfiled f.id r hget]
  exact Store.get?_put_self _ _ _

/-- An open job moves along by what is observed of it. -/
theorem record?_poll_of_ok (hfiled : f.tracker.Filed) (hget : f.record? = some r)
    (hopen : r.status.isTerminal = false) {o : Observation} (hobserved : f.observed r = .ok o) :
    (f.after (.poll f.id)).record? = some (r.observe o f.tracker.outside.now) := by
  show (f.tracker.poll f.service f.id).2.jobs.get? f.id = _
  rw [poll_of_observe hget hopen (Prod.ext hobserved rfl)]
  exact get?_put_id hfiled hget _ _

/-- **A poll that fails only marks the record**, if the service reports the fault. -/
theorem record?_poll_of_reported (hfiled : f.tracker.Filed) (hget : f.record? = some r)
    (hopen : r.status.isTerminal = false) {fault : ServiceFault}
    (hobserved : f.observed r = .error fault) (hfault : fault.isReported = true) :
    (f.after (.poll f.id)).record? = some (r.lapse f.tracker.outside.now) := by
  show (f.tracker.poll f.service f.id).2.jobs.get? f.id = _
  rw [poll_of_reported hget hopen (Prod.ext hobserved rfl) hfault]
  exact get?_put_id hfiled hget _ _

/-- Any other fault does not even do that. -/
theorem record?_poll_of_unreported (hget : f.record? = some r)
    (hopen : r.status.isTerminal = false) {fault : ServiceFault}
    (hobserved : f.observed r = .error fault) (hfault : fault.isReported = false) :
    (f.after (.poll f.id)).record? = some r := by
  show (f.tracker.poll f.service f.id).2.jobs.get? f.id = _
  rw [poll_of_unreported hget hopen (Prod.ext hobserved rfl) hfault]
  show (f.tracker.observe f.service r).2.jobs.get? f.id = _
  rw [jobs_observe]
  exact hget

/-- An operation that is refused leaves the record as it is. -/
theorem record?_of_refused (hfiled : f.tracker.Filed) {op : Operation} {fault : TrackerFault}
    (hanswer : (f.tracker.perform f.service op).1 = .error fault) :
    (f.after op).record? = f.record? := by
  show (f.tracker.perform f.service op).2.jobs.get? f.id = _
  rw [refused_perform hfiled hanswer]
  rfl

/-- A cancellation ends a job that is open, and is refused where it has come to an end. -/
theorem record?_cancel (hfiled : f.tracker.Filed) (hget : f.record? = some r) (hheeds : f.Heeds) :
    (r.status.isTerminal = false ∧ f.CanCancel ∧
      ∃ now, (f.after (.cancel f.id)).record? = some (r.cancel now)) ∨
    (r.status.isTerminal = true ∧ ¬f.CanCancel ∧ (f.after (.cancel f.id)).record? = some r) := by
  -- The tracker asks for one of two statuses; these are the open ones.
  by_cases hcan : r.status = .submitted ∨ r.status = .inProgress
  · obtain ⟨now, hanswer, hjobs⟩ :=
      cancel_cancellable hget hcan fun fault hfault => hheeds r fault hget hfault
    refine Or.inl ⟨?_, ⟨_, hanswer⟩, now, ?_⟩
    · rcases hcan with h | h <;> rw [h] <;> rfl
    · show (f.tracker.perform f.service (.cancel f.id)).2.jobs.get? f.id = _
      rw [hjobs]
      exact get?_put_id hfiled hget _ _
  · have hanswer : (f.tracker.perform f.service (.cancel f.id)).1
        = .error (.notCancellable f.id r.status) := cancel_ended hget hcan
    refine Or.inr ⟨?_, ?_, (record?_of_refused hfiled hanswer).trans hget⟩
    · rw [← Status.isCancellable_iff] at hcan
      simpa [Status.isCancellable] using hcan
    · rintro ⟨response, hgranted⟩
      cases hanswer.symm.trans hgranted

/-- **Where nothing is learned about a job its course stays as it is.** -/
theorem unaffected_after (hfiled : f.tracker.Filed) (hget : f.record? = some r) {op : Operation}
    (hop : f.Unaffected op) : ∃ r', (f.after op).record? = some r' ∧ r.SameCourse r' := by
  -- what is done with other jobs leaves all of the record alone
  have hother : f.tracker.Spares f.service f.id op → op ≠ .poll f.id →
      ∃ r', (f.after op).record? = some r' ∧ r.SameCourse r' := by
    intro hspares hpoll
    exact ⟨r, (keeps_perform hfiled hspares hpoll).record.trans hget, .refl r⟩
  cases op with
  | submit params session expected => exact hother hop Operation.noConfusion
  | fetch id => exact hother trivial Operation.noConfusion
  | moveClock moment => exact hother trivial Operation.noConfusion
  | poll id =>
    by_cases hid : id = f.id
    · subst hid
      cases hend : r.status.isTerminal with
      | true => exact ⟨r, record?_poll_of_isTerminal hget hend, .refl r⟩
      | false =>
        obtain ⟨fault, hobserved⟩ := hop rfl r hget hend
        cases hfault : fault.isReported with
        | true => exact ⟨_, record?_poll_of_reported hfiled hget hend hobserved hfault, .lapse r _⟩
        | false => exact ⟨r, record?_poll_of_unreported hget hend hobserved hfault, .refl r⟩
    · exact hother trivial fun h => hid (Operation.poll.inj h)
  | cancel id =>
    by_cases hid : id = f.id
    · subst hid
      cases hanswer : (f.tracker.perform f.service (.cancel f.id)).1 with
      | ok response => exact absurd ⟨response, hanswer⟩ (hop rfl)
      | error fault => exact ⟨r, (record?_of_refused hfiled hanswer).trans hget, .refl r⟩
    · exact hother hid Operation.noConfusion

end Followed

/-! ## Turns -/

/-- What is done next with two jobs: both are polled, both are cancelled, or one of the trackers is
used alone. -/
inductive Turn
  | poll
  | cancel
  | first (op : Operation)
  | second (op : Operation)

namespace Turn

/-- The two jobs after a turn. -/
def take (p : Followed σ × Followed τ) : Turn → Followed σ × Followed τ
  | poll => (p.1.after (.poll p.1.id), p.2.after (.poll p.2.id))
  | cancel => (p.1.after (.cancel p.1.id), p.2.after (.cancel p.2.id))
  | first op => (p.1.after op, p.2)
  | second op => (p.1, p.2.after op)

/-- The two jobs after a list of turns. -/
def run (p : Followed σ × Followed τ) : List Turn → Followed σ × Followed τ
  | [] => p
  | turn :: turns => run (turn.take p) turns

/-- Whether a turn tells both jobs the same: they are polled at one time and learn one status, they
are cancelled, or nothing is learned about the one whose tracker is used. -/
def Allowed (p : Followed σ × Followed τ) : Turn → Prop
  | poll => p.1.tracker.outside.now = p.2.tracker.outside.now ∧
      ∃ status, p.1.Learns status ∧ p.2.Learns status
  | cancel => p.1.Heeds ∧ p.2.Heeds
  | first op => p.1.Unaffected op
  | second op => p.2.Unaffected op

/-- Whether each of a list of turns tells both jobs the same. -/
def Matched (p : Followed σ × Followed τ) : List Turn → Prop
  | [] => True
  | turn :: turns => turn.Allowed p ∧ Matched (turn.take p) turns

end Turn

/-! ## The simulation relation -/

/-- Two jobs in step. -/
structure InStep (p : Followed σ × Followed τ) : Prop where
  filed : p.1.tracker.Filed
  filed' : p.2.tracker.Filed
  records : ∃ r r', p.1.record? = some r ∧ p.2.record? = some r' ∧ r.SameCourse r'

variable {p : Followed σ × Followed τ}

/-- Jobs that learn one status at one time move alike. -/
theorem inStep_poll (h : InStep p) (hallowed : Turn.Allowed p .poll) :
    InStep (Turn.take p .poll) := by
  obtain ⟨hnow, status, hlearns, hlearns'⟩ := hallowed
  obtain ⟨r, r', hget, hget', hsame⟩ := h.records
  refine ⟨Followed.filed_after h.filed _, Followed.filed_after h.filed' _, ?_⟩
  -- A job that has ended is not asked for, so the two are polled alike only if both are open.
  cases hend : r.status.isTerminal with
  | true =>
    have hend' : r'.status.isTerminal = true := by rw [hsame.status, hend]
    exact ⟨r, r', Followed.record?_poll_of_isTerminal hget hend,
      Followed.record?_poll_of_isTerminal hget' hend', hsame⟩
  | false =>
    have hopen' : r'.status.isTerminal = false := by rw [hsame.status, hend]
    obtain ⟨o, ho, hword⟩ := hlearns r hget hend
    obtain ⟨o', ho', hword'⟩ := hlearns' r' hget' hopen'
    refine ⟨_, _, Followed.record?_poll_of_ok h.filed hget hend ho,
      Followed.record?_poll_of_ok h.filed' hget' hopen' ho', ?_⟩
    rw [← hnow]
    exact hsame.observe (hword.trans hword'.symm) _

/-- Jobs in step are cancelled both, or neither of them can be. -/
theorem inStep_cancel (h : InStep p) (hheeds : p.1.Heeds) (hheeds' : p.2.Heeds) :
    (p.1.CanCancel ↔ p.2.CanCancel) ∧ InStep (Turn.take p .cancel) := by
  obtain ⟨r, r', hget, hget', hsame⟩ := h.records
  have hfiled := Followed.filed_after h.filed (.cancel p.1.id)
  have hfiled' := Followed.filed_after h.filed' (.cancel p.2.id)
  -- Four cases; one granted and the other refused contradicts that they have one status.
  rcases Followed.record?_cancel h.filed hget hheeds with
    ⟨hopen, hcan, now, hended⟩ | ⟨hend, hcannot, hkept⟩ <;>
  rcases Followed.record?_cancel h.filed' hget' hheeds' with
    ⟨hopen', hcan', now', hended'⟩ | ⟨hend', hcannot', hkept'⟩
  · exact ⟨iff_of_true hcan hcan', hfiled, hfiled', _, _, hended, hended', hsame.cancel now now'⟩
  · rw [hsame.status, hopen] at hend'
    cases hend'
  · rw [hsame.status, hend] at hopen'
    cases hopen'
  · exact ⟨iff_of_false hcannot hcannot', hfiled, hfiled', r, r', hkept, hkept', hsame⟩

/-- **One turn keeps two jobs in step.** -/
theorem inStep_take (h : InStep p) {turn : Turn} (hallowed : turn.Allowed p) :
    InStep (turn.take p) := by
  cases turn with
  | poll => exact inStep_poll h hallowed
  | cancel => exact (inStep_cancel h hallowed.1 hallowed.2).2
  -- An operation beside the job leaves its course, so the pair stands as before.
  | first op =>
    obtain ⟨r, r', hget, hget', hsame⟩ := h.records
    obtain ⟨kept, hkept, hcourse⟩ := Followed.unaffected_after h.filed hget hallowed
    exact ⟨Followed.filed_after h.filed op, h.filed', kept, r', hkept, hget',
      hcourse.symm.trans hsame⟩
  | second op =>
    obtain ⟨r, r', hget, hget', hsame⟩ := h.records
    obtain ⟨kept, hkept, hcourse⟩ := Followed.unaffected_after h.filed' hget' hallowed
    exact ⟨h.filed, Followed.filed_after h.filed' op, r, kept, hget, hkept, hsame.trans hcourse⟩

/-- So does a list of turns. Induction on the turns. -/
theorem inStep_run (h : InStep p) {turns : List Turn} (hmatched : Turn.Matched p turns) :
    InStep (Turn.run p turns) := by
  induction turns generalizing p with
  | nil => exact h
  | cons turn turns ih => exact ih (inStep_take h hmatched.1) hmatched.2

/-- Two submissions that are taken at one moment, under words that stand for one status, start in
step. -/
theorem inStep_of_submit {service : Option (Service σ)} {service' : Option (Service τ)}
    {t : Tracker σ} {u : Tracker τ} (hfiled : t.Filed) (hfiled' : u.Filed)
    {params session expected params' session' expected' : Json} {r r' : Record}
    (hsubmit : (t.submit service params session expected).1 = .ok r)
    (hsubmit' : (u.submit service' params' session' expected').1 = .ok r')
    (hmoment : r.createdAt = r'.createdAt)
    (hword : Status.ofWord? r.rawStatus = Status.ofWord? r'.rawStatus) :
    InStep (⟨service, (t.submit service params session expected).2, r.id⟩,
      ⟨service', (u.submit service' params' session' expected').2, r'.id⟩) := by
  -- Both records are those of a submission: only the service word bears on where they start.
  have heffect := effect_perform service hfiled (.submit params session expected)
  have heffect' := effect_perform service' hfiled' (.submit params' session' expected')
  obtain ⟨hget, s, name, simulated, fields, seconds, now, rfl⟩ :=
    heffect.of_enrolled (map_eq_ok_iff.mpr ⟨r, hsubmit, rfl⟩)
  obtain ⟨hget', s', name', simulated', fields', seconds', now', rfl⟩ :=
    heffect'.of_enrolled (map_eq_ok_iff.mpr ⟨r', hsubmit', rfl⟩)
  cases hmoment
  exact ⟨filed_perform service hfiled (.submit params session expected),
    filed_perform service' hfiled' (.submit params' session' expected'), _, _, hget, hget',
    Record.sameCourse_ofSubmission hword _ _ _ _ _ _ _ _ _⟩

/-! ## What is seen of two jobs -/

/-- Whether a poll of a job that the service cannot be asked about changes nothing of its record but
two marks. -/
def Followed.OnlyMarked (f : Followed σ) : Prop :=
  ∀ r fault, f.record? = some r → r.status.isTerminal = false →
    f.observed r = .error fault → fault.isReported = true →
    (f.after (.poll f.id)).record?
      = some { r with degraded := true, lastChecked := some f.tracker.outside.now }

/-- What two jobs have in common, however they came to where they are. -/
structure KeepsPace (p : Followed σ × Followed τ) : Prop where
  /-- They have the same status and the same progress. -/
  same : ∃ r r', p.1.record? = some r ∧ p.2.record? = some r' ∧
    r.status = r'.status ∧ r.progress = r'.progress
  /-- The one can be cancelled just if the other can, unless a fault that no service reports ends
  the call. -/
  cancels : p.1.Heeds → p.2.Heeds → (p.1.CanCancel ↔ p.2.CanCancel)
  /-- Polls that fail leave no more than marks, on either side. -/
  marked : p.1.OnlyMarked ∧ p.2.OnlyMarked

/-- **Two jobs keep pace.** They are submitted at one moment to any services or to the simulator,
under words that stand for one status. From then on, after any turns that tell both the same, they
stand alike. -/
theorem keepsPace (service : Option (Service σ)) (service' : Option (Service τ)) {t : Tracker σ}
    {u : Tracker τ} (hfiled : t.Filed) (hfiled' : u.Filed)
    {params session expected params' session' expected' : Json} {r r' : Record}
    (hsubmit : (t.submit service params session expected).1 = .ok r)
    (hsubmit' : (u.submit service' params' session' expected').1 = .ok r')
    (hmoment : r.createdAt = r'.createdAt)
    (hword : Status.ofWord? r.rawStatus = Status.ofWord? r'.rawStatus) (turns : List Turn)
    (hmatched : Turn.Matched (⟨service, (t.submit service params session expected).2, r.id⟩,
      ⟨service', (u.submit service' params' session' expected').2, r'.id⟩) turns) :
    KeepsPace (Turn.run (⟨service, (t.submit service params session expected).2, r.id⟩,
      ⟨service', (u.submit service' params' session' expected').2, r'.id⟩) turns) := by
  have hstep := inStep_run (inStep_of_submit hfiled hfiled' hsubmit hsubmit' hmoment hword) hmatched
  refine ⟨?same, ?cancels, ?marked⟩
  case same =>
    obtain ⟨kept, kept', hget, hget', hsame⟩ := hstep.records
    exact ⟨kept, kept', hget, hget', hsame.status.symm, hsame.progress.symm⟩
  case cancels =>
    intro hheeds hheeds'
    exact (inStep_cancel hstep hheeds hheeds').1
  -- A poll that faults is answered from the record, whichever side it is on.
  case marked =>
    refine ⟨?_, ?_⟩
    · intro kept fault hget hopen hobserved hfault
      exact Followed.record?_poll_of_reported hstep.filed hget hopen hobserved hfault
    · intro kept fault hget hopen hobserved hfault
      exact Followed.record?_poll_of_reported hstep.filed' hget hopen hobserved hfault

/-- A tracker without jobs over a service that cannot be asked at first, then says that the job is
running, cannot be asked again, and refuses to stop it. -/
def faltering : Tracker Prepared where
  outside := { now := ⟨0⟩ }
  remote := {
    submissions := [.ok ⟨"j", "Pending", none⟩]
    observations := [.error (.transient "down" none), .ok { status := "RUNNING" },
      .error (.failed "down" none)]
    cancellations := [.error (.failed "down" none)] }

/-- A simulated job beside one of a service that falters: five seconds on both are in progress, and
both are cancelled. -/
theorem keepsPace_faltering :
    let t := (vacant.submit none (.object []) (.text "s") .null).2
    let u := (faltering.submit (some Prepared.service) (.object []) (.text "s") .null).2
    let turns := [.second (.poll "j"), .first (.moveClock ⟨5000000⟩),
      .second (.moveClock ⟨5000000⟩), .poll, .second (.poll "j"), .cancel]
    ∃ r r', (vacant.submit none (.object []) (.text "s") .null).1 = .ok r ∧
      (faltering.submit (some Prepared.service) (.object []) (.text "s") .null).1 = .ok r' ∧
      r.simulated = true ∧ r'.simulated = false ∧ r.createdAt = r'.createdAt ∧
      Status.ofWord? r.rawStatus = Status.ofWord? r'.rawStatus ∧
      Turn.Matched (⟨none, t, r.id⟩, ⟨some Prepared.service, u, r'.id⟩) turns ∧
      KeepsPace (Turn.run (⟨none, t, r.id⟩, ⟨some Prepared.service, u, r'.id⟩) turns) := by
  intro t u turns
  have hsubmit : (vacant.submit none (.object []) (.text "s") .null).1
      = .ok (.ofSubmission ⟨"sim_000000010000", "submitted",
          some (Simulator.locator "sim_000000010000")⟩ "s" true [] 15 ⟨0⟩) := rfl
  have hsubmit' : (faltering.submit (some Prepared.service) (.object []) (.text "s") .null).1
      = .ok (.ofSubmission ⟨"j", "Pending", none⟩ "s" false [] standardSeconds ⟨0⟩) := rfl
  have hword : Status.ofWord? "submitted" = Status.ofWord? "Pending" := by
    decide +kernel
  -- What each turn allows is computed there, for the one record that is kept.
  have hmatched : Turn.Matched (⟨none, t, "sim_000000010000"⟩, ⟨some Prepared.service, u, "j"⟩)
      turns := by
    refine ⟨?_, trivial, trivial, ⟨rfl, some .inProgress, ?_, ?_⟩, ?_, ⟨?_, ?_⟩, trivial⟩
    · rintro - r hget -
      cases hget
      exact ⟨_, rfl⟩
    · rintro r hget -
      cases hget
      exact ⟨_, rfl, by decide +kernel⟩
    · rintro r hget -
      cases hget
      exact ⟨_, rfl, by decide +kernel⟩
    · rintro - r hget -
      cases hget
      exact ⟨_, rfl⟩
    · rintro r fault hget hstop
      cases hget
      cases hstop
    · rintro r fault hget hstop
      cases hget
      cases hstop
      rfl
  exact ⟨_, _, hsubmit, hsubmit', rfl, rfl, rfl, hword, hmatched,
    keepsPace none (some Prepared.service) (filed_of_empty rfl) (filed_of_empty rfl) hsubmit
      hsubmit' rfl hword turns hmatched⟩

end FamilyDesign.Job
