import FamilyDesign.Job.Tracker
import FamilyDesign.Proofs.Fallible
import FamilyDesign.Proofs.Job.Moves

/-!
# Runs of a tracker

A tracker is used by one call after another while time moves on as it likes. The service behind it
is any at all: it may answer what it wants, fail in whatever way, and change its surroundings.

* **`Tracker.perform`**, **`Tracker.run`** — one operation and a list of them.
* **`Tracker.NoIdReused`** — no submission in a run is given the id of a job that is already kept.
* **`Tracker.Effect`** — all that an operation can do to the jobs, together with what it answers;
  `effect_perform` says that it can do nothing else. Every law of runs goes by cases on it.
* **`Tracker.Filed`** — each record is kept under its own id.
-/

namespace FamilyDesign.Job

/-- What a caller may do with a tracker. Between two calls the clock may be moved to any moment. -/
inductive Operation
  | submit (params session expected : Json)
  | poll (id : Text)
  | cancel (id : Text)
  | fetch (id : Text)
  | moveClock (moment : Instant)

/-- What a caller is given. -/
inductive Response
  | enrolled (r : Record)
  | reported (report : StatusReport)
  | delivered (bytes : List UInt8)
  | moved

namespace Tracker

variable {σ : Type}

/-- What a call answers, as an answer to an operation. -/
def answering {α : Type} (wrap : α → Response) (x : Except TrackerFault α × Tracker σ) :
    Except TrackerFault Response × Tracker σ :=
  (x.1.map wrap, x.2)

/-- One operation: what it answers, and the tracker after it. -/
def perform (service : Option (Service σ)) (t : Tracker σ) :
    Operation → Except TrackerFault Response × Tracker σ
  | .submit params session expected =>
    answering .enrolled (t.submit service params session expected)
  | .poll id => answering .reported (t.poll service id)
  | .cancel id => answering .reported (t.cancel service id)
  | .fetch id => answering .delivered (t.fetch service id)
  | .moveClock moment => (.ok .moved, { t with outside := { t.outside with now := moment } })

/-- The tracker after a list of operations, whether they are granted or not. -/
def run (service : Option (Service σ)) (t : Tracker σ) : List Operation → Tracker σ
  | [] => t
  | op :: ops => run service (t.perform service op).2 ops

/-- Whether an operation, if it is a submission that is granted, is given an id that no job has. -/
def TakesFreshId (service : Option (Service σ)) (t : Tracker σ) (op : Operation) : Prop :=
  ∀ r, (t.perform service op).1 = .ok (.enrolled r) → t.jobs.get? r.id = none

/-- Whether no submission of a run is given the id of a job that is already kept. -/
def NoIdReused (service : Option (Service σ)) (t : Tracker σ) : List Operation → Prop
  | [] => True
  | op :: ops =>
    t.TakesFreshId service op ∧ NoIdReused service (t.perform service op).2 ops

/-- An answer of another kind enrolls nothing. -/
theorem answering_ne_enrolled {α : Type} (wrap : α → Response) (hwrap : ∀ a r, wrap a ≠ .enrolled r)
    (x : Except TrackerFault α × Tracker σ) (r : Record) :
    (answering wrap x).1 ≠ .ok (.enrolled r) := by
  obtain ⟨answer, t⟩ := x
  cases answer with
  | error fault =>
    intro h
    cases h
  | ok a =>
    intro h
    exact hwrap a r (Except.ok.inj h)

/-- Only a submission is given an id. -/
theorem takesFreshId_of_not_submit {service : Option (Service σ)} {t : Tracker σ} {op : Operation}
    (hop : ∀ params session expected, op ≠ .submit params session expected) :
    t.TakesFreshId service op := by
  intro r henrolled
  refine absurd henrolled ?_
  cases op with
  | submit params session expected => exact absurd rfl (hop params session expected)
  | poll id => exact answering_ne_enrolled Response.reported (fun _ _ => Response.noConfusion) _ r
  | cancel id => exact answering_ne_enrolled Response.reported (fun _ _ => Response.noConfusion) _ r
  | fetch id => exact answering_ne_enrolled Response.delivered (fun _ _ => Response.noConfusion) _ r
  | moveClock moment =>
    intro h
    cases h

/-- No id is taken over in a run just if none is in its front and none in the rest from there. -/
theorem noIdReused_append (service : Option (Service σ)) (t : Tracker σ)
    (before after : List Operation) :
    t.NoIdReused service (before ++ after) ↔
      t.NoIdReused service before ∧ (t.run service before).NoIdReused service after := by
  induction before generalizing t with
  | nil => exact (iff_of_eq (true_and _)).symm
  | cons op ops ih =>
    show t.TakesFreshId service op ∧ NoIdReused service _ (ops ++ after) ↔ _
    rw [ih]
    exact and_assoc.symm

/-- Each record is kept under its own id. -/
def Filed (t : Tracker σ) : Prop := ∀ id r, t.jobs.get? id = some r → r.id = id

/-- A tracker without jobs is in order. -/
theorem filed_of_empty {t : Tracker σ} (h : t.jobs = {}) : t.Filed := by
  intro id r hget
  rw [h] at hget
  cases hget

/-- A tracker without a service and without jobs. -/
def vacant : Tracker Unit where
  outside := { now := ⟨0⟩ }
  remote := ()

/-! ## What an operation does to the jobs -/

/-- All that an operation can do to the jobs of a tracker, with what it answers. Nothing is kept of
an operation that is refused; a submission makes a record; polling and cancelling replace the record
of a job that has not come to an end and report the new one; a job that has come to an end is only
told of. -/
inductive Effect (t : Tracker σ) : Except TrackerFault Response → Store Record → Prop
  | refused (fault : TrackerFault) : Effect t (.error fault) t.jobs
  | delivered (bytes : List UInt8) : Effect t (.ok (.delivered bytes)) t.jobs
  | moved : Effect t (.ok .moved) t.jobs
  | retold (r : Record) (now : Instant) (hget : t.jobs.get? r.id = some r)
      (hend : r.status.isTerminal = true) :
      Effect t (.ok (.reported (r.report now))) t.jobs
  | enrolled (s : Submission) (session : Text) (simulated : Bool) (params : Fields)
      (seconds : Numeric.Binary64) (now : Instant) :
      Effect t (.ok (.enrolled (.ofSubmission s session simulated params seconds now)))
        (t.jobs.put s.id (.ofSubmission s session simulated params seconds now))
  | replaced (r r' : Record) (now : Instant) (hget : t.jobs.get? r.id = some r)
      (hopen : r.status.isTerminal = false) (hmoves : r.Moves r') :
      Effect t (.ok (.reported (r'.report now))) (t.jobs.put r.id r')

/-! ### Calls outside

Neither the service nor the simulator has the records in its hands. -/

variable {service : Option (Service σ)} {t : Tracker σ}

/-- A call to the service leaves the jobs as they are. -/
@[simp] theorem jobs_call {α : Type} (c : Call σ α) : (t.call c).2.jobs = t.jobs := rfl

@[simp] theorem jobs_observe (r : Record) : (t.observe service r).2.jobs = t.jobs := by
  unfold observe
  split
  · exact jobs_call _
  · rfl

@[simp] theorem jobs_stop (r : Record) : (t.stop service r).2.jobs = t.jobs := by
  unfold stop
  split
  · exact jobs_call _
  · split
    · rfl
    · rfl

@[simp] theorem jobs_fetchFrom (r : Record) : (t.fetchFrom service r).2.jobs = t.jobs := by
  unfold fetchFrom
  split
  · exact jobs_call _
  · rfl

/-- A call that is refused has kept nothing. -/
theorem effect_refused {u : Tracker σ} (hjobs : u.jobs = t.jobs) (fault : TrackerFault) :
    t.Effect (.error fault) u.jobs := by
  rw [hjobs]
  exact .refused fault

/-- A job is found just if it is kept. -/
theorem record_ok_iff {id : Text} {r : Record} :
    t.record id = .ok r ↔ t.jobs.get? id = some r := by
  unfold record
  cases t.jobs.get? id with
  | none => simp
  | some r' => simp

/-! ### Submissions -/

/-- What is enrolled is the record of the submission, and nothing is kept otherwise. -/
theorem enroll_cases (t : Tracker σ) (s : Submission) (simulated : Bool) (params session : Json)
    (seconds : Checked Numeric.Binary64) :
    (∃ places, t.enroll s simulated params session seconds = (.error (.malformed places), t)) ∨
    (∃ session' params' seconds', (Document.asText session).under "session_id" = .valid session' ∧
      (Document.asFields params).under "params" = .valid params' ∧
      seconds.under "expected_seconds" = .valid seconds' ∧
      t.enroll s simulated params session seconds =
        granted (.ofSubmission s session' simulated params' seconds' t.outside.now,
          t.keep (.ofSubmission s session' simulated params' seconds' t.outside.now))) := by
  unfold enroll
  dsimp only
  -- The three fields are checked together, so a fault tells the places of all.
  split
  · rename_i r hvalid
    obtain ⟨f, seconds', hf, hseconds, rfl⟩ := Checked.seq_eq_valid.mp hvalid
    obtain ⟨g, params', hg, hparams, rfl⟩ := Checked.seq_eq_valid.mp hf
    obtain ⟨session', hsession, rfl⟩ := Checked.map_eq_valid.mp hg
    exact Or.inr ⟨session', params', seconds', hsession, hparams, hseconds, rfl⟩
  · rename_i places _
    exact Or.inl ⟨places, rfl⟩

/-- A submission that is taken makes its record, in the tracker that it was taken by. -/
theorem effect_enroll {t u : Tracker σ} (hjobs : u.jobs = t.jobs) (s : Submission)
    (simulated : Bool) (params session : Json) (seconds : Checked Numeric.Binary64) :
    t.Effect (answering .enrolled (u.enroll s simulated params session seconds)).1
      (answering .enrolled (u.enroll s simulated params session seconds)).2.jobs := by
  rcases enroll_cases u s simulated params session seconds with
    ⟨places, heq⟩ | ⟨session', params', seconds', -, -, -, heq⟩
  · rw [heq]
    exact effect_refused hjobs (.malformed places)
  · rw [heq]
    show t.Effect _ (u.jobs.put s.id _)
    rw [hjobs]
    exact .enrolled s session' simulated params' seconds' u.outside.now

/-- A submission to the simulator enrolls one job or is refused. -/
theorem effect_submitSimulated {t u : Tracker σ} (hjobs : u.jobs = t.jobs) (params session : Json) :
    t.Effect (answering .enrolled (u.submitSimulated params session)).1
      (answering .enrolled (u.submitSimulated params session)).2.jobs := by
  unfold submitSimulated
  dsimp only
  split
  · -- the simulator changes neither the jobs nor who asks for them
    refine effect_enroll ?_ _ true params session _
    exact hjobs
  · rename_i places _
    exact effect_refused hjobs (.malformed places)

/-- A submission enrolls one job or is refused. -/
theorem effect_submit (params session expected : Json) :
    t.Effect (t.perform service (.submit params session expected)).1
      (t.perform service (.submit params session expected)).2.jobs := by
  show t.Effect (answering .enrolled (t.submit service params session expected)).1
    (answering .enrolled (t.submit service params session expected)).2.jobs
  unfold submit
  cases service with
  | none => exact effect_submitSimulated rfl params session
  | some s =>
    have hcall : (t.call (s.submit params)).2.jobs = t.jobs := jobs_call _
    dsimp only
    split
    · rename_i submission u heq
      rw [heq] at hcall
      exact effect_enroll hcall _ _ _ _ _
    · rename_i fault u heq
      rw [heq] at hcall
      -- the simulator takes over where the fault is one that the service reports
      split
      · exact effect_submitSimulated hcall params session
      · exact effect_refused hcall (.service fault)

/-- The record of a job has the parameters that were asked for. -/
theorem params_of_enroll {s : Submission} {simulated : Bool} {fields : Fields} {session : Json}
    {seconds : Checked Numeric.Binary64} {r : Record}
    (h : (t.enroll s simulated (.object fields) session seconds).1 = .ok r) :
    r.params = fields := by
  rcases enroll_cases t s simulated (.object fields) session seconds with
    ⟨places, heq⟩ | ⟨session', params', seconds', -, hparams, -, heq⟩
  · rw [heq] at h
    cases h
  · rw [heq] at h
    cases h
    cases hparams
    rfl

/-- A job that the simulator takes has the parameters that were submitted. -/
theorem params_of_submitSimulated {fields : Fields} {session : Json} {r : Record}
    (h : (t.submitSimulated (.object fields) session).1 = .ok r) : r.params = fields := by
  unfold submitSimulated at h
  dsimp only at h
  split at h
  · exact params_of_enroll h
  · cases h

/-- A job has the parameters that were submitted. -/
theorem params_of_submit {fields : Fields} {session expected : Json} {r : Record}
    (h : (t.submit service (.object fields) session expected).1 = .ok r) : r.params = fields := by
  unfold submit at h
  split at h
  · exact params_of_submitSimulated h
  · split at h
    · exact params_of_enroll h
    · split at h
      · exact params_of_submitSimulated h
      · cases h

/-! ### Reports -/

/-- The record of a job that is replaced and reported. -/
theorem effect_keepAndReport {t u : Tracker σ} {r r' : Record} (hjobs : u.jobs = t.jobs)
    (hget : t.jobs.get? r.id = some r) (hopen : r.status.isTerminal = false) (hmoves : r.Moves r') :
    t.Effect (answering .reported (granted (u.keepAndReport r'))).1
      (answering .reported (granted (u.keepAndReport r'))).2.jobs := by
  show t.Effect (.ok (.reported (r'.report u.outside.now))) (u.jobs.put r'.id r')
  rw [hjobs, hmoves.id_eq]
  exact .replaced r r' _ hget hopen hmoves

/-- The record of a job is found under its own id. -/
theorem Filed.get?_of_record (hfiled : t.Filed) {id : Text} {r : Record}
    (hrecord : t.record id = .ok r) : t.jobs.get? r.id = some r := by
  have hget : t.jobs.get? id = some r := record_ok_iff.mp hrecord
  rw [hfiled id r hget]
  exact hget

/-- A poll tells of a job, moves it, or is refused. -/
theorem effect_poll (hfiled : t.Filed) (id : Text) :
    t.Effect (t.perform service (.poll id)).1 (t.perform service (.poll id)).2.jobs := by
  show t.Effect (answering .reported (t.poll service id)).1
    (answering .reported (t.poll service id)).2.jobs
  unfold poll
  split
  · rename_i fault _
    exact .refused fault
  · rename_i r hrecord
    have hid : t.jobs.get? r.id = some r := hfiled.get?_of_record hrecord
    split
    · -- nobody is asked about a job that has come to an end
      rename_i hend
      exact .retold r t.outside.now hid hend
    · rename_i hopen
      have hobserve : (t.observe service r).2.jobs = t.jobs := jobs_observe r
      dsimp only
      split
      · rename_i o u heq
        rw [heq] at hobserve
        exact effect_keepAndReport hobserve hid (by simpa using hopen) (.observed o t.outside.now)
      · rename_i fault u heq
        rw [heq] at hobserve
        -- a reported fault is noted in the record, any other goes through
        split
        · exact effect_keepAndReport hobserve hid (by simpa using hopen) (.lapsed t.outside.now)
        · exact effect_refused hobserve (.service fault)

/-- A cancellation moves one job or is refused. -/
theorem effect_cancel (hfiled : t.Filed) (id : Text) :
    t.Effect (t.perform service (.cancel id)).1 (t.perform service (.cancel id)).2.jobs := by
  show t.Effect (answering .reported (t.cancel service id)).1
    (answering .reported (t.cancel service id)).2.jobs
  unfold cancel
  split
  · rename_i fault _
    exact .refused fault
  · rename_i r hrecord
    have hid : t.jobs.get? r.id = some r := hfiled.get?_of_record hrecord
    split
    · rename_i hcancellable
      have hopen : r.status.isTerminal = false := by
        simpa [Status.isCancellable] using hcancellable
      have hstop : (t.stop service r).2.jobs = t.jobs := jobs_stop r
      split
      · rename_i u heq
        rw [heq] at hstop
        exact effect_keepAndReport hstop hid hopen (.cancelled u.outside.now)
      · rename_i fault u heq
        rw [heq] at hstop
        -- the job counts as cancelled even if the service reports that it cannot stop it
        split
        · exact effect_keepAndReport hstop hid hopen (.cancelled u.outside.now)
        · exact effect_refused hstop (.service fault)
    · exact .refused _

/-- A download leaves the jobs as they are. -/
theorem effect_fetch (id : Text) :
    t.Effect (t.perform service (.fetch id)).1 (t.perform service (.fetch id)).2.jobs := by
  show t.Effect (answering .delivered (t.fetch service id)).1
    (answering .delivered (t.fetch service id)).2.jobs
  unfold fetch
  split
  · rename_i fault _
    exact .refused fault
  · rename_i r _
    split
    · have hfetch : (t.fetchFrom service r).2.jobs = t.jobs := jobs_fetchFrom r
      split
      · rename_i bytes u heq
        rw [heq] at hfetch
        show t.Effect (.ok (.delivered bytes)) u.jobs
        rw [show u.jobs = t.jobs from hfetch]
        exact .delivered bytes
      · rename_i fault u heq
        rw [heq] at hfetch
        split
        · exact effect_refused hfetch (.unreachableArtifact id fault)
        · exact effect_refused hfetch (.service fault)
    · exact .refused _

/-- **An operation does nothing else.** -/
theorem effect_perform (service : Option (Service σ)) (hfiled : t.Filed) (op : Operation) :
    t.Effect (t.perform service op).1 (t.perform service op).2.jobs := by
  cases op with
  | submit params session expected => exact effect_submit params session expected
  | poll id => exact effect_poll hfiled id
  | cancel id => exact effect_cancel hfiled id
  | fetch id => exact effect_fetch id
  | moveClock moment => exact .moved

/-! ## The jobs one by one -/

namespace Effect

variable {answer : Except TrackerFault Response} {jobs : Store Record}

/-- A job that was kept before: its record stays, or moves while the job has not come to an end. -/
theorem of_kept (heffect : t.Effect answer jobs)
    (hfresh : ∀ r, answer = .ok (.enrolled r) → t.jobs.get? r.id = none) {id : Text} {r : Record}
    (hget : t.jobs.get? id = some r) :
    jobs.get? id = some r ∨
      ∃ r', jobs.get? id = some r' ∧ r.status.isTerminal = false ∧ r.Moves r' := by
  cases heffect with
  | refused fault => exact Or.inl hget
  | delivered bytes => exact Or.inl hget
  | moved => exact Or.inl hget
  | retold told now htold hend => exact Or.inl hget
  | enrolled s session simulated params seconds now =>
    refine Or.inl ?_
    -- no job has the new id, so this one is another
    have hnone : t.jobs.get? s.id = none := hfresh _ rfl
    have hne : id ≠ s.id := by
      intro heq
      rw [heq, hnone] at hget
      cases hget
    rw [Store.get?_put_of_ne _ _ hne]
    exact hget
  | replaced old new now hold hopen hmoves =>
    -- the job is the one that moves, or it is not touched
    by_cases heq : id = old.id
    · rw [heq, hold] at hget
      cases hget
      rw [heq]
      exact Or.inr ⟨new, Store.get?_put_self _ _ _, hopen, hmoves⟩
    · rw [Store.get?_put_of_ne _ _ heq]
      exact Or.inl hget

/-- A job that is kept afterwards was kept as it is, has moved there, or is new. -/
theorem of_found (heffect : t.Effect answer jobs) {id : Text} {r' : Record}
    (hget : jobs.get? id = some r') :
    t.jobs.get? id = some r' ∨
      (∃ r, t.jobs.get? r.id = some r ∧ r.id = id ∧ r.status.isTerminal = false ∧ r.Moves r') ∨
      ∃ s session simulated params seconds now, s.id = id ∧
        r' = .ofSubmission s session simulated params seconds now := by
  cases heffect with
  | refused fault => exact Or.inl hget
  | delivered bytes => exact Or.inl hget
  | moved => exact Or.inl hget
  | retold told now htold hend => exact Or.inl hget
  | enrolled s session simulated params seconds now =>
    by_cases heq : id = s.id
    · rw [heq, Store.get?_put_self] at hget
      cases hget
      exact Or.inr (Or.inr ⟨s, session, simulated, params, seconds, now, heq.symm, rfl⟩)
    · rw [Store.get?_put_of_ne _ _ heq] at hget
      exact Or.inl hget
  -- Only the job that was moved is another; all others are found as they were.
  | replaced old new now hold hopen hmoves =>
    by_cases heq : id = old.id
    · rw [heq, Store.get?_put_self] at hget
      cases hget
      exact Or.inr (Or.inl ⟨old, hold, heq.symm, hopen, hmoves⟩)
    · rw [Store.get?_put_of_ne _ _ heq] at hget
      exact Or.inl hget

/-- What is reported is how the job is kept. -/
theorem of_reported (heffect : t.Effect answer jobs) {report : StatusReport}
    (hreport : answer = .ok (.reported report)) :
    ∃ r now, jobs.get? report.id = some r ∧ report = r.report now := by
  cases heffect with
  | refused fault => cases hreport
  | delivered bytes => cases hreport
  | moved => cases hreport
  | retold r now hget hend =>
    cases hreport
    exact ⟨r, now, hget, rfl⟩
  | enrolled s session simulated params seconds now => cases hreport
  -- The report is of the record just put in place, filed under the same id.
  | replaced r r' now hget hopen hmoves =>
    cases hreport
    refine ⟨r', now, ?_, rfl⟩
    show (t.jobs.put r.id r').get? r'.id = some r'
    rw [hmoves.id_eq]
    exact Store.get?_put_self _ _ _

/-- A job that is taken is kept under its own id, as it was submitted. -/
theorem of_enrolled (heffect : t.Effect answer jobs) {r : Record}
    (henrolled : answer = .ok (.enrolled r)) :
    jobs.get? r.id = some r ∧ ∃ s session simulated params seconds now,
      r = .ofSubmission s session simulated params seconds now := by
  cases heffect with
  | refused fault => cases henrolled
  | delivered bytes => cases henrolled
  | moved => cases henrolled
  | retold told now htold hend => cases henrolled
  | enrolled s session simulated params seconds now =>
    cases henrolled
    exact ⟨Store.get?_put_self _ _ _, s, session, simulated, params, seconds, now, rfl⟩
  | replaced r r' now hget hopen hmoves => cases henrolled

end Effect

/-- Whatever is done, each record is kept under its own id. -/
theorem filed_perform (service : Option (Service σ)) (hfiled : t.Filed) (op : Operation) :
    (t.perform service op).2.Filed := by
  intro id r' hget
  rcases (effect_perform service hfiled op).of_found hget with
    hsame | ⟨r, -, hid, -, hmoves⟩ | ⟨s, session, simulated, params, seconds, now, hid, rfl⟩
  · exact hfiled id r' hsame
  · rw [hmoves.id_eq]
    exact hid
  · exact hid

/-- A run keeps every job under its own id. -/
theorem filed_run (service : Option (Service σ)) (hfiled : t.Filed) (ops : List Operation) :
    (t.run service ops).Filed := by
  induction ops generalizing t with
  | nil => exact hfiled
  | cons op ops ih => exact ih (filed_perform service hfiled op)

end Tracker

end FamilyDesign.Job
