import FamilyDesign.Proofs.Entries
import FamilyDesign.Proofs.Job.Run

/-!
# Jobs in the order in which they were taken

A record is replaced whenever its job is polled or cancelled, but never by one of another job, of
another session or of another age, and always in its place. So the records of a tracker are listed
in the order in which the jobs were taken, and only a submission adds to the list.

* **`Lists`** — how records are listed, each under the id of its job.
* **`Lists.of_effect`** — what is no submission leaves the list as it is.
* **`Submitted`** — all that a submission can do to the jobs; `submitted_submit` says that it does
  nothing else.
* **`ofSession_of_lists`** — the jobs of a session are found in the order of the list, where that is
  also the order of their age.
-/

namespace FamilyDesign.Job

/-- What never changes of a record: its job, the session of the job, and since when it is kept. -/
structure Origin where
  job : Text
  session : Text
  since : Instant

/-- Where a record comes from. -/
def Record.origin (r : Record) : Origin := ⟨r.id, r.session, r.createdAt⟩

theorem Record.Moves.origin_eq {r r' : Record} (h : r.Moves r') : r'.origin = r.origin := by
  cases h <;> rfl

/-- Whether records are kept in the order of a list, each under the id of its job. -/
def Lists (jobs : Store Record) (origins : List Origin) : Prop :=
  jobs.entries.map (fun e => (e.1, e.2.origin)) = origins.map fun o => (o.job, o)

namespace Lists

variable {jobs : Store Record} {origins : List Origin}

theorem empty : Lists {} [] := rfl

section

variable (h : Lists jobs origins)
include h

/-- The records have the origins listed, in their order. -/
theorem map_origin : jobs.values.map Record.origin = origins := by
  have hsnd := congrArg (List.map Prod.snd) h
  rw [List.map_map, List.map_map] at hsnd
  unfold Store.values
  rw [List.map_map]
  exact hsnd.trans (List.map_id origins)

theorem keys : jobs.keys = origins.map (·.job) := by
  have hfst := congrArg (List.map Prod.fst) h
  rw [List.map_map, List.map_map] at hfst
  exact hfst

/-- Each record is found under its own id. -/
theorem id_of_get? {id : Text} {r : Record} (hget : jobs.get? id = some r) : r.id = id := by
  have hmem : (id, r) ∈ jobs.entries := by
    obtain ⟨before, after, hsplit, -⟩ := List.lookup_eq_some_iff.mp hget
    rw [hsplit]
    simp
  have horigin := List.mem_map_of_mem (f := fun e : Text × Record => (e.1, e.2.origin)) hmem
  rw [h] at horigin
  obtain ⟨o, -, ho⟩ := List.mem_map.mp horigin
  obtain ⟨hjob, horigin⟩ := Prod.mk.inj ho
  rw [horigin] at hjob
  exact hjob

/-- A record that is replaced keeps its place. -/
theorem replaced {r r' : Record} (hget : jobs.get? r.id = some r) (horigin : r'.origin = r.origin) :
    Lists (jobs.put r.id r') origins := by
  have hplace := Entries.map_put_of_lookup (f := fun e : Text × Record => (e.1, e.2.origin)) hget
    (congrArg (Prod.mk r.id) horigin)
  exact hplace.trans h

/-- A new job comes last. -/
theorem enrolled {r : Record} (hnew : r.id ∉ origins.map (·.job)) :
    Lists (jobs.put r.id r) (origins ++ [r.origin]) := by
  rw [← h.keys] at hnew
  unfold Lists Store.put
  rw [Entries.put_of_not_mem r hnew, List.map_append, List.map_append, h]
  rfl

end

/-- **What is no submission leaves the list as it is.** -/
theorem of_effect {σ : Type} {t : Tracker σ} (h : Lists t.jobs origins)
    {answer : Except TrackerFault Response} {jobs : Store Record} (heffect : t.Effect answer jobs)
    (hno : ∀ r, answer ≠ .ok (.enrolled r)) : Lists jobs origins := by
  cases heffect with
  | refused fault => exact h
  | delivered bytes => exact h
  | moved => exact h
  | retold r now hget hend => exact h
  | enrolled s session simulated params seconds now => exact absurd rfl (hno _)
  | replaced r r' now hget hopen hmoves => exact h.replaced hget hmoves.origin_eq

end Lists

namespace Tracker

variable {σ : Type} {t : Tracker σ} {origins : List Origin}

section

variable (h : Lists t.jobs origins) (service : Option (Service σ)) (id : Text)
include h

theorem filed_of_lists : t.Filed := fun _ _ => h.id_of_get?

/-- A poll leaves the list as it is. -/
theorem lists_poll : Lists (t.poll service id).2.jobs origins := by
  have heffect : t.Effect (t.perform service (.poll id)).1
      (t.perform service (.poll id)).2.jobs := effect_poll (filed_of_lists h) id
  apply h.of_effect heffect
  exact answering_ne_enrolled Response.reported (fun _ _ => Response.noConfusion) _

/-- A cancellation leaves the list as it is. -/
theorem lists_cancel : Lists (t.cancel service id).2.jobs origins := by
  have heffect : t.Effect (t.perform service (.cancel id)).1
      (t.perform service (.cancel id)).2.jobs := effect_cancel (filed_of_lists h) id
  apply h.of_effect heffect
  exact answering_ne_enrolled Response.reported (fun _ _ => Response.noConfusion) _

/-- A download leaves the list as it is. -/
theorem lists_fetch : Lists (t.fetch service id).2.jobs origins := by
  have heffect : t.Effect (t.perform service (.fetch id)).1
      (t.perform service (.fetch id)).2.jobs := effect_fetch id
  apply h.of_effect heffect
  exact answering_ne_enrolled Response.delivered (fun _ _ => Response.noConfusion) _

end

/-! ## Submissions -/

/-- All that a submission for a session can do to the jobs of a tracker: none is kept, or the record
of a job is that is kept from this moment on. -/
inductive Submitted (t : Tracker σ) (session : Text) :
    Except TrackerFault Record × Tracker σ → Prop
  | refused (fault : TrackerFault) {t' : Tracker σ} (hjobs : t'.jobs = t.jobs) :
      Submitted t session (.error fault, t')
  | kept (r : Record) {t' : Tracker σ} (hjobs : t'.jobs = t.jobs.put r.id r)
      (hsession : r.session = session) (hsince : r.createdAt = t'.outside.now) :
      Submitted t session (.ok r, t')

/-- An enrolment adds its one job, or is refused and adds none. -/
theorem submitted_enroll {u : Tracker σ} (hjobs : u.jobs = t.jobs) (s : Submission)
    (simulated : Bool) (params : Json) (session : Text) (seconds : Checked Numeric.Binary64) :
    Submitted t session (u.enroll s simulated params (.text session) seconds) := by
  rcases enroll_cases u s simulated params (.text session) seconds with
    ⟨places, heq⟩ | ⟨session', params', seconds', hsession, -, -, heq⟩
  · rw [heq]
    exact .refused _ hjobs
  · cases hsession
    rw [heq]
    refine .kept _ ?_ rfl rfl
    rw [← hjobs]
    rfl

/-- A submission to the simulator adds its one job, or is refused and adds none. -/
theorem submitted_submitSimulated {u : Tracker σ} (hjobs : u.jobs = t.jobs) (params : Json)
    (session : Text) : Submitted t session (u.submitSimulated params (.text session)) := by
  unfold submitSimulated
  dsimp only
  split
  · refine submitted_enroll ?_ _ true params session _
    exact hjobs
  · exact .refused _ hjobs

/-- **A submission does nothing else to the jobs.** -/
theorem submitted_submit (service : Option (Service σ)) (t : Tracker σ) (params : Json)
    (session : Text) (expected : Json) :
    Submitted t session (t.submit service params (.text session) expected) := by
  unfold submit
  cases service with
  | none => exact submitted_submitSimulated rfl params session
  | some s =>
    -- The call to the service leaves the jobs, so only the enrolment behind it can add one.
    have hcall : (t.call (s.submit params)).2.jobs = t.jobs := jobs_call _
    dsimp only
    split
    · rename_i submission u heq
      rw [heq] at hcall
      exact submitted_enroll hcall _ _ _ _ _
    · rename_i fault u heq
      rw [heq] at hcall
      split
      · exact submitted_submitSimulated hcall params session
      · exact .refused _ hcall

/-! ## Jobs of a session -/

/-- **The jobs of a session are found in the order of the list.** -/
theorem ofSession_of_lists (h : Lists t.jobs origins)
    (hordered : origins.Pairwise fun a b => a.since.micros ≤ b.since.micros) (session : Text) :
    (t.ofSession session).map (·.origin) = origins.filter (·.session == session) := by
  have hvalues : t.jobs.values.Pairwise fun a b => a.createdAt.micros ≤ b.createdAt.micros := by
    rw [← h.map_origin, List.pairwise_map] at hordered
    exact hordered
  have hsorted : t.ofSession session = t.jobs.values.filter (·.session == session) := by
    unfold ofSession
    apply List.mergeSort_of_pairwise
    refine (hvalues.filter _).imp fun hle => ?_
    exact decide_eq_true hle
  rw [hsorted, ← h.map_origin, List.filter_map]
  rfl

end Tracker

end FamilyDesign.Job
