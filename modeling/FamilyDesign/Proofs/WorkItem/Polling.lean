import FamilyDesign.Proofs.Job.Run
import FamilyDesign.Proofs.WorkItem.Exchange

/-!
# Polling a work item

A poll of a job that runs at the work item service asks for its status once. Faults that the service
reports only mark the record, so the caller is told how the job stood before. A reply that makes no
sense is another matter: the fault leaves the poll as it is, and nothing is marked.

* **`IsAsked`** — the jobs that the service is asked about.
* **`Polled`** — what a poll comes to, in terms of the exchange.
* **`polled`** — every poll of a job that is kept is of this kind.
-/

namespace FamilyDesign

open Numeric (Binary64)
open Job

/-- Whether the service is asked about a job: it has not come to an end, and is not simulated. -/
def Job.Record.IsAsked (r : Record) : Prop := r.status.isTerminal = false ∧ r.simulated = false

/-- What a simulator does not know it reports. -/
theorem Job.Simulator.isReported_of_status {s : Simulator} {id : Text} {now : Instant}
    {fault : ServiceFault} (h : s.status id now = .error fault) : fault.isReported = true := by
  rcases bind_eq_error_iff.mp h with hjob | ⟨job, -, hobserved⟩
  · unfold job at hjob
    split at hjob
    · cases hjob
    · cases hjob
      rfl
  · split at hobserved
    · cases hobserved
    · cases hobserved

namespace Job.Tracker

variable {σ : Type} {service : Option (Service σ)} {t : Tracker σ} {id : Text} {r : Record}

/-! ## One poll -/

/-- A job that has ended is told of without asking. -/
theorem poll_of_isTerminal (h : t.jobs.get? id = some r) (hend : r.status.isTerminal = true) :
    t.poll service id = (.ok (r.report t.outside.now), t) := by
  unfold poll
  rw [record_ok_iff.mpr h]
  dsimp only
  rw [hend]
  rfl

/-- What is observed of a job that has not come to an end. -/
theorem poll_of_observe {o : Observation} {t' : Tracker σ} (h : t.jobs.get? id = some r)
    (hopen : r.status.isTerminal = false) (hobserve : t.observe service r = (.ok o, t')) :
    t.poll service id = granted (t'.keepAndReport (r.observe o t.outside.now)) := by
  unfold poll
  rw [record_ok_iff.mpr h]
  dsimp only
  rw [hopen, hobserve]
  rfl

/-- A fault that is reported marks the record. -/
theorem poll_of_reported {fault : ServiceFault} {t' : Tracker σ} (h : t.jobs.get? id = some r)
    (hopen : r.status.isTerminal = false) (hobserve : t.observe service r = (.error fault, t'))
    (hfault : fault.isReported = true) :
    t.poll service id = granted (t'.keepAndReport (r.lapse t.outside.now)) := by
  unfold poll
  rw [record_ok_iff.mpr h]
  dsimp only
  rw [hopen, hobserve]
  dsimp only
  rw [hfault]
  rfl

/-- Any other fault leaves the poll. -/
theorem poll_of_unreported {fault : ServiceFault} {t' : Tracker σ} (h : t.jobs.get? id = some r)
    (hopen : r.status.isTerminal = false) (hobserve : t.observe service r = (.error fault, t'))
    (hfault : fault.isReported = false) :
    t.poll service id = (.error (.service fault), t') := by
  unfold poll
  rw [record_ok_iff.mpr h]
  dsimp only
  rw [hopen, hobserve]
  dsimp only
  rw [hfault]
  rfl

/-- A job that the service is not asked about is always reported on. -/
theorem exists_report_of_not_isAsked (h : t.jobs.get? id = some r) (hasked : ¬r.IsAsked) :
    ∃ report, (t.poll service id).1 = .ok report := by
  cases hend : r.status.isTerminal with
  | true => exact ⟨_, congrArg Prod.fst (poll_of_isTerminal h hend)⟩
  | false =>
    have hsimulated : r.simulated = true := by
      cases hsimulated : r.simulated with
      | true => rfl
      | false => exact absurd ⟨hend, hsimulated⟩ hasked
    -- What is simulated is asked of the simulator, with or without a service.
    have hobserve : t.observe service r = (t.simulator.status r.id t.outside.now, t) := by
      unfold observe
      rw [hsimulated]
      cases service <;> rfl
    cases hstatus : t.simulator.status r.id t.outside.now with
    | ok o =>
      rw [hstatus] at hobserve
      exact ⟨_, congrArg Prod.fst (poll_of_observe h hend hobserve)⟩
    | error fault =>
      rw [hstatus] at hobserve
      exact ⟨_, congrArg Prod.fst (poll_of_reported h hend hobserve
        (Simulator.isReported_of_status hstatus))⟩

end Job.Tracker

namespace WorkItem

/-- What a poll of a job comes to that is kept as a record. -/
structure Polled (a : Account) (t : Tracker Connection) (id : Text) (r : Record) : Prop where
  /-- There is a report unless the service is asked and the exchange makes no sense. -/
  reported : (∃ report, (t.poll (some (service a)) id).1 = .ok report) ↔
    ¬(r.IsAsked ∧ Senseless a t.outside t.remote)
  /-- A status that is read moves the job along. -/
  read : r.IsAsked → HasToken a t.outside t.remote → ∀ fields o,
    (statusReply t.outside t.remote).content = .value (.object fields) →
    observationOf fields = .ok o →
      ∃ report, (t.poll (some (service a)) id).1 = .ok report ∧ report.degraded = false ∧
        report.status = Record.nextStatus r.status o.status ∧
        (t.poll (some (service a)) id).2.jobs = t.jobs.put r.id (r.observe o t.outside.now)
  /-- A status that cannot be read leaves the job as it is, and the report says so. -/
  unread : r.IsAsked → ¬Senseless a t.outside t.remote →
    ¬(HasToken a t.outside t.remote ∧
      ∃ fields, (statusReply t.outside t.remote).content = .value (.object fields)) →
      ∃ report, (t.poll (some (service a)) id).1 = .ok report ∧ report.degraded = true ∧
        report.status = r.status ∧ report.progress = r.progress ∧ report.message = r.message ∧
        (t.poll (some (service a)) id).2.jobs = t.jobs.put r.id (r.lapse t.outside.now)
  /-- An exchange that makes no sense leaves no mark. -/
  unmarked : r.IsAsked → Senseless a t.outside t.remote →
    (t.poll (some (service a)) id).2.jobs = t.jobs

section Poll

variable {a : Account} {t t' : Tracker Connection} {id : Text} {r : Record}

/-! ### What is observed of a job that the service is asked about -/

/-- The service is asked for the status. -/
theorem observe_of_isAsked (h : r.IsAsked) :
    t.observe (some (service a)) r = t.call (status a r.id) := by
  unfold Tracker.observe
  rw [h.2]
  rfl

section Observed

variable {x : Except ServiceFault Observation} (hasked : r.IsAsked)
  (hobserve : t.observe (some (service a)) r = (x, t'))

include hobserve

theorem jobs_of_observe : t'.jobs = t.jobs := by
  have hkept : (t.observe (some (service a)) r).2.jobs = t.jobs := Tracker.jobs_observe r
  rwa [hobserve] at hkept

include hasked

theorem run_status_of_observe : ((status a r.id).run (t.outside, t.remote)).1 = x := by
  rw [observe_of_isAsked hasked] at hobserve
  exact congrArg Prod.fst hobserve

theorem senseless_iff_of_observe : Senseless a t.outside t.remote ↔ Outcome.of x = .senseless := by
  rw [← run_status_of_observe hasked hobserve, outcome_status_senseless_iff]

/-- An observation is made just if there is a token, and fields that can be read. -/
theorem ok_iff_of_observe {o : Observation} : x = .ok o ↔ HasToken a t.outside t.remote ∧
    ∃ fields, (statusReply t.outside t.remote).content = .value (.object fields) ∧
      observationOf fields = .ok o := by
  rw [← run_status_of_observe hasked hobserve, status_eq_ok_iff]

end Observed

/-! ### The ends of a poll -/

/-- A status is read. -/
theorem polled_of_ok {o : Observation} (h : t.jobs.get? id = some r) (hasked : r.IsAsked)
    (hobserve : t.observe (some (service a)) r = (.ok o, t')) : Polled a t id r := by
  have hpoll := Tracker.poll_of_observe h hasked.1 hobserve
  have hsense : ¬Senseless a t.outside t.remote := by
    rw [senseless_iff_of_observe hasked hobserve]
    nofun
  obtain ⟨htoken, fields, hcontent, -⟩ := (ok_iff_of_observe hasked hobserve).mp rfl
  refine {
    reported := iff_of_true ⟨_, congrArg Prod.fst hpoll⟩ fun hboth => hsense hboth.2
    read := ?_
    unread := fun _ _ hunread => absurd ⟨htoken, fields, hcontent⟩ hunread
    unmarked := fun _ hnone => absurd hnone hsense }
  intro _ htoken' fields' o' hcontent' ho'
  cases (ok_iff_of_observe hasked hobserve).mpr ⟨htoken', fields', hcontent', ho'⟩
  rw [hpoll, ← jobs_of_observe hobserve]
  exact ⟨_, rfl, rfl, rfl, rfl⟩

section Fault

variable {fault : ServiceFault}

/-- Where the exchange ends in a fault no status is read. -/
theorem observationOf_ne_ok (hasked : r.IsAsked)
    (hobserve : t.observe (some (service a)) r = (.error fault, t')) (fields : Fields)
    (o : Observation) (htoken : HasToken a t.outside t.remote)
    (hcontent : (statusReply t.outside t.remote).content = .value (.object fields)) :
    observationOf fields ≠ .ok o := by
  intro ho
  cases (ok_iff_of_observe hasked hobserve).mpr ⟨htoken, fields, hcontent, ho⟩

/-- The service reports a fault. -/
theorem polled_of_reported (h : t.jobs.get? id = some r) (hasked : r.IsAsked)
    (hobserve : t.observe (some (service a)) r = (.error fault, t'))
    (hfault : fault.isReported = true) : Polled a t id r := by
  have hpoll := Tracker.poll_of_reported h hasked.1 hobserve hfault
  have hsense : ¬Senseless a t.outside t.remote := by
    rw [senseless_iff_of_observe hasked hobserve, Outcome.of_error_reported hfault]
    nofun
  refine {
    reported := iff_of_true ⟨_, congrArg Prod.fst hpoll⟩ fun hboth => hsense hboth.2
    read := fun _ htoken fields o hcontent ho =>
      absurd ho (observationOf_ne_ok hasked hobserve fields o htoken hcontent)
    unread := ?_
    unmarked := fun _ hnone => absurd hnone hsense }
  intro _ _ _
  rw [hpoll, ← jobs_of_observe hobserve]
  exact ⟨_, rfl, rfl, rfl, rfl, rfl, rfl⟩

/-- The exchange makes no sense. -/
theorem polled_of_unreported (h : t.jobs.get? id = some r) (hasked : r.IsAsked)
    (hobserve : t.observe (some (service a)) r = (.error fault, t'))
    (hfault : fault.isReported = false) : Polled a t id r := by
  have hpoll := Tracker.poll_of_unreported h hasked.1 hobserve hfault
  have hnone : Senseless a t.outside t.remote :=
    (senseless_iff_of_observe hasked hobserve).mpr (Outcome.of_error_unreported hfault)
  refine {
    reported := ?_
    read := fun _ htoken fields o hcontent ho =>
      absurd ho (observationOf_ne_ok hasked hobserve fields o htoken hcontent)
    unread := fun _ hsense => absurd hnone hsense
    unmarked := ?_ }
  · rw [hpoll]
    refine iff_of_false ?_ fun hboth => hboth ⟨hasked, hnone⟩
    rintro ⟨report, hreport⟩
    cases hreport
  · intro _ _
    rw [hpoll]
    exact jobs_of_observe hobserve

end Fault

/-- The service is not asked. -/
theorem polled_of_not_isAsked (h : t.jobs.get? id = some r) (hasked : ¬r.IsAsked) :
    Polled a t id r where
  reported := iff_of_true (Tracker.exists_report_of_not_isAsked h hasked) fun hboth =>
    hasked hboth.1
  read := fun hasked' => absurd hasked' hasked
  unread := fun hasked' => absurd hasked' hasked
  unmarked := fun hasked' => absurd hasked' hasked

/-- **What a poll comes to.** Of a job that is kept, a poll gives a report just if the service is
not asked about it or the exchange makes sense. If the status can be read the job moves along, if
not it stays as it is and is reported as degraded. -/
theorem polled (a : Account) (t : Tracker Connection) (id : Text) (r : Record)
    (h : t.jobs.get? id = some r) : Polled a t id r := by
  by_cases hasked : r.IsAsked
  · cases hobserve : t.observe (some (service a)) r with
    | mk x t' =>
      cases x with
      | ok o => exact polled_of_ok h hasked hobserve
      | error fault =>
        cases hfault : fault.isReported with
        | true => exact polled_of_reported h hasked hobserve hfault
        | false => exact polled_of_unreported h hasked hobserve hfault
  · exact polled_of_not_isAsked h hasked

end Poll

/-! ### A reply that makes no sense -/

/-- An account with all that it takes. -/
def plainAccount : Account where
  clientId := "c"
  clientSecret := "s"
  endpoint := "https://e/"
  activity := "a"
  templateUrl := "t"
  bucketKey := "b"
  storageUrl := standardStorage

/-- A tracker that keeps one job of the service and holds a token, with the replies to come. -/
def trackerWith (r : Record) (replies : List Http.Reply) : Tracker Connection where
  outside := { now := ⟨0⟩ }
  remote := { network := { replies }, token := some (.text "k"), useUntil := 1 }
  jobs := ({} : Store Record).put r.id r

/-- A job that has just been submitted. -/
def submittedJob : Record :=
  Record.ofSubmission ⟨"j", "pending", none⟩ "" false [] 150 ⟨0⟩

theorem usableToken?_trackerWith (replies : List Http.Reply) :
    usableToken? (trackerWith submittedJob replies).outside (trackerWith submittedJob replies).remote
      = some (.text "k") := by
  refine Option.filter_eq_some_iff.mpr ⟨rfl, ?_⟩
  show (true && decide ((0 : Binary64) < 1)) = true
  decide +kernel

theorem statusReply_trackerWith (reply : Http.Reply) :
    statusReply (trackerWith submittedJob [reply]).outside (trackerWith submittedJob [reply]).remote
      = reply := by
  unfold statusReply
  rw [usableToken?_trackerWith]
  rfl

/-- A list in place of an object raises a fault; a service in trouble only marks the job. -/
theorem polled_list :
    (¬∃ report, ((trackerWith submittedJob [.answered 200 "[1]"]).poll
      (some (service plainAccount)) "j").1 = .ok report) ∧
    ∃ report, ((trackerWith submittedJob [.answered 503 "[1]"]).poll
      (some (service plainAccount)) "j").1 = .ok report ∧ report.degraded = true ∧
        report.status = submittedJob.status := by
  have hkept : ∀ replies, (trackerWith submittedJob replies).jobs.get? "j" = some submittedJob :=
    fun _ => Store.get?_put_self _ _ _
  have hasked : submittedJob.IsAsked := by
    refine ⟨?_, rfl⟩
    decide +kernel
  have hlist : (Http.Reply.answered 200 "[1]").content = .value (.array [.int 1]) := rfl
  have htrouble : (Http.Reply.answered 503 "[1]").content = .nothing := rfl
  refine ⟨?_, ?_⟩
  · have hpolled := polled plainAccount _ "j" submittedJob (hkept [.answered 200 "[1]"])
    intro hreport
    refine hpolled.reported.mp hreport ⟨hasked, .status (.held _ (usableToken?_trackerWith _)) ?_⟩
    rw [statusReply_trackerWith]
    exact .noObject _ hlist nofun
  · have hpolled := polled plainAccount _ "j" submittedJob (hkept [.answered 503 "[1]"])
    -- The reply has no content, so none of the senseless forms fits.
    have hunread : ∀ v, (Http.Reply.answered 503 "[1]").content ≠ .value v := by
      intro v hv
      rw [htrouble] at hv
      cases hv
    have hsense : ¬Senseless plainAccount (trackerWith submittedJob [.answered 503 "[1]"]).outside
        (trackerWith submittedJob [.answered 503 "[1]"]).remote := by
      intro hsenseless
      cases hsenseless with
      | credentials hnone =>
        rw [usableToken?_trackerWith] at hnone
        cases hnone
      | token hnone =>
        rw [usableToken?_trackerWith] at hnone
        cases hnone
      | status _ hreply =>
        rw [statusReply_trackerWith] at hreply
        cases hreply with
        | nested h =>
          rw [htrouble] at h
          cases h
        | noObject v h => exact hunread v h
        | progress fields n h => exact hunread _ h
        | reportUrl fields v h => exact hunread _ h
    obtain ⟨report, hreport, hdegraded, hstatus, -⟩ := hpolled.unread hasked hsense <| by
      rintro ⟨-, fields, hfields⟩
      rw [statusReply_trackerWith] at hfields
      exact hunread _ hfields
    exact ⟨report, hreport, hdegraded, hstatus⟩

end WorkItem

end FamilyDesign
