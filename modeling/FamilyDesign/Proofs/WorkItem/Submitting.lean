import FamilyDesign.Proofs.Design.Values
import FamilyDesign.Proofs.WorkItem.Conversation
import FamilyDesign.Proofs.WorkItem.Polling

/-!
# Submitting work items

A tracker keeps the record of a work item that the service takes, and one of a simulated job where
the service refuses. Where the service is in trouble nothing is kept and the caller may try again.
Which of these it is depends on the conversation alone, reply by reply. One reply is not heeded:
that to a request for a token that is refused with the code of a bucket that exists.

* **`Submitted`** — what a submission comes to, by the replies that it goes by.
* **`Promised`** — what it should come to, by all replies.
* **`submitted`** — every submission is of the first kind; it is of the second just if it does not
  end with a fault that nobody has foreseen and it does no harm that a refusal is overlooked.
-/

namespace FamilyDesign

open Numeric (Binary64)
open Job

namespace Job.Tracker

variable {σ : Type} {s : Service σ} {t t' : Tracker σ} {params : Fields} {session : Text}
  {expected : Json}

/-! ## What a tracker makes of an answer -/

/-- A call of the tracker is a run from its clock and its connection. -/
theorem call_of_run {α : Type} {c : Call σ α} {x : Except ServiceFault α}
    {now : Surroundings × σ} (h : c.run (t.outside, t.remote) = (x, now)) :
    t.call c = (x, { t with outside := now.1, remote := now.2 }) := by
  unfold call
  rw [h]

/-- A job that the service takes. -/
theorem submit_of_ok {submission : Submission} {seconds : Binary64}
    (hseconds : expectedOr expected = .valid seconds)
    (h : t.call (s.submit (.object params)) = (.ok submission, t')) :
    ∃ r, t.submit (some s) (.object params) (.text session) expected = granted (r, t'.keep r) ∧
      r.id = submission.id ∧ r.simulated = false := by
  refine ⟨.ofSubmission submission session false params seconds t'.outside.now, ?_, rfl, rfl⟩
  unfold submit
  dsimp only
  rw [h]
  dsimp only
  rw [hseconds]
  rfl

/-- A job that the service refuses is simulated. -/
theorem submit_of_rejection {fault : ServiceFault} (hfault : fault.isRejection = true)
    (h : t.call (s.submit (.object params)) = (.error fault, t')) :
    ∃ r, ∃ u : Tracker σ,
      t.submit (some s) (.object params) (.text session) expected = granted (r, u.keep r) ∧
        r.simulated = true ∧ u.jobs = t'.jobs ∧ u.remote = t'.remote := by
  unfold submit
  dsimp only
  rw [h]
  dsimp only
  rw [hfault, if_pos rfl]
  exact ⟨_, _, rfl, rfl, rfl, rfl⟩

/-- Any other fault is handed on. -/
theorem submit_of_fault {fault : ServiceFault} (hfault : fault.isRejection = false)
    (h : t.call (s.submit (.object params)) = (.error fault, t')) :
    t.submit (some s) (.object params) (.text session) expected
      = (.error (.service fault), t') := by
  unfold submit
  dsimp only
  rw [h]
  dsimp only
  rw [hfault]
  rfl

end Job.Tracker

namespace WorkItem

/-! ## Submissions to a tracker -/

/-- A submission to a tracker with the service of an account. -/
def submitTo (a : Account) (t : Tracker Connection) (params : Fields) (session : Text)
    (expected : Json) : Except TrackerFault Record × Tracker Connection :=
  t.submit (some (service a)) (.object params) (.text session) expected

/-- One record is kept, and returned. -/
def Stores (t : Tracker Connection) (x : Except TrackerFault Record × Tracker Connection)
    (r : Record) : Prop :=
  x.1 = .ok r ∧ x.2.jobs = t.jobs.put r.id r

/-- Nothing is kept, and there is a fault of the service. -/
def Raises (t : Tracker Connection) (x : Except TrackerFault Record × Tracker Connection)
    (fault : ServiceFault) : Prop :=
  x.1 = .error (.service fault) ∧ x.2.jobs = t.jobs

/-- What a submission comes to, by the replies that it goes by. -/
structure Submitted (a : Account) (t : Tracker Connection) (params : Fields) (log : List Exchange)
    (x : Except TrackerFault Record × Tracker Connection) : Prop where
  conversation : Conversation a params log
  sent : x.2.remote.network.sent = t.remote.network.sent ++ log.map (·.request)
  heard : ∀ i e, log[i]? = some e → e.reply = t.remote.reply i
  unconfigured : a.missing ≠ [] → log = []
  /-- Where something is missing or the service refuses there is one simulated job. -/
  refused : (a.missing ≠ [] ∨ ∃ e ∈ heeded log, e.judgement = .refuses) →
    ∃ r, Stores t x r ∧ r.simulated = true
  /-- Where it is in trouble the caller may try again. -/
  failed : (∃ e ∈ heeded log, e.judgement = .fails) →
    ∃ message code, Raises t x (.transient message code)
  /-- A reply without sense is a fault that nobody has foreseen. -/
  senseless : (∃ e ∈ heeded log, e.judgement = .senseless) →
    ∃ fault, Raises t x fault ∧ fault.isReported = false
  /-- Otherwise there is one job, with the id that the service has returned; unless the account
  itself cannot be sent. -/
  accepted : a.missing = [] → AllPass (heeded log) →
    (∃ r, Stores t x r ∧ r.simulated = false ∧ ∃ e ∈ log, e.Returns r.id) ∨
      ¬a.Encodable ∧ ∃ fault, Raises t x fault ∧ fault.isReported = false

/-- What a submission should come to, by all replies. -/
structure Promised (a : Account) (t : Tracker Connection) (log : List Exchange)
    (x : Except TrackerFault Record × Tracker Connection) : Prop where
  order : ∀ before e after, log = before ++ e :: after → e.purpose = .item →
    (∃ b ∈ before, b.FindsBucket) ∧ ∃ url, ∃ s ∈ before, s.Gives url
  refused : (a.missing ≠ [] ∨ ∃ e ∈ log, e.judgement = .refuses) →
    ∃ r, Stores t x r ∧ r.simulated = true
  failed : (∃ e ∈ log, e.judgement = .fails) → ∃ message code, Raises t x (.transient message code)
  accepted : a.missing = [] → (∀ e ∈ log, e.judgement ≠ .refuses ∧ e.judgement ≠ .fails) →
    ∃ r, Stores t x r ∧ r.simulated = false ∧ ∃ e ∈ log, e.Returns r.id

section Endings

variable {a : Account} {log : List Exchange} {fault : ServiceFault}

/-- A reply that does not let a call go on is the one that it ends by. -/
theorem Faulted.ends (h : Faulted a log fault) {e : Exchange} (he : e ∈ log)
    (hjudgement : e.judgement ≠ .passes) : e.Ends fault := by
  cases h with
  | ended init last hlog hinit hlast =>
    rw [hlog] at he
    rcases List.mem_append.mp he with he | he
    · exact absurd (hinit e he) hjudgement
    · rw [List.mem_singleton.mp he]
      exact hlast
  | unencodable hlog hfault ha => exact absurd (hlog e he) hjudgement

/-- Where all replies let it go on it is the account that cannot be sent. -/
theorem Faulted.of_allPass (h : Faulted a log fault) (hlog : AllPass log) :
    fault.isReported = false ∧ ¬a.Encodable := by
  cases h with
  | ended init last hsplit hinit hlast =>
    exact absurd (hlog last (by rw [hsplit]; simp)) hlast.judgement_ne
  | unencodable hlog hfault ha => exact ⟨hfault, ha⟩

end Endings

/-- A rejection is a fault that the service reports. -/
theorem isRejection_of_isReported {fault : ServiceFault} (h : fault.isReported = false) :
    fault.isRejection = false := by
  cases fault with
  | rejected message code => cases h
  | _ => rfl

section Submission

variable {a : Account} {t t' : Tracker Connection} {params : Fields} {session : Text}
  {expected : Json} {log : List Exchange}

/-- One simulated job is kept where the service refuses. -/
theorem stores_of_rejection {fault : ServiceFault} (hfault : fault.isRejection = true)
    (hcall : t.call ((service a).submit (.object params)) = (.error fault, t')) :
    (∃ r, Stores t (submitTo a t params session expected) r ∧ r.simulated = true) ∧
      (submitTo a t params session expected).2.remote = t'.remote := by
  obtain ⟨r, u, hsubmit, hsimulated, hjobs, hremote⟩ :
      ∃ r, ∃ u : Tracker Connection,
        submitTo a t params session expected = Tracker.granted (r, u.keep r) ∧
          r.simulated = true ∧ u.jobs = t'.jobs ∧ u.remote = t'.remote :=
    Tracker.submit_of_rejection hfault hcall
  have hkept : t'.jobs = t.jobs := congrArg (fun y => y.2.jobs) hcall.symm
  rw [hsubmit]
  refine ⟨⟨r, ⟨rfl, ?_⟩, hsimulated⟩, hremote⟩
  show u.jobs.put r.id r = _
  rw [hjobs, hkept]

/-- Nothing is kept where it does not answer. -/
theorem raises_of_fault {fault : ServiceFault} (hfault : fault.isRejection = false)
    (hcall : t.call ((service a).submit (.object params)) = (.error fault, t')) :
    Raises t (submitTo a t params session expected) fault ∧
      (submitTo a t params session expected).2.remote = t'.remote := by
  have hsubmit : submitTo a t params session expected = (.error (.service fault), t') :=
    Tracker.submit_of_fault hfault hcall
  have hkept : t'.jobs = t.jobs := congrArg (fun y => y.2.jobs) hcall.symm
  rw [hsubmit]
  exact ⟨⟨rfl, hkept⟩, rfl⟩

/-- A submission of an account that lacks something. -/
theorem submitted_of_missing (hmissing : a.missing ≠ []) :
    Submitted a t params [] (submitTo a t params session expected) := by
  obtain ⟨fault, hcall, hfault⟩ : ∃ fault,
      t.call ((service a).submit (.object params)) = (.error fault, t) ∧
        fault.isRejection = true := by
    show ∃ fault, t.call (submit a (.object params)) = _ ∧ _
    unfold submit checkConfigured
    cases hnames : a.missing with
    | nil => exact absurd hnames hmissing
    | cons name rest => exact ⟨_, rfl, rfl⟩
  obtain ⟨hstores, hremote⟩ := stores_of_rejection hfault hcall
  exact {
    conversation := conversation_of_no_item (List.forall_mem_nil _) (List.forall_mem_nil _) rfl
    sent := by rw [hremote]; exact (List.append_nil _).symm
    heard := fun i e he => by cases he
    unconfigured := fun _ => rfl
    refused := fun _ => hstores
    failed := fun ⟨e, he, _⟩ => nomatch he
    senseless := fun ⟨e, he, _⟩ => nomatch he
    accepted := fun h => absurd h hmissing }

/-- A job that the service takes. -/
theorem submitted_of_ok {seconds : Binary64} {submission : Submission}
    (hseconds : Tracker.expectedOr expected = .valid seconds) (hmissing : a.missing = [])
    (hcall : t.call ((service a).submit (.object params)) = (.ok submission, t'))
    (hcarries : Carries (t.outside, t.remote) log (t'.outside, t'.remote))
    (h : Submits a params log (.ok submission)) :
    Submitted a t params log (submitTo a t params session expected) := by
  obtain ⟨r, hsubmit, hid, hreal⟩ : ∃ r,
      submitTo a t params session expected = Tracker.granted (r, t'.keep r) ∧
        r.id = submission.id ∧ r.simulated = false := Tracker.submit_of_ok hseconds hcall
  have hkept : t'.jobs = t.jobs := congrArg (fun y => y.2.jobs) hcall.symm
  have hpasses : AllPass (heeded log) := h.ending
  -- All replies pass, so none refuses, fails or makes no sense.
  have hnot : ∀ j : Judgement, j ≠ .passes → ¬∃ e ∈ heeded log, e.judgement = j := by
    rintro j hj ⟨e, he, rfl⟩
    exact hj (hpasses e he)
  have hstores : Stores t (submitTo a t params session expected) r := by
    rw [hsubmit]
    refine ⟨rfl, ?_⟩
    show t'.jobs.put r.id r = _
    rw [hkept]
  exact {
    conversation := h.conversation
    sent := by rw [hsubmit]; exact hcarries.sent
    heard := hcarries.heard
    unconfigured := fun hne => absurd hmissing hne
    refused := by
      rintro (hne | he)
      · exact absurd hmissing hne
      · exact absurd he (hnot _ nofun)
    failed := fun he => absurd he (hnot _ nofun)
    senseless := fun he => absurd he (hnot _ nofun)
    accepted := fun _ _ => .inl ⟨r, hstores, hreal, by rw [hid]; exact h.returned submission rfl⟩ }

/-- A call of the service that ends with a fault. -/
theorem submitted_of_error {fault : ServiceFault} (hmissing : a.missing = [])
    (hcall : t.call ((service a).submit (.object params)) = (.error fault, t'))
    (hcarries : Carries (t.outside, t.remote) log (t'.outside, t'.remote))
    (h : Submits a params log (.error fault)) :
    Submitted a t params log (submitTo a t params session expected) := by
  have hfaulted : Faulted a (heeded log) fault := h.ending
  have hremote : (submitTo a t params session expected).2.remote = t'.remote := by
    cases hfault : fault.isRejection with
    | true => exact (stores_of_rejection hfault hcall).2
    | false => exact (raises_of_fault hfault hcall).2
  -- The fault is that of the one reply that does not pass.
  have hends : ∀ e ∈ heeded log, ∀ j, e.judgement = j → j ≠ .passes → e.Ends fault := by
    rintro e he j rfl hj
    exact hfaulted.ends he hj
  exact {
    conversation := h.conversation
    sent := by rw [hremote]; exact hcarries.sent
    heard := hcarries.heard
    unconfigured := fun hne => absurd hmissing hne
    refused := by
      rintro (hne | ⟨e, he, hjudgement⟩)
      · exact absurd hmissing hne
      · have hend := hends e he _ hjudgement nofun
        obtain ⟨message, code, rfl, -⟩ := (Exchange.ends_iff_of_refuses hjudgement).mp hend
        exact (stores_of_rejection rfl hcall).1
    failed := by
      rintro ⟨e, he, hjudgement⟩
      have hend := hends e he _ hjudgement nofun
      obtain ⟨message, code, rfl⟩ := (Exchange.ends_iff_of_fails hjudgement).mp hend
      exact ⟨message, code, (raises_of_fault rfl hcall).1⟩
    senseless := by
      rintro ⟨e, he, hjudgement⟩
      have hend := hends e he _ hjudgement nofun
      rw [Exchange.ends_iff_of_senseless hjudgement] at hend
      exact ⟨fault, (raises_of_fault (isRejection_of_isReported hend) hcall).1, hend⟩
    accepted := by
      intro _ hpasses
      obtain ⟨hreported, hencodable⟩ := hfaulted.of_allPass hpasses
      exact .inr ⟨hencodable, fault,
        (raises_of_fault (isRejection_of_isReported hreported) hcall).1, hreported⟩ }

/-- Every submission goes on as a conversation does. -/
theorem exists_submitted (a : Account) (t : Tracker Connection) (params : Fields) (session : Text)
    {seconds : Binary64} (hseconds : Tracker.expectedOr expected = .valid seconds) :
    ∃ log, Submitted a t params log (submitTo a t params session expected) := by
  by_cases hmissing : a.missing = []
  · obtain ⟨log, x, s', hrun, hcarries, hsubmits⟩ :=
      talks_submit hmissing params (t.outside, t.remote)
    have hcall : t.call ((service a).submit (.object params))
        = (x, { t with outside := s'.1, remote := s'.2 }) := Tracker.call_of_run hrun
    cases x with
    | ok submission => exact ⟨log, submitted_of_ok hseconds hmissing hcall hcarries hsubmits⟩
    | error fault => exact ⟨log, submitted_of_error hmissing hcall hcarries hsubmits⟩
  · exact ⟨[], submitted_of_missing hmissing⟩

/-! ### What is promised -/

variable {x : Except TrackerFault Record × Tracker Connection}

/-- A submission has ended as one that was refused. -/
theorem Submitted.refuses_of_stores (h : Submitted a t params log x) (hmissing : a.missing = [])
    {r : Record} (hstores : Stores t x r) (hsimulated : r.simulated = true) :
    ∃ e ∈ heeded log, e.judgement = .refuses := by
  have hno : ∀ fault, ¬Raises t x fault := fun fault hraises =>
    nomatch hstores.1.symm.trans hraises.1
  rcases judgement_cases (heeded log) with hrefuses | hfails | hsenseless | hpasses
  · exact hrefuses
  · obtain ⟨message, code, hraises⟩ := h.failed hfails
    exact absurd hraises (hno _)
  · obtain ⟨fault, hraises, -⟩ := h.senseless hsenseless
    exact absurd hraises (hno _)
  · rcases h.accepted hmissing hpasses with ⟨r', hstores', hreal, -⟩ | ⟨-, fault, hraises, -⟩
    · cases hstores.1.symm.trans hstores'.1
      cases hsimulated.symm.trans hreal
    · exact absurd hraises (hno _)

/-- Whether a submission ends with a record or with a fault that the service reports. -/
def Foreseen (x : Except TrackerFault Record × Tracker Connection) : Prop :=
  ∀ fault, x.1 = .error (.service fault) → fault.isReported = true

theorem Stores.foreseen {r : Record} (h : Stores t x r) : Foreseen x :=
  fun _ hfault => nomatch h.1.symm.trans hfault

theorem Raises.foreseen {message : Text} {code : Option Int}
    (h : Raises t x (.transient message code)) : Foreseen x := by
  intro fault hfault
  cases h.1.symm.trans hfault
  rfl

theorem Raises.not_foreseen {fault : ServiceFault} (h : Raises t x fault)
    (hfault : fault.isReported = false) : ¬Foreseen x := fun hforeseen =>
  nomatch hfault.symm.trans (hforeseen fault h.1)

/-- What was promised was foreseen. -/
theorem Promised.foreseen (h : Promised a t log x) : Foreseen x := by
  by_cases hrefused : a.missing ≠ [] ∨ ∃ e ∈ log, e.judgement = .refuses
  · obtain ⟨r, hstores, -⟩ := h.refused hrefused
    exact hstores.foreseen
  · rw [not_or, not_not] at hrefused
    by_cases hfailed : ∃ e ∈ log, e.judgement = .fails
    · obtain ⟨message, code, hraises⟩ := h.failed hfailed
      exact hraises.foreseen
    · obtain ⟨r, hstores, -⟩ := h.accepted hrefused.1 fun e he =>
        ⟨fun hj => hrefused.2 ⟨e, he, hj⟩, fun hj => hfailed ⟨e, he, hj⟩⟩
      exact hstores.foreseen

/-- Whether it makes no difference that a refusal is overlooked: the service refuses later as well,
before a work item is asked for. -/
def Harmless (log : List Exchange) : Prop :=
  Overlooks log → (∃ e ∈ heeded log, e.judgement = .refuses) ∧ ∀ e ∈ log, e.purpose ≠ .item

/-- A submission that keeps its promises was harmless. -/
theorem Submitted.harmless (h : Submitted a t params log x) (hpromised : Promised a t log x) :
    Harmless log := by
  intro hoverlooks
  obtain ⟨first, rest, rfl, hoverlooked⟩ := id hoverlooks
  have hmissing : a.missing = [] := by
    by_contra hmissing
    cases h.unconfigured hmissing
  refine ⟨?_, fun e he hitem => ?_⟩
  -- The refusal that is overlooked calls for a simulated job, and only another one brings it about.
  · obtain ⟨r, hstores, hsimulated⟩ :=
      hpromised.refused (.inr ⟨first, List.mem_cons_self, hoverlooked.judgement⟩)
    exact h.refuses_of_stores hmissing hstores hsimulated
  · obtain ⟨before, after, hsplit⟩ := List.append_of_mem he
    obtain ⟨⟨b, hb, hbucket, -⟩, -⟩ := hpromised.order before e after hsplit hitem
    refine h.conversation.unasked hoverlooks b ?_ hbucket
    rw [hsplit]
    exact List.mem_append_left _ hb

/-- A submission keeps what is promised unless there is a fault that nobody has foreseen, or it does
harm that a refusal is overlooked. -/
theorem Submitted.promised_iff (h : Submitted a t params log x) :
    Promised a t log x ↔ Foreseen x ∧ Harmless log := by
  constructor
  · exact fun hpromised => ⟨hpromised.foreseen, h.harmless hpromised⟩
  rintro ⟨hforeseen, hharmless⟩
  -- The replies that are heeded are all replies but a refusal, so only where one of these counts
  -- does it matter which of both lists is meant.
  refine ⟨?order, ?refused, ?failed, ?accepted⟩
  case order =>
    intro before e after hlog hitem
    obtain ⟨url, -, hgiven⟩ := h.conversation.address before e after hlog hitem
    refine ⟨h.conversation.bucket (fun hover => ?_) before e after hlog hitem, url, hgiven⟩
    exact (hharmless hover).2 e (by rw [hlog]; simp) hitem
  case refused =>
    refine fun he => h.refused (he.imp_right fun hrefuses => ?_)
    by_cases hover : Overlooks log
    · exact (hharmless hover).1
    · rwa [heeded_eq_self_iff.mpr hover]
  case failed =>
    rintro ⟨e, he, hjudgement⟩
    exact h.failed ⟨e, mem_heeded he (by rw [hjudgement]; nofun), hjudgement⟩
  case accepted =>
    intro hmissing hothers
    rcases judgement_cases (heeded log) with hrefuses | hfails | hsenseless | hpasses
    · obtain ⟨e, he, hjudgement⟩ := hrefuses
      exact absurd hjudgement (hothers e (mem_of_mem_heeded he)).1
    · obtain ⟨e, he, hjudgement⟩ := hfails
      exact absurd hjudgement (hothers e (mem_of_mem_heeded he)).2
    · obtain ⟨fault, hraises, hfault⟩ := h.senseless hsenseless
      exact absurd hforeseen (hraises.not_foreseen hfault)
    · rcases h.accepted hmissing hpasses with hstores | ⟨-, fault, hraises, hfault⟩
      · exact hstores
      · exact absurd hforeseen (hraises.not_foreseen hfault)

/-! ### Replies of the expected form -/

/-- Whether an object is of the expected form: ids, statuses, tokens and addresses are texts, and a
lifetime denotes a real number. -/
structure WellFormed (fields : Fields) : Prop where
  texts : ∀ key ∈ ["access_token", "signedUrl", "id", "status"], ∀ v, fields.lookup key = some v →
    ∃ s, v = .text s
  lifetime : ∀ v, fields.lookup "expires_in" = some v → ∃ seconds, v.Denotes seconds

/-- Whether a reply is of the expected form, as far as it can be read. -/
structure Exchange.IsRegular (e : Exchange) : Prop where
  unnested : e.reply.content ≠ .nested
  wellFormed : ∀ v, e.reply.content = .value v →
    ∃ fields : Fields, v = .object fields ∧ WellFormed fields

/-- A well-formed reply has a lifetime that is a number. -/
theorem WellFormed.exists_lifetime {fields : Fields} (h : WellFormed fields) :
    ∃ seconds, ((fields.lookup "expires_in").getD standardLifetime).toReal = .ok seconds := by
  cases hlookup : fields.lookup "expires_in" with
  | none => exact ⟨_, Json.toReal_int (by decide +kernel)⟩
  | some v =>
    obtain ⟨seconds, hseconds⟩ := h.lifetime v hlookup
    exact ⟨seconds, hseconds.toReal⟩

/-- A well-formed reply has a status that is a text. -/
theorem WellFormed.isSome_status {fields : Fields} (h : WellFormed fields) :
    ((fields.lookup "status").getD (.text "pending")).text?.isSome = true := by
  cases hlookup : fields.lookup "status" with
  | none => rfl
  | some v =>
    obtain ⟨word, rfl⟩ := h.texts "status" (by decide) v hlookup
    rfl

/-- An object of the expected form makes sense, whatever it answers. -/
theorem WellFormed.judgeFields_ne {fields : Fields} (h : WellFormed fields) (p : Purpose) :
    p.judgeFields fields ≠ .senseless := by
  intro hjudgement
  unfold Purpose.judgeFields at hjudgement
  cases p with
  | bucket => cases hjudgement
  | token =>
    obtain ⟨seconds, hseconds⟩ := h.exists_lifetime
    rw [hseconds] at hjudgement
    dsimp only at hjudgement
    split at hjudgement <;> cases hjudgement
  | address =>
    dsimp only at hjudgement
    split at hjudgement <;> cases hjudgement
  -- The id is a text because it is there and well-formed.
  | item =>
    dsimp only at hjudgement
    split at hjudgement
    · next htrue =>
      obtain ⟨id, hid⟩ := h.texts "id" (by decide) _ (lookup_of_isTrue htrue)
      rw [hid, h.isSome_status] at hjudgement
      cases hjudgement
    · cases hjudgement

/-- A regular exchange makes sense. -/
theorem Exchange.IsRegular.judgement_ne {e : Exchange} (h : e.IsRegular) :
    e.judgement ≠ .senseless := by
  cases hcontent : e.reply.content with
  | nothing =>
    unfold Exchange.judgement
    rw [hcontent]
    dsimp only
    split
    · nofun
    · split <;> nofun
  | nested => exact absurd hcontent h.unnested
  | value v =>
    obtain ⟨fields, rfl, hfields⟩ := h.wellFormed v hcontent
    rw [Exchange.judgement_of_fields hcontent]
    exact hfields.judgeFields_ne e.purpose

/-- Nothing but such replies is needed for a submission to end as foreseen. -/
theorem Submitted.foreseen (h : Submitted a t params log x) (hencodable : a.Encodable)
    (hregular : ∀ e ∈ log, e.IsRegular) : Foreseen x := by
  by_cases hmissing : a.missing = []
  · rcases judgement_cases (heeded log) with hrefuses | hfails | hsenseless | hpasses
    · obtain ⟨r, hstores, -⟩ := h.refused (.inr hrefuses)
      exact hstores.foreseen
    · obtain ⟨message, code, hraises⟩ := h.failed hfails
      exact hraises.foreseen
    · obtain ⟨e, he, hjudgement⟩ := hsenseless
      exact absurd hjudgement (hregular e (mem_of_mem_heeded he)).judgement_ne
    · rcases h.accepted hmissing hpasses with ⟨r, hstores, -⟩ | ⟨hnot, -⟩
      · exact hstores.foreseen
      · exact absurd hencodable hnot
  · obtain ⟨r, hstores, -⟩ := h.refused (.inl hmissing)
    exact hstores.foreseen

/-- Where the first request is a form, and its reply carries the code of a bucket that exists, a
refusal is overlooked. -/
theorem Submitted.overlooks (h : Submitted a t params log x) (hsent : t.remote.network.sent = [])
    (hform : (x.2.remote.network.sent.head?.bind (·.form)).isSome = true)
    (hreply : (t.remote.reply 0).code? = some 409) : Overlooks log := by
  rw [h.sent, hsent, List.nil_append] at hform
  cases log with
  | nil => cases hform
  | cons e rest =>
    refine ⟨e, rest, rfl, (h.conversation.asks e List.mem_cons_self).token_of_form hform, ?_⟩
    rwa [h.heard 0 e rfl]

/-- That does harm if there is a job all the same. -/
theorem Submitted.not_harmless (h : Submitted a t params log x) (hoverlooks : Overlooks log)
    (hreal : x.1.toOption.map (·.simulated) = some false) : ¬Harmless log := by
  intro hharmless
  obtain ⟨r, hstores, hsimulated⟩ := h.refused (.inr (hharmless hoverlooks).1)
  rw [hstores.1] at hreal
  cases hsimulated.symm.trans (Option.some.inj hreal)

/-- Every submission comes to what its replies say. It keeps what is promised unless it is ended by
a fault that nobody has foreseen, which no reply of the expected form brings about, or it does harm
that a refusal is overlooked. -/
theorem submitted (a : Account) (t : Tracker Connection) (params : Fields) (session : Text)
    {expected : Json} {seconds : Binary64}
    (hseconds : Tracker.expectedOr expected = .valid seconds) :
    ∃ log, Submitted a t params log (submitTo a t params session expected) ∧
      (Promised a t log (submitTo a t params session expected) ↔
        Foreseen (submitTo a t params session expected) ∧ Harmless log) ∧
      (a.Encodable → (∀ e ∈ log, e.IsRegular) →
        Foreseen (submitTo a t params session expected)) := by
  obtain ⟨log, h⟩ := exists_submitted a t params session hseconds
  exact ⟨log, h, h.promised_iff, h.foreseen⟩

/-- A tracker that holds no token, with the replies to come: the request for a token is refused with
the code of a bucket that exists, and all others are answered. -/
def trackerMisheard : Tracker Connection where
  outside := { now := ⟨0⟩ }
  remote := { network := { replies := [
    .answered 409 "",
    .answered 200 "\x7b\"access_token\":\"k\"\x7d",
    .answered 200 "\x7b\"signedUrl\":\"u\"\x7d",
    .answered 200 "\x7b\"id\":\"j\"\x7d"] } }

theorem submitted_trackerMisheard :
    ∃ log, Submitted plainAccount trackerMisheard [] log
        (submitTo plainAccount trackerMisheard [] "s" .null) ∧ Overlooks log ∧
      ¬Promised plainAccount trackerMisheard log
        (submitTo plainAccount trackerMisheard [] "s" .null) := by
  have hreal : (submitTo plainAccount trackerMisheard [] "s" .null).1.toOption.map
      (·.simulated) = some false := by decide +kernel
  have hform : ((submitTo plainAccount trackerMisheard [] "s"
      .null).2.remote.network.sent.head?.bind (·.form)).isSome = true := by decide +kernel
  obtain ⟨log, h, hpromised, -⟩ := submitted plainAccount trackerMisheard [] "s"
    (show Tracker.expectedOr .null = .valid Tracker.standardSeconds from rfl)
  have hoverlooks : Overlooks log := h.overlooks rfl hform rfl
  exact ⟨log, h, hoverlooks, fun hkept => h.not_harmless hoverlooks hreal (hpromised.mp hkept).2⟩

end Submission

end WorkItem

end FamilyDesign
