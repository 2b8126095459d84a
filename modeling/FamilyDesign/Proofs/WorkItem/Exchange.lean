import FamilyDesign.WorkItem.Service
import FamilyDesign.Proofs.Fallible

/-!
# What an exchange comes to

A call of the work item service sends one request after another and looks at the replies. What it
comes to depends on what the replies hold: there is an answer, or the service reports a fault, or a
reply makes no sense, which is a fault that nobody has foreseen.

* **`Reply.content`** — what a reply holds, whatever request it answers.
* **`Reads`** — what a request comes to, by the reply.
* **`Outcome`** — the three ends of a call.
* **`run_objectOf`**, **`run_renewToken`**, **`outcome_status`** — the ends of the calls that asking
  for a status is made of, in terms of the replies.
* **`outcome_status_senseless_iff`** — the replies of which asking for a status makes no sense.
-/

namespace FamilyDesign

open Numeric (Binary64)

namespace Http

/-- What a reply holds: nothing that can be read, values nested beyond the limit, or a value. -/
inductive Content
  | nothing
  | nested
  | value (v : Json)

/-- What a reply holds; an empty body is an empty object. -/
def Reply.content : Reply → Content
  | lost _ => .nothing
  | answered code body =>
    if 400 ≤ code then .nothing
    else if body.isEmpty then .value (.object [])
    else
      match Json.read body with
      | .ok v => .value v
      | .error fault => if (fault.limit?.filter (·.isNesting)).isSome then .nested else .nothing

/-- The status code of a reply, if there is one. -/
def Reply.code? : Reply → Option Int
  | lost _ => none
  | answered code _ => some code

/-- Whether a reply refuses the request: with a code from 400 up to 499. -/
def Reply.isRefusal : Reply → Bool
  | lost _ => false
  | answered code _ => decide (400 ≤ code) && decide (code < 500)

end Http

namespace WorkItem

open Job (Call ServiceFault Observation)

variable {α β : Type}

/-! ## Ends of a call -/

/-- What a call comes to: an answer, a fault that the service reports, or an answer that makes no
sense. -/
inductive Outcome (α : Type)
  | answer (a : α)
  | reported
  | senseless

namespace Outcome

/-- What comes of an answer. -/
def bind (x : Outcome α) (f : α → Outcome β) : Outcome β :=
  match x with
  | answer a => f a
  | reported => reported
  | senseless => senseless

/-- What a value or a fault comes to. -/
def of : Except ServiceFault α → Outcome α
  | .ok a => answer a
  | .error fault => if fault.isReported then reported else senseless

/-- A fault comes to what it does, whatever would have come of an answer. -/
theorem bind_of_error (fault : ServiceFault) (f : α → Outcome β) :
    (of (.error fault)).bind f = of (.error fault) := by
  show (if fault.isReported then reported else senseless : Outcome α).bind f
    = if fault.isReported then reported else senseless
  split <;> rfl

/-- The outcome of two calls in a row is that of the second, where the first answers. -/
theorem of_bind (x : Except ServiceFault α) (f : α → Except ServiceFault β) :
    of (x >>= f) = (of x).bind fun a => of (f a) := by
  cases x with
  | ok a => rfl
  | error fault => exact (bind_of_error fault _).symm

/-- A fault that is not reported is senseless. -/
theorem of_error_unreported {fault : ServiceFault} (h : fault.isReported = false) :
    of (.error fault : Except ServiceFault α) = senseless := by
  show (if fault.isReported then reported else senseless) = _
  rw [h]
  rfl

/-- A fault that is reported is so. -/
theorem of_error_reported {fault : ServiceFault} (h : fault.isReported = true) :
    of (.error fault : Except ServiceFault α) = reported := by
  show (if fault.isReported then reported else senseless) = _
  rw [h]
  rfl

theorem of_eq_answer_iff {x : Except ServiceFault α} {a : α} : of x = answer a ↔ x = .ok a := by
  cases x with
  | ok a' => simp [of]
  | error fault => cases h : fault.isReported <;> simp [of, h]

/-- Senseless are the faults that are not reported. -/
theorem of_eq_senseless_iff {x : Except ServiceFault α} :
    of x = senseless ↔ ∃ fault, x = .error fault ∧ fault.isReported = false := by
  cases x with
  | ok a => simp [of]
  | error fault => cases h : fault.isReported <;> simp [of, h]

/-- Reported are the faults that are. -/
theorem of_eq_reported_iff {x : Except ServiceFault α} :
    of x = reported ↔ ∃ fault, x = .error fault ∧ fault.isReported = true := by
  cases x with
  | ok a => simp [of]
  | error fault => cases h : fault.isReported <;> simp [of, h]

theorem bind_eq_senseless_iff {x : Outcome α} {f : α → Outcome β} :
    x.bind f = senseless ↔ x = senseless ∨ ∃ a, x = answer a ∧ f a = senseless := by
  cases x <;> simp [bind]

theorem bind_eq_answer_iff {x : Outcome α} {f : α → Outcome β} {b : β} :
    x.bind f = answer b ↔ ∃ a, x = answer a ∧ f a = answer b := by
  cases x <;> simp [bind]

end Outcome

open Outcome (of)

/-! ## Calls one after another -/

/-- Behind a call that succeeds the next one runs. -/
theorem run_bind_ok {c : Call Connection α} {f : α → Call Connection β} {a : α}
    {s s' : Surroundings × Connection} (h : c.run s = (.ok a, s')) :
    (c >>= f).run s = (f a).run s' := by
  show (ExceptT.bindCont f (c.run s).1) (c.run s).2 = _
  rw [h]
  rfl

/-- Behind a fault nothing runs. -/
theorem run_bind_error {c : Call Connection α} {f : α → Call Connection β} {fault : ServiceFault}
    {s s' : Surroundings × Connection} (h : c.run s = (.error fault, s')) :
    (c >>= f).run s = (.error fault, s') := by
  show (ExceptT.bindCont f (c.run s).1) (c.run s).2 = _
  rw [h]
  rfl

/-- A handler leaves what succeeds alone. -/
theorem run_tryCatch_ok {c : Call Connection α} {handler : ServiceFault → Call Connection α} {a : α}
    {s s' : Surroundings × Connection} (h : c.run s = (.ok a, s')) :
    (tryCatch c handler).run s = (.ok a, s') := by
  rw [ExceptT.run_tryCatch]
  simp only [bind, StateT.bind]
  rw [h]
  rfl

/-- A handler runs behind a fault. -/
theorem run_tryCatch_error {c : Call Connection α} {handler : ServiceFault → Call Connection α}
    {fault : ServiceFault} {s s' : Surroundings × Connection} (h : c.run s = (.error fault, s')) :
    (tryCatch c handler).run s = (handler fault).run s' := by
  rw [ExceptT.run_tryCatch]
  simp only [bind, StateT.bind]
  rw [h]

/-- What two calls come to, one after the other, if the first leaves the same state whatever it
answers. -/
theorem outcome_bind {c : Call Connection α} {f : α → Call Connection β} {x : Except ServiceFault α}
    {s s' : Surroundings × Connection} (h : c.run s = (x, s')) :
    of ((c >>= f).run s).1 = (of x).bind fun a => of ((f a).run s').1 := by
  cases x with
  | ok a =>
    rw [run_bind_ok h]
    rfl
  | error fault =>
    rw [run_bind_error h]
    exact (Outcome.bind_of_error fault _).symm

/-! ## Requests and replies -/

/-- A reply still to come. -/
def Connection.reply (c : Connection) (i : Nat) : Http.Reply :=
  c.network.replies.getD i Http.Network.exhausted

/-- The connection after a request. -/
def Connection.after (c : Connection) (r : Http.Request) : Connection :=
  { c with network := (c.network.send r).2 }

/-- Behind a request the replies move up. -/
theorem Connection.reply_after (c : Connection) (r : Http.Request) (i : Nat) :
    (c.after r).reply i = c.reply (i + 1) := by
  unfold reply after Http.Network.send
  cases c.network.replies with
  | nil => rfl
  | cons reply rest => rfl

/-- A request is answered with the next reply. -/
theorem send_fst (n : Http.Network) (r : Http.Request) :
    (n.send r).1 = n.replies.getD 0 Http.Network.exhausted := by
  unfold Http.Network.send
  cases n.replies with
  | nil => rfl
  | cons reply rest => rfl

/-- Sending takes the next reply and writes the request down. -/
theorem run_send (r : Http.Request) (outside : Surroundings) (c : Connection) :
    (send r).run (outside, c) = (.ok (c.reply 0), outside, c.after r) := by
  show (Except.ok (c.network.send r).1, outside, c.after r) = _
  rw [send_fst]
  rfl

/-- What a request comes to, by the reply. One that holds nothing is a fault: the service refuses
the request, or it is in trouble. -/
inductive Reads (reply : Http.Reply) : Except ServiceFault Json → Prop
  | value (v : Json) (h : reply.content = .value v) : Reads reply (.ok v)
  | refused (message : Text) (h : reply.content = .nothing) (hcode : reply.isRefusal = true) :
      Reads reply (.error (.rejected message reply.code?))
  | failed (message : Text) (code : Option Int) (h : reply.content = .nothing)
      (hcode : reply.isRefusal = false) : Reads reply (.error (.transient message code))
  | nested (limit : Limit) (h : reply.content = .nested) : Reads reply (.error (.beyond limit))

/-- A value is read just if it is the content of the reply. -/
theorem reads_ok_iff {reply : Http.Reply} {v : Json} :
    Reads reply (.ok v) ↔ reply.content = .value v := by
  constructor
  · intro h
    cases h with
    | value _ h => exact h
  · exact .value v

/-- A refusal has no content. -/
theorem content_of_code {code : Int} (hcode : 400 ≤ code) (body : Text) :
    (Http.Reply.answered code body).content = .nothing := by
  unfold Http.Reply.content
  dsimp only
  rw [if_pos hcode]

/-- A code of 400 or more is a fault. -/
theorem reads_refusal (r : Http.Request) {code : Int} (hcode : 400 ≤ code) (body : Text) :
    Reads (.answered code body) (.error (refusal r code body)) := by
  have hcontent := content_of_code hcode body
  unfold refusal
  dsimp only
  split
  · next hbelow =>
    refine .refused _ hcontent ?_
    show (decide (400 ≤ code) && decide (code < 500)) = true
    rw [decide_eq_true hcode, decide_eq_true hbelow]
    rfl
  · next hbelow =>
    refine .failed _ _ hcontent ?_
    show (decide (400 ≤ code) && decide (code < 500)) = false
    rw [decide_eq_false hbelow, Bool.and_false]

/-- The body of a reply, or the fault that stands for it. -/
theorem run_bodyOf (r : Http.Request) (outside : Surroundings) (c : Connection) :
    (∃ body, (bodyOf r).run (outside, c) = (.ok body, outside, c.after r) ∧
      ∃ code, c.reply 0 = .answered code body ∧ ¬400 ≤ code) ∨
    (∃ fault, (bodyOf r).run (outside, c) = (.error fault, outside, c.after r) ∧
      Reads (c.reply 0) (.error fault)) := by
  unfold bodyOf
  rw [run_bind_ok (run_send r outside c)]
  cases c.reply 0 with
  | lost reason => exact .inr ⟨_, rfl, .failed _ _ rfl rfl⟩
  | answered code body =>
    -- A code from 400 on is a refusal, whatever the body.
    by_cases hcode : 400 ≤ code
    · refine .inr ⟨refusal r code body, ?_, reads_refusal r hcode body⟩
      show ((if 400 ≤ code then fail (refusal r code body) else pure body :
        Call Connection Text)).run (outside, c.after r) = _
      rw [if_pos hcode]
      rfl
    · refine .inl ⟨body, ?_, code, rfl, hcode⟩
      show ((if 400 ≤ code then fail (refusal r code body) else pure body :
        Call Connection Text)).run (outside, c.after r) = _
      rw [if_neg hcode]
      rfl

/-- What a value in a reply comes to: it is asked for whatever it may be. -/
def valueIn (reply : Http.Reply) : Outcome Json :=
  match reply.content with
  | .nothing => .reported
  | .nested => .senseless
  | .value v => .answer v

/-- A body that cannot be read is a fault: of its own if it is nested beyond the limit, and one of
the service otherwise. -/
theorem reads_unreadable (r : Http.Request) {code : Int} (hcode : ¬400 ≤ code) {body : Text}
    (hbody : body.isEmpty = false) {fault : Json.Fault} (hread : Json.read body = .error fault) :
    Reads (.answered code body) (.error (unreadable r fault)) := by
  -- The content of the reply makes the same difference between faults.
  have hcontent : (Http.Reply.answered code body).content
      = if (fault.limit?.filter (·.isNesting)).isSome then .nested else .nothing := by
    unfold Http.Reply.content
    dsimp only
    rw [if_neg hcode, hbody, if_neg Bool.false_ne_true, hread]
  unfold unreadable
  cases hnested : fault.limit?.filter (·.isNesting) with
  | some limit =>
    rw [hnested] at hcontent
    exact .nested limit hcontent
  | none =>
    rw [hnested] at hcontent
    refine .failed _ _ hcontent ?_
    show (decide (400 ≤ code) && decide (code < 500)) = false
    rw [decide_eq_false hcode, Bool.false_and]

/-- A request takes the next reply. -/
theorem run_valueOf (r : Http.Request) (outside : Surroundings) (c : Connection) :
    ∃ x, (valueOf r).run (outside, c) = (x, outside, c.after r) ∧ Reads (c.reply 0) x := by
  unfold valueOf
  rcases run_bodyOf r outside c with ⟨body, hrun, code, hreply, hcode⟩ | ⟨fault, hrun, hreads⟩
  · rw [run_bind_ok hrun, hreply]
    -- An empty body stands for an object without fields.
    cases hempty : body.isEmpty with
    | true =>
      refine ⟨.ok (.object []), rfl, .value _ ?_⟩
      unfold Http.Reply.content
      dsimp only
      rw [if_neg hcode, hempty, if_pos rfl]
    | false =>
      rw [if_neg Bool.false_ne_true]
      cases hread : Json.read body with
      | ok v =>
        refine ⟨.ok v, rfl, .value v ?_⟩
        unfold Http.Reply.content
        dsimp only
        rw [if_neg hcode, hempty, if_neg Bool.false_ne_true, hread]
      | error fault => exact ⟨_, rfl, reads_unreadable r hcode hempty hread⟩
  · rw [run_bind_error hrun]
    exact ⟨_, rfl, hreads⟩

/-- A request comes to what the reply holds. -/
theorem Reads.outcome {reply : Http.Reply} {x : Except ServiceFault Json} (h : Reads reply x) :
    of x = valueIn reply := by
  unfold valueIn
  cases h with
  | value v h => rw [h]; rfl
  | refused message h => rw [h]; rfl
  | failed message code h => rw [h]; rfl
  | nested limit h => rw [h]; rfl

/-- The fields of an object; any other value makes no sense. -/
def fieldsOf (v : Json) : Outcome Fields := of (Job.fieldsOf v)

/-- The fields of the object that a reply holds. -/
def fieldsIn (reply : Http.Reply) : Outcome Fields := (valueIn reply).bind fieldsOf

/-- A result or a fault is given as it is. -/
theorem run_ofExcept (x : Except ServiceFault α) (s : Surroundings × Connection) :
    (ofExcept x).run s = (x, s) := by
  cases x with
  | ok a => rfl
  | error fault => rfl

/-- A request for an object takes the next reply, and reads its fields. -/
theorem run_objectOf (r : Http.Request) (outside : Surroundings) (c : Connection) :
    ∃ x, (objectOf r).run (outside, c) = (x >>= Job.fieldsOf, outside, c.after r) ∧
      Reads (c.reply 0) x := by
  obtain ⟨x, hrun, hx⟩ := run_valueOf r outside c
  refine ⟨x, ?_, hx⟩
  unfold objectOf
  cases x with
  | ok v => rw [run_bind_ok hrun, run_ofExcept]; rfl
  | error fault => rw [run_bind_error hrun]; rfl

/-- A request for an object comes to the fields that the reply holds. -/
theorem Reads.outcome_fields {reply : Http.Reply} {x : Except ServiceFault Json}
    (h : Reads reply x) : of (x >>= Job.fieldsOf) = fieldsIn reply := by
  rw [Outcome.of_bind, h.outcome]
  rfl

/-! ## Tokens -/

/-- The token that fields give; one whose lifetime is no number makes no sense. -/
def tokenIn (fields : Fields) : Outcome Json :=
  let token := (fields.lookup "access_token").getD .null
  if token.isTrue then
    match ((fields.lookup "expires_in").getD standardLifetime).toReal with
    | .ok _ => .answer token
    | .error _ => .senseless
  else .reported

/-- Whether an account has something to ask for a token with. -/
def Account.hasCredentials (a : Account) : Bool := !(a.clientId.isEmpty || a.clientSecret.isEmpty)

/-- What it comes to to ask for a token. -/
def renewalOutcome (a : Account) (c : Connection) : Outcome Json :=
  if a.hasCredentials then
    (of (tokenRequest a)).bind fun _ => (fieldsIn (c.reply 0)).bind tokenIn
  else .reported

/-- What is done with the reply to a request for a token. -/
def keepToken (fields : Fields) : Call Connection Json := do
  let token := (fields.lookup "access_token").getD .null
  if token.isTrue then
    holdToken token
    let lifetime ←
      ofExcept (((fields.lookup "expires_in").getD standardLifetime).toReal.mapError .number)
    useTokenFor lifetime
    pure token
  else fail (.rejected "Token response carried no access_token" none)

/-- With credentials a token is asked for. -/
theorem renewToken_eq (a : Account) (h : a.hasCredentials = true) :
    renewToken a = (do keepToken (← objectOf (← ofExcept (tokenRequest a)))) := by
  unfold Account.hasCredentials at h
  rw [Bool.not_eq_true'] at h
  unfold renewToken
  rw [h]
  rfl

/-- Without credentials the call is rejected, and nothing is sent. -/
theorem renewToken_of_no_credentials (a : Account) (h : a.hasCredentials = false) :
    renewToken a = fail (.rejected "Backend credentials are not configured" none) := by
  unfold Account.hasCredentials at h
  rw [Bool.not_eq_false'] at h
  unfold renewToken
  rw [h]
  rfl

/-- What keeping a token comes to, by the fields of the reply. -/
inductive Keeps (fields : Fields) : Except ServiceFault Json → Prop
  | kept (x : Binary64) (htoken : ((fields.lookup "access_token").getD .null).isTrue = true)
      (hlifetime : ((fields.lookup "expires_in").getD standardLifetime).toReal = .ok x) :
      Keeps fields (.ok ((fields.lookup "access_token").getD .null))
  | tokenless (message : Text)
      (htoken : ((fields.lookup "access_token").getD .null).isTrue = false) :
      Keeps fields (.error (.rejected message none))
  | lifetime (fault : NumberFault)
      (htoken : ((fields.lookup "access_token").getD .null).isTrue = true)
      (hlifetime : ((fields.lookup "expires_in").getD standardLifetime).toReal = .error fault) :
      Keeps fields (.error (.number fault))

/-- Keeping a token sends no request. -/
theorem run_keepToken (fields : Fields) (outside : Surroundings) (c : Connection) :
    ∃ x c', (keepToken fields).run (outside, c) = (x, outside, c') ∧ c'.network = c.network ∧
      Keeps fields x := by
  unfold keepToken
  dsimp only
  cases htoken : ((fields.lookup "access_token").getD .null).isTrue with
  | true =>
    rw [if_pos rfl]
    cases hlifetime : ((fields.lookup "expires_in").getD standardLifetime).toReal with
    | ok x => exact ⟨_, _, rfl, rfl, .kept x htoken hlifetime⟩
    | error fault => exact ⟨_, _, rfl, rfl, .lifetime fault htoken hlifetime⟩
  | false =>
    rw [if_neg Bool.false_ne_true]
    exact ⟨_, _, rfl, rfl, .tokenless _ htoken⟩

theorem Keeps.outcome {fields : Fields} {x : Except ServiceFault Json} (h : Keeps fields x) :
    of x = tokenIn fields := by
  unfold tokenIn
  cases h with
  | kept x htoken hlifetime =>
    dsimp only
    rw [if_pos htoken, hlifetime]
    rfl
  | tokenless message htoken =>
    dsimp only
    rw [htoken, if_neg Bool.false_ne_true]
    rfl
  | lifetime fault htoken hlifetime =>
    dsimp only
    rw [if_pos htoken, hlifetime]
    rfl

/-- Asking for a token takes one reply if it comes to something. -/
theorem run_renewToken (a : Account) (outside : Surroundings) (c : Connection) :
    ∃ x c', (renewToken a).run (outside, c) = (x, outside, c') ∧ of x = renewalOutcome a c ∧
      ∀ token, x = .ok token → ∀ i, c'.reply i = c.reply (i + 1) := by
  unfold renewalOutcome
  cases hcredentials : a.hasCredentials with
  | false =>
    rw [renewToken_of_no_credentials a hcredentials]
    refine ⟨.error _, c, rfl, rfl, ?_⟩
    intro token h
    cases h
  | true =>
    rw [renewToken_eq a hcredentials, if_pos rfl]
    cases tokenRequest a with
    | error fault =>
      refine ⟨.error fault, c, rfl, (Outcome.bind_of_error fault _).symm, ?_⟩
      intro token h
      cases h
    -- One reply is taken, and nothing is sent in keeping the token.
    | ok r =>
      obtain ⟨y, hrun, hreads⟩ := run_objectOf r outside c
      show ∃ x' c', (objectOf r >>= keepToken).run (outside, c) = _ ∧
        of x' = (fieldsIn (c.reply 0)).bind tokenIn ∧ _
      rw [← hreads.outcome_fields]
      cases hy : y >>= Job.fieldsOf with
      | error fault =>
        rw [hy] at hrun
        refine ⟨.error fault, c.after r, run_bind_error hrun,
          (Outcome.bind_of_error fault _).symm, ?_⟩
        intro token h
        cases h
      | ok fields =>
        rw [hy] at hrun
        obtain ⟨x, c', hkeep, hnetwork, hx⟩ := run_keepToken fields outside (c.after r)
        refine ⟨x, c', (run_bind_ok hrun).trans hkeep, hx.outcome, ?_⟩
        intro token _ i
        have hreply : c'.reply i = (c.after r).reply i := by
          unfold Connection.reply
          rw [hnetwork]
        rw [hreply, c.reply_after]

/-- What it comes to to have a token: the one that is held, or a new one. -/
def tokenOutcome (a : Account) (outside : Surroundings) (c : Connection) : Outcome Json :=
  match usableToken? outside c with
  | some token => .answer token
  | none => renewalOutcome a c

/-- The reply to a request for a status: the next one, or the one after it if there is a token to
ask for. -/
def statusReply (outside : Surroundings) (c : Connection) : Http.Reply :=
  c.reply (if (usableToken? outside c).isSome then 0 else 1)

/-- A token that is held is used; otherwise there is a new one. -/
theorem accessToken_eq (a : Account) (s : Surroundings × Connection) :
    (accessToken a).run s = ((usableToken? s.1 s.2).elim (renewToken a) pure).run s := by
  have hget : (get : Call Connection (Surroundings × Connection)).run s = (.ok s, s) := rfl
  unfold accessToken
  rw [run_bind_ok hget]
  dsimp only
  cases usableToken? s.1 s.2 with
  | some token => rfl
  | none => rfl

/-- An access token leaves the clock alone, and comes to what the token in hand and the reply make
of it. -/
theorem run_accessToken (a : Account) (outside : Surroundings) (c : Connection) :
    ∃ x c', (accessToken a).run (outside, c) = (x, outside, c') ∧ of x = tokenOutcome a outside c ∧
      ∀ token, x = .ok token → c'.reply 0 = statusReply outside c := by
  rw [accessToken_eq]
  unfold tokenOutcome statusReply
  dsimp only
  cases usableToken? outside c with
  | some token => exact ⟨.ok token, c, rfl, rfl, fun _ _ => rfl⟩
  | none =>
    obtain ⟨x, c', hrun, hx, hreplies⟩ := run_renewToken a outside c
    exact ⟨x, c', hrun, hx, fun token htoken => hreplies token htoken 0⟩

/-! ## Asking for a status -/

/-- What asking for a status comes to: there has to be a token, then a reply with fields, and then
an observation in them. -/
theorem outcome_status (a : Account) (id : Text) (outside : Surroundings) (c : Connection) :
    of ((status a id).run (outside, c)).1 =
      (tokenOutcome a outside c).bind fun _ =>
        (fieldsIn (statusReply outside c)).bind fun fields => of (observationOf fields) := by
  obtain ⟨x, c', hrun, hx, hreply⟩ := run_accessToken a outside c
  rw [← hx]
  cases x with
  | error fault =>
    have hrequest : (request a "GET" (itemUrl a id) none).run (outside, c)
        = (.error fault, outside, c') := by
      unfold request
      exact run_bind_error hrun
    unfold status
    rw [run_bind_error hrequest]
    exact (Outcome.bind_of_error fault _).symm
  -- The status is the reply behind that to the token request, if there was one.
  | ok token =>
    obtain ⟨r, hrequest⟩ : ∃ r, (request a "GET" (itemUrl a id) none).run (outside, c)
        = (.ok r, outside, c') := by
      unfold request
      rw [run_bind_ok hrun]
      exact ⟨_, rfl⟩
    obtain ⟨y, hobject, hreads⟩ := run_objectOf r outside c'
    unfold status
    rw [run_bind_ok hrequest, outcome_bind hobject, hreads.outcome_fields, hreply token rfl]
    simp only [run_ofExcept]
    rfl

/-! ## Replies that make no sense -/

/-- A reply to a request for a status that makes no sense: it is nested beyond the limit or no
object, its progress is an integer beyond the reals, or the address of its report is no text. -/
inductive StatusSenseless (reply : Http.Reply) : Prop
  | nested (h : reply.content = .nested)
  | noObject (v : Json) (h : reply.content = .value v) (hv : ∀ fields, v ≠ .object fields)
  | progress (fields : Fields) (n : Int) (h : reply.content = .value (.object fields))
      (hprogress : fields.lookup "progress" = some (.int n))
      (hrange : (Binary64.ofInt n).isFinite = false)
  | reportUrl (fields : Fields) (v : Json) (h : reply.content = .value (.object fields))
      (hurl : fields.lookup "reportUrl" = some v) (hnull : v ≠ .null) (htext : ∀ s, v ≠ .text s)

/-- A reply to a request for a token that makes no sense: it is nested beyond the limit or no
object, or it gives a token whose lifetime is no number. -/
inductive TokenSenseless (reply : Http.Reply) : Prop
  | nested (h : reply.content = .nested)
  | noObject (v : Json) (h : reply.content = .value v) (hv : ∀ fields, v ≠ .object fields)
  | lifetime (fields : Fields) (h : reply.content = .value (.object fields))
      (htoken : ((fields.lookup "access_token").getD .null).isTrue = true)
      (hlifetime : ∀ x, ((fields.lookup "expires_in").getD standardLifetime).toReal ≠ .ok x)

/-- Fields are found just in an object. -/
theorem fieldsIn_eq_answer_iff {reply : Http.Reply} {fields : Fields} :
    fieldsIn reply = .answer fields ↔ reply.content = .value (.object fields) := by
  unfold fieldsIn valueIn fieldsOf
  cases reply.content with
  | nothing => simp [Outcome.bind]
  | nested => simp [Outcome.bind]
  | value v => cases v <;> simp [Outcome.bind, of, Job.fieldsOf, ServiceFault.isReported]

/-- A reply has no sense if it is nested too deep or is a value that is no object. -/
theorem fieldsIn_eq_senseless_iff {reply : Http.Reply} :
    fieldsIn reply = .senseless ↔ reply.content = .nested ∨
      ∃ v, reply.content = .value v ∧ ∀ fields, v ≠ .object fields := by
  unfold fieldsIn valueIn fieldsOf
  cases reply.content with
  | nothing => simp [Outcome.bind]
  | nested => simp [Outcome.bind]
  | value v => cases v <;> simp [Outcome.bind, of, Job.fieldsOf, ServiceFault.isReported]

/-- A value is out of the range of the reals just if it is an integer beyond them. -/
theorem toReal_isRange_iff {v : Json} :
    (∃ fault, v.toReal = .error fault ∧ fault.isRange = true) ↔
      ∃ n, v = .int n ∧ (Binary64.ofInt n).isFinite = false := by
  cases v with
  | int n =>
    have hreal : (Json.int n).toReal = if (Binary64.ofInt n).isFinite then .ok (Binary64.ofInt n)
        else .error .integerTooLarge := rfl
    rw [hreal]
    cases h : (Binary64.ofInt n).isFinite with
    | true =>
      rw [if_pos rfl]
      refine iff_of_false nofun ?_
      rintro ⟨n', hn, hrange⟩
      cases hn
      rw [h] at hrange
      cases hrange
    | false => exact iff_of_true ⟨_, rfl, rfl⟩ ⟨n, rfl, h⟩
  -- A numeral beyond the reals is read as infinity.
  | text s =>
    refine iff_of_false ?_ nofun
    rintro ⟨fault, hfault, hrange⟩
    unfold Json.toReal at hfault
    dsimp only at hfault
    split at hfault
    · cases hfault
    · cases hfault
      cases hrange
  | _ =>
    refine iff_of_false ?_ nofun
    rintro ⟨fault, hfault, hrange⟩
    cases hfault <;> cases hrange

/-- The progress that a reply tells of is out of range, which the service does not report, or it is
a real number, if there is any. -/
theorem progressOf_cases (fields : Fields) :
    (∃ v fault, fields.lookup "progress" = some v ∧ v.toReal = .error fault ∧
      fault.isRange = true ∧ progressOf fields = .error (.number fault)) ∨
    ((∀ v fault, fields.lookup "progress" = some v → v.toReal = .error fault →
      fault.isRange = false) ∧ ∃ x : Option Binary64, progressOf fields = .ok (x.map .real)) := by
  unfold progressOf
  cases fields.lookup "progress" with
  | none => exact .inr ⟨nofun, none, rfl⟩
  | some v =>
    rw [Option.bind_some]
    -- No progress, or one that is null, is none to report.
    cases hpresent : v.present? with
    | none =>
      rw [Json.present?_eq_none_iff.mp hpresent]
      refine .inr ⟨?_, none, rfl⟩
      rintro _ fault ⟨⟩ ⟨⟩
      rfl
    | some v' =>
      cases Json.eq_of_present?_eq_some hpresent
      dsimp only
      cases hreal : v.toReal with
      | ok x =>
        refine .inr ⟨?_, some x, rfl⟩
        rintro _ fault ⟨⟩ hfault
        cases hreal.symm.trans hfault
      | error fault =>
        dsimp only
        cases hrange : fault.isRange with
        | true => exact .inl ⟨v, fault, rfl, hreal, hrange, rfl⟩
        | false =>
          refine .inr ⟨?_, none, rfl⟩
          rintro _ fault' ⟨⟩ hfault
          cases hreal.symm.trans hfault
          exact hrange

/-- Progress is a fault just if it is an integer beyond the reals. -/
theorem progressOf_error_iff {fields : Fields} :
    (∃ fault, progressOf fields = .error fault) ↔
      ∃ n, fields.lookup "progress" = some (.int n) ∧ (Binary64.ofInt n).isFinite = false := by
  rcases progressOf_cases fields with
    ⟨v, fault, hv, hreal, hrange, herror⟩ | ⟨hinRange, x, hx⟩
  · refine iff_of_true ⟨_, herror⟩ ?_
    obtain ⟨n, rfl, hn⟩ := toReal_isRange_iff.mp ⟨fault, hreal, hrange⟩
    exact ⟨n, hv, hn⟩
  · refine iff_of_false ?_ ?_
    · rintro ⟨fault, hfault⟩
      cases hx.symm.trans hfault
    · rintro ⟨n, hv, hn⟩
      obtain ⟨fault, hreal, hrange⟩ := toReal_isRange_iff.mpr ⟨n, rfl, hn⟩
      rw [hinRange _ fault hv hreal] at hrange
      cases hrange

/-- The progress is a real number, if there is any. -/
theorem real_of_progressOf {fields : Fields} {progress : Option Json}
    (h : progressOf fields = .ok progress) :
    ∃ x : Option Binary64, progress.getD .null = Document.optional .real x := by
  rcases progressOf_cases fields with ⟨v, fault, -, -, -, herror⟩ | ⟨-, x, hx⟩
  · cases herror.symm.trans h
  · cases hx.symm.trans h
    refine ⟨x, ?_⟩
    cases x with
    | none => rfl
    | some x => rfl

theorem load_observation (s : Text) (x : Option Binary64) (url : Json) :
    Observation.load [("status", .text s), ("progress", Document.optional .real x),
        ("report_url", url)]
      = (fun url => ⟨s, x, "", url⟩) <$>
        (Document.asOptional Document.asText url).under "report_url" := by
  have happly : ∀ (f : Option Text → Observation) (y : Checked (Option Text)),
      Checked.apply (.valid f) y = f <$> y := by
    intro f y
    cases y with
    | valid url => rfl
    | invalid places => rfl
  rw [← happly]
  cases x with
  | none => rfl
  | some x => rfl

/-- An observation is made unless the progress or the address of the report makes no sense. -/
theorem exists_observationOf_iff {fields : Fields} :
    (∃ o, observationOf fields = .ok o) ↔
      (¬∃ n, fields.lookup "progress" = some (.int n) ∧ (Binary64.ofInt n).isFinite = false) ∧
        ∀ v, fields.lookup "reportUrl" = some v → v = .null ∨ ∃ s, v = .text s := by
  -- Once the progress is read only the address of the report can be refused.
  have hload : ∀ progress : Option Json, progressOf fields = .ok progress →
      ((∃ o, observationOf fields = .ok o) ↔
        ∃ o, Document.asOptional Document.asText ((fields.lookup "reportUrl").getD .null)
          = .valid o) := by
    intro progress hprogress
    obtain ⟨x, hx⟩ := real_of_progressOf hprogress
    unfold observationOf
    rw [hprogress]
    show (∃ o, ((Observation.load [_, ("progress", progress.getD .null), _]).toExcept.mapError
      ServiceFault.malformed) = .ok o) ↔ _
    rw [hx, load_observation]
    cases Document.asOptional Document.asText ((fields.lookup "reportUrl").getD .null) with
    | valid url => exact iff_of_true ⟨_, rfl⟩ ⟨url, rfl⟩
    | invalid places => exact iff_of_false nofun nofun
  rw [← progressOf_error_iff]
  cases hprogress : progressOf fields with
  | error fault =>
    refine iff_of_false ?_ ?_
    · rintro ⟨o, ho⟩
      unfold observationOf at ho
      rw [hprogress] at ho
      cases ho
    · exact fun h => h.1 ⟨fault, rfl⟩
  | ok progress =>
    rw [hload progress hprogress, and_iff_right (by rintro ⟨fault, hfault⟩; cases hfault)]
    cases fields.lookup "reportUrl" with
    | none => exact iff_of_true ⟨none, rfl⟩ nofun
    | some v =>
      cases v with
      | null => exact iff_of_true ⟨none, rfl⟩ (by simp)
      | text s => exact iff_of_true ⟨some s, rfl⟩ (by simp)
      | _ => exact iff_of_false nofun (by simp)

/-- Whatever is wrong with an observation, the service does not report it. -/
theorem of_observationOf_ne_reported (fields : Fields) : of (observationOf fields) ≠ .reported := by
  intro h
  obtain ⟨fault, hfault, hreported⟩ := Outcome.of_eq_reported_iff.mp h
  rcases bind_eq_error_iff.mp hfault with hprogress | ⟨progress, -, hload⟩
  · rcases progressOf_cases fields with ⟨v, cause, -, -, -, herror⟩ | ⟨-, x, hx⟩
    · cases herror.symm.trans hprogress
      cases hreported
    · cases hx.symm.trans hprogress
  · obtain ⟨places, -, rfl⟩ := mapError_eq_error_iff.mp hload
    cases hreported

/-- A reply to a request for a status makes no sense. -/
theorem statusSenseless_iff {reply : Http.Reply} :
    (fieldsIn reply).bind (fun fields => of (observationOf fields)) = .senseless ↔
      StatusSenseless reply := by
  -- An observation is never reported as a fault: it is there or makes no sense.
  have hobservation : ∀ fields, of (observationOf fields) = .senseless ↔
      ¬∃ o, observationOf fields = .ok o := by
    intro fields
    cases h : of (observationOf fields) with
    | answer o => simp [Outcome.of_eq_answer_iff.mp h]
    | reported => exact absurd h (of_observationOf_ne_reported fields)
    | senseless =>
      obtain ⟨fault, hfault, -⟩ := Outcome.of_eq_senseless_iff.mp h
      simp [hfault]
  rw [Outcome.bind_eq_senseless_iff, fieldsIn_eq_senseless_iff]
  constructor
  · rintro ((hnested | ⟨v, hv, hobject⟩) | ⟨fields, hfields, hbad⟩)
    · exact .nested hnested
    · exact .noObject v hv hobject
    · have hcontent := fieldsIn_eq_answer_iff.mp hfields
      rw [hobservation, exists_observationOf_iff, not_and_or, not_not] at hbad
      rcases hbad with ⟨n, hn, hrange⟩ | hurl
      · exact .progress fields n hcontent hn hrange
      · push Not at hurl
        obtain ⟨v, hv, hnull, htext⟩ := hurl
        exact .reportUrl fields v hcontent hv hnull htext
  · intro h
    cases h with
    | nested h => exact .inl (.inl h)
    | noObject v h hv => exact .inl (.inr ⟨v, h, hv⟩)
    | progress fields n h hprogress hrange =>
      refine .inr ⟨fields, fieldsIn_eq_answer_iff.mpr h, ?_⟩
      rw [hobservation, exists_observationOf_iff]
      exact fun hboth => hboth.1 ⟨n, hprogress, hrange⟩
    | reportUrl fields v h hurl hnull htext =>
      refine .inr ⟨fields, fieldsIn_eq_answer_iff.mpr h, ?_⟩
      rw [hobservation, exists_observationOf_iff]
      rintro ⟨-, hall⟩
      rcases hall v hurl with hv | ⟨s, hv⟩
      · exact hnull hv
      · exact htext s hv

/-- A token makes no sense just if it is there and its lifetime is no number. -/
theorem tokenIn_eq_senseless_iff {fields : Fields} :
    tokenIn fields = .senseless ↔ ((fields.lookup "access_token").getD .null).isTrue = true ∧
      ∀ x, ((fields.lookup "expires_in").getD standardLifetime).toReal ≠ .ok x := by
  unfold tokenIn
  dsimp only
  cases htoken : ((fields.lookup "access_token").getD .null).isTrue with
  | false => simp
  | true => cases ((fields.lookup "expires_in").getD standardLifetime).toReal <;> simp

/-- A token is given just if it is there and its lifetime is a number. -/
theorem exists_tokenIn_iff {fields : Fields} :
    (∃ token, tokenIn fields = .answer token) ↔
      ((fields.lookup "access_token").getD .null).isTrue = true ∧
        ∃ x, ((fields.lookup "expires_in").getD standardLifetime).toReal = .ok x := by
  unfold tokenIn
  dsimp only
  cases htoken : ((fields.lookup "access_token").getD .null).isTrue with
  | false => simp
  | true => cases ((fields.lookup "expires_in").getD standardLifetime).toReal <;> simp

/-- A reply to a request for a token makes no sense. -/
theorem tokenSenseless_iff {reply : Http.Reply} :
    (fieldsIn reply).bind tokenIn = .senseless ↔ TokenSenseless reply := by
  rw [Outcome.bind_eq_senseless_iff, fieldsIn_eq_senseless_iff]
  constructor
  · rintro ((hnested | ⟨v, hv, hobject⟩) | ⟨fields, hfields, hbad⟩)
    · exact .nested hnested
    · exact .noObject v hv hobject
    · obtain ⟨htoken, hlifetime⟩ := tokenIn_eq_senseless_iff.mp hbad
      exact .lifetime fields (fieldsIn_eq_answer_iff.mp hfields) htoken hlifetime
  · intro h
    cases h with
    | nested h => exact .inl (.inl h)
    | noObject v h hv => exact .inl (.inr ⟨v, h, hv⟩)
    | lifetime fields h htoken hlifetime =>
      exact .inr ⟨fields, fieldsIn_eq_answer_iff.mpr h,
        tokenIn_eq_senseless_iff.mpr ⟨htoken, hlifetime⟩⟩

/-- The credentials of an account may not be encodable, which the service does not report. -/
theorem of_tokenRequest_error {a : Account} {fault : ServiceFault}
    (h : tokenRequest a = .error fault) : of (tokenRequest a) = .senseless := by
  rw [h]
  refine Outcome.of_error_unreported ?_
  rcases bind_eq_error_iff.mp h with hencode | ⟨_, -, hnone⟩
  · obtain ⟨cause, -, rfl⟩ := mapError_eq_error_iff.mp hencode
    rfl
  · cases hnone

/-! ## The whole exchange -/

/-- Whether there is a token to ask for a status with: one is held, or a new one is given. -/
inductive HasToken (a : Account) (outside : Surroundings) (c : Connection) : Prop
  | held (token : Json) (h : usableToken? outside c = some token)
  | renewed (hnone : usableToken? outside c = none) (hcredentials : a.hasCredentials = true)
      (r : Http.Request) (hrequest : tokenRequest a = .ok r)
      (fields : Fields) (hreply : (c.reply 0).content = .value (.object fields))
      (htoken : ((fields.lookup "access_token").getD .null).isTrue = true)
      (x : Binary64)
      (hlifetime : ((fields.lookup "expires_in").getD standardLifetime).toReal = .ok x)

/-- The exchanges for a status that make no sense: there is no token yet, and the credentials cannot
be encoded or the reply to them makes no sense, or there is a token, and the reply to the request
for the status makes no sense. -/
inductive Senseless (a : Account) (outside : Surroundings) (c : Connection) : Prop
  | credentials (hnone : usableToken? outside c = none) (hcredentials : a.hasCredentials = true)
      (fault : ServiceFault) (hrequest : tokenRequest a = .error fault)
  | token (hnone : usableToken? outside c = none) (hcredentials : a.hasCredentials = true)
      (r : Http.Request) (hrequest : tokenRequest a = .ok r) (hreply : TokenSenseless (c.reply 0))
  | status (htoken : HasToken a outside c) (hreply : StatusSenseless (statusReply outside c))

section Exchange

variable {a : Account} {outside : Surroundings} {c : Connection}

/-- With credentials a renewal comes to what the reply makes of it. -/
theorem renewalOutcome_of_request {r : Http.Request} (hcredentials : a.hasCredentials = true)
    (hrequest : tokenRequest a = .ok r) :
    renewalOutcome a c = (fieldsIn (c.reply 0)).bind tokenIn := by
  unfold renewalOutcome
  rw [hcredentials, hrequest]
  rfl

/-- Credentials that cannot be sent make no sense. -/
theorem renewalOutcome_of_error {fault : ServiceFault} (hcredentials : a.hasCredentials = true)
    (hrequest : tokenRequest a = .error fault) : renewalOutcome a c = .senseless := by
  unfold renewalOutcome
  rw [hcredentials, of_tokenRequest_error hrequest]
  rfl

/-- Without credentials the service reports it. -/
theorem renewalOutcome_of_no_credentials (h : a.hasCredentials = false) :
    renewalOutcome a c = .reported := by
  unfold renewalOutcome
  rw [h]
  rfl

theorem tokenOutcome_of_none (h : usableToken? outside c = none) :
    tokenOutcome a outside c = renewalOutcome a c := by
  unfold tokenOutcome
  rw [h]

/-- A token is had just if one is in hand or a renewal gives one. -/
theorem exists_tokenOutcome_iff :
    (∃ token, tokenOutcome a outside c = .answer token) ↔ HasToken a outside c := by
  constructor
  · rintro ⟨token, htoken⟩
    cases husable : usableToken? outside c with
    | some held => exact .held held husable
    | none =>
      rw [tokenOutcome_of_none husable] at htoken
      cases hcredentials : a.hasCredentials with
      | false =>
        rw [renewalOutcome_of_no_credentials hcredentials] at htoken
        cases htoken
      | true =>
        -- Each way in which no token comes about contradicts that one did.
        cases hrequest : tokenRequest a with
        | error fault =>
          rw [renewalOutcome_of_error hcredentials hrequest] at htoken
          cases htoken
        | ok r =>
          rw [renewalOutcome_of_request hcredentials hrequest] at htoken
          obtain ⟨fields, hfields, hgiven⟩ := Outcome.bind_eq_answer_iff.mp htoken
          obtain ⟨htrue, x, hlifetime⟩ := exists_tokenIn_iff.mp ⟨token, hgiven⟩
          exact .renewed husable hcredentials r hrequest fields (fieldsIn_eq_answer_iff.mp hfields)
            htrue x hlifetime
  · intro h
    cases h with
    | held token h =>
      refine ⟨token, ?_⟩
      unfold tokenOutcome
      rw [h]
    | renewed hnone hcredentials r hrequest fields hreply htoken x hlifetime =>
      obtain ⟨token, hgiven⟩ := exists_tokenIn_iff.mpr ⟨htoken, x, hlifetime⟩
      refine ⟨token, ?_⟩
      rw [tokenOutcome_of_none hnone, renewalOutcome_of_request hcredentials hrequest]
      exact Outcome.bind_eq_answer_iff.mpr ⟨fields, fieldsIn_eq_answer_iff.mpr hreply, hgiven⟩

/-- Asking for a status makes no sense just if the exchange does not. -/
theorem outcome_status_senseless_iff (id : Text) :
    of ((status a id).run (outside, c)).1 = .senseless ↔ Senseless a outside c := by
  rw [outcome_status, Outcome.bind_eq_senseless_iff]
  constructor
  · rintro (htoken | ⟨token, htoken, hstatus⟩)
    · cases husable : usableToken? outside c with
      | some held =>
        unfold tokenOutcome at htoken
        rw [husable] at htoken
        cases htoken
      | none =>
        rw [tokenOutcome_of_none husable] at htoken
        cases hcredentials : a.hasCredentials with
        | false =>
          rw [renewalOutcome_of_no_credentials hcredentials] at htoken
          cases htoken
        | true =>
          cases hrequest : tokenRequest a with
          | error fault => exact .credentials husable hcredentials fault hrequest
          | ok r =>
            rw [renewalOutcome_of_request hcredentials hrequest] at htoken
            exact .token husable hcredentials r hrequest (tokenSenseless_iff.mp htoken)
    · exact .status (exists_tokenOutcome_iff.mp ⟨token, htoken⟩) (statusSenseless_iff.mp hstatus)
  · -- Each form of a senseless exchange ends one of the two parts.
    intro h
    cases h with
    | credentials hnone hcredentials fault hrequest =>
      rw [tokenOutcome_of_none hnone, renewalOutcome_of_error hcredentials hrequest]
      exact .inl rfl
    | token hnone hcredentials r hrequest hreply =>
      rw [tokenOutcome_of_none hnone, renewalOutcome_of_request hcredentials hrequest]
      exact .inl (tokenSenseless_iff.mpr hreply)
    | status htoken hreply =>
      obtain ⟨token, htoken⟩ := exists_tokenOutcome_iff.mpr htoken
      exact .inr ⟨token, htoken, statusSenseless_iff.mpr hreply⟩

/-- Asking for a status gives an observation just if there is a token and the reply holds it. -/
theorem status_eq_ok_iff (id : Text) {o : Observation} :
    ((status a id).run (outside, c)).1 = .ok o ↔ HasToken a outside c ∧
      ∃ fields, (statusReply outside c).content = .value (.object fields) ∧
        observationOf fields = .ok o := by
  rw [← Outcome.of_eq_answer_iff, outcome_status, Outcome.bind_eq_answer_iff,
    ← exists_tokenOutcome_iff]
  simp only [Outcome.bind_eq_answer_iff, fieldsIn_eq_answer_iff, Outcome.of_eq_answer_iff]
  exact exists_and_right

end Exchange

end WorkItem

end FamilyDesign
