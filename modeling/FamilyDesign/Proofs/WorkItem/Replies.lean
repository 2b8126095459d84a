import FamilyDesign.Proofs.WorkItem.Exchange
import Mathlib.Data.List.TakeWhile

/-!
# Replies to a submission

A submission asks for the bucket, for an address that the output may be written to, for the work
item and for tokens. Each reply lets it go on or ends it: the service refuses, or it is in trouble,
or the reply makes no sense. What is sent and heard on the way is kept in a log, for which calls are
put together by rules of their own.

* **`Exchange.judgement`** — what becomes of a submission on a reply.
* **`Talks`** — the log of a call and what it comes to, with `Talks.bind` for calls one after the
  other.
* **`Ending`** — all replies let a call go on, or the last one ends it.
-/

namespace FamilyDesign

/-! ## Texts that have bytes -/

namespace Text

/-- A text without halves of surrogate pairs has bytes. -/
theorem exists_utf8 {s : Text} (h : s.holdsHalf = false) : ∃ bytes, s.utf8 = .ok bytes := by
  have hwhole : s.toList.dropWhile (!·.isHalf) = [] := by
    rw [List.dropWhile_eq_nil_iff]
    intro c hc
    rw [Bool.not_eq_true', ← Bool.not_eq_true]
    exact List.any_eq_false.mp h c hc
  unfold utf8
  rw [hwhole]
  exact ⟨_, rfl⟩

theorem exists_percentOf {s : Text} (h : s.holdsHalf = false) (safe : List Char) :
    ∃ t, percentOf safe s = .ok t := by
  obtain ⟨bytes, hbytes⟩ := exists_utf8 h
  exact ⟨_, map_eq_ok_iff.mpr ⟨bytes, hbytes, rfl⟩⟩

theorem holdsHalf_append (s t : Text) : (s ++ t).holdsHalf = (s.holdsHalf || t.holdsHalf) :=
  List.any_append

theorem isHalf_of_mem_hexDigits {width n : Nat} {c : CodePoint} (h : c ∈ hexDigits width n) :
    c.isHalf = false := by
  obtain ⟨i, -, rfl⟩ := List.mem_map.mp h
  rfl

end Text

namespace WorkItem

open Job (Call ServiceFault Locator Submission)

variable {α β : Type}

/-! ## Accounts and addresses -/

/-- Whether the credentials and the bucket of an account can be sent. -/
structure Account.Encodable (a : Account) : Prop where
  credentials : (a.clientId ++ ":" ++ a.clientSecret : Text).holdsHalf = false
  bucket : a.bucketKey.holdsHalf = false

/-- An account with nothing missing has credentials. -/
theorem Account.hasCredentials_of_missing {a : Account} (h : a.missing = []) :
    a.hasCredentials = true := by
  unfold missing at h
  rw [List.filterMap_eq_nil_iff] at h
  have hid := h ("client id", a.clientId.isEmpty) (by simp)
  have hsecret := h ("client secret", a.clientSecret.isEmpty) (by simp)
  unfold hasCredentials
  simpa using And.intro hid hsecret

/-- Only credentials with a half in them cannot be asked with, and this is not reported. -/
theorem isReported_of_tokenRequest {a : Account} {fault : ServiceFault}
    (h : tokenRequest a = .error fault) : fault.isReported = false ∧ ¬a.Encodable := by
  rcases bind_eq_error_iff.mp h with hencode | ⟨_, -, hnone⟩
  · obtain ⟨cause, hcause, rfl⟩ := mapError_eq_error_iff.mp hencode
    refine ⟨rfl, fun hencodable => ?_⟩
    obtain ⟨bytes, hbytes⟩ := Text.exists_utf8 hencodable.credentials
    obtain hutf8 := map_eq_error_iff.mp hcause
    rw [hbytes] at hutf8
    cases hutf8
  · cases hnone

theorem isHalf_of_isFileChar {c : CodePoint} (h : isFileChar c = true) : c.isHalf = false := by
  cases c with
  | char c => rfl
  | half offset => cases h

theorem isHalf_of_mem_replaceRuns {inRun : Bool} {cs : List CodePoint} {c : CodePoint}
    (h : c ∈ replaceRuns inRun cs) : c.isHalf = false := by
  induction cs generalizing inRun with
  | nil => cases h
  | cons first rest ih =>
    unfold replaceRuns at h
    split at h
    · next hfile =>
      rcases List.mem_cons.mp h with rfl | h
      · exact isHalf_of_isFileChar hfile
      · exact ih h
    · split at h
      · exact ih h
      · rcases List.mem_cons.mp h with rfl | h
        · rfl
        · exact ih h

/-- The key of an output has none but plain characters. -/
theorem holdsHalf_objectKeyOf (params : Fields) (outside : Surroundings) :
    (objectKeyOf params outside.issue.1).holdsHalf = false := by
  have hname : ∀ s, (safeName s).holdsHalf = false := by
    intro s
    unfold safeName
    dsimp only
    split
    · exact Text.holdsHalf_ofString _
    · refine List.any_eq_false.mpr fun c hc => ?_
      rw [Bool.not_eq_true]
      exact isHalf_of_mem_replaceRuns (Text.mem_of_mem_stripWhile hc)
  -- An identifier is made of hexadecimal digits.
  have hidentifier : (Text.ofList (outside.issue.1.take 8)).holdsHalf = false := by
    refine List.any_eq_false.mpr fun c hc => ?_
    rw [Bool.not_eq_true]
    have hmem : c ∈ Surroundings.identifier (outside.issued + 1) := List.mem_of_mem_take hc
    simp only [Surroundings.identifier, List.mem_append, or_self] at hmem
    exact Text.isHalf_of_mem_hexDigits hmem
  unfold objectKeyOf
  dsimp only
  rw [Text.holdsHalf_append, Text.holdsHalf_append, Text.holdsHalf_append, Text.holdsHalf_append,
    hname, hidentifier, Text.holdsHalf_ofString, Text.holdsHalf_ofString, Text.holdsHalf_ofString]
  rfl

/-- Only a bucket with a half in it has no address, and this is not reported. -/
theorem isReported_of_objectUrl {a : Account} {l : Locator} (hbucket : l.bucketKey = a.bucketKey)
    (hobject : l.objectKey.holdsHalf = false) {fault : ServiceFault}
    (h : objectUrl a l = .error fault) : fault.isReported = false ∧ ¬a.Encodable := by
  obtain ⟨object, hobject⟩ := Text.exists_percentOf hobject []
  unfold objectUrl at h
  rw [hobject, hbucket] at h
  rcases bind_eq_error_iff.mp h with hencode | ⟨bucket, -, hrest⟩
  · obtain ⟨cause, hcause, rfl⟩ := mapError_eq_error_iff.mp hencode
    refine ⟨rfl, fun hencodable => ?_⟩
    obtain ⟨t, ht⟩ := Text.exists_percentOf hencodable.bucket ['/']
    rw [ht] at hcause
    cases hcause
  · cases hrest

/-! ## What becomes of a submission on a reply -/

/-- What a request of a submission is for. -/
inductive Purpose
  | token
  | bucket
  | address
  | item
deriving DecidableEq

/-- A request, what it is for, and the reply to it. -/
structure Exchange where
  purpose : Purpose
  request : Http.Request
  reply : Http.Reply

/-- What becomes of a submission on a reply: it goes on, it is refused, the service is in trouble,
or the reply makes no sense. -/
inductive Judgement
  | passes
  | refuses
  | fails
  | senseless
deriving DecidableEq

/-- What becomes of it where the reply holds an object. -/
def Purpose.judgeFields (p : Purpose) (fields : Fields) : Judgement :=
  match p with
  | .bucket => .passes
  | .token =>
    if ((fields.lookup "access_token").getD .null).isTrue then
      match ((fields.lookup "expires_in").getD standardLifetime).toReal with
      | .ok _ => .passes
      | .error _ => .senseless
    else .refuses
  | .address => if ((fields.lookup "signedUrl").getD .null).isTrue then .passes else .fails
  | .item =>
    let id := (fields.lookup "id").getD .null
    let status := (fields.lookup "status").getD (.text "pending")
    if id.isTrue then
      if id.text?.isSome && status.text?.isSome then .passes else .senseless
    else .fails

/-- What becomes of it where the reply holds a value; nobody looks at that for the bucket. -/
def Purpose.judge (p : Purpose) (v : Json) : Judgement :=
  if p = .bucket then .passes
  else
    match Job.fieldsOf v with
    | .ok fields => p.judgeFields fields
    | .error _ => .senseless

namespace Exchange

/-- What becomes of a submission on a reply. That the bucket exists already is no refusal. -/
def judgement (e : Exchange) : Judgement :=
  match e.reply.content with
  | .value v => e.purpose.judge v
  | .nested => .senseless
  | .nothing =>
    if e.purpose = .bucket ∧ e.reply.code? = some 409 then .passes
    else if e.reply.isRefusal then .refuses
    else .fails

/-- Whether a fault is one that a reply ends a submission with. A refusal by its code carries it. -/
def Ends (e : Exchange) (fault : ServiceFault) : Prop :=
  match e.judgement with
  | .passes => False
  | .refuses => ∃ message code, fault = .rejected message code ∧
      (code = some 409 ↔ e.reply.code? = some 409)
  | .fails => ∃ message code, fault = .transient message code
  | .senseless => fault.isReported = false

/-- A request for a token that is refused with the code of a bucket that exists. -/
def Overlooked (e : Exchange) : Prop := e.purpose = .token ∧ e.reply.code? = some 409

instance (e : Exchange) : Decidable e.Overlooked := inferInstanceAs (Decidable (_ ∧ _))

variable {e : Exchange} {fault : ServiceFault}

/-- A reply that ends a submission does not pass. -/
theorem Ends.judgement_ne (h : e.Ends fault) : e.judgement ≠ .passes := by
  intro hjudgement
  unfold Ends at h
  rw [hjudgement] at h
  exact h.elim

/-- A refusal ends as a rejection, with the code of a bucket that exists or not. -/
theorem ends_iff_of_refuses (h : e.judgement = .refuses) :
    e.Ends fault ↔ ∃ message code, fault = .rejected message code ∧
      (code = some 409 ↔ e.reply.code? = some 409) := by
  unfold Ends
  rw [h]

theorem ends_iff_of_fails (h : e.judgement = .fails) :
    e.Ends fault ↔ ∃ message code, fault = .transient message code := by
  unfold Ends
  rw [h]

theorem ends_iff_of_senseless (h : e.judgement = .senseless) :
    e.Ends fault ↔ fault.isReported = false := by
  unfold Ends
  rw [h]

/-- A reply with the code of a bucket that exists has no content. -/
theorem content_of_code? {reply : Http.Reply} (h : reply.code? = some 409) :
    reply.content = .nothing := by
  cases reply with
  | lost reason => cases h
  | answered code body =>
    cases h
    exact content_of_code (by decide) body

/-- What is overlooked is a refusal. -/
theorem Overlooked.judgement (h : e.Overlooked) : e.judgement = .refuses := by
  obtain ⟨hpurpose, hcode⟩ := h
  have hrefusal : e.reply.isRefusal = true := by
    cases hreply : e.reply with
    | lost reason =>
      rw [hreply] at hcode
      cases hcode
    | answered code body =>
      rw [hreply] at hcode
      cases hcode
      rfl
  unfold Exchange.judgement
  rw [content_of_code? hcode]
  dsimp only
  rw [if_neg (by rw [hpurpose]; rintro ⟨hbucket, -⟩; cases hbucket), if_pos hrefusal]

/-- A fault that a request comes to ends a submission, but for a bucket that exists. -/
theorem ends_of_reads (h : Reads e.reply (.error fault))
    (hexists : ¬(e.purpose = .bucket ∧ e.reply.code? = some 409)) : e.Ends fault := by
  unfold Ends Exchange.judgement
  cases h with
  | refused message h hcode =>
    rw [h]
    dsimp only
    rw [if_neg hexists, if_pos hcode]
    exact ⟨message, _, rfl, Iff.rfl⟩
  | failed message code h hcode =>
    rw [h]
    dsimp only
    rw [if_neg hexists, hcode, if_neg Bool.false_ne_true]
    exact ⟨message, code, rfl⟩
  | nested limit h =>
    rw [h]
    rfl

theorem judgement_of_content {v : Json} (h : e.reply.content = .value v) :
    e.judgement = e.purpose.judge v := by
  unfold judgement
  rw [h]

/-- A reply with fields is judged by them. -/
theorem judgement_of_fields {fields : Fields} (h : e.reply.content = .value (.object fields)) :
    e.judgement = e.purpose.judgeFields fields := by
  rw [judgement_of_content h]
  unfold Purpose.judge
  split
  · next hbucket => rw [hbucket]; rfl
  · rfl

/-- A value that is no object makes no sense, unless nobody looks at it. -/
theorem ends_of_no_object {v : Json} (h : e.reply.content = .value v)
    (hpurpose : e.purpose ≠ .bucket) (hfields : Job.fieldsOf v = .error fault) :
    e.Ends fault := by
  have hfault : fault.isReported = false := by
    cases v with
    | object fields => cases hfields
    | _ => cases hfields; rfl
  have hjudgement : e.judgement = .senseless := by
    rw [judgement_of_content h]
    unfold Purpose.judge
    rw [if_neg hpurpose, hfields]
  exact (ends_iff_of_senseless hjudgement).mpr hfault

/-- Only a refusal carries the code of a bucket that exists. -/
theorem Ends.code_eq_some {message : Text} {code : Option Int}
    (h : e.Ends (.rejected message code)) :
    e.judgement = .refuses ∧ (code = some 409 ↔ e.reply.code? = some 409) := by
  cases hjudgement : e.judgement with
  | passes => exact absurd hjudgement h.judgement_ne
  | refuses =>
    obtain ⟨message', code', hfault, hcode⟩ := (ends_iff_of_refuses hjudgement).mp h
    cases hfault
    exact ⟨rfl, hcode⟩
  | fails =>
    obtain ⟨message', code', hfault⟩ := (ends_iff_of_fails hjudgement).mp h
    cases hfault
  | senseless => cases (ends_iff_of_senseless hjudgement).mp h

end Exchange

/-! ## The exchanges of a call -/

/-- From one state to another a number of exchanges went on. -/
structure Carries (s : Surroundings × Connection) (log : List Exchange)
    (s' : Surroundings × Connection) : Prop where
  sent : s'.2.network.sent = s.2.network.sent ++ log.map (·.request)
  /-- The replies are those that were to come, in order. -/
  heard : ∀ i e, log[i]? = some e → e.reply = s.2.reply i
  left : ∀ i, s'.2.reply i = s.2.reply (log.length + i)

/-- Where the network is the same nothing was sent. -/
theorem Carries.nil {s s' : Surroundings × Connection} (h : s'.2.network = s.2.network) :
    Carries s [] s' where
  sent := by rw [h]; exact (List.append_nil _).symm
  heard := fun i e he => by cases he
  left := fun i => by
    unfold Connection.reply
    rw [h, List.length_nil, Nat.zero_add]

/-- One request is sent and the next reply heard. -/
theorem Carries.single (p : Purpose) (r : Http.Request) (s : Surroundings × Connection) :
    Carries s [⟨p, r, s.2.reply 0⟩] (s.1, s.2.after r) where
  sent := by
    show (s.2.network.send r).2.sent = _
    unfold Http.Network.send
    cases s.2.network.replies <;> rfl
  heard := fun i e he => by
    cases i with
    | zero =>
      cases he
      rfl
    | succ i => cases he
  left := fun i => by
    rw [s.2.reply_after, List.length_singleton, Nat.add_comm]

/-- Logs are put together as the calls are. -/
theorem Carries.append {s s' s'' : Surroundings × Connection} {log log' : List Exchange}
    (h : Carries s log s') (h' : Carries s' log' s'') : Carries s (log ++ log') s'' where
  sent := by rw [h'.sent, h.sent, List.map_append, List.append_assoc]
  heard := fun i e he => by
    rw [List.getElem?_append] at he
    split at he
    · exact h.heard i e he
    · next hi =>
      have hindex : log.length + (i - log.length) = i := by omega
      rw [h'.heard _ e he, h.left, hindex]
  left := fun i => by rw [h'.left, h.left, List.length_append, Nat.add_assoc]

/-- From any state, the exchanges of a call and what it comes to are as said. -/
def Talks (call : Call Connection α) (post : List Exchange → Except ServiceFault α → Prop) : Prop :=
  ∀ s, ∃ log x s', call.run s = (x, s') ∧ Carries s log s' ∧ post log x

/-- What is said of two calls, one after the other, where `post` is said of both together. -/
def andThen (f : α → Call Connection β) (post : List Exchange → Except ServiceFault β → Prop)
    (log : List Exchange) (x : Except ServiceFault α) : Prop :=
  match x with
  | .ok v => Talks (f v) fun log' y => post (log ++ log') y
  | .error fault => post log (.error fault)

section Rules

variable {call : Call Connection α} {f : α → Call Connection β}

/-- Less may be said of a call. -/
theorem Talks.mono {post post' : List Exchange → Except ServiceFault α → Prop}
    (h : Talks call post) (hpost : ∀ log x, post log x → post' log x) : Talks call post' := by
  intro s
  obtain ⟨log, x, s', hrun, hcarries, hx⟩ := h s
  exact ⟨log, x, s', hrun, hcarries, hpost log x hx⟩

/-- **What is said of two calls in a row** is said of the first, with the second behind it. -/
theorem Talks.bind {post : List Exchange → Except ServiceFault β → Prop}
    (h : Talks call (andThen f post)) : Talks (call >>= f) post := by
  intro s
  obtain ⟨log, x, s', hrun, hcarries, hx⟩ := h s
  cases x with
  | ok v =>
    obtain ⟨log', y, s'', hrun', hcarries', hy⟩ := hx s'
    exact ⟨log ++ log', y, s'', (run_bind_ok hrun).trans hrun', hcarries.append hcarries', hy⟩
  | error fault => exact ⟨log, .error fault, s', run_bind_error hrun, hcarries, hx⟩

variable {post : List Exchange → Except ServiceFault α → Prop}

theorem talks_pure {v : α} (h : post [] (.ok v)) : Talks (pure v) post :=
  fun s => ⟨[], .ok v, s, rfl, .nil rfl, h⟩

theorem talks_fail {fault : ServiceFault} (h : post [] (.error fault)) :
    Talks (fail fault : Call Connection α) post :=
  fun s => ⟨[], .error fault, s, rfl, .nil rfl, h⟩

theorem talks_ofExcept {x : Except ServiceFault α} (h : post [] x) : Talks (ofExcept x) post :=
  fun s => ⟨[], x, s, run_ofExcept x s, .nil rfl, h⟩

/-- What is said of a call and of what is done about its fault, where `post` is said of both. -/
def orElse (handler : ServiceFault → Call Connection α)
    (post : List Exchange → Except ServiceFault α → Prop) (log : List Exchange)
    (x : Except ServiceFault α) : Prop :=
  match x with
  | .ok v => post log (.ok v)
  | .error fault => Talks (handler fault) fun log' y => post (log ++ log') y

/-- What is said of a handled call is said of the call, with the handler behind its faults. -/
theorem Talks.tryCatch {handler : ServiceFault → Call Connection α}
    (h : Talks call (orElse handler post)) : Talks (tryCatch call handler) post := by
  intro s
  obtain ⟨log, x, s', hrun, hcarries, hx⟩ := h s
  cases x with
  | ok v => exact ⟨log, .ok v, s', run_tryCatch_ok hrun, hcarries, hx⟩
  | error fault =>
    obtain ⟨log', y, s'', hrun', hcarries', hy⟩ := hx s'
    exact ⟨log ++ log', y, s'', (run_tryCatch_error hrun).trans hrun',
      hcarries.append hcarries', hy⟩

theorem talks_freshIdentifier {post : List Exchange → Except ServiceFault (List CodePoint) → Prop}
    (h : ∀ outside : Surroundings, post [] (.ok outside.issue.1)) : Talks freshIdentifier post :=
  fun s => ⟨[], .ok s.1.issue.1, (s.1.issue.2, s.2), rfl, .nil rfl, h s.1⟩

/-- A request for a value is one exchange. -/
theorem talks_valueOf (p : Purpose) (r : Http.Request)
    {post : List Exchange → Except ServiceFault Json → Prop}
    (h : ∀ e : Exchange, e.purpose = p → e.request = r → ∀ x, Reads e.reply x → post [e] x) :
    Talks (valueOf r) post := by
  intro s
  obtain ⟨x, hrun, hreads⟩ := run_valueOf r s.1 s.2
  exact ⟨_, x, _, hrun, .single p r s, h ⟨p, r, s.2.reply 0⟩ rfl rfl x hreads⟩

/-- A request for an object gives its fields, or the reply ends the submission. -/
theorem talks_objectOf {p : Purpose} (hp : p ≠ .bucket) (r : Http.Request)
    {post : List Exchange → Except ServiceFault Fields → Prop}
    (hfields : ∀ e : Exchange, e.purpose = p → e.request = r → ∀ fields,
      e.reply.content = .value (.object fields) → post [e] (.ok fields))
    (hfault : ∀ e : Exchange, e.purpose = p → e.request = r → ∀ fault, e.Ends fault →
      post [e] (.error fault)) : Talks (objectOf r) post := by
  refine Talks.bind (talks_valueOf p r ?_)
  intro e hpurpose hrequest x hreads
  have hnot : e.purpose ≠ .bucket := by rwa [hpurpose]
  cases x with
  | error fault =>
    exact hfault e hpurpose hrequest fault (Exchange.ends_of_reads hreads fun h => hnot h.1)
  | ok v =>
    refine talks_ofExcept ?_
    have hcontent : e.reply.content = .value v := reads_ok_iff.mp hreads
    -- A value that is no object ends the call as one that makes no sense.
    cases hobject : Job.fieldsOf v with
    | error fault =>
      exact hfault e hpurpose hrequest fault (Exchange.ends_of_no_object hcontent hnot hobject)
    | ok fields =>
      cases v with
      | object fields' =>
        cases hobject
        exact hfields e hpurpose hrequest _ hcontent
      | _ => cases hobject

end Rules

/-! ## Endings -/

/-- Whether all replies let a submission go on. -/
def AllPass (log : List Exchange) : Prop := ∀ e ∈ log, e.judgement = .passes

/-- How a fault came up: by the last reply, or since the account cannot be sent. -/
inductive Faulted (a : Account) (log : List Exchange) (fault : ServiceFault) : Prop
  | ended (init : List Exchange) (e : Exchange) (hlog : log = init ++ [e]) (hinit : AllPass init)
      (he : e.Ends fault)
  | unencodable (hlog : AllPass log) (hfault : fault.isReported = false) (ha : ¬a.Encodable)

/-- All replies let a call go on, or there is a fault, and it came up so. -/
def Ending (a : Account) (log : List Exchange) (x : Except ServiceFault α) : Prop :=
  match x with
  | .ok _ => AllPass log
  | .error fault => Faulted a log fault

section Endings

variable {a : Account} {log log' : List Exchange} {fault : ServiceFault}

theorem AllPass.append (h : AllPass log) (h' : AllPass log') : AllPass (log ++ log') :=
  List.forall_mem_append.mpr ⟨h, h'⟩

theorem AllPass.singleton {e : Exchange} (h : e.judgement = .passes) : AllPass [e] :=
  List.forall_mem_singleton.mpr h

/-- A reply of each kind, or all let the submission go on. -/
theorem judgement_cases (log : List Exchange) :
    (∃ e ∈ log, e.judgement = .refuses) ∨ (∃ e ∈ log, e.judgement = .fails) ∨
      (∃ e ∈ log, e.judgement = .senseless) ∨ AllPass log := by
  by_cases hpasses : AllPass log
  · exact .inr (.inr (.inr hpasses))
  · unfold AllPass at hpasses
    push Not at hpasses
    obtain ⟨e, he, hjudgement⟩ := hpasses
    cases hj : e.judgement with
    | passes => exact absurd hj hjudgement
    | refuses => exact .inl ⟨e, he, hj⟩
    | fails => exact .inr (.inl ⟨e, he, hj⟩)
    | senseless => exact .inr (.inr (.inl ⟨e, he, hj⟩))

theorem Faulted.singleton {e : Exchange} (h : e.Ends fault) : Faulted a [e] fault :=
  .ended [] e rfl (List.forall_mem_nil _) h

/-- A fault came up so behind replies that pass, too. -/
theorem Faulted.after (h : AllPass log) (h' : Faulted a log' fault) :
    Faulted a (log ++ log') fault := by
  cases h' with
  | ended init e hlog hinit he =>
    exact .ended (log ++ init) e (by rw [hlog, List.append_assoc]) (h.append hinit) he
  | unencodable hlog hfault ha => exact .unencodable (h.append hlog) hfault ha

/-- A call ends so behind replies that pass, too. -/
theorem Ending.after {x : Except ServiceFault α} (h : AllPass log) (h' : Ending a log' x) :
    Ending a (log ++ log') x := by
  cases x with
  | ok v => exact AllPass.append h h'
  | error fault => exact Faulted.after h h'

end Endings

end WorkItem

end FamilyDesign
