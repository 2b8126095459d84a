import FamilyDesign.Proofs.WorkItem.Replies

/-!
# The conversation of a submission

A submission asks for the bucket, for an address that the output may be written to, and for the work
item, one after the other, and for a token wherever it holds none that may be used. That the bucket
exists already lets it go on. The code that says so is accepted from the request for a token as
well, if that comes ahead of the request for the bucket, which is then not sent.

* **`Purpose.Asks`** — the requests of a submission.
* **`Opening`** — what comes of asking for the bucket.
* **`Conversation`** — what a submission sends, and in which order.
* **`talks_submit`** — every submission is a conversation, and ends by its replies.
-/

namespace FamilyDesign

namespace WorkItem

open Job (Call ServiceFault Locator Submission)

variable {α : Type}

/-! ## Requests -/

/-- A request of an account that carries a token. -/
def carrying (a : Account) (token : Json) (method address : Text) (body : Json) : Http.Request where
  method
  address := .text address
  body := some body
  headers := some (authorization (bearer token))
  timeout := .real a.timeout

/-- Whether a request of a submission is one for a purpose. -/
def Purpose.Asks (a : Account) (params : Fields) (p : Purpose) (r : Http.Request) : Prop :=
  match p with
  | .token => tokenRequest a = .ok r
  | .bucket => ∃ token, r = carrying a token "POST" (a.storageUrl ++ "buckets")
      (.object [("bucketKey", .text a.bucketKey), ("policyKey", .text "transient")])
  | .address => ∃ token l object, l.bucketKey = a.bucketKey ∧ objectUrl a l = .ok object ∧
      r = carrying a token "POST" (object ++ "/signed?access=readwrite") (.object [])
  | .item => ∃ token held output, r = carrying a token "POST" (a.endpoint ++ "workitems")
      (itemBody a params held output)

/-- Whether the request of an exchange is one for its purpose. -/
def Exchange.Asks (a : Account) (params : Fields) (e : Exchange) : Prop :=
  e.purpose.Asks a params e.request

/-- Only a request for a token is a form. -/
theorem Exchange.Asks.token_of_form {a : Account} {params : Fields} {e : Exchange}
    (h : e.Asks a params) (hform : e.request.form.isSome = true) : e.purpose = .token := by
  unfold Exchange.Asks Purpose.Asks at h
  cases hpurpose : e.purpose with
  | token => rfl
  | bucket =>
    rw [hpurpose] at h
    obtain ⟨token, hrequest⟩ := h
    rw [hrequest] at hform
    cases hform
  | address =>
    rw [hpurpose] at h
    obtain ⟨token, l, object, -, -, hrequest⟩ := h
    rw [hrequest] at hform
    cases hform
  | item =>
    rw [hpurpose] at h
    obtain ⟨token, held, output, hrequest⟩ := h
    rw [hrequest] at hform
    cases hform

/-- At most one request for a token. -/
structure Tokens (a : Account) (log : List Exchange) : Prop where
  few : log.length ≤ 1
  asks : ∀ e ∈ log, e.purpose = .token ∧ tokenRequest a = .ok e.request

section Tokens

variable {a : Account}

theorem Tokens.nil : Tokens a [] where
  few := Nat.zero_le 1
  asks := List.forall_mem_nil _

theorem Tokens.singleton {e : Exchange} (hpurpose : e.purpose = .token)
    (hrequest : tokenRequest a = .ok e.request) : Tokens a [e] where
  few := Nat.le_refl 1
  asks := List.forall_mem_singleton.mpr ⟨hpurpose, hrequest⟩

/-- What a reply makes of the token: it is kept, or the reply ends the call. -/
theorem talks_keepToken {e : Exchange} (hpurpose : e.purpose = .token) {fields : Fields}
    (hcontent : e.reply.content = .value (.object fields))
    {post : List Exchange → Except ServiceFault Json → Prop}
    (hok : e.judgement = .passes → ∀ token, post [] (.ok token))
    (hfault : ∀ fault, e.Ends fault → post [] (.error fault)) : Talks (keepToken fields) post := by
  intro s
  obtain ⟨x, c', hrun, hnetwork, hkeeps⟩ := run_keepToken fields s.1 s.2
  refine ⟨[], x, _, hrun, .nil hnetwork, ?_⟩
  have hjudgement := Exchange.judgement_of_fields hcontent
  rw [hpurpose] at hjudgement
  unfold Purpose.judgeFields at hjudgement
  dsimp only at hjudgement
  -- A reply has a usable token, none at all, or one whose lifetime is no number.
  cases hkeeps with
  | kept x htoken hlifetime =>
    rw [if_pos htoken, hlifetime] at hjudgement
    exact hok hjudgement _
  | tokenless message htoken =>
    rw [htoken, if_neg Bool.false_ne_true] at hjudgement
    refine hfault _ ?_
    refine (Exchange.ends_iff_of_refuses hjudgement).mpr
      ⟨message, none, rfl, iff_of_false nofun fun hcode => ?_⟩
    rw [Exchange.content_of_code? hcode] at hcontent
    cases hcontent
  | lifetime fault htoken hlifetime =>
    rw [if_pos htoken, hlifetime] at hjudgement
    exact hfault _ ((Exchange.ends_iff_of_senseless hjudgement).mpr rfl)

variable {post : List Exchange → Except ServiceFault Json → Prop}

/-- A token is asked for in one exchange at most, and it is there or a fault came up. -/
theorem talks_renewToken (hcredentials : a.hasCredentials = true)
    (hok : ∀ log, Tokens a log → AllPass log → ∀ token, post log (.ok token))
    (hfault : ∀ log, Tokens a log → ∀ fault, Faulted a log fault → post log (.error fault)) :
    Talks (renewToken a) post := by
  rw [renewToken_eq a hcredentials]
  refine Talks.bind (talks_ofExcept ?_)
  cases hrequest : tokenRequest a with
  | error fault =>
    obtain ⟨hreported, hencodable⟩ := isReported_of_tokenRequest hrequest
    exact hfault [] .nil fault (.unencodable (List.forall_mem_nil _) hreported hencodable)
  | ok r =>
    refine Talks.bind (talks_objectOf (show Purpose.token ≠ .bucket from nofun) r ?_ ?_)
    · rintro e hpurpose rfl fields hcontent
      have htokens : Tokens a [e] := .singleton hpurpose hrequest
      exact talks_keepToken hpurpose hcontent
        (fun hpasses => hok [e] htokens (.singleton hpasses))
        (fun fault hends => hfault [e] htokens fault (.singleton hends))
    · rintro e hpurpose rfl fault hends
      exact hfault [e] (.singleton hpurpose hrequest) fault (.singleton hends)

/-- A token is held, or asked for. -/
theorem talks_accessToken (hcredentials : a.hasCredentials = true)
    (hok : ∀ log, Tokens a log → AllPass log → ∀ token, post log (.ok token))
    (hfault : ∀ log, Tokens a log → ∀ fault, Faulted a log fault → post log (.error fault)) :
    Talks (accessToken a) post := by
  intro s
  rw [accessToken_eq]
  cases usableToken? s.1 s.2 with
  | some token => exact talks_pure (hok [] .nil (List.forall_mem_nil _) token) s
  | none => exact talks_renewToken hcredentials hok hfault s

/-- A request carries a token, for which one may have been asked. -/
theorem talks_request (hcredentials : a.hasCredentials = true) (method address : Text) (body : Json)
    {post : List Exchange → Except ServiceFault Http.Request → Prop}
    (hok : ∀ log, Tokens a log → AllPass log → ∀ token,
      post log (.ok (carrying a token method address body)))
    (hfault : ∀ log, Tokens a log → ∀ fault, Faulted a log fault → post log (.error fault)) :
    Talks (request a method address (some body)) post := by
  refine Talks.bind (talks_accessToken hcredentials ?_ hfault)
  intro log htokens hpasses token
  refine talks_pure ?_
  rw [List.append_nil]
  exact hok log htokens hpasses token

end Tokens

/-- What is sent for a purpose: requests for a token, and requests for the purpose itself. -/
def Sends (a : Account) (params : Fields) (p : Purpose) (log : List Exchange) : Prop :=
  ∀ e ∈ log, (e.purpose = .token ∨ e.purpose = p) ∧ e.Asks a params

section Sends

variable {a : Account} {params : Fields} {p : Purpose} {log log' : List Exchange}

theorem Sends.append (h : Sends a params p log) (h' : Sends a params p log') :
    Sends a params p (log ++ log') :=
  List.forall_mem_append.mpr ⟨h, h'⟩

theorem Sends.asks (h : Sends a params p log) : ∀ e ∈ log, e.Asks a params :=
  fun e he => (h e he).2

/-- Nothing else is sent. -/
theorem Sends.purpose_ne (h : Sends a params p log) {q : Purpose} (htoken : q ≠ .token)
    (hp : q ≠ p) : ∀ e ∈ log, e.purpose ≠ q := by
  rintro e he rfl
  rcases (h e he).1 with hpurpose | hpurpose
  · exact htoken hpurpose
  · exact hp hpurpose

/-- Requests for tokens may be among those of any purpose. -/
theorem Tokens.sends (h : Tokens a log) (p : Purpose) : Sends a params p log := by
  intro e he
  obtain ⟨hpurpose, hrequest⟩ := h.asks e he
  refine ⟨.inl hpurpose, ?_⟩
  unfold Exchange.Asks
  rw [hpurpose]
  exact hrequest

/-- One request of the purpose is as said. -/
theorem Sends.singleton {e : Exchange} (hpurpose : e.purpose = p) (h : p.Asks a params e.request) :
    Sends a params p [e] := by
  refine List.forall_mem_singleton.mpr ⟨.inr hpurpose, ?_⟩
  unfold Exchange.Asks
  rwa [hpurpose]

end Sends

/-! ## The bucket -/

/-- The exchanges that a submission goes by: a request for a token that is taken for a bucket that
exists is not one of them, and it is always the first. -/
def heeded : List Exchange → List Exchange
  | [] => []
  | e :: rest => if e.Overlooked then rest else e :: rest

/-- Behind a log that passes all replies are heeded. -/
theorem heeded_of_allPass {log : List Exchange} (h : AllPass log) (hne : log ≠ [])
    (log' : List Exchange) : heeded (log ++ log') = log ++ log' := by
  cases log with
  | nil => exact absurd rfl hne
  | cons e rest =>
    have hpasses := h e List.mem_cons_self
    refine if_neg fun hoverlooked => ?_
    rw [hoverlooked.judgement] at hpasses
    cases hpasses

/-- What comes of asking for the bucket: it is there, a request for a token is taken for it, or
there is a fault. -/
inductive Opening (a : Account) (log : List Exchange) : Except ServiceFault Unit → Prop
  | there (hlog : AllPass log) (e : Exchange) (he : e ∈ log) (hpurpose : e.purpose = .bucket) :
      Opening a log (.ok ())
  | overlooked (e : Exchange) (hlog : log = [e]) (he : e.Overlooked) : Opening a log (.ok ())
  | faulted (fault : ServiceFault) (h : Faulted a log fault) (hheeded : heeded log = log) :
      Opening a log (.error fault)

/-- A fault is handed on unless it is that of a bucket that exists. -/
theorem talks_tolerate {fault : ServiceFault} {log : List Exchange}
    {post : List Exchange → Except ServiceFault Unit → Prop}
    (hexists : ∀ message, fault = .rejected message (some 409) → post log (.ok ()))
    (hother : (∀ message, fault ≠ .rejected message (some 409)) → post log (.error fault)) :
    Talks (match fault with
      | .rejected _ (some 409) => pure ()
      | fault => fail fault) fun log' x => post (log ++ log') x := by
  split
  · refine talks_pure ?_
    rw [List.append_nil]
    exact hexists _ rfl
  · next hne =>
    refine talks_fail ?_
    rw [List.append_nil]
    exact hother hne

section Bucket

variable {a : Account} {log : List Exchange} {fault : ServiceFault}

/-- A request for a token that carries the code of a bucket that exists. -/
theorem Tokens.opening_overlooked (htokens : Tokens a log) {message : Text}
    (h : Faulted a log (.rejected message (some 409))) : Opening a log (.ok ()) := by
  cases h with
  | unencodable hlog hfault ha => cases hfault
  | ended init e hlog hinit he =>
    have hfew := htokens.few
    have hinit : init = [] := by
      rw [hlog, List.length_append, List.length_singleton] at hfew
      exact List.length_eq_zero_iff.mp (by omega)
    rw [hinit, List.nil_append] at hlog
    have hmem : e ∈ log := by rw [hlog]; exact List.mem_cons_self
    exact .overlooked e hlog ⟨(htokens.asks e hmem).1, he.code_eq_some.2.mp rfl⟩

/-- Any other fault of a request for a token. -/
theorem Tokens.opening_faulted (htokens : Tokens a log) (h : Faulted a log fault)
    (hother : ∀ message, fault ≠ .rejected message (some 409)) : Opening a log (.error fault) := by
  -- Only one request was sent: if it is overlooked it is the one that the call ended with.
  refine .faulted fault h ?_
  cases hlog : log with
  | nil => rfl
  | cons e rest =>
    refine if_neg fun hoverlooked => ?_
    have hjudgement := hoverlooked.judgement
    cases h with
    | unencodable hpasses hfault ha =>
      rw [hpasses e (by rw [hlog]; exact List.mem_cons_self)] at hjudgement
      cases hjudgement
    | ended init last hlast hinit he =>
      have hfew := htokens.few
      have hsame : e = last := by
        rw [hlast, List.length_append, List.length_singleton] at hfew
        have hnil : init = [] := List.length_eq_zero_iff.mp (by omega)
        rw [hlog, hnil] at hlast
        exact (List.cons.inj hlast).1
      rw [← hsame] at he
      obtain ⟨message, code, rfl, hcode⟩ := (Exchange.ends_iff_of_refuses hjudgement).mp he
      rw [hcode.mpr hoverlooked.2] at hother
      exact hother message rfl

/-- A request comes to the fault of a bucket that exists just if its reply carries the code. -/
theorem exists_iff_of_reads {reply : Http.Reply} (h : Reads reply (.error fault)) :
    (∃ message, fault = .rejected message (some 409)) ↔ reply.code? = some 409 := by
  constructor
  · rintro ⟨message, hfault⟩
    cases h with
    | refused _ h hrefusal => exact (ServiceFault.rejected.inj hfault).2
    | _ => cases hfault
  · intro hcode
    have hcontent := Exchange.content_of_code? hcode
    cases h with
    | refused message h hrefusal => exact ⟨message, by rw [hcode]⟩
    | failed message code h hrefusal =>
      cases reply with
      | lost reason => cases hcode
      | answered code body =>
        cases hcode
        cases hrefusal
    | nested limit h =>
      rw [hcontent] at h
      cases h

/-- The request for the bucket finds it there: it is made, or it is refused since it exists. -/
theorem judgement_of_bucket {e : Exchange} (hpurpose : e.purpose = .bucket) :
    (∀ v, e.reply.content = .value v → e.judgement = .passes) ∧
      (e.reply.code? = some 409 → e.judgement = .passes) := by
  constructor
  · intro v hcontent
    rw [Exchange.judgement_of_content hcontent, hpurpose]
    rfl
  · intro hcode
    unfold Exchange.judgement
    rw [Exchange.content_of_code? hcode]
    dsimp only
    rw [if_pos ⟨hpurpose, hcode⟩]

theorem opening_there {e : Exchange} (hlog : AllPass log) (hpurpose : e.purpose = .bucket)
    (hjudgement : e.judgement = .passes) : Opening a (log ++ [e]) (.ok ()) :=
  .there (hlog.append (.singleton hjudgement)) e (by simp) hpurpose

/-- Any other fault of the request for the bucket. -/
theorem opening_faulted {e : Exchange} (hlog : AllPass log) (hpurpose : e.purpose = .bucket)
    (hreads : Reads e.reply (.error fault))
    (hother : ∀ message, fault ≠ .rejected message (some 409)) :
    Opening a (log ++ [e]) (.error fault) := by
  have hends : e.Ends fault := Exchange.ends_of_reads hreads <| by
    rintro ⟨-, hcode⟩
    obtain ⟨message, hfault⟩ := (exists_iff_of_reads hreads).mpr hcode
    exact hother message hfault
  refine .faulted fault (.ended log e rfl hlog hends) ?_
  cases log with
  | nil =>
    refine if_neg fun hoverlooked => ?_
    have htoken := hoverlooked.1
    rw [hpurpose] at htoken
    cases htoken
  | cons first rest => exact heeded_of_allPass hlog nofun [e]

/-- **Asking for the bucket opens a submission**, with the one fault that is taken for its
existence. -/
theorem talks_ensureBucket (hcredentials : a.hasCredentials = true) (params : Fields)
    {post : List Exchange → Except ServiceFault Unit → Prop}
    (h : ∀ log, Sends a params .bucket log → ∀ x, Opening a log x → post log x) :
    Talks (ensureBucket a) post := by
  refine Talks.tryCatch (Talks.bind (talks_request hcredentials _ _ _ ?_ ?_))
  · intro log htokens hpasses token
    refine Talks.bind (talks_valueOf .bucket _ ?_)
    intro e hpurpose hrequest x hreads
    have hsends : Sends a params .bucket (log ++ [e]) :=
      (htokens.sends .bucket).append (.singleton hpurpose ⟨token, hrequest⟩)
    obtain ⟨hmade, hexisted⟩ := judgement_of_bucket hpurpose
    cases x with
    | ok v =>
      have hjudgement := hmade v (reads_ok_iff.mp hreads)
      exact talks_pure (h _ hsends _ (opening_there hpasses hpurpose hjudgement))
    | error fault =>
      refine talks_tolerate (fun message hfault => ?_) fun hother => ?_
      · have hjudgement := hexisted ((exists_iff_of_reads hreads).mp ⟨message, hfault⟩)
        exact h _ hsends _ (opening_there hpasses hpurpose hjudgement)
      · exact h _ hsends _ (opening_faulted hpasses hpurpose hreads hother)
  · -- A fault of the token request is handled as one of the bucket: this is where a reply is
    -- overlooked.
    intro log htokens fault hfaulted
    refine talks_tolerate (fun message hfault => ?_) fun hother => ?_
    · rw [hfault] at hfaulted
      exact h log (htokens.sends .bucket) _ (htokens.opening_overlooked hfaulted)
    · exact h log (htokens.sends .bucket) _ (htokens.opening_faulted hfaulted hother)

end Bucket

/-! ## The address -/

/-- Whether an exchange gives an address to write to. -/
def Exchange.Gives (e : Exchange) (url : Json) : Prop :=
  e.purpose = .address ∧ ∃ fields : Fields, e.reply.content = .value (.object fields) ∧
    fields.lookup "signedUrl" = some url ∧ url.isTrue = true

/-- A value that counts as true is there. -/
theorem lookup_of_isTrue {fields : Fields} {key : Text}
    (h : ((fields.lookup key).getD .null).isTrue = true) :
    fields.lookup key = some ((fields.lookup key).getD .null) := by
  cases hlookup : fields.lookup key with
  | none =>
    rw [hlookup] at h
    cases h
  | some v => rfl

section Address

variable {a : Account} {params : Fields}

/-- What is sent for one request that carries a token. -/
structure Asking (a : Account) (params : Fields) (p : Purpose) (method address : Text) (body : Json)
    (log : List Exchange) : Prop where
  sends : Sends a params p log
  carried : ∀ e ∈ log, e.purpose = p → ∃ token, e.request = carrying a token method address body

/-- A request for an object that carries a token, and what is done with its fields. -/
theorem talks_ask (params : Fields) (hcredentials : a.hasCredentials = true) {p : Purpose}
    (hp : p = .address ∨ p = .item) {method address : Text} {body : Json}
    (hasks : ∀ token, p.Asks a params (carrying a token method address body))
    {f : Fields → Call Connection α} {post : List Exchange → Except ServiceFault α → Prop}
    (hfields : ∀ init e, AllPass init → Asking a params p method address body (init ++ [e]) →
      e.purpose = p → ∀ fields, e.reply.content = .value (.object fields) →
        Talks (f fields) fun log y => post (init ++ [e] ++ log) y)
    (hfault : ∀ log, Asking a params p method address body log → ∀ fault, Faulted a log fault →
      post log (.error fault)) :
    Talks (request a method address (some body) >>= fun r => objectOf r >>= f) post := by
  have hbucket : p ≠ .bucket := by rcases hp with rfl | rfl <;> nofun
  -- Whatever is asked for on the way is a token, which asks for no object.
  have htokens : ∀ log, Tokens a log → Asking a params p method address body log := by
    intro log htokens
    refine ⟨htokens.sends p, fun e he hpurpose => ?_⟩
    rw [(htokens.asks e he).1] at hpurpose
    rcases hp with rfl | rfl <;> cases hpurpose
  refine Talks.bind (talks_request hcredentials _ _ _ ?_ ?_)
  · intro log hlog hpasses token
    have hasking : ∀ e : Exchange, e.purpose = p →
        e.request = carrying a token method address body →
          Asking a params p method address body (log ++ [e]) := by
      intro e hpurpose hrequest
      exact {
        sends := (htokens log hlog).sends.append
          (.singleton hpurpose (by rw [hrequest]; exact hasks token))
        carried := List.forall_mem_append.mpr
          ⟨(htokens log hlog).carried, List.forall_mem_singleton.mpr fun _ => ⟨token, hrequest⟩⟩ }
    refine Talks.bind (talks_objectOf hbucket _ ?_ ?_)
    · intro e hpurpose hrequest fields hcontent
      refine (hfields log e hpasses (hasking e hpurpose hrequest) hpurpose fields
        hcontent).mono fun log' y hy => ?_
      rwa [List.append_assoc] at hy
    · intro e hpurpose hrequest fault hends
      exact hfault _ (hasking e hpurpose hrequest) fault (.ended log e rfl hpasses hends)
  · intro log hlog fault hfaulted
    exact hfault log (htokens log hlog) fault hfaulted

/-- What comes of asking for an address. -/
structure Addressed (a : Account) (params : Fields) (log : List Exchange)
    (x : Except ServiceFault Json) : Prop where
  sends : Sends a params .address log
  ending : Ending a log x
  given : ∀ url, x = .ok url → ∃ e ∈ log, e.Gives url

/-- The address of the output is asked for, and given unless a fault comes up. -/
theorem talks_signedUpload (params : Fields) (hcredentials : a.hasCredentials = true)
    {l : Locator} (hbucket : l.bucketKey = a.bucketKey) (hobject : l.objectKey.holdsHalf = false) :
    Talks (signedUpload a l) (Addressed a params) := by
  refine Talks.bind (talks_ofExcept ?_)
  cases hurl : objectUrl a l with
  -- The address cannot be written, so nothing is sent.
  | error fault =>
    obtain ⟨hreported, hencodable⟩ := isReported_of_objectUrl hbucket hobject hurl
    exact {
      sends := List.forall_mem_nil _
      ending := .unencodable (List.forall_mem_nil _) hreported hencodable
      given := nofun }
  | ok object =>
    refine talks_ask params hcredentials (.inl rfl)
      (fun token => ⟨token, l, object, hbucket, hurl, rfl⟩) ?_ ?_
    · intro init e hpasses hasking hpurpose fields hcontent
      have hjudgement := Exchange.judgement_of_fields hcontent
      rw [hpurpose] at hjudgement
      unfold Purpose.judgeFields at hjudgement
      dsimp only at hjudgement ⊢
      split
      · next htrue =>
        rw [if_pos htrue] at hjudgement
        refine talks_pure ?_
        rw [List.append_nil]
        refine ⟨hasking.sends, hpasses.append (.singleton hjudgement), ?_⟩
        rintro _ ⟨⟩
        exact ⟨e, by simp, hpurpose, fields, hcontent, lookup_of_isTrue htrue, htrue⟩
      · next htrue =>
        rw [if_neg htrue] at hjudgement
        refine talks_fail ?_
        rw [List.append_nil]
        refine ⟨hasking.sends, .ended init e rfl hpasses ?_, nofun⟩
        exact (Exchange.ends_iff_of_fails hjudgement).mpr ⟨_, none, rfl⟩
    · intro log hasking fault hfaulted
      exact ⟨hasking.sends, hfaulted, nofun⟩

end Address

/-! ## The work item -/

/-- Whether an exchange is for a work item that writes its output to an address. -/
def Exchange.Writes (a : Account) (params : Fields) (e : Exchange) (output : Json) : Prop :=
  ∃ token held, e.request = carrying a token "POST" (a.endpoint ++ "workitems")
    (itemBody a params held output)

/-- Whether an exchange returns the id of a work item. -/
def Exchange.Returns (e : Exchange) (id : Text) : Prop :=
  e.purpose = .item ∧ ∃ fields : Fields, e.reply.content = .value (.object fields) ∧
    fields.lookup "id" = some (.text id)

/-- Asks for a work item. -/
def orderItem (a : Account) (params : Fields) (l : Locator) (output : Json) :
    Call Connection Submission := do
  let token ← accessToken a
  let r ← request a "POST" (a.endpoint ++ "workitems") (some (itemBody a params token output))
  let reply ← objectOf r
  ofExcept (submissionOf reply l)

/-- What comes of asking for a work item. -/
structure Ordered (a : Account) (params : Fields) (output : Json) (log : List Exchange)
    (x : Except ServiceFault Submission) : Prop where
  sends : Sends a params .item log
  ending : Ending a log x
  writes : ∀ e ∈ log, e.purpose = .item → e.Writes a params output
  returned : ∀ submission, x = .ok submission → ∃ e ∈ log, e.Returns submission.id

section Item

variable {a : Account} {params : Fields} {output : Json}

/-- A submission has an id and a status that are texts. -/
theorem load_submission (id status : Json) :
    Submission.load [("job_id", id), ("status", status)]
      = (fun id status => (⟨id, status, none⟩ : Submission))
        <$> (Document.asText id).under "job_id" <*> (Document.asText status).under "status" := by
  have hid : Document.required "job_id" Document.asText [("job_id", id), ("status", status)]
      = (Document.asText id).under "job_id" := rfl
  have hstatus : (Document.Name.same "status").load ("pending" : Text) Document.asText
      [("job_id", id), ("status", status)] = (Document.asText status).under "status" := rfl
  unfold Submission.load
  rw [hid, hstatus]
  cases Document.asText id <;> cases Document.asText status <;> rfl

/-- A value is a text, or it is refused as one. -/
theorem asText_of_text? {v : Json} :
    (∃ s, v = .text s ∧ Document.asText v = .valid s) ∨
      (v.text?.isSome = false ∧ ∃ places, Document.asText v = .invalid places) := by
  cases v with
  | text s => exact .inl ⟨s, rfl, rfl⟩
  | _ => exact .inr ⟨rfl, _, rfl⟩

/-- A reply to a work item is a submission, or it ends the call. -/
theorem submissionOf_cases {e : Exchange} (hpurpose : e.purpose = .item) {fields : Fields}
    (hcontent : e.reply.content = .value (.object fields)) (l : Locator) :
    (∃ submission, submissionOf fields l = .ok submission ∧ e.judgement = .passes ∧
      e.Returns submission.id) ∨
    ∃ fault, submissionOf fields l = .error fault ∧ e.Ends fault := by
  have hjudgement := Exchange.judgement_of_fields hcontent
  rw [hpurpose] at hjudgement
  unfold Purpose.judgeFields at hjudgement
  unfold submissionOf
  dsimp only at hjudgement ⊢
  split
  · next htrue =>
    rw [if_pos htrue] at hjudgement
    have hid := lookup_of_isTrue htrue
    rw [load_submission]
    generalize (fields.lookup "id").getD .null = id at hjudgement hid ⊢
    generalize (fields.lookup "status").getD (.text "pending") = status at hjudgement ⊢
    -- A submission needs both an id and a status that are texts.
    have hsenseless : (id.text?.isSome && status.text?.isSome) = false →
        ∀ places, e.Ends (.malformed places) := by
      intro hnone places
      rw [hnone, if_neg Bool.false_ne_true] at hjudgement
      exact (Exchange.ends_iff_of_senseless hjudgement).mpr rfl
    rcases asText_of_text? (v := id) with ⟨s, rfl, hs⟩ | ⟨hnone, places, hs⟩
    · rcases asText_of_text? (v := status) with ⟨word, rfl, hword⟩ | ⟨hnone, places, hword⟩
      · rw [hs, hword]
        exact .inl ⟨⟨s, word, some l⟩, rfl, hjudgement, hpurpose, fields, hcontent, hid⟩
      · rw [hs, hword]
        exact .inr ⟨_, rfl, hsenseless (by rw [hnone, Bool.and_false]) _⟩
    · have hends := hsenseless (by rw [hnone, Bool.false_and])
      rw [hs]
      cases Document.asText status with
      | valid word => exact .inr ⟨_, rfl, hends _⟩
      | invalid places' => exact .inr ⟨_, rfl, hends _⟩
  · next htrue =>
    rw [if_neg htrue] at hjudgement
    exact .inr ⟨_, rfl, (Exchange.ends_iff_of_fails hjudgement).mpr ⟨_, none, rfl⟩⟩

/-- The work item is ordered with a token in it, and a submission is returned or a fault comes up.
-/
theorem talks_orderItem (hcredentials : a.hasCredentials = true) (l : Locator) :
    Talks (orderItem a params l output) (Ordered a params output) := by
  have hnone : ∀ log, Tokens a log → ∀ e ∈ log, e.purpose = .item → e.Writes a params output := by
    intro log htokens e he hitem
    rw [(htokens.asks e he).1] at hitem
    cases hitem
  refine Talks.bind (talks_accessToken hcredentials ?_ ?_)
  · intro first hfirst hpassesFirst held
    -- The token in the body was obtained ahead of the one in the header.
    have hwrites : ∀ log, Asking a params .item "POST" (a.endpoint ++ "workitems")
        (itemBody a params held output) log →
          ∀ e ∈ first ++ log, e.purpose = .item → e.Writes a params output := by
      intro log hasking
      refine List.forall_mem_append.mpr ⟨hnone first hfirst, fun e he hitem => ?_⟩
      obtain ⟨token, hrequest⟩ := hasking.carried e he hitem
      exact ⟨token, held, hrequest⟩
    refine talks_ask params hcredentials (.inr rfl) (fun token => ⟨token, held, output, rfl⟩) ?_ ?_
    · intro init e hpasses hasking hpurpose fields hcontent
      refine talks_ofExcept ?_
      rw [List.append_nil]
      have hsends := (hfirst.sends .item).append hasking.sends
      rcases submissionOf_cases hpurpose hcontent l with
        ⟨submission, hsubmission, hjudgement, hreturns⟩ | ⟨fault, hfault, hends⟩
      · rw [hsubmission]
        refine ⟨hsends, hpassesFirst.append (hpasses.append (.singleton hjudgement)),
          hwrites _ hasking, ?_⟩
        rintro _ ⟨⟩
        exact ⟨e, by simp, hreturns⟩
      · rw [hfault]
        exact ⟨hsends, .after hpassesFirst (.ended init e rfl hpasses hends), hwrites _ hasking,
          nofun⟩
    · intro log hasking fault hfaulted
      exact ⟨(hfirst.sends .item).append hasking.sends, .after hpassesFirst hfaulted,
        hwrites log hasking, nofun⟩
  · intro log htokens fault hfaulted
    exact ⟨htokens.sends .item, hfaulted, hnone log htokens, nofun⟩

end Item

/-! ## The whole conversation -/

/-- Whether a conversation begins with a request for a token that is taken for a bucket that
exists. -/
def Overlooks (log : List Exchange) : Prop := ∃ e rest, log = e :: rest ∧ e.Overlooked

/-- Whether an exchange finds that the bucket is there: it was made, or existed before. -/
def Exchange.FindsBucket (e : Exchange) : Prop :=
  e.purpose = .bucket ∧ ∃ code, e.reply.code? = some code ∧ (code < 400 ∨ code = 409)

/-- What a submission sends, and in which order. -/
structure Conversation (a : Account) (params : Fields) (log : List Exchange) : Prop where
  /-- Each request is one for its purpose. -/
  asks : ∀ e ∈ log, e.Asks a params
  /-- The request for a work item comes behind that for the bucket. -/
  bucket : ¬Overlooks log → ∀ before e after, log = before ++ e :: after → e.purpose = .item →
    ∃ b ∈ before, b.FindsBucket
  /-- It also comes behind that for an address, to which the work item writes its output. -/
  address : ∀ before e after, log = before ++ e :: after → e.purpose = .item →
    ∃ output, e.Writes a params output ∧ ∃ s ∈ before, s.Gives output
  /-- Where a request for a token is taken for the bucket, this is not asked for. -/
  unasked : Overlooks log → ∀ e ∈ log, e.purpose ≠ .bucket

/-- What comes of a submission, and by which replies. -/
structure Submits (a : Account) (params : Fields) (log : List Exchange)
    (x : Except ServiceFault Submission) : Prop where
  conversation : Conversation a params log
  ending : Ending a (heeded log) x
  returned : ∀ submission, x = .ok submission → ∃ e ∈ log, e.Returns submission.id

section Conversation

variable {a : Account} {params : Fields} {log log' : List Exchange}

/-- A reply that lets a submission go on has a code below 400, or that of a bucket that exists. -/
theorem code_of_passes {e : Exchange} (h : e.judgement = .passes) :
    ∃ code, e.reply.code? = some code ∧ (code < 400 ∨ code = 409) := by
  unfold Exchange.judgement at h
  cases hcontent : e.reply.content with
  -- Without content only the code of a bucket that exists passes.
  | nothing =>
    rw [hcontent] at h
    dsimp only at h
    split at h
    · next hexists => exact ⟨409, hexists.2, .inr rfl⟩
    · split at h <;> cases h
  | nested =>
    rw [hcontent] at h
    cases h
  | value v =>
    cases hreply : e.reply with
    | lost reason =>
      rw [hreply] at hcontent
      cases hcontent
    | answered code body =>
      rw [hreply] at hcontent
      refine ⟨code, rfl, .inl ?_⟩
      by_contra hcode
      rw [content_of_code (by omega) body] at hcontent
      cases hcontent

/-- All replies are heeded just if none is overlooked. -/
theorem heeded_eq_self_iff : heeded log = log ↔ ¬Overlooks log := by
  constructor
  · rintro hheeded ⟨e, rest, rfl, hoverlooked⟩
    have hrest : rest = e :: rest := (if_pos hoverlooked).symm.trans hheeded
    have hlength := congrArg List.length hrest
    rw [List.length_cons] at hlength
    omega
  · intro h
    cases log with
    | nil => rfl
    | cons e rest => exact if_neg fun hoverlooked => h ⟨e, rest, rfl, hoverlooked⟩

/-- Only a refusal is overlooked. -/
theorem mem_heeded {e : Exchange} (he : e ∈ log) (h : e.judgement ≠ .refuses) :
    e ∈ heeded log := by
  cases log with
  | nil => cases he
  | cons first rest =>
    by_cases hoverlooked : first.Overlooked
    · rw [show heeded (first :: rest) = rest from if_pos hoverlooked]
      refine (List.mem_cons.mp he).resolve_left ?_
      rintro rfl
      exact h hoverlooked.judgement
    · rwa [show heeded (first :: rest) = first :: rest from if_neg hoverlooked]

/-- What is heeded was heard. -/
theorem mem_of_mem_heeded {e : Exchange} (he : e ∈ heeded log) : e ∈ log := by
  cases log with
  | nil => cases he
  | cons first rest =>
    by_cases hoverlooked : first.Overlooked
    · rw [show heeded (first :: rest) = rest from if_pos hoverlooked] at he
      exact List.mem_cons_of_mem _ he
    · rwa [show heeded (first :: rest) = first :: rest from if_neg hoverlooked] at he

/-- A request for a work item does not stand where none is sent. -/
theorem split_at_item (hnone : ∀ e ∈ log, e.purpose ≠ .item) {before after : List Exchange}
    {e : Exchange} (hitem : e.purpose = .item) (h : log ++ log' = before ++ e :: after) :
    ∃ rest, before = log ++ rest ∧ log' = rest ++ e :: after := by
  rcases List.append_eq_append_iff.mp h with ⟨rest, hbefore, hlog⟩ | ⟨rest, hlog, hafter⟩
  · exact ⟨rest, hbefore, hlog⟩
  · cases rest with
    | nil => exact ⟨[], by simpa using hlog.symm, hafter.symm⟩
    | cons first rest =>
      have hfirst : e = first := (List.cons.inj hafter).1
      refine absurd hitem (hnone e ?_)
      rw [hlog, hfirst]
      simp

/-- Where no work item is asked for the order is no matter. -/
theorem conversation_of_no_item (hnone : ∀ e ∈ log, e.purpose ≠ .item)
    (hasks : ∀ e ∈ log, e.Asks a params) (hheeded : heeded log = log) :
    Conversation a params log := by
  have hmem : ∀ before e after, log = before ++ e :: after → e.purpose ≠ .item := by
    rintro before e after rfl
    exact hnone e (by simp)
  exact {
    asks := hasks
    bucket := fun _ before e after hlog hitem => absurd hitem (hmem before e after hlog)
    address := fun before e after hlog hitem => absurd hitem (hmem before e after hlog)
    unasked := fun hoverlooks => absurd hoverlooks (heeded_eq_self_iff.mp hheeded) }

/-- What follows the request for the bucket. -/
structure Follows (a : Account) (params : Fields) (log : List Exchange)
    (x : Except ServiceFault Submission) : Prop where
  asks : ∀ e ∈ log, e.Asks a params
  purpose_ne : ∀ e ∈ log, e.purpose ≠ .bucket
  ending : Ending a log x
  address : ∀ before e after, log = before ++ e :: after → e.purpose = .item →
    ∃ output, e.Writes a params output ∧ ∃ s ∈ before, s.Gives output
  returned : ∀ submission, x = .ok submission → ∃ e ∈ log, e.Returns submission.id

/-- An address, and then a work item that writes to it. -/
theorem Addressed.follows {url : Json} (h : Addressed a params log (.ok url))
    {x : Except ServiceFault Submission} (h' : Ordered a params url log' x) :
    Follows a params (log ++ log') x where
  asks := List.forall_mem_append.mpr ⟨h.sends.asks, h'.sends.asks⟩
  purpose_ne := List.forall_mem_append.mpr
    ⟨h.sends.purpose_ne (by decide) (by decide), h'.sends.purpose_ne (by decide) (by decide)⟩
  ending := h'.ending.after h.ending
  address := by
    intro before e after hlog hitem
    have hnone : ∀ e ∈ log, e.purpose ≠ .item := h.sends.purpose_ne (by decide) (by decide)
    obtain ⟨rest, rfl, rfl⟩ := split_at_item hnone hitem hlog
    obtain ⟨s, hs, hgives⟩ := h.given url rfl
    exact ⟨url, h'.writes e (by simp) hitem, s, List.mem_append_left _ hs, hgives⟩
  returned := by
    intro submission hx
    obtain ⟨e, he, hreturns⟩ := h'.returned submission hx
    exact ⟨e, List.mem_append_right _ he, hreturns⟩

/-- No address, and no work item. -/
theorem Addressed.follows_fault {fault : ServiceFault} (h : Addressed a params log (.error fault)) :
    Follows a params log (.error fault) where
  asks := h.sends.asks
  purpose_ne := h.sends.purpose_ne (by decide) (by decide)
  ending := h.ending
  address := by
    rintro before e after rfl hitem
    exact absurd hitem (h.sends.purpose_ne (by decide) (by decide) e (by simp))
  returned := nofun

/-- The bucket, or a token that is taken for it, and what follows. -/
theorem Opening.submits (h : Opening a log (.ok ()))
    (hsends : Sends a params .bucket log) {x : Except ServiceFault Submission}
    (h' : Follows a params log' x) : Submits a params (log ++ log') x := by
  have hnone : ∀ e ∈ log, e.purpose ≠ .item := hsends.purpose_ne (by decide) (by decide)
  have hasks : ∀ e ∈ log ++ log', e.Asks a params :=
    List.forall_mem_append.mpr ⟨hsends.asks, h'.asks⟩
  have haddress : ∀ before e after, log ++ log' = before ++ e :: after → e.purpose = .item →
      ∃ output, e.Writes a params output ∧ ∃ s ∈ before, s.Gives output := by
    intro before e after hlog hitem
    obtain ⟨rest, rfl, hlog'⟩ := split_at_item hnone hitem hlog
    obtain ⟨output, hwrites, s, hs, hgives⟩ := h'.address rest e after hlog' hitem
    exact ⟨output, hwrites, s, List.mem_append_right _ hs, hgives⟩
  have hreturned : ∀ submission, x = .ok submission →
      ∃ e ∈ log ++ log', e.Returns submission.id := by
    intro submission hx
    obtain ⟨e, he, hreturns⟩ := h'.returned submission hx
    exact ⟨e, List.mem_append_right _ he, hreturns⟩
  cases h with
  | there hpasses b hb hpurpose =>
    have hheeded := heeded_of_allPass hpasses (List.ne_nil_of_mem hb) log'
    refine ⟨⟨hasks, ?_, haddress, ?_⟩, ?_, hreturned⟩
    · intro _ before e after hlog hitem
      obtain ⟨rest, rfl, -⟩ := split_at_item hnone hitem hlog
      exact ⟨b, List.mem_append_left _ hb, hpurpose, code_of_passes (hpasses b hb)⟩
    · exact fun hoverlooks => absurd hoverlooks (heeded_eq_self_iff.mp hheeded)
    · rw [hheeded]
      exact h'.ending.after hpasses
  | overlooked e hlog hoverlooked =>
    -- The request for a token was all that was sent, and what follows never asks for the bucket.
    subst hlog
    have hoverlooks : Overlooks ([e] ++ log') := ⟨e, log', rfl, hoverlooked⟩
    have hheeded : heeded ([e] ++ log') = log' := if_pos hoverlooked
    refine ⟨⟨hasks, fun hnot => absurd hoverlooks hnot, haddress, fun _ => ?_⟩, ?_, hreturned⟩
    · refine List.forall_mem_append.mpr ⟨List.forall_mem_singleton.mpr ?_, h'.purpose_ne⟩
      rw [hoverlooked.1]
      nofun
    · rw [hheeded]
      exact h'.ending

/-- **A submission is a conversation**, and ends by the replies that it goes by. -/
theorem talks_submit (hmissing : a.missing = []) (params : Fields) :
    Talks (submit a (.object params)) (Submits a params) := by
  have hcredentials := Account.hasCredentials_of_missing hmissing
  have hconfigured : checkConfigured a = pure () := by
    unfold checkConfigured
    rw [hmissing]
  unfold submit
  rw [hconfigured]
  refine Talks.bind (talks_pure (Talks.bind (talks_ensureBucket hcredentials params ?_)))
  intro log hsends x hopening
  cases x with
  | error fault =>
    cases hopening with
    | faulted _ h hheeded =>
      have hnone : ∀ e ∈ log, e.purpose ≠ .item := hsends.purpose_ne (by decide) (by decide)
      refine ⟨conversation_of_no_item hnone hsends.asks hheeded, ?_, nofun⟩
      rw [List.nil_append, hheeded]
      exact h
  | ok opened =>
    refine Talks.bind (talks_ofExcept (Talks.bind (talks_freshIdentifier fun outside => ?_)))
    -- The bucket is asked for first; the key of the output has no half in it.
    have haddress : Talks (signedUpload a ⟨a.bucketKey, objectKeyOf params outside.issue.1⟩)
        (Addressed a params) :=
      talks_signedUpload params hcredentials rfl (holdsHalf_objectKeyOf params outside)
    refine Talks.bind (haddress.mono fun first y haddressed => ?_)
    cases y with
    | error fault => exact hopening.submits hsends haddressed.follows_fault
    | ok url =>
      refine (talks_orderItem hcredentials _).mono fun second z hordered => ?_
      exact hopening.submits hsends (haddressed.follows hordered)

end Conversation

end WorkItem

end FamilyDesign
