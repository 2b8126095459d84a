import FamilyDesign.Proofs.Design.Values
import FamilyDesign.Proofs.WorkItem.Exchange

/-!
# How a token is obtained

A token comes with a lifetime, and is used up to a minute before that has passed since its reply was
received. Whenever a token is needed, the one that is held is used or a new one is asked for. The
clock stands still meanwhile.

The token of a reply is held before its lifetime is looked at. If that is an integer beyond the
range of real numbers, or no number at all, there is a fault, and the limit of the token that was
held before stays.

* **`Renewal.grant?`** — the token that a reply gives, with its limit if it sets one.
* **`Obtains`** — all that may come of needing a token; `obtains_accessToken` is how the connection
  does it.
* **`Reading.Lawful`** — what is expected of it, and **`Amiss`** — the ways in which a grant without
  a limit is in its way.
* **`Obtains.lawful_iff`** — nothing else is.
-/

namespace FamilyDesign

open Numeric (Binary64)

namespace WorkItem

open Job (Call ServiceFault)

/-! ## Grants -/

/-- A token with its lifetime, and when its reply was received. -/
structure Grant where
  token : Json
  lifetime : Json
  received : Binary64

namespace Grant

/-- The limit that a grant sets, if its lifetime can be read as a real number. -/
def limit? (g : Grant) : Option Binary64 :=
  g.lifetime.toReal.toOption.map fun seconds => g.received + seconds - tokenMargin

/-- The seconds of a lifetime. An integer beyond the range of real numbers is infinite, and what is
no number is undefined. -/
def seconds (g : Grant) : Binary64 :=
  match g.lifetime with
  | .int n => .ofInt n
  | v => v.toReal.toOption.getD .undefined

/-- When a token should no longer be used. -/
def expiry (g : Grant) : Binary64 := g.received + g.seconds - tokenMargin

/-- A limit that is set is the right one. -/
theorem expiry_of_limit? {g : Grant} {t : Binary64} (h : g.limit? = some t) : g.expiry = t := by
  unfold limit? at h
  obtain ⟨x, hx, ht⟩ := Option.map_eq_some_iff.mp h
  have hreal : g.lifetime.toReal = .ok x := by
    cases hlifetime : g.lifetime.toReal with
    | ok y =>
      rw [hlifetime] at hx
      exact congrArg Except.ok (Option.some.inj hx)
    | error fault =>
      rw [hlifetime] at hx
      cases hx
  -- An integer lifetime is in range of the reals, since it set a limit.
  have hseconds : g.seconds = x := by
    unfold seconds
    split
    · next n hn =>
      rw [hn] at hreal
      unfold Json.toReal Json.realOfInt at hreal
      dsimp only at hreal
      split at hreal
      · exact Except.ok.inj hreal
      · cases hreal
    · rw [hx]
      rfl
  unfold expiry
  rw [hseconds, ht]

end Grant

/-- The grant in fields that are received at a time: there has to be a token. -/
def grantOf (fields : Fields) (received : Binary64) : Option Grant :=
  let token := (fields.lookup "access_token").getD .null
  if token.isTrue then
    some ⟨token, (fields.lookup "expires_in").getD standardLifetime, received⟩
  else none

/-- The grant in a reply that is received at a time. -/
def grantIn (reply : Http.Reply) (received : Binary64) : Option Grant :=
  match reply.content with
  | .value (.object fields) => grantOf fields received
  | _ => none

/-- A token that was granted counts as true. -/
theorem isTrue_of_grantIn {reply : Http.Reply} {received : Binary64} {g : Grant}
    (h : grantIn reply received = some g) : g.token.isTrue = true := by
  unfold grantIn at h
  split at h
  · unfold grantOf at h
    dsimp only at h
    split at h
    · next htoken =>
      cases h
      exact htoken
    · cases h
  · cases h

/-- Fields that were read are the content of the reply. -/
theorem Reads.content_of_fields {reply : Http.Reply} {x : Except ServiceFault Json}
    (h : Reads reply x) {fields : Fields} (hfields : x >>= Job.fieldsOf = .ok fields) :
    reply.content = .value (.object fields) := by
  obtain ⟨v, rfl, hv⟩ := bind_eq_ok_iff.mp hfields
  rw [reads_ok_iff.mp h]
  cases v with
  | object fields' =>
    cases hv
    rfl
  | _ => cases hv

/-- There is no grant in a reply that holds no object. -/
theorem Reads.grantIn_of_fault {reply : Http.Reply} {x : Except ServiceFault Json}
    (h : Reads reply x) {fault : ServiceFault} (hfault : x >>= Job.fieldsOf = .error fault)
    (received : Binary64) : grantIn reply received = none := by
  unfold grantIn
  split
  · next fields hfields =>
    cases h with
    | value v hv =>
      cases hv.symm.trans hfields
      cases hfault
    | refused message hnothing => cases hnothing.symm.trans hfields
    | failed message code hnothing => cases hnothing.symm.trans hfields
    | nested limit hnested => cases hnested.symm.trans hfields
  · rfl

/-- A request for a token, its reply, and when that was received. -/
structure Renewal where
  request : Http.Request
  reply : Http.Reply
  received : Binary64

/-- The token that a reply gives. -/
def Renewal.grant? (w : Renewal) : Option Grant := grantIn w.reply w.received

/-- The connection once a grant is looked at. -/
def Connection.keep (c : Connection) (g : Grant) : Connection :=
  { c with token := some g.token, useUntil := g.limit?.getD c.useUntil }

/-! ## Readings -/

/-- One time that a token is needed: when, the request for a new one if any is sent, what comes of
it, and the connection before and afterwards. -/
structure Reading where
  asked : Binary64
  renewal : Option Renewal
  answer : Except ServiceFault Json
  former : Connection
  latter : Connection

/-- The token that is given at a reading. -/
def Reading.grant? (e : Reading) : Option Grant := e.renewal.bind (·.grant?)

/-- There is nothing to ask for a token with: the account lacks its credentials, or they cannot be
written. -/
def Account.IsBarred (a : Account) : Prop :=
  a.hasCredentials = true → ∀ r, tokenRequest a ≠ .ok r

/-- A request for a token is sent, since none can be used, and the next reply is received. -/
structure Renews (a : Account) (s : Surroundings × Connection) (w : Renewal) : Prop where
  unusable : usableToken? s.1 s.2 = none
  asks : tokenRequest a = .ok w.request
  heard : w.reply = s.2.reply 0
  received : w.received = s.1.uptime

/-- All that may come of a reading: the token that is held is used, or none can be asked for, or it
is not given, or it is given without a limit, which is a fault, or with one. -/
inductive Obtains (a : Account) (s : Surroundings × Connection) :
    Reading → Surroundings × Connection → Prop
  | held (token : Json) (h : usableToken? s.1 s.2 = some token) :
      Obtains a s ⟨s.1.uptime, none, .ok token, s.2, s.2⟩ s
  | barred (fault : ServiceFault) (h : usableToken? s.1 s.2 = none) (hbarred : a.IsBarred) :
      Obtains a s ⟨s.1.uptime, none, .error fault, s.2, s.2⟩ s
  | refused (w : Renewal) (h : Renews a s w) (hgrant : w.grant? = none) (fault : ServiceFault) :
      Obtains a s ⟨s.1.uptime, some w, .error fault, s.2, s.2.after w.request⟩
        (s.1, s.2.after w.request)
  | unlimited (w : Renewal) (h : Renews a s w) (g : Grant) (hgrant : w.grant? = some g)
      (hlimit : g.limit? = none) (fault : ServiceFault) :
      Obtains a s ⟨s.1.uptime, some w, .error fault, s.2, (s.2.after w.request).keep g⟩
        (s.1, (s.2.after w.request).keep g)
  | granted (w : Renewal) (h : Renews a s w) (g : Grant) (hgrant : w.grant? = some g)
      (t : Binary64) (hlimit : g.limit? = some t) :
      Obtains a s ⟨s.1.uptime, some w, .ok g.token, s.2, (s.2.after w.request).keep g⟩
        (s.1, (s.2.after w.request).keep g)

section Obtaining

variable {a : Account} {s : Surroundings × Connection}

/-- What is done with the fields of a reply is what its grant says. -/
theorem obtains_keepToken {w : Renewal} (h : Renews a s w) {fields : Fields}
    (hfields : w.reply.content = .value (.object fields)) :
    ∃ x s', (keepToken fields).run (s.1, s.2.after w.request) = (x, s') ∧
      Obtains a s ⟨s.1.uptime, some w, x, s.2, s'.2⟩ s' := by
  have hgrant : w.grant? = grantOf fields w.received := by
    unfold Renewal.grant? grantIn
    rw [hfields]
  unfold grantOf at hgrant
  dsimp only at hgrant
  unfold keepToken
  dsimp only
  cases htoken : ((fields.lookup "access_token").getD .null).isTrue with
  | false =>
    rw [htoken, if_neg Bool.false_ne_true] at hgrant
    rw [if_neg Bool.false_ne_true]
    exact ⟨_, _, rfl, .refused w h hgrant _⟩
  | true =>
    rw [htoken, if_pos rfl] at hgrant
    rw [if_pos rfl]
    cases hlifetime : ((fields.lookup "expires_in").getD standardLifetime).toReal with
    | error cause =>
      -- The token is held by now, and its limit is not set any more.
      refine ⟨.error (.number cause), (s.1, (s.2.after w.request).keep _), ?_,
        .unlimited w h _ hgrant ?_ _⟩
      · unfold Connection.keep Grant.limit?
        dsimp only
        rw [hlifetime]
        rfl
      · unfold Grant.limit?
        dsimp only
        rw [hlifetime]
        rfl
    | ok seconds =>
      have hlimit : ∀ token,
          Grant.limit? ⟨token, (fields.lookup "expires_in").getD standardLifetime, w.received⟩
            = some (s.1.uptime + seconds - tokenMargin) := by
        intro token
        unfold Grant.limit?
        dsimp only
        rw [hlifetime, h.received]
        rfl
      refine ⟨.ok _, (s.1, (s.2.after w.request).keep _), ?_, .granted w h _ hgrant _ (hlimit _)⟩
      unfold Connection.keep
      rw [hlimit]
      rfl

/-- Asking for a new token is a reading. -/
theorem obtains_renewToken (h : usableToken? s.1 s.2 = none) :
    ∃ e s', (renewToken a).run s = (e.answer, s') ∧ Obtains a s e s' := by
  cases hcredentials : a.hasCredentials with
  | false =>
    rw [renewToken_of_no_credentials a hcredentials]
    have hbarred : a.IsBarred :=
      fun hhas => absurd (hcredentials.symm.trans hhas) Bool.false_ne_true
    exact ⟨_, s, rfl, .barred _ h hbarred⟩
  | true =>
    rw [renewToken_eq a hcredentials]
    cases hrequest : tokenRequest a with
    | error fault =>
      have hbarred : a.IsBarred := fun _ r hr => by cases hrequest.symm.trans hr
      exact ⟨_, s, rfl, .barred fault h hbarred⟩
    -- The request is sent: its reply has no fields to read, or the token in them is taken or not.
    | ok r =>
      have hrenews : Renews a s ⟨r, s.2.reply 0, s.1.uptime⟩ := ⟨h, hrequest, rfl, rfl⟩
      obtain ⟨x, hrun, hreads⟩ := run_objectOf r s.1 s.2
      show ∃ e s', (objectOf r >>= keepToken).run s = (e.answer, s') ∧ Obtains a s e s'
      cases hx : x >>= Job.fieldsOf with
      | error fault =>
        rw [hx] at hrun
        rw [run_bind_error hrun]
        exact ⟨_, _, rfl, .refused _ hrenews (hreads.grantIn_of_fault hx _) fault⟩
      | ok fields =>
        rw [hx] at hrun
        obtain ⟨y, s', hkeep, hobtains⟩ := obtains_keepToken hrenews (hreads.content_of_fields hx)
        rw [run_bind_ok hrun, hkeep]
        exact ⟨_, _, rfl, hobtains⟩

/-- A token is obtained in one of the ways. -/
theorem obtains_accessToken (a : Account) (s : Surroundings × Connection) :
    ∃ e s', (accessToken a).run s = (e.answer, s') ∧ Obtains a s e s' := by
  rw [accessToken_eq]
  cases h : usableToken? s.1 s.2 with
  | some token => exact ⟨_, s, rfl, .held token h⟩
  | none => exact obtains_renewToken h

end Obtaining

/-! ## What is expected -/

/-- What is expected of a reading, where `last` is the token that was given last before it. -/
structure Reading.Lawful (last : Option Grant) (e : Reading) : Prop where
  /-- A token that is answered is the one given last, either just now or not yet expired. -/
  answered : ∀ token, e.answer = .ok token →
    ∃ g, e.grant?.or last = some g ∧ g.token = token ∧ (e.grant? = some g ∨ e.asked < g.expiry)
  /-- A token is asked for only if none is held, or if it has expired. -/
  asks : e.renewal.isSome = true → e.former.token = none ∨ ∀ g ∈ last, ¬e.asked < g.expiry
  /-- A fault leaves the token that is held and its limit as they are. -/
  faulted : ∀ fault, e.answer = .error fault →
    e.latter.token = e.former.token ∧ e.latter.useUntil = e.former.useUntil

/-- How a grant without a limit is in the way of that: the next token is asked for before it has
expired, or it is used for as long as the one before it, or it is held in spite of the fault. -/
inductive Amiss (last : Option Grant) (e : Reading) : Prop
  | early (g : Grant) (h : last = some g) (hlimit : g.limit? = none)
      (hrenewal : e.renewal.isSome = true) (hahead : e.asked < g.expiry)
  | late (g : Grant) (h : last = some g) (hlimit : g.limit? = none) (hrenewal : e.renewal = none)
      (token : Json) (hanswer : e.answer = .ok token) (hpassed : ¬e.asked < g.expiry)
  | replaced (g : Grant) (h : e.grant? = some g) (hlimit : g.limit? = none)
      (hother : e.former.token ≠ some g.token)

/-- A connection holds the token that was given last, with its limit if it sets one. -/
structure Holds (last : Option Grant) (c : Connection) : Prop where
  token : c.token = last.map (·.token)
  counts : ∀ g ∈ last, g.token.isTrue = true
  limit : ∀ g ∈ last, ∀ t, g.limit? = some t → c.useUntil = t

section Laws

variable {a : Account} {s s' : Surroundings × Connection} {e : Reading} {last : Option Grant}

/-- A request does not touch the token. -/
theorem Holds.after {c : Connection} (h : Holds last c) (r : Http.Request) :
    Holds last (c.after r) where
  token := h.token
  counts := h.counts
  limit := h.limit

/-- A grant that is kept is held. -/
theorem holds_keep {c : Connection} {g : Grant} (h : g.token.isTrue = true) :
    Holds (some g) (c.keep g) where
  token := rfl
  counts := by
    intro g' hg'
    cases hg'
    exact h
  limit := by
    intro g' hg' t ht
    cases hg'
    show g.limit?.getD c.useUntil = t
    rw [ht]
    rfl

/-- A reading leaves the connection with the token that was given last. -/
theorem Obtains.holds (h : Obtains a s e s') (hholds : Holds last s.2) :
    Holds (e.grant?.or last) s'.2 := by
  cases h with
  | held token h => exact hholds
  | barred fault h hbarred => exact hholds
  | refused w h hgrant fault =>
    show Holds (w.grant?.or last) _
    rw [hgrant]
    exact hholds.after _
  | unlimited w h g hgrant hlimit fault =>
    show Holds (w.grant?.or last) _
    rw [hgrant]
    exact holds_keep (isTrue_of_grantIn hgrant)
  | granted w h g hgrant t hlimit =>
    show Holds (w.grant?.or last) _
    rw [hgrant]
    exact holds_keep (isTrue_of_grantIn hgrant)

/-- The token that can be used is the one that was given last, and its limit lies ahead. -/
theorem Holds.exists_of_usable (h : Holds last s.2) {token : Json}
    (husable : usableToken? s.1 s.2 = some token) :
    ∃ g, last = some g ∧ g.token = token ∧ s.1.uptime < s.2.useUntil := by
  obtain ⟨htoken, hcounts⟩ := Option.filter_eq_some_iff.mp husable
  rw [h.token] at htoken
  obtain ⟨g, hg, rfl⟩ := Option.map_eq_some_iff.mp htoken
  rw [Bool.and_eq_true, decide_eq_true_iff] at hcounts
  exact ⟨g, hg, rfl, hcounts.2⟩

/-- If no token can be used, the limit of the one that was given last has passed. -/
theorem Holds.not_lt_of_unusable (h : Holds last s.2) (hunusable : usableToken? s.1 s.2 = none)
    {g : Grant} (hg : g ∈ last) : ¬s.1.uptime < s.2.useUntil := by
  intro hahead
  have htoken : s.2.token = some g.token := by
    rw [h.token, Option.mem_def.mp hg]
    rfl
  refine Option.filter_eq_none_iff.mp hunusable g.token htoken ?_
  rw [h.counts g hg, decide_eq_true hahead]
  rfl

/-- A token is asked for at the right time, unless the grant before it has no limit. -/
theorem Renews.not_lt_expiry {w : Renewal} (h : Renews a s w) (hholds : Holds last s.2)
    (hearly : ∀ g, last = some g → g.limit? = none → ¬s.1.uptime < g.expiry) (g : Grant)
    (hg : g ∈ last) : ¬s.1.uptime < g.expiry := by
  cases hlimit : g.limit? with
  | none => exact hearly g hg hlimit
  | some t =>
    rw [g.expiry_of_limit? hlimit, ← hholds.limit g hg t hlimit]
    exact hholds.not_lt_of_unusable h.unusable hg

/-- A reading is as expected unless a grant without a limit is in the way. -/
theorem Obtains.lawful (h : Obtains a s e s') (hholds : Holds last s.2) (hamiss : ¬Amiss last e) :
    e.Lawful last := by
  cases h with
  -- The token in hand is that of the last grant, and its limit, if it has one, is ahead.
  | held token h =>
    obtain ⟨g, hg, htoken, hahead⟩ := hholds.exists_of_usable h
    refine ⟨?_, nofun, nofun⟩
    intro token' htoken'
    cases htoken'
    refine ⟨g, hg, htoken, .inr ?_⟩
    cases hlimit : g.limit? with
    | none => exact not_not.mp fun hpassed => hamiss (.late g hg hlimit rfl token rfl hpassed)
    | some t =>
      rw [g.expiry_of_limit? hlimit, ← hholds.limit g hg t hlimit]
      exact hahead
  | barred fault h hbarred => exact ⟨nofun, nofun, fun _ _ => ⟨rfl, rfl⟩⟩
  | refused w h hgrant fault =>
    refine ⟨nofun, fun _ => .inr (h.not_lt_expiry hholds ?_), fun _ _ => ⟨rfl, rfl⟩⟩
    exact fun g hg hlimit hahead => hamiss (.early g hg hlimit rfl hahead)
  | unlimited w h g hgrant hlimit fault =>
    refine ⟨nofun, fun _ => .inr (h.not_lt_expiry hholds ?_), fun _ _ => ⟨?_, ?_⟩⟩
    · exact fun g' hg' hlimit' hahead => hamiss (.early g' hg' hlimit' rfl hahead)
    · exact (not_not.mp fun hother => hamiss (.replaced g hgrant hlimit hother)).symm
    · show g.limit?.getD s.2.useUntil = s.2.useUntil
      rw [hlimit]
      rfl
  | granted w h g hgrant t hlimit =>
    refine ⟨?_, fun _ => .inr (h.not_lt_expiry hholds ?_), nofun⟩
    · intro token htoken
      cases htoken
      refine ⟨g, ?_, rfl, .inl hgrant⟩
      show w.grant?.or last = some g
      rw [hgrant]
      rfl
    · exact fun g' hg' hlimit' hahead => hamiss (.early g' hg' hlimit' rfl hahead)

theorem Obtains.former_eq (h : Obtains a s e s') : e.former = s.2 := by
  cases h <;> rfl

/-- Nothing goes on outside while a token is obtained. -/
theorem Obtains.outside_eq (h : Obtains a s e s') : s'.1 = s.1 := by
  cases h <;> rfl

/-- A token is asked for when it is needed, and its reply is received at that time. -/
theorem Obtains.timed (h : Obtains a s e s') :
    e.asked = s.1.uptime ∧ ∀ w ∈ e.renewal, w.received = s.1.uptime := by
  cases h with
  | held token h => exact ⟨rfl, nofun⟩
  | barred fault h hbarred => exact ⟨rfl, nofun⟩
  | refused w h hgrant fault =>
    refine ⟨rfl, ?_⟩
    intro w' hw'
    cases hw'
    exact h.received
  | unlimited w h g hgrant hlimit fault =>
    refine ⟨rfl, ?_⟩
    intro w' hw'
    cases hw'
    exact h.received
  | granted w h g hgrant t hlimit =>
    refine ⟨rfl, ?_⟩
    intro w' hw'
    cases hw'
    exact h.received

theorem Obtains.latter_eq (h : Obtains a s e s') : e.latter = s'.2 := by
  cases h <;> rfl

/-- A grant without a limit is a fault, which does not keep its token from being held. -/
theorem Obtains.of_unlimited (h : Obtains a s e s') {g : Grant} (hgrant : e.grant? = some g)
    (hlimit : g.limit? = none) :
    (∃ fault, e.answer = .error fault) ∧ ∃ r, s' = (s.1, (s.2.after r).keep g) := by
  cases h with
  | held token h => cases hgrant
  | barred fault h hbarred => cases hgrant
  | refused w h hnone fault => cases hnone.symm.trans hgrant
  | unlimited w h g' hgrant' hlimit' fault =>
    cases hgrant'.symm.trans hgrant
    exact ⟨⟨fault, rfl⟩, w.request, rfl⟩
  | granted w h g' hgrant' t hlimit' =>
    cases hgrant'.symm.trans hgrant
    cases hlimit.symm.trans hlimit'

/-- With a grant in the way a reading is not as expected. -/
theorem Obtains.not_lawful (h : Obtains a s e s') (hholds : Holds last s.2)
    (hamiss : Amiss last e) : ¬e.Lawful last := by
  intro hlawful
  cases hamiss with
  | early g hlast hlimit hrenewal hahead =>
    rcases hlawful.asks hrenewal with hnone | hpassed
    · rw [h.former_eq, hholds.token, hlast] at hnone
      cases hnone
    · exact hpassed g hlast hahead
  -- The token was answered although it had expired.
  | late g hlast hlimit hrenewal token hanswer hpassed =>
    obtain ⟨g', hg', -, hfresh⟩ := hlawful.answered token hanswer
    unfold Reading.grant? at hg' hfresh
    rw [hrenewal] at hg' hfresh
    cases hlast.symm.trans hg'
    rcases hfresh with hgrant | hahead
    · cases hgrant
    · exact hpassed hahead
  | replaced g hgrant hlimit hother =>
    obtain ⟨⟨fault, hfault⟩, r, hs'⟩ := h.of_unlimited hgrant hlimit
    have htoken : e.latter.token = some g.token := by
      rw [h.latter_eq, hs']
      rfl
    exact hother ((hlawful.faulted fault hfault).1.symm.trans htoken)

/-- Nothing but a grant without a limit is in the way of what is expected. -/
theorem Obtains.lawful_iff (h : Obtains a s e s') (hholds : Holds last s.2) :
    e.Lawful last ↔ ¬Amiss last e :=
  ⟨fun hlawful hamiss => h.not_lawful hholds hamiss hlawful, h.lawful hholds⟩

end Laws

end WorkItem

end FamilyDesign
