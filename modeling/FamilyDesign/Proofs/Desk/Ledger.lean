import FamilyDesign.Proofs.Desk.Requests
import Mathlib.Data.List.TakeWhile

/-!
# The ledger of a session

What a session shows is told by the calls that were made on it: its version is the number of
renewals, its design is the last of them, and its turns are the last of all that were recorded for
it. Variations count for the turns only, and only once there is a session.

* **`renewals`**, **`recorded`** — what a list of calls has made current, and has recorded.
* **`Ledger`** — a desk shows a session as the calls tell.
* **`ledger_answer`** — one more answered request keeps the ledger.
* **`ledger_run`** — so does every run of a desk that began without sessions.
-/

namespace FamilyDesign

namespace Session

/-- Of a list that is cut as it grows, no more is lost than of the whole list cut once. -/
theorem lastOf_append {α : Type} (count : Nat) (items more : List α) :
    lastOf count (lastOf count items ++ more) = lastOf count (items ++ more) := by
  have hdrop : items.length - count + (min count items.length + more.length - count)
      = items.length + more.length - count := by
    omega
  have hrest : min count items.length + more.length - count - min count items.length
      = items.length + more.length - count - items.length := by
    omega
  have hlength : (lastOf count items).length = min count items.length := length_lastOf count items
  show (lastOf count items ++ more).drop ((lastOf count items ++ more).length - count) = _
  rw [List.length_append, hlength, List.drop_append, hlength, hrest]
  show (items.drop (items.length - count)).drop _ ++ _ = _
  rw [List.drop_drop, hdrop]
  unfold lastOf
  rw [List.length_append, List.drop_append]

/-- One turn more is one more at the end, of which only the last ones are kept. -/
theorem turns_addTurn {s : Session} {recorded : List Turn} (turn : Turn)
    (h : s.turns = lastOf turnLimit recorded) :
    (s.addTurn turn).turns = lastOf turnLimit (recorded ++ [turn]) := by
  show lastOf turnLimit (s.turns ++ [turn]) = _
  rw [h, lastOf_append]

/-- So it is with several turns. -/
theorem turns_foldl_addTurn {s : Session} {recorded : List Turn} (turns : List Turn)
    (h : s.turns = lastOf turnLimit recorded) :
    (turns.foldl addTurn s).turns = lastOf turnLimit (recorded ++ turns) := by
  induction turns generalizing s recorded with
  | nil =>
    rw [List.append_nil]
    exact h
  | cons turn turns ih =>
    have hturned := ih (turns_addTurn turn h)
    rw [List.append_assoc] at hturned
    exact hturned

end Session

namespace Desk

/-- The drafts that calls have made the current design of a session, in their order. -/
def renewals (id : Text) (calls : List Call) : List Draft :=
  (calls.filter (·.renews id)).flatMap (·.drafts)

/-- The turns that calls on a session have recorded, from the first on that renews it. -/
def recorded (id : Text) (calls : List Call) : List Turn :=
  ((calls.dropWhile (!·.renews id)).filter (·.isOn id)).flatMap (·.turns)

/-- Whether a call has as many drafts as it asked for, all of them numbered by the version that it
found or, if it renews the session, by the next one. -/
structure Call.Numbered (call : Call) (version : Nat) : Prop where
  length : call.drafts.length = call.request.size
  version : ∀ draft ∈ call.drafts,
    draft.version = version + if call.request.renews then 1 else 0

variable {σ : Type}

/-- What a desk shows of a session, and has answered to calls on it, is what the calls tell. -/
structure Ledger (id : Text) (calls : List Call) (desk : Desk σ) : Prop where
  stored : (desk.session? id).isSome = calls.any (·.renews id)
  version : desk.version id = calls.countP (·.renews id)
  design : desk.design? id = (renewals id calls).getLast?.map (·.design)
  turns : desk.turns id = Session.lastOf Session.turnLimit (recorded id calls)
  numbered : ∀ before call after, calls = before ++ call :: after → call.isOn id = true →
    call.Numbered (before.countP (·.renews id))

variable {tools : DeskTools σ} {desk desk' : Desk σ} {id : Text} {calls : List Call}
  {call : Call}

/-! ## What calls tell -/

/-- A call adds its drafts to the renewals just if it renews the session. -/
theorem renewals_concat (id : Text) (calls : List Call) (call : Call) :
    renewals id (calls ++ [call])
      = renewals id calls ++ if call.renews id then call.drafts else [] := by
  unfold renewals
  rw [List.filter_append, List.flatMap_append]
  cases hrenews : call.renews id with
  | false => simp [hrenews]
  | true => simp [hrenews]

/-- Nothing is dropped once a session has begun, and all is dropped before. -/
theorem dropWhile_concat (id : Text) (calls : List Call) (call : Call) :
    (calls ++ [call]).dropWhile (!·.renews id)
      = calls.dropWhile (!·.renews id)
        ++ if calls.any (·.renews id) || call.renews id then [call] else [] := by
  rw [List.dropWhile_append]
  cases hbegun : calls.any (·.renews id) with
  -- as long as no call has renewed the session, all of them are dropped
  | false =>
    have hnil : calls.dropWhile (!·.renews id) = [] := by
      rw [List.dropWhile_eq_nil_iff]
      intro c hc
      rw [List.any_eq_false] at hbegun
      simpa using hbegun c hc
    rw [hnil]
    cases hrenews : call.renews id with
    | false => simp [hrenews]
    | true => simp [hrenews]
  | true =>
    have hne : calls.dropWhile (!·.renews id) ≠ [] := by
      rw [ne_eq, List.dropWhile_eq_nil_iff]
      intro hnone
      obtain ⟨c, hc, hrenews⟩ := List.any_eq_true.mp hbegun
      have hnot := hnone c hc
      rw [hrenews] at hnot
      cases hnot
    rw [if_neg (by rwa [List.isEmpty_iff])]
    rfl

/-- A call adds its turns to what is recorded if the session has begun by then and the call is on
it. -/
theorem recorded_concat (id : Text) (calls : List Call) (call : Call) :
    recorded id (calls ++ [call]) = recorded id calls ++
      if (calls.any (·.renews id) || call.renews id) && call.isOn id then call.turns else [] := by
  unfold recorded
  rw [dropWhile_concat, List.filter_append, List.flatMap_append]
  congr 1
  cases hbegun : calls.any (·.renews id) || call.renews id with
  | false => rfl
  | true =>
    cases hon : call.isOn id with
    | false => simp [hon]
    | true => simp [hon]

/-- The calls before one of a list that has grown by one: all that there were, or some of them. -/
theorem numbered_concat
    (h : ∀ before c after, calls = before ++ c :: after → c.isOn id = true →
      c.Numbered (before.countP (·.renews id)))
    (hnew : call.isOn id = true → call.Numbered (calls.countP (·.renews id))) :
    ∀ before c after, calls ++ [call] = before ++ c :: after → c.isOn id = true →
      c.Numbered (before.countP (·.renews id)) := by
  intro before c after hsplit hon
  rcases List.eq_nil_or_concat after with rfl | ⟨after, last, rfl⟩
  · obtain ⟨rfl, hc⟩ := List.append_inj' hsplit rfl
    cases hc
    exact hnew hon
  · rw [List.concat_eq_append, ← List.cons_append, ← List.append_assoc] at hsplit
    obtain ⟨hsplit, -⟩ := List.append_inj' hsplit rfl
    exact h before c after hsplit hon

/-- A call is on the session that its request names. -/
theorem isOn_iff {request : Request} {drafts : List Draft} :
    Call.isOn ⟨request, drafts⟩ id = true ↔ request.session? = some id := by
  unfold Call.isOn
  exact decide_eq_true_iff

/-! ## What a desk shows -/

/-- What is shown of a session depends on nothing but what is kept of it. -/
theorem shown_congr (h : desk'.session? id = desk.session? id) :
    desk'.version id = desk.version id ∧ desk'.design? id = desk.design? id ∧
      desk'.turns id = desk.turns id := by
  unfold Desk.version Desk.design? Desk.turns
  rw [h]
  exact ⟨rfl, rfl, rfl⟩

theorem shown_of_some {s : Session} (h : desk.session? id = some s) :
    desk.version id = s.version ∧ desk.design? id = s.design ∧ desk.turns id = s.turns := by
  unfold Desk.version Desk.design? Desk.turns
  rw [h]
  exact ⟨rfl, rfl, rfl⟩

theorem shown_of_none (h : desk.session? id = none) :
    desk.version id = 0 ∧ desk.design? id = none ∧ desk.turns id = [] := by
  unfold Desk.version Desk.design? Desk.turns
  rw [h]
  exact ⟨rfl, rfl, rfl⟩

/-- Before any call there is nothing in the ledger of a desk without sessions. -/
theorem ledger_of_empty (h : desk.sessions = {}) (id : Text) : Ledger id [] desk := by
  have hnone : desk.session? id = none := by
    unfold session?
    rw [h]
    rfl
  obtain ⟨hversion, hdesign, hturns⟩ := shown_of_none hnone
  refine ⟨?_, hversion, hdesign, hturns, ?_⟩
  · rw [hnone]
    rfl
  · intro before call after hsplit
    exact absurd hsplit.symm (List.append_ne_nil_of_right_ne_nil _ (List.cons_ne_nil _ _))

/-! ## One more call -/

/-- A call that is not on the session. -/
theorem Ledger.other (h : Ledger id calls desk) (hsession : desk'.session? id = desk.session? id)
    (hoff : call.isOn id = false) : Ledger id (calls ++ [call]) desk' := by
  have hrenews : call.renews id = false := by
    unfold Call.renews
    rw [hoff, Bool.and_false]
  obtain ⟨hversion, hdesign, hturns⟩ := shown_congr hsession
  refine ⟨?_, ?_, ?_, ?_, ?_⟩
  · rw [hsession, h.stored]
    simp [hrenews]
  · rw [List.countP_append, List.countP_singleton, hrenews, hversion, h.version]
    rfl
  · rw [renewals_concat, hrenews, hdesign, h.design]
    simp
  · rw [recorded_concat, hoff, Bool.and_false, hturns, h.turns]
    simp
  · refine numbered_concat h.numbered ?_
    intro hon
    rw [hoff] at hon
    cases hon

/-- A call for a new design of the session. -/
theorem Ledger.renewal {request : Request} {draft : Draft} (h : Ledger id calls desk)
    (hrenewal : Renewal desk desk' id (request.prompt 0) draft) (hrenews : request.renews = true)
    (hsize : request.size = 1) (hon : request.session? = some id) :
    Ledger id (calls ++ [⟨request, [draft]⟩]) desk' := by
  have hisOn : Call.isOn ⟨request, [draft]⟩ id = true := isOn_iff.mpr hon
  have hcall : Call.renews ⟨request, [draft]⟩ id = true := by
    unfold Call.renews
    rw [hisOn, Bool.and_true]
    exact hrenews
  obtain ⟨⟨now, hsession⟩, hnumbered, -⟩ := hrenewal
  obtain ⟨hversion, hdesign, hturns⟩ := shown_of_some hsession
  -- the session that is renewed shows what the desk showed, or nothing if it has just begun
  have hfound : ((desk.session? id).getD (.start id now)).version = desk.version id ∧
      ((desk.session? id).getD (.start id now)).turns = desk.turns id := by
    cases hget : desk.session? id with
    | none =>
      obtain ⟨hversion, -, hturns⟩ := shown_of_none hget
      exact ⟨hversion.symm, hturns.symm⟩
    | some s =>
      obtain ⟨hversion, -, hturns⟩ := shown_of_some hget
      exact ⟨hversion.symm, hturns.symm⟩
  refine ⟨?_, ?_, ?_, ?_, ?_⟩
  · rw [hsession, List.any_append]
    simp [hcall]
  · rw [List.countP_append, List.countP_singleton, hcall, hversion, ← h.version, ← hfound.1]
    rfl
  · rw [renewals_concat, hcall, if_pos rfl, List.getLast?_concat, hdesign]
    rfl
  · rw [recorded_concat, hcall, hisOn, Bool.or_true, hturns]
    refine Session.turns_addTurn (draft.turn (request.prompt 0)) ?_
    exact hfound.2.trans h.turns
  · refine numbered_concat h.numbered ?_
    intro _
    refine ⟨hsize.symm, ?_⟩
    intro d hd
    cases List.mem_singleton.mp hd
    rw [hnumbered, h.version, if_pos hrenews]

/-- A call for variations of the session. -/
theorem Ledger.siblings {request : Request} {drafts : List Draft} (h : Ledger id calls desk)
    (hsiblings : Siblings desk desk' request.session? drafts (Call.turns ⟨request, drafts⟩))
    (hrenews : request.renews = false) (hsize : drafts.length = request.size)
    (hon : request.session? = some id) (hid : id.isEmpty = false) :
    Ledger id (calls ++ [⟨request, drafts⟩]) desk' := by
  have hisOn : Call.isOn ⟨request, drafts⟩ id = true := isOn_iff.mpr hon
  have hcall : Call.renews ⟨request, drafts⟩ id = false := by
    unfold Call.renews
    rw [show (Call.mk request drafts).request.renews = false from hrenews]
    rfl
  have hsession := hsiblings.recorded id hon hid
  have hstored : (desk'.session? id).isSome = calls.any (·.renews id) := by
    rw [hsession, Option.isSome_map]
    exact h.stored
  have hshown : desk'.version id = desk.version id ∧ desk'.design? id = desk.design? id ∧
      desk'.turns id = Session.lastOf Session.turnLimit
        (recorded id (calls ++ [⟨request, drafts⟩])) := by
    rw [recorded_concat, hcall, hisOn, Bool.or_false, Bool.and_true, ← hstored, hsession]
    cases hget : desk.session? id with
    -- a session that has not begun takes up no turns
    | none =>
      have hunchanged : desk'.session? id = desk.session? id := by
        rw [hsession, hget]
        rfl
      obtain ⟨hversion, hdesign, hturns⟩ := shown_congr hunchanged
      refine ⟨hversion, hdesign, hturns.trans ?_⟩
      rw [h.turns]
      simp
    -- the turns are recorded behind those that are there, and nothing else of the session changes
    | some s =>
      rw [hget] at hsession
      obtain ⟨hversion, hdesign, hturns⟩ := shown_of_some hsession
      obtain ⟨hversion', hdesign', hturns'⟩ := shown_of_some hget
      obtain ⟨hsame, hsame'⟩ := foldl_addTurn_eq s (Call.turns ⟨request, drafts⟩)
      refine ⟨?_, ?_, ?_⟩
      · rw [hversion, hversion', hsame]
      · rw [hdesign, hdesign', hsame']
      · rw [hturns]
        exact Session.turns_foldl_addTurn _ (hturns'.symm.trans h.turns)
  obtain ⟨hversion, hdesign, hturns⟩ := hshown
  refine ⟨?_, ?_, ?_, hturns, ?_⟩
  · rw [hstored, List.any_append]
    simp [hcall]
  · rw [List.countP_append, List.countP_singleton, hcall, hversion, h.version]
    rfl
  · rw [renewals_concat, hcall, hdesign, h.design]
    simp
  · refine numbered_concat h.numbered ?_
    intro _
    refine ⟨hsize, ?_⟩
    intro d hd
    rw [hsiblings.numbered id hon hid d hd, h.version, hrenews]
    rfl

/-- **One more answered request keeps the ledger.** -/
theorem ledger_answer (hkept : desk.KeptById) (h : Ledger id calls desk)
    (hid : id.isEmpty = false) {request : Request} {now : Instant} {drafts : List Draft}
    (hanswer : desk.answer tools now request = (.ok drafts, desk')) :
    Ledger id (calls ++ [⟨request, drafts⟩]) desk' := by
  by_cases hon : request.session? = some id
  · cases hrenews : request.renews with
    | true =>
      obtain ⟨draft, rfl, hrenewal⟩ := renewal_answer hkept hrenews hon hanswer
      exact h.renewal hrenewal hrenews (Request.size_of_renews hrenews) hon
    | false =>
      obtain ⟨hsize, hsiblings⟩ := siblings_answer hkept hrenews hanswer
      exact h.siblings hsiblings hrenews hsize hon hid
  · refine h.other (session?_answer_of_ne hkept hon hanswer) ?_
    exact decide_eq_false hon

/-! ## Runs -/

/-- Induction on the requests; the calls that were made before are carried along. -/
theorem ledger_requests {asked : List (Request × Instant)} {before : List Call}
    (hkept : desk.KeptById) (h : Ledger id before desk) (hid : id.isEmpty = false)
    (hrun : desk.run tools asked = (.ok calls, desk')) :
    calls.map (·.request) = asked.map (·.1) ∧ desk'.KeptById ∧
      Ledger id (before ++ calls) desk' := by
  induction asked generalizing desk before calls with
  | nil =>
    cases hrun
    rw [List.append_nil]
    exact ⟨rfl, hkept, h⟩
  | cons first rest ih =>
    obtain ⟨request, now⟩ := first
    have hkept' := keptById_answer tools hkept now request
    unfold run at hrun
    cases hanswer : desk.answer tools now request with
    | mk answer after =>
      rw [hanswer] at hrun hkept'
      cases answer with
      -- a run in which a request fails has no list of calls
      | error fault => cases hrun
      | ok drafts =>
        dsimp only at hrun
        cases hrest : after.run tools rest with
        | mk others last =>
          rw [hrest] at hrun
          cases others with
          | error fault => cases hrun
          | ok others =>
            cases hrun
            obtain ⟨hrequests, hlast, hledger⟩ :=
              ih hkept' (ledger_answer hkept h hid hanswer) hrest
            refine ⟨congrArg (request :: ·) hrequests, hlast, ?_⟩
            rw [List.append_assoc] at hledger
            exact hledger

/-- **The ledger of every run.** Where all requests to a desk that began without sessions are
answered, it shows each session as the calls tell, and one more answered request on a session leaves
every other one as it is. -/
theorem ledger_run {asked : List (Request × Instant)} (hempty : desk.sessions = {})
    (hid : id.isEmpty = false) (hrun : desk.run tools asked = (.ok calls, desk')) :
    calls.map (·.request) = asked.map (·.1) ∧ Ledger id calls desk' ∧
      ∀ request now drafts after, request.session? ≠ some id →
        desk'.answer tools now request = (.ok drafts, after) →
          after.session? id = desk'.session? id := by
  obtain ⟨hrequests, hkept, hledger⟩ :=
    ledger_requests (keptById_of_empty hempty) (ledger_of_empty hempty id) hid hrun
  refine ⟨hrequests, hledger, ?_⟩
  intro request now drafts after hother hanswer
  exact session?_answer_of_ne hkept hother hanswer

/-- Variations before there is a session and after, and calls on another session in between. -/
def mixedRequests : List (Request × Instant) :=
  [(.vary ({} : Brief).toDesign 2 (some "s"), ⟨0⟩), (.generate "3 ft wide window" "s" none, ⟨1⟩),
    (.generate "door" "t" none, ⟨2⟩), (.vary ({} : Brief).toDesign 1 (some "s"), ⟨3⟩),
    (.refine "s" "4 ft wide" none, ⟨4⟩)]

/-- A run in which a session is renewed twice and varied in between. -/
theorem ledger_mixedRequests :
    ∃ calls desk, run ⟨none, .standard⟩ ⟨(), {}⟩ mixedRequests = (.ok calls, desk) ∧
      Ledger "s" calls desk ∧ desk.version "s" = 2 ∧ (desk.turns "s").length = 3 := by
  have hanswered :
      ((run ⟨none, .standard⟩ ⟨(), {}⟩ mixedRequests).1.toOption.isSome = true ∧
        (run ⟨none, .standard⟩ ⟨(), {}⟩ mixedRequests).2.version "s" = 2 ∧
        ((run ⟨none, .standard⟩ ⟨(), {}⟩ mixedRequests).2.turns "s").length = 3) := by
    decide +kernel
  cases hrun : run ⟨none, .standard⟩ ⟨(), {}⟩ mixedRequests with
  | mk answer desk =>
    rw [hrun] at hanswered
    obtain ⟨hsome, hversion, hturns⟩ := hanswered
    cases answer with
    | error fault => cases hsome
    | ok calls =>
      have hid : Text.isEmpty "s" = false := by decide
      obtain ⟨-, hledger, -⟩ := ledger_run rfl hid hrun
      exact ⟨calls, desk, rfl, hledger, hversion, hturns⟩

end Desk

end FamilyDesign
