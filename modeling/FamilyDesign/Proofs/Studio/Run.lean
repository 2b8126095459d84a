import FamilyDesign.Studio.Designing
import FamilyDesign.Studio.Executing
import FamilyDesign.Proofs.Desk.Sessions
import FamilyDesign.Proofs.Fallible

/-!
# Runs of a studio

A studio is used by one call after another, on any sessions and in any order; its desk may be asked
directly as well, and time moves between two calls as it likes. Whatever is done, a session that has
a report has the one on its current design:

* **`Session.Matches`** — design, script and report of a session belong together. A new design takes
  the other two away, so this holds between the commitment of a design and its assessment too.
* **`allMatch_run`** — the property holds of every session at every step of every run.
-/

namespace FamilyDesign

/-- The report of a session, if it has one, and its script are the assessment of its current
design. -/
def Session.Matches (gateway : Quality.Gateway) (rules : List Script.Rule) (s : Session) : Prop :=
  ∀ report, s.report = some report → ∃ design now, s.design = some design ∧
    Assessment.ofDesign gateway rules design now = .ok ⟨s.script, report⟩

/-- A session without a report. -/
theorem Session.matches_of_report_none {gateway : Quality.Gateway} {rules : List Script.Rule}
    {s : Session} (h : s.report = none) : s.Matches gateway rules := by
  intro report hreport
  rw [h] at hreport
  cases hreport

/-- A new design takes the report away, and a recorded turn leaves it. -/
theorem Desk.lasting_matches (gateway : Quality.Gateway) (rules : List Script.Rule) :
    Desk.Lasting (Session.Matches gateway rules) where
  superseded _ _ _ := Session.matches_of_report_none rfl
  turned _ _ h := h

namespace Studio

/-- What a caller may do with a studio, its desk included. Between two calls the clock may be moved
to any moment. -/
inductive Operation
  | create (prompt id : Text)
  | refine (id feedback : Text)
  | variations (id : Text) (count : Int)
  | execute (id : Text)
  | status (job : Text)
  | cancel (job : Text)
  | download (job : Text)
  | deskGenerate (prompt id : Text) (context : Option Json)
  | deskRefine (id feedback : Text) (given : Option Design)
  | deskVariations (design : Design) (count : Int) (id : Option Text)
  | moveClock (moment : Instant)

variable {σ τ : Type}

/-- The studio after an operation, whether it is granted or not. -/
def perform (tools : StudioTools σ τ) (s : Studio σ τ) : Operation → Studio σ τ
  | .create prompt id => (s.create tools prompt id).2
  | .refine id feedback => (s.refine tools id feedback).2
  | .variations id count => (s.variations tools id count).2
  | .execute id => (s.execute tools id).2
  | .status job => (s.status tools job).2
  | .cancel job => (s.cancel tools job).2
  | .download job => (s.download tools job).2
  | .deskGenerate prompt id context =>
    { s with desk := (s.desk.generate tools.desk prompt id context s.now).2 }
  | .deskRefine id feedback given =>
    { s with desk := (s.desk.refine tools.desk id feedback given s.now).2 }
  | .deskVariations design count id =>
    { s with desk := (s.desk.variations tools.desk design count id s.now).2 }
  | .moveClock moment =>
    { s with tracker := { s.tracker with outside := { s.tracker.outside with now := moment } } }

/-- The studio after a list of operations. -/
def run (tools : StudioTools σ τ) (s : Studio σ τ) : List Operation → Studio σ τ
  | [] => s
  | op :: ops => run tools (s.perform tools op) ops

variable {tools : StudioTools σ τ} {s : Studio σ τ}

/-- Each session is kept under its own id, and its report belongs to its design. -/
def AllMatch (tools : StudioTools σ τ) (s : Studio σ τ) : Prop :=
  s.desk.AllSessions (Session.Matches tools.gateway tools.rules)

/-! ## Designing -/

/-- An assessed draft is the draft with the assessment of its design. -/
theorem assess_eq_ok {draft : Draft} {now : Instant} {a : AssessedDraft}
    (h : assess tools draft now = .ok a) : a.draft = draft ∧
      Assessment.ofDesign tools.gateway tools.rules draft.design now = .ok a.assessment := by
  unfold assess at h
  cases hassessment : Assessment.ofDesign tools.gateway tools.rules draft.design now with
  | error fault =>
    rw [hassessment] at h
    cases h
  | ok assessment =>
    rw [hassessment] at h
    cases h
    exact ⟨rfl, rfl⟩

/-- The assessment of a draft is recorded in the session of which it is the current design. -/
theorem allMatch_record (h : s.AllMatch tools) {a : AssessedDraft} {now : Instant}
    (hassess : Assessment.ofDesign tools.gateway tools.rules a.draft.design now = .ok a.assessment)
    (hcurrent : ∃ session, s.desk.session? a.draft.session = some session ∧
      session.design = some a.draft.design) : (s.record a).AllMatch tools := by
  obtain ⟨session, hget, hdesign⟩ := hcurrent
  unfold record AllMatch
  rw [hget]
  refine Desk.allSessions_keep h ?_
  intro report hreport
  cases hreport
  exact ⟨a.draft.design, now, hdesign, hassess⟩

/-- Whatever the desk has made of a request, its assessment is recorded where it belongs. -/
theorem allMatch_conclude {made : Except DeskFault Draft × Desk σ}
    (hkeeps : Desk.Keeps (Session.Matches tools.gateway tools.rules) made) :
    (s.conclude tools made).2.AllMatch tools := by
  obtain ⟨answer, desk⟩ := made
  obtain ⟨hall, hdrafted⟩ := hkeeps
  cases answer with
  | error fault => exact hall
  | ok draft =>
    unfold conclude
    dsimp only
    split
    · -- an assessment that fails leaves the new design without a report
      exact hall
    · next a hassess =>
      obtain ⟨hdraft, hassessment⟩ := assess_eq_ok hassess
      have hall' : ({ s with desk := desk } : Studio σ τ).AllMatch tools := hall
      rw [← hdraft] at hassessment hdrafted
      exact allMatch_record hall' hassessment (hdrafted a.draft rfl)

/-- Variations keep the match of every session. -/
theorem allMatch_variations (h : s.AllMatch tools) (id : Text) (count : Int) :
    (s.variations tools id count).2.AllMatch tools := by
  unfold variations
  split
  · exact h
  · exact Desk.allSessions_variations (Desk.lasting_matches _ _) h tools.desk _ count (some id)
      s.now

/-! ## Executing -/

/-- A session that is found with its current design. -/
theorem designed_eq_ok {id : Text} {session : Session} {design : Design}
    (h : s.designed id = .ok (session, design)) :
    s.desk.session? id = some session ∧ session.design = some design := by
  obtain ⟨found, hfound, h⟩ := bind_eq_ok_iff.mp h
  unfold Studio.session at hfound
  split at hfound
  · next hget =>
    cases hfound
    split at h
    · next hdesign =>
      cases h
      exact ⟨hget, hdesign⟩
    · cases h
  · cases hfound

/-- What an order rests on: the current design of the session, and a favourable report. -/
theorem order_eq_ok {id : Text} {session : Session} {o : Job.Order}
    (h : s.order id = .ok (session, o)) :
    s.desk.session? id = some session ∧ ∃ design report, session.design = some design ∧
      session.report = some report ∧ report.ready = true ∧ Job.Order.ofDesign design = .ok o := by
  obtain ⟨⟨found, design⟩, hdesigned, h⟩ := bind_eq_ok_iff.mp h
  obtain ⟨hget, hdesign⟩ := designed_eq_ok hdesigned
  dsimp only at h
  split at h
  · next hready =>
    obtain ⟨o', horder, h⟩ := bind_eq_ok_iff.mp h
    cases h
    obtain ⟨report, hreport, hready⟩ := (Option.any_eq_true _ _).mp hready
    exact ⟨hget, design, report, hdesign, hreport, hready, mapError_eq_ok_iff.mp horder⟩
  · cases h

/-- A job that is started rests on an order, and the session notes it. -/
theorem execute_eq_ok {id : Text} {record : Job.Record} {s' : Studio σ τ}
    (h : s.execute tools id = (.ok record, s')) :
    ∃ session o tracker, s.order id = .ok (session, o) ∧
      s.tracker.submit tools.service (.object o.write) (.text id) (expectedSeconds session)
        = (.ok record, tracker) ∧
      s' = { desk := s.desk.keep (session.withJob record.id record.createdAt), tracker } := by
  unfold execute at h
  cases horder : s.order id with
  | error fault =>
    rw [horder] at h
    cases h
  | ok asked =>
    obtain ⟨session, o⟩ := asked
    rw [horder] at h
    dsimp only at h
    split at h
    · cases h
    · next record' tracker hsubmit =>
      cases h
      exact ⟨session, o, tracker, rfl, hsubmit, rfl⟩

/-- Nothing of a session changes by its execution but the jobs that it notes. -/
theorem allMatch_execute (h : s.AllMatch tools) (id : Text) :
    (s.execute tools id).2.AllMatch tools := by
  unfold execute
  split
  · exact h
  · next session o horder =>
    dsimp only
    split
    · exact h
    · exact Desk.allSessions_keep h (h id session (order_eq_ok horder).1).2

/-! ## Runs -/

/-- **One operation keeps the match of every session**, whichever it is. -/
theorem allMatch_perform (h : s.AllMatch tools) (op : Operation) :
    (s.perform tools op).AllMatch tools := by
  have hlasting := Desk.lasting_matches tools.gateway tools.rules
  cases op with
  | create prompt id =>
    exact allMatch_conclude (Desk.keeps_generate hlasting h tools.desk prompt id none s.now)
  | refine id feedback =>
    exact allMatch_conclude (Desk.keeps_refine hlasting h tools.desk id feedback none s.now)
  | variations id count => exact allMatch_variations h id count
  | execute id => exact allMatch_execute h id
  -- The tracker is asked, and no session changes.
  | status job => exact h
  | cancel job => exact h
  | download job => exact h
  | deskGenerate prompt id context =>
    exact (Desk.keeps_generate hlasting h tools.desk prompt id context s.now).1
  | deskRefine id feedback given =>
    exact (Desk.keeps_refine hlasting h tools.desk id feedback given s.now).1
  | deskVariations design count id =>
    exact Desk.allSessions_variations hlasting h tools.desk design count id s.now
  | moveClock moment => exact h

theorem allMatch_run (h : s.AllMatch tools) (ops : List Operation) :
    (s.run tools ops).AllMatch tools := by
  induction ops generalizing s with
  | nil => exact h
  | cons op ops ih => exact ih (allMatch_perform h op)

end Studio

end FamilyDesign
