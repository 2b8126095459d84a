import FamilyDesign.Proofs.Design.Structure
import FamilyDesign.Proofs.Desk.Offline
import FamilyDesign.Proofs.Job.Run
import FamilyDesign.Proofs.Quality.Score
import FamilyDesign.Proofs.Script.Emission
import FamilyDesign.Proofs.Studio.Run
import FamilyDesign.Studio.Assessment

/-!
# The gate ahead of execution

A job is started for a design only if the latest report on it is favourable. Since the report of a
session belongs to its current design, and a favourable report comes with a script, nothing is
executed that has not been checked as it stands. Where no script can be written an assessment
reports on the design alone; with the standard passes such a report is never favourable, since all
that keeps a script from being written is an issue of a critical pass.

* **`Assessment.ofDesign_ready`** — a favourable report comes with a script, and is the report on
  it.
* **`Assessment.ofDesign_favourable`** — a design that is ready, and whose sections can be written,
  has such an assessment.
* **`Session.Backed`** — a session whose favourable report is the one on its current design and on
  the script written for it.
* **`executed_backed`** — the headline: in every run no other session is favourable, and no other is
  executed.
* **`execute_of_ready`** — the gate is no more than that: what is ready is executed.
* **`execute_superseded`** — a design that the desk is asked for directly is executed once it is
  refined, and not before.
-/

namespace FamilyDesign

open Quality (Gateway standardPasses)

/-! ## Favourable assessments -/

namespace Assessment

theorem ofDesign_ready {g : Gateway} (hpasses : g.passes = standardPasses)
    {rules : List Script.Rule} {d : Design} {now : Instant} {a : Assessment}
    (h : ofDesign g rules d now = .ok a) (hready : a.report.ready = true) :
    ∃ script, a.script = some script ∧ Script.emit rules d now = .ok script ∧
      g.validate d (some script.code) now = .ok a.report := by
  obtain ⟨before, hbefore, h⟩ := bind_eq_ok_iff.mp h
  split at h
  · next fault hemit =>
    -- the report is the one on the design alone, and favourable; so the gate lets it through
    cases h
    rw [Gateway.ready_of_validate hbefore] at hready
    have hgate := Quality.checkEmittable_of_ready hpasses hready
    rw [Script.emit_of_checkEmittable hgate] at hemit
    exact absurd hemit (Script.write_ne_structural
      (Design.isSome_metadata_of_checkEmittable hgate) rules now fault)
  · cases h
  · next script hemit =>
    obtain ⟨after, hafter, h⟩ := bind_eq_ok_iff.mp h
    cases h
    exact ⟨script, rfl, hemit, hafter⟩

/-- With the standard passes, a design that is ready and whose sections can be written is assessed
favourably. -/
theorem ofDesign_favourable {g : Gateway} (hpasses : g.passes = standardPasses)
    (hlawful : g.deductions.Lawful) (rules : List Script.Rule) {d : Design}
    (hready : Quality.areReady (g.verdicts d none) = true) {sections : List (Text × Text)}
    (hsections : Script.sectionTexts d = .ok sections) (now : Instant) :
    ∃ a, ofDesign g rules d now = .ok a ∧ a.report.ready = true := by
  obtain ⟨before, hbefore⟩ := Gateway.validate_standard hpasses hlawful d none now
  have hgate := Quality.checkEmittable_of_ready hpasses hready
  obtain ⟨script, hemit⟩ : ∃ script, Script.emit rules d now = .ok script := by
    rw [Script.emit_of_checkEmittable hgate]
    exact ⟨_, bind_eq_ok_iff.mpr ⟨sections, hsections, rfl⟩⟩
  obtain ⟨after, hafter⟩ := Gateway.validate_standard hpasses hlawful d (some script.code) now
  refine ⟨⟨some script, after⟩, ?_, ?_⟩
  · refine bind_eq_ok_iff.mpr ⟨before, hbefore, ?_⟩
    rw [hemit]
    exact bind_eq_ok_iff.mpr ⟨after, hafter, rfl⟩
  · show after.ready = true
    rw [Gateway.ready_of_validate hafter, Quality.ready_code_eq hpasses]
    exact hready

end Assessment

/-! ## Sessions -/

/-- A session that has a design, the script written for it, and the favourable report on both. Both
are what they would be at any moment, up to the moment that they name. -/
structure Session.Backed (gateway : Gateway) (rules : List Script.Rule) (s : Session)
    (design : Design) (script : Script.Emission) (report : Quality.Report) : Prop where
  design_eq : s.design = some design
  script_eq : s.script = some script
  report_eq : s.report = some report
  ready : report.ready = true
  emitted : ∀ now, Script.emit rules design now = .ok (script.stamped now)
  validated : ∀ now, gateway.validate design (some script.code) now = .ok (report.stamped now)

/-- With the standard passes a session whose report belongs to its design is backed, once the report
is favourable. -/
theorem Session.Matches.backed {gateway : Gateway} (hpasses : gateway.passes = standardPasses)
    {rules : List Script.Rule} {s : Session} (h : s.Matches gateway rules)
    {report : Quality.Report} (hreport : s.report = some report) (hready : report.ready = true) :
    ∃ design script, s.Backed gateway rules design script report := by
  obtain ⟨design, now, hdesign, hassessment⟩ := h report hreport
  obtain ⟨script, hscript, hemit, hvalidate⟩ :=
    Assessment.ofDesign_ready hpasses hassessment hready
  exact ⟨design, script, hdesign, hscript, hreport, hready, Script.emit_stamped hemit,
    Gateway.validate_stamped hvalidate⟩

/-- A job that is noted leaves a session as it is backed. -/
theorem Session.Backed.withJob {gateway : Gateway} {rules : List Script.Rule} {s : Session}
    {design : Design} {script : Script.Emission} {report : Quality.Report}
    (h : s.Backed gateway rules design script report) (job : Text) (now : Instant) :
    (s.withJob job now).Backed gateway rules design script report :=
  ⟨h.design_eq, h.script_eq, h.report_eq, h.ready, h.emitted, h.validated⟩

namespace Studio

variable {σ τ : Type} {tools : StudioTools σ τ} {s : Studio σ τ}

/-- A studio in which nothing has been assessed. -/
theorem allMatch_of_unassessed (h : ∀ id session, s.desk.session? id = some session →
    session.id = id ∧ session.report = none) : s.AllMatch tools := by
  intro id session hget
  obtain ⟨hid, hreport⟩ := h id session hget
  exact ⟨hid, Session.matches_of_report_none hreport⟩

/-- **Nothing unchecked is executed.** In every run that starts without reports, a session with a
favourable report is backed by its current design and script; and a job that is started is started
for the design of such a session, with the parameters that follow from this design, and leaves the
session backed as it was. -/
theorem executed_backed (hpasses : tools.gateway.passes = standardPasses)
    (hstart : ∀ id session, s.desk.session? id = some session →
      session.id = id ∧ session.report = none) (ops : List Operation) :
    (∀ id session report, (s.run tools ops).desk.session? id = some session →
      session.report = some report → report.ready = true →
      ∃ design script, session.Backed tools.gateway tools.rules design script report) ∧
    (∀ id record s', (s.run tools ops).execute tools id = (.ok record, s') →
      ∃ session session' design script report order,
        (s.run tools ops).desk.session? id = some session ∧
        s'.desk.session? id = some session' ∧
        session.Backed tools.gateway tools.rules design script report ∧
        session'.Backed tools.gateway tools.rules design script report ∧
        Job.Order.ofDesign design = .ok order ∧ record.params = order.write) := by
  have hall : (s.run tools ops).AllMatch tools := allMatch_run (allMatch_of_unassessed hstart) ops
  refine ⟨?_, ?_⟩
  · intro id session report hget hreport hready
    exact (hall id session hget).2.backed hpasses hreport hready
  · intro id record s' hexecute
    obtain ⟨session, order, tracker, horder, hsubmit, hs'⟩ := execute_eq_ok hexecute
    obtain ⟨hget, design, report, hdesign, hreport, hready, hofDesign⟩ := order_eq_ok horder
    -- the design that the order is made for is the one that the report is on
    obtain ⟨design', script, hbacked⟩ := (hall id session hget).2.backed hpasses hreport hready
    have hsame : design' = design := Option.some.inj (hbacked.design_eq.symm.trans hdesign)
    subst hsame
    have hparams : record.params = order.write :=
      Job.Tracker.params_of_submit (congrArg Prod.fst hsubmit)
    have hkept : s'.desk.session? id = some (session.withJob record.id record.createdAt) := by
      rw [hs', ← (hall id session hget).1]
      exact Desk.session?_keep_self _ _
    exact ⟨session, _, design', script, report, order, hget, hkept, hbacked, hbacked.withJob _ _,
      hofDesign, hparams⟩

/-! ## What is ready is executed -/

/-- The simulator takes every order. -/
theorem submit_of_no_service {t : Job.Tracker τ} (fields : Fields) (id : Text) (expected : Json) :
    ∃ record t', t.submit none (.object fields) (.text id) expected = (.ok record, t') :=
  ⟨_, _, rfl⟩

theorem designed_of_session {id : Text} {session : Session} {design : Design}
    (hget : s.desk.session? id = some session) (hdesign : session.design = some design) :
    s.designed id = .ok (session, design) := by
  unfold designed Studio.session
  simp [hget, hdesign, bind, Except.bind]

/-- Where there is no service to refuse it, a session with a favourable report is executed. -/
theorem execute_of_ready (hservice : tools.service = none) {id : Text} {session : Session}
    {design : Design} {report : Quality.Report} {order : Job.Order}
    (hget : s.desk.session? id = some session) (hdesign : session.design = some design)
    (hreport : session.report = some report) (hready : report.ready = true)
    (horder : Job.Order.ofDesign design = .ok order) :
    ∃ record s', s.execute tools id = (.ok record, s') := by
  have hordered : s.order id = .ok (session, order) := by
    refine bind_eq_ok_iff.mpr ⟨(session, design), designed_of_session hget hdesign, ?_⟩
    dsimp only
    rw [if_pos (by rw [hreport]; exact hready)]
    exact bind_eq_ok_iff.mpr ⟨order, mapError_eq_ok_iff.mpr horder, rfl⟩
  obtain ⟨record, tracker, hsubmit⟩ := submit_of_no_service (t := s.tracker) order.write id
    (expectedSeconds session)
  unfold execute
  rw [hordered, hservice]
  dsimp only
  rw [hsubmit]
  exact ⟨record, _, rfl⟩

/-- A design whose draft is assessed is found in its session, with the report. -/
theorem session_of_conclude {P : Session → Prop} {made : Except DeskFault Draft × Desk σ}
    (hkeeps : Desk.Keeps P made) {draft : Draft} (hdraft : made.1 = .ok draft) {a : Assessment}
    (hassess : Assessment.ofDesign tools.gateway tools.rules draft.design s.now = .ok a) :
    ∃ session, (s.conclude tools made).2.desk.session? draft.session = some session ∧
      session.design = some draft.design ∧ session.report = some a.report := by
  obtain ⟨answer, desk⟩ := made
  cases hdraft
  obtain ⟨session, hget, hdesign⟩ := hkeeps.2 draft rfl
  have hid : session.id = draft.session := (hkeeps.1 draft.session session hget).1
  -- the draft names its session, so the assessment is recorded there
  have hrecorded : (s.conclude tools (.ok draft, desk)).2.desk
      = desk.keep (session.assessed a.script a.report) := by
    unfold conclude assess
    dsimp only
    rw [show Studio.now { s with desk := desk } = s.now from rfl, hassess]
    unfold record
    dsimp only at hget ⊢
    rw [hget]
  refine ⟨session.assessed a.script a.report, ?_, hdesign, rfl⟩
  rw [hrecorded, ← hid]
  exact Desk.session?_keep_self desk (session.assessed a.script a.report)

/-- What the feedback on a sound brief's design says is executed, where there is neither an
assistant that reads it otherwise nor a service that refuses the job. -/
theorem execute_refined (hall : s.AllMatch tools) (hassistant : tools.desk.assistant = none)
    (hread : tools.desk.read = .standard) (hservice : tools.service = none)
    (hpasses : tools.gateway.passes = standardPasses) (hlawful : tools.gateway.deductions.Lawful)
    {id feedback : Text} (hfeedback : Reading.InsetWithinLimit feedback) {b : Brief} (hb : b.Sound)
    (hcurrent : s.desk.design? id = some b.toDesign) :
    ∃ record s', (s.refine tools id feedback).2.execute tools id = (.ok record, s') := by
  -- the feedback makes a sound brief again, and with it a design that is ready
  have hsound : (Reading.ofText feedback (some b.restyled)).brief.Sound := by
    refine Reading.sound_ofText hfeedback ?_
    intro base hbase
    cases hbase
    exact hb.restyled
  obtain ⟨sections, hsections⟩ := hsound.assembly.exists_sectionTexts
  obtain ⟨order, horder⟩ := hsound.assembly.exists_order
  obtain ⟨a, hassess, hready⟩ := Assessment.ofDesign_favourable hpasses hlawful tools.rules
    (hsound.assembly.ready hpasses) hsections s.now
  rw [hsound.design_assembly] at hassess horder
  obtain ⟨warnings, hrevise⟩ := Brief.revise_toDesign hb feedback
  rw [← hread] at hrevise
  obtain ⟨draft, hdraft, rfl, hdrafted⟩ :
      ∃ draft, (s.desk.refine tools.desk id feedback none s.now).1 = .ok draft ∧
        draft.session = id ∧ draft.design = _ :=
    Desk.refine_of_no_assistant hassistant hcurrent hrevise
  have hkeeps := Desk.keeps_refine (Desk.lasting_matches tools.gateway tools.rules) hall
    tools.desk draft.session feedback none s.now
  rw [← hdrafted] at hassess horder
  obtain ⟨session, hget, hsession, hreport⟩ := session_of_conclude hkeeps hdraft hassess
  exact execute_of_ready hservice hget hsession hreport hready horder

/-- The design of a session without a report is not executed. -/
theorem execute_of_unreported {id : Text} {session : Session} {design : Design}
    (hget : s.desk.session? id = some session) (hdesign : session.design = some design)
    (hreport : session.report = none) :
    (s.execute tools id).1 = .error (.notReady id session.version) := by
  have hordered : s.order id = .error (.notReady id session.version) := by
    refine bind_eq_error_iff.mpr (.inr ⟨(session, design), designed_of_session hget hdesign, ?_⟩)
    dsimp only
    rw [if_neg (by rw [hreport]; exact Bool.false_ne_true)]
  unfold execute
  rw [hordered]

/-- A design that the desk is asked for directly takes the report of its session away, so it is not
executed as it is. -/
theorem execute_generated (hall : s.AllMatch tools) (hassistant : tools.desk.assistant = none)
    (hread : tools.desk.read = .standard) (prompt id : Text) (context : Json) :
    (s.perform tools (.deskGenerate prompt id (some context))).desk.design? id
        = some (Reading.ofText (Text.strip prompt) none).brief.toDesign ∧
      ∃ version, ((s.perform tools (.deskGenerate prompt id (some context))).execute tools id).1
        = .error (.notReady id version) := by
  obtain ⟨draft, hdraft, -, hdesign, -⟩ :=
    Desk.generate_of_no_assistant hassistant hread prompt id (some context)
      (show (some context).elim (s.desk.context id) .ok = .ok context from rfl) s.now
  have hkept : s.desk.KeptById := fun id session hget => ⟨(hall id session hget).1, trivial⟩
  obtain ⟨begun, hrenewed⟩ := (Desk.renewal_generate hkept (Prod.ext hdraft rfl)).renewed
  refine ⟨?_, _, execute_of_unreported hrenewed rfl rfl⟩
  rw [← hdesign]
  show ((s.desk.generate tools.desk prompt id (some context) s.now).2.session? id).bind _ = _
  rw [hrenewed]
  rfl

/-- Such a design is executed once it is refined, and not before. -/
theorem execute_superseded (hall : s.AllMatch tools) (hassistant : tools.desk.assistant = none)
    (hread : tools.desk.read = .standard) (hservice : tools.service = none)
    (hpasses : tools.gateway.passes = standardPasses) (hlawful : tools.gateway.deductions.Lawful)
    {prompt feedback : Text} (hprompt : Reading.InsetWithinLimit (Text.strip prompt))
    (hfeedback : Reading.InsetWithinLimit feedback) (id : Text) (context : Json) :
    (∃ version, ((s.run tools [.deskGenerate prompt id (some context)]).execute tools id).1
      = .error (.notReady id version)) ∧
    ∃ record s', (s.run tools [.deskGenerate prompt id (some context),
      .refine id feedback]).execute tools id = (.ok record, s') := by
  obtain ⟨hdesign, hrefused⟩ := execute_generated hall hassistant hread prompt id context
  have hsuperseded : (s.run tools [.deskGenerate prompt id (some context)]).AllMatch tools :=
    allMatch_run hall _
  have hsound : (Reading.ofText (Text.strip prompt) none).brief.Sound :=
    Reading.sound_ofText hprompt nofun
  exact ⟨hrefused, execute_refined hsuperseded hassistant hread hservice hpasses hlawful hfeedback
    hsound hdesign⟩

/-! ### A run ahead of an execution -/

theorem run_cons (s : Studio σ τ) (op : Operation) (ops : List Operation) :
    s.run tools (op :: ops) = (s.perform tools op).run tools ops := rfl

/-- A studio without an assistant and a service, in which nothing has been done. -/
def blank : Studio Unit Unit where
  desk := { remote := () }
  tracker := { outside := { now := ⟨0⟩ }, remote := () }

/-- A window is created, the desk is asked for another design of the same session, and that is
refined. -/
def supersedingOperations : List Operation :=
  [.create "window 3 ft wide" "s", .deskGenerate "door" "s" (some (.object [])),
    .refine "s" "4 ft wide"]

/-- The design that takes the place of the window is executed once it is refined, and not before. -/
theorem executed_backed_blank :
    (∃ version, ((blank.run {} (supersedingOperations.take 2)).execute {} "s").1
      = .error (.notReady "s" version)) ∧
    ∃ record s', (blank.run {} supersedingOperations).execute {} "s" = (.ok record, s') ∧
      ∃ session session' design script report order,
        (blank.run {} supersedingOperations).desk.session? "s" = some session ∧
        s'.desk.session? "s" = some session' ∧
        session.Backed {} Script.Rule.standard design script report ∧
        session'.Backed {} Script.Rule.standard design script report ∧
        Job.Order.ofDesign design = .ok order ∧ record.params = order.write := by
  have hpasses : ({} : StudioTools Unit Unit).gateway.passes = standardPasses := rfl
  have hstart : ∀ id session, blank.desk.session? id = some session →
      session.id = id ∧ session.report = none := by
    intro id session hget
    cases hget
  have hprompt : Reading.InsetWithinLimit (Text.strip "door") := by decide +kernel
  have hfeedback : Reading.InsetWithinLimit "4 ft wide" := by decide +kernel
  have hcreated : (blank.perform {} (.create "window 3 ft wide" "s")).AllMatch {} :=
    allMatch_perform (allMatch_of_unassessed hstart) _
  obtain ⟨hrefused, record, s', hexecute⟩ := execute_superseded hcreated rfl rfl rfl hpasses
    Quality.Deductions.lawful_standard hprompt hfeedback "s" (.object [])
  obtain ⟨-, hbacked⟩ := executed_backed hpasses hstart supersedingOperations
  unfold supersedingOperations at hbacked ⊢
  rw [List.take_succ_cons, List.take_succ_cons, List.take_zero, run_cons, run_cons blank]
  rw [run_cons] at hbacked
  exact ⟨hrefused, record, s', hexecute, hbacked "s" record s' hexecute⟩

end Studio

end FamilyDesign
