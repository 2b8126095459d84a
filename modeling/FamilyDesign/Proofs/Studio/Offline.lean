import FamilyDesign.Proofs.Desk.Offline
import FamilyDesign.Proofs.Studio.Execution

/-!
# A studio without an assistant and a service

All that such a studio designs is ready to be executed. A session's design is always one that a
sound brief has made, whether it was created or refined; it is assessed at once, and favourably; and
so is every variation of it.

* **`StudioTools.Offline`** — no assistant, no service, and the passes of the start.
* **`Session.Settled`** — what is so of a session between any two operations.
* **`AllReady`** — what a studio promises of the next operation, whichever it is.
* **`allReady_run`** — the headline: after every run whose texts name no inset above the limit.
-/

namespace FamilyDesign

open Quality (Gateway standardPasses)

/-! ## Favourable results -/

/-- A draft that is ready: it has a script, the report is favourable, and no critical pass has found
an issue. -/
structure AssessedDraft.Favourable (a : AssessedDraft) : Prop where
  ready : a.assessment.isReady = true
  clean : ∀ name ∈ (["geometry", "parameters", "metadata"] : List Text),
    ∃ v, a.assessment.report.verdicts.lookup name = some v ∧ v.issues = []

/-- In a favourable report of the standard passes the critical ones are without an issue. -/
theorem Quality.Gateway.clean_of_ready {g : Gateway} (hpasses : g.passes = standardPasses)
    {d : Design} {code : Option Text} {now : Instant} {r : Quality.Report}
    (h : g.validate d code now = .ok r) (hready : r.ready = true) :
    ∀ name ∈ (["geometry", "parameters", "metadata"] : List Text),
      ∃ v, r.verdicts.lookup name = some v ∧ v.issues = [] := by
  rw [Gateway.ready_of_validate h] at hready
  obtain ⟨hgeometry, hparameters, hmetadata⟩ :=
    (Quality.ready_standardPasses_iff hpasses d code).mp hready
  have hverdicts : r.verdicts
      = standardPasses.map fun p => (p.name, p.run g.deductions d code) := by
    obtain ⟨score, -, rfl⟩ := Gateway.validate_eq_ok_iff.mp h
    show g.verdicts d code = _
    rw [g.verdicts_of_nodup (by rw [hpasses]; exact Quality.nodup_standardPasses), hpasses]
  rw [hverdicts, List.forall_mem_cons, List.forall_mem_cons, List.forall_mem_singleton]
  exact ⟨⟨_, rfl, Quality.issues_of_clean hgeometry⟩,
    ⟨_, rfl, Quality.issues_of_clean hparameters⟩, ⟨_, rfl, Quality.issues_of_clean hmetadata⟩⟩

/-! ## Studios that design offline -/

/-- A studio works with neither an assistant nor a service, and with the passes of the start. -/
structure StudioTools.Offline {σ τ : Type} (tools : StudioTools σ τ) : Prop where
  unassisted : tools.desk.assistant = none
  standard : tools.desk.read = .standard
  unserved : tools.service = none
  passes : tools.gateway.passes = standardPasses
  lawful : tools.gateway.deductions.Lawful

/-- A sound session with a favourable report. -/
structure Session.Settled (s : Session) : Prop extends s.Sound where
  favourable : s.report.any (·.ready) = true

/-- The turn of an assembled design leaves a session settled. -/
theorem Session.settled_addTurn (s : Session) (t : Turn) (h : s.Settled) (ht : t.IsAssembled) :
    (s.addTurn t).Settled where
  toSound := h.toSound.addTurn ht
  favourable := h.favourable

/-- A session is settled by the design of a sound brief and its favourable report. -/
theorem Session.settled_assessed {s : Session} (hturns : ∀ t ∈ s.turns, t.IsAssembled) {b : Brief}
    (hb : b.Sound) {draft : Draft} (hdesign : draft.design = b.toDesign) (prompt : Text)
    (script : Option Script.Emission) {report : Quality.Report} (hready : report.ready = true) :
    (((s.supersede draft.design draft.source).addTurn (draft.turn prompt)).assessed
      script report).Settled := by
  refine ⟨⟨⟨b, hb, congrArg some hdesign⟩, ?_⟩, hready⟩
  intro t ht
  rcases List.mem_append.mp (mem_of_mem_lastOf ht) with hold | hnew
  · exact hturns t hold
  · cases List.mem_singleton.mp hnew
    exact ⟨hb.assembly, hdesign.symm⟩

namespace Studio

variable {σ τ : Type} {tools : StudioTools σ τ} {s : Studio σ τ}

/-- All sessions are settled. -/
def AllSettled (s : Studio σ τ) : Prop := s.desk.AllSessions Session.Settled

/-! ### Assessments -/

/-- An assembled design is assessed favourably. -/
theorem assess_assembled (h : tools.Offline) {draft : Draft} {a : Assembly}
    (hdesign : a.design = draft.design) (now : Instant) :
    ∃ assessed, assess tools draft now = .ok assessed ∧ assessed.draft = draft ∧
      assessed.assessment.report.ready = true ∧ assessed.Favourable := by
  obtain ⟨sections, hsections⟩ := a.exists_sectionTexts
  obtain ⟨assessment, hassess, hready⟩ := Assessment.ofDesign_favourable h.passes h.lawful
    tools.rules (a.ready h.passes) hsections now
  obtain ⟨script, hscript, -, hvalidate⟩ := Assessment.ofDesign_ready h.passes hassess hready
  refine ⟨⟨draft, assessment⟩, ?_, rfl, hready, ?_, ?_⟩
  · unfold assess
    rw [← hdesign, hassess]
  · show (assessment.script.isSome && assessment.report.ready) = true
    rw [hscript, hready]
    rfl
  · exact Gateway.clean_of_ready h.passes hvalidate hready

/-- Assembled drafts are all assessed favourably. -/
theorem assess_all (h : tools.Offline) {drafts : List Draft}
    (hdrafts : ∀ draft ∈ drafts, ∃ a : Assembly, a.design = draft.design) (now : Instant) :
    ∃ results, drafts.mapM (assess tools · now) = .ok results ∧
      results.length = drafts.length ∧ ∀ a ∈ results, a.Favourable := by
  induction drafts with
  | nil => exact ⟨[], rfl, rfl, List.forall_mem_nil _⟩
  | cons draft rest ih =>
    rw [List.forall_mem_cons] at hdrafts
    obtain ⟨⟨a, ha⟩, hrest⟩ := hdrafts
    obtain ⟨assessed, hassess, -, -, hfavourable⟩ := assess_assembled h ha now
    obtain ⟨results, hresults, hlength, hall⟩ := ih hrest
    refine ⟨assessed :: results, ?_, congrArg (· + 1) hlength, ?_⟩
    · exact mapM_eq_ok_iff.mpr (.cons hassess (mapM_eq_ok_iff.mp hresults))
    · rw [List.forall_mem_cons]
      exact ⟨hfavourable, hall⟩

/-! ### New and refined designs -/

/-- A session that is found is settled, and one that is started has no turns; so the turns of
either are assembled. -/
theorem assembled_started (hall : s.AllSettled) (id : Text) (now : Instant) :
    ((s.desk.session? id).getD (.start id now)).id = id ∧
      ∀ t ∈ ((s.desk.session? id).getD (.start id now)).turns, t.IsAssembled := by
  cases hget : s.desk.session? id with
  | none => exact ⟨rfl, List.forall_mem_nil _⟩
  | some session => exact ⟨(hall id session hget).1, (hall id session hget).2.assembled⟩

/-- A favourable draft is made, and it is the current design of a session. -/
def Renewed (id : Text) (made : Except StudioFault AssessedDraft × Studio σ τ) : Prop :=
  ∃ a session, made.1 = .ok a ∧ a.Favourable ∧ made.2.desk.session? id = some session ∧
    session.design = some a.draft.design

/-- The design that a sound brief makes settles its session, once it is assessed. -/
theorem conclude_sound (h : tools.Offline) (hall : s.AllSettled)
    {made : Except DeskFault Draft × Desk σ} {draft : Draft} (hmade : made.1 = .ok draft)
    {prompt : Text} (hrenewal : Desk.Renewal s.desk made.2 draft.session prompt draft)
    {b : Brief} (hb : b.Sound) (hdesign : draft.design = b.toDesign) :
    Renewed draft.session (s.conclude tools made) ∧ (s.conclude tools made).2.AllSettled := by
  obtain ⟨answer, desk⟩ := made
  cases hmade
  obtain ⟨assessed, hassess, hdraft, hready, hfavourable⟩ :=
    assess_assembled h (a := hb.assembly) hdesign.symm s.now
  obtain ⟨begun, hrenewed⟩ := hrenewal.renewed
  obtain ⟨hid, hturns⟩ := assembled_started hall draft.session begun
  generalize (s.desk.session? draft.session).getD (.start draft.session begun) = started
    at hrenewed hid hturns
  have hconclude : s.conclude tools (.ok draft, desk)
      = (.ok assessed, record { s with desk := desk } assessed) := by
    unfold conclude
    dsimp only
    rw [show Studio.now { s with desk := desk } = s.now from rfl, hassess]
  have hrecord : (record { s with desk := desk } assessed).desk
      = desk.keep (((started.supersede draft.design draft.source).addTurn
        (draft.turn prompt)).assessed assessed.assessment.script assessed.assessment.report) := by
    unfold record
    rw [hdraft]
    dsimp only at hrenewed ⊢
    rw [hrenewed]
  have hsettled :=
    Session.settled_assessed hturns hb hdesign prompt assessed.assessment.script hready
  rw [hconclude]
  unfold Renewed AllSettled
  dsimp only
  rw [hrecord]
  generalize hkept : ((started.supersede draft.design draft.source).addTurn
    (draft.turn prompt)).assessed assessed.assessment.script assessed.assessment.report = kept
    at hsettled
  have hkid : kept.id = draft.session := by
    rw [← hkept]
    exact hid
  have hcurrent : kept.design = some assessed.draft.design := by
    rw [← hkept, hdraft]
    rfl
  refine ⟨⟨assessed, kept, rfl, hfavourable, ?_, hcurrent⟩, ?_⟩
  · rw [← hkid]
    exact Desk.session?_keep_self desk kept
  · -- no other session has changed, neither by the draft nor by its assessment
    exact Desk.allSessions_keep_of_others hall hsettled fun id hne =>
      hrenewal.others id fun hsame => hne (hsame.trans hkid.symm)

theorem keptById_of_allSettled (hall : s.AllSettled) : s.desk.KeptById :=
  fun id session hget => ⟨(hall id session hget).1, trivial⟩

/-- What sessions have been about can be written. -/
theorem exists_context (hall : s.AllSettled) (id : Text) : ∃ v, s.desk.context id = .ok v :=
  Desk.exists_context (fun id session hget => (hall id session hget).2.assembled) id

/-- **Whatever is created from a text within the limit is favourable.** -/
theorem create_sound (h : tools.Offline) (hall : s.AllSettled) {prompt : Text}
    (hprompt : Reading.InsetWithinLimit (Text.strip prompt)) (id : Text) :
    Renewed id (s.create tools prompt id) ∧ (s.create tools prompt id).2.AllSettled := by
  obtain ⟨context, hcontext⟩ := exists_context hall id
  obtain ⟨draft, hdraft, hid, hdesign, -⟩ :=
    Desk.generate_of_no_assistant h.unassisted h.standard prompt id none hcontext s.now
  subst hid
  have hrenewal := Desk.renewal_generate (keptById_of_allSettled hall) (Prod.ext hdraft rfl)
  refine conclude_sound h hall hdraft hrenewal (Reading.sound_ofText hprompt ?_) hdesign
  intro base hbase
  cases hbase

/-- **Whatever is refined with a text within the limit is favourable.** -/
theorem refine_sound (h : tools.Offline) (hall : s.AllSettled) {id feedback : Text}
    (hfeedback : Reading.InsetWithinLimit feedback) {session : Session}
    (hget : s.desk.session? id = some session) :
    Renewed id (s.refine tools id feedback) ∧ (s.refine tools id feedback).2.AllSettled := by
  obtain ⟨b, hb, hdesign⟩ := (hall id session hget).2.made
  have hcurrent : (none : Option Design).or (s.desk.design? id) = some b.toDesign := by
    unfold Desk.design?
    rw [hget]
    exact hdesign
  obtain ⟨warnings, hrevise⟩ := Brief.revise_toDesign hb feedback
  rw [← h.standard] at hrevise
  obtain ⟨draft, hdraft, hid, hrevised⟩ :
      ∃ draft, (s.desk.refine tools.desk id feedback none s.now).1 = .ok draft ∧
        draft.session = id ∧ draft.design = _ :=
    Desk.refine_of_no_assistant h.unassisted hcurrent hrevise
  subst hid
  have hrenewal := Desk.renewal_refine (keptById_of_allSettled hall) (Prod.ext hdraft rfl)
  refine conclude_sound h hall hdraft hrenewal (Reading.sound_ofText hfeedback ?_) hrevised
  intro base hbase
  cases hbase
  exact hb.restyled

/-! ### Variations and executions -/

/-- A session that is found has the design of a sound brief. -/
theorem designed_settled (hall : s.AllSettled) {id : Text} {session : Session}
    (hget : s.desk.session? id = some session) :
    ∃ b : Brief, b.Sound ∧ session.design = some b.toDesign ∧
      s.designed id = .ok (session, b.toDesign) := by
  obtain ⟨b, hb, hdesign⟩ := (hall id session hget).2.made
  exact ⟨b, hb, hdesign, designed_of_session hget hdesign⟩

/-- **Whatever is varied is favourable**, and variations leave the sessions settled. -/
theorem variations_sound (h : tools.Offline) (hall : s.AllSettled) (id : Text) (count : Int) :
    (s.variations tools id count).2.AllSettled ∧
      ∀ results, (s.variations tools id count).1 = .ok results → ∀ a ∈ results, a.Favourable := by
  cases hget : s.desk.session? id with
  | none =>
    have hunknown : s.designed id = .error (.unknownSession id) := by
      unfold designed Studio.session
      rw [hget]
      rfl
    unfold variations
    rw [hunknown]
    exact ⟨hall, nofun⟩
  | some session =>
    obtain ⟨b, hb, -, hdesigned⟩ := designed_settled hall hget
    have hmade := Desk.variations_sound Session.settled_addTurn h.unassisted
      hb.assembly count (some id) s.now hall
    rw [hb.design_assembly] at hmade
    unfold variations
    rw [hdesigned]
    dsimp only
    generalize s.desk.variations tools.desk b.toDesign count (some id) s.now = varied at hmade ⊢
    obtain ⟨answer, desk⟩ := varied
    obtain ⟨hkept, hdrafts⟩ := hmade
    refine ⟨hkept, ?_⟩
    cases answer with
    | error fault => nofun
    | ok drafts =>
      obtain ⟨results, hresults, -, hfavourable⟩ := assess_all h (hdrafts drafts rfl) s.now
      intro results' hresults'
      cases hresults.symm.trans hresults'
      exact hfavourable

/-- As many variations are made as are asked for. -/
theorem exists_variations (h : tools.Offline) (hall : s.AllSettled) {id : Text} {session : Session}
    (hget : s.desk.session? id = some session) {count : Int}
    (hcount : count < 10 ^ Numeric.longestInteger) :
    ∃ results, (s.variations tools id count).1 = .ok results ∧ results.length = count.toNat := by
  obtain ⟨b, hb, -, hdesigned⟩ := designed_settled hall hget
  have hmade := Desk.variations_sound Session.settled_addTurn h.unassisted
    hb.assembly count (some id) s.now hall
  obtain ⟨drafts, hdrafts, hlength⟩ :
      ∃ drafts, (s.desk.variations tools.desk hb.assembly.design count (some id) s.now).1
        = .ok drafts ∧ drafts.length = count.toNat :=
    Desk.exists_variations h.unassisted hb.assembly hcount (some id) s.now
  obtain ⟨results, hresults, hsame, -⟩ := assess_all h (hmade.2 drafts hdrafts) s.now
  rw [hb.design_assembly] at hdrafts
  refine ⟨results, ?_, hsame.trans hlength⟩
  unfold variations
  rw [hdesigned]
  dsimp only
  rw [hdrafts]
  exact hresults

/-- **A session that is found is executed.** -/
theorem execute_sound (h : tools.Offline) (hall : s.AllSettled) {id : Text} {session : Session}
    (hget : s.desk.session? id = some session) :
    ∃ record, (s.execute tools id).1 = .ok record := by
  obtain ⟨b, hb, hdesign, -⟩ := designed_settled hall hget
  obtain ⟨report, hreport, hready⟩ :=
    (Option.any_eq_true _ _).mp (hall id session hget).2.favourable
  obtain ⟨order, horder⟩ := hb.assembly.exists_order
  rw [hb.design_assembly] at horder
  obtain ⟨record, s', hexecute⟩ :=
    execute_of_ready h.unserved hget hdesign hreport hready horder
  exact ⟨record, congrArg Prod.fst hexecute⟩

/-- A job that is noted leaves the sessions settled. -/
theorem allSettled_execute (hall : s.AllSettled) (id : Text) :
    (s.execute tools id).2.AllSettled := by
  unfold execute
  split
  · exact hall
  · next session order horder =>
    dsimp only
    split
    · exact hall
    · have hsettled := (hall id session (order_eq_ok horder).1).2
      exact Desk.allSessions_keep hall ⟨⟨hsettled.made, hsettled.assembled⟩, hsettled.favourable⟩

/-! ### Runs -/

/-- Whether an operation is one of the studio itself, and a text of it is within the limit for
insets. -/
def Operation.WithinLimit : Operation → Prop
  | .create prompt _ => Reading.InsetWithinLimit (Text.strip prompt)
  | .refine _ feedback => Reading.InsetWithinLimit feedback
  | .deskGenerate _ _ _ | .deskRefine _ _ _ | .deskVariations _ _ _ => False
  | _ => True

theorem allSettled_perform (h : tools.Offline) (hall : s.AllSettled) {op : Operation}
    (hop : op.WithinLimit) : (s.perform tools op).AllSettled := by
  cases op with
  | create prompt id => exact (create_sound h hall hop id).2
  | refine id feedback =>
    cases hget : s.desk.session? id with
    | none =>
      -- there is nothing to refine, and the sessions stay as they are
      have hrefine : s.desk.refine tools.desk id feedback none s.now
          = (.error (.noDesign id), s.desk) := by
        unfold Desk.refine Desk.design?
        rw [hget]
        rfl
      show (s.refine tools id feedback).2.AllSettled
      unfold refine
      rw [hrefine]
      exact hall
    | some session => exact (refine_sound h hall hop hget).2
  | variations id count => exact (variations_sound h hall id count).1
  | execute id => exact allSettled_execute hall id
  | status job => exact hall
  | cancel job => exact hall
  | download job => exact hall
  | deskGenerate prompt id context => exact hop.elim
  | deskRefine id feedback given => exact hop.elim
  | deskVariations design count id => exact hop.elim
  | moveClock moment => exact hall

/-- Induction on the operations. -/
theorem allSettled_run (h : tools.Offline) (hall : s.AllSettled) {ops : List Operation}
    (hops : ∀ op ∈ ops, op.WithinLimit) : (s.run tools ops).AllSettled := by
  induction ops generalizing s with
  | nil => exact hall
  | cons op ops ih =>
    rw [List.forall_mem_cons] at hops
    exact ih (allSettled_perform h hall hops.1) hops.2

/-- What a studio promises of the next operation: each session has the design of a brief, and what
is created, refined or varied is favourable. Only an unknown session is refused, or more variations
than can be numbered. -/
structure AllReady (tools : StudioTools σ τ) (s : Studio σ τ) : Prop where
  made : ∀ id session, s.desk.session? id = some session →
    ∃ b : Brief, session.design = some b.toDesign
  created : ∀ prompt id, Reading.InsetWithinLimit (Text.strip prompt) →
    Renewed id (s.create tools prompt id)
  refined : ∀ id session feedback, s.desk.session? id = some session →
    Reading.InsetWithinLimit feedback → Renewed id (s.refine tools id feedback)
  varied : ∀ id session count, s.desk.session? id = some session →
    count < 10 ^ Numeric.longestInteger →
    ∃ results, (s.variations tools id count).1 = .ok results ∧ results.length = count.toNat
  siblings : ∀ id count results, (s.variations tools id count).1 = .ok results →
    ∀ a ∈ results, a.Favourable
  executed : ∀ id session, s.desk.session? id = some session →
    ∃ record, (s.execute tools id).1 = .ok record
  accepted : ∀ id session version, (s.execute tools id).1 ≠ .error (.notReady session version)

theorem AllSettled.allReady (h : tools.Offline) (hall : s.AllSettled) : s.AllReady tools where
  made id session hget := by
    obtain ⟨b, -, hdesign⟩ := (hall id session hget).2.made
    exact ⟨b, hdesign⟩
  created _ id hprompt := (create_sound h hall hprompt id).1
  refined _ _ _ hget hfeedback := (refine_sound h hall hfeedback hget).1
  varied _ _ _ hget hcount := exists_variations h hall hget hcount
  siblings id count := (variations_sound h hall id count).2
  executed _ _ hget := execute_sound h hall hget
  accepted id session version := by
    cases hget : s.desk.session? id with
    | none =>
      have hunknown : s.order id = .error (.unknownSession id) := by
        unfold order designed Studio.session
        rw [hget]
        rfl
      unfold execute
      rw [hunknown]
      nofun
    | some found =>
      obtain ⟨record, hrecord⟩ := execute_sound h hall hget
      rw [hrecord]
      nofun

/-- **Every design that is made offline is ready.** In every run of a studio that began without
sessions, with texts that name no inset above the limit, all that is created, refined or varied next
is favourable, each session has the design that a brief makes, and none is refused execution. -/
theorem allReady_run (h : tools.Offline) (hempty : s.desk.sessions = {}) {ops : List Operation}
    (hops : ∀ op ∈ ops, op.WithinLimit) : (s.run tools ops).AllReady tools := by
  have hall : s.AllSettled := by
    intro id session hget
    unfold Desk.session? at hget
    rw [hempty] at hget
    cases hget
  exact (allSettled_run h hall hops).allReady h

theorem run_create (s : Studio σ τ) (prompt id : Text) :
    s.run tools [.create prompt id] = (s.create tools prompt id).2 := rfl

theorem run_create_refine (s : Studio σ τ) (prompt id feedback : Text) :
    s.run tools [.create prompt id, .refine id feedback]
      = ((s.create tools prompt id).2.refine tools id feedback).2 := rfl

/-- A window, which gets a pane of glass, and a correction of it. -/
def windowOperations : List Operation :=
  [.create "window 3 ft wide with 2 in inset" "s", .refine "s" "4 ft wide"]

theorem offline_default : ({} : StudioTools Unit Unit).Offline where
  unassisted := rfl
  standard := rfl
  unserved := rfl
  passes := rfl
  lawful := Quality.Deductions.lawful_standard

/-- The window has favourable variations after that, and is executed. -/
theorem allReady_window :
    (∃ results, ((blank.run {} windowOperations).variations {} "s" 2).1 = .ok results ∧
      results.length = 2 ∧ ∀ a ∈ results, a.Favourable) ∧
    ∃ record, ((blank.run {} windowOperations).execute {} "s").1 = .ok record := by
  have hprompt : Reading.InsetWithinLimit (Text.strip "window 3 ft wide with 2 in inset") := by
    decide +kernel
  have hfeedback : Reading.InsetWithinLimit "4 ft wide" := by
    decide +kernel
  have hcreate : Operation.WithinLimit (.create "window 3 ft wide with 2 in inset" "s") := hprompt
  have hrefine : Operation.WithinLimit (.refine "s" "4 ft wide") := hfeedback
  have hempty : blank.desk.sessions = {} := rfl
  -- a session is found after each of the two operations
  have hblank : blank.AllReady {} :=
    allReady_run offline_default hempty (List.forall_mem_nil Operation.WithinLimit)
  obtain ⟨-, created, -, -, hcreated, -⟩ :=
    hblank.created "window 3 ft wide with 2 in inset" "s" hprompt
  have honce := allReady_run offline_default hempty (List.forall_mem_singleton.mpr hcreate)
  rw [run_create] at honce
  obtain ⟨-, refined, -, -, hrefined, -⟩ :=
    honce.refined "s" created "4 ft wide" hcreated hfeedback
  have htwice := allReady_run offline_default hempty
    (List.forall_mem_cons.mpr ⟨hcreate, List.forall_mem_singleton.mpr hrefine⟩)
  rw [run_create_refine] at htwice
  rw [windowOperations, run_create_refine]
  have hcount : (2 : Int) < 10 ^ Numeric.longestInteger :=
    lt_of_lt_of_le (by omega) (le_self_pow₀ (by omega : (1 : Int) ≤ 10) (by decide))
  obtain ⟨results, hresults, hlength⟩ := htwice.varied "s" refined 2 hrefined hcount
  exact ⟨⟨results, hresults, hlength, htwice.siblings "s" 2 results hresults⟩,
    htwice.executed "s" refined hrefined⟩

end Studio

end FamilyDesign
