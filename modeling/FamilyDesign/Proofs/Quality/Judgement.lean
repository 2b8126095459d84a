import FamilyDesign.Proofs.Quality.Score
import Mathlib.Data.List.Forall2

/-!
# Judgements of a gateway

A gateway may be given passes of any kind: their checks record findings in any order and may end in
a fault. What the report says of them is fixed by these findings alone, pass by pass.

* **`foldl_deduct_eq`** — taking points finding by finding, and never below zero, comes to taking
  them all at once.
* **`Pass.Judged`** — the verdict that the findings of a check call for; `Pass.judged_run` says that
  it is the one that is given.
* **`map_recommendations`** — what is recommended holds just the findings.
* **`Gateway.Reported`**, **`Gateway.reported`** — the headline: all that a report says.
-/

namespace FamilyDesign.Quality

/-! ## Points -/

/-- The points that findings cost together. -/
def Deductions.total (table : Deductions) (findings : List Finding) : Int :=
  (findings.map fun f => table.points f.key).sum

/-- No findings give points. -/
theorem Deductions.Lawful.total_nonneg {table : Deductions} (h : table.Lawful)
    (findings : List Finding) : 0 ≤ table.total findings := by
  induction findings with
  | nil => exact Int.le_refl 0
  | cons f rest ih =>
    have hpoints := h f.key
    show 0 ≤ table.points f.key + table.total rest
    omega

/-- **Points may be taken all at once.** Induction on the findings: once a score is down to zero
nothing brings it up again, as no finding gives points. -/
theorem foldl_deduct_eq {table : Deductions} (hlawful : table.Lawful) (findings : List Finding)
    {score : Int} (hscore : 0 ≤ score) :
    findings.foldl (deduct table) score = max 0 (score - table.total findings) := by
  induction findings generalizing score with
  | nil =>
    show score = max 0 (score - 0)
    omega
  | cons f rest ih =>
    have hrest := hlawful.total_nonneg rest
    have hfirst : 0 ≤ deduct table score f := Int.le_max_left _ _
    rw [List.foldl_cons, ih hfirst]
    show max 0 (max 0 (score - table.points f.key) - table.total rest)
      = max 0 (score - (table.points f.key + table.total rest))
    omega

/-! ## Verdicts -/

/-- The verdict that the findings of a check call for. -/
structure Pass.Judged (p : Pass) (table : Deductions) (o : Outcome) (v : Verdict) : Prop where
  name : v.name = p.name
  critical : v.critical = p.critical
  /-- The issues are those that were recorded, and the fault that ended the check. -/
  issues : v.issues = messages .issue o.findings ++ (o.fault.map p.faultIssue).toList
  warnings : v.warnings = messages .warning o.findings
  passed : v.passed = true ↔ v.issues = []
  faulty : o.fault.isSome → v.score = 0
  score : o.fault = none → v.score = max 0 (100 - table.total o.findings)

/-- A pass judges by its findings. -/
theorem Pass.judged_run (p : Pass) {table : Deductions} (hlawful : table.Lawful) (d : Design)
    (code : Option Text) : p.Judged table (p.check d code) (p.run table d code) := by
  refine ⟨rfl, rfl, p.issues_verdict _ _, p.warnings_verdict _ _, ?passed, ?faulty, ?score⟩
  case passed =>
    unfold Pass.run
    rw [Pass.passed_verdict, List.isEmpty_iff]
  case faulty =>
    intro hfault
    unfold Pass.run
    rw [Pass.score_verdict, if_pos hfault]
  case score =>
    intro hfault
    unfold Pass.run
    rw [Pass.score_verdict, hfault]
    exact foldl_deduct_eq hlawful _ (by decide)

/-! ## Recommendations -/

/-- What a pass with a verdict calls for: high priority for its issues, medium for its warnings, and
nothing where there are none. -/
def calledFor (passName : Text) (v : Verdict) : List (Text × Priority × List Text) :=
  (if v.issues = [] then [] else [(passName, .high, v.issues)])
    ++ (if v.warnings = [] then [] else [(passName, .medium, v.warnings)])

/-- A recommendation without its advice. -/
def Recommendation.topic (c : Recommendation) : Text × Priority × List Text :=
  (c.passName, c.priority, c.findings)

/-- One recommendation is made for the findings of a priority, if there are any. -/
theorem map_recommend? (passName : Text) (priority : Priority) (findings : List Text) :
    (recommend? passName priority findings).toList.map Recommendation.topic
      = if findings = [] then [] else [(passName, priority, findings)] := by
  unfold recommend?
  cases findings with
  | nil => rfl
  | cons finding rest => rfl

/-- Of a verdict the recommendations are those its findings call for. -/
theorem map_recommendations (passName : Text) (v : Verdict) :
    (recommendations passName v).map Recommendation.topic = calledFor passName v := by
  unfold recommendations calledFor
  rw [List.map_append, map_recommend?, map_recommend?]

/-! ## Reports -/

/-- A design is ready just if there is a critical verdict and none of them has an issue. -/
theorem areReady_iff {verdicts : Entries Verdict}
    (hpassed : ∀ e ∈ verdicts, e.2.passed = true ↔ e.2.issues = []) :
    areReady verdicts = true ↔ (∃ e ∈ verdicts, e.2.critical = true) ∧
      ∀ e ∈ verdicts, e.2.critical = true → e.2.issues = [] := by
  unfold areReady criticalVerdicts
  rw [Bool.and_eq_true, Bool.not_eq_true', List.isEmpty_eq_false_iff_exists_mem, List.all_eq_true]
  simp only [List.mem_filter, List.mem_map, and_imp, forall_exists_index]
  refine and_congr ?_ ?_
  · constructor
    · rintro ⟨v, ⟨e, he, rfl⟩, hcritical⟩
      exact ⟨e, he, hcritical⟩
    · rintro ⟨e, he, hcritical⟩
      exact ⟨e.2, ⟨e, he, rfl⟩, hcritical⟩
  · constructor
    · intro h e he hcritical
      exact (hpassed e he).mp (h e.2 e he rfl hcritical)
    · -- A verdict without issues has passed, whatever its score.
      rintro h v e he rfl hcritical
      exact (hpassed e he).mpr (h e he hcritical)

namespace Gateway

/-- The gateway without the passes of a name. -/
def without (g : Gateway) (name : Text) : Gateway :=
  { g with passes := g.passes.filter (·.name != name) }

/-- All that a report of a gateway says of a design and its script. -/
structure Reported (g : Gateway) (d : Design) (code : Option Text) (now : Instant) (r : Report) :
    Prop where
  /-- There is one entry for each pass, in order, with the verdict that its findings call for. -/
  entries : List.Forall₂ (fun p e => e.1 = p.name ∧ p.Judged g.deductions (p.check d code) e.2)
    g.passes r.verdicts
  /-- A pass, and be it one that ends in a fault, makes no difference to the entries of others. -/
  apart : ∀ p ∈ g.passes, ∃ r', (g.without p.name).validate d code now = .ok r' ∧
    r'.verdicts = r.verdicts.filter (·.1 != p.name)
  /-- The design is ready just if there is a critical pass and none of them has an issue. -/
  ready : r.ready = true ↔ (∃ p ∈ g.passes, p.critical = true) ∧
    ∀ e ∈ r.verdicts, e.2.critical = true → e.2.issues = []
  /-- The issues and the warnings of each pass are recommended for, in order, and nothing else. -/
  recommended : r.recommendations.map Recommendation.topic
    = r.verdicts.flatMap fun e => calledFor e.1 e.2

theorem nodup_without {g : Gateway} (hnodup : (g.passes.map (·.name)).Nodup) (name : Text) :
    ((g.without name).passes.map (·.name)).Nodup :=
  (List.filter_sublist.map Pass.name).nodup hnodup

/-- **What a gateway reports.** If its passes have names that differ and no kind of finding gives
points, there is a report on every design and script, and the findings of the passes fix all that it
says. -/
theorem reported (g : Gateway) (hnodup : (g.passes.map (·.name)).Nodup)
    (hlawful : g.deductions.Lawful) (d : Design) (code : Option Text) (now : Instant) :
    ∃ r, g.validate d code now = .ok r ∧ g.Reported d code now r := by
  obtain ⟨r, hr⟩ := validate_lawful hnodup hlawful d code now
  obtain ⟨score, -, rfl⟩ := validate_eq_ok_iff.mp hr
  refine ⟨_, hr, ?_⟩
  have hverdicts : (g.reportWith d code now score).verdicts
      = g.passes.map fun p => (p.name, p.run g.deductions d code) :=
    g.verdicts_of_nodup hnodup d code
  refine ⟨?entries, ?apart, ?ready, ?recommended⟩
  case entries =>
    rw [hverdicts, List.forall₂_map_right_iff, List.forall₂_same]
    exact fun p _ => ⟨rfl, p.judged_run hlawful d code⟩
  -- The gateway without the pass runs the others on the same design and script.
  case apart =>
    intro p _
    have hnodup' := nodup_without hnodup p.name
    obtain ⟨r', hr'⟩ := validate_lawful hnodup' (show (g.without p.name).deductions.Lawful from
      hlawful) d code now
    obtain ⟨score', -, rfl⟩ := validate_eq_ok_iff.mp hr'
    refine ⟨_, hr', ?_⟩
    rw [hverdicts, List.filter_map]
    exact (g.without p.name).verdicts_of_nodup hnodup' d code
  case ready =>
    have hpassed : ∀ e ∈ (g.reportWith d code now score).verdicts,
        e.2.passed = true ↔ e.2.issues = [] := by
      rw [hverdicts, List.forall_mem_map]
      exact fun p _ => (p.judged_run hlawful d code).passed
    refine (areReady_iff hpassed).trans (and_congr_left fun _ => ?_)
    rw [hverdicts]
    simp only [List.mem_map, exists_exists_and_eq_and]
    rfl
  case recommended =>
    show (List.flatMap _ (g.reportWith d code now score).verdicts).map Recommendation.topic = _
    rw [List.map_flatMap]
    exact congrArg (List.flatMap · _) (funext fun e => map_recommendations e.1 e.2)

/-- A standard pass between two others. The first of these records two issues and a warning; the
other is critical, and a fault ends its check after a warning. -/
def mixedGateway : Gateway where
  deductions := [("own.grave", 70), ("own.slight", 5)]
  passes := [
    { name := "own", description := "", check := fun _ _ => { findings := [
      ⟨.issue, "own.grave", "one"⟩, ⟨.warning, "own.slight", "two"⟩,
      ⟨.issue, "own.grave", "three"⟩] } },
    .metadata,
    { name := "late", description := "", critical := true, check := fun _ _ => {
      findings := [⟨.warning, "own.slight", "four"⟩], fault := some "five" } }]

/-- What it reports of an empty design. -/
theorem reported_mixedGateway :
    (mixedGateway.passes.map (·.name)).Nodup ∧ mixedGateway.deductions.Lawful ∧
      ∃ r, mixedGateway.validate {} none ⟨0⟩ = .ok r ∧ mixedGateway.Reported {} none ⟨0⟩ r := by
  have hnodup : (mixedGateway.passes.map (·.name)).Nodup := by
    decide +kernel
  have hlawful : mixedGateway.deductions.Lawful := Deductions.lawful_of_forall (by decide)
  exact ⟨hnodup, hlawful, reported mixedGateway hnodup hlawful {} none ⟨0⟩⟩

end Gateway

end FamilyDesign.Quality
