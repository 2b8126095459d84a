import FamilyDesign.Quality.Gateway
import FamilyDesign.Proofs.Entries
import FamilyDesign.Proofs.Quality.Outcome

/-!
# What readiness means

With the standard passes a design is ready just if the three critical ones are clean. These look at
the design alone, so the script has no say in it; and they rule out all that the emission of a
script would refuse.

* **`ready_standardPasses_iff`** — readiness in terms of the three critical passes.
* **`checkEmittable_of_ready`** — a script can be written for whatever is ready.
* **`Gateway.validate_stamped`** — a report depends on the moment in its timestamp only.
-/

namespace FamilyDesign

namespace Quality

/-! ## The verdicts of the standard passes -/

namespace Gateway

/-- Passes of names that differ each have their verdict. -/
theorem verdicts_of_nodup (g : Gateway) (h : (g.passes.map (·.name)).Nodup) (d : Design)
    (code : Option Text) :
    g.verdicts d code = g.passes.map fun p => (p.name, p.run g.deductions d code) := by
  unfold verdicts byName
  rw [List.map_map]
  refine Entries.ofPairs_of_nodup ?_
  rw [List.map_map]
  exact h

end Gateway

theorem nodup_standardPasses : (standardPasses.map (·.name)).Nodup := by
  decide +kernel

/-- With the standard passes a design is ready just if the critical ones are clean. -/
theorem ready_standardPasses_iff {g : Gateway} (hpasses : g.passes = standardPasses) (d : Design)
    (code : Option Text) :
    areReady (g.verdicts d code) = true ↔
      (Geometry.check d code).Clean ∧ (Parameters.check d code).Clean ∧
        (Identity.check d code).Clean := by
  -- three of the six passes are critical
  have hcritical : criticalVerdicts (g.verdicts d code)
      = [Pass.geometry.run g.deductions d code, Pass.parameters.run g.deductions d code,
          Pass.metadata.run g.deductions d code] := by
    rw [g.verdicts_of_nodup (by rw [hpasses]; exact nodup_standardPasses), hpasses]
    rfl
  unfold areReady
  rw [hcritical]
  show (([Pass.geometry.run g.deductions d code, Pass.parameters.run g.deductions d code,
    Pass.metadata.run g.deductions d code] : List Verdict).all (·.passed)) = true ↔ _
  rw [List.all_cons, List.all_cons, List.all_cons, List.all_nil, Bool.and_true, Bool.and_eq_true,
    Bool.and_eq_true]
  exact and_congr (Pass.passed_verdict_iff _ _ _)
    (and_congr (Pass.passed_verdict_iff _ _ _) (Pass.passed_verdict_iff _ _ _))

/-- The script has no say in readiness. -/
theorem ready_code_eq {g : Gateway} (hpasses : g.passes = standardPasses) (d : Design)
    (code : Option Text) : areReady (g.verdicts d code) = areReady (g.verdicts d none) := by
  rw [Bool.eq_iff_iff, ready_standardPasses_iff hpasses, ready_standardPasses_iff hpasses]
  exact Iff.rfl

/-! ## What a clean design has -/

/-- Without an issue of the geometry pass there is a geometry. -/
theorem isSome_geometry_of_clean {d : Design} {code : Option Text}
    (h : (Geometry.check d code).Clean) : d.geometry.isSome = true := by
  have hparts := (Outcome.clean_append_iff.mp (Outcome.clean_append_iff.mp
    (Outcome.clean_append_iff.mp (Outcome.clean_append_iff.mp h).1).1).1).1
  have hsome : d.extrusions.isEmpty = false := Outcome.clean_onlyIf_issue_iff.mp hparts
  unfold Design.extrusions at hsome
  cases hgeometry : d.geometry with
  | some geometry => rfl
  | none =>
    rw [hgeometry] at hsome
    cases hsome

/-- Without an issue of the parameters pass there are parameters. -/
theorem isSome_parameterSet_of_clean {d : Design} {code : Option Text}
    (h : (Parameters.check d code).Clean) : d.parameterSet.isSome = true := by
  have hparts := (Outcome.clean_append_iff.mp (Outcome.clean_append_iff.mp
    (Outcome.clean_append_iff.mp h).1).1).1
  have hsome : d.parameters.isEmpty = false := Outcome.clean_onlyIf_issue_iff.mp hparts
  unfold Design.parameters at hsome
  cases hset : d.parameterSet with
  | some set => rfl
  | none =>
    rw [hset] at hsome
    cases hsome

/-- Each of the five levels of detail is in the range that the emission asks for. -/
theorem lodInRange_of_mem_levels {lod : Int} (h : lod ∈ Identity.levels) :
    Design.lodInRange lod = true := by
  simp only [Identity.levels, List.mem_cons, List.not_mem_nil, or_false] at h
  rcases h with rfl | rfl | rfl | rfl | rfl <;> rfl

/-- Without an issue of the metadata pass the family has a name. -/
theorem isEmpty_familyName_of_clean {d : Design} {code : Option Text}
    (h : (Identity.check d code).Clean) : d.familyName.isEmpty = false := by
  have hpresent : (!!d.familyName.isEmpty) = false :=
    Outcome.clean_onlyIf_issue_iff.mp (Outcome.clean_all_iff.mp h
      (Identity.checkPresent "familyName" (!d.familyName.isEmpty)) (by simp))
  simpa using hpresent

/-- Without an issue of the metadata pass the level of detail is in range. -/
theorem lod_of_clean {d : Design} {code : Option Text} (h : (Identity.check d code).Clean) :
    ∃ lod, d.lod = some lod ∧ Design.lodInRange lod = true := by
  have hparts := Outcome.clean_all_iff.mp h
  -- the pass looks whether there is a level, and whether it is one of the five
  have hpresent : (!d.lod.isSome) = false :=
    Outcome.clean_onlyIf_issue_iff.mp (hparts (Identity.checkPresent "lodLevel" d.lod.isSome)
      (by simp))
  have hlevel : (Identity.checkLod d.lod).Clean := hparts _ (by simp)
  cases hlod : d.lod with
  | none =>
    rw [hlod] at hpresent
    cases hpresent
  | some lod =>
    rw [hlod] at hlevel
    have hmem : (!Identity.levels.contains lod) = false := Outcome.clean_onlyIf_issue_iff.mp hlevel
    exact ⟨lod, rfl, lodInRange_of_mem_levels (by simpa using hmem)⟩

/-- A script can be written for whatever is ready. -/
theorem checkEmittable_of_ready {g : Gateway} (hpasses : g.passes = standardPasses) {d : Design}
    {code : Option Text} (hready : areReady (g.verdicts d code) = true) :
    Design.checkEmittable d = .ok d := by
  obtain ⟨hgeometry, hparameters, hidentity⟩ := (ready_standardPasses_iff hpasses d code).mp hready
  obtain ⟨lod, hlod, hrange⟩ := lod_of_clean hidentity
  have hmetadata : d.metadata.isNone = false := by
    unfold Design.lod at hlod
    cases hm : d.metadata with
    | some metadata => rfl
    | none =>
      rw [hm] at hlod
      cases hlod
  unfold Design.checkEmittable
  rw [hmetadata, Option.isNone_eq_false_iff.mpr (isSome_geometry_of_clean hgeometry),
    Option.isNone_eq_false_iff.mpr (isSome_parameterSet_of_clean hparameters), hlod]
  simp [hrange]

/-! ## Reports at different moments -/

/-- A report with another timestamp. -/
def Report.stamped (r : Report) (now : Instant) : Report := { r with timestamp := now }

namespace Gateway

/-- The report on a design and its script with a mean score, at a moment. -/
def reportWith (g : Gateway) (d : Design) (code : Option Text) (now : Instant)
    (score : Numeric.Binary64) : Report where
  familyName := d.familyName
  category := d.category
  lod := d.lod
  verdicts := g.verdicts d code
  ready := areReady (g.verdicts d code)
  score := score
  recommendations := (g.verdicts d code).flatMap fun (name, v) => recommendations name v
  timestamp := now

/-- A report is made just if its mean score can be. -/
theorem validate_eq (g : Gateway) (d : Design) (code : Option Text) (now : Instant) :
    g.validate d code now
      = (meanScore ((g.verdicts d code).map (·.2.score))).map (g.reportWith d code now) := by
  unfold validate
  dsimp only
  cases meanScore ((g.verdicts d code).map (·.2.score)) with
  | error fault => rfl
  | ok score => rfl

/-- A report is the one of the verdicts, with their mean score. -/
theorem validate_eq_ok_iff {g : Gateway} {d : Design} {code : Option Text} {now : Instant}
    {r : Report} :
    g.validate d code now = .ok r ↔ ∃ score,
      meanScore ((g.verdicts d code).map (·.2.score)) = .ok score ∧
        g.reportWith d code now score = r := by
  rw [validate_eq]
  cases meanScore ((g.verdicts d code).map (·.2.score)) with
  | error fault => simp [Except.map]
  | ok score => simp [Except.map]

/-- A report depends on the moment in its timestamp only. -/
theorem validate_stamped {g : Gateway} {d : Design} {code : Option Text} {now : Instant}
    {r : Report} (h : g.validate d code now = .ok r) (later : Instant) :
    g.validate d code later = .ok (r.stamped later) := by
  obtain ⟨score, hscore, rfl⟩ := validate_eq_ok_iff.mp h
  exact validate_eq_ok_iff.mpr ⟨score, hscore, rfl⟩

/-- A report is favourable just if its verdicts make the design ready. -/
theorem ready_of_validate {g : Gateway} {d : Design} {code : Option Text} {now : Instant}
    {r : Report} (h : g.validate d code now = .ok r) :
    r.ready = areReady (g.verdicts d code) := by
  obtain ⟨score, -, rfl⟩ := validate_eq_ok_iff.mp h
  rfl

end Gateway

end Quality

end FamilyDesign
