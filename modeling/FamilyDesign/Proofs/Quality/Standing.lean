import FamilyDesign.Proofs.Quality.Normals
import FamilyDesign.Proofs.Quality.Outcome

/-!
# What the geometry pass asks

The pass looks for heights that are not positive and for normals of which the length is off, and an
undefined number is neither. So a design that passes is told by its geometry, with what is undefined
let through.

* **`clean_checkExtrusion_iff`**, **`clean_checkPlane_iff`**, **`clean_checkConstraint_iff`** — what
  is asked of one element.
* **`Standing`** — what is asked of a design, given which extrusions rise and which normals will do.
* **`passed_iff_standing`** — the pass is passed just if the design is standing, up to what is
  undefined; which heights are positive, and how near to one the length of a normal has to be.
-/

namespace FamilyDesign.Quality.Geometry

open Numeric (Binary64)
open Numeric.Binary64

/-! ## Extrusions -/

/-- An extrusion with a height that is undefined: one of its ends is, or both are at one
infinity. -/
def Unmeasured (e : Extrusion) : Prop :=
  e.start.z.isUndefined = true ∨ e.stop.z.isUndefined = true ∨
    e.start.z.isInfinite = true ∧ e.start.z = e.stop.z

/-- A height is undefined just of an extrusion that cannot be measured. -/
theorem isUndefined_height {e : Extrusion} : e.height.isUndefined = true ↔ Unmeasured e := by
  unfold Extrusion.height Unmeasured
  rw [isUndefined_abs, isUndefined_sub_iff]
  constructor
  · rintro (hstop | hstart | ⟨hinf, heq⟩)
    · exact Or.inr (Or.inl hstop)
    · exact Or.inl hstart
    · exact Or.inr (Or.inr ⟨heq ▸ hinf, heq.symm⟩)
  · rintro (hstart | hstop | ⟨hinf, heq⟩)
    · exact Or.inr (Or.inl hstart)
    · exact Or.inl hstop
    · exact Or.inr (Or.inr ⟨heq ▸ hinf, heq.symm⟩)

/-- The height is positive just if the ends differ. -/
theorem zero_lt_height_iff {e : Extrusion} :
    0 < e.height ↔ e.start.z < e.stop.z ∨ e.stop.z < e.start.z :=
  zero_lt_abs_sub_iff.trans or_comm

/-- What is not below zero or at it is above, unless it is undefined. -/
theorem clean_checkExtrusion_iff {index : Nat} {e : Extrusion} :
    (checkExtrusion index e).Clean ↔ 3 ≤ e.profile.length ∧ (0 < e.height ∨ Unmeasured e) := by
  unfold checkExtrusion
  dsimp only
  rw [Outcome.clean_all_iff, List.forall_mem_cons, List.forall_mem_cons, List.forall_mem_singleton,
    Outcome.clean_onlyIf_issue_iff, Outcome.clean_onlyIf_issue_iff, decide_eq_false_iff_not,
    decide_eq_false_iff_not, not_le_iff (unsigned_ofNat 0).defined, isUndefined_height, Nat.not_lt]
  simp only [Outcome.clean_onlyIf_warning, and_true]

/-! ## Planes -/

/-- A plane raises no issue just if its normal has unit length, or is undefined. -/
theorem clean_checkPlane_iff {p : ReferencePlane} :
    (checkPlane p).Clean ↔ IsUnitLength p.normal ∨ Undefined p.normal := by
  unfold checkPlane
  dsimp only
  rw [Outcome.clean_onlyIf_issue_iff, decide_eq_false_iff_not,
    not_lt_iff unsigned_normalTolerance.defined, isUndefined_abs, isUndefined_sub_iff,
    isUndefined_magnitude]
  refine or_congr_right ⟨fun h => ?_, Or.inl⟩
  -- one is neither undefined nor infinite
  rcases h with h | h | ⟨hinf, heq⟩
  · exact h
  · rw [(unsigned_ofNat 1).defined] at h
    cases h
  · rw [heq] at hinf
    exact absurd hinf (by decide +kernel)

/-! ## Constraints -/

/-- Whether a reference is the name of an element, and not an empty one. -/
def Refers (d : Design) (reference : Option Text) : Prop :=
  ∃ name, reference = some name ∧ name.isEmpty = false ∧
    ((∃ e ∈ d.extrusions, e.name = name) ∨ ∃ p ∈ d.referencePlanes, p.name = name)

/-- A reference dangles unless it names an element. -/
theorem isDangling_eq_false_iff {d : Design} {reference : Option Text} :
    isDangling d.elementNames reference = false ↔ Refers d reference := by
  unfold isDangling Refers nonempty? Design.elementNames
  cases reference with
  | none => exact ⟨nofun, fun ⟨name, h, _⟩ => nomatch h⟩
  | some name =>
    cases hempty : name.isEmpty with
    | true => simp [Option.filter_some, hempty]
    | false =>
      simp only [Option.filter_some, hempty, Bool.not_false, if_true]
      rw [Bool.not_eq_false', List.contains_iff_mem, List.mem_filter, List.mem_append,
        List.mem_map, List.mem_map]
      simp [hempty]

/-- A constraint raises no issue just if both its references name elements. -/
theorem clean_checkConstraint_iff {d : Design} {index : Nat} {c : Constraint} :
    (checkConstraint d.elementNames index c).Clean ↔ Refers d c.first ∧ Refers d c.second := by
  unfold checkConstraint
  dsimp only
  rw [Outcome.clean_onlyIf_issue_iff, Bool.not_eq_false', List.isEmpty_iff, List.filter_eq_nil_iff,
    List.forall_mem_cons, List.forall_mem_singleton, Bool.not_eq_true, Bool.not_eq_true,
    isDangling_eq_false_iff, isDangling_eq_false_iff]

/-! ## Designs -/

/-- The level of detail is never an issue of the geometry. -/
theorem clean_checkDetail (lod : Option Int) (count : Nat) : (checkDetail lod count).Clean := by
  unfold checkDetail
  split
  · exact Outcome.clean_clear
  · dsimp only
    split_ifs
    · exact Outcome.clean_warning _ _
    · exact Outcome.clean_warning _ _
    · exact Outcome.clean_clear

/-- What is asked of the geometry of a design, where `rises` tells which extrusions have a height
and `isNormal` which vectors will do for normals. -/
structure Standing (rises : Extrusion → Prop) (isNormal : Point3 → Prop) (d : Design) : Prop where
  extruded : d.extrusions ≠ []
  cornered : ∀ e ∈ d.extrusions, 3 ≤ e.profile.length
  raised : ∀ e ∈ d.extrusions, rises e
  oriented : ∀ p ∈ d.referencePlanes, isNormal p.normal
  anchored : ∀ c ∈ d.constraints, Refers d c.first ∧ Refers d c.second

/-- **The geometry pass raises no issue just of a standing design**, with undefined heights and
normals let through. -/
theorem clean_check_iff_standing (d : Design) (code : Option Text) :
    (check d code).Clean ↔
      Standing (fun e => 0 < e.height ∨ Unmeasured e)
        (fun v => IsUnitLength v ∨ Undefined v) d := by
  have hextrusions : (Outcome.all (d.extrusions.mapIdx checkExtrusion)).Clean ↔
      ∀ e ∈ d.extrusions, 3 ≤ e.profile.length ∧ (0 < e.height ∨ Unmeasured e) := by
    refine Outcome.clean_mapIdx_iff ?_
    intro index e
    exact clean_checkExtrusion_iff
  have hconstraints : (Outcome.all (d.constraints.mapIdx (checkConstraint d.elementNames))).Clean ↔
      ∀ c ∈ d.constraints, Refers d c.first ∧ Refers d c.second := by
    refine Outcome.clean_mapIdx_iff ?_
    intro index c
    exact clean_checkConstraint_iff
  unfold check
  rw [Outcome.clean_append_iff, Outcome.clean_append_iff, Outcome.clean_append_iff,
    Outcome.clean_append_iff, Outcome.clean_onlyIf_issue_iff, List.isEmpty_eq_false_iff,
    hextrusions, Outcome.clean_all_iff, List.forall_mem_map, hconstraints]
  -- The level of detail is only warned of, so it drops out.
  simp only [clean_checkPlane_iff, clean_checkDetail, and_true]
  constructor
  · rintro ⟨⟨⟨hextruded, hsolid⟩, hplanes⟩, hanchored⟩
    exact ⟨hextruded, fun e he => (hsolid e he).1, fun e he => (hsolid e he).2, hplanes, hanchored⟩
  · intro h
    exact ⟨⟨⟨h.extruded, fun e he => ⟨h.cornered e he, h.raised e he⟩⟩, h.oriented⟩, h.anchored⟩

/-- Which extrusions and normals the rest of a standing design is asked for does not matter. -/
theorem Standing.mono {rises rises' : Extrusion → Prop} {isNormal isNormal' : Point3 → Prop}
    {d : Design} (h : Standing rises isNormal d) (hrises : ∀ e ∈ d.extrusions, rises' e)
    (hnormal : ∀ p ∈ d.referencePlanes, isNormal' p.normal) : Standing rises' isNormal' d :=
  ⟨h.extruded, h.cornered, hrises, hnormal, h.anchored⟩

/-- **When the geometry pass is passed**: just if the design is standing, with heights and normals
let through that are undefined. This comes to what is asked for, heights above zero and normals of
unit length, just if no design passes that has an undefined one. Heights are above zero just if the
ends differ, and a normal is of unit length just if its real length is within the tolerance of one,
up to the last places. -/
theorem passed_iff_standing (deductions : Deductions) (d : Design) (code : Option Text) :
    ((Pass.geometry.run deductions d code).passed = true ↔
      Standing (fun e => 0 < e.height ∨ Unmeasured e) (fun v => IsUnitLength v ∨ Undefined v) d) ∧
    (((Pass.geometry.run deductions d code).passed = true ↔
        Standing (fun e => 0 < e.height) IsUnitLength d) ↔
      ¬((Pass.geometry.run deductions d code).passed = true ∧
        ((∃ e ∈ d.extrusions, Unmeasured e) ∨ ∃ p ∈ d.referencePlanes, Undefined p.normal))) ∧
    (∀ e : Extrusion, 0 < e.height ↔ e.start.z < e.stop.z ∨ e.stop.z < e.start.z) ∧
    ∀ v : Point3, (IsNear (1 / 1000 - 1 / 10 ^ 14) v → IsUnitLength v) ∧
      (IsUnitLength v → IsNear (1 / 1000 + 1 / 10 ^ 14) v) := by
  have hpassed : (Pass.geometry.run deductions d code).passed = true ↔
      Standing (fun e => 0 < e.height ∨ Unmeasured e) (fun v => IsUnitLength v ∨ Undefined v) d :=
    (Pass.geometry.passed_verdict_iff deductions _).trans (clean_check_iff_standing d code)
  refine ⟨hpassed, ?_, fun e => zero_lt_height_iff,
    fun v => ⟨isUnitLength_of_isNear, isNear_of_isUnitLength⟩⟩
  rw [hpassed]
  constructor
  · -- What is undefined is neither above zero nor of unit length.
    rintro h ⟨hstanding, ⟨e, he, hunmeasured⟩ | ⟨p, hp, hundefined⟩⟩
    · have hpos := (h.mp hstanding).raised e he
      rw [← isUndefined_height, (unsigned_of_pos hpos).defined] at hunmeasured
      cases hunmeasured
    · have hunit := (h.mp hstanding).oriented p hp
      exact (isNear_of_isUnitLength hunit).defined hundefined
  · intro h
    constructor
    · intro hstanding
      refine hstanding.mono (fun e he => ?_) (fun p hp => ?_)
      · rcases hstanding.raised e he with hpos | hunmeasured
        · exact hpos
        · exact absurd ⟨hstanding, Or.inl ⟨e, he, hunmeasured⟩⟩ h
      · rcases hstanding.oriented p hp with hunit | hundefined
        · exact hunit
        · exact absurd ⟨hstanding, Or.inr ⟨p, hp, hundefined⟩⟩ h
    · intro hstanding
      exact hstanding.mono (fun e he => Or.inl (hstanding.raised e he))
        (fun p hp => Or.inl (hstanding.oriented p hp))

/-- A design with one extrusion, of which both ends are infinitely high. -/
def boundlessDesign : Design where
  geometry := some {
    extrusions := [{
      profile := [{}, {}, {}]
      start := { z := Numeric.Binary64.infinity false }
      stop := { z := Numeric.Binary64.infinity false } }] }

/-- It passes, and its extrusion has no height. -/
theorem passed_boundlessDesign :
    (Pass.geometry.run .standard boundlessDesign none).passed = true ∧
      ¬Standing (fun e => 0 < e.height) IsUnitLength boundlessDesign := by
  have hpassed : (Pass.geometry.run .standard boundlessDesign none).passed = true := by
    decide +kernel
  refine ⟨hpassed, fun hstanding => ?_⟩
  obtain ⟨-, hiff, -⟩ := passed_iff_standing .standard boundlessDesign none
  have hunmeasured : Unmeasured { profile := [{}, {}, {}]
                                  start := { z := Numeric.Binary64.infinity false }
                                  stop := { z := Numeric.Binary64.infinity false } } :=
    Or.inr (Or.inr ⟨rfl, rfl⟩)
  exact hiff.mp (iff_of_true hpassed hstanding)
    ⟨hpassed, Or.inl ⟨_, List.mem_cons_self, hunmeasured⟩⟩

end FamilyDesign.Quality.Geometry
