import FamilyDesign.Proofs.Design.Scaling
import FamilyDesign.Proofs.Quality.Declarations
import FamilyDesign.Proofs.Quality.Readiness
import FamilyDesign.Proofs.Script.Refusal

/-!
# Variations of ready designs

Two of the critical passes do not see what a variation changes: the geometry pass asks for the
number of points and for heights, and the metadata pass for a name, whichever it is. The parameters
pass sees new values, each under the name of a length, and a length times a factor is one. Nor does
the emission see more, which refuses integers only.

* **`Varies.geometry_check`**, **`Varies.identity_check`**, **`Varies.clean_parameters`** — what the
  passes make of a variation.
* **`Varies.bounded`** — its script can be written.
* **`Varies.atDefault`** — a number that was bound to the default of its parameter is still.
* **`Design.variation_ready`** — all of this of a ready design, at any index of which the place can
  be written.
* **`Design.variation_eq_error_plainDoor`** — at another index there is no variation.
-/

namespace FamilyDesign

open Numeric (Binary64)
open Quality (areReady standardPasses)

/-- What is related to an item is related to one of the other list. -/
theorem exists_of_forall₂ {α β : Type} {related : α → β → Prop} {xs : List α} {ys : List β}
    (h : List.Forall₂ related xs ys) : ∀ y ∈ ys, ∃ x ∈ xs, related x y := by
  induction h with
  | nil => exact List.forall_mem_nil _
  | cons hfirst _ ih =>
    rw [List.forall_mem_cons]
    refine ⟨⟨_, List.mem_cons_self, hfirst⟩, fun y hy => ?_⟩
    obtain ⟨x, hx, hxy⟩ := ih y hy
    exact ⟨x, List.mem_cons_of_mem _ hx, hxy⟩

namespace Design

/-- Whether a value is the default of a parameter of a name. -/
def AtDefault (d : Design) (name : Text) (v : Json) : Prop :=
  ∃ p ∈ d.parameters, p.name = name ∧ v.same p.default = true

namespace Varies

variable {d d' : Design} {index : Int}

/-! ## The passes -/

/-- A variation declares the same parameters. -/
theorem declaresAlike (h : d.Varies index d') : d.DeclaresAlike d' := by
  refine map_eq_of_forall₂ h.parameters ?_
  rintro p q ⟨hq, -⟩
  rw [hq]
  rfl

/-- **The geometry pass finds the same in a variation**: neither heights nor normals are scaled, and
no corner is lost. -/
theorem geometry_check (h : d.Varies index d') (code : Option Text) :
    Quality.Geometry.check d' code = Quality.Geometry.check d code := by
  have hplanes : d'.referencePlanes = d.referencePlanes := by
    unfold referencePlanes
    rw [h.geometry, Option.map_map]
    rfl
  have hconstraints : d'.constraints = d.constraints := by
    unfold constraints
    rw [h.geometry, Option.map_map]
    rfl
  have hlod : d'.lod = d.lod := by
    unfold lod
    rw [h.metadata, Option.bind_map]
    rfl
  have hnames : d'.elementNames = d.elementNames := by
    unfold elementNames
    rw [hplanes, h.extrusions, List.map_map]
    rfl
  -- Profiles keep their corners, and starts and ends their heights.
  have hextrusions : d'.extrusions.mapIdx Quality.Geometry.checkExtrusion
      = d.extrusions.mapIdx Quality.Geometry.checkExtrusion := by
    rw [h.extrusions]
    refine List.ext_getElem (by simp) fun i hi _ => ?_
    rw [List.getElem_mapIdx, List.getElem_mapIdx, List.getElem_map]
    unfold Quality.Geometry.checkExtrusion
    dsimp only
    rw [List.length_map]
    rfl
  unfold Quality.Geometry.check
  rw [hplanes, hconstraints, hlod, hnames, hextrusions, h.extrusions, List.isEmpty_map,
    List.length_map]

/-- The metadata pass finds the same in a variation of a design that has a name. -/
theorem identity_check (h : d.Varies index d') (hnamed : d.familyName.isEmpty = false)
    (code : Option Text) : Quality.Identity.check d' code = Quality.Identity.check d code := by
  -- A name with its place behind it is not empty.
  have hvaried : d'.familyName.isEmpty = false := by
    unfold familyName at hnamed ⊢
    rw [h.metadata, Option.map_map]
    cases hm : d.metadata with
    | none =>
      rw [hm] at hnamed
      cases hnamed
    | some m =>
      show ((m.familyName ++ " Variation ").toList
        ++ (Text.ofString (Numeric.intText (index + 1))).toList).isEmpty = false
      rw [Text.toList_append]
      simp
  have hcategory : d'.category = d.category := by
    unfold category
    rw [h.metadata, Option.map_map]
    rfl
  have hlod : d'.lod = d.lod := by
    unfold lod
    rw [h.metadata, Option.bind_map]
    rfl
  have hdescription : d'.metadata.map (·.description) = d.metadata.map (·.description) := by
    rw [h.metadata, Option.map_map]
    rfl
  unfold Quality.Identity.check
  rw [hvaried, hnamed, hcategory, hlod, hdescription]

/-- The parameter of which a name is scaled, in a design that declares well. -/
theorem definition?_of_rescales (hdeclares : Quality.Parameters.DeclaresWell d) {name : Text}
    (h : d.Rescales name) : ∃ p, d.definition? name = some p ∧ p.SpansPlan ∧
      p.default.IsNumber := by
  obtain ⟨p, hp, hspans, hnumber, rfl⟩ := h
  have hdistinct := (Quality.Parameters.clean_checkEach_iff.mp hdeclares.2).1
  exact ⟨p, definition?_of_mem hdistinct hp, hspans, hnumber⟩

/-- A scaled length is a length still. -/
theorem suits_length_of_scales {factor : Binary64} (hpos : 0 < factor)
    (hfin : factor.isFinite = true) {v w : Json} (h : v.Scales factor w)
    (hv : ValueType.length.Suits v) : ValueType.length.Suits w := by
  obtain ⟨x, hx, hdefined⟩ := hv
  cases h with
  | integer inRange =>
    cases hx
    exact ⟨_, .real _, Binary64.isUndefined_mul hdefined hpos hfin⟩
  | real y =>
    cases hx
    exact ⟨_, .real _, Binary64.isUndefined_mul hdefined hpos hfin⟩

/-- A value that fits is replaced by one that fits. -/
theorem fits_of_scalesIf (hdeclares : Quality.Parameters.DeclaresWell d) {name : Text} {v w : Json}
    (h : v.ScalesIf (d.Rescales name) (variationFactor index) w) (hv : d.Fits name v) :
    d.Fits name w := by
  cases h with
  | kept => exact hv
  | scaled hrescales hscales =>
    obtain ⟨p, hp, hspans, -⟩ := definition?_of_rescales hdeclares hrescales
    have hlength : p.type = ValueType.length.name := hspans.measured
    rw [fits_iff_of_definition? hp, hlength, valueProblem?_eq_none_iff, ValueType.fits_iff] at hv ⊢
    obtain ⟨hpos, hfin⟩ := variationFactor_pos index
    exact suits_length_of_scales hpos hfin hscales hv

/-- The parameters pass raises no issue of a variation if it raises none of the design. -/
theorem clean_parameters (h : d.Varies index d') {code code' : Option Text}
    (hclean : (Quality.Parameters.check d code).Clean) :
    (Quality.Parameters.check d' code').Clean := by
  obtain ⟨hdeclares, htypes⟩ := Quality.Parameters.clean_check_iff.mp hclean
  refine Quality.Parameters.clean_check_iff.mpr
    ⟨(Quality.Parameters.declaresWell_iff_of_alike h.declaresAlike).mp hdeclares, ?_⟩
  intro u hu
  obtain ⟨t, ht, hut, hbindings⟩ := exists_of_forall₂ h.types u hu
  obtain ⟨hnamed, hfits⟩ := htypes t ht
  refine ⟨by rw [hut]; exact hnamed, fun c hc => ?_⟩
  obtain ⟨b, hb, hname, hscales⟩ := exists_of_forall₂ hbindings c hc
  rw [hname, ← h.declaresAlike.fits_iff]
  exact fits_of_scalesIf hdeclares hscales (hfits b hb)

/-! ## The script -/

/-- A length is never out of the range of its type. -/
theorem not_outOfRange_length (v : Json) : ¬Script.OutOfRange v "Length" := by
  have htype : ValueType.ofName? "Length" = some .length := ValueType.ofName?_name .length
  rintro ⟨hinteger, -⟩
  rw [htype] at hinteger
  cases hinteger

/-- Where scaling applies to lengths only, it leads to no integer out of range. -/
theorem not_outOfRange_of_scalesIf {applies : Prop} {factor : Binary64} {typeName : Text}
    {v w : Json} (h : v.ScalesIf applies factor w) (hlength : applies → typeName = "Length")
    (hv : ¬Script.OutOfRange v typeName) : ¬Script.OutOfRange w typeName := by
  cases h with
  | kept => exact hv
  | scaled happlies _ =>
    rw [hlength happlies]
    exact not_outOfRange_length w

/-- **A variation is in range where the design is**: only lengths are scaled. -/
theorem bounded (h : d.Varies index d') (hdeclares : Quality.Parameters.DeclaresWell d)
    (hbounded : Script.Bounded d) : Script.Bounded d' where
  defaults := by
    intro q hq
    obtain ⟨p, hp, hqp, hscales⟩ := exists_of_forall₂ h.parameters q hq
    have htype : q.type = p.type := by rw [hqp]
    rw [htype]
    exact not_outOfRange_of_scalesIf hscales (·.measured) (hbounded.defaults p hp)
  bindings := by
    intro u hu c hc
    obtain ⟨t, ht, -, hbindings⟩ := exists_of_forall₂ h.types u hu
    obtain ⟨b, hb, hname, hscales⟩ := exists_of_forall₂ hbindings c hc
    have htype : Script.boundTypeOf d' c.1 = Script.boundTypeOf d b.1 := by
      unfold Script.boundTypeOf
      rw [hname, h.declaresAlike.definedType]
    rw [htype]
    refine not_outOfRange_of_scalesIf hscales (fun hrescales => ?_) (hbounded.bindings t ht b hb)
    obtain ⟨p, hp, hspans, -⟩ := definition?_of_rescales hdeclares hrescales
    unfold Script.boundTypeOf
    rw [hp]
    exact hspans.measured

/-! ## Values at their defaults -/

/-- A number that equals the default of its parameter is scaled just if the default is. -/
theorem atDefault (h : d.Varies index d') (hdeclares : Quality.Parameters.DeclaresWell d)
    {name : Text} {v w : Json}
    (hscales : v.ScalesIf (d.Rescales name) (variationFactor index) w) (hnumber : v.IsNumber)
    (hv : d.AtDefault name v) : d'.AtDefault name w := by
  obtain ⟨p, hp, rfl, hsame⟩ := hv
  obtain ⟨q, hq, hqp, hdefault⟩ := exists_of_forall₂ h.parameters.flip p hp
  have hname : q.name = p.name := by rw [hqp]
  refine ⟨q, hq, hname, ?_⟩
  generalize q.default = default at hdefault ⊢
  cases hdefault with
  | scaled hspans hpq =>
    have hrescales : d.Rescales p.name := ⟨p, hp, hspans, hpq.isNumber, rfl⟩
    cases hscales with
    | kept hnone => exact absurd ⟨hrescales, hnumber⟩ hnone
    | scaled _ hvw =>
      obtain ⟨hpos, hfin⟩ := variationFactor_pos index
      exact Json.same_of_scales hpos hfin hvw hpq hsame
  | kept hnone =>
    cases hscales with
    | kept => exact hsame
    | scaled hrescales _ =>
      -- the parameter that is scaled is this one, since no other has its name
      obtain ⟨p', hp', hspans, hdefault⟩ := definition?_of_rescales hdeclares hrescales
      rw [definition?_of_mem (Quality.Parameters.clean_checkEach_iff.mp hdeclares.2).1 hp] at hp'
      cases hp'
      exact absurd ⟨hspans, hdefault⟩ hnone

end Varies

/-! ## Ready designs -/

section Ready

variable {g : Quality.Gateway} {d : Design} {index : Int}

/-- **Variations of ready designs.** A design that passes the standard passes, of which a script can
be written and the numbers fit, has a variation at each index of which the place can be written. It
is scaled in plan and nothing else but its name is changed; the critical passes find no issue in it,
and a script of it can be written; and a number that a family type binds to the default of its
parameter is bound to the default still. -/
theorem variation_ready (hpasses : g.passes = standardPasses) {code : Option Text}
    (hready : areReady (g.verdicts d code) = true) {rules : List Script.Rule} {now : Instant}
    {e : Script.Emission} (hemit : Script.emit rules d now = .ok e) (hfits : d.FitsReals)
    (hplace : (index + 1).natAbs < 10 ^ Numeric.longestInteger) :
    ∃ d', d.variation index = .ok d' ∧ d.Varies index d' ∧
      (∀ p ∈ [Quality.Pass.geometry, Quality.Pass.parameters, Quality.Pass.metadata],
        ∀ deductions code', (p.run deductions d' code').issues = []) ∧
      (∀ rules' now', ∃ e', Script.emit rules' d' now' = .ok e') ∧
      List.Forall₂ (fun t u => List.Forall₂ (fun b c =>
        b.2.IsNumber → d.AtDefault b.1 b.2 → d'.AtDefault c.1 c.2) t.bindings u.bindings)
        d.types d'.types := by
  obtain ⟨d', hvariation⟩ := exists_variation hfits hplace
  have hvaries := varies_of_variation hplace hvariation
  obtain ⟨hgeometry, hparameters, hidentity⟩ :=
    (Quality.ready_standardPasses_iff hpasses d code).mp hready
  have hdeclares := (Quality.Parameters.clean_check_iff.mp hparameters).1
  have hbounded : Script.Bounded d := by
    obtain ⟨d₀, hgate, hbounded⟩ := ((Script.emit_refuses rules now).1 d).written.mp ⟨e, hemit⟩
    cases eq_of_checkEmittable hgate
    exact hbounded
  have hgeometry' : ∀ code', (Quality.Geometry.check d' code').Clean := fun code' => by
    rw [hvaries.geometry_check]
    exact hgeometry
  have hparameters' : ∀ code', (Quality.Parameters.check d' code').Clean := fun code' =>
    hvaries.clean_parameters hparameters
  have hidentity' : ∀ code', (Quality.Identity.check d' code').Clean := fun code' => by
    rw [hvaries.identity_check (Quality.isEmpty_familyName_of_clean hidentity)]
    exact hidentity
  -- The emission gate asks for no more than the critical passes do.
  have hgate : checkEmittable d' = .ok d' := Quality.checkEmittable_of_ready hpasses
    ((Quality.ready_standardPasses_iff hpasses d' none).mpr
      ⟨hgeometry' none, hparameters' none, hidentity' none⟩)
  refine ⟨d', hvariation, hvaries, ?_, fun rules' now' => ?_, ?_⟩
  · rw [List.forall_mem_cons, List.forall_mem_cons, List.forall_mem_singleton]
    exact ⟨fun _ code' => Quality.issues_of_clean (hgeometry' code'),
      fun _ code' => Quality.issues_of_clean (hparameters' code'),
      fun _ code' => Quality.issues_of_clean (hidentity' code')⟩
  · exact ((Script.emit_refuses rules' now').1 d').written.mpr
      ⟨d', hgate, hvaries.bounded hdeclares hbounded⟩
  · refine hvaries.types.imp fun t u htypes => htypes.2.imp fun b c hbinding hnumber hdefault => ?_
    obtain ⟨hname, hscales⟩ := hbinding
    rw [hname]
    exact hvaries.atDefault hdeclares hscales hnumber hdefault

end Ready

/-- A door with a width that its type binds. -/
def plainDoor : Design where
  metadata := some { familyName := "Door", category := "Doors", lod := some 300 }
  geometry := some {
    extrusions := [{
      name := "Panel"
      profile := [{ x := 0, y := 0 }, { x := 3, y := 0 }, { x := 3, y := 7 }]
      stop := { x := 3, y := 7, z := 1 } }] }
  parameterSet := some {
    family := [{ name := "Width", default := .int 3 }, { name := "SillHeight", default := .real 3 }]
    types := [{ name := "Standard", bindings := [("Width", .real 3), ("SillHeight", .real 3)] }] }

theorem ready_plainDoor : areReady (({} : Quality.Gateway).verdicts plainDoor none) = true := by
  decide +kernel

/-- A script of the plain door is written. -/
theorem emit_plainDoor : ∃ e, Script.emit Script.Rule.standard plainDoor ⟨0⟩ = .ok e := by
  have hdefaults : ∀ p ∈ plainDoor.parameters, p.type = "Length" := by decide +kernel
  have hbindings : ∀ t ∈ plainDoor.types, ∀ b ∈ t.bindings,
      Script.boundTypeOf plainDoor b.1 = "Length" := by decide +kernel
  refine ((Script.emit_refuses _ _).1 plainDoor).written.mpr
    ⟨plainDoor, Quality.checkEmittable_of_ready rfl ready_plainDoor, ⟨?_, ?_⟩⟩
  · intro p hp
    rw [hdefaults p hp]
    exact Varies.not_outOfRange_length _
  · intro t ht b hb
    rw [hbindings t ht b hb]
    exact Varies.not_outOfRange_length _

theorem fitsReals_plainDoor : plainDoor.FitsReals where
  defaults := by
    rintro p (_ | ⟨_, _ | ⟨_, ⟨⟩⟩⟩) n hn
    · cases hn
      decide +kernel
    · cases hn
  bindings := by
    rintro t (_ | ⟨_, ⟨⟩⟩) b (_ | ⟨_, _ | ⟨_, ⟨⟩⟩⟩) n hn
    · cases hn
    · cases hn

/-- The second variation of the door: an integer default and a real binding of the same value are
scaled to the same value. -/
theorem variation_ready_plainDoor :
    ∃ d', plainDoor.variation 1 = .ok d' ∧ plainDoor.Varies 1 d' ∧
      List.Forall₂ (fun t u => List.Forall₂ (fun b c =>
        b.2.IsNumber → plainDoor.AtDefault b.1 b.2 → d'.AtDefault c.1 c.2) t.bindings u.bindings)
        plainDoor.types d'.types := by
  have hplace : ((1 : Int) + 1).natAbs < 10 ^ Numeric.longestInteger :=
    Nat.lt_of_lt_of_le (by decide : 2 < 10) (Nat.le_self_pow (by decide) 10)
  obtain ⟨e, hemit⟩ := emit_plainDoor
  obtain ⟨d', hvariation, hvaries, -, -, hdefaults⟩ :=
    variation_ready rfl ready_plainDoor hemit fitsReals_plainDoor hplace
  exact ⟨d', hvariation, hvaries, hdefaults⟩

/-- At an index with a place of one digit too many the door has no variation. -/
theorem variation_eq_error_plainDoor :
    areReady (({} : Quality.Gateway).verdicts plainDoor none) = true ∧
      (∃ e, Script.emit Script.Rule.standard plainDoor ⟨0⟩ = .ok e) ∧ plainDoor.FitsReals ∧
      plainDoor.variation (10 ^ Numeric.longestInteger - 1) = .error .integerTooLong := by
  have hplace : ∀ n : Nat, 10 ^ n ≤ ((10 : Int) ^ n - 1 + 1).natAbs := by
    intro n
    rw [Int.sub_add_cancel, Int.natAbs_pow]
    exact Nat.le_refl _
  exact ⟨ready_plainDoor, emit_plainDoor, fitsReals_plainDoor, variation_eq_error rfl (hplace _)⟩

end Design

end FamilyDesign
