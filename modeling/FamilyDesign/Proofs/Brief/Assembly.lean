import FamilyDesign.Brief.Building
import FamilyDesign.Design.Written
import FamilyDesign.Design.Variation
import FamilyDesign.Job.Order
import FamilyDesign.Proofs.Brief.Reading
import FamilyDesign.Proofs.Numeric.Order
import FamilyDesign.Proofs.Quality.Declarations
import FamilyDesign.Proofs.Quality.Readiness
import FamilyDesign.Proofs.Script.Lines
import Mathlib.Data.List.Nodup

/-!
# Designs that are made of briefs

What a brief makes is put together from a few parts, and so is a variation of it. Lengths only have
to be defined for the design to be ready: of what is measured nothing but the glass between the two
faces of a pane has to be positive, and it is, whatever its inset up to a limit.

* **`Brief.Buildable`** — a brief of which every part of a design can be made.
* **`Brief.sound_extrusions`** — the extrusions of such a brief.
* **`Assembly.ready`** — what is assembled of sound parts is ready.
* **`Assembly.exists_sectionTexts`**, **`Assembly.exists_order`**, **`Assembly.written`** — its
  script, its order and its wire form.
-/

namespace FamilyDesign

open Numeric (Binary64)
open Quality (Outcome)

/-! ## Extrusions -/

/-- An extrusion that no check objects to and that keeps no fields of its document. -/
structure Extrusion.Sound (e : Extrusion) : Prop where
  corners : 3 ≤ e.profile.length
  height_pos : 0 < e.height
  untyped : e.untyped = []

namespace Brief

/-- A brief of defined lengths, with an inset within the limit and a category. -/
structure Buildable (b : Brief) : Prop where
  defined : ∀ d, (b.dimension d).isUndefined = false
  inset_le : b.inset ≤ insetLimit
  categorised : b.category.isEmpty = false

/-- A sound brief has one of the categories that there are words for, and none of them is empty. -/
theorem isEmpty_category {b : Brief} (h : b.Sound) : b.category.isEmpty = false := by
  have hall : ∀ category ∈ categories, category.isEmpty = false := by
    decide
  exact hall b.category h.category_mem

theorem Sound.buildable {b : Brief} (h : b.Sound) : b.Buildable where
  defined d := (h.unsigned d).defined
  inset_le := h.inset_le
  categorised := isEmpty_category h

/-- The depth of a body is a positive number, whatever the category. -/
theorem bodyDepth_unsigned (category : Text) :
    (bodyDepth category).Unsigned ∧ 0 < bodyDepth category := by
  have hmillimetres : (304.8 : Binary64).Unsigned :=
    Numeric.Binary64.unsigned_ofScientific 3048 true 1
  unfold bodyDepth
  split
  · exact ⟨(Numeric.Binary64.unsigned_ofNat 50).div hmillimetres (by decide +kernel)
      (by decide +kernel), by decide +kernel⟩
  · exact ⟨(Numeric.Binary64.unsigned_ofNat 100).div hmillimetres (by decide +kernel)
      (by decide +kernel), by decide +kernel⟩

/-- The body is sound whatever its lengths are: it has four corners and the depth of its category.
-/
theorem sound_body (b : Brief) : b.body.Sound where
  corners := by
    show 3 ≤ 4
    omega
  height_pos := by
    obtain ⟨hunsigned, hpos⟩ := bodyDepth_unsigned b.category
    obtain ⟨hdifference, hheight⟩ := hunsigned.sub_pos (Numeric.Binary64.unsigned_ofNat 0) hpos
    show 0 < (bodyDepth b.category - 0).abs
    rw [hdifference.abs_eq]
    exact hheight
  untyped := rfl

/-- Up to the limit for insets the thickness of glass is not lost behind them, so a pane has its
front before its back. -/
theorem front_pane {b : Brief} (hinset : b.inset.Unsigned) (hle : b.inset ≤ insetLimit) :
    b.pane.stop.z.Unsigned ∧ b.inset < b.pane.stop.z := by
  have hlimit : insetLimit.Unsigned := Numeric.Binary64.unsigned_ofNat 1000000
  have hglass : (0.02 : Binary64).Unsigned := Numeric.Binary64.unsigned_ofScientific 2 true 2
  have hfinite : b.inset.isFinite = true :=
    hinset.isFinite_of_le hlimit hle (Numeric.Binary64.isFinite_ofNat (Nat.le_refl _))
  have hthick : b.inset < b.inset + 0.02 :=
    hinset.lt_add hglass hlimit hle (by decide +kernel) (by decide +kernel)
      (by decide +kernel)
  have hdefined : (bodyDepth b.category - b.inset).isUndefined = false :=
    (bodyDepth_unsigned b.category).1.isUndefined_sub hinset hfinite
  exact hinset.lt_larger (hinset.add hglass) hthick hdefined

/-- An inset of no depth keeps within the body. -/
theorem lt_front_of_inset_le_zero {b : Brief} (h : b.inset ≤ 0) : b.inset < b.pane.stop.z := by
  have hbody : b.inset < bodyDepth b.category :=
    Numeric.Binary64.lt_of_le_of_lt h (bodyDepth_unsigned b.category).2
  have hrest : 0 < bodyDepth b.category - b.inset := Numeric.Binary64.sub_pos hbody
  have hdefined : (bodyDepth b.category - b.inset).isUndefined = false :=
    (Numeric.Binary64.unsigned_of_pos hrest).defined
  exact Numeric.Binary64.lt_of_le_of_lt h
    (Numeric.Binary64.lt_of_lt_of_le hrest (Numeric.Binary64.le_larger hdefined _))

/-- The front of a pane lies before its back, however the inset stands to zero. -/
theorem inset_lt_front {b : Brief} (h : b.Buildable) : b.inset < b.pane.stop.z := by
  by_cases hpos : 0 < b.inset
  · exact (front_pane (Numeric.Binary64.unsigned_of_pos hpos) h.inset_le).2
  · exact lt_front_of_inset_le_zero
      (Numeric.Binary64.le_of_not_lt (h.defined .inset) rfl hpos)

/-- The pane is sound as long as its inset is defined and within the limit. -/
theorem sound_pane {b : Brief} (h : b.Buildable) : b.pane.Sound where
  corners := by
    show 3 ≤ 4
    omega
  height_pos := by
    have hheight : 0 < b.pane.stop.z - b.inset := Numeric.Binary64.sub_pos (inset_lt_front h)
    show 0 < (b.pane.stop.z - b.inset).abs
    rw [(Numeric.Binary64.unsigned_of_pos hheight).abs_eq]
    exact hheight
  untyped := rfl

theorem sound_extrusions {b : Brief} (h : b.Buildable) : ∀ e ∈ b.extrusions, e.Sound := by
  unfold extrusions
  split
  · rw [List.forall_mem_cons, List.forall_mem_singleton]
    exact ⟨sound_body b, sound_pane h⟩
  · rw [List.forall_mem_singleton]
    exact sound_body b

end Brief

/-! ## Assemblies -/

/-- Whether a type is one of those that take every number. -/
def ValueType.measures (typeName : Text) : Bool :=
  ofName? typeName == some length || ofName? typeName == some number

/-- Under a type that measures every defined number fits. -/
theorem valueProblem?_of_measures {typeName : Text} (htype : ValueType.measures typeName = true)
    {x : Binary64} (hx : x.isUndefined = false) : valueProblem? (.real x) typeName = .ok none := by
  have hreal : ValueType.definedReal? (.real x) = .ok (some x) := by
    show Except.ok (Option.filter (fun x => !x.isUndefined) (some x)) = _
    rw [Option.filter_some, hx]
    rfl
  unfold ValueType.measures at htype
  rw [Bool.or_eq_true, beq_iff_eq, beq_iff_eq] at htype
  unfold valueProblem?
  rcases htype with htype | htype
  · rw [htype]
    show ((ValueType.definedReal? (.real x)).map _).map _ = _
    rw [hreal]
    rfl
  · rw [htype]
    show ((ValueType.definedReal? (.real x)).map _).map _ = _
    rw [hreal]
    rfl

/-- What a design is assembled from that a brief has made, or a variation of it: the brief, a name,
sound extrusions, and a brief of the lengths, which are defined. -/
structure Assembly where
  brief : Brief
  name : Text
  extrusions : List Extrusion
  lengths : Brief
  named : name.isEmpty = false
  placed : brief.category.isEmpty = false
  shaped : extrusions.isEmpty = false
  sound : ∀ e ∈ extrusions, e.Sound
  defined : ∀ d, (lengths.dimension d).isUndefined = false

namespace Assembly

/-- The design. -/
def design (a : Assembly) : Design :=
  { a.brief.toDesign with
    metadata := some { a.brief.metadata with familyName := a.name }
    geometry := some { extrusions := a.extrusions }
    parameterSet := some {
      family := a.lengths.parameters
      types := [Brief.boundType a.lengths.parameters] } }

variable (a : Assembly)

/-! ### The critical passes -/

/-- A sound extrusion has enough corners and a height; the check of its material only warns. -/
theorem clean_checkExtrusion {e : Extrusion} (h : e.Sound) (index : Nat) :
    (Quality.Geometry.checkExtrusion index e).Clean := by
  have hcorners : decide (e.profile.length < 3) = false :=
    decide_eq_false (Nat.not_lt.mpr h.corners)
  have hheight : decide (e.height ≤ 0) = false :=
    decide_eq_false (Numeric.Binary64.not_le_of_lt h.height_pos)
  refine Outcome.clean_all_iff.mpr ?_
  rw [List.forall_mem_cons, List.forall_mem_cons, List.forall_mem_singleton]
  refine ⟨?_, ?_, ?_⟩
  · exact Outcome.clean_onlyIf_issue_iff.mpr hcorners
  · exact Outcome.clean_onlyIf_issue_iff.mpr hheight
  · exact Outcome.clean_onlyIf_warning _ _ _

/-- The geometry check finds no issue in an assembly. -/
theorem clean_geometry (code : Option Text) : (Quality.Geometry.check a.design code).Clean := by
  have hextrusions : a.design.extrusions = a.extrusions := rfl
  have hplanes : a.design.referencePlanes = [] := rfl
  have hconstraints : a.design.constraints = [] := rfl
  -- there are neither planes nor constraints to check
  unfold Quality.Geometry.check
  rw [hextrusions, hplanes, hconstraints]
  refine Outcome.clean_append_iff.mpr ⟨Outcome.clean_append_iff.mpr
    ⟨Outcome.clean_append_iff.mpr ⟨Outcome.clean_append_iff.mpr ⟨?_, ?_⟩, ?_⟩, ?_⟩, ?_⟩
  · exact Outcome.clean_onlyIf_issue_iff.mpr a.shaped
  · refine Outcome.clean_all_iff.mpr ?_
    intro o ho
    obtain ⟨index, hindex, rfl⟩ := List.mem_mapIdx.mp ho
    exact clean_checkExtrusion (a.sound _ (List.getElem_mem hindex)) index
  · exact Outcome.clean_clear
  · exact Outcome.clean_clear
  · -- the level of detail is only warned of
    show (Quality.Geometry.checkDetail (some 200) _).Clean
    unfold Quality.Geometry.checkDetail
    dsimp only
    split
    · exact Outcome.clean_warning _ _
    · exact Outcome.clean_clear

/-- The identity check finds no issue in an assembly: it has a name, a category and a level of
detail within the range. -/
theorem clean_identity (code : Option Text) : (Quality.Identity.check a.design code).Clean := by
  have hname : a.design.familyName = a.name := rfl
  have hcategory : a.design.category = a.brief.category := rfl
  have hlod : a.design.lod = some 200 := rfl
  unfold Quality.Identity.check
  rw [hname, hcategory, hlod, a.named, a.placed]
  refine Outcome.clean_all_iff.mpr ?_
  rw [List.forall_mem_cons, List.forall_mem_cons, List.forall_mem_cons, List.forall_mem_cons,
    List.forall_mem_cons, List.forall_mem_singleton]
  refine ⟨?_, ?_, ?_, ?_, ?_, ?_⟩
  · exact Outcome.clean_onlyIf_issue_iff.mpr rfl
  · exact Outcome.clean_onlyIf_issue_iff.mpr rfl
  · exact Outcome.clean_onlyIf_issue_iff.mpr rfl
  · exact Outcome.clean_onlyIf_issue_iff.mpr rfl
  · exact Outcome.clean_onlyIf_warning _ _ _
  · exact Outcome.clean_onlyIf_warning _ _ _

/-! ### Parameters -/

/-- A parameter of a brief is a length, which is defined, or a material. -/
theorem parameter_cases {p : Parameter} (h : p ∈ a.lengths.parameters) :
    (∃ name x, p = Brief.lengthParameter name x ∧ x.isUndefined = false) ∨
      ∃ name material, p = Brief.materialParameter name material := by
  unfold Brief.parameters at h
  simp only [List.mem_cons, List.not_mem_nil, or_false] at h
  rcases h with rfl | rfl | rfl | rfl | rfl | rfl
  · exact Or.inl ⟨_, _, rfl, a.defined .width⟩
  · exact Or.inl ⟨_, _, rfl, a.defined .height⟩
  · exact Or.inl ⟨_, _, rfl, a.defined .sillHeight⟩
  · exact Or.inl ⟨_, _, rfl, a.defined .inset⟩
  · exact Or.inr ⟨_, _, rfl⟩
  · exact Or.inr ⟨_, _, rfl⟩

theorem names_parameters : a.design.parameters.map (·.name)
    = ["Width", "Height", "SillHeight", "Inset", "GlassPaneMaterial", "SashMaterial"] := rfl

/-- The names of the parameters differ, so each is found under its own. -/
theorem definition?_of_mem {p : Parameter} (h : p ∈ a.lengths.parameters) :
    a.design.definition? p.name = some p :=
  Design.definition?_of_mem (by rw [names_parameters]; decide) h

/-- The names and types of the parameters are the same for every brief, and pass. -/
theorem clean_checkEach : (Quality.Parameters.checkEach (a.design.parameters.map (·.name)) []
    a.design.parameters).Clean := by
  have hnone : Quality.Parameters.checkEach (a.design.parameters.map (·.name)) []
      a.design.parameters = Outcome.clear := by
    rw [names_parameters]
    rfl
  rw [hnone]
  exact Outcome.clean_clear

/-- The default of each parameter fits its type. -/
theorem valueProblem?_default {p : Parameter} (h : p ∈ a.lengths.parameters) :
    valueProblem? p.default p.type = .ok none := by
  rcases a.parameter_cases h with ⟨name, x, rfl, hx⟩ | ⟨name, material, rfl⟩
  · have hlength : ValueType.measures "Length" = true := by decide
    exact valueProblem?_of_measures hlength hx
  · have htype : ValueType.ofName? "Material" = some .material := by decide
    show valueProblem? (.text material) "Material" = _
    unfold valueProblem?
    rw [htype]
    rfl

/-- The one family type passes: it has a name, and binds each parameter to its own default, which
fits. -/
theorem clean_checkFamilyType (index : Nat) :
    (Quality.Parameters.checkFamilyType a.design index
      (Brief.boundType a.lengths.parameters)).Clean := by
  unfold Quality.Parameters.checkFamilyType
  refine Outcome.clean_append_iff.mpr ⟨?_, ?_⟩
  · have hnamed : Text.isAllBlank "Type 1" = false := by decide
    exact Outcome.clean_onlyIf_issue_iff.mpr hnamed
  · refine Outcome.clean_all_iff.mpr ?_
    intro o ho
    obtain ⟨binding, hbinding, rfl⟩ := List.mem_map.mp ho
    obtain ⟨p, hp, rfl⟩ := List.mem_map.mp hbinding
    show (Quality.Parameters.checkBinding a.design _ p.name p.default).Clean
    unfold Quality.Parameters.checkBinding
    rw [a.definition?_of_mem hp]
    dsimp only
    rw [a.valueProblem?_default hp]
    exact Outcome.clean_clear

/-- The parameter check finds no issue in an assembly. -/
theorem clean_parameters (code : Option Text) : (Quality.Parameters.check a.design code).Clean := by
  have htypes : a.design.types = [Brief.boundType a.lengths.parameters] := rfl
  unfold Quality.Parameters.check
  dsimp only
  refine Outcome.clean_append_iff.mpr ⟨Outcome.clean_append_iff.mpr
    ⟨Outcome.clean_append_iff.mpr ⟨?_, a.clean_checkEach⟩, ?_⟩, ?_⟩
  · exact Outcome.clean_onlyIf_issue_iff.mpr rfl
  · exact Quality.Parameters.clean_checkEssentials _ _
  · rw [htypes, Outcome.clean_all_iff, List.mapIdx_cons, List.mapIdx_nil,
      List.forall_mem_singleton]
    exact a.clean_checkFamilyType 0

/-- **An assembled design is ready**, with the standard passes. -/
theorem ready {g : Quality.Gateway} (hpasses : g.passes = Quality.standardPasses) :
    Quality.areReady (g.verdicts a.design none) = true :=
  (Quality.ready_standardPasses_iff hpasses a.design none).mpr
    ⟨a.clean_geometry none, a.clean_parameters none, a.clean_identity none⟩

/-! ### The script, the order and the wire form -/

/-- No parameter is an integer, which alone could be out of range. -/
theorem not_outOfRange {p : Parameter} (h : p ∈ a.lengths.parameters) :
    ¬Script.OutOfRange p.default p.type := by
  rcases a.parameter_cases h with ⟨name, x, rfl, -⟩ | ⟨name, material, rfl⟩
  · have htype : ValueType.ofName? "Length" = some .length := by decide
    rintro ⟨hinteger, -⟩
    rw [show (Brief.lengthParameter name x).type = "Length" from rfl, htype] at hinteger
    cases hinteger
  · exact Script.Section.material_inRange _

/-- No value of an assembly is out of range for the section that writes it. -/
theorem inRange (s : Script.Section) : s.InRange a.design := by
  cases s with
  | parameters =>
    intro value hvalue
    obtain ⟨p, hp, rfl⟩ := List.mem_map.mp hvalue
    exact a.not_outOfRange hp
  | familyTypes =>
    intro value hvalue
    obtain ⟨t, ht, hbinding⟩ := List.mem_flatMap.mp hvalue
    cases List.mem_singleton.mp ht
    obtain ⟨b, hb, rfl⟩ := List.mem_map.mp hbinding
    obtain ⟨p, hp, rfl⟩ := List.mem_map.mp hb
    -- the type of a binding is that of the parameter with its name
    show ¬Script.OutOfRange p.default (Script.boundTypeOf a.design p.name)
    unfold Script.boundTypeOf
    rw [a.definition?_of_mem hp]
    exact a.not_outOfRange hp
  | imports => nofun
  | familySetup => nofun
  | referencePlanes => nofun
  | geometry => nofun
  | constraints => nofun
  | materials => nofun
  | visibility => nofun
  | validation => nofun

/-- All sections of an assembly's script can be written. -/
theorem exists_sectionTexts : ∃ sections, Script.sectionTexts a.design = .ok sections := by
  unfold Script.sectionTexts
  rw [exists_mapM_ok_iff]
  intro s _
  obtain ⟨text, htext⟩ := (Script.Section.exists_text_iff rfl s).mpr (a.inRange s)
  exact ⟨_, bind_eq_ok_iff.mpr ⟨text, htext, rfl⟩⟩

/-- Any length of an assembly can be looked up for an order, whatever stands in for a missing one.
-/
theorem exists_lengthOf (fragment : Text) (otherwise : Binary64) :
    ∃ x, Job.lengthOf a.design fragment otherwise = .ok x := by
  unfold Job.lengthOf
  cases hfound : a.design.findParameter? fragment with
  | none => exact ⟨otherwise, rfl⟩
  | some p =>
    have hp : p ∈ a.lengths.parameters := List.mem_of_find?_eq_some hfound
    rcases a.parameter_cases hp with ⟨name, x, rfl, -⟩ | ⟨name, material, rfl⟩
    · exact ⟨x, rfl⟩
    · dsimp only
      rw [show (Brief.materialParameter name material).default = .text material from rfl]
      unfold Json.toReal
      dsimp only
      cases Numeric.freeReal? material with
      | none => exact ⟨otherwise, rfl⟩
      | some x => exact ⟨x, rfl⟩

/-- There is an order for the design of an assembly. -/
theorem exists_order : ∃ order, Job.Order.ofDesign a.design = .ok order := by
  obtain ⟨width, hwidth⟩ := a.exists_lengthOf "width" 2
  obtain ⟨height, hheight⟩ := a.exists_lengthOf "height" 4
  obtain ⟨inset, hinset⟩ := a.exists_lengthOf "inset" 0.05
  obtain ⟨sill, hsill⟩ := a.exists_lengthOf "sill" 3
  exact ⟨_, bind_eq_ok_iff.mpr ⟨width, hwidth, bind_eq_ok_iff.mpr ⟨height, hheight,
    bind_eq_ok_iff.mpr ⟨inset, hinset, bind_eq_ok_iff.mpr ⟨sill, hsill, rfl⟩⟩⟩⟩⟩

/-- The untyped values of an assembly are the defaults, each of them bound once more by the family
type. -/
theorem untyped_eq : a.design.untyped
    = a.lengths.parameters.map (·.default) ++ a.lengths.parameters.map (·.default) := by
  have hextrusions : a.extrusions.flatMap (·.untyped) = [] :=
    List.flatMap_eq_nil_iff.mpr fun e he => (a.sound e he).untyped
  unfold Design.untyped
  rw [show a.design.geometry.toList.flatMap (·.untyped)
    = a.extrusions.flatMap (·.untyped) ++ [] ++ [] ++ [] ++ [] ++ [] ++ [] ++ [] from rfl,
    hextrusions]
  rfl

/-- The values of no declared kind are numbers and texts. -/
theorem written : a.design.written = .ok a.design.wire := by
  rw [Design.written_eq_ok_iff, a.untyped_eq]
  intro v hv
  obtain ⟨p, hp, rfl⟩ : ∃ p ∈ a.lengths.parameters, p.default = v := by
    rcases List.mem_append.mp hv with hv | hv
    · exact List.mem_map.mp hv
    · exact List.mem_map.mp hv
  rcases a.parameter_cases hp with ⟨name, x, rfl, -⟩ | ⟨name, material, rfl⟩
  · rfl
  · rfl

end Assembly

namespace Brief

/-- The assembly of the design that a brief makes. -/
def Buildable.assembly {b : Brief} (h : b.Buildable) : Assembly where
  brief := b
  name := "Generated " ++ b.familyLabel
  extrusions := b.extrusions
  lengths := b
  named := rfl
  placed := h.categorised
  shaped := by
    unfold extrusions
    split
    · rfl
    · rfl
  sound := sound_extrusions h
  defined := h.defined

end Brief

end FamilyDesign
