import FamilyDesign.Proofs.Brief.Assembly
import FamilyDesign.Proofs.Brief.Patching

/-!
# Values that fit

A refined design keeps its names, its types and all that is not a value, so of the critical passes
only one can change its mind: the values that family types bind are held against what their
parameters declare. A parameter is chosen to carry a dimension by its name and its default, and its
declared type may be another than that of a length.

* **`Design.ready_patched_iff`** — a ready design is ready after a patch just if the new values fit
  where they are bound.
* **`Reading.fits_newValues_iff`** — just the dimensions have to fit, and no material.
* **`Reading.fits_of_measures`** — they do wherever parameters that carry dimensions measure.
-/

namespace FamilyDesign

open Quality (Outcome)

namespace Design

/-- Whether a family type binds a name. -/
def Binds (d : Design) (name : Text) : Prop := ∃ t ∈ d.types, ∃ b ∈ t.bindings, b.1 = name

/-- Whether new values fit wherever they are bound. -/
def FitsAll (d : Design) (values : Fields) : Prop :=
  ∀ name v, values.lookup name = some v → d.Binds name → d.Fits name v

end Design

/-! ## Patched designs -/

namespace Design

/-- New values are no matter for what is declared. -/
theorem declaresAlike_patched (d : Design) (values : Fields) (slots : List MaterialSlot) :
    d.DeclaresAlike (d.patched values slots) := by
  unfold DeclaresAlike
  rw [parameters_patched, List.map_map]
  refine List.map_congr_left fun p _ => ?_
  show p.declaration = (p.update values).declaration
  unfold Parameter.update
  split <;> rfl

/-- A design with names of parameters that differ has each under its name. -/
theorem definition?_of_declaresWell {d : Design} (h : Quality.Parameters.DeclaresWell d)
    {p : Parameter} (hp : p ∈ d.parameters) : d.definition? p.name = some p :=
  definition?_of_mem (Quality.Parameters.clean_checkEach_iff.mp h.2).1 hp

/-- **A patched design passes the parameters pass just if all that is written fits.** The design
passed before. -/
theorem clean_parameters_patched_iff {d : Design} {values : Fields} {slots : List MaterialSlot}
    {code : Option Text} (h : (Quality.Parameters.check d code).Clean) :
    (Quality.Parameters.check (d.patched values slots) code).Clean ↔ d.FitsAll values := by
  obtain ⟨hdeclares, htypes⟩ := Quality.Parameters.clean_check_iff.mp h
  have halike := d.declaresAlike_patched values slots
  rw [Quality.Parameters.clean_check_iff, ← Quality.Parameters.declaresWell_iff_of_alike halike,
    types_patched, List.forall_mem_map]
  constructor
  · rintro ⟨-, hfits⟩ name v hlookup ⟨t, ht, b, hb, rfl⟩
    have hbound := (hfits t ht).2 (b.1, (values.lookup b.1).getD b.2)
      (List.mem_map.mpr ⟨b, hb, rfl⟩)
    rw [hlookup] at hbound
    exact halike.fits_iff.mpr hbound
  · intro hfits
    refine ⟨hdeclares, fun t ht => ⟨(htypes t ht).1, ?_⟩⟩
    intro b' hb'
    obtain ⟨b, hb, rfl⟩ := List.mem_map.mp hb'
    refine halike.fits_iff.mp ?_
    dsimp only
    -- What is not written over fitted before.
    cases hlookup : values.lookup b.1 with
    | none => exact (htypes t ht).2 b hb
    | some v => exact hfits b.1 v hlookup ⟨t, ht, b, hb, rfl⟩

/-- **A ready design is ready after a patch just if the new values fit**, with the standard
passes. -/
theorem ready_patched_iff {g : Quality.Gateway} (hpasses : g.passes = Quality.standardPasses)
    {d : Design} (hready : Quality.areReady (g.verdicts d none) = true) (values : Fields)
    (slots : List MaterialSlot) :
    Quality.areReady (g.verdicts (d.patched values slots) none) = true ↔ d.FitsAll values := by
  obtain ⟨hgeometry, hparameters, hidentity⟩ :=
    (Quality.ready_standardPasses_iff hpasses d none).mp hready
  have hkept : (Quality.Geometry.check (d.patched values slots) none).Clean ∧
      (Quality.Identity.check (d.patched values slots) none).Clean := ⟨hgeometry, hidentity⟩
  rw [Quality.ready_standardPasses_iff hpasses, clean_parameters_patched_iff hparameters]
  exact ⟨fun h => h.2.1, fun h => ⟨hkept.1, h, hkept.2⟩⟩

end Design

/-! ## The values of a reading -/

namespace Reading

/-- Whether each dimension that is written fits, where it is bound. -/
def Fits (r : Reading) (d : Design) (base : Brief) : Prop :=
  ∀ dim p, r.Decides d base dim p → d.Binds p.name →
    valueProblem? (.real (r.brief.dimension dim)) p.type = .ok none

/-- **Just the dimensions have to fit**: a material is written for parameters of that type only. -/
theorem fits_newValues_iff {r : Reading} {d : Design} {base : Brief}
    (hdeclares : Quality.Parameters.DeclaresWell d) (hreadable : d.Readable) :
    d.FitsAll (r.newValues d base) ↔ r.Fits d base := by
  constructor
  · intro hfits dim p hdecides hbinds
    have hdefinition : d.definition? p.name = some p :=
      Design.definition?_of_declaresWell hdeclares (mem_of_firstPassing? hdecides.carries)
    exact hfits p.name _ (lookup_newValues_dimension hreadable hdecides) hbinds p hdefinition
  · intro hfits name v hlookup hbinds
    rcases lookup_newValues_cases hreadable hlookup with
      ⟨dim, p, hdecides, rfl, rfl⟩ | ⟨c, -, q, hq, hcovers, rfl, rfl⟩
    · have hdefinition : d.definition? p.name = some p :=
        Design.definition?_of_declaresWell hdeclares (mem_of_firstPassing? hdecides.carries)
      exact (Design.fits_iff_of_definition? hdefinition).mpr (hfits dim p hdecides hbinds)
    · refine (Design.fits_iff_of_definition?
        (Design.definition?_of_declaresWell hdeclares hq)).mpr ?_
      -- A parameter of type Material takes any value.
      have htype : q.type = "Material" := by
        unfold MaterialChange.coversParameter at hcovers
        rw [Bool.and_eq_true] at hcovers
        exact eq_of_beq hcovers.1
      have hofName : ValueType.ofName? "Material" = some .material := by decide
      unfold valueProblem?
      rw [htype, hofName]
      rfl

/-- A dimension that was matched has a defined value. Induction on the dimensions that are left, for
all that were matched before. -/
theorem defined_of_matched (text : Text) {r : Reading}
    (h : ∀ m ∈ r.matched, (r.brief.dimension m.1).isUndefined = false) :
    ∀ m ∈ (dimensions (Prompt.bindings text) r).matched,
      ((dimensions (Prompt.bindings text) r).brief.dimension m.1).isUndefined = false := by
  unfold dimensions
  generalize Dimension.all = all
  induction all generalizing r with
  | nil => exact h
  | cons d rest ih =>
    rw [List.foldl_cons]
    refine ih ?_
    split
    · -- The dimension just bound has a length read off the prompt, which is defined.
      next b hb =>
      have hfeet : (lengthOf b.quantity).1.isUndefined = false := (unsigned_lengthOf hb).defined
      intro m hm
      show ((r.brief.withDimension d (lengthOf b.quantity).1).dimension m.1).isUndefined = false
      rw [Brief.dimension_withDimension]
      split
      · exact hfeet
      · next hne =>
        rcases List.mem_append.mp hm with hold | hnew
        · exact h m hold
        · exact absurd (congrArg Prod.fst (List.mem_singleton.mp hnew)) hne
    · exact h

/-- **Where the parameters that carry dimensions measure**, every text fits. -/
theorem fits_of_measures {d : Design} {base : Brief} (text : Text)
    (h : ∀ dim p, d.dimensionParameter? dim = .ok (some p) → d.Binds p.name →
      ValueType.measures p.type = true) : (ofText text (some base)).Fits d base := by
  intro dim p hdecides hbinds
  refine valueProblem?_of_measures (h dim p hdecides.carries hbinds) ?_
  obtain ⟨before, label, after, hmatched, -⟩ := hdecides.last
  have hmem : (dim, label) ∈ (ofText text (some base)).matched := by
    rw [hmatched]
    exact List.mem_append_right _ List.mem_cons_self
  have hdefined := defined_of_matched text (r := { brief := base })
    (List.forall_mem_nil _) (dim, label) hmem
  cases dim with
  | width => exact hdefined
  | height => exact hdefined
  | sillHeight => exact hdefined
  | inset => exact hdefined

end Reading

end FamilyDesign
