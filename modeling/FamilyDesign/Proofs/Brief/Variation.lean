import FamilyDesign.Proofs.Brief.Assembly
import FamilyDesign.Proofs.Design.Scaling

/-!
# Variations of assembled designs

A variation scales an assembled design in plan by a positive factor. Heights of extrusions are not
in plan and lengths stay defined, so the variation is assembled again, as soundly as before.

* **`Assembly.variation_design`** — a variation of an assembled design is one.
-/

namespace FamilyDesign

open Numeric (Binary64)

/-- Scaling moves corners in the plan, so it leaves their number and the height. -/
theorem Extrusion.Sound.scale {e : Extrusion} (h : e.Sound) (factor : Binary64) :
    (e.scale factor).Sound where
  corners := by
    show 3 ≤ (e.profile.map (·.scale factor)).length
    rw [List.length_map]
    exact h.corners
  height_pos := h.height_pos
  untyped := by
    have huntyped : (e.scale factor).untyped = e.untyped := by
      unfold Extrusion.untyped
      rw [show (e.scale factor).profile = e.profile.map (·.scale factor) from rfl,
        List.flatMap_map]
      rfl
    rw [huntyped]
    exact h.untyped

/-- An integer with no more digits than one may have can be written. -/
theorem Json.exists_textOfInt {n : Nat} (h : n < 10 ^ Numeric.longestInteger) :
    ∃ place, Json.textOfInt (n : Int) = .ok place :=
  ⟨_, textOfInt_of_lt (by rwa [Int.natAbs_natCast])⟩

namespace Brief

/-- A brief with its width and its height scaled. -/
def scaled (b : Brief) (factor : Binary64) : Brief :=
  { b with width := b.width * factor, height := b.height * factor }

/-- The parameters and the type of a brief are scaled to those of the scaled brief. -/
theorem scale_parameterSet (b : Brief) (factor : Binary64) :
    ParameterSet.scale factor { family := b.parameters, types := [boundType b.parameters] }
      = .ok {
        family := (b.scaled factor).parameters
        types := [boundType (b.scaled factor).parameters] } := rfl

/-- Lengths stay defined under a positive factor. -/
theorem defined_scaled {b : Brief} (h : ∀ d, (b.dimension d).isUndefined = false)
    {factor : Binary64} (hpos : 0 < factor) (hfin : factor.isFinite = true) (d : Dimension) :
    ((b.scaled factor).dimension d).isUndefined = false := by
  cases d with
  | width => exact Numeric.Binary64.isUndefined_mul (h .width) hpos hfin
  | height => exact Numeric.Binary64.isUndefined_mul (h .height) hpos hfin
  | sillHeight => exact h .sillHeight
  | inset => exact h .inset

end Brief

namespace Assembly

/-- The assembly of a variation, named for its place. -/
def varied (a : Assembly) (index : Int) (place : Text) : Assembly where
  brief := a.brief
  name := a.name ++ " Variation " ++ place
  extrusions := a.extrusions.map (·.scale (variationFactor index))
  lengths := a.lengths.scaled (variationFactor index)
  named := by
    have hname : a.name.toList.isEmpty = false := a.named
    show ((a.name ++ " Variation " ++ place).toList).isEmpty = false
    rw [Text.toList_append, Text.toList_append]
    cases hlist : a.name.toList with
    | nil =>
      rw [hlist] at hname
      cases hname
    | cons c rest => rfl
  placed := a.placed
  shaped := by
    rw [List.isEmpty_map]
    exact a.shaped
  sound := by
    intro e he
    obtain ⟨e', he', rfl⟩ := List.mem_map.mp he
    exact (a.sound e' he').scale _
  defined := by
    obtain ⟨hpos, hfin⟩ := variationFactor_pos index
    exact Brief.defined_scaled a.defined hpos hfin

/-- A variation of an assembled design is one, if its place can be written. -/
theorem variation_design (a : Assembly) {index : Int} {place : Text}
    (hplace : Json.textOfInt (index + 1) = .ok place) :
    a.design.variation index = .ok (a.varied index place).design := by
  have hmetadata : a.design.metadata.mapM (Design.variationMetadata index)
      = .ok (a.varied index place).design.metadata := by
    show some <$> (Json.textOfInt (index + 1) >>= _) = _
    rw [hplace]
    rfl
  have hparameters : a.design.parameterSet.mapM (·.scale (variationFactor index))
      = .ok (a.varied index place).design.parameterSet := by
    show some <$> ParameterSet.scale (variationFactor index) _ = _
    rw [Brief.scale_parameterSet]
    rfl
  exact bind_eq_ok_iff.mpr ⟨_, hmetadata, bind_eq_ok_iff.mpr ⟨_, hparameters, rfl⟩⟩

/-- A variation of an assembled design is not made, since its place cannot be written, or is
assembled. -/
theorem variation_cases (a : Assembly) (index : Int) :
    (∃ fault, a.design.variation index = .error fault) ∨
      ∃ a' : Assembly, a.design.variation index = .ok a'.design := by
  cases hplace : Json.textOfInt (index + 1) with
  | error fault =>
    refine Or.inl ⟨fault, bind_eq_error_iff.mpr (Or.inl ?_)⟩
    show some <$> (Json.textOfInt (index + 1) >>= _) = _
    rw [hplace]
    rfl
  | ok place => exact Or.inr ⟨a.varied index place, a.variation_design hplace⟩

end Assembly

end FamilyDesign
