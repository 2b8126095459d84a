import FamilyDesign.Design.Basic
import FamilyDesign.Json.Number

/-!
# Variations of a design

A design scaled in plan by a factor that the index chooses: profiles and end points, and the length
parameters for width and height with the values bound to them. Sill heights, the vertical extent and
everything else stay.
-/

namespace FamilyDesign

open Numeric (Binary64)

/-- The factors through which the indexes cycle. -/
def variationFactors : List Binary64 := [0.8, 1.2, 0.9, 1.1, 0.75, 1.25]

/-- The factor of an index; indexes below zero count back from the end. -/
def variationFactor (index : Int) : Binary64 :=
  (variationFactors[(index % 6).toNat]?).getD 1

/-- A point of a profile, scaled. -/
def Point2.scale (factor : Binary64) (p : Point2) : Point2 :=
  { p with x := p.x * factor, y := p.y * factor }

/-- A point in space, scaled in plan. -/
def Point3.scale (factor : Binary64) (p : Point3) : Point3 :=
  { p with x := p.x * factor, y := p.y * factor }

/-- An extrusion, scaled in plan. -/
def Extrusion.scale (factor : Binary64) (e : Extrusion) : Extrusion :=
  { e with
    profile := e.profile.map (·.scale factor)
    start := e.start.scale factor
    stop := e.stop.scale factor }

/-- A number, scaled; any other value is none. -/
def Json.scale? (factor : Binary64) (v : Json) : Except NumberFault (Option Json) :=
  match Scalar.ofJson? v with
  | some x => do .ok (some (.real ((← x.toReal) * factor)))
  | none => .ok none

/-- Whether a parameter is a length for a width or a height other than a sill's. -/
def Parameter.isPlanLength (p : Parameter) : Bool :=
  let name := Text.lower p.name
  p.type == "Length" && !Text.contains name "sill"
    && (Text.contains name "width" || Text.contains name "height")

/-- Whether the default of a parameter is scaled. -/
def Parameter.isScaled (p : Parameter) : Bool :=
  p.isPlanLength && (Scalar.ofJson? p.default).isSome

/-- A parameter, its default scaled if it is a plan length. -/
def Parameter.scale (factor : Binary64) (p : Parameter) : Except NumberFault Parameter := do
  if p.isPlanLength then
    match ← p.default.scale? factor with
    | some v => .ok { p with default := v }
    | none => .ok p
  else .ok p

/-- A family type, its numbers scaled under the given names. -/
def FamilyType.scale (factor : Binary64) (names : List Text) (t : FamilyType) :
    Except NumberFault FamilyType := do
  let bindings ← t.bindings.mapM fun (name, v) => do
    if names.contains name then .ok (name, (← v.scale? factor).getD v) else .ok (name, v)
  .ok { t with bindings }

/-- The parameters and types, scaled. -/
def ParameterSet.scale (factor : Binary64) (s : ParameterSet) :
    Except NumberFault ParameterSet := do
  let family ← s.family.mapM (·.scale factor)
  let names := (s.family.filter (·.isScaled)).map (·.name)
  let types ← s.types.mapM (·.scale factor names)
  .ok { s with family, types }

namespace Design

/-- The metadata of a variation, named for its place among its siblings. -/
def variationMetadata (index : Int) (m : Metadata) : Except NumberFault Metadata := do
  let place ← Json.textOfInt (index + 1)
  .ok { m with familyName := m.familyName ++ " Variation " ++ place }

/-- The variation of a design at an index. -/
def variation (d : Design) (index : Int) : Except NumberFault Design := do
  let factor := variationFactor index
  let metadata ← d.metadata.mapM (variationMetadata index)
  let parameterSet ← d.parameterSet.mapM (·.scale factor)
  .ok { d with
    metadata
    geometry := d.geometry.map fun g =>
      { g with extrusions := g.extrusions.map (·.scale factor) }
    parameterSet }

end Design

end FamilyDesign
