import FamilyDesign.Numeric.Notation
import FamilyDesign.Json.Writer
import FamilyDesign.Quality.Pass

/-!
# The geometry pass

Profiles with enough points, extrusions with a height, plane normals of unit length, constraints
between elements that exist, and as much geometry as the level of detail calls for.
-/

namespace FamilyDesign.Quality.Geometry

open Numeric (Binary64)

/-- The most points of a profile that is not called complex. -/
def maxProfilePoints : Nat := 20

/-- How far the length of a normal may be from one. -/
def normalTolerance : Binary64 := 0.001

/-- A name, or the index where there is none. -/
def labelOf (name : Text) (index : Nat) : Text :=
  if name.isEmpty then "#" ++ Numeric.intText index else name

/-- What is wrong with an extrusion. -/
def checkExtrusion (index : Nat) (e : Extrusion) : Outcome :=
  let label := labelOf e.name index
  let points := e.profile.length
  .all [
    .onlyIf (points < 3) (.issue "geometry.invalid_profile"
      ("Extrusion " ++ label ++ " has invalid profile (minimum 3 points required, got "
        ++ Numeric.intText points ++ ")")),
    .onlyIf (e.height ≤ 0) (.issue "geometry.zero_height"
      ("Extrusion " ++ label ++ " has zero or negative height")),
    .onlyIf (maxProfilePoints < points) (.warning "geometry.complex_profile"
      ("Extrusion " ++ label ++ " has high complexity (" ++ Numeric.intText points
        ++ " points)"))]

/-- The length of a vector. -/
def magnitude (v : Point3) : Binary64 :=
  (v.x * v.x + v.y * v.y + v.z * v.z).sqrt

/-- What is wrong with a reference plane. -/
def checkPlane (p : ReferencePlane) : Outcome :=
  let length := magnitude p.normal
  .onlyIf (normalTolerance < (length - 1).abs) (.issue "geometry.invalid_normal"
    ("Reference plane " ++ p.name ++ " has invalid normal vector (length " ++ length.fixed 4
      ++ ")"))

/-- Whether a reference of a constraint names no element. -/
def isDangling (names : List Text) (reference : Option Text) : Bool :=
  match nonempty? reference with
  | some name => !names.contains name
  | none => true

/-- An absent or a quoted name. -/
def shownReference : Option Text → Text
  | some name => Text.shown name
  | none => "None"

/-- What is wrong with a constraint. -/
def checkConstraint (names : List Text) (index : Nat) (c : Constraint) : Outcome :=
  let missing := [c.first, c.second].filter (isDangling names)
  .onlyIf (!missing.isEmpty) (.issue "geometry.invalid_constraint"
    ("Constraint " ++ Numeric.intText index ++ " references missing elements: "
      ++ Text.joinWith ", " (missing.map shownReference)))

/-- Whether the geometry suits the level of detail. -/
def checkDetail (lod : Option Int) (count : Nat) : Outcome :=
  match lod with
  | none => .clear
  | some lod =>
    let level := Numeric.intText lod
    if lod ≤ 200 ∧ 3 < count then
      .warning "geometry.lod_mismatch"
        s!"LOD {level} family has complex geometry ({count} extrusions); consider simplification"
    else if 400 ≤ lod ∧ count < 2 then
      .warning "geometry.lod_mismatch" s!"LOD {level} family may need more detailed geometry"
    else .clear

/-- The check of the pass. -/
def check (d : Design) (_code : Option Text) : Outcome :=
  .onlyIf d.extrusions.isEmpty (.issue "geometry.no_extrusions" "No extrusions defined in geometry")
    ++ .all (d.extrusions.mapIdx checkExtrusion)
    ++ .all (d.referencePlanes.map checkPlane)
    ++ .all (d.constraints.mapIdx (checkConstraint d.elementNames))
    ++ checkDetail d.lod d.extrusions.length

end FamilyDesign.Quality.Geometry

namespace FamilyDesign.Quality

/-- The geometry pass. -/
def Pass.geometry : Pass where
  name := "geometry"
  description := "Extrusion profiles and heights, plane normals, constraint references."
  critical := true
  check := Geometry.check

end FamilyDesign.Quality
