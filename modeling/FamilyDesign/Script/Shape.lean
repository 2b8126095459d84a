import FamilyDesign.Script.Literal
import FamilyDesign.Script.Role

/-!
# The geometry of a script

Reference planes, extrusions, constraints and what shows at each level of detail.
-/

namespace FamilyDesign.Script

/-- The lines of one reference plane. -/
def planeLines (p : ReferencePlane) : List Text :=
  ["# Reference plane: " ++ p.name,
    "plane = Plane.CreateByNormalAndOrigin(" ++ point p.normal.x p.normal.y p.normal.z ++ ", "
      ++ point p.origin.x p.origin.y p.origin.z ++ ")",
    "reference_planes[" ++ quote p.name ++ "] = plane",
    ""]

/-- The lines of the reference planes. -/
def referencePlaneLines (d : Design) : List Text :=
  indent (tableHead "Reference planes" "reference_planes" ++ d.referencePlanes.flatMap planeLines)

/-- The sides of a closed profile: each point with the next one, the last with the first. -/
def sides (profile : List Point2) : List (Point2 × Point2) :=
  profile.zip (profile.drop 1 ++ profile.take 1)

/-- The line that draws one side of a profile. -/
def sideLine (word : Text) (side : Point2 × Point2) : Text :=
  word ++ "_curves.Append(Line.CreateBound(" ++ groundPoint side.1.x side.1.y ++ ", "
    ++ groundPoint side.2.x side.2.y ++ "))"

/-- The line that records the material of an extrusion, if it has one. -/
def materialLines (word : Text) (e : Extrusion) : List Text :=
  match nonempty? e.material with
  | some material => [word ++ "_material[" ++ quote e.name ++ "] = " ++ quote material]
  | none => []

/-- The lines of one extrusion. -/
def extrusionLines (role : Role) (e : Extrusion) : List Text :=
  let word := role.word
  ["# Extrusion: " ++ e.name ++ " (" ++ word ++ ")",
    "# From " ++ point e.start.x e.start.y e.start.z ++ " to " ++ point e.stop.x e.stop.y e.stop.z,
    word ++ "_sketch = SketchPlane.Create(doc, Plane.CreateByNormalAndOrigin(XYZ(0, 0, 1), "
      ++ pointOf "0" "0" e.start.z.natural ++ "))",
    word ++ "_curves = CurveArray()"]
    ++ (sides e.profile).map (sideLine word)
    ++ [word ++ "_profile = CurveArrArray()",
      word ++ "_profile.Append(" ++ word ++ "_curves)",
      word ++ "_obj = doc.FamilyCreate.NewExtrusion(" ++ truthLiteral (role != .void) ++ ", "
        ++ word ++ "_profile, " ++ word ++ "_sketch, " ++ (e.stop.z - e.start.z).natural ++ ")"]
    ++ materialLines word e
    ++ ["created_geometry[" ++ quote e.name ++ "] = " ++ word ++ "_obj", ""]

/-- The lines that open a table of materials for each role in use. -/
def materialTableLines (roles : List Role) : List Text :=
  (Role.all.filter roles.contains).map fun role => role.word ++ "_material = \x7b\x7d"

/-- The lines ahead of the tables of materials. -/
def geometryHead : List Text := ["# Geometry", "created_geometry = \x7b\x7d"]

/-- The lines of the extrusions. -/
def geometryLines (d : Design) : List Text :=
  indent (geometryHead ++ materialTableLines d.roles ++ [blankLine]
    ++ (d.roles.zip d.extrusions).flatMap fun (role, e) => extrusionLines role e)

/-- The lines of one constraint. -/
def constraintEntryLines (c : Constraint) : List Text :=
  ["# Constraint: " ++ c.first.getD "None" ++ " -> " ++ c.second.getD "None",
    "constraint_stubs.append((" ++ quote c.kind ++ ", " ++ quoteOptional c.first ++ ", "
      ++ quoteOptional c.second ++ ", " ++ c.offset.natural ++ "))"]

/-- The lines ahead of the constraints. -/
def constraintHead : List Text := ["# Constraints", "constraint_stubs = []", ""]

/-- The lines of the constraints. -/
def constraintLines (d : Design) : List Text :=
  indent (constraintHead ++ d.constraints.flatMap constraintEntryLines ++ [blankLine])

/-- The line of one level of detail. -/
def visibilityEntry (level : Text) (names : List Text) : Text :=
  "    " ++ quote level ++ ": [" ++ Text.joinWith ", " (names.map quote) ++ "],"

/-- The lines of what shows at each level of detail. -/
def visibilityLines (d : Design) : List Text :=
  let settings := d.visibility.getD {}
  indent ["# Visibility", "visibility_groups = \x7b", visibilityEntry "coarse" settings.coarse,
    visibilityEntry "medium" settings.medium, visibilityEntry "fine" settings.fine, "\x7d"]

end FamilyDesign.Script
