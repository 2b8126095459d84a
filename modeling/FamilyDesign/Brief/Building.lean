import FamilyDesign.Brief.Basic
import FamilyDesign.Design.Basic

/-!
# Building a design from a brief

Every brief makes a complete design: a main body, a glass pane for windows, four length parameters
and two material parameters, one type that binds them all.
-/

namespace FamilyDesign

open Numeric (Binary64)

namespace Brief

/-- What a family of a category is called. -/
def familyLabel (b : Brief) : Text :=
  if b.category = "Doors" then "Door"
  else if b.category = "Windows" then
    if b.windowStyle = doubleHung then "Window"
    else if b.windowStyle = slidingDouble then "Sliding Window"
    else "Fixed Window"
  else if b.category = "Furniture" then "Furniture"
  else "Family"

/-- The description of a family of a category. -/
def descriptionOf (category : Text) : Text :=
  if category = "Doors" then "Parametric door family"
  else if category = "Windows" then "Parametric window family"
  else if category = "Furniture" then "Parametric furniture family"
  else "Parametric family generated from natural language"

/-- The depth of the body along Z. -/
def bodyDepth (category : Text) : Binary64 :=
  if category = "Doors" then 50 / 304.8 else 100 / 304.8

/-- The corners of a rectangle. -/
def rectangle (x0 y0 x1 y1 : Binary64) : List Point2 :=
  [{ x := x0, y := y0 }, { x := x1, y := y0 }, { x := x1, y := y1 }, { x := x0, y := y1 }]

/-- The body. -/
def body (b : Brief) : Extrusion :=
  { name := "MainBody"
    profile := rectangle 0 0 b.width b.height
    stop := { x := b.width, y := b.height, z := bodyDepth b.category }
    material := some b.sash }

/-- The width of the frame around a pane: a quarter of the smaller side at most. -/
def frameWidth (b : Brief) : Binary64 :=
  ((0.15 : Binary64).smaller (b.width / 4)).smaller (b.height / 4)

/-- The pane, set in by the inset on both sides and never thinner than glass. -/
def pane (b : Brief) : Extrusion :=
  let frame := b.frameWidth
  let back := b.inset
  let front := (bodyDepth b.category - b.inset).larger (back + 0.02)
  { name := "GlassPane"
    profile := rectangle frame frame (b.width - frame) (b.height - frame)
    start := { x := frame, y := frame, z := back }
    stop := { x := b.width - frame, y := b.height - frame, z := front }
    material := some b.glass }

/-- The extrusions. -/
def extrusions (b : Brief) : List Extrusion :=
  if b.category = "Windows" then [b.body, b.pane] else [b.body]

/-- A length parameter. -/
def lengthParameter (name : Text) (x : Binary64) : Parameter :=
  { name, type := "Length", group := some "Dimensions", default := .real x }

/-- A material parameter. -/
def materialParameter (name material : Text) : Parameter :=
  { name, type := "Material", group := some "Materials", default := .text material }

/-- The parameters. -/
def parameters (b : Brief) : List Parameter :=
  [lengthParameter "Width" b.width, lengthParameter "Height" b.height,
    lengthParameter "SillHeight" b.sillHeight, lengthParameter "Inset" b.inset,
    materialParameter "GlassPaneMaterial" b.glass, materialParameter "SashMaterial" b.sash]

/-- A material with its parameter. -/
def materialSlot (material parameterName color : Text) : MaterialSlot :=
  { name := material, parameterName := some parameterName, default := some material,
    color := some color }

/-- Whether families of the category are placed in a wall. -/
def isHosted (b : Brief) : Bool :=
  b.category == "Doors" || b.category == "Windows"

/-- The metadata. -/
def metadata (b : Brief) : Metadata :=
  { familyName := "Generated " ++ b.familyLabel
    category := b.category
    description := descriptionOf b.category
    lod := some 200
    isHosted := b.isHosted
    hostingType := if b.isHosted then some "Wall" else none }

/-- The type that binds every parameter to its default. -/
def boundType (parameters : List Parameter) : FamilyType :=
  { name := "Type 1", bindings := parameters.map fun p => (p.name, p.default) }

/-- The design that a brief describes. -/
def toDesign (b : Brief) : Design :=
  let names := b.extrusions.map (·.name)
  { metadata := some b.metadata
    geometry := some { extrusions := b.extrusions }
    parameterSet := some { family := b.parameters, types := [boundType b.parameters] }
    materials := [materialSlot b.glass "GlassPaneMaterial" "#87CEEB",
      materialSlot b.sash "SashMaterial" "#8B4513"]
    visibility := some { coarse := names, medium := names, fine := names } }

end Brief

end FamilyDesign
