import FamilyDesign.Brief.Basic
import FamilyDesign.Design.Basic
import FamilyDesign.Json.Number

/-!
# Orders

The parameters under which a design is submitted for execution. Lengths are those of the first
parameters whose names speak of them; where there is none, or its default is no number, a standard
length stands in.
-/

namespace FamilyDesign.Job

open Numeric (Binary64)

/-- What a service needs to build a family. -/
structure Order where
  fileName : Text
  category : Text
  style : Text
  glass : Text
  sash : Text
  typeName : Text
  width : Binary64
  height : Binary64
  inset : Binary64
  sillHeight : Binary64

/-- The default of the first parameter whose name contains a fragment, as a real number. -/
def lengthOf (d : Design) (fragment : Text) (otherwise : Binary64) :
    Except NumberFault Binary64 :=
  match d.findParameter? fragment with
  | none => .ok otherwise
  | some p =>
    match p.default.toReal with
    | .ok x => .ok x
    | .error fault => if fault.isRange then .error fault else .ok otherwise

/-- The text if it is not empty, else another. -/
def nonemptyOr (s otherwise : Text) : Text := if s.isEmpty then otherwise else s

/-- The material of the first slot whose label contains one of the fragments. -/
def materialOf (d : Design) (fragments : List Text) : Text :=
  match d.materials.find? fun m => fragments.any (Text.contains m.label) with
  | some m => (nonempty? m.default).getD (nonemptyOr m.name defaultMaterial)
  | none => defaultMaterial

namespace Order

/-- The order for a design. -/
def ofDesign (d : Design) : Except NumberFault Order := do
  let familyName := nonemptyOr d.familyName "Generated Family"
  let category := nonemptyOr d.category genericCategory
  let width ← lengthOf d "width" 2
  let height ← lengthOf d "height" 4
  let inset ← lengthOf d "inset" 0.05
  let sillHeight ← lengthOf d "sill" 3
  .ok {
    fileName := familyName ++ ".rfa"
    category
    style := windowStyleOf (familyName ++ " " ++ category)
    glass := materialOf d ["glass"]
    sash := materialOf d ["sash", "frame"]
    typeName := nonemptyOr ((d.types.head?.map (·.name)).getD "") "Type 1"
    width
    height
    inset
    sillHeight }

/-- The one family type of an order. -/
def writeType (o : Order) : Json :=
  .object [("TypeName", .text o.typeName), ("WindowWidth", .real o.width),
    ("WindowHeight", .real o.height), ("WindowInset", .real o.inset),
    ("WindowSillHeight", .real o.sillHeight)]

/-- The parameters of an order. -/
def write (o : Order) : Fields :=
  [("FileName", .text o.fileName), ("FamilyType", .int 1), ("Category", .text o.category),
    ("WindowParams", .object [("WindowStyle", .text o.style), ("GlassPaneMaterial", .text o.glass),
      ("SashMaterial", .text o.sash), ("WindowFamilyName", .text o.fileName),
      ("Types", .array [o.writeType])])]

end Order

end FamilyDesign.Job
