import FamilyDesign.Json.Value
import FamilyDesign.Text.Case
import FamilyDesign.Text.Search

/-!
# Designs

The structured description of one parametric family: what it is, its geometry, its parameters and
types, its materials and what shows at which level of detail. A design may be incomplete or wrong;
quality checks score it, and the script is written only for a complete one. Every part keeps the
fields of its document that it does not know.
-/

namespace FamilyDesign

open Numeric (Binary64)

/-- A point of a profile, in feet. -/
structure Point2 where
  x : Binary64 := 0
  y : Binary64 := 0
  extras : Fields := []

/-- A point in space, in feet, or a direction. -/
structure Point3 where
  x : Binary64 := 0
  y : Binary64 := 0
  z : Binary64 := 0
  extras : Fields := []

/-- What a family is. -/
structure Metadata where
  familyName : Text := ""
  category : Text := ""
  description : Text := ""
  lod : Option Int := none
  isHosted : Bool := false
  hostingType : Option Text := none
  extras : Fields := []

/-- A closed profile swept between two points along Z. -/
structure Extrusion where
  name : Text := ""
  profile : List Point2 := []
  start : Point3 := {}
  stop : Point3 := {}
  material : Option Text := none
  isSolid : Bool := true
  extras : Fields := []

/-- The height of an extrusion. -/
def Extrusion.height (e : Extrusion) : Binary64 := (e.stop.z - e.start.z).abs

/-- A named plane that geometry may refer to. -/
structure ReferencePlane where
  name : Text := ""
  origin : Point3 := {}
  normal : Point3 := { z := 1 }
  locked : Bool := true
  extras : Fields := []

/-- A relation between two named elements. -/
structure Constraint where
  first : Option Text := none
  second : Option Text := none
  kind : Text := "align"
  offset : Binary64 := 0
  extras : Fields := []

/-- The geometry of a family. -/
structure Geometry where
  extrusions : List Extrusion := []
  referencePlanes : List ReferencePlane := []
  constraints : List Constraint := []
  blends : List Json := []
  sweeps : List Json := []
  revolves : List Json := []
  extras : Fields := []

/-- A parameter of a family. -/
structure Parameter where
  name : Text := ""
  type : Text := "Length"
  group : Option Text := none
  isInstance : Bool := true
  default : Json := .null
  formula : Option Text := none
  extras : Fields := []

/-- A family type: values bound to parameters by name. -/
structure FamilyType where
  name : Text := ""
  bindings : Fields := []
  extras : Fields := []

/-- The parameters and types of a family. -/
structure ParameterSet where
  family : List Parameter := []
  shared : List Json := []
  types : List FamilyType := []
  extras : Fields := []

/-- A material of a family. -/
structure MaterialSlot where
  name : Text := ""
  parameterName : Option Text := none
  default : Option Text := none
  color : Option Text := none
  extras : Fields := []

/-- The elements that show at each level of detail. -/
structure Visibility where
  coarse : List Text := []
  medium : List Text := []
  fine : List Text := []
  extras : Fields := []

/-- The description of one parametric family. -/
structure Design where
  metadata : Option Metadata := none
  geometry : Option Geometry := none
  parameterSet : Option ParameterSet := none
  materials : List MaterialSlot := []
  nestedFamilies : List Json := []
  visibility : Option Visibility := none
  extras : Fields := []

instance : Inhabited Design := ⟨{}⟩

/-- The text, unless it is absent or empty. -/
def nonempty? (s : Option Text) : Option Text :=
  s.filter (!·.isEmpty)

/-- The formula of a parameter, unless it is absent or empty. -/
def Parameter.formula? (p : Parameter) : Option Text :=
  nonempty? p.formula

/-- The parameter name and the name of a material, in lower case. -/
def MaterialSlot.label (m : MaterialSlot) : Text :=
  Text.lower (m.parameterName.getD "" ++ " " ++ m.name)

namespace Design

/-- The name of the family, empty if there is no metadata. -/
def familyName (d : Design) : Text := (d.metadata.map (·.familyName)).getD ""

/-- The category of the family, empty if there is no metadata. -/
def category (d : Design) : Text := (d.metadata.map (·.category)).getD ""

/-- The level of detail. -/
def lod (d : Design) : Option Int := d.metadata.bind (·.lod)

/-- The extrusions. -/
def extrusions (d : Design) : List Extrusion := (d.geometry.map (·.extrusions)).getD []

/-- The reference planes. -/
def referencePlanes (d : Design) : List ReferencePlane :=
  (d.geometry.map (·.referencePlanes)).getD []

/-- The constraints. -/
def constraints (d : Design) : List Constraint := (d.geometry.map (·.constraints)).getD []

/-- The family parameters. -/
def parameters (d : Design) : List Parameter := (d.parameterSet.map (·.family)).getD []

/-- The family types. -/
def types (d : Design) : List FamilyType := (d.parameterSet.map (·.types)).getD []

/-- The first parameter with a name. -/
def parameter? (d : Design) (name : Text) : Option Parameter :=
  d.parameters.find? (·.name == name)

/-- The first parameter whose name contains a fragment, whatever the case. -/
def findParameter? (d : Design) (fragment : Text) : Option Parameter :=
  d.parameters.find? fun p => Text.contains (Text.lower p.name) (Text.lower fragment)

/-- The parameter that a name stands for in a family type: the last one of that name. -/
def definition? (d : Design) (name : Text) : Option Parameter :=
  d.parameters.reverse.find? (·.name == name)

/-- The names that a constraint may refer to. -/
def elementNames (d : Design) : List Text :=
  (d.extrusions.map (·.name) ++ d.referencePlanes.map (·.name)).filter (!·.isEmpty)

/-- The design with its parameters changed one by one. -/
def mapParameters (d : Design) (f : Parameter → Parameter) : Design :=
  { d with parameterSet := d.parameterSet.map fun s => { s with family := s.family.map f } }

/-- The design with its family types changed one by one. -/
def mapTypes (d : Design) (f : FamilyType → FamilyType) : Design :=
  { d with parameterSet := d.parameterSet.map fun s => { s with types := s.types.map f } }

end Design

end FamilyDesign
