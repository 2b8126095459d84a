import FamilyDesign.Design.Structure
import FamilyDesign.Script.Declaration
import FamilyDesign.Script.Frame
import FamilyDesign.Script.Shape

/-!
# Sections of a script

A script is ten sections in a fixed order. Each is a list of lines computed from the design alone.
-/

namespace FamilyDesign.Script

/-- Why a section cannot be written. -/
inductive Fault
  | structural (fault : StructureFault)
  | unbounded (fault : NumberFault)

/-- The wording of a fault. -/
def Fault.message : Fault → Text
  | structural fault => fault.message
  | unbounded fault => fault.message

/-- A section of a script. -/
inductive Section
  | imports
  | familySetup
  | referencePlanes
  | parameters
  | geometry
  | constraints
  | materials
  | familyTypes
  | visibility
  | validation
deriving DecidableEq

namespace Section

/-- All sections, in the order in which a script holds them. -/
def all : List Section :=
  [imports, familySetup, referencePlanes, parameters, geometry, constraints, materials, familyTypes,
    visibility, validation]

/-- The name of a section. -/
def name : Section → Text
  | imports => "imports"
  | familySetup => "family_setup"
  | referencePlanes => "reference_planes"
  | parameters => "parameters"
  | geometry => "geometry"
  | constraints => "constraints"
  | materials => "materials"
  | familyTypes => "family_types"
  | visibility => "visibility"
  | validation => "validation"

/-- The section of a name. -/
def ofName? (s : Text) : Option Section :=
  all.find? (·.name == s)

/-- The setup, which needs the metadata of the family. -/
def setup (d : Design) : Except Fault (List Text) :=
  match d.metadata with
  | some m => .ok (setupLines m)
  | none => .error (.structural (.missingSection "familyMetadata"))

/-- The lines of a section. -/
def lines (s : Section) (d : Design) : Except Fault (List Text) :=
  match s with
  | imports => .ok (importLines d)
  | familySetup => setup d
  | referencePlanes => .ok (referencePlaneLines d)
  | parameters => (parameterLines d).mapError .unbounded
  | geometry => .ok (geometryLines d)
  | constraints => .ok (constraintLines d)
  | materials => .ok (materialSectionLines d)
  | familyTypes => (familyTypeLines d).mapError .unbounded
  | visibility => .ok (visibilityLines d)
  | validation => .ok validationLines

/-- The text of a section. -/
def text (s : Section) (d : Design) : Except Fault Text :=
  (s.lines d).map (Text.joinWith "\n")

end Section

end FamilyDesign.Script
