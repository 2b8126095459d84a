import FamilyDesign.Design.Basic
import FamilyDesign.Script.Literal

/-!
# The declarations of a script

Parameters, materials and family types. A script declares every parameter before a family type binds
a value to it, and a material declares its parameter itself if nothing else has.
-/

namespace FamilyDesign.Script

/-- What a type of parameter values is called in a script. -/
def specOf (typeName : Text) : Text :=
  match ValueType.ofName? typeName with
  | some .length => "SpecTypeId.Length"
  | some .integer => "SpecTypeId.Int.Integer"
  | some .text => "SpecTypeId.String.Text"
  | some .material => "SpecTypeId.Reference.Material"
  | some .yesNo => "SpecTypeId.Boolean.YesNo"
  | some .number | none => "SpecTypeId.Number"

/-- What parameter groups are called in a script, by their names in lower case. -/
def groups : Entries Text :=
  [("dimensions", "GroupTypeId.Geometry"), ("geometry", "GroupTypeId.Geometry"),
    ("constraints", "GroupTypeId.Constraints"), ("materials", "GroupTypeId.Materials"),
    ("identity", "GroupTypeId.IdentityData"), ("identity data", "GroupTypeId.IdentityData"),
    ("graphics", "GroupTypeId.Graphics")]

/-- What a parameter group is called in a script, by its name in lower case. -/
def groupOf (name : Text) : Text :=
  (groups.lookup name).getD "GroupTypeId.Data"

/-- The line that sets the default of a parameter: there is one unless the default is absent or a
material. -/
def defaultLines (p : Parameter) : Except NumberFault (List Text) :=
  match p.default.present? with
  | none => .ok []
  | some v =>
    if p.type = "Material" then .ok []
    else do .ok ["family_manager.Set(param, " ++ (← formatValue v p.type) ++ ")"]

/-- The line that sets the formula of a parameter, if it has one. -/
def formulaLines (p : Parameter) : List Text :=
  match p.formula? with
  | some formula => ["family_manager.SetFormula(param, " ++ quote formula ++ ")"]
  | none => []

/-- The lines of one parameter. -/
def parameterEntryLines (p : Parameter) : Except NumberFault (List Text) := do
  let setDefault ← defaultLines p
  let comment := "# Parameter: " ++ p.name ++ " (" ++ p.type ++ ")"
  let added := "param = family_manager.AddParameter(" ++ quote p.name ++ ", "
    ++ groupOf (Text.lower (p.group.getD "")) ++ ", " ++ specOf p.type ++ ", "
    ++ truthLiteral p.isInstance ++ ")"
  let recorded := "created_parameters[" ++ quote p.name ++ "] = param"
  .ok ([comment, added] ++ setDefault ++ formulaLines p ++ [recorded, blankLine])

/-- The lines of the parameters. -/
def parameterLines (d : Design) : Except NumberFault (List Text) := do
  let entries ← d.parameters.mapM parameterEntryLines
  .ok (indent (tableHead "Family parameters" "created_parameters" ++ entries.flatten))

/-- The parameter of a material: its own, or one named after it. -/
def materialParameterOf (m : MaterialSlot) : Text :=
  (nonempty? m.parameterName).getD (m.name ++ "Material")

/-- The lines of one material. -/
def materialEntryLines (m : MaterialSlot) : List Text :=
  let parameter := quote (materialParameterOf m)
  ["# Material: " ++ m.name,
    "if " ++ parameter ++ " not in created_parameters:",
    "    created_parameters[" ++ parameter ++ "] = family_manager.AddParameter(" ++ parameter
      ++ ", GroupTypeId.Materials, SpecTypeId.Reference.Material, True)",
    "material_defaults[" ++ parameter ++ "] = " ++ quote ((nonempty? m.default).getD m.name),
    ""]

/-- The lines of the materials. -/
def materialSectionLines (d : Design) : List Text :=
  indent (tableHead "Materials" "material_defaults" ++ d.materials.flatMap materialEntryLines)

/-- The type under which a family type binds a value: what the parameter declares, else text. -/
def boundTypeOf (d : Design) (name : Text) : Text :=
  ((d.definition? name).map (·.type)).getD ValueType.text.name

/-- The line that binds one value; materials are not bound. -/
def bindingLines (d : Design) (name : Text) (v : Json) : Except NumberFault (List Text) :=
  let typeName := boundTypeOf d name
  if typeName = "Material" then .ok []
  else do
    let written ← formatValue v typeName
    .ok ["family_manager.Set(created_parameters[" ++ quote name ++ "], " ++ written ++ ")"]

/-- The lines of one family type. -/
def familyTypeEntryLines (d : Design) (t : FamilyType) : Except NumberFault (List Text) := do
  let bindings ← t.bindings.mapM fun (name, v) => bindingLines d name v
  let created :=
    "created_types[" ++ quote t.name ++ "] = family_manager.NewType(" ++ quote t.name ++ ")"
  .ok (["# Family type: " ++ t.name, created] ++ bindings.flatten ++ [blankLine])

/-- The lines of the family types. -/
def familyTypeLines (d : Design) : Except NumberFault (List Text) := do
  let entries ← d.types.mapM (familyTypeEntryLines d)
  .ok (indent (tableHead "Family types" "created_types" ++ entries.flatten))

end FamilyDesign.Script
