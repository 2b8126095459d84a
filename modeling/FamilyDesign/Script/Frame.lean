import FamilyDesign.Design.Basic
import FamilyDesign.Json.Writer
import FamilyDesign.Script.Literal

/-!
# The frame of a script

What stands around the sections that build a family: the imports, the setup of the family document,
which opens the transaction, and the validation at the end, which closes it.
-/

namespace FamilyDesign.Script

/-- The library that a category needs on top of the common ones. -/
def categoryImport (category : Text) : List Text :=
  if category = "Doors" ∨ category = "Windows" then
    ["from Autodesk.Revit.DB.Architecture import *"]
  else if Text.contains category "Structural" then ["from Autodesk.Revit.DB.Structure import *"]
  else []

/-- The imports of every script. -/
def standardImports : List Text :=
  ["import clr",
    "clr.AddReference(\"RevitAPI\")",
    "clr.AddReference(\"RevitServices\")",
    "",
    "from Autodesk.Revit.DB import *",
    "from RevitServices.Persistence import DocumentManager",
    "from RevitServices.Transactions import TransactionManager"]

/-- The lines of the imports. -/
def importLines (d : Design) : List Text :=
  standardImports ++ categoryImport d.category ++ [blankLine, "# Family: " ++ d.familyName]

/-- The lines of the setup of a family. -/
def setupLines (m : Metadata) : List Text :=
  ["# Family setup",
    "doc = DocumentManager.Instance.CurrentDBDocument",
    "family_manager = doc.FamilyManager",
    "",
    "TransactionManager.Instance.EnsureInTransaction(doc)",
    "",
    "try:",
    "    family_name = " ++ quote m.familyName,
    "    family_category = " ++ quote m.category,
    "    family_description = " ++ quote m.description,
    "    lod_level = " ++ ((m.lod.map Numeric.intText).getD "None"),
    "",
    "    if not doc.IsFamilyDocument:",
    "        raise Exception(\"This script must run in a family document\")",
    "",
    "    target_category = None",
    "    for cat in doc.Settings.Categories:",
    "        if cat.Name == family_category:",
    "            target_category = cat",
    "            break",
    "    if target_category is None:",
    "        raise Exception(\"Category not found: \" + family_category)",
    "    if doc.OwnerFamily.FamilyCategory.Name != family_category:",
    "        doc.OwnerFamily.FamilyCategory = target_category"]

/-- The lines of the validation. -/
def validationLines : List Text :=
  ["    # Validation",
    "    validation_results = \x7b",
    "        \"geometry_created\": len(created_geometry) > 0,",
    "        \"parameters_created\": len(created_parameters) > 0,",
    "        \"family_types_created\": len(created_types) > 0,",
    "    \x7d",
    "    print(\"Family creation results: \" + str(validation_results))",
    "",
    "    TransactionManager.Instance.TransactionTaskDone()",
    "    print(\"Created family: \" + family_name)",
    "",
    "except Exception as e:",
    "    print(\"Error creating family: \" + str(e))",
    "    TransactionManager.Instance.TransactionTaskDone()",
    "    raise"]

end FamilyDesign.Script
