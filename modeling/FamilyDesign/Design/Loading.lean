import FamilyDesign.Design.Basic
import FamilyDesign.Document.Field

/-!
# Loading designs

A design is loaded from a JSON object. Every field has a default, so an empty object is a design;
what cannot be read is reported by its place, fields in the order of their declaration. Every part
keeps the fields that it does not know.
-/

namespace FamilyDesign

open Document

/-! ## Names of the fields -/

namespace Point2

def xName : Name := .same "x"
def yName : Name := .same "y"
def names : List Name := [xName, yName]

/-- A point of a profile. -/
def load (fields : Fields) : Checked Point2 :=
  keepingExtras names fields <|
    Point2.mk <$> xName.load 0 asReal fields <*> yName.load 0 asReal fields
      <*> pure (unasked names fields)

end Point2

namespace Point3

def xName : Name := .same "x"
def yName : Name := .same "y"
def zName : Name := .same "z"
def names : List Name := [xName, yName, zName]

/-- A point in space. -/
def load (fields : Fields) : Checked Point3 :=
  keepingExtras names fields <|
    Point3.mk <$> xName.load 0 asReal fields <*> yName.load 0 asReal fields
      <*> zName.load 0 asReal fields <*> pure (unasked names fields)

end Point3

namespace Metadata

def familyNameName : Name := ⟨"familyName", "family_name"⟩
def categoryName : Name := .same "category"
def descriptionName : Name := .same "description"
def lodName : Name := ⟨"lodLevel", "lod_level"⟩
def isHostedName : Name := ⟨"isHosted", "is_hosted"⟩
def hostingTypeName : Name := ⟨"hostingType", "hosting_type"⟩
def names : List Name :=
  [familyNameName, categoryName, descriptionName, lodName, isHostedName, hostingTypeName]

/-- The metadata of a family. -/
def load (fields : Fields) : Checked Metadata :=
  keepingExtras names fields <|
    Metadata.mk <$> familyNameName.load "" asText fields <*> categoryName.load "" asText fields
      <*> descriptionName.load "" asText fields <*> lodName.load none (asOptional asInt) fields
      <*> isHostedName.load false asFlag fields
      <*> hostingTypeName.load none (asOptional asText) fields <*> pure (unasked names fields)

end Metadata

namespace Extrusion

def nameName : Name := .same "name"
def profileName : Name := .same "profile"
def startName : Name := ⟨"startPoint", "start_point"⟩
def stopName : Name := ⟨"endPoint", "end_point"⟩
def materialName : Name := .same "material"
def isSolidName : Name := ⟨"isSolid", "is_solid"⟩
def names : List Name := [nameName, profileName, startName, stopName, materialName, isSolidName]

/-- An extrusion. -/
def load (fields : Fields) : Checked Extrusion :=
  keepingExtras names fields <|
    Extrusion.mk <$> nameName.load "" asText fields
      <*> profileName.load [] (asList (asRecord Point2.load)) fields
      <*> startName.load {} (asRecord Point3.load) fields
      <*> stopName.load {} (asRecord Point3.load) fields
      <*> materialName.load none (asOptional asText) fields
      <*> isSolidName.load true asFlag fields <*> pure (unasked names fields)

end Extrusion

namespace ReferencePlane

def nameName : Name := .same "name"
def originName : Name := .same "origin"
def normalName : Name := .same "normal"
def lockedName : Name := .same "locked"
def names : List Name := [nameName, originName, normalName, lockedName]

/-- A reference plane. -/
def load (fields : Fields) : Checked ReferencePlane :=
  keepingExtras names fields <|
    ReferencePlane.mk <$> nameName.load "" asText fields
      <*> originName.load {} (asRecord Point3.load) fields
      <*> normalName.load { z := 1 } (asRecord Point3.load) fields
      <*> lockedName.load true asFlag fields <*> pure (unasked names fields)

end ReferencePlane

namespace Constraint

def firstName : Name := .same "element1"
def secondName : Name := .same "element2"
def kindName : Name := ⟨"constraintType", "constraint_type"⟩
def offsetName : Name := .same "offset"
def names : List Name := [firstName, secondName, kindName, offsetName]

/-- A constraint. -/
def load (fields : Fields) : Checked Constraint :=
  keepingExtras names fields <|
    Constraint.mk <$> firstName.load none (asOptional asText) fields
      <*> secondName.load none (asOptional asText) fields
      <*> kindName.load "align" asText fields <*> offsetName.load 0 asReal fields
      <*> pure (unasked names fields)

end Constraint

namespace Geometry

def extrusionsName : Name := .same "extrusions"
def referencePlanesName : Name := ⟨"referencePlanes", "reference_planes"⟩
def constraintsName : Name := .same "constraints"
def blendsName : Name := .same "blends"
def sweepsName : Name := .same "sweeps"
def revolvesName : Name := .same "revolves"
def names : List Name :=
  [extrusionsName, referencePlanesName, constraintsName, blendsName, sweepsName, revolvesName]

/-- The geometry of a family. -/
def load (fields : Fields) : Checked Geometry :=
  keepingExtras names fields <|
    Geometry.mk <$> extrusionsName.load [] (asList (asRecord Extrusion.load)) fields
      <*> referencePlanesName.load [] (asList (asRecord ReferencePlane.load)) fields
      <*> constraintsName.load [] (asList (asRecord Constraint.load)) fields
      <*> blendsName.load [] (asList asAny) fields <*> sweepsName.load [] (asList asAny) fields
      <*> revolvesName.load [] (asList asAny) fields <*> pure (unasked names fields)

end Geometry

namespace Parameter

def nameName : Name := .same "name"
def typeName : Name := ⟨"type", "param_type"⟩
def groupName : Name := .same "group"
def isInstanceName : Name := ⟨"isInstance", "is_instance"⟩
def defaultName : Name := ⟨"defaultValue", "default_value"⟩
def formulaName : Name := .same "formula"
def names : List Name :=
  [nameName, typeName, groupName, isInstanceName, defaultName, formulaName]

/-- A family parameter. -/
def load (fields : Fields) : Checked Parameter :=
  keepingExtras names fields <|
    Parameter.mk <$> nameName.load "" asText fields <*> typeName.load "Length" asText fields
      <*> groupName.load none (asOptional asText) fields <*> isInstanceName.load true asFlag fields
      <*> defaultName.load .null asAny fields <*> formulaName.load none (asOptional asText) fields
      <*> pure (unasked names fields)

end Parameter

namespace FamilyType

def nameName : Name := .same "name"
def bindingsName : Name := .same "parameters"
def names : List Name := [nameName, bindingsName]

/-- A family type. -/
def load (fields : Fields) : Checked FamilyType :=
  keepingExtras names fields <|
    FamilyType.mk <$> nameName.load "" asText fields <*> bindingsName.load [] asFields fields
      <*> pure (unasked names fields)

end FamilyType

namespace ParameterSet

def familyName : Name := ⟨"familyParameters", "family_parameters"⟩
def sharedName : Name := ⟨"sharedParameters", "shared_parameters"⟩
def typesName : Name := ⟨"familyTypes", "family_types"⟩
def names : List Name := [familyName, sharedName, typesName]

/-- The parameters and types of a family. -/
def load (fields : Fields) : Checked ParameterSet :=
  keepingExtras names fields <|
    ParameterSet.mk <$> familyName.load [] (asList (asRecord Parameter.load)) fields
      <*> sharedName.load [] (asList asAny) fields
      <*> typesName.load [] (asList (asRecord FamilyType.load)) fields
      <*> pure (unasked names fields)

end ParameterSet

namespace MaterialSlot

def nameName : Name := .same "name"
def parameterNameName : Name := ⟨"parameterName", "parameter_name"⟩
def defaultName : Name := ⟨"defaultValue", "default_value"⟩
def colorName : Name := .same "color"
def names : List Name := [nameName, parameterNameName, defaultName, colorName]

/-- A material. -/
def load (fields : Fields) : Checked MaterialSlot :=
  keepingExtras names fields <|
    MaterialSlot.mk <$> nameName.load "" asText fields
      <*> parameterNameName.load none (asOptional asText) fields
      <*> defaultName.load none (asOptional asText) fields
      <*> colorName.load none (asOptional asText) fields <*> pure (unasked names fields)

end MaterialSlot

namespace Visibility

def coarseName : Name := .same "coarse"
def mediumName : Name := .same "medium"
def fineName : Name := .same "fine"
def names : List Name := [coarseName, mediumName, fineName]

/-- The elements that show at each level of detail. -/
def load (fields : Fields) : Checked Visibility :=
  keepingExtras names fields <|
    Visibility.mk <$> coarseName.load [] (asList asText) fields
      <*> mediumName.load [] (asList asText) fields <*> fineName.load [] (asList asText) fields
      <*> pure (unasked names fields)

end Visibility

namespace Design

def metadataName : Name := ⟨"familyMetadata", "family_metadata"⟩
def geometryName : Name := ⟨"geometryDefinition", "geometry_definition"⟩
def parametersName : Name := .same "parameters"
def materialsName : Name := .same "materials"
def nestedFamiliesName : Name := ⟨"nestedFamilies", "nested_families"⟩
def visibilityName : Name := ⟨"visibilitySettings", "visibility_settings"⟩
def names : List Name :=
  [metadataName, geometryName, parametersName, materialsName, nestedFamiliesName, visibilityName]

/-- A design. -/
def load (fields : Fields) : Checked Design :=
  keepingExtras names fields <|
    Design.mk <$> metadataName.load none (asOptional (asRecord Metadata.load)) fields
      <*> geometryName.load none (asOptional (asRecord Geometry.load)) fields
      <*> parametersName.load none (asOptional (asRecord ParameterSet.load)) fields
      <*> materialsName.load [] (asList (asRecord MaterialSlot.load)) fields
      <*> nestedFamiliesName.load [] (asList asAny) fields
      <*> visibilityName.load none (asOptional (asRecord Visibility.load)) fields
      <*> pure (unasked names fields)

end Design

end FamilyDesign
