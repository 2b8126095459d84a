import FamilyDesign.Design.ValueType
import FamilyDesign.Formula.Problem
import FamilyDesign.Quality.Pass

/-!
# The parameters pass

Names that are unique and well formed, known types, formulas without problems, the parameters that a
category calls for, and family types whose values fit what their parameters declare.
-/

namespace FamilyDesign.Quality.Parameters

/-- The parameters that a family of a category is expected to have. -/
def essentials : List (Text × List Text) := [
  ("Doors", ["Width", "Height", "Thickness"]),
  ("Windows", ["Width", "Height", "Sill Height"]),
  ("Furniture", ["Width", "Depth", "Height"]),
  ("Structural Framing", ["Length", "Width", "Height"]),
  ("Structural Columns", ["Width", "Depth", "Height"]),
  ("Mechanical Equipment", ["Width", "Depth", "Height"]),
  ("Electrical Equipment", ["Width", "Depth", "Height"]),
  ("Plumbing Fixtures", ["Width", "Depth", "Height"])]

/-- A name as it is compared: in lower case, without blanks and underscores. -/
def normalizeName (name : Text) : Text :=
  Text.lower (Text.ofList (name.toList.filter fun c => !(Text.isBlank c || c == '_')))

/-- Whether the characters are an ASCII letter and ASCII letters, digits and underscores. -/
def isWellFormed : List CodePoint → Bool
  | [] => false
  | c :: rest => c.isAlpha && rest.all Formula.inName

/-- Whether a name is taken as well formed; one newline behind it does no harm. -/
def acceptsName (name : Text) : Bool :=
  let cs := name.toList
  isWellFormed cs || (cs.getLast? == some (.char '\n') && isWellFormed cs.dropLast)

/-- Whether the name of a parameter has been used before. -/
def checkUnique (seen : List Text) (p : Parameter) : Outcome :=
  .onlyIf (seen.contains p.name) (.issue "parameters.duplicate_name"
    ("Duplicate parameter name: " ++ p.name))

/-- Whether the name of a parameter is well formed. -/
def checkName (p : Parameter) : Outcome :=
  .onlyIf (!acceptsName p.name) (.issue "parameters.invalid_name"
    ("Invalid parameter name format: " ++ Text.shown p.name))

/-- Whether the type of a parameter is known. -/
def checkType (p : Parameter) : Outcome :=
  .onlyIf (ValueType.ofName? p.type).isNone (.issue "parameters.invalid_type"
    ("Invalid parameter type: " ++ p.type))

/-- The problems of the formula of a parameter, if it has one. -/
def checkFormula (known : List Text) (p : Parameter) : Outcome :=
  match p.formula? with
  | none => .clear
  | some formula =>
    .all ((Formula.problemsOf p.name formula known).map fun problem =>
      .issue "parameters.invalid_formula"
        ("Invalid formula for " ++ p.name ++ ": " ++ problem.message))

/-- What is wrong with each parameter, where the names `seen` came before. -/
def checkEach (known : List Text) : List Text → List Parameter → Outcome
  | _, [] => .clear
  | seen, p :: rest =>
    checkUnique seen p ++ checkName p ++ checkType p ++ checkFormula known p
      ++ checkEach known (p.name :: seen) rest

/-- The parameters that the category calls for and that are not there. -/
def checkEssentials (category : Text) (names : List Text) : Outcome :=
  let present := names.map normalizeName
  .all (((essentials.lookup category).getD []).map fun essential =>
    .onlyIf (!present.contains (normalizeName essential))
      (.warning "parameters.missing_essential" ("Missing essential parameter: " ++ essential)))

/-- Whether a value of a family type fits what its parameter declares. -/
def checkBinding (d : Design) (typeLabel name : Text) (v : Json) : Outcome :=
  match d.definition? name with
  | none => .clear
  | some p =>
    .attempt NumberFault.message (valueProblem? v p.type) fun problem =>
      match problem with
      | none => .clear
      | some problem =>
        .issue "parameters.invalid_value"
          ("Invalid value for " ++ name ++ " in type " ++ typeLabel ++ ": " ++ problem)

/-- What is wrong with a family type. -/
def checkFamilyType (d : Design) (index : Nat) (t : FamilyType) : Outcome :=
  let label : Text := if t.name.isEmpty then s!"#{index}" else t.name
  .onlyIf (Text.isAllBlank t.name) (.issue "parameters.empty_type_name"
      s!"Family type {index} has empty name")
    ++ .all (t.bindings.map fun (name, v) => checkBinding d label name v)

/-- The check of the pass. -/
def check (d : Design) (_code : Option Text) : Outcome :=
  let names := d.parameters.map (·.name)
  .onlyIf d.parameters.isEmpty (.issue "parameters.none_defined" "No family parameters defined")
    ++ checkEach names [] d.parameters
    ++ .onlyIf (!d.parameters.isEmpty) (checkEssentials d.category names)
    ++ .all (d.types.mapIdx (checkFamilyType d))

end FamilyDesign.Quality.Parameters

namespace FamilyDesign.Quality

/-- The parameters pass. -/
def Pass.parameters : Pass where
  name := "parameters"
  description := "Parameter naming, types, formulas, essentials and family-type values."
  critical := true
  check := Parameters.check

end FamilyDesign.Quality
