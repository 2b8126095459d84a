import FamilyDesign.Quality.Pass

/-!
# Suggestions

What to do about a finding. Each pass has a list of fragments, of which the first that occurs in the
finding, whatever the case, gives the advice; where none occurs, the pass has general advice.
-/

namespace FamilyDesign.Quality

/-- The fragments of findings that call for advice, by pass. -/
def advice : List (Text × List (Text × Text)) := [
  ("geometry", [
    ("no extrusions", "Add at least one extrusion describing the main body"),
    ("invalid profile", "Ensure extrusion profiles have at least 3 points forming a closed loop"),
    ("height", "Give every extrusion distinct start and end Z coordinates"),
    ("normal", "Use unit-length normal vectors for reference planes"),
    ("constraint", "Reference existing extrusions or reference planes in constraints"),
    ("high complexity", "Reduce the number of profile points per extrusion"),
    ("complex geometry",
      "For LOD 200 families, use simple symbolic geometry instead of detailed 3D models"),
    ("more detailed",
      "Add secondary geometry (frames, panels, hardware) for high-LOD families")]),
  ("parameters", [
    ("no family parameters", "Define at least the driving dimensions as family parameters"),
    ("duplicate", "Give every family parameter a unique name"),
    ("name format", "Use alphanumeric names starting with a letter, avoid special characters"),
    ("invalid parameter type", "Use one of Length, Number, Text, Material, YesNo or Integer"),
    ("formula", "Reference only defined parameters and use arithmetic or comparison operators"),
    ("empty name", "Name every family type"),
    ("invalid value", "Match family type values to the declared parameter type"),
    ("essential", "Add the parameters expected for this category")]),
  ("performance", [
    ("anti-pattern", "Avoid unbounded loops in generated code"),
    ("code complexity", "Simplify the generated script or split the family"),
    ("geometry complexity", "Consider simplifying geometry or reducing profile points"),
    ("parameter count",
      "Consider simplifying geometry or reducing parameter count for better performance"),
    ("minimal geometry", "Keep LOD 200 families to two extrusions or fewer")]),
  ("flexing", [
    ("scenario failed", "Check formulas that depend on flexed parameters"),
    ("constraint", "Give every constraint two element references")]),
  ("metadata", [
    ("missing required", "Provide familyName, category and lodLevel"),
    ("lod", "Use standard LOD levels: 100, 200, 300, 400, or 500"),
    ("non-standard category", "Use a standard category such as Doors, Windows or Furniture"),
    ("description", "Add a short family description")])]

/-- The general advice of a pass. -/
def generalAdvice : List (Text × Text) := [
  ("geometry", "Review the geometry definition"),
  ("parameters", "Review the parameter definitions"),
  ("performance", "Review the family for performance"),
  ("compliance", "Review compliance requirements"),
  ("flexing", "Flex the family across its parameter range"),
  ("metadata", "Complete the family metadata")]

/-- What to do about a finding of a pass. -/
def suggest (passName finding : Text) : Text :=
  let lowered := Text.lower finding
  match ((advice.lookup passName).getD []).find? fun (part, _) => Text.contains lowered part with
  | some (_, suggestion) => suggestion
  | none =>
    (generalAdvice.lookup passName).getD ("Review the " ++ passName ++ " findings")

/-- How urgent a recommendation is. -/
inductive Priority
  | high
  | medium
deriving DecidableEq

/-- The word for a priority. -/
def Priority.name : Priority → Text
  | high => "high"
  | medium => "medium"

/-- What to do about the issues or the warnings of one pass. -/
structure Recommendation where
  passName : Text
  priority : Priority
  findings : List Text
  suggestions : List Text

/-- A recommendation for findings, if there are any. -/
def recommend? (passName : Text) (priority : Priority) (findings : List Text) :
    Option Recommendation :=
  if findings.isEmpty then none
  else some ⟨passName, priority, findings, Text.distinct (findings.map (suggest passName))⟩

/-- The recommendations for one pass: on its issues, then on its warnings. -/
def recommendations (passName : Text) (v : Verdict) : List Recommendation :=
  (recommend? passName .high v.issues).toList ++ (recommend? passName .medium v.warnings).toList

end FamilyDesign.Quality
