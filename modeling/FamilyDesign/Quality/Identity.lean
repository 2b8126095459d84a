import FamilyDesign.Numeric.Notation
import FamilyDesign.Quality.Pass
import FamilyDesign.Text.Blank

/-!
# The metadata pass

A family needs a name, a category and one of the five levels of detail. An unusual category and a
missing description are only warned of.
-/

namespace FamilyDesign.Quality.Identity

/-- The levels of detail. -/
def levels : List Int := [100, 200, 300, 400, 500]

/-- The usual categories. -/
def standardCategories : List Text := [
  "Doors", "Windows", "Furniture", "Structural Framing", "Structural Columns",
  "Mechanical Equipment", "Electrical Equipment", "Plumbing Fixtures"]

/-- A required field that is missing. -/
def checkPresent (name : Text) (present : Bool) : Outcome :=
  .onlyIf (!present) (.issue "metadata.missing_field" ("Missing required metadata field: " ++ name))

/-- Whether a level of detail is one of the five. -/
def checkLod (lod : Option Int) : Outcome :=
  match lod with
  | none => .clear
  | some lod =>
    .onlyIf (!levels.contains lod) (.issue "metadata.invalid_lod"
      ("Invalid LOD level: " ++ Numeric.intText lod ++ " (must be one of "
        ++ Text.joinWith ", " (levels.map (Numeric.intText ·)) ++ ")"))

/-- Whether a category is one of the usual ones. -/
def checkCategory (category : Text) : Outcome :=
  .onlyIf (!category.isEmpty && !standardCategories.contains category)
    (.warning "metadata.nonstandard_category" ("Non-standard category: " ++ category))

/-- Whether there is a description. -/
def checkDescription (description : Text) : Outcome :=
  .onlyIf (Text.isAllBlank description)
    (.warning "metadata.missing_description" "Missing family description")

/-- The check of the pass. -/
def check (d : Design) (_code : Option Text) : Outcome :=
  .all [
    checkPresent "familyName" (!d.familyName.isEmpty),
    checkPresent "category" (!d.category.isEmpty),
    checkPresent "lodLevel" d.lod.isSome,
    checkLod d.lod,
    checkCategory d.category,
    checkDescription ((d.metadata.map (·.description)).getD "")]

end FamilyDesign.Quality.Identity

namespace FamilyDesign.Quality

/-- The metadata pass. -/
def Pass.metadata : Pass where
  name := "metadata"
  description := "familyName, category and LOD present; LOD canonical; category known."
  critical := true
  check := Identity.check

end FamilyDesign.Quality
