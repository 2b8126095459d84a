import FamilyDesign.Document.Field
import FamilyDesign.Text.Case
import FamilyDesign.Text.Search

/-!
# Briefs

A brief is the handful of values that a text can set without a language model: four lengths in
feet, the category, the window style and two materials.
-/

namespace FamilyDesign

open Numeric (Binary64)

/-- The category of a family that no keyword places. -/
def genericCategory : Text := "Generic"

/-- The style of a window that no keyword places. -/
def doubleHung : Text := "DoubleHungWindow"

/-- The style of a sliding window. -/
def slidingDouble : Text := "SlidingDoubleWindow"

/-- The style of a fixed window. -/
def fixedWindow : Text := "FixedWindow"

/-- The material where none is named. -/
def defaultMaterial : Text := "Default"

/-- The values that a text can set. Lengths are in feet. -/
structure Brief where
  width : Binary64 := 2
  height : Binary64 := 4
  sillHeight : Binary64 := 3
  inset : Binary64 := 0.05
  category : Text := genericCategory
  windowStyle : Text := doubleHung
  glass : Text := defaultMaterial
  sash : Text := defaultMaterial

namespace Brief

open Document

/-- A brief from the fields of an object; fields of other names are ignored. -/
def load (fields : Fields) : Checked Brief :=
  Brief.mk <$> (Name.same "width").load 2 asReal fields
    <*> (Name.same "height").load 4 asReal fields
    <*> (Name.same "sill_height").load 3 asReal fields
    <*> (Name.same "inset").load 0.05 asReal fields
    <*> (Name.same "category").load genericCategory asText fields
    <*> (Name.same "window_style").load doubleHung asText fields
    <*> (Name.same "glass_material").load defaultMaterial asText fields
    <*> (Name.same "sash_material").load defaultMaterial asText fields

/-- The fields of a brief. -/
def write (b : Brief) : Fields :=
  [("width", .real b.width), ("height", .real b.height), ("sill_height", .real b.sillHeight),
    ("inset", .real b.inset), ("category", .text b.category),
    ("window_style", .text b.windowStyle), ("glass_material", .text b.glass),
    ("sash_material", .text b.sash)]

end Brief

/-- Whether a text holds one of the words, whatever the case. -/
def mentions (text : Text) (words : List Text) : Bool :=
  words.any (Text.contains (Text.lower text))

/-- The window style that a text, a family name or a category suggests. -/
def windowStyleOf (text : Text) : Text :=
  if mentions text ["sliding"] then slidingDouble
  else if mentions text ["fixed"] then fixedWindow
  else doubleHung

/-- The category that a text suggests: doors come before windows, windows before furniture. -/
def categoryOf (text : Text) : Text :=
  if mentions text ["door"] then "Doors"
  else if mentions text ["window"] then "Windows"
  else if mentions text ["furniture"] then "Furniture"
  else genericCategory

/-- The glass that a text names. -/
def glassOf? (text : Text) : Option Text :=
  if mentions text ["glass"] then some "Glass" else none

/-- The sash material that a text names. Wood wins over metal. -/
def sashOf? (text : Text) : Option Text :=
  if mentions text ["wood", "timber"] then some "Wood"
  else if mentions text ["metal", "steel", "aluminum"] then some "Metal"
  else none

end FamilyDesign
