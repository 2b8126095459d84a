import FamilyDesign.Json.Number
import FamilyDesign.Text.Blank
import FamilyDesign.Text.Case

/-!
# Units of length

Lengths are kept in feet. A unit is recognised by its symbol, its English names and its mark, in
any case, with blanks around it and full stops behind it. A length in an unknown unit is left as it
is, with a warning.
-/

namespace FamilyDesign

/-- A unit of length. -/
inductive LengthUnit
  | foot
  | inch
  | centimetre
  | millimetre
deriving DecidableEq

namespace LengthUnit

/-- The short symbol. -/
def symbol : LengthUnit → Text
  | foot => "ft"
  | inch => "in"
  | centimetre => "cm"
  | millimetre => "mm"

/-- How many of the unit make a foot. -/
def perFoot : LengthUnit → Numeric.Binary64
  | foot => 1
  | inch => 12
  | centimetre => 30.48
  | millimetre => 304.8

/-- All units. -/
def all : List LengthUnit := [foot, inch, centimetre, millimetre]

/-- The names in lower case: the symbol, words, and the mark where there is one. -/
def names : LengthUnit → List Text
  | foot => ["ft", "foot", "feet", "'"]
  | inch => ["in", "inch", "inches", "\""]
  | centimetre => ["cm", "centimeter", "centimeters", "centimetre", "centimetres"]
  | millimetre => ["mm", "millimeter", "millimeters", "millimetre", "millimetres"]

/-- The unit with a given name in lower case. -/
def ofName? (name : Text) : Option LengthUnit := all.find? (·.names.contains name)

/-- The unit that a text names. -/
def parse? (text : Text) : Option LengthUnit :=
  ofName? (Text.ofList
    (Text.dropRightWhile (· == '.') (Text.stripWhile Text.isBlank (Text.lower text).toList)))

end LengthUnit

/-- A converted length with the warnings that the conversion gave rise to. -/
structure Converted where
  value : Json
  warnings : List Text

namespace Length

/-- A length in an unknown unit, left as it is. -/
def unconverted (value : Json) (unit : Text) : Converted :=
  ⟨value, ["Unknown unit '" ++ unit ++ "'; value " ++ value.plain ++ " left unconverted."]⟩

/-- The number that a value to be scaled is. -/
def factor (sign : Text) (value : Json) : Except NumberFault Numeric.Binary64 :=
  match value.number? with
  | some x => x.toReal
  | none => .error (.notScaled sign value)

/-- A length through a factor; feet stay as they are written. -/
def convert (sign : Text) (scale : Numeric.Binary64 → Numeric.Binary64 → Numeric.Binary64)
    (value : Json) (unit : Text) : Except NumberFault Converted :=
  match LengthUnit.parse? unit with
  | none => .ok (unconverted value unit)
  | some .foot => .ok ⟨value, []⟩
  | some u => (factor sign value).map fun x => ⟨.real (scale x u.perFoot), []⟩

/-- A length in a unit, in feet. -/
def toFeet (value : Json) (unit : Text) : Except NumberFault Converted :=
  convert "/" (· / ·) value unit

/-- A length in feet, in a unit. -/
def ofFeet (value : Json) (unit : Text) : Except NumberFault Converted :=
  convert "*" (· * ·) value unit

/-- A real length in a known unit, in feet. -/
def inFeet (x : Numeric.Binary64) : LengthUnit → Numeric.Binary64
  | .foot => x
  | u => x / u.perFoot

theorem toFeet_of_parse {unit : Text} {u : LengthUnit} (h : LengthUnit.parse? unit = some u)
    (x : Numeric.Binary64) : toFeet (.real x) unit = .ok ⟨.real (inFeet x u), []⟩ := by
  cases u <;> simp [toFeet, convert, factor, Json.number?, h, inFeet, Scalar.toReal, Except.map]

end Length

end FamilyDesign
