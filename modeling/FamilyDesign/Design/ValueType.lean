import FamilyDesign.Json.Number
import FamilyDesign.Text.Blank
import FamilyDesign.Text.Case

/-!
# Types of parameter values

The six types that a parameter may declare, and which values fit them. A value may be out of the
range of real numbers, which is neither: it is a fault.
-/

namespace FamilyDesign

/-- A type of parameter values. -/
inductive ValueType
  | length
  | number
  | text
  | material
  | yesNo
  | integer
deriving DecidableEq

namespace ValueType

/-- The name of a type. -/
def name : ValueType → Text
  | length => "Length"
  | number => "Number"
  | text => "Text"
  | material => "Material"
  | yesNo => "YesNo"
  | integer => "Integer"

/-- All types. -/
def all : List ValueType := [length, number, text, material, yesNo, integer]

/-- The type of a name. -/
def ofName? (s : Text) : Option ValueType :=
  all.find? (·.name == s)

/-- Words for truth. -/
def trueWords : List Text := ["true", "yes"]

/-- Words for falsehood. -/
def falseWords : List Text := ["false", "no"]

/-- A text as a word to look up: without blanks around it, in lower case. -/
def word (s : Text) : Text := Text.lower (Text.strip s)

/-- Whether a value is a truth value, 0, 1 or a word for one. -/
def isTruth (v : Json) : Bool :=
  match v with
  | .text s => (trueWords ++ falseWords).contains (word s)
  | _ =>
    match v.number? with
    | some x => x.same (.int 0) || x.same (.int 1)
    | none => false

/-- The real number that a value spells, if it is a number or a numeral and not undefined. -/
def definedReal? (v : Json) : Except NumberFault (Option Numeric.Binary64) :=
  v.properReal?.map fun x => x.filter (!·.isUndefined)

/-- Whether a value fits a type. -/
def fits (t : ValueType) (v : Json) : Except NumberFault Bool :=
  match t with
  | length | number => (definedReal? v).map (·.isSome)
  | integer => (definedReal? v).map (·.any (·.isIntegral))
  | yesNo => .ok (isTruth v)
  | text | material => .ok v.text?.isSome

/-- What a value that does not fit should have been. -/
def expectation : ValueType → Text
  | length | number => "Value must be numeric"
  | integer => "Value must be an integer"
  | yesNo => "Value must be true or false"
  | text | material => "Value must be a string"

end ValueType

/-- Why a value does not fit the type of a name, if it does not; any value fits an unknown type. -/
def valueProblem? (v : Json) (typeName : Text) : Except NumberFault (Option Text) :=
  match ValueType.ofName? typeName with
  | some t => (t.fits v).map fun fits => if fits then none else some t.expectation
  | none => .ok none

end FamilyDesign
