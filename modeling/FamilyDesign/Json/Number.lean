import FamilyDesign.Json.Limit
import FamilyDesign.Json.Writer

/-!
# Numbers in JSON values

Reading a value as a real number or as an integer. Every value that cannot be read so has a named
reason.
-/

namespace FamilyDesign

/-- Why a value is not the number that is asked for. -/
inductive NumberFault
  | notNumeral (s : Text)
  | wrongShape (v : Json)
  | integerTooLarge
  | quotientTooLarge
  | infiniteInteger
  | undefinedInteger
  | integerTooLong
  | notCount (v : Json)
  | notCompared (sign : Text) (left right : Json)
  | notScaled (sign : Text) (v : Json)

namespace Json

/-- The word for the kind of a value in messages. -/
def shapeName : Json → Text
  | null => "NoneType"
  | bool _ => "bool"
  | int _ => "int"
  | real _ => "float"
  | text _ => "str"
  | array _ => "list"
  | object _ => "dict"

/-- Whether a value is a text or a list. -/
def isSequence : Json → Bool
  | text _ | array _ => true
  | _ => false

end Json

/-- The wording of a number fault. -/
def NumberFault.message : NumberFault → Text
  | notNumeral s => "could not convert string to float: " ++ Text.shown s
  | wrongShape v =>
    "float() argument must be a string or a real number, not '" ++ v.shapeName ++ "'"
  | integerTooLarge => "int too large to convert to float"
  | quotientTooLarge => "integer division result too large for a float"
  | infiniteInteger => "cannot convert float infinity to integer"
  | undefinedInteger => "cannot convert float NaN to integer"
  | integerTooLong => Limit.digitsMessage ""
  | notCount v => "'" ++ v.shapeName ++ "' object cannot be interpreted as an integer"
  | notCompared sign left right =>
    "'" ++ sign ++ "' not supported between instances of '" ++ left.shapeName ++ "' and '"
      ++ right.shapeName ++ "'"
  | notScaled sign v =>
    if sign = "*" ∧ v.isSequence then "can't multiply sequence by non-int of type 'float'"
    else "unsupported operand type(s) for " ++ sign ++ ": '" ++ v.shapeName ++ "' and 'float'"

/-- Whether the fault is a number out of range rather than a value that is no number. -/
def NumberFault.isRange : NumberFault → Bool
  | integerTooLarge | quotientTooLarge | infiniteInteger => true
  | _ => false

namespace Json

/-- The real number nearest to an integer, if one is in range. -/
def realOfInt (n : Int) : Except NumberFault Numeric.Binary64 :=
  let x := Numeric.Binary64.ofInt n
  if x.isFinite then .ok x else .error .integerTooLarge

/-- The text of an integer, if it has no more digits than one may have. -/
def textOfInt (n : Int) : Except NumberFault Text :=
  if Numeric.longestInteger < Numeric.digitCount n.natAbs then .error .integerTooLong
  else .ok (Numeric.intText n)

/-- The real number that a value denotes: a number, a truth value or a free numeral. -/
def toReal : Json → Except NumberFault Numeric.Binary64
  | bool b => .ok (if b then 1 else 0)
  | int n => realOfInt n
  | real x => .ok x
  | text s =>
    match Numeric.freeReal? s with
    | some x => .ok x
    | none => .error (.notNumeral s)
  | v => .error (.wrongShape v)

/-- The integer part of a real number. -/
def integerPart (x : Numeric.Binary64) : Except NumberFault Int :=
  if x.isUndefined then .error .undefinedInteger
  else if x.isInfinite then .error .infiniteInteger
  else .ok x.truncate

/-- The integer that a value denotes: a number without its fraction, a truth value or a free
integer numeral. -/
def toInteger : Json → Except NumberFault Int
  | bool b => .ok (if b then 1 else 0)
  | int n => .ok n
  | real x => integerPart x
  | text s =>
    match Numeric.freeInt? s with
    | some n => .ok n
    | none => .error (.notNumeral s)
  | v => .error (.wrongShape v)

/-- The count that a value is: an integer or a truth value. -/
def toCount : Json → Except NumberFault Int
  | bool b => .ok (Scalar.ofTruth b)
  | int n => .ok n
  | v => .error (.notCount v)

/-- The real number of a value that is a number proper: out of range is a fault, anything that is no
number is `none`. -/
def properReal? (v : Json) : Except NumberFault (Option Numeric.Binary64) :=
  match v with
  | bool _ => .ok none
  | _ =>
    match v.toReal with
    | .ok x => .ok (some x)
    | .error fault => if fault.isRange then .error fault else .ok none

end Json

namespace Scalar

/-- The number as a value. -/
def toJson : Scalar → Json
  | int n => .int n
  | real x => .real x
  | truth b => .bool b

/-- The number that a value is, truth values apart. -/
def ofJson? : Json → Option Scalar
  | .int n => some (int n)
  | .real x => some (real x)
  | _ => none

/-- The nearest real. -/
def toReal : Scalar → Except NumberFault Numeric.Binary64
  | int n => Json.realOfInt n
  | real x => .ok x
  | truth b => .ok (if b then 1 else 0)

/-- The text of the number. -/
def shown (x : Scalar) : Text := x.toJson.shown

end Scalar

end FamilyDesign
