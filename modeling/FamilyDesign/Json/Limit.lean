import FamilyDesign.Json.Value
import FamilyDesign.Numeric.Numeral
import FamilyDesign.Text.Bytes

/-!
# Limits on texts and values

A text is read only so far: an integer in it has at most so many digits, and its arrays and objects
nest only so deep. A value of no declared kind is written only if it has at most so many levels and
the keys in it have bytes in UTF-8. Whatever exceeds a limit is refused as a whole, and of several
limits the first one that is met is named. `within_eq_ok_iff` says when nothing is refused.
-/

namespace FamilyDesign

/-- What exceeds a limit: an integer of so many digits in a text, the arrays or the objects nested
in a text, the levels of a value that is written, or a key in it that has no bytes. -/
inductive Limit
  | digitsRead (count : Nat)
  | arraysRead
  | objectsRead
  | levelsWritten
  | keyWritten (fault : Text.EncodingFault)
deriving DecidableEq

namespace Limit

/-- What integers beyond the limit are refused with, and `detail` about them. -/
def digitsMessage (detail : Text) : Text :=
  "Exceeds the limit (" ++ Numeric.intText Numeric.longestInteger
    ++ " digits) for integer string conversion" ++ detail
    ++ "; use sys.set_int_max_str_digits() to increase the limit"

/-- The wording of an exceeded limit. -/
def message : Limit → Text
  | digitsRead count => digitsMessage (": value has " ++ Numeric.intText count ++ " digits")
  | arraysRead =>
    "maximum recursion depth exceeded while decoding a JSON array from a unicode string"
  | objectsRead =>
    "maximum recursion depth exceeded while decoding a JSON object from a unicode string"
  | levelsWritten => "Maximum serialization depth exceeded"
  | keyWritten fault => fault.message

/-- Whether the limit is the one on the nesting of a text. -/
def isNesting : Limit → Bool
  | arraysRead | objectsRead => true
  | _ => false

end Limit

/-- The values of fields. -/
def valuesOf (fields : Fields) : List Json := fields.map (·.2)

namespace Json

/-- How deep the arrays and objects of a text may nest. -/
def deepestNesting : Nat := 980

/-- How many levels a value of no declared kind may have. -/
def mostLevels : Nat := 255

mutual

/-- How many levels a value has: an array or an object has one more than its deepest part. -/
def levels : Json → Nat
  | array items => levelsOfItems items + 1
  | object fields => levelsOfFields fields + 1
  | _ => 1

/-- The levels of the deepest item. -/
def levelsOfItems : List Json → Nat
  | [] => 0
  | v :: rest => max (levels v) (levelsOfItems rest)

/-- The levels of the deepest field. -/
def levelsOfFields : Fields → Nat
  | [] => 0
  | (_, v) :: rest => max (levels v) (levelsOfFields rest)

end

/-- The limit that a key exceeds, if it has no bytes. -/
def keyExceeds? (key : Text) : Option Limit :=
  match key.utf8 with
  | .ok _ => none
  | .error fault => some (.keyWritten fault)

mutual

/-- The first limit that is met when a value of no declared kind is written where so many levels are
left: an array or an object comes ahead of what is in it, and a key ahead of its value. -/
def exceeds? : Json → Nat → Option Limit
  | _, 0 => some .levelsWritten
  | array items, room + 1 => itemsExceed? items room
  | object fields, room + 1 => fieldsExceed? fields room
  | _, _ + 1 => none

/-- The first limit that is met in the items. -/
def itemsExceed? : List Json → Nat → Option Limit
  | [], _ => none
  | v :: rest, room => (exceeds? v room).or (itemsExceed? rest room)

/-- The first limit that is met in the fields. -/
def fieldsExceed? : Fields → Nat → Option Limit
  | [], _ => none
  | (key, v) :: rest, room =>
    (keyExceeds? key).or ((exceeds? v room).or (fieldsExceed? rest room))

end

/-- What is written of `values`, unless one of them exceeds a limit. -/
def within {α : Type} (values : List Json) (written : α) : Except Limit α :=
  match values.findSome? (·.exceeds? mostLevels) with
  | some limit => .error limit
  | none => .ok written

theorem within_eq_ok_iff {α : Type} (values : List Json) (written : α) :
    within values written = .ok written ↔ ∀ v ∈ values, v.exceeds? mostLevels = none := by
  rw [← List.findSome?_eq_none_iff]
  unfold within
  cases values.findSome? (·.exceeds? mostLevels) <;> simp

theorem within_eq_error_iff {α : Type} (values : List Json) (written : α) (limit : Limit) :
    within values written = .error limit ↔
      values.findSome? (·.exceeds? mostLevels) = some limit := by
  unfold within
  cases values.findSome? (·.exceeds? mostLevels) <;> simp

end Json

end FamilyDesign
