import FamilyDesign.Entries
import FamilyDesign.Numeric.Binary64

/-!
# JSON values

Documents, model replies and backend bodies are JSON. Integers and reals are kept apart, an integer
has any size, and an object keeps its fields in the order in which their keys first appeared.
-/

namespace FamilyDesign

/-- A number as it is written: an integer of any size, a real, or a truth value that stands for 1
or 0. -/
inductive Scalar
  | int (n : Int)
  | real (x : Numeric.Binary64)
  | truth (b : Bool)

namespace Scalar

/-- The integer that a truth value stands for. -/
def ofTruth (b : Bool) : Int := if b then 1 else 0

/-- The number, with an integer in place of a truth value. -/
def proper : Scalar → Scalar
  | truth b => int (ofTruth b)
  | x => x

/-- Equality of numbers proper: an integer equals a real of exactly its value, and an undefined
number equals one of its kind. -/
def sameProper : Scalar → Scalar → Bool
  | int a, int b => a == b
  | int a, real x | real x, int a => x.isFinite && x.value == a * Numeric.Binary64.unitsPerOne
  | real x, real y => x == y || x.eqv y
  | _, _ => false

/-- Equality of numbers. -/
def same (x y : Scalar) : Bool := x.proper.sameProper y.proper

/-- The real number nearest to the number; beyond the range it is infinite. -/
def nearest : Scalar → Numeric.Binary64
  | int n => .ofInt n
  | real x => x
  | truth b => .ofInt (ofTruth b)

/-- Whether the number is an integer or stands for one. -/
def isWhole : Scalar → Bool
  | real _ => false
  | _ => true

/-- The exact place of a number in the order: below, among or above the finite ones, and its value
among those. -/
def place? : Scalar → Option (Int × Int)
  | int n => some (0, n * Numeric.Binary64.unitsPerOne)
  | truth b => some (0, ofTruth b * Numeric.Binary64.unitsPerOne)
  | real x =>
    if x.isUndefined then none
    else if x.isInfinite then some (if x.isNegative then -1 else 1, 0)
    else some (0, x.value)

/-- Whether both are numbers and the first comes before the second: reals by their order, others by
their exact places. -/
def lt : Scalar → Scalar → Bool
  | real x, real y => x.lt y
  | x, y =>
    match x.place?, y.place? with
    | some (a, v), some (b, w) => a < b || (a == b && v < w)
    | _, _ => false

/-- The first number unless the second exceeds it. -/
def larger (x y : Scalar) : Scalar := if x.lt y then y else x

/-- The first number unless the second is below it. -/
def smaller (x y : Scalar) : Scalar := if y.lt x then y else x

/-- The number to so many decimal places; an integer has none to lose. -/
def roundTo (places : Nat) : Scalar → Scalar
  | real x => real (x.roundTo places)
  | x => x.proper

theorem larger_real (x y : Numeric.Binary64) : (real x).larger (real y) = real (x.larger y) := by
  simp only [larger, lt, Numeric.Binary64.larger]
  exact (apply_ite real _ _ _).symm

theorem smaller_real (x y : Numeric.Binary64) :
    (real x).smaller (real y) = real (x.smaller y) := by
  simp only [smaller, lt, Numeric.Binary64.smaller]
  exact (apply_ite real _ _ _).symm

end Scalar

/-- A JSON value. -/
inductive Json
  | null
  | bool (b : Bool)
  | int (n : Int)
  | real (x : Numeric.Binary64)
  | text (s : Text)
  | array (items : List Json)
  | object (fields : List (Text × Json))

/-- The fields of an object, in order. -/
abbrev Fields := Entries Json

instance : Inhabited Json := ⟨.null⟩

namespace Json

/-- A present value: `null` is the absence of one. -/
def present? : Json → Option Json
  | null => none
  | v => some v

theorem present?_eq_none_iff {v : Json} : v.present? = none ↔ v = null := by
  cases v <;> simp [present?]

theorem eq_of_present?_eq_some {v w : Json} (h : v.present? = some w) : v = w := by
  cases v with
  | null => cases h
  | _ => exact Option.some.inj h

/-- The value under a key of an object, unless it is absent or `null`. -/
def field? (v : Json) (key : Text) : Option Json :=
  match v with
  | object fields => (fields.lookup key).bind present?
  | _ => none

/-- The text that a value holds. -/
def text? : Json → Option Text
  | text s => some s
  | _ => none

/-- Whether the value counts as true: not `null`, `false`, zero or empty. -/
def isTrue : Json → Bool
  | null => false
  | bool b => b
  | int n => n != 0
  | real x => !x.eqv 0
  | text s => !s.isEmpty
  | array items => !items.isEmpty
  | object fields => !fields.isEmpty

/-- The number that a value equals, if it equals one. -/
def number? : Json → Option Scalar
  | bool b => some (.truth b)
  | int n => some (.int n)
  | real x => some (.real x)
  | _ => none

mutual

/-- Equality of values: numbers by value, objects as maps. -/
def same : Json → Json → Bool
  | null, null => true
  | text a, text b => a == b
  | array xs, array ys => sameItems xs ys
  | object xs, object ys => xs.length == ys.length && sameFields xs ys
  | a, b =>
    match a.number?, b.number? with
    | some x, some y => x.same y
    | _, _ => false

/-- Equality item by item. -/
def sameItems : List Json → List Json → Bool
  | [], [] => true
  | x :: xs, y :: ys => same x y && sameItems xs ys
  | _, _ => false

/-- Whether each field has an equal one under its key. -/
def sameFields : Fields → Fields → Bool
  | [], _ => true
  | (k, v) :: rest, ys =>
    (match ys.lookup k with
      | some w => same v w
      | none => false) && sameFields rest ys

end

mutual

/-- Whether a value holds an undefined number that is not the shared one. -/
def holdsOwnUndefined : Json → Bool
  | real (.nan shared) => !shared
  | array items => itemsHoldOwnUndefined items
  | object fields => fieldsHoldOwnUndefined fields
  | _ => false

/-- Whether one of the items holds such a number. -/
def itemsHoldOwnUndefined : List Json → Bool
  | [] => false
  | v :: rest => holdsOwnUndefined v || itemsHoldOwnUndefined rest

/-- Whether one of the fields holds such a number. -/
def fieldsHoldOwnUndefined : Fields → Bool
  | [] => false
  | (_, v) :: rest => holdsOwnUndefined v || fieldsHoldOwnUndefined rest

end

/-- Equality of a value that has just been made with one that was there before: an undefined number
of its own equals no number that was there. -/
def newlySame (made v : Json) : Bool := !made.holdsOwnUndefined && made.same v

end Json

end FamilyDesign
