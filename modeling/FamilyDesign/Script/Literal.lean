import FamilyDesign.Design.ValueType
import FamilyDesign.Json.Writer

/-!
# Literals of a script

Texts and values as they stand in a script. A text is a double quoted literal in ASCII on one line,
whatever it holds; a value is written as its declared type asks, and where it cannot be, as a text.
-/

namespace FamilyDesign.Script

open Numeric (Binary64)

/-- A text literal. -/
def quote (s : Text) : Text := Text.jsonQuote s

/-- The literal of a text that may be absent. -/
def quoteOptional (s : Option Text) : Text := quote (s.getD "")

/-- The text literal of any value; an absent one is the empty text. -/
def quoteValue : Json → Text
  | .null => quote ""
  | v => quote v.plain

/-- A number literal: a truth value is 1 or 0, an integer stays one with all its digits, anything
else is read as a real. -/
def number : Json → Except NumberFault Text
  | .bool b => .ok (if b then "1" else "0")
  | .int n => .ok (Numeric.intText n)
  | v => v.toReal.map (·.natural)

/-- A literal where one could be computed; a value that is no number is written as a text, and a
number out of range is a fault. -/
def orQuote (v : Json) : Except NumberFault Text → Except NumberFault Text
  | .error fault => if fault.isRange then .error fault else .ok (quoteValue v)
  | written => written

/-- The literal of a truth value. -/
def truthLiteral (b : Bool) : Text := if b then "True" else "False"

/-- Whether a value stands for truth: a text by its word, anything else unless it is zero or
empty. -/
def meansTrue : Json → Bool
  | .text s => ValueType.word s = "1" || ValueType.trueWords.contains (ValueType.word s)
  | v => v.isTrue

/-- The literal of a value of a type. -/
def literal (t : ValueType) (v : Json) : Except NumberFault Text :=
  match t with
  | .length | .number => orQuote v (number v)
  | .integer => orQuote v (do .ok (Numeric.intText (← Json.integerPart (← v.toReal))))
  | .yesNo => .ok (truthLiteral (meansTrue v))
  | .text | .material => .ok (quoteValue v)

/-- The literal of a value of the type of a name; under an unknown type it is a text. -/
def formatValue (v : Json) (typeName : Text) : Except NumberFault Text :=
  literal ((ValueType.ofName? typeName).getD .text) v

/-- A point in space, its coordinates written already. -/
def pointOf (x y z : Text) : Text :=
  "XYZ(" ++ x ++ ", " ++ y ++ ", " ++ z ++ ")"

/-- A point in space of any values. -/
def pointOfValues (x y z : Json) : Except NumberFault Text := do
  .ok (pointOf (← number x) (← number y) (← number z))

/-- A point in space of real coordinates. -/
def point (x y z : Binary64) : Text :=
  pointOf x.natural y.natural z.natural

/-- A point of the ground plane. -/
def groundPoint (x y : Binary64) : Text :=
  pointOf x.natural y.natural "0"

/-- An empty line. -/
def blankLine : Text := ""

/-- The lines that open a section of a script and the table that it fills. -/
def tableHead (title table : Text) : List Text :=
  ["# " ++ title, table ++ " = \x7b\x7d", blankLine]

/-- Lines one level deeper; an empty line stays empty. -/
def indent (lines : List Text) : List Text :=
  lines.map fun line => if line.isEmpty then "" else "    " ++ line

/-- What does not depend on the indentation of a line is the same of indented lines. -/
theorem map_indent {α : Type} {f : Text → α} (h : ∀ line : Text, f ("    " ++ line) = f line)
    (lines : List Text) : (indent lines).map f = lines.map f := by
  unfold indent
  rw [List.map_map]
  refine List.map_congr_left fun line _ => ?_
  show f (if line.isEmpty then "" else "    " ++ line) = f line
  split
  · next hempty => exact congrArg (f <| Text.ofList ·) (List.isEmpty_iff.mp hempty).symm
  · exact h line

end FamilyDesign.Script
