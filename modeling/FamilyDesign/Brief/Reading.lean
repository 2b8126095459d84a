import FamilyDesign.Brief.Basic
import FamilyDesign.Prompt.Binding

/-!
# Reading a text into a brief

What a text says about a family: the dimensions bound in it, in feet, the category, the materials
and the window style. Where the text is silent, a given brief keeps its values and a fresh one its
defaults.
-/

namespace FamilyDesign

/-- What was read from a text: the resulting values, the phrase for each dimension found, the
dimensions not found, and warnings. -/
structure Reading where
  brief : Brief := {}
  matched : List (Dimension × Text) := []
  defaulted : List Dimension := []
  warnings : List Text := []

namespace Brief

open Numeric (Binary64)

/-- The value of a dimension. -/
def dimension (b : Brief) : Dimension → Binary64
  | .width => b.width
  | .height => b.height
  | .sillHeight => b.sillHeight
  | .inset => b.inset

/-- The brief with another value for a dimension. -/
def withDimension (b : Brief) (d : Dimension) (x : Binary64) : Brief :=
  match d with
  | .width => { b with width := x }
  | .height => { b with height := x }
  | .sillHeight => { b with sillHeight := x }
  | .inset => { b with inset := x }

end Brief

namespace Reading

/-- The length of a quantity in feet, with the warnings of its conversion. -/
def lengthOf (q : Prompt.Quantity) : Numeric.Binary64 × List Text :=
  match Length.toFeet (.real q.value) q.unit with
  | .ok ⟨.real x, warnings⟩ => (x, warnings)
  | _ => (q.value, [])

/-- The reading with a dimension set by its binding. -/
def bound (r : Reading) (d : Dimension) (b : Prompt.Binding) : Reading :=
  let (feet, warnings) := lengthOf b.quantity
  { r with
    brief := r.brief.withDimension d feet
    matched := r.matched ++ [(d, b.label)]
    warnings := r.warnings ++ warnings }

/-- The reading with a dimension left as it was. -/
def unbound (r : Reading) (d : Dimension) : Reading :=
  { r with defaulted := r.defaulted ++ [d] }

/-- The reading with every dimension set or left, in order. -/
def dimensions (bindings : List (Dimension × Prompt.Binding)) (r : Reading) : Reading :=
  Dimension.all.foldl
    (fun r d =>
      match bindings.lookup d with
      | some b => r.bound d b
      | none => r.unbound d) r

/-- The values with the category, materials and style that a text names. `fresh` tells that there
was no brief before, so that the text decides even where it is silent. -/
def words (text : Text) (fresh : Bool) (b : Brief) : Brief :=
  let category := categoryOf text
  { b with
    category := if category ≠ genericCategory ∨ fresh then category else b.category
    glass := (glassOf? text).getD b.glass
    sash := (sashOf? text).getD b.sash
    windowStyle :=
      if fresh || mentions text ["sliding", "fixed", "double"] then windowStyleOf text
      else b.windowStyle }

/-- What a text says, on top of a brief if there is one. -/
def ofText (text : Text) (base : Option Brief) : Reading :=
  let r := dimensions (Prompt.bindings text) { brief := base.getD {} }
  { r with brief := words text base.isNone r.brief }

/-- The matched dimensions, each with its phrase. -/
def writeMatched (r : Reading) : Json :=
  .object (r.matched.map fun (d, label) => (d.name, .text label))

/-- The fields of a reading. -/
def write (r : Reading) : Fields :=
  [("values", .object r.brief.write), ("matched", r.writeMatched),
    ("defaulted", .array (r.defaulted.map fun d => .text d.name)),
    ("warnings", .array (r.warnings.map .text))]

end Reading

end FamilyDesign
