import FamilyDesign.Brief.Reading
import FamilyDesign.Design.Basic
import FamilyDesign.Json.Number

/-!
# Refining a design

Reading a brief back from a design, and changing a design by what a text says. Only the parameters
that carry a mentioned dimension or a changed material are touched, with the values that types bind
to them; everything else stays.
-/

namespace FamilyDesign

open Numeric (Binary64)

/-- The fragment that the name of a dimension's parameter contains. -/
def Dimension.fragment : Dimension → Text
  | width => "width"
  | height => "height"
  | sillHeight => "sill"
  | inset => "inset"

/-- Whether a parameter's name speaks of the dimension. The height of a sill is not the height. -/
def Dimension.names (d : Dimension) (parameterName : Text) : Bool :=
  let name := Text.lower parameterName
  Text.contains name d.fragment && !(d == .height && Text.contains name "sill")

/-- Whether a value is a number, or a numeral, but no truth value. -/
def Json.isNumeric (v : Json) : Except NumberFault Bool :=
  v.properReal?.map (·.isSome)

/-- Whether a parameter carries the dimension: it speaks of it, has no formula and its default is a
number. -/
def Dimension.carriedBy (d : Dimension) (p : Parameter) : Except NumberFault Bool :=
  if d.names p.name && p.formula?.isNone then p.default.isNumeric else .ok false

/-- The first item that passes a test that may fail. -/
def firstPassing? {α ε : Type} (test : α → Except ε Bool) : List α → Except ε (Option α)
  | [] => .ok none
  | x :: rest => do
    if ← test x then .ok (some x) else firstPassing? test rest

namespace Design

/-- The first parameter that carries a dimension. -/
def dimensionParameter? (design : Design) (d : Dimension) : Except NumberFault (Option Parameter) :=
  firstPassing? d.carriedBy design.parameters

end Design

namespace Brief

/-- The brief with a dimension as a design has it. -/
def readDimension (design : Design) (b : Brief) (d : Dimension) : Except NumberFault Brief := do
  match ← design.dimensionParameter? d with
  | some p => .ok (b.withDimension d (← p.default.toReal))
  | none => .ok b

/-- The material text of a parameter of a design. -/
def materialOf (design : Design) (parameterName otherwise : Text) : Text :=
  ((design.parameter? parameterName).bind (·.default.text?)).getD otherwise

/-- The brief that a design stands for; where the design is silent, the defaults. -/
def ofDesign (design : Design) : Except NumberFault Brief := do
  let b ← Dimension.all.foldlM (readDimension design) {}
  .ok { b with
    glass := materialOf design "GlassPaneMaterial" b.glass
    sash := materialOf design "SashMaterial" b.sash
    category := if design.category.isEmpty then b.category else design.category
    windowStyle := windowStyleOf (design.familyName ++ " " ++ design.category) }

end Brief

/-- A material change: the fragment that marks its parameters and slots, and the new material. -/
structure MaterialChange where
  fragment : Text
  material : Text

namespace MaterialChange

/-- Whether a parameter holds the changed material. -/
def coversParameter (c : MaterialChange) (p : Parameter) : Bool :=
  p.type == "Material" && Text.contains (Text.lower p.name) c.fragment

/-- A material slot after the change. -/
def onSlot (c : MaterialChange) (m : MaterialSlot) : MaterialSlot :=
  if Text.contains m.label c.fragment then
    { m with name := c.material, default := some c.material }
  else m

end MaterialChange

namespace Reading

/-- The materials that a reading changes against the brief before. -/
def materialChanges (r : Reading) (base : Brief) : List MaterialChange :=
  (if r.brief.glass = base.glass then [] else [⟨"glass", r.brief.glass⟩])
    ++ (if r.brief.sash = base.sash then [] else [⟨"sash", r.brief.sash⟩])

/-- New values for the parameters that carry the matched dimensions. -/
def dimensionUpdates (r : Reading) (design : Design) : Except NumberFault Fields :=
  r.matched.foldlM
    (fun updates (d, _) => do
      match ← design.dimensionParameter? d with
      | some p => .ok (Entries.put updates p.name (.real (r.brief.dimension d)))
      | none => .ok updates)
    []

/-- New values for the parameters that hold a changed material. -/
def materialUpdates (changes : List MaterialChange) (design : Design) (updates : Fields) : Fields :=
  changes.foldl
    (fun updates c =>
      (design.parameters.filter c.coversParameter).foldl
        (fun updates p => Entries.put updates p.name (.text c.material)) updates)
    updates

end Reading

/-- A parameter with its new default, if its name has one. -/
def Parameter.update (updates : Fields) (p : Parameter) : Parameter :=
  match updates.lookup p.name with
  | some v => { p with default := v }
  | none => p

/-- A family type with the new values of the parameters that it binds. -/
def FamilyType.update (updates : Fields) (t : FamilyType) : FamilyType :=
  { t with bindings := t.bindings.map fun (name, v) => (name, (updates.lookup name).getD v) }

namespace Design

/-- The design with what a text says about it. -/
def refine (design : Design) (r : Reading) : Except NumberFault Design := do
  let dimensions ← r.dimensionUpdates design
  let base ← Brief.ofDesign design
  let changes := r.materialChanges base
  let updates := Reading.materialUpdates changes design dimensions
  let slots := changes.foldl (fun slots c => slots.map c.onSlot) design.materials
  .ok ((({ design with materials := slots } : Design).mapParameters
    (·.update updates)).mapTypes (·.update updates))

end Design

end FamilyDesign
