import FamilyDesign.Script.Declaration
import FamilyDesign.Script.Role
import Mathlib.Data.List.Forall2

/-!
# Designs alike but for their texts

Two designs are alike if one is the other with different texts in it: names, descriptions,
formulas, materials and text values. Category, types and groups of parameters, numbers and truth
values agree, and so does which texts are there at all. A value of a family type is bound under the
type that its name declares, and this type agrees too. What no script reads is left open.

* **`Design.Alike`** — the relation, with one per part of a design under it.
-/

namespace FamilyDesign

/-- Texts of which both are empty, or neither is. -/
def Text.Alike (s t : Text) : Prop := s.isEmpty = t.isEmpty

instance (s t : Text) : Decidable (s.Alike t) := inferInstanceAs (Decidable (_ = _))

mutual

/-- Values that differ in what their texts hold only. -/
def Json.Alike : Json → Json → Prop
  | .null, .null => True
  | .bool a, .bool b => a = b
  | .int a, .int b => a = b
  | .real x, .real y => x = y
  | .text s, .text t => s.Alike t
  | .array xs, .array ys => Json.ItemsAlike xs ys
  | .object xs, .object ys => Json.FieldsAlike xs ys
  | _, _ => False

/-- Items that are alike one by one. -/
def Json.ItemsAlike : List Json → List Json → Prop
  | [], [] => True
  | x :: xs, y :: ys => Json.Alike x y ∧ Json.ItemsAlike xs ys
  | _, _ => False

/-- Fields that are alike one by one, in their keys too. -/
def Json.FieldsAlike : Fields → Fields → Prop
  | [], [] => True
  | (k, v) :: xs, (l, w) :: ys => k.Alike l ∧ Json.Alike v w ∧ Json.FieldsAlike xs ys
  | _, _ => False

end

/-- The place of a point of a profile. -/
def Point2.place (p : Point2) : Numeric.Binary64 × Numeric.Binary64 := (p.x, p.y)

/-- The place of a point in space. -/
def Point3.place (p : Point3) : Numeric.Binary64 × Numeric.Binary64 × Numeric.Binary64 :=
  (p.x, p.y, p.z)

/-- Metadata of one category and level of detail. -/
structure Metadata.Alike (m m' : Metadata) : Prop where
  familyName : m.familyName.Alike m'.familyName
  category : m.category = m'.category
  description : m.description.Alike m'.description
  lod : m.lod = m'.lod

/-- Extrusions of one shape. -/
structure Extrusion.Alike (e e' : Extrusion) : Prop where
  name : e.name.Alike e'.name
  profile : e.profile.map Point2.place = e'.profile.map Point2.place
  start : e.start.place = e'.start.place
  stop : e.stop.place = e'.stop.place
  material : Option.Rel Text.Alike e.material e'.material
  isSolid : e.isSolid = e'.isSolid

/-- Reference planes in one place. -/
structure ReferencePlane.Alike (p p' : ReferencePlane) : Prop where
  name : p.name.Alike p'.name
  origin : p.origin.place = p'.origin.place
  normal : p.normal.place = p'.normal.place

/-- Constraints with one offset. -/
structure Constraint.Alike (c c' : Constraint) : Prop where
  first : Option.Rel Text.Alike c.first c'.first
  second : Option.Rel Text.Alike c.second c'.second
  kind : c.kind.Alike c'.kind
  offset : c.offset = c'.offset

/-- Parameters of one type and group. -/
structure Parameter.Alike (p p' : Parameter) : Prop where
  name : p.name.Alike p'.name
  type : p.type = p'.type
  group : p.group = p'.group
  isInstance : p.isInstance = p'.isInstance
  default : p.default.Alike p'.default
  formula : Option.Rel Text.Alike p.formula p'.formula

/-- Materials with the same texts present. -/
structure MaterialSlot.Alike (m m' : MaterialSlot) : Prop where
  name : m.name.Alike m'.name
  parameterName : Option.Rel Text.Alike m.parameterName m'.parameterName
  default : Option.Rel Text.Alike m.default m'.default

/-- Values bound under one type in two designs. -/
structure Script.BindingsAlike (d d' : Design) (b b' : Text × Json) : Prop where
  name : b.1.Alike b'.1
  value : b.2.Alike b'.2
  type : boundTypeOf d b.1 = boundTypeOf d' b'.1

/-- Family types that bind their values under the same types. -/
structure Script.TypesAlike (d d' : Design) (t t' : FamilyType) : Prop where
  name : t.name.Alike t'.name
  bindings : List.Forall₂ (BindingsAlike d d') t.bindings t'.bindings

/-- Designs of which one is the other with different texts in it. -/
structure Design.Alike (d d' : Design) : Prop where
  metadata : Option.Rel Metadata.Alike d.metadata d'.metadata
  extrusions : List.Forall₂ Extrusion.Alike d.extrusions d'.extrusions
  referencePlanes : List.Forall₂ ReferencePlane.Alike d.referencePlanes d'.referencePlanes
  constraints : List.Forall₂ Constraint.Alike d.constraints d'.constraints
  parameters : List.Forall₂ Parameter.Alike d.parameters d'.parameters
  types : List.Forall₂ (Script.TypesAlike d d') d.types d'.types
  materials : List.Forall₂ MaterialSlot.Alike d.materials d'.materials
  coarse : List.Forall₂ Text.Alike (d.visibility.getD {}).coarse (d'.visibility.getD {}).coarse
  medium : List.Forall₂ Text.Alike (d.visibility.getD {}).medium (d'.visibility.getD {}).medium
  fine : List.Forall₂ Text.Alike (d.visibility.getD {}).fine (d'.visibility.getD {}).fine

/-! ## What likeness says of what is there -/

/-- Values alike are present or absent together. -/
theorem Json.Alike.isSome_present? {v w : Json} (h : v.Alike w) :
    v.present?.isSome = w.present?.isSome := by
  -- only one that is absent is no value, and then the other is absent too
  cases v with
  | null =>
    cases w with
    | null => rfl
    | _ => exact h.elim
  | _ =>
    cases w with
    | null => exact h.elim
    | _ => rfl

/-- An optional text is there and not empty in both, or in neither. -/
theorem isSome_nonempty?_of_alike {s t : Option Text} (h : Option.Rel Text.Alike s t) :
    (nonempty? s).isSome = (nonempty? t).isSome := by
  cases h with
  | none => rfl
  | @some a b h =>
    have h : a.isEmpty = b.isEmpty := h
    simp only [nonempty?, Option.filter, h]
    split <;> rfl

/-- Designs alike have one category. -/
theorem Design.Alike.category {d d' : Design} (h : d.Alike d') : d.category = d'.category := by
  have hm := h.metadata
  unfold Design.category
  generalize d.metadata = m at hm ⊢
  generalize d'.metadata = m' at hm ⊢
  cases hm with
  | none => rfl
  | some hm => exact hm.category

/-- Extrusions of one shape have the same roles. Induction on the extrusions, for any role taken
before. -/
theorem Role.assign_of_alike {es es' : List Extrusion} (h : List.Forall₂ Extrusion.Alike es es')
    (taken : Bool) : Role.assign taken es = Role.assign taken es' := by
  induction h generalizing taken with
  | nil => rfl
  | cons hfirst _ ih =>
    unfold Role.assign
    rw [hfirst.isSolid]
    split
    · rw [ih]
    · rw [ih]

theorem Design.Alike.roles {d d' : Design} (h : d.Alike d') : d.roles = d'.roles :=
  Role.assign_of_alike h.extrusions false

end FamilyDesign
