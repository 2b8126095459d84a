import FamilyDesign.Design.Loading

/-!
# The wire form of designs

A design as a JSON object under its wire names, every declared field present, with the fields it
does not know behind them. In the wire form proper, the values of no declared kind lose the numbers
that JSON cannot write, and the keys of what a type binds get bytes in UTF-8. Two designs are the
same if their full forms are equal values.
-/

namespace FamilyDesign

open Document

/-- How what has no declared kind is written: a value, and the fields of a dictionary of such
values. -/
structure Untyped where
  value : Json → Json
  dictionary : Fields → Fields

namespace Untyped

/-- All as it is. -/
def asIs : Untyped := ⟨id, id⟩

/-- All as JSON in UTF-8 can write it. -/
def portable : Untyped := ⟨Document.writable, Document.dictionary⟩

end Untyped

/-- Extra fields, their values written by `untyped`. -/
def writeExtras (untyped : Untyped) (extras : Fields) : Fields :=
  extras.map fun (key, v) => (key, untyped.value v)

/-- A list of values through a writer. -/
def writeList {α : Type} (write : α → Json) (items : List α) : Json :=
  .array (items.map write)

/-- A point of a profile. -/
def Point2.write (untyped : Untyped) (p : Point2) : Json :=
  .object ([(xName.wire, .real p.x), (yName.wire, .real p.y)] ++ writeExtras untyped p.extras)

/-- A point in space. -/
def Point3.write (untyped : Untyped) (p : Point3) : Json :=
  .object ([(xName.wire, .real p.x), (yName.wire, .real p.y), (zName.wire, .real p.z)]
    ++ writeExtras untyped p.extras)

/-- The metadata of a family. -/
def Metadata.write (untyped : Untyped) (m : Metadata) : Json :=
  .object ([(familyNameName.wire, .text m.familyName), (categoryName.wire, .text m.category),
    (descriptionName.wire, .text m.description), (lodName.wire, optional .int m.lod),
    (isHostedName.wire, .bool m.isHosted), (hostingTypeName.wire, optional .text m.hostingType)]
    ++ writeExtras untyped m.extras)

/-- An extrusion. -/
def Extrusion.write (untyped : Untyped) (e : Extrusion) : Json :=
  .object ([(nameName.wire, .text e.name),
    (profileName.wire, writeList (Point2.write untyped) e.profile),
    (startName.wire, e.start.write untyped), (stopName.wire, e.stop.write untyped),
    (materialName.wire, optional .text e.material), (isSolidName.wire, .bool e.isSolid)]
    ++ writeExtras untyped e.extras)

/-- A reference plane. -/
def ReferencePlane.write (untyped : Untyped) (p : ReferencePlane) : Json :=
  .object ([(nameName.wire, .text p.name), (originName.wire, p.origin.write untyped),
    (normalName.wire, p.normal.write untyped), (lockedName.wire, .bool p.locked)]
    ++ writeExtras untyped p.extras)

/-- A constraint. -/
def Constraint.write (untyped : Untyped) (c : Constraint) : Json :=
  .object ([(firstName.wire, optional .text c.first), (secondName.wire, optional .text c.second),
    (kindName.wire, .text c.kind), (offsetName.wire, .real c.offset)]
    ++ writeExtras untyped c.extras)

/-- The geometry of a family. -/
def Geometry.write (untyped : Untyped) (g : Geometry) : Json :=
  .object ([(extrusionsName.wire, writeList (Extrusion.write untyped) g.extrusions),
    (referencePlanesName.wire, writeList (ReferencePlane.write untyped) g.referencePlanes),
    (constraintsName.wire, writeList (Constraint.write untyped) g.constraints),
    (blendsName.wire, writeList untyped.value g.blends),
    (sweepsName.wire, writeList untyped.value g.sweeps),
    (revolvesName.wire, writeList untyped.value g.revolves)] ++ writeExtras untyped g.extras)

/-- A family parameter. -/
def Parameter.write (untyped : Untyped) (p : Parameter) : Json :=
  .object ([(nameName.wire, .text p.name), (typeName.wire, .text p.type),
    (groupName.wire, optional .text p.group), (isInstanceName.wire, .bool p.isInstance),
    (defaultName.wire, untyped.value p.default), (formulaName.wire, optional .text p.formula)]
    ++ writeExtras untyped p.extras)

/-- A family type. -/
def FamilyType.write (untyped : Untyped) (t : FamilyType) : Json :=
  .object ([(nameName.wire, .text t.name),
    (bindingsName.wire, .object (untyped.dictionary t.bindings))] ++ writeExtras untyped t.extras)

/-- The parameters and types of a family. -/
def ParameterSet.write (untyped : Untyped) (s : ParameterSet) : Json :=
  .object ([(ParameterSet.familyName.wire, writeList (Parameter.write untyped) s.family),
    (sharedName.wire, writeList untyped.value s.shared),
    (typesName.wire, writeList (FamilyType.write untyped) s.types)]
    ++ writeExtras untyped s.extras)

/-- A material. -/
def MaterialSlot.write (untyped : Untyped) (m : MaterialSlot) : Json :=
  .object ([(nameName.wire, .text m.name),
    (parameterNameName.wire, optional .text m.parameterName),
    (defaultName.wire, optional .text m.default), (colorName.wire, optional .text m.color)]
    ++ writeExtras untyped m.extras)

/-- The elements that show at each level of detail. -/
def Visibility.write (untyped : Untyped) (v : Visibility) : Json :=
  .object ([(coarseName.wire, writeList .text v.coarse),
    (mediumName.wire, writeList .text v.medium), (fineName.wire, writeList .text v.fine)]
    ++ writeExtras untyped v.extras)

namespace Design

/-- A design under its wire names. -/
def writeFields (untyped : Untyped) (d : Design) : Fields :=
  [(metadataName.wire, optional (Metadata.write untyped) d.metadata),
    (geometryName.wire, optional (Geometry.write untyped) d.geometry),
    (parametersName.wire, optional (ParameterSet.write untyped) d.parameterSet),
    (materialsName.wire, writeList (MaterialSlot.write untyped) d.materials),
    (nestedFamiliesName.wire, writeList untyped.value d.nestedFamilies),
    (visibilityName.wire, optional (Visibility.write untyped) d.visibility)]
    ++ writeExtras untyped d.extras

/-- The wire form. -/
def wire (d : Design) : Json := .object (d.writeFields .portable)

/-- A design with all its values as they are. -/
def full (d : Design) : Json := .object (d.writeFields .asIs)

/-- Equality of designs in all fields, numbers by value. -/
def same (a b : Design) : Bool := a.full.same b.full

/-- Equality of a design that has just been made with one that was there before. -/
def newlySame (made d : Design) : Bool := made.full.newlySame d.full

end Design

/-- The wire form of a parameter. -/
def Parameter.wire (p : Parameter) : Json := p.write .portable

end FamilyDesign
