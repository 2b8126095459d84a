import FamilyDesign.Design.Wire
import FamilyDesign.Json.Limit

/-!
# Written designs

The wire form of a design, if it can be written: none of its values of no declared kind may exceed a
limit, and the first one that does is the fault. `written_eq_ok_iff` says that this is all that can
go wrong.
-/

namespace FamilyDesign

open Document

/-- The values of no declared kind in an extrusion. -/
def Extrusion.untyped (e : Extrusion) : List Json :=
  e.profile.flatMap (valuesOf ·.extras) ++ valuesOf e.start.extras ++ valuesOf e.stop.extras
    ++ valuesOf e.extras

/-- The values of no declared kind in a reference plane. -/
def ReferencePlane.untyped (p : ReferencePlane) : List Json :=
  valuesOf p.origin.extras ++ valuesOf p.normal.extras ++ valuesOf p.extras

/-- The values of no declared kind in the geometry. -/
def Geometry.untyped (g : Geometry) : List Json :=
  g.extrusions.flatMap (·.untyped) ++ g.referencePlanes.flatMap (·.untyped)
    ++ g.constraints.flatMap (valuesOf ·.extras) ++ g.blends ++ g.sweeps ++ g.revolves
    ++ valuesOf g.extras

/-- The values of no declared kind in a parameter. -/
def Parameter.untyped (p : Parameter) : List Json := p.default :: valuesOf p.extras

/-- The values of no declared kind in a family type. -/
def FamilyType.untyped (t : FamilyType) : List Json := valuesOf t.bindings ++ valuesOf t.extras

/-- The values of no declared kind in the parameters and types. -/
def ParameterSet.untyped (s : ParameterSet) : List Json :=
  s.family.flatMap (·.untyped) ++ s.shared ++ s.types.flatMap (·.untyped) ++ valuesOf s.extras

/-- A parameter under its wire names. -/
def Parameter.written (p : Parameter) : Except Limit Json := Json.within p.untyped p.wire

namespace Design

/-- The values of no declared kind in a design. -/
def untyped (d : Design) : List Json :=
  d.metadata.toList.flatMap (valuesOf ·.extras) ++ d.geometry.toList.flatMap (·.untyped)
    ++ d.parameterSet.toList.flatMap (·.untyped) ++ d.materials.flatMap (valuesOf ·.extras)
    ++ d.nestedFamilies ++ d.visibility.toList.flatMap (valuesOf ·.extras) ++ valuesOf d.extras

/-- The wire form of a design that can be written. -/
def written (d : Design) : Except Limit Json := Json.within d.untyped d.wire

theorem written_eq_ok_iff (d : Design) :
    d.written = .ok d.wire ↔ ∀ v ∈ d.untyped, v.exceeds? Json.mostLevels = none :=
  Json.within_eq_ok_iff d.untyped d.wire

theorem written_eq_of_ok {d : Design} {wire : Json} (h : d.written = .ok wire) :
    d.written = .ok d.wire := by
  unfold written Json.within at h ⊢
  split at h
  · cases h
  · rfl

end Design

end FamilyDesign
