import FamilyDesign.Design.Basic

/-!
# Roles of extrusions

The first solid extrusion of a family is its primary one and the other solids are details; what is
not solid is a void. In a script every line that builds an extrusion starts with its role, so that
details and voids can be taken out by name.
-/

namespace FamilyDesign

/-- The role of an extrusion. -/
inductive Role
  | detail
  | primary
  | void
deriving DecidableEq

namespace Role

/-- The word for a role, with which its variables start. -/
def word : Role → Text
  | detail => "detail"
  | primary => "extrusion"
  | void => "void"

/-- All roles, in the order of their words. -/
def all : List Role := [detail, primary, void]

/-- The roles of extrusions, where `taken` tells whether a solid one came before. -/
def assign : Bool → List Extrusion → List Role
  | _, [] => []
  | taken, e :: rest =>
    if e.isSolid then (if taken then detail else primary) :: assign true rest
    else void :: assign taken rest

theorem length_assign (taken : Bool) (es : List Extrusion) :
    (assign taken es).length = es.length := by
  induction es generalizing taken with
  | nil => rfl
  | cons e rest ih =>
    unfold assign
    split
    · simp [ih]
    · simp [ih]

end Role

/-- The roles of the extrusions of a design. -/
def Design.roles (d : Design) : List Role := Role.assign false d.extrusions

end FamilyDesign
