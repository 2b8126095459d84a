import FamilyDesign.Brief.Building
import FamilyDesign.Brief.Refining
import FamilyDesign.Design.Wire

/-!
# Making and revising designs without an assistant

A text alone makes a design from what is read in it. A design that is just what its own brief makes
is made anew from the revised brief; any other is kept but for what the text mentions.
-/

namespace FamilyDesign

/-- Reads a text on top of a brief if there is one; a reader may fail, with a message. -/
abbrev Reader := Text → Option Brief → Except Text Reading

/-- The reader that never fails. -/
def Reader.standard : Reader := fun text base => .ok (Reading.ofText text base)

/-- Why a design is not revised. -/
inductive RevisionFault
  | unreadable (message : Text)
  | number (fault : NumberFault)

/-- The wording of a revision fault. -/
def RevisionFault.message : RevisionFault → Text
  | unreadable message => message
  | number fault => fault.message

namespace Design

/-- Whether a design is just what its brief makes. -/
def isMadeFrom (d : Design) (b : Brief) : Bool := b.toDesign.newlySame d

/-- The design with what was read, on top of its brief. -/
def withReading (d : Design) (base : Brief) (r : Reading) : Except NumberFault Design :=
  if d.isMadeFrom base then .ok r.brief.toDesign else d.refine r

/-- What is said of a text that no dimension was found in. -/
def noDimensionWarning : Text := "No dimensions recognised in feedback; dimensions unchanged."

/-- The warnings of a revision. -/
def revisionWarnings (r : Reading) : List Text :=
  r.warnings ++ if r.matched.isEmpty then [noDimensionWarning] else []

/-- The design with what a text says, and warnings. -/
def revise (read : Reader) (d : Design) (feedback : Text) :
    Except RevisionFault (Design × List Text) := do
  let base ← (Brief.ofDesign d).mapError .number
  let r ← (read feedback (some base)).mapError .unreadable
  let revised ← (d.withReading base r).mapError .number
  .ok (revised, revisionWarnings r)

end Design

end FamilyDesign
