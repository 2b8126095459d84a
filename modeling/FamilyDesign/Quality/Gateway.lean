import FamilyDesign.Design.Structure
import FamilyDesign.Quality.Compliance
import FamilyDesign.Quality.Flexing
import FamilyDesign.Quality.Geometry
import FamilyDesign.Quality.Identity
import FamilyDesign.Quality.Parameters
import FamilyDesign.Quality.Performance
import FamilyDesign.Quality.Report

/-!
# The quality gateway

Runs every registered pass on a design and its script and puts the verdicts together. A design is
ready if its critical passes record no issue; the others only advise.
-/

namespace FamilyDesign.Quality

/-- The passes that are there from the start, in order. -/
def standardPasses : List Pass :=
  [.geometry, .parameters, .performance, .compliance Compliance.standardChecks, .flexing, .metadata]

/-- Passes and what their findings cost. -/
structure Gateway where
  deductions : Deductions := .standard
  passes : List Pass := standardPasses

namespace Gateway

/-- The gateway with another pass at the end, in place of those of its name. -/
def addPass (g : Gateway) (p : Pass) : Gateway :=
  { g with passes := g.passes.filter (·.name != p.name) ++ [p] }

/-- The verdicts of the passes, under their names. -/
def verdicts (g : Gateway) (d : Design) (code : Option Text) : Entries Verdict :=
  byName (g.passes.map (·.run g.deductions d code))

/-- The report on a design and its script at a moment. -/
def validate (g : Gateway) (d : Design) (code : Option Text) (now : Instant) :
    Except NumberFault Report := do
  let verdicts := g.verdicts d code
  let score ← meanScore (verdicts.map (·.2.score))
  .ok {
    familyName := d.familyName
    category := d.category
    lod := d.lod
    verdicts
    ready := areReady verdicts
    score
    recommendations := verdicts.flatMap fun (name, v) => recommendations name v
    timestamp := now }

end Gateway

end FamilyDesign.Quality
