import FamilyDesign.Numeric.Notation
import FamilyDesign.Quality.Pass

/-!
# The performance pass

How much geometry, how many parameters and how much branching a family has, and loops without a
bound in its script.
-/

namespace FamilyDesign.Quality.Performance

-- Sums start from the zero of the core library, whatever algebra is imported beside this module.
attribute [local instance (1100)] Zero.ofOfNat0

/-- The texts that count toward the complexity of a script. -/
def complexityMarks : List Text := ["if ", "for ", "while ", "try:", "except", "def ", "class "]

/-- The texts that tell of a loop without a small fixed bound. -/
def loopMarks : List Text := ["while ", "for i in range(1000)"]

/-- The most complexity that goes without a warning. -/
def maxComplexity : Nat := 50

/-- The most profile points that go without a warning. -/
def maxTotalPoints : Nat := 100

/-- The most parameters that go without a warning. -/
def maxParameters : Nat := 20

/-- The complexity of a script: two for each occurrence of a mark. -/
def complexity (code : Text) : Nat :=
  (complexityMarks.map fun mark => 2 * Text.count code mark).sum

/-- Whether a script has a loop without a bound. -/
def hasUnboundedLoop (code : Text) : Bool :=
  loopMarks.any (Text.contains code)

/-- What the script tells. -/
def checkCode (code : Text) : Outcome :=
  let total := complexity code
  .all [
    .detail "code_complexity" (.int total),
    .detail "lines_of_code" (.int (Text.lineCount code)),
    .onlyIf (maxComplexity < total) (.warning "performance.code_complexity"
      s!"High code complexity detected ({total}); may impact performance"),
    .onlyIf (hasUnboundedLoop code) (.issue "performance.loop_antipattern"
      "Performance anti-pattern detected: unbounded loop")]

/-- What the amount of geometry tells. -/
def checkPoints (d : Design) : Outcome :=
  let total := (d.extrusions.map (·.profile.length)).sum
  .detail "profile_points" (.int total)
    ++ .onlyIf (maxTotalPoints < total) (.warning "performance.profile_points"
      s!"High geometry complexity ({total} profile points); consider optimization")

/-- What the number of parameters tells. -/
def checkParameters (d : Design) : Outcome :=
  let count := d.parameters.length
  .onlyIf (maxParameters < count) (.warning "performance.parameter_count"
    s!"High parameter count ({count}); may impact family performance")

/-- Whether a family of a low level of detail has little geometry. -/
def checkDetail (d : Design) : Outcome :=
  match d.lod with
  | none => .clear
  | some lod =>
    .onlyIf (lod ≤ 200 && 2 < d.extrusions.length) (.warning "performance.lod_geometry"
      ("LOD " ++ Numeric.intText lod
        ++ " family should have minimal geometry for performance"))

/-- The check of the pass. -/
def check (d : Design) (code : Option Text) : Outcome :=
  (match code with
    | some code => checkCode code
    | none => .clear)
    ++ checkPoints d ++ checkParameters d ++ checkDetail d

end FamilyDesign.Quality.Performance

namespace FamilyDesign.Quality

/-- The performance pass. -/
def Pass.performance : Pass where
  name := "performance"
  description := "Profile-point and parameter counts, code complexity, unbounded loops."
  check := Performance.check

end FamilyDesign.Quality
